import Ironsoft.EkinoxDialogue

/-!
# Transient states

`STARTING` and `STOPPING` end with the command that enters them, unless the replies that
follow its POST succeed without telling whether the logger records.
-/
namespace Ironsoft.Ekinox
open Effect LoggerModel

set_option synthInstance.maxSize 400000
set_option synthInstance.maxHeartbeats 200000

def Settled (w : World) : Prop := ¬w.status.state.transient

instance (w : World) : Decidable (Settled w) := inferInstanceAs (Decidable (¬_))

theorem settled_iff {w : World} : Settled w ↔ ¬w.desk.view.phase.transient :=
  not_congr (w.status.state.transient_iff)

section Frames

instance (e : Event) : Emits (Preserving Settled) e := ⟨fun _ => id⟩
instance : IgnoresReadings (Preserving Settled) :=
  ⟨fun _ => id, fun _ => id, fun _ => id, fun _ => id, fun _ => id⟩
instance : IgnoresReplies (Preserving Settled) := ⟨fun _ => id⟩
instance : atLink.Ignored (Preserving Settled) := ⟨fun _ _ => id⟩
instance : atError.Ignored (Preserving Settled) := ⟨fun _ _ => id⟩
instance : atMarker.Ignored (Preserving Settled) := ⟨fun _ _ => id⟩
instance : atConn.Ignored (Preserving Settled) := ⟨fun _ _ => id⟩
instance : atRetry.Ignored (Preserving Settled) := ⟨fun _ _ => id⟩
instance : atPresence.Ignored (Preserving Settled) := ⟨fun _ _ => id⟩
instance : atRest.Ignored (Preserving Settled) := ⟨fun _ _ => id⟩
instance : atSensor.Ignored (Preserving Settled) := ⟨fun _ _ => id⟩
instance : atTimers.Ignored (Preserving Settled) := ⟨fun _ _ => id⟩
instance : atPending.Ignored (Preserving Settled) := ⟨fun _ _ => id⟩
instance : atBatch.Ignored (Preserving Settled) := ⟨fun _ _ => id⟩

end Frames

section Operations

variable (env : Env)

theorem setState_settled {state : ServiceState} (h : ¬state.transient) :
    Respects env (Preserving Settled) (setState state) :=
  ⟨fun _ _ => h⟩

instance : Respects env (Preserving Settled) (setState .connecting) :=
  setState_settled env (by decide)

instance : Respects env (Preserving Settled) (setState .disconnected) :=
  setState_settled env (by decide)

instance (nextRestPollMs : ℤ) : Respects env (Preserving Settled) (resetSession nextRestPollMs) :=
  respects_iff_wp.mpr fun _ => by
    simp only [resetSession, setNextRestPoll, wp_bind, Part.wp_update]
    exact id

instance (result : LoggerResult) (contextReason : Bytes) :
    Respects env (Preserving Settled) (storeLoggerState result contextReason) := by
  refine respects_iff_wp.mpr fun w => ?_
  refine wp_mono (storeLoggerState_hears w result contextReason) (fun _ w' hw => ?_)
    fun _ _ => False.elim
  intro hsettled
  rw [settled_iff] at hsettled ⊢
  rw [(dialogue_eq_iff.mp hw).2.2]
  exact fun h => hsettled ((View.hear_transient _ _).mp h).2

/-- The replies to the command, if the payload is one, take it out of its transient state. -/
def CommandSettles (env : Env) (payload : Bytes) (w : World) : Prop :=
  ∀ root, env.parse payload = .ok root →
    (admitParsed root).command.Settles (w.access env.config) (env.result w.taken.rest).reply
      (env.result (w.taken.rest + 1)).posted (env.result (w.taken.rest + 2)).reply
      (env.result (w.taken.rest + 3)).reply

theorem handleCommandMessage_settles_iff (payload : Bytes) {w : World} (hw : Settled w) :
    wp (handleCommandMessage payload) env (fun _ w' => Settled w' ↔ CommandSettles env payload w)
      (fun _ _ => True) w := by
  rw [wp_handleCommandMessage]
  cases hparse : env.parse payload with
  | error e => trivial
  | ok root =>
    refine wp_mono (dispatch_refines env w fun _ => admitParsed_refused) (fun _ w' hdesk => ?_)
      fun _ _ _ => trivial
    rw [settled_iff, hdesk]
    refine (Command.conduct_settles_iff _ _ _ _ _ _ _ (settled_iff.mp hw)).trans ?_
    simp [CommandSettles, hparse]

theorem handleCommandMessage_settles {payload : Bytes} {w : World}
    (hcommand : CommandSettles env payload w) (hw : Settled w) :
    wp (handleCommandMessage payload) env (fun _ => Settled) (fun _ _ => True) w :=
  wp_mono (handleCommandMessage_settles_iff env payload hw) (fun _ _ h => h.mpr hcommand)
    fun _ _ h => h

/-- The command at the front, if the step handles one, settles. -/
def Step.Settles (platform : Platform) (s : Step) (w : World) : Prop :=
  s.op = .handleFront →
    ∀ command ∈ w.batch.head?, CommandSettles ⟨platform, s.inputs⟩ command.payload w

theorem Op.run_settles {op : Op} {w : World}
    (hfront : op = .handleFront →
      ∀ command ∈ w.batch.head?, CommandSettles env command.payload w)
    (hw : Settled w) : Leaves Settled (fun _ => True) (exec op.run env w) := by
  refine Op.run_leaves (fun _ _ => trivial) hw
    (fun hop command hc => handleCommandMessage_settles env (hfront hop command hc) hw) fun hop => ?_
  cases op
  case handleFront => exact absurd rfl hop
  all_goals
    unfold Op.run
    dsimp only
    infer_instance

end Operations

/-- A command that returns has left its transient state exactly if the replies settle it. In
every run whose commands do, the state is never transient between two operations. -/
theorem transient_states_settle (platform : Platform) :
    (∀ (inputs : Inputs) (payload : Bytes) (w w' : World), Settled w →
      exec (handleCommandMessage payload) ⟨platform, inputs⟩ w = (.ok (), w') →
      (Settled w' ↔ CommandSettles ⟨platform, inputs⟩ payload w)) ∧
    ∀ (inputs : Inputs) (steps : List Step) (w : World),
      AllSteps (execStep platform) (Step.Settles platform) steps
        (initialWorld platform.config inputs) →
      execSteps platform steps (initialWorld platform.config inputs) = (.ok (), w) → Settled w := by
  constructor
  · intro inputs payload w w' hw hrun
    have h := handleCommandMessage_settles_iff ⟨platform, inputs⟩ payload hw
    unfold wp at h
    rwa [hrun] at h
  · intro inputs steps w hsteps hrun
    have hinitial : ¬ServiceState.disconnected.transient := by decide
    have h := execAll_leaves (execStep platform) (I := Settled) (J := fun _ => True)
      (fun s v hs hv => Op.run_settles ⟨platform, s.inputs⟩ hs hv) hsteps hinitial
    unfold execSteps at hrun
    rwa [hrun] at h

/-- A logger that records once it has been told to. -/
def benchConfirmed : Inputs := benchInputs fun k => benchFlag (decide (3 ≤ k))

theorem benchConfirmed_settles {w : World} (hrest : w.taken.rest = 1) :
    CommandSettles ⟨benchPlatform, benchConfirmed⟩ (benchPayload (bytes "logger.start")) w := by
  let env : Env := ⟨benchPlatform, benchConfirmed⟩
  have hparse : env.parse (benchPayload (bytes "logger.start")) =
      .ok (some (benchCommand (bytes "logger.start"))) := by rfl
  have hcommand : (admitParsed (some (benchCommand (bytes "logger.start")))).command = .start := by
    decide +kernel
  have hposted : (env.result 2).posted = .accepted := by decide +kernel
  have hverified : (env.result 3).reply.report ≠ .silent := by decide +kernel
  intro root hroot
  obtain rfl := Except.ok.inj (hparse.symm.trans hroot)
  rw [hcommand, hrest]
  intro _
  refine .inr ?_
  rw [hposted]
  exact fun h => hverified h.1

def benchConfirmedSteps : List Step :=
  ⟨.ensureConnection (milliseconds 1000), benchConfirmed⟩ ::
    benchCommandSteps (bytes "logger.start") benchConfirmed

/-- A start that is confirmed ends in `RECORDING`. -/
theorem transient_states_settle_confirmed :
    Settled (exec (handleCommandMessage (benchPayload (bytes "logger.start")))
      ⟨benchPlatform, benchConfirmed⟩ (benchConnected benchConfirmed)).2 ∧
    Settled (execSteps benchPlatform benchConfirmedSteps
      (initialWorld benchPlatform.config benchConfirmed)).2 := by
  constructor
  · refine ((transient_states_settle benchPlatform).1 benchConfirmed _ (benchConnected benchConfirmed) _
      (by decide +kernel) (Prod.ext ?_ rfl)).mpr (benchConfirmed_settles (by decide +kernel))
    decide +kernel
  · refine (transient_states_settle benchPlatform).2 benchConfirmed benchConfirmedSteps _ (.cons _ ?_
      (.cons _ ?_ (.cons _ ?_ (.cons _ ?_ trivial)))) (Prod.ext ?_ rfl)
    · exact nofun
    · exact nofun
    · exact nofun
    · intro _ command hcommand
      obtain rfl := Option.some.inj hcommand
      exact benchConfirmed_settles (by decide +kernel)
    · decide +kernel

/-- Replies without a recording flag leave a start in `STARTING` and a stop in `STOPPING`. -/
theorem transient_states_outlive :
    let w := benchConnected benchHealthy
    let run (type : Bytes) :=
      exec (handleCommandMessage (benchPayload type)) ⟨benchPlatform, benchHealthy⟩ w
    Settled w ∧
      (run (bytes "logger.start")).1 = .ok () ∧ ¬Settled (run (bytes "logger.start")).2 ∧
      (run (bytes "logger.stop")).1 = .ok () ∧ ¬Settled (run (bytes "logger.stop")).2 := by
  decide +kernel

end Ironsoft.Ekinox
