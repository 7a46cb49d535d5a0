import Ironsoft.EkinoxDialogue

/-!
# State and recording flag

The state of a published status and its recording flag tell the same in every run in
which no command meets a POST that is answered with 404 while the flag is up.
-/
namespace Ironsoft.Ekinox
open Effect LoggerModel

set_option synthInstance.maxSize 400000
set_option synthInstance.maxHeartbeats 200000

/-- The state and the recording flag of a status tell the same. -/
structure StatusPayload.Agrees (s : StatusPayload) : Prop where
  recording : s.state = .recording → s.recordingActive = true
  idle : s.state = .idle → s.recordingActive = false

def PublishedAgree (w : World) : Prop :=
  ∀ topic s qos retained, .mqtt (.publish ⟨topic, .status s, qos, retained⟩) false ∈ w.trace →
    s.Agrees

def DeskAgreed (w : World) : Prop := w.desk.Agreed

theorem agrees_iff (s : StatusPayload) : s.Agrees ↔ s.toLoggerStatus.view.Consistent := by
  have hrecording : s.state = .recording ↔ s.state.phase = .recording := by
    cases s.state <;> simp [ServiceState.phase]
  have hidle : s.state = .idle ↔ s.state.phase = .idle := by
    cases s.state <;> simp [ServiceState.phase]
  constructor
  · exact fun h => ⟨fun hp => h.recording (hrecording.mpr hp), fun hp => h.idle (hidle.mpr hp)⟩
  · exact fun h => ⟨fun hs => h.recording (hrecording.mp hs), fun hs => h.idle (hidle.mp hs)⟩

theorem publishedAgree_of_talk {w : World} (h : ∀ v, Talk.published v ∈ w.talk → v.Consistent) :
    PublishedAgree w := by
  intro topic s qos retained hmem
  exact (agrees_iff s).mpr (h _ (List.mem_filterMap.mpr ⟨_, hmem, rfl⟩))

section Frames

theorem emits_deskAgreed {e : Event} (h : ∀ v, e.talk? ≠ some (.published v)) :
    Emits (Preserving DeskAgreed) e := by
  refine ⟨fun w hw => ⟨hw.view, fun v hv => ?_⟩⟩
  change Talk.published v ∈ (w.said e).heard Event.talk? at hv
  rw [World.heard_said, List.mem_append, Option.mem_toList] at hv
  exact hw.published v (hv.resolve_left (h v))

instance : IgnoresReadings (Preserving DeskAgreed) :=
  ⟨fun _ => id, fun _ => id, fun _ => id, fun _ => id, fun _ => id⟩
instance : IgnoresReplies (Preserving DeskAgreed) := ⟨fun _ => id⟩
instance : atLink.Ignored (Preserving DeskAgreed) := ⟨fun _ _ => id⟩
instance : atError.Ignored (Preserving DeskAgreed) := ⟨fun _ _ => id⟩
instance : atMarker.Ignored (Preserving DeskAgreed) := ⟨fun _ _ => id⟩
instance : atConn.Ignored (Preserving DeskAgreed) := ⟨fun _ _ => id⟩
instance : atRetry.Ignored (Preserving DeskAgreed) := ⟨fun _ _ => id⟩
instance : atPresence.Ignored (Preserving DeskAgreed) := ⟨fun _ _ => id⟩
instance : atRest.Ignored (Preserving DeskAgreed) := ⟨fun _ _ => id⟩
instance : atSensor.Ignored (Preserving DeskAgreed) := ⟨fun _ _ => id⟩
instance : atTimers.Ignored (Preserving DeskAgreed) := ⟨fun _ _ => id⟩
instance : atPending.Ignored (Preserving DeskAgreed) := ⟨fun _ _ => id⟩
instance : atBatch.Ignored (Preserving DeskAgreed) := ⟨fun _ _ => id⟩
instance (threw : Bool) : Emits (Preserving DeskAgreed) (.mqtt .connect threw) :=
  emits_deskAgreed nofun
instance (threw : Bool) : Emits (Preserving DeskAgreed) (.mqtt .disconnect threw) :=
  emits_deskAgreed nofun
instance (topic : Bytes) (threw : Bool) :
    Emits (Preserving DeskAgreed) (.mqtt (.subscribe topic) threw) := emits_deskAgreed nofun
instance (topic : Bytes) (p : PresencePayload) (qos : ℕ) (retained threw : Bool) :
    Emits (Preserving DeskAgreed) (.mqtt (.publish ⟨topic, .presence p, qos, retained⟩) threw) :=
  emits_deskAgreed nofun
instance (topic : Bytes) (n m : ℤ) (qos : ℕ) (retained threw : Bool) :
    Emits (Preserving DeskAgreed) (.mqtt (.publish ⟨topic, .heartbeat n m, qos, retained⟩) threw) :=
  emits_deskAgreed nofun
instance (r : RestRequest) : Emits (Preserving DeskAgreed) (.restRequest r) := emits_deskAgreed nofun
instance (r : LoggerResult) (t : ℤ) : Emits (Preserving DeskAgreed) (.restResult r t) :=
  emits_deskAgreed nofun
instance (m : Bytes) : Emits (Preserving DeskAgreed) (.errorSet m) := emits_deskAgreed nofun
instance (e : SbgEvent) : Emits (Preserving DeskAgreed) (.sbg e) := emits_deskAgreed nofun
instance : Emits (Preserving DeskAgreed) .sessionOpened := emits_deskAgreed nofun
instance (t : ℤ) : Emits (Preserving DeskAgreed) (.linkAlive t) := emits_deskAgreed nofun
instance (c : CommandMessage) : Emits (Preserving DeskAgreed) (.commandArrived c) :=
  emits_deskAgreed nofun
instance (c : CommandMessage) : Emits (Preserving DeskAgreed) (.commandHandled c) :=
  emits_deskAgreed nofun

end Frames

section Operations

variable (env : Env)

instance : Respects env (Preserving DeskAgreed) (setState .connecting) :=
  ⟨fun _ hw => hw.setPhase (p := .other) nofun nofun⟩

instance : Respects env (Preserving DeskAgreed) (setState .disconnected) :=
  ⟨fun _ hw => hw.setPhase (p := .other) nofun nofun⟩

instance : Respects env (Preserving DeskAgreed) publishStatus := by
  refine respects_iff_wp.mpr fun w => ?_
  simp only [publishStatus, wp_bind, wp_get, wp_ite, wp_pure, wp_read, wp_mqttCall]
  split_ifs
  · exact id
  · exact id
  · exact fun hw => hw.publish

instance (result : LoggerResult) (contextReason : Bytes) :
    Respects env (Preserving DeskAgreed) (storeLoggerState result contextReason) := by
  refine respects_iff_wp.mpr fun w => ?_
  refine wp_mono (storeLoggerState_hears w result contextReason) (fun _ w' hw => ?_)
    fun _ _ => False.elim
  intro hagreed
  rw [DeskAgreed, (dialogue_eq_iff.mp hw).2.2]
  exact hagreed.hear _

/-- The flag is lowered while the state is `RECORDING` still, but the state is set next. -/
instance : Respects env (Preserving DeskAgreed) startSession := by
  refine respects_iff_wp.mpr fun w => ?_
  have hreset (nextRestPollMs : ℤ) :
      Respects env (Keeping World.talk) (resetSession nextRestPollMs) := inferInstance
  have hlast (nowMs : ℤ) : Respects env (Preserving DeskAgreed)
      (updatePresenceState nowMs (bytes "connecting") >>= fun _ => selfTest) := inferInstance
  simp only [startSession, wp_bind, wp_monoNow, wp_read]
  refine wp_mono ((hreset _).returns inferInstance w.tookSteady) (fun _ w₁ htalk => ?_)
    fun _ _ => False.elim
  simp only [setState, wp_bind, Part.wp_update, wp_monoNow]
  generalize hw₂ : World.tookSteady _ = w₂
  have h₂ (hw : DeskAgreed w) : DeskAgreed w₂ := by
    have htalk₂ : w₂.talk = w.talk := by
      rw [← hw₂]
      exact htalk
    refine ⟨?_, fun v hv => hw.published v (show _ ∈ w.talk from htalk₂ ▸ hv)⟩
    rw [← hw₂]
    exact ⟨nofun, nofun⟩
  exact (wp_bind _ _).mp (wp_mono (respects_iff_wp.mp (hlast _) w₂) (fun _ _ h hw => h (h₂ hw))
    fun _ _ h hw => h (h₂ hw))

/-- The commands of the payload, if it is a command, are truthful. -/
def CommandTruthful (env : Env) (payload : Bytes) (w : World) : Prop :=
  ∀ root, env.parse payload = .ok root →
    (admitParsed root).command.Truthful (w.access env.config) w.status.toLoggerStatus.view
      (env.result w.taken.rest).reply (env.result (w.taken.rest + 1)).posted

/-- What an exception leaves of the agreement. -/
def TalkAgreed (w : World) : Prop := ∀ v, Talk.published v ∈ w.talk → v.Consistent

theorem handleCommandMessage_agrees {payload : Bytes} {w : World}
    (hcommand : CommandTruthful env payload w) (hw : DeskAgreed w) :
    wp (handleCommandMessage payload) env (fun _ => DeskAgreed) (fun _ => TalkAgreed) w := by
  rw [wp_handleCommandMessage]
  cases hparse : env.parse payload with
  | error e => exact hw.published
  | ok root =>
    have hagreed := hw.conduct (hcommand root hparse) (env.result (w.taken.rest + 2)).reply
      (env.result (w.taken.rest + 3)).reply
    refine wp_mono (dispatch_refines env w fun _ => admitParsed_refused) (fun _ w' hdesk => ?_)
      fun _ w' htalk v hv => ?_
    · rw [DeskAgreed, hdesk]
      exact hagreed
    · exact hagreed.published v (List.mem_of_mem_tail (htalk.mem hv))

/-- The command at the front, if the step handles one, is truthful. -/
def Step.Truthful (platform : Platform) (s : Step) (w : World) : Prop :=
  s.op = .handleFront →
    ∀ command ∈ w.batch.head?, CommandTruthful ⟨platform, s.inputs⟩ command.payload w

theorem Op.run_agrees {op : Op} {w : World}
    (hfront : op = .handleFront →
      ∀ command ∈ w.batch.head?, CommandTruthful env command.payload w)
    (hw : DeskAgreed w) : Leaves DeskAgreed TalkAgreed (exec op.run env w) := by
  refine Op.run_leaves (fun _ h => h.published) hw
    (fun hop command hc => handleCommandMessage_agrees env (hfront hop command hc) hw) fun hop => ?_
  cases op
  case handleFront => exact absurd rfl hop
  all_goals
    unfold Op.run
    dsimp only
    infer_instance

end Operations

/-- In every run in which no command meets a POST answered with 404 while the flag is up, the
state of each published status agrees with its flag. -/
theorem published_states_agree {platform : Platform} (inputs : Inputs) {steps : List Step}
    (hsteps : AllSteps (execStep platform) (Step.Truthful platform) steps
      (initialWorld platform.config inputs)) :
    PublishedAgree (execSteps platform steps (initialWorld platform.config inputs)).2 := by
  have hinitial : DeskAgreed (initialWorld platform.config inputs) := ⟨⟨nofun, nofun⟩, nofun⟩
  have hrun := execAll_leaves (execStep platform) (I := DeskAgreed) (J := TalkAgreed)
    (fun s v hs hv => Op.run_agrees ⟨platform, s.inputs⟩ hs hv) hsteps hinitial
  refine publishedAgree_of_talk ?_
  unfold execSteps
  revert hrun
  rcases execAll (execStep platform) steps (initialWorld platform.config inputs) with ⟨_ | _, w⟩
  · exact id
  · exact fun h => h.published

/-- Where no POST is answered with 404, every command is truthful. -/
theorem Step.truthful_of_found {platform : Platform} {s : Step} {w : World}
    (h : ∀ k, (s.inputs.result k).posted ≠ .missing) : s.Truthful platform w := by
  intro _ command _ root _
  have hfound := h (w.taken.rest + 1)
  cases (admitParsed root).command with
  | refused | ping | status => trivial
  | start | stop => exact fun _ _ hmissing => absurd hmissing hfound

theorem published_states_agree_start :
    PublishedAgree (execSteps benchPlatform
      (⟨.ensureConnection (milliseconds 1000), benchHealthy⟩ ::
        benchCommandSteps (bytes "logger.start") benchHealthy)
      (initialWorld benchPlatform.config benchHealthy)).2 := by
  refine published_states_agree benchHealthy (allSteps_of_forall _ fun s hs v => ?_)
  have hinputs : s.inputs = benchHealthy := by
    simp only [benchCommandSteps, List.mem_cons, List.not_mem_nil, or_false] at hs
    rcases hs with rfl | rfl | rfl | rfl <;> rfl
  refine Step.truthful_of_found fun k => ?_
  rw [hinputs]
  exact Posted.noConfusion

/-- The logger records, and does not know the request to stop. -/
def benchGone : Inputs := benchInputs fun k =>
  if k = 2 then benchResponse 404 else benchFlag true

/-- `IDLE` is published with the flag still up. -/
theorem published_idle_recording :
    ¬PublishedAgree (execSteps benchPlatform
      (⟨.ensureConnection (milliseconds 1000), benchGone⟩ ::
        benchCommandSteps (bytes "logger.stop") benchGone)
      (initialWorld benchPlatform.config benchGone)).2 := by
  intro h
  let s : StatusPayload :=
    { apiOk := true, recordingActive := true, state := .idle, lastError := bytes "http_404"
      lastErrorTs := 1700000000 }
  have hmem := h (bytes "ironsoft/uav/d1/ekinox/status") s 1 true (by decide +kernel)
  exact Bool.false_ne_true (hmem.idle rfl).symm

end Ironsoft.Ekinox
