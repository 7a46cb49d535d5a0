import Ironsoft.EkinoxFlapping
import Ironsoft.EkinoxPollPacing

/-!
# A healthy device comes online

The self-test of a new connection is the first success of a healthy device, and the first poll of
the timer is the second. It comes an interval after the connection at the latest.
-/
namespace Ironsoft.Ekinox
open Effect PresenceModel PollingModel

set_option synthInstance.maxSize 400000
set_option synthInstance.maxHeartbeats 200000

/-- What a pass of the loop does with a connection. -/
def connectedPass (now : TimePoint) : M Unit := do
  drainCommands
  ensureSensorSession now
  pollSensor now
  refreshRestHealth (monoMs now)
  restTimer (monoMs now)
  statusTimer now
  heartbeatTimer now

theorem runIteration_eq : runIteration = (do
    let now ← steadyNow
    ensureConnection now
    if (← get).conn.connected then connectedPass now else restIdle) := rfl

def Ticks (w w' : World) : Prop := w.taken.steady ≤ w'.taken.steady

section Frames

variable (env : Env)

instance : IsPreorder World Ticks where
  refl _ := Nat.le_refl _
  trans _ _ _ := Nat.le_trans

instance : IgnoresReadings Ticks :=
  ⟨fun _ => Nat.le_succ _, fun _ => Nat.le_refl _, fun _ => Nat.le_refl _, fun _ => Nat.le_refl _,
    fun _ => Nat.le_refl _⟩
instance : IgnoresReplies Ticks := ⟨fun _ => Nat.le_refl _⟩
instance (e : Event) : Emits Ticks e := ⟨fun _ => Nat.le_refl _⟩
instance : atConn.Ignored Ticks := ⟨fun _ _ => Nat.le_refl _⟩
instance : atLink.Ignored Ticks := ⟨fun _ _ => Nat.le_refl _⟩
instance : atLogger.Ignored Ticks := ⟨fun _ _ => Nat.le_refl _⟩
instance : atError.Ignored Ticks := ⟨fun _ _ => Nat.le_refl _⟩
instance : atMarker.Ignored Ticks := ⟨fun _ _ => Nat.le_refl _⟩
instance : atRetry.Ignored Ticks := ⟨fun _ _ => Nat.le_refl _⟩
instance : atPresence.Ignored Ticks := ⟨fun _ _ => Nat.le_refl _⟩
instance : atRest.Ignored Ticks := ⟨fun _ _ => Nat.le_refl _⟩
instance : atSensor.Ignored Ticks := ⟨fun _ _ => Nat.le_refl _⟩
instance : atTimers.Ignored Ticks := ⟨fun _ _ => Nat.le_refl _⟩
instance : atPending.Ignored Ticks := ⟨fun _ _ => Nat.le_refl _⟩
instance : atBatch.Ignored Ticks := ⟨fun _ _ => Nat.le_refl _⟩

instance (n : ℕ) : Respects env Ticks (drainLoop n) := by
  induction n with
  | zero => unfold drainLoop; infer_instance
  | succ n ih => unfold drainLoop; infer_instance

instance (now : TimePoint) : Respects env Ticks (connectedPass now) := by
  unfold connectedPass drainCommands
  infer_instance

instance (now : TimePoint) : Respects env HistoryGrows (connectedPass now) := by
  unfold connectedPass drainCommands
  infer_instance

end Frames

/-- The service is connected, and no command waits. -/
structure Serving (v : PollView) : Prop where
  commands : v.commands = []
  connected : v.presence.connected = true

/-- Presence has not come up yet, and the poll due at `next` brings it up. -/
structure Awaits (next : ℤ) (v : PollView) : Prop extends Down v where
  connected : v.presence.connected = true
  streak : v.rest.restSuccessStreak = 1
  next : v.nextRestPollMs = next

/-- Presence has been announced as online, or will be by a poll due at `limit` at the latest. -/
def Arrives (limit : ℤ) (v : PollView) : Prop :=
  PresenceEvent.announced true ∈ v.presence.history ∨
    ∃ next, 0 < next ∧ next ≤ limit ∧ Awaits next v

section Waiting

variable {env : Env} {w : World} {next : ℤ}

/-- The age of the first success does not matter: its count is kept. -/
theorem Awaits.refreshed {t : ℤ} {v : PollView} (h : Awaits next w.pollView)
    (hv : Refreshed env.config t w v) : Awaits next v := by
  cases hv with
  | fresh _ => exact ⟨⟨h.commands, h.offline, h.never⟩, h.connected, h.streak, h.next⟩
  | stale _ _ hp =>
    refine ⟨⟨h.commands, ?_, ?_⟩, ?_, h.streak, h.next⟩
    · exact hp.online_eq trivial
    · exact hp.never h.never
    · exact hp.connected_eq.trans h.connected
  | known _ _ => exact h

theorem Awaits.nextPoll_eq (h : Awaits next w.pollView) (hnext : 0 < next) (t : ℤ) :
    w.nextPoll env.config t = next := by
  have hw : w.timers.nextRestPollMs = next := h.next
  rw [World.nextPoll, hw, if_neg (Int.not_le.mpr hnext)]

theorem Awaits.early {t : ℤ} {v : PollView} (h : Awaits next w.pollView) (hnext : 0 < next)
    (hearly : t < next) (hv : Timed env t w v) : Awaits next v := by
  rw [Timed, h.nextPoll_eq hnext] at hv
  rcases hv with ⟨-, rfl⟩ | ⟨hdue, -⟩
  · exact ⟨⟨h.commands, h.offline, h.never⟩, h.connected, h.streak, rfl⟩
  · omega

/-- The second success is announced. -/
theorem Awaits.due {t : ℤ} {v : PollView} (h : Awaits next w.pollView) (hnext : 0 < next)
    (hdue : next ≤ t) (hv : Timed env t w v) : PresenceEvent.announced true ∈ v.presence.history := by
  have hoffline : w.presence.presenceOnline = false := h.offline
  have hstreak : w.rest.restSuccessStreak = 1 := h.streak
  have hconn : w.conn.connected = true := h.connected
  rw [Timed, h.nextPoll_eq hnext] at hv
  rcases hv with ⟨hearly, -⟩ | ⟨-, -, ha⟩
  · omega
  · have hcomes : w.comesOnline t = true := by
      have hpos : 0 < t := by omega
      simp [World.comesOnline, hconn, hpos, hstreak, countUp, intMax]
    have hannounces : Announces True (w.comesOnline t) (w.presenceView.succeeded countUp) v.presence :=
      ha.announces
    rw [hcomes] at hannounces
    generalize v.presence = q at hannounces
    cases hannounces with
    | remembered hsame =>
      rcases hsame with hoff | hup
      · exact absurd (hoff.symm.trans hconn) Bool.false_ne_true
      · exact absurd (hoffline.symm.trans hup) Bool.false_ne_true
    | published _ => exact List.mem_cons_self
    | lost hlost => exact absurd trivial hlost

theorem Serving.refreshed {t : ℤ} {v : PollView} (h : Serving w.pollView)
    (hv : Refreshed env.config t w v) : Serving v := by
  cases hv with
  | fresh _ | known _ _ => exact ⟨h.commands, h.connected⟩
  | stale _ _ hp => exact ⟨h.commands, hp.connected_eq.trans h.connected⟩

theorem Serving.timed {t : ℤ} {v : PollView} (h : Serving w.pollView) (hv : Timed env t w v) :
    Serving v := by
  rcases hv with ⟨-, rfl⟩ | ⟨-, -, ha⟩
  · exact ⟨h.commands, h.connected⟩
  · have hconn : v.presence.connected = w.conn.connected := ha.announces.connected_eq
    exact ⟨ha.commands.trans h.commands, hconn.trans h.connected⟩

/-- What a pass over a connection leaves of the wait. -/
structure Waited (env : Env) (now : TimePoint) (w w' : World) : Prop where
  advances : Ticks w w'
  grows : HistoryGrows w w'
  serving : Serving w'.pollView
  early : ∀ next, 0 < next → Awaits next w.pollView → monoMs now < next → Awaits next w'.pollView
  due : ∀ next, 0 < next → Awaits next w.pollView → next ≤ monoMs now →
    PresenceEvent.announced true ∈ w'.presenceHistory

theorem connectedPass_waited (hend : validateRestTarget env.config = none)
    (hsuccess : env.Succeeding) (hquiet : env.Undisturbed) (now : TimePoint)
    (h : Serving w.pollView) :
    wp (connectedPass now) env (fun _ w' => Waited env now w w') (fun _ _ => False) w := by
  have hadvances : Respects env Ticks (connectedPass now) := inferInstance
  have hgrows : Respects env HistoryGrows (connectedPass now) := inferInstance
  have hpolled := wp_connectedPass (p := True) (fun _ => hquiet.publishes) now h.commands
    (Q := fun v => Serving v ∧
      (∀ next, 0 < next → Awaits next w.pollView → monoMs now < next → Awaits next v) ∧
      ∀ next, 0 < next → Awaits next w.pollView → next ≤ monoMs now →
        PresenceEvent.announced true ∈ v.presence.history)
    (E := fun _ => False) (fun _ _ h => h trivial) fun w₁ h₁ => ?_
  · have hframes := wp_and (respects_iff_wp.mp hadvances w) (respects_iff_wp.mp hgrows w)
    exact wp_mono (wp_and hframes hpolled)
      (fun _ _ h => ⟨h.1.1, h.1.2, h.2.1, h.2.2.1, h.2.2.2⟩) fun _ _ h => h.2
  · rw [← h₁] at h ⊢
    refine wp_mono (refreshRestHealth_polled (p := True) (fun _ => hquiet.publishes) _)
      (fun _ w₂ h₂ => ?_) fun _ _ h => h.1 trivial
    refine wp_mono (restTimer_polled (p := True) (fun _ => hquiet) hend hsuccess _)
      (fun _ w₃ h₃ => ⟨(h.refreshed h₂).timed h₃, fun next hnext hw hearly => ?_,
        fun next hnext hw hdue => ?_⟩) fun _ _ h => h.1 trivial
    · exact (hw.refreshed h₂).early hnext hearly h₃
    · exact (hw.refreshed h₂).due hnext hdue h₃

/-- A pass that has a connection. -/
theorem runIteration_waited (env : Env) (hend : validateRestTarget env.config = none)
    (hsuccess : env.Succeeding) (hquiet : env.Undisturbed) (h : Serving w.pollView) :
    wp runIteration env (fun _ w' => Waited env (env.steady w.taken.steady) w w') (fun _ _ => False) w := by
  have hconn : w.tookSteady.conn.connected = true := h.connected
  rw [runIteration_eq, wp_bind, wp_steadyNow, wp_bind, ensureConnection_connected hconn, wp_bind,
    wp_get, wp_ite, if_pos hconn]
  have hserving : Serving w.tookSteady.pollView := h
  refine wp_mono (connectedPass_waited hend hsuccess hquiet _ hserving) (fun _ _ h => ?_)
    fun _ _ => id
  have hadvances : w.taken.steady + 1 ≤ _ := h.advances
  exact ⟨Nat.le_of_succ_le hadvances, h.grows, h.serving, h.early, h.due⟩

/-- The first pass connects, and the next poll is an interval away at most. -/
theorem firstPass_arrives (env : Env) (hend : validateRestTarget env.config = none)
    (hsuccess : env.Succeeding) (hquiet : env.Undisturbed) (hclock : SteadyClock env.steady)
    (hzero : 0 ≤ env.steady 0) :
    wp runIteration env (fun _ w' => Serving w'.pollView ∧
        Arrives (monoMs (env.steady w'.taken.steady) + env.config.restPollInterval) w'.pollView)
      (fun _ _ => False) (initialWorld env.config env.toInputs) := by
  have hinterval := restPollInterval_pos env.config
  have hdown : Down (initialWorld env.config env.toInputs).tookSteady.pollView :=
    ⟨rfl, rfl, List.not_mem_nil⟩
  have hdue : env.steady 1 ≤ env.steady 2 := hclock 1 2 (by omega)
  have hrearms : Respects env (Rearms env) (ensureConnection (env.steady 2)) := inferInstance
  rw [runIteration_eq, wp_bind, wp_steadyNow, wp_bind]
  refine wp_mono (wp_and (ensureConnection_down (p := True) (fun _ => hquiet) hend hsuccess hdown rfl
    (env.steady 2)) (respects_iff_wp.mp hrearms _)) (fun _ w₁ h₁ => ?_) fun _ _ h => h.1.1 trivial
  obtain ⟨⟨-, hbegun⟩, hrearmed⟩ := h₁
  have hbegun : Begun env w₁.pollView := hbegun trivial hdue
  have hread (k : ℕ) : 0 ≤ monoMs (env.steady k) :=
    Int.tdiv_nonneg (Int.le_trans hzero (hclock 0 k (Nat.zero_le k))) (by decide)
  obtain ⟨k, hk, hreadable, hnext⟩ : ∃ k ≥ 3, k < w₁.taken.steady ∧
      w₁.timers.nextRestPollMs = monoMs (env.steady k) + env.config.restPollInterval := by
    obtain ⟨j, hj⟩ := hbegun.next
    have hpos : 0 < w₁.timers.nextRestPollMs := by
      have hj' : w₁.timers.nextRestPollMs = _ := hj
      have hnonneg := hread j
      omega
    rcases hrearmed.next with hsame | hoff | harmed
    · rw [hsame] at hpos
      exact absurd hpos (Int.lt_irrefl 0)
    · exact absurd hpos (Int.not_lt.mpr hoff)
    · exact harmed
  have hwaits : Awaits (monoMs (env.steady k) + env.config.restPollInterval) w₁.pollView :=
    ⟨hbegun.toDown, hbegun.connected, hbegun.streak, hnext⟩
  have hconn : w₁.conn.connected = true := hbegun.connected
  rw [wp_bind, wp_get, wp_ite, if_pos hconn]
  refine wp_mono (connectedPass_waited hend hsuccess hquiet _ ⟨hbegun.commands, hbegun.connected⟩)
    (fun _ w₂ h₂ => ?_) fun _ _ => id
  have hnonneg := hread k
  have hnow := Timeline.monoMs_mono (hclock 2 k (by omega))
  have hlater := Timeline.monoMs_mono (hclock k w₂.taken.steady
    (Nat.le_trans (Nat.le_of_lt hreadable) h₂.advances))
  refine ⟨h₂.serving, .inr ⟨_, by omega, by omega, h₂.early _ (by omega) hwaits ?_⟩⟩
  change monoMs (env.steady 2) < _
  omega

end Waiting

/-- A device that answers every request with a status of 2xx, MQTT calls that all succeed, and the
clock of the run. -/
structure WellMet (platform : Platform) (clock : ℕ → TimePoint) (inputs : Inputs) : Prop where
  healthy : inputs.Healthy platform
  undisturbed : inputs.Undisturbed
  clock_eq : inputs.steady = clock

theorem returns_of_wp {platform : Platform} {inputs : Inputs} {w : World} {Q : Unit → World → Prop}
    (h : wp runIteration ⟨platform, inputs⟩ Q (fun _ _ => False) w) :
    ∃ w', loopPass platform inputs w = (.ok (), w') ∧ Q () w' := by
  revert h
  unfold loopPass wp
  rcases exec runIteration ⟨platform, inputs⟩ w with ⟨_ | ⟨⟩, w'⟩
  · exact False.elim
  · exact fun h => ⟨w', rfl, h⟩

/-- The first pass connects. -/
theorem WellMet.arrives {platform : Platform} (haccepted : Accepted platform.config)
    {clock : ℕ → TimePoint} (hclock : SteadyClock clock) (hzero : 0 ≤ clock 0) {first : Inputs}
    (h : WellMet platform clock first) :
    ∃ w, loopPass platform first (initialWorld platform.config first) = (.ok (), w) ∧
      Serving w.pollView ∧
      Arrives (monoMs (clock w.taken.steady) + platform.config.restPollInterval) w.pollView := by
  have hend := validateRestTarget_eq_none (restEndpointError_eq_nil haccepted.hasEndpoint)
  have hsuccess : Inputs.Succeeding first := h.healthy.succeeding
  obtain ⟨rfl⟩ := h.clock_eq
  exact returns_of_wp (firstPass_arrives ⟨platform, first⟩ hend hsuccess h.undisturbed hclock hzero)

/-- What a pass preserves, and what it brings when it begins late enough. -/
theorem loopPass_arrives {platform : Platform} {clock : ℕ → TimePoint} {limit : ℤ}
    (hend : validateRestTarget platform.config = none) {inputs : Inputs}
    (h : WellMet platform clock inputs) {w : World} (hserving : Serving w.pollView)
    (harrives : Arrives limit w.pollView) :
    ∃ w', loopPass platform inputs w = (.ok (), w') ∧ Serving w'.pollView ∧ Arrives limit w'.pollView ∧
      (limit ≤ monoMs (clock w.taken.steady) → PresenceEvent.announced true ∈ w'.presenceHistory) := by
  have hsuccess : Inputs.Succeeding inputs := h.healthy.succeeding
  obtain ⟨w', hpass, hwaited⟩ := returns_of_wp
    (runIteration_waited ⟨platform, inputs⟩ hend hsuccess h.undisturbed hserving)
  rw [h.clock_eq] at hwaited
  refine ⟨w', hpass, hwaited.serving, ?_⟩
  rcases harrives with hannounced | ⟨next, hpos, hle, hawaits⟩
  · obtain ⟨newer, hnewer⟩ := hwaited.grows
    have hstill : PresenceEvent.announced true ∈ w'.presenceHistory := by
      rw [hnewer]
      exact List.mem_append_right newer hannounced
    exact ⟨.inl hstill, fun _ => hstill⟩
  · by_cases hearly : monoMs (clock w.taken.steady) < next
    · refine ⟨.inr ⟨next, hpos, hle, hwaited.early next hpos hawaits hearly⟩, fun hlate => ?_⟩
      omega
    · have hannounced := hwaited.due next hpos hawaits (Int.not_lt.mp hearly)
      exact ⟨.inl hannounced, fun _ => hannounced⟩

/-- Over a healthy device every pass returns, and presence has been announced as online at the end of
every pass that begins a poll interval after the second or later. -/
theorem healthy_comes_online {platform : Platform} (haccepted : Accepted platform.config)
    {clock : ℕ → TimePoint} (hclock : SteadyClock clock) (hzero : 0 ≤ clock 0) {first : Inputs}
    (hfirst : WellMet platform clock first) {passes : List Inputs}
    (hpasses : ∀ inputs ∈ passes, WellMet platform clock inputs) :
    ∃ w, loopPass platform first (initialWorld platform.config first) = (.ok (), w) ∧
      AllSteps (loopPass platform) (fun inputs v => ∃ v', loopPass platform inputs v = (.ok (), v') ∧
        (monoMs (clock w.taken.steady) + platform.config.restPollInterval ≤
          monoMs (clock v.taken.steady) → PresenceEvent.announced true ∈ v'.presenceHistory))
        passes w := by
  have hend := validateRestTarget_eq_none (restEndpointError_eq_nil haccepted.hasEndpoint)
  obtain ⟨w, hpass, hserving, harrives⟩ := hfirst.arrives haccepted hclock hzero
  refine ⟨w, hpass, ?_⟩
  have hmet : AllSteps (loopPass platform) (fun inputs _ => WellMet platform clock inputs)
      passes w := allSteps_of_forall _ fun inputs hinputs _ => hpasses inputs hinputs
  refine AllSteps.of_invariant (loopPass platform) (I := fun v => Serving v.pollView ∧
    Arrives (monoMs (clock w.taken.steady) + platform.config.restPollInterval) v.pollView)
    (fun inputs v hinputs hv => ?_) hmet ⟨hserving, harrives⟩
  obtain ⟨v', hv', hserving', harrives', hlate⟩ := loopPass_arrives hend hinputs hv.1 hv.2
  refine ⟨?_, v', hv', hlate⟩
  rw [hv']
  exact ⟨hserving', harrives'⟩

/-- The clock stands still while the service connects, and goes on by 100 ms with every pass. -/
def benchPunctual : Inputs :=
  { steadyPass benchPlatform 0 with steady := fun k => milliseconds (1000 + 100 * (k - 10 : ℕ)) }

theorem benchPunctual_steady : SteadyClock benchPunctual.steady := by
  intro j k h
  change (1000 + 100 * ((j - 10 : ℕ) : ℤ)) * 1000000 ≤ (1000 + 100 * ((k - 10 : ℕ) : ℤ)) * 1000000
  omega

theorem benchPunctual_wellMet : WellMet benchPlatform benchPunctual.steady benchPunctual :=
  ⟨fun _ => ⟨200, [], by decide, rfl⟩, ⟨fun _ _ => rfl, fun _ => ⟨assembleResult (.response 200 []), rfl⟩⟩, rfl⟩

theorem healthy_comes_online_punctual :
    ∃ w, loopPass benchPlatform benchPunctual (initialWorld benchPlatform.config benchPunctual) =
        (.ok (), w) ∧
      AllSteps (loopPass benchPlatform) (fun inputs v =>
        ∃ v', loopPass benchPlatform inputs v = (.ok (), v') ∧
          (monoMs (benchPunctual.steady w.taken.steady) + benchPlatform.config.restPollInterval ≤
            monoMs (benchPunctual.steady v.taken.steady) →
              PresenceEvent.announced true ∈ v'.presenceHistory))
        (List.replicate 21 benchPunctual) w :=
  healthy_comes_online benchPlatform_accepted benchPunctual_steady (by decide) benchPunctual_wellMet
    fun _ hinputs => List.eq_of_mem_replicate hinputs ▸ benchPunctual_wellMet

/-- A calm service that has announced itself as online is online. -/
theorem Calm.online_of_announced {interval : ℤ} {seen : Option TimePoint} {v : PollView}
    (h : Calm interval seen v) (hannounced : PresenceEvent.announced true ∈ v.presence.history) :
    v.presence.online = true :=
  eq_true_of_ne_false fun hoffline => h.down hoffline hannounced

/-- If besides the passes follow each other closely and the polls come early enough, presence is
online at the end of every such pass. -/
theorem healthy_stays_online {platform : Platform} (haccepted : Accepted platform.config)
    (hgrace : 1099 ≤ platform.config.timeouts.presenceTimeoutMs.toInt)
    {clock : ℕ → TimePoint} (hclock : SteadyClock clock) (hzero : 0 ≤ clock 0) {first : Inputs}
    (hfirst : WellMet platform clock first) {passes : List Inputs} {w : World}
    (hpass : loopPass platform first (initialWorld platform.config first) = (.ok (), w))
    (hpasses : AllSteps (monitored (loopPass platform) passStart)
      (fun inputs p => WellMet platform clock inputs ∧ Follows p.2 (clock p.1.taken.steady)) passes
      (w, some (clock 2))) :
    AllSteps (monitored (loopPass platform) passStart)
      (fun inputs p => monoMs (clock w.taken.steady) + platform.config.restPollInterval ≤
          monoMs (clock p.1.taken.steady) →
        (loopPass platform inputs p.1).2.presence.presenceOnline = true) passes
      (w, some (clock 2)) := by
  have hend := validateRestTarget_eq_none (restEndpointError_eq_nil haccepted.hasEndpoint)
  have hgrace' := (grace_iff haccepted.timeoutsPositive).mpr hgrace
  have hcalmPass {inputs : Inputs} (hmet : WellMet platform clock inputs) {v v' : World}
      {seen : Option TimePoint} (hcalm : Calm platform.config.restPollInterval seen v.pollView)
      (hnow : Follows seen (clock v.taken.steady)) (hv' : loopPass platform inputs v = (.ok (), v')) :
      Calm platform.config.restPollInterval (some (clock v.taken.steady)) v'.pollView := by
    have hsuccess : Inputs.Succeeding inputs := hmet.healthy.succeeding
    obtain ⟨rfl⟩ := hmet.clock_eq
    have hwp : wp runIteration ⟨platform, inputs⟩ _ _ v :=
      runIteration_calm hend hsuccess hgrace' hcalm hnow
    unfold loopPass at hv'
    unfold wp at hwp
    rw [hv'] at hwp
    exact hwp
  have hdown : Down (initialWorld platform.config first).pollView := ⟨rfl, rfl, List.not_mem_nil⟩
  have hcalm : Calm platform.config.restPollInterval (some (clock 2)) w.pollView :=
    hcalmPass hfirst (hdown.calm _ none) nofun hpass
  obtain ⟨hserving, harrives⟩ : Serving w.pollView ∧
      Arrives (monoMs (clock w.taken.steady) + platform.config.restPollInterval) w.pollView := by
    obtain ⟨w₁, hpass₁, hw₁⟩ := hfirst.arrives haccepted hclock hzero
    cases hpass₁.symm.trans hpass
    exact hw₁
  let I (p : World × Option TimePoint) : Prop := Serving p.1.pollView ∧
    Arrives (monoMs (clock w.taken.steady) + platform.config.restPollInterval) p.1.pollView ∧
    Calm platform.config.restPollInterval p.2 p.1.pollView
  refine AllSteps.of_invariant _ (I := I) (fun inputs p hp hI => ?_) hpasses ⟨hserving, harrives, hcalm⟩
  obtain ⟨v, seen⟩ := p
  obtain ⟨hmet, hnow⟩ := hp
  obtain ⟨hserving, harrives, hcalm⟩ := hI
  obtain ⟨v', hv', hserving', harrives', hlate⟩ := loopPass_arrives hend hmet hserving harrives
  have hcalm' := hcalmPass hmet hcalm hnow hv'
  have hstep : monitored (loopPass platform) passStart inputs (v, seen) =
      (.ok (), v', some (clock v.taken.steady)) := by
    unfold monitored passStart
    rw [hv', hmet.clock_eq]
  rw [hstep, hv']
  exact ⟨⟨hserving', harrives', hcalm'⟩, fun hdue => hcalm'.online_of_announced (hlate hdue)⟩

/-- What the connecting pass leaves. -/
def benchArrived : World :=
  (loopPass benchPlatform benchPunctual (initialWorld benchPlatform.config benchPunctual)).2

theorem benchPunctual_connects :
    loopPass benchPlatform benchPunctual (initialWorld benchPlatform.config benchPunctual) =
      (.ok (), benchArrived) := by
  obtain ⟨w, hpass, -⟩ := benchPunctual_wellMet.arrives benchPlatform_accepted benchPunctual_steady
    (by decide)
  unfold benchArrived
  rw [hpass]

theorem healthy_stays_online_punctual :
    monoMs (benchPunctual.steady (execAll (monitored (loopPass benchPlatform) passStart)
        (List.replicate 20 benchPunctual) (benchArrived, some (benchPunctual.steady 2))).2.1.taken.steady) =
        monoMs (benchPunctual.steady benchArrived.taken.steady) +
          benchPlatform.config.restPollInterval ∧
      AllSteps (monitored (loopPass benchPlatform) passStart) (fun inputs p =>
        monoMs (benchPunctual.steady benchArrived.taken.steady) +
            benchPlatform.config.restPollInterval ≤ monoMs (benchPunctual.steady p.1.taken.steady) →
          (loopPass benchPlatform inputs p.1).2.presence.presenceOnline = true)
        (List.replicate 21 benchPunctual) (benchArrived, some (benchPunctual.steady 2)) := by
  refine ⟨by decide +kernel, ?_⟩
  refine healthy_stays_online benchPlatform_accepted (by decide) benchPunctual_steady (by decide)
    benchPunctual_wellMet benchPunctual_connects (AllSteps.and_forall _ (fun _ hinputs => ?_) ?_)
  · exact List.eq_of_mem_replicate hinputs ▸ benchPunctual_wellMet
  · unfold Follows
    decide +kernel

end Ironsoft.Ekinox
