import Ironsoft.EkinoxApiRecovery
import Ironsoft.EkinoxFailures
import Ironsoft.EkinoxPresence
import Ironsoft.PollingModel

/-!
# Presence of a healthy device

A device whose requests all succeed at once is polled when the loop finds the next poll due, and
right before that the loop looks at the age of the last success. Presence flaps if that age may
exceed the timeout.
-/
namespace Ironsoft.Ekinox
open Effect PresenceModel PollingModel

set_option synthInstance.maxSize 400000
set_option synthInstance.maxHeartbeats 200000

structure PollView where
  presence : PresenceView
  rest : RestHealth
  nextRestPollMs : ℤ
  recording : Bool
  commands : List CommandMessage

def World.pollView (w : World) : PollView where
  presence := w.presenceView
  rest := w.rest
  nextRestPollMs := w.timers.nextRestPollMs
  recording := w.status.recordingActive
  commands := w.batch ++ w.pending

def PollView.poller (v : PollView) : Poller := ⟨v.rest.lastRestOkTsMs, v.nextRestPollMs⟩

section Frames

variable (env : Env)

instance : IgnoresReadings (Keeping World.pollView) :=
  ⟨fun _ => rfl, fun _ => rfl, fun _ => rfl, fun _ => rfl, fun _ => rfl⟩
instance : atLink.Ignored (Keeping World.pollView) := ⟨fun _ _ => rfl⟩
instance : atError.Ignored (Keeping World.pollView) := ⟨fun _ _ => rfl⟩
instance : atMarker.Ignored (Keeping World.pollView) := ⟨fun _ _ => rfl⟩
instance : atRetry.Ignored (Keeping World.pollView) := ⟨fun _ _ => rfl⟩
instance : atSensor.Ignored (Keeping World.pollView) := ⟨fun _ _ => rfl⟩
instance (topic : Bytes) (s : StatusPayload) (qos : ℕ) (retained threw : Bool) :
    Emits (Keeping World.pollView) (.mqtt (.publish ⟨topic, .status s, qos, retained⟩) threw) :=
  ⟨fun _ => rfl⟩
instance (topic : Bytes) (n m : ℤ) (qos : ℕ) (retained threw : Bool) :
    Emits (Keeping World.pollView) (.mqtt (.publish ⟨topic, .heartbeat n m, qos, retained⟩) threw) :=
  ⟨fun _ => rfl⟩
instance (m : Bytes) : Emits (Keeping World.pollView) (.errorSet m) := ⟨fun _ => rfl⟩
instance (e : SbgEvent) : Emits (Keeping World.pollView) (.sbg e) := ⟨fun _ => rfl⟩
instance : Emits (Keeping World.pollView) .sessionOpened := ⟨fun _ => rfl⟩
instance (t : ℤ) : Emits (Keeping World.pollView) (.linkAlive t) := ⟨fun _ => rfl⟩

instance (now : TimePoint) : Respects env (Keeping World.pollView) (statusTimer now) := by
  have hnext : Respects env (Keeping World.pollView)
      (atTimers.update fun t => { t with nextStatusPub := now + milliseconds 1000 } : M Unit) :=
    ⟨fun _ => rfl⟩
  unfold statusTimer
  infer_instance

instance (now : TimePoint) : Respects env (Keeping World.pollView) (heartbeatTimer now) := by
  have hseq : Respects env (Keeping World.pollView)
      (atTimers.update fun t => { t with heartbeatSeq := t.heartbeatSeq + 1 } : M Unit) :=
    ⟨fun _ => rfl⟩
  have hnext : Respects env (Keeping World.pollView)
      (atTimers.update fun t => { t with nextHeartbeatPub := now + milliseconds 1000 } : M Unit) :=
    ⟨fun _ => rfl⟩
  unfold heartbeatTimer publishHeartbeat
  dsimp only
  infer_instance

/-- The sensor has no part in the polls. -/
instance (now : TimePoint) : Respects env (Keeping World.pollView) (ensureSensorSession now) :=
  inferInstance

instance (now : TimePoint) : Respects env (Keeping World.pollView) (pollSensor now) := inferInstance

end Frames

/-- Every request that is answered succeeds. -/
def Inputs.Succeeding (inputs : Inputs) : Prop := ∀ k r, inputs.rest k = .ok r → r.restSuccess = true

/-- No reply tells whether the logger records. -/
def Inputs.Silent (inputs : Inputs) : Prop :=
  ∀ k r, inputs.rest k = .ok r → r.hasRecordingFlag = false

/-- Nothing but a success is new. -/
structure Unannounced (w w' : World) : Prop where
  history : w'.presenceHistory = w.presenceHistory ∨
    w'.presenceHistory = .result true :: w.presenceHistory
  online : w'.presence.presenceOnline = w.presence.presenceOnline
  commands : w'.pollView.commands = w.pollView.commands

/-- The decision of `update_presence_state` behind a success. -/
def World.comesOnline (w : World) (nowMs : ℤ) : Bool :=
  w.conn.connected && decide (0 < nowMs) &&
    (decide (2 ≤ countUp w.rest.restSuccessStreak) || w.presence.presenceOnline)

/-- What `refresh_rest_health` leaves. -/
inductive Refreshed (config : EkinoxConfig) (nowMs : ℤ) (w : World) : PollView → Prop
  | fresh (h : restOfflineCondition config w nowMs = false) :
    Refreshed config nowMs w
      { w.pollView with
        presence := { w.presenceView with alive := true }, rest := w.rest.setAlive true }
  | stale (h : restOfflineCondition config w nowMs = true) (halive : w.rest.restAlive = true)
      {v : PresenceView} (hv : Announces True false { w.presenceView with alive := false } v) :
    Refreshed config nowMs w { w.pollView with presence := v, rest := w.rest.recordTimeout }
  | known (h : restOfflineCondition config w nowMs = true) (halive : w.rest.restAlive = false) :
    Refreshed config nowMs w w.pollView

/-- What a request for the state of the logger leaves. -/
structure Answered (inputs : Inputs) (nowMs : ℤ) (w : World) (v' : PollView) : Prop where
  announces : Announces True (w.comesOnline nowMs) (w.presenceView.succeeded countUp) v'.presence
  rest : ∃ now, v'.rest = w.rest.recordSuccess now nowMs
  nextRestPollMs : v'.nextRestPollMs = w.timers.nextRestPollMs
  recording : inputs.Silent → v'.recording = w.status.recordingActive
  commands : v'.commands = w.pollView.commands

section Operations

variable {env : Env} {p : Prop} {w : World}

theorem pollView_of_kept {w' : World} {v : PresenceView} (hpresence : w'.presenceView = v)
    (hrest : w'.rest = w.rest) (htimers : w'.timers = w.timers)
    (hrecording : w'.status.recordingActive = w.status.recordingActive) (hbatch : w'.batch = w.batch)
    (hpending : w'.pending = w.pending) : w'.pollView = { w.pollView with presence := v } := by
  rw [World.pollView, hpresence, hrest, htimers, hrecording, hbatch, hpending]
  rfl

theorem publishPresence_polled (hquiet : p → env.QuietPublishes) (online : Bool)
    (reason : Bytes) :
    wp (publishPresence online reason) env
      (fun _ w' => ∃ v, Announces True online w.presenceView v ∧
        w'.pollView = { w.pollView with presence := v })
      (fun _ w' => ¬p ∧ w'.pollView = w.pollView) w := by
  rw [wp_publishPresence]
  split_ifs with hconn hrate hthrew
  · exact ⟨_, .remembered (.inl hconn),
      pollView_of_kept (presenceView_noticeDeferred online reason w) rfl rfl rfl rfl rfl⟩
  · have hsame : w.presence.presenceOnline = online := hrate.1
    subst hsame
    exact ⟨_, .remembered (.inr rfl), rfl⟩
  · refine ⟨fun hq => ?_,
      pollView_of_kept (presenceView_noticeRefused online reason w) rfl rfl rfl rfl rfl⟩
    exact Bool.false_ne_true ((hquiet hq _ .presence (by decide)).symm.trans hthrew)
  · exact ⟨_, .published (eq_true_of_ne_false hconn),
      pollView_of_kept (presenceView_noticePublished online reason w) rfl rfl rfl rfl rfl⟩

theorem updatePresenceState_polled (hquiet : p → env.QuietPublishes) (nowMs : ℤ)
    (reason : Bytes) :
    wp (updatePresenceState nowMs reason) env
      (fun _ w' => ∃ v, Announces True (shouldOnline env.config w nowMs) w.presenceView v ∧
        w'.pollView = { w.pollView with presence := v })
      (fun _ w' => ¬p ∧ w'.pollView = w.pollView) w := by
  simp only [updatePresenceState, wp_bind, wp_get, wp_read]
  exact publishPresence_polled hquiet _ _

theorem refreshRestHealth_polled (hquiet : p → env.QuietPublishes) (nowMs : ℤ) :
    wp (refreshRestHealth nowMs) env (fun _ w' => Refreshed env.config nowMs w w'.pollView)
      (fun _ w' => ¬p ∧ Unannounced w w') w := by
  simp only [refreshRestHealth, wp_updateLinkHealth, wp_bind, wp_ite, wp_get, wp_read,
    Part.wp_update, wp_pure]
  split_ifs with hfresh halive
  · exact .fresh hfresh
  · have hstale := eq_true_of_ne_false hfresh
    have hoff := shouldOnline_of_offline hstale
    generalize hw₁ : World.withLinkHealth _ _ _ = w₁
    have hview : w₁.pollView = { w.pollView with
        presence := { w.presenceView with alive := false }, rest := w.rest.recordTimeout } := by
      rw [← hw₁]
      rfl
    have hoff₁ : shouldOnline env.config w₁ nowMs = false := by
      rw [← hw₁]
      exact hoff
    refine wp_mono (updatePresenceState_polled hquiet nowMs []) (fun _ w₂ h₂ => ?_) fun _ w₂ h₂ => ?_
    · obtain ⟨v, hv, h₂⟩ := h₂
      have hpresence : w₁.presenceView = { w.presenceView with alive := false } :=
        congrArg PollView.presence hview
      rw [hoff₁, hpresence] at hv
      rw [h₂, hview]
      exact .stale hstale halive hv
    · have h₂' := h₂.2.trans hview
      refine ⟨h₂.1, .inl (congrArg (fun v => v.presence.history) h₂'),
        congrArg (fun v => v.presence.online) h₂', ?_⟩
      rw [h₂']
  · exact .known (eq_true_of_ne_false hfresh) (eq_false_of_ne_true halive)

/-- A success that has just been stamped brings presence up from the second one on. -/
theorem shouldOnline_recordSuccess {config : EkinoxConfig} {w₁ : World} {nowMs : ℤ} {now : TimePoint}
    (hconn : w₁.conn = w.conn) (hpresence : w₁.presence = w.presence)
    (hrest : w₁.rest = w.rest.recordSuccess now nowMs) :
    shouldOnline config w₁ nowMs = w.comesOnline nowMs := by
  have hoffline : restOfflineCondition config w₁ nowMs = !decide (0 < nowMs) := by
    by_cases hnow : 0 < nowMs
    · have hfail : w₁.rest.restFailStreak < 3 := by
        rw [hrest]
        exact Nat.zero_lt_succ 2
      have hok : w₁.rest.lastRestOkTsMs = nowMs := by
        rw [hrest]
        rfl
      rw [restOfflineCondition_of_now hfail hok hnow]
      simp [hnow]
    · simp only [decide_eq_false hnow, Bool.not_false]
      refine eq_true_of_ne_false fun hfresh => hnow ?_
      have hpos := (restOfflineCondition_eq_false.mp hfresh).2.1
      rw [hrest] at hpos
      exact hpos
  unfold shouldOnline World.comesOnline
  rw [hoffline, hconn, hpresence, hrest, Bool.not_not]
  rfl

theorem markRestResult_polled (hquiet : p → env.QuietPublishes) {result : LoggerResult}
    (hsuccess : result.restSuccess = true) (contextReason : Bytes) (nowMs : ℤ) :
    wp (markRestResult result contextReason nowMs) env
      (fun _ w' => Answered env.toInputs nowMs w w'.pollView ∧
        w'.status.recordingActive = w.status.recordingActive)
      (fun _ w' => ¬p ∧ Unannounced w w') w := by
  rw [wp_markRestResult, if_pos hsuccess]
  generalize hw₁ : World.resultMarked _ _ _ _ _ = w₁
  have hpresence : w₁.presenceView = w.presenceView.succeeded countUp := by
    rw [← hw₁]
    refine congrArg (PresenceView.mk _ _ true _) ?_
    rw [← hsuccess]
    rfl
  have honline : shouldOnline env.config w₁ nowMs = w.comesOnline nowMs := by
    rw [← hw₁]
    exact shouldOnline_recordSuccess rfl rfl rfl
  refine wp_mono (updatePresenceState_polled hquiet nowMs []) (fun _ w₂ h₂ => ?_) fun _ w₂ h₂ => ?_
  · obtain ⟨v, hv, h₂⟩ := h₂
    rw [honline, hpresence] at hv
    have hview : w₁.pollView = { w.pollView with
        presence := w₁.presenceView
        rest := w.rest.recordSuccess (env.steady w.taken.steady) nowMs } := by
      rw [← hw₁]
      rfl
    rw [hview] at h₂
    have hrecording : w₂.status.recordingActive = w.status.recordingActive :=
      congrArg PollView.recording h₂
    refine ⟨?_, hrecording⟩
    rw [h₂]
    exact ⟨hv, ⟨_, rfl⟩, rfl, fun _ => rfl, rfl⟩
  · have hview : w₂.presenceView = w.presenceView.succeeded countUp :=
      (congrArg PollView.presence h₂.2).trans hpresence
    refine ⟨h₂.1, .inr (congrArg PresenceView.history hview), congrArg PresenceView.online hview, ?_⟩
    rw [h₂.2, ← hw₁]
    rfl

/-- Of what decides the polls, storing a result only touches the recording flag. -/
theorem storeLoggerState_polled (result : LoggerResult) (contextReason : Bytes)
    (hsuccess : result.restSuccess = true) :
    wp (storeLoggerState result contextReason) env
      (fun _ w' => w'.pollView = { w.pollView with recording := w'.status.recordingActive } ∧
        (result.hasRecordingFlag = false → w'.status.recordingActive = w.status.recordingActive))
      (fun _ _ => False) w := by
  have hok : result.ok = true := (Bool.and_eq_true _ _ ▸ hsuccess).1
  simp only [storeLoggerState, setState, wp_bind, wp_ite, wp_get, wp_pure, Part.wp_update, hok,
    if_true]
  split_ifs with hflag
  all_goals first
    | exact ⟨rfl, fun h => absurd (h.symm.trans hflag) Bool.false_ne_true⟩
    | exact ⟨rfl, fun _ => rfl⟩

theorem requestLoggerState_polled (hquiet : p → env.Undisturbed)
    (hend : validateRestTarget env.config = none) (hsuccess : env.Succeeding)
    (contextReason : Bytes) (nowMs : ℤ) :
    wp (requestLoggerState contextReason nowMs) env
      (fun _ w' => Answered env.toInputs nowMs w w'.pollView)
      (fun _ w' => ¬p ∧ Unannounced w w') w := by
  simp only [requestLoggerState, dataLoggerGet, callWithValidation, wp_bind, wp_read]
  rw [hend]
  dsimp only
  rw [wp_performRest]
  cases hreply : env.rest w.taken.rest with
  | error e =>
    refine ⟨fun hq => ?_, .inl rfl, rfl, rfl⟩
    obtain ⟨r, hr⟩ := (hquiet hq).replies w.taken.rest
    cases hr.symm.trans hreply
  | ok result =>
    have hresult := hsuccess _ _ hreply
    rw [wp_liftJson_ok, wp_bind]
    refine wp_mono (markRestResult_polled (fun hq => (hquiet hq).publishes) hresult contextReason nowMs)
      (fun _ w₂ h₂ => ?_) fun _ _ h => ⟨h.1, h.2.history, h.2.online, h.2.commands⟩
    obtain ⟨h₂, hrecording⟩ := h₂
    rw [wp_bind]
    refine wp_mono (storeLoggerState_polled result contextReason hresult) (fun _ w₃ h₃ => ?_)
      fun _ _ => False.elim
    obtain ⟨h₃, hflag⟩ := h₃
    rw [wp_pure, h₃]
    exact ⟨h₂.announces, h₂.rest, h₂.nextRestPollMs,
      fun hsilent => (hflag (hsilent _ _ hreply)).trans hrecording, h₂.commands⟩

/-- The time of the next poll, as `restTimer` finds it. -/
def World.nextPoll (w : World) (config : EkinoxConfig) (nowMs : ℤ) : ℤ :=
  if w.timers.nextRestPollMs ≤ 0 then nowMs + config.restPollInterval else w.timers.nextRestPollMs

/-- What the timer leaves: the time it waits for, or what a request has left and the time of the
next one. -/
def Timed (env : Env) (nowMs : ℤ) (w : World) (v' : PollView) : Prop :=
  nowMs < w.nextPoll env.config nowMs ∧
      v' = { w.pollView with nextRestPollMs := w.nextPoll env.config nowMs } ∨
    w.nextPoll env.config nowMs ≤ nowMs ∧
      v'.nextRestPollMs = nowMs + env.config.restPollInterval ∧
      Answered env.toInputs nowMs w { v' with nextRestPollMs := w.timers.nextRestPollMs }

theorem restTimer_polled (hquiet : p → env.Undisturbed)
    (hend : validateRestTarget env.config = none) (hsuccess : env.Succeeding) (nowMs : ℤ) :
    wp (restTimer nowMs) env (fun _ w' => Timed env nowMs w w'.pollView)
      (fun _ w' => ¬p ∧ Unannounced w w') w := by
  have hasked {w₁ : World} (h₁ : w₁ = { w with timers.nextRestPollMs := w.nextPoll env.config nowMs }) :
      wp (do
        if nowMs ≥ (← get).timers.nextRestPollMs then
          let _ ← requestLoggerState (bytes "poll.timer") nowMs
          setNextRestPoll (nowMs + env.config.restPollInterval)) env
        (fun _ w' => Timed env nowMs w w'.pollView) (fun _ w' => ¬p ∧ Unannounced w w') w₁ := by
    subst h₁
    simp only [setNextRestPoll, wp_bind, wp_get, wp_ite, wp_pure]
    split_ifs with hdue
    · refine wp_mono (requestLoggerState_polled hquiet hend hsuccess _ nowMs) (fun _ w₂ h₂ => ?_)
        fun _ _ h => ⟨h.1, h.2.history, h.2.online, h.2.commands⟩
      exact .inr ⟨hdue, rfl, h₂.announces, h₂.rest, rfl, h₂.recording, h₂.commands⟩
    · exact .inl ⟨Int.not_le.mp hdue, rfl⟩
  simp only [restTimer, setNextRestPoll, wp_bind, wp_read, wp_get, wp_ite, Part.wp_update, wp_pure]
    at hasked ⊢
  by_cases hunset : w.timers.nextRestPollMs ≤ 0
  · have hnext : w.nextPoll env.config nowMs = nowMs + env.config.restPollInterval := if_pos hunset
    rw [if_pos hunset]
    exact hasked (by rw [hnext]; rfl)
  · have hnext : w.nextPoll env.config nowMs = w.timers.nextRestPollMs := if_neg hunset
    rw [if_neg hunset]
    exact hasked (by rw [hnext])

theorem drainCommands_idle (hcommands : w.pollView.commands = []) :
    wp drainCommands env (fun _ w' => w'.pollView = w.pollView) (fun _ _ => False) w := by
  obtain ⟨hbatch, hpending⟩ := List.append_eq_nil_iff.mp hcommands
  simp only [drainCommands, swapCommands, wp_bind, wp_get, Part.wp_update]
  generalize hw₁ : Part.set atPending _ _ = w₁
  have hempty : w₁.batch = [] := by
    rw [← hw₁]
    exact hcommands
  have hview : w₁.pollView = w.pollView := by
    rw [← hw₁]
    simp only [World.pollView, atBatch, atPending, hbatch, hpending, List.append_nil]
    rfl
  rw [hempty]
  exact hview

theorem publish_polled (hquiet : p → env.QuietPublishes) {m : Message} (hm : m.body.kind ≠ .ack) :
    Throws env (fun _ => ¬p) (mqttCall (.publish m)) := by
  refine publish_throws env _ ?_ hm
  by_cases hq : p
  · exact .inr (hquiet hq)
  · exact .inl hq

/-- Without commands a pass over a connection is a refresh and the timer, as far as the polls are
concerned. -/
theorem wp_connectedPass (hquiet : p → env.QuietPublishes) (now : TimePoint)
    (hcommands : w.pollView.commands = []) {Q : PollView → Prop} {E : World → Prop}
    (hthrew : ∀ w', Q w'.pollView → ¬p → E w')
    (hpolls : ∀ w₁, w₁.pollView = w.pollView → wp (refreshRestHealth (monoMs now)) env
      (fun _ => wp (restTimer (monoMs now)) env (fun _ w' => Q w'.pollView) fun _ => E)
      (fun _ => E) w₁) :
    wp (do
      drainCommands
      ensureSensorSession now
      pollSensor now
      refreshRestHealth (monoMs now)
      restTimer (monoMs now)
      statusTimer now
      heartbeatTimer now) env (fun _ w' => Q w'.pollView) (fun _ => E) w := by
  have hstatus (topic : Bytes) (s : StatusPayload) :
      Throws env (fun _ => ¬p) (mqttCall (.publish ⟨topic, .status s, 1, true⟩)) :=
    publish_polled hquiet (show BodyKind.status ≠ .ack by decide)
  have hheartbeat (topic : Bytes) (n m : ℤ) :
      Throws env (fun _ => ¬p) (mqttCall (.publish ⟨topic, .heartbeat n m, 0, false⟩)) :=
    publish_polled hquiet (show BodyKind.heartbeat ≠ .ack by decide)
  have hkept {x : M Unit} (hx : Respects env (Keeping World.pollView) x)
      (hthrows : Throws env (fun _ => ¬p) x) {w₁ : World} (hw₁ : Q w₁.pollView) :
      wp x env (fun _ w' => Q w'.pollView) (fun _ => E) w₁ := by
    refine wp_mono (wp_and (respects_iff_wp.mp hx w₁) (hthrows.only w₁)) (fun _ w' h => ?_)
      fun _ w' h => ?_
    · exact h.1.symm ▸ hw₁
    · exact hthrew w' (h.1.symm ▸ hw₁) h.2
  have hsensor {x : M Unit} (hx : Respects env (Keeping World.pollView) x)
      (hthrows : Throws env (fun _ => False) x) {w₁ : World} (hw₁ : w₁.pollView = w.pollView) :
      wp x env (fun _ w' => w'.pollView = w.pollView) (fun _ _ => False) w₁ :=
    wp_mono (hx.returns hthrows w₁) (fun _ _ h => Eq.trans h hw₁) fun _ _ => id
  rw [wp_bind]
  refine wp_mono (drainCommands_idle hcommands) (fun _ w₁ h₁ => ?_) fun _ _ => False.elim
  rw [wp_bind]
  refine wp_mono (hsensor inferInstance inferInstance h₁) (fun _ w₂ h₂ => ?_) fun _ _ => False.elim
  rw [wp_bind]
  refine wp_mono (hsensor inferInstance inferInstance h₂) (fun _ w₃ h₃ => ?_) fun _ _ => False.elim
  rw [wp_bind]
  refine wp_mono (hpolls w₃ h₃) (fun _ w₄ h₄ => ?_) fun _ _ => id
  rw [wp_bind]
  refine wp_mono h₄ (fun _ w₅ h₅ => ?_) fun _ _ => id
  rw [wp_bind]
  refine wp_mono (hkept inferInstance inferInstance h₅) (fun _ w₆ h₆ => ?_) fun _ _ => id
  exact hkept inferInstance inferInstance h₆

end Operations

/-- Presence has never been up, and no command waits. -/
structure Down (v : PollView) : Prop where
  commands : v.commands = []
  offline : v.presence.online = false
  never : PresenceEvent.announced true ∉ v.presence.history

theorem Unannounced.down {w w' : World} (h : Unannounced w w') (hw : Down w.pollView) :
    Down w'.pollView := by
  refine ⟨h.commands.trans hw.commands, h.online.trans hw.offline, ?_⟩
  change PresenceEvent.announced true ∉ w'.presenceHistory
  rcases h.history with hsame | hnew
  · rw [hsame]
    exact hw.never
  · rw [hnew]
    exact List.not_mem_cons_of_ne_of_not_mem (by decide) hw.never

/-- A session has begun. -/
structure Unpolled (env : Env) (v : PollView) : Prop extends Down v where
  connected : v.presence.connected = true
  rest : v.rest = {}
  next : ∃ k, v.nextRestPollMs = monoMs (env.steady k) + env.config.restPollInterval
  recording : v.recording = false

/-- A session has had its first success. -/
structure Begun (env : Env) (v : PollView) : Prop extends Down v where
  connected : v.presence.connected = true
  streak : v.rest.restSuccessStreak = 1
  next : ∃ k, v.nextRestPollMs = monoMs (env.steady k) + env.config.restPollInterval
  recording : env.Silent → v.recording = false

section Connecting

variable {env : Env} {p : Prop} {w : World}

theorem publishStatus_polled (hquiet : p → env.QuietPublishes) :
    wp publishStatus env (fun _ w' => w'.pollView = w.pollView)
      (fun _ w' => ¬p ∧ w'.pollView = w.pollView) w := by
  have hkeeps : Respects env (Keeping World.pollView) publishStatus := inferInstance
  have hpublish (topic : Bytes) (s : StatusPayload) :
      Throws env (fun _ => ¬p) (mqttCall (.publish ⟨topic, .status s, 1, true⟩)) :=
    publish_polled hquiet (show BodyKind.status ≠ .ack by decide)
  have hthrows : Throws env (fun _ => ¬p) publishStatus := inferInstance
  exact wp_mono (wp_and (respects_iff_wp.mp hkeeps w) (hthrows.only w)) (fun _ _ h => h.1)
    fun _ _ h => ⟨h.2, h.1⟩

/-- The first success of a session does not bring presence up. -/
theorem Unpolled.begun {nowMs : ℤ} {v' : PollView} (h : Unpolled env w.pollView)
    (ha : Answered env.toInputs nowMs w v') : Begun env v' := by
  have hrest : w.rest = {} := h.rest
  have hoffline : w.presence.presenceOnline = false := h.offline
  have hstays : w.comesOnline nowMs = false := by
    simp [World.comesOnline, hrest, hoffline, countUp, intMax]
  have hannounces := ha.announces
  rw [hstays] at hannounces
  obtain ⟨now, hnew⟩ := ha.rest
  have hnever : PresenceEvent.announced true ∉ (w.presenceView.succeeded countUp).history :=
    List.not_mem_cons_of_ne_of_not_mem (by decide) h.never
  have hconn : v'.presence.connected = w.conn.connected := hannounces.connected_eq
  refine ⟨⟨ha.commands.trans h.commands, hannounces.online_eq trivial, hannounces.never hnever⟩,
    hconn.trans h.connected, ?_, ?_, fun hsilent => (ha.recording hsilent).trans h.recording⟩
  · rw [hnew, hrest]
    rfl
  · rw [ha.nextRestPollMs]
    exact h.next

theorem selfTest_begins (hquiet : p → env.Undisturbed)
    (hend : validateRestTarget env.config = none) (hsuccess : env.Succeeding)
    (hw : Unpolled env w.pollView) :
    wp selfTest env (fun _ w' => Begun env w'.pollView) (fun _ w' => ¬p ∧ Down w'.pollView)
      w := by
  have hpublishes (hq : p) : env.QuietPublishes := (hquiet hq).publishes
  rw [selfTest, wp_bind]
  refine wp_mono (publishStatus_polled hpublishes) (fun _ w₁ h₁ => ?_) fun _ w₁ h₁ => ?_
  · have hw₁ : Unpolled env w₁.tookSteady.pollView := by
      change Unpolled env w₁.pollView
      rwa [h₁]
    rw [wp_bind, wp_monoNow, wp_bind]
    refine wp_mono (requestLoggerState_polled hquiet hend hsuccess _ _) (fun _ w₂ h₂ => ?_)
      fun _ w₂ h₂ => ⟨h₂.1, h₂.2.down hw₁.toDown⟩
    have hbegun := hw₁.begun h₂
    refine wp_mono (publishStatus_polled hpublishes) (fun _ w₃ h₃ => ?_) fun _ w₃ h₃ => ⟨h₃.1, ?_⟩
    · rwa [h₃]
    · rw [h₃.2]
      exact hbegun.toDown
  · refine ⟨h₁.1, ?_⟩
    rw [h₁.2]
    exact hw.toDown

theorem startSession_begins (hquiet : p → env.Undisturbed)
    (hend : validateRestTarget env.config = none) (hsuccess : env.Succeeding)
    (hw : Down w.pollView) :
    wp startSession env (fun _ w' => Begun env w'.pollView)
      (fun _ w' => ¬p ∧ Down w'.pollView) w := by
  simp only [startSession, resetSession, setNextRestPoll, setState, wp_bind, wp_monoNow, wp_read,
    Part.wp_update]
  generalize hw₁ : World.tookSteady (Part.set atLogger _ _) = w₁
  have hunpolled : Unpolled env w₁.pollView := by
    rw [← hw₁]
    exact ⟨⟨hw.commands, rfl, hw.never⟩, rfl, rfl, ⟨_, rfl⟩, rfl⟩
  clear hw₁
  have hoff (nowMs : ℤ) : shouldOnline env.config w₁ nowMs = false :=
    shouldOnline_of_offline (restOfflineCondition_of_never
      (congrArg RestHealth.lastRestOkTsMs hunpolled.rest))
  refine wp_mono (updatePresenceState_polled (fun hq => (hquiet hq).publishes) _ _) (fun _ w₂ h₂ => ?_)
    fun _ w₂ h₂ => ⟨h₂.1, ?_⟩
  · obtain ⟨v, hv, h₂⟩ := h₂
    rw [hoff] at hv
    have hconn : v.connected = w₁.conn.connected := hv.connected_eq
    refine selfTest_begins hquiet hend hsuccess ?_
    rw [h₂]
    exact ⟨⟨hunpolled.commands, hv.online_eq trivial, hv.never hunpolled.never⟩,
      hconn.trans hunpolled.connected, hunpolled.rest, hunpolled.next, hunpolled.recording⟩
  · rw [h₂.2]
    exact hunpolled.toDown

theorem connectOnce_down (hquiet : p → env.Undisturbed)
    (hend : validateRestTarget env.config = none) (hsuccess : env.Succeeding)
    (hw : Down w.pollView) :
    wp connectOnce env (fun _ w' => Down w'.pollView ∧ (p → Begun env w'.pollView))
      (fun _ w' => ¬p ∧ Down w'.pollView) w := by
  have hthrew {k : ℕ} {op : MqttOp} (h : env.mqttThrows k op = true) : ¬p := fun hq =>
    Bool.false_ne_true (((hquiet hq).mqtt k op).symm.trans h)
  have hsubscribe (topic : Bytes) {w₁ : World} (h₁ : Down w₁.pollView) :
      wp (subscribeAndLog topic) env (fun _ w' => Down w'.pollView)
        (fun _ w' => ¬p ∧ Down w'.pollView) w₁ := by
    simp only [subscribeAndLog, wp_ite, wp_pure, wp_mqttCall]
    split_ifs with hnil hthrown
    · exact h₁
    · exact ⟨hthrew hthrown, h₁⟩
    · exact h₁
  rw [connectOnce, wp_catchMqtt]
  refine wp_mono (Q := fun _ w' => Begun env w'.pollView)
    (E := fun _ w' => ¬p ∧ Down w'.pollView) ?_ (fun _ _ h => ?_) fun e w₁ h => ?_
  · rw [wp_bind, setState, Part.wp_update, wp_bind, wp_mqttCall]
    split_ifs with hconnect
    · exact ⟨hthrew hconnect, hw⟩
    rw [wp_bind, wp_read, wp_bind]
    have hconnecting : PresenceEvent.announced true ∉ .connect :: w.presenceHistory :=
      List.not_mem_cons_of_ne_of_not_mem (by decide) hw.never
    refine wp_mono (hsubscribe _ ⟨hw.commands, hw.offline, hconnecting⟩) (fun _ w₁ h₁ => ?_)
      fun _ _ => id
    rw [wp_bind]
    refine wp_mono (hsubscribe _ h₁) (fun _ w₂ h₂ => ?_) fun _ _ => id
    rw [wp_bind]
    exact wp_mono (startSession_begins hquiet hend hsuccess h₂) (fun _ _ => id) fun _ _ => id
  · exact ⟨h.toDown, fun _ => h⟩
  · split_ifs
    · exact ⟨h.2, fun hq => absurd hq h.1⟩
    · exact h

theorem ensureConnection_connected {Q : Unit → World → Prop} {E : Exn → World → Prop}
    (hconn : w.conn.connected = true) (now : TimePoint) :
    wp (ensureConnection now) env Q E w ↔ Q () w := by
  rw [wp_ensureConnection, hconn, if_pos rfl]

/-- What the pass makes of a service that has no connection. -/
theorem ensureConnection_down (hquiet : p → env.Undisturbed)
    (hend : validateRestTarget env.config = none) (hsuccess : env.Succeeding)
    (hw : Down w.pollView) (hconn : w.conn.connected = false) (now : TimePoint) :
    wp (ensureConnection now) env
      (fun _ w' => Down w'.pollView ∧
        (p → w.retry.nextReconnectAttempt.getD now ≤ now → Begun env w'.pollView))
      (fun _ w' => ¬p ∧ Down w'.pollView) w := by
  rw [wp_ensureConnection, hconn, if_neg Bool.false_ne_true]
  split_ifs with hearly
  · exact ⟨hw, fun _ hdue => absurd hearly (Int.not_lt.mpr hdue)⟩
  have hattempting : Down (w.attempting now).pollView := hw
  exact wp_mono (connectOnce_down hquiet hend hsuccess hattempting)
    (fun _ _ h₁ => ⟨h₁.1, fun hq _ => h₁.2 hq⟩) fun _ _ => id

end Connecting

/-- How far two passes of the loop are apart at most, in milliseconds. -/
def loopGap : ℤ := 100

/-- A pass at `now` follows the one last seen. -/
def Follows (seen : Option TimePoint) (now : TimePoint) : Prop :=
  ∀ t ∈ seen, t ≤ now ∧ now ≤ t + milliseconds loopGap

/-- While presence is up, the poll after the last success is not overdue; before it has come up,
it has never been. -/
structure Calm (interval : ℤ) (seen : Option TimePoint) (v : PollView) : Prop where
  commands : v.commands = []
  flat : NeverFlaps v.presence.history
  down : v.presence.online = false → PresenceEvent.announced true ∉ v.presence.history
  connected : v.presence.online = true → v.presence.connected = true
  fails : v.presence.online = true → v.rest.restFailStreak = 0
  succeeded : v.presence.online = true → 0 < v.rest.lastRestOkTsMs
  onTime : v.presence.online = true → ∃ t ∈ seen, v.poller.OnTime interval (monoMs t)

theorem Down.calm {v : PollView} (h : Down v) (interval : ℤ) (seen : Option TimePoint) :
    Calm interval seen v := by
  have hup {p : Prop} (honline : v.presence.online = true) : p :=
    absurd (h.offline.symm.trans honline) Bool.false_ne_true
  exact ⟨h.commands, neverFlaps_of_not_mem h.never, fun _ => h.never, hup, hup, hup, hup⟩

theorem Calm.toDown {interval : ℤ} {seen : Option TimePoint} {v : PollView} (h : Calm interval seen v)
    (hoffline : v.presence.online = false) : Down v := ⟨h.commands, hoffline, h.down hoffline⟩

theorem monoMs_gap {t now : ℤ} (ht : 0 ≤ t) (hle : t ≤ now)
    (hgap : now ≤ t + milliseconds loopGap) : monoMs now ≤ monoMs t + loopGap := by
  have hnow : 0 ≤ now := Int.le_trans ht hle
  have hlate : now ≤ t + 100 * 1000000 := hgap
  change now.tdiv 1000000 ≤ t.tdiv 1000000 + 100
  rw [Int.tdiv_eq_ediv_of_nonneg hnow, Int.tdiv_eq_ediv_of_nonneg ht]
  omega

section Staying

variable {env : Env} {p : Prop} {w : World} {seen : Option TimePoint} {now : TimePoint}

/-- The last success of a calm service is young enough for the next pass. -/
theorem Calm.fresh (h : Calm env.config.restPollInterval seen w.pollView) (hnow : Follows seen now)
    (hgrace : env.config.restPollInterval + loopGap ≤ env.config.presenceTimeout + 1)
    (honline : w.presence.presenceOnline = true) :
    restOfflineCondition env.config w (monoMs now) = false := by
  obtain ⟨t, ht, hontime⟩ := h.onTime honline
  obtain ⟨hle, hgap⟩ := hnow t ht
  have hok : 0 < w.rest.lastRestOkTsMs := h.succeeded honline
  have hfails : w.rest.restFailStreak = 0 := h.fails honline
  have hanswered : w.rest.lastRestOkTsMs ≤ monoMs t := hontime.answered
  have hpos : 0 ≤ t := by
    by_contra hneg
    have hmono := Timeline.monoMs_mono (Int.le_of_lt (Int.not_le.mp hneg))
    change monoMs t ≤ (0 : ℤ).tdiv 1000000 at hmono
    rw [Int.zero_tdiv] at hmono
    omega
  have hlater := Timeline.monoMs_mono hle
  have hfresh := hontime.not_stale (monoMs_gap hpos hle hgap) hgrace
  have hyoung : monoMs now - w.rest.lastRestOkTsMs ≤ env.config.presenceTimeout :=
    Int.not_lt.mp hfresh
  have hage : w.rest.ageMs (monoMs now) = monoMs now - w.rest.lastRestOkTsMs := by
    unfold RestHealth.ageMs
    rw [if_neg (by omega), if_neg (by omega)]
  refine restOfflineCondition_eq_false.mpr ⟨by omega, hok, ?_⟩
  have hpos := presenceTimeout_pos env.config
  rw [hage]
  unfold restGrace
  split_ifs <;> omega

theorem Unannounced.neverFlaps {w' : World} (h : Unannounced w w')
    (hw : NeverFlaps w.presenceHistory) : NeverFlaps w'.presenceHistory := by
  rcases h.history with hsame | hnew
  · rwa [hsame]
  · rw [hnew]
    exact hw.cons nofun

theorem refreshRestHealth_calm (h : Calm env.config.restPollInterval seen w.pollView)
    (hnow : Follows seen now)
    (hgrace : env.config.restPollInterval + loopGap ≤ env.config.presenceTimeout + 1) :
    wp (refreshRestHealth (monoMs now)) env
      (fun _ w' => Calm env.config.restPollInterval seen w'.pollView)
      (fun _ w' => NeverFlaps w'.presenceHistory) w := by
  refine wp_mono (refreshRestHealth_polled (p := False) False.elim _) (fun _ w₁ h₁ => ?_)
    fun _ _ h₁ => h₁.2.neverFlaps h.flat
  generalize w₁.pollView = v₁ at h₁ ⊢
  cases h₁ with
  | fresh _ =>
    exact ⟨h.commands, h.flat, h.down, h.connected, h.fails, h.succeeded, h.onTime⟩
  | stale hstale _ hv =>
    have hoffline : w.presence.presenceOnline = false := eq_false_of_ne_true fun honline =>
      absurd (hstale.symm.trans (h.fresh hnow hgrace honline)) Bool.noConfusion
    apply Down.calm
    constructor
    · exact h.commands
    · exact hv.online_eq trivial
    · exact hv.never (h.down hoffline)
  | known _ _ => exact h

theorem Calm.comesOnline (h : Calm env.config.restPollInterval seen w.pollView)
    (hnow : Follows seen now) (honline : w.presence.presenceOnline = true) :
    w.comesOnline (monoMs now) = true := by
  obtain ⟨t, ht, hontime⟩ := h.onTime honline
  have hconn : w.conn.connected = true := h.connected honline
  have hok : 0 < w.rest.lastRestOkTsMs := h.succeeded honline
  have hanswered : w.rest.lastRestOkTsMs ≤ monoMs t := hontime.answered
  have hlater := Timeline.monoMs_mono (hnow t ht).1
  have hpos : 0 < monoMs now := by omega
  simp [World.comesOnline, hconn, hpos, honline]

/-- An answered poll is what the poller waits for next. -/
theorem Calm.answered {v' : PollView} (h : Calm env.config.restPollInterval seen w.pollView)
    (hnow : Follows seen now)
    (hnext : v'.nextRestPollMs = monoMs now + env.config.restPollInterval)
    (ha : Answered env.toInputs (monoMs now) w
      { v' with nextRestPollMs := w.timers.nextRestPollMs }) :
    Calm env.config.restPollInterval (some now) v' := by
  have hannounces : Announces True (w.comesOnline (monoMs now)) (w.presenceView.succeeded countUp)
      v'.presence := ha.announces
  obtain ⟨stamp, hrest⟩ := ha.rest
  have hflat : NeverFlaps (w.presenceView.succeeded countUp).history := NeverFlaps.cons h.flat nofun
  have hconn := hannounces.connected_eq
  have honline := hannounces.online_eq trivial
  cases hcomes : w.comesOnline (monoMs now) with
  | false =>
    rw [hcomes] at hannounces honline
    have hoffline : w.presence.presenceOnline = false := eq_false_of_ne_true fun hup =>
      absurd (hcomes.symm.trans (h.comesOnline hnow hup)) Bool.false_ne_true
    have hnever : PresenceEvent.announced true ∉ (w.presenceView.succeeded countUp).history :=
      List.not_mem_cons_of_ne_of_not_mem (by decide) (h.down hoffline)
    have hdown : Down v' :=
      ⟨ha.commands.trans h.commands, honline, hannounces.never hnever⟩
    exact hdown.calm _ _
  | true =>
    rw [hcomes] at hannounces honline
    have hup : w.conn.connected = true ∧ 0 < monoMs now := by
      simp only [World.comesOnline, Bool.and_eq_true, decide_eq_true_eq] at hcomes
      exact hcomes.1
    have hdown {p : Prop} (hoffline : v'.presence.online = false) : p :=
      absurd (hoffline.symm.trans honline) Bool.false_ne_true
    have hok : v'.rest.lastRestOkTsMs = monoMs now := by
      rw [show v'.rest = _ from hrest]
      rfl
    have hpoller : v'.poller = ⟨monoMs now, monoMs now + env.config.restPollInterval⟩ := by
      rw [PollView.poller, hok, hnext]
    refine ⟨ha.commands.trans h.commands, hflat.announces hannounces nofun, hdown,
      fun _ => hconn.trans hup.1, fun _ => congrArg RestHealth.restFailStreak hrest, fun _ => ?_,
      fun _ => ⟨now, rfl, ?_⟩⟩
    · rw [hok]
      exact hup.2
    · rw [hpoller]
      exact Poller.onTime_answered (restPollInterval_pos env.config) _

theorem restTimer_calm (hend : validateRestTarget env.config = none) (hsuccess : env.Succeeding)
    (h : Calm env.config.restPollInterval seen w.pollView) (hnow : Follows seen now) :
    wp (restTimer (monoMs now)) env
      (fun _ w' => Calm env.config.restPollInterval (some now) w'.pollView)
      (fun _ w' => NeverFlaps w'.presenceHistory) w := by
  refine wp_mono (restTimer_polled (p := False) False.elim hend hsuccess _) (fun _ w₁ h₁ => ?_)
    fun _ _ h₁ => h₁.2.neverFlaps h.flat
  rcases h₁ with ⟨hearly, h₁⟩ | ⟨-, hnext, ha⟩
  · rw [h₁]
    refine ⟨h.commands, h.flat, h.down, h.connected, h.fails, h.succeeded, fun honline => ?_⟩
    obtain ⟨t, ht, hontime⟩ := h.onTime honline
    have hok : 0 < w.rest.lastRestOkTsMs := h.succeeded honline
    have hanswered : w.rest.lastRestOkTsMs ≤ monoMs t := hontime.answered
    have hwaits : monoMs t < w.timers.nextRestPollMs := hontime.waits
    have hset : w.nextPoll env.config (monoMs now) = w.timers.nextRestPollMs := if_neg (by omega)
    rw [hset] at hearly ⊢
    have hlater := Timeline.monoMs_mono (hnow t ht).1
    exact ⟨now, rfl, Int.le_trans hanswered hlater, hearly, hontime.asks⟩
  · exact h.answered hnow hnext ha

/-- What a pass preserves. -/
theorem runIteration_calm (hend : validateRestTarget env.config = none) (hsuccess : env.Succeeding)
    (hgrace : env.config.restPollInterval + loopGap ≤ env.config.presenceTimeout + 1)
    (h : Calm env.config.restPollInterval seen w.pollView)
    (hnow : Follows seen (env.steady w.taken.steady)) :
    wp runIteration env
      (fun _ w' => Calm env.config.restPollInterval (some (env.steady w.taken.steady)) w'.pollView)
      (fun _ w' => NeverFlaps w'.presenceHistory) w := by
  rw [runIteration, wp_bind, wp_steadyNow, wp_bind]
  generalize env.steady w.taken.steady = now at hnow ⊢
  have hconnect : wp (ensureConnection now) env
      (fun _ w' => Calm env.config.restPollInterval seen w'.pollView)
      (fun _ w' => NeverFlaps w'.presenceHistory) w.tookSteady := by
    cases hconn : w.conn.connected with
    | true =>
      exact (ensureConnection_connected (w := w.tookSteady) hconn now).mpr h
    | false =>
      have hoffline : w.presence.presenceOnline = false := eq_false_of_ne_true fun hup =>
        absurd (hconn.symm.trans (h.connected hup)) Bool.false_ne_true
      have hdown : Down w.tookSteady.pollView := h.toDown hoffline
      exact wp_mono (ensureConnection_down (p := False) False.elim hend hsuccess hdown hconn now)
        (fun _ _ h₁ => h₁.1.calm _ _) fun _ _ h₁ => neverFlaps_of_not_mem h₁.2.never
  refine wp_mono hconnect (fun _ w₁ h₁ => ?_) fun _ _ => id
  rw [wp_bind, wp_get, wp_ite]
  split_ifs with hup
  · refine wp_connectedPass (p := False) False.elim now h₁.commands (fun _ hw' _ => hw'.flat)
      fun w₂ h₂ => ?_
    have hcalm : Calm env.config.restPollInterval seen w₂.pollView := by rwa [h₂]
    exact wp_mono (refreshRestHealth_calm hcalm hnow hgrace)
      (fun _ w₃ h₃ => restTimer_calm hend hsuccess h₃ hnow) fun _ _ => id
  · have hoffline : w₁.presence.presenceOnline = false := eq_false_of_ne_true fun hon =>
      hup (h₁.connected hon)
    have hdown : Down { w₁.pollView with nextRestPollMs := 0 } :=
      ⟨h₁.commands, hoffline, h₁.down hoffline⟩
    exact hdown.calm _ _

end Staying

/-- Every request is answered with a status of 2xx. -/
def Inputs.Healthy (platform : Platform) (inputs : Inputs) : Prop :=
  ∀ k, ∃ httpCode body, (200 ≤ httpCode ∧ httpCode < 300) ∧
    inputs.rest k = performHttpRequest platform.parse (.response httpCode body)

theorem Inputs.Healthy.succeeding {platform : Platform} {inputs : Inputs}
    (h : inputs.Healthy platform) : inputs.Succeeding := by
  intro k r hr
  obtain ⟨httpCode, body, hcode, hreply⟩ := h k
  exact performHttpRequest_response hcode (hreply.symm.trans hr)

/-- A pass of the loop with the inputs it meets. -/
def loopPass (platform : Platform) (inputs : Inputs) (w : World) : Except Exn Unit × World :=
  exec runIteration ⟨platform, inputs⟩ w

/-- The time a pass begins at. -/
def passStart (inputs : Inputs) (w _w' : World) (_seen : Option TimePoint) : Option TimePoint :=
  some (inputs.steady w.taken.steady)

/-- The loop from its start, without commands and lost connections, over a device that answers
every request, with passes that follow each other closely. -/
def HealthyRun (platform : Platform) (passes : List Inputs) (w : World) : Prop :=
  AllSteps (monitored (loopPass platform) passStart)
    (fun inputs p => inputs.Healthy platform ∧ Follows p.2 (inputs.steady p.1.taken.steady)) passes
    (w, none)

/-- The timeouts whose polls come early enough. -/
theorem grace_iff {config : EkinoxConfig} (hpos : config.timeouts.Positive) :
    config.restPollInterval + loopGap ≤ config.presenceTimeout + 1 ↔
      1099 ≤ config.timeouts.presenceTimeoutMs.toInt := by
  have htimeout : 0 < config.timeouts.presenceTimeoutMs.toInt :=
    Int32.lt_iff_toInt_lt.mp hpos.presenceTimeoutMs
  have hpresence : config.presenceTimeout = config.timeouts.presenceTimeoutMs.toInt :=
    if_pos htimeout
  unfold EkinoxConfig.restPollInterval loopGap
  rw [hpresence, Int.tdiv_eq_ediv_of_nonneg (Int.le_of_lt htimeout)]
  dsimp only
  split_ifs <;> omega

theorem healthyRun_neverFlaps {platform : Platform} (haccepted : Accepted platform.config)
    (hgrace : 1099 ≤ platform.config.timeouts.presenceTimeoutMs.toInt) {start : Inputs}
    {passes : List Inputs} (hrun : HealthyRun platform passes (initialWorld platform.config start)) :
    NeverFlaps (execAll (loopPass platform) passes
      (initialWorld platform.config start)).2.presenceHistory := by
  have hend := validateRestTarget_eq_none (restEndpointError_eq_nil haccepted.hasEndpoint)
  have hgrace' := (grace_iff haccepted.timeoutsPositive).mpr hgrace
  rw [← execAll_monitored (loopPass platform) passStart passes _ none]
  let I (p : World × Option TimePoint) : Prop :=
    Calm platform.config.restPollInterval p.2 p.1.pollView
  have hleaves : Leaves I (fun p => NeverFlaps p.1.presenceHistory)
      (execAll (monitored (loopPass platform) passStart) passes
        (initialWorld platform.config start, none)) := by
    refine execAll_leaves _ (fun inputs p hp hI => ?_) hrun ?_
    · let env : Env := ⟨platform, inputs⟩
      have hsuccess : env.Succeeding := hp.1.succeeding
      have hpass := runIteration_calm hend hsuccess hgrace' hI hp.2
      revert hpass
      unfold monitored loopPass wp
      rcases exec runIteration ⟨platform, inputs⟩ p.1 with ⟨_ | _, w'⟩
      · exact id
      · exact id
    · have hdown : Down (initialWorld platform.config start).pollView :=
        ⟨rfl, rfl, List.not_mem_nil⟩
      exact hdown.calm _ _
  revert hleaves
  rcases execAll (monitored (loopPass platform) passStart) passes
    (initialWorld platform.config start, none) with ⟨_ | _, p⟩
  · exact id
  · exact Calm.flat

def HistoryGrows (w w' : World) : Prop :=
  ∃ newer, w'.presenceHistory = newer ++ w.presenceHistory

section Grows

variable (env : Env)

instance : IsPreorder World HistoryGrows where
  refl _ := ⟨[], rfl⟩
  trans _ _ _ := fun ⟨newer, h⟩ ⟨newest, h'⟩ =>
    ⟨newest ++ newer, by rw [h', h, List.append_assoc]⟩

instance : IgnoresReadings HistoryGrows :=
  ⟨fun _ => ⟨[], rfl⟩, fun _ => ⟨[], rfl⟩, fun _ => ⟨[], rfl⟩, fun _ => ⟨[], rfl⟩,
    fun _ => ⟨[], rfl⟩⟩
instance : IgnoresReplies HistoryGrows := ⟨fun _ => ⟨[], rfl⟩⟩
instance (e : Event) : Emits HistoryGrows e := ⟨fun w => ⟨_, World.heard_said Event.presence? e w⟩⟩
instance : atConn.Ignored HistoryGrows := ⟨fun _ _ => ⟨[], rfl⟩⟩
instance : atLink.Ignored HistoryGrows := ⟨fun _ _ => ⟨[], rfl⟩⟩
instance : atLogger.Ignored HistoryGrows := ⟨fun _ _ => ⟨[], rfl⟩⟩
instance : atError.Ignored HistoryGrows := ⟨fun _ _ => ⟨[], rfl⟩⟩
instance : atMarker.Ignored HistoryGrows := ⟨fun _ _ => ⟨[], rfl⟩⟩
instance : atRetry.Ignored HistoryGrows := ⟨fun _ _ => ⟨[], rfl⟩⟩
instance : atPresence.Ignored HistoryGrows := ⟨fun _ _ => ⟨[], rfl⟩⟩
instance : atRest.Ignored HistoryGrows := ⟨fun _ _ => ⟨[], rfl⟩⟩
instance : atSensor.Ignored HistoryGrows := ⟨fun _ _ => ⟨[], rfl⟩⟩
instance : atTimers.Ignored HistoryGrows := ⟨fun _ _ => ⟨[], rfl⟩⟩
instance : atPending.Ignored HistoryGrows := ⟨fun _ _ => ⟨[], rfl⟩⟩
instance : atBatch.Ignored HistoryGrows := ⟨fun _ _ => ⟨[], rfl⟩⟩

instance (n : ℕ) : Respects env HistoryGrows (drainLoop n) := by
  induction n with
  | zero => unfold drainLoop; infer_instance
  | succ n ih => unfold drainLoop; infer_instance

instance : Respects env HistoryGrows runIteration := by
  unfold runIteration drainCommands
  infer_instance

/-- What has flapped has flapped. -/
theorem loopPass_flapped {platform : Platform} (passes : List Inputs) {w : World}
    (hw : ¬NeverFlaps w.presenceHistory) :
    ¬NeverFlaps (execAll (loopPass platform) passes w).2.presenceHistory := by
  refine execAll_invariant (loopPass platform) (C := fun _ _ => True)
    (I := fun w => ¬NeverFlaps w.presenceHistory) (fun inputs v _ hv => ?_)
    (allSteps_of_forall _ fun _ _ _ => trivial) hw
  have hgrows : Respects ⟨platform, inputs⟩ HistoryGrows runIteration := inferInstance
  obtain ⟨newer, hnew⟩ := hgrows.related v
  intro hflat
  refine hv (NeverFlaps.of_append (?_ : NeverFlaps (newer ++ v.presenceHistory)))
  rw [← hnew]
  exact hflat

end Grows

/-- A pass at `t` whose requests are answered without a body. -/
def steadyPass (platform : Platform) (t : ℤ) : Inputs :=
  { benchHealthy with
    steady := fun _ => milliseconds t
    rest := fun _ => performHttpRequest platform.parse (.response 200 []) }

/-- Presence has not come up yet, and the next poll, due at `next`, brings it up. -/
structure Waits (next : ℤ) (v : PollView) : Prop extends Down v where
  connected : v.presence.connected = true
  streak : v.rest.restSuccessStreak = 1
  next : v.nextRestPollMs = next
  recording : v.recording = false

/-- Presence is up on the word of the poller. -/
structure Online (p : Poller) (v : PollView) : Prop where
  commands : v.commands = []
  connected : v.presence.connected = true
  online : v.presence.online = true
  announced : PresenceEvent.announced true ∈ v.presence.history
  alive : v.rest.restAlive = true
  fails : v.rest.restFailStreak = 0
  succeeded : 0 < v.rest.lastRestOkTsMs
  next : 0 < v.nextRestPollMs
  recording : v.recording = false
  poller : v.poller = p

section Flapping

variable {platform : Platform}

theorem steadyPass_reply (t : ℤ) (k : ℕ) :
    (steadyPass platform t).rest k = .ok (assembleResult (.response 200 [])) := rfl

theorem steadyPass_healthy (t : ℤ) : (steadyPass platform t).Healthy platform :=
  fun _ => ⟨200, [], by decide, rfl⟩

theorem steadyPass_undisturbed (t : ℤ) : (steadyPass platform t).Undisturbed :=
  ⟨fun _ _ => rfl, fun k => ⟨_, steadyPass_reply t k⟩⟩

theorem steadyPass_silent (t : ℤ) : (steadyPass platform t).Silent := by
  intro k r hr
  cases (steadyPass_reply t k).symm.trans hr
  rfl

theorem monoMs_milliseconds (t : ℤ) : monoMs (milliseconds t) = t :=
  Int.mul_tdiv_cancel t (by decide)

/-- A pass that has a connection, or makes one, returns what a refresh and the timer leave. -/
theorem steadyPass_polls (hend : validateRestTarget platform.config = none) {t : ℤ} {w : World}
    {I Q : PollView → Prop}
    (hconnect : wp (ensureConnection (milliseconds t)) ⟨platform, steadyPass platform t⟩
      (fun _ w₁ => I w₁.pollView) (fun _ _ => False) w.tookSteady)
    (hI : ∀ v, I v → v.commands = [] ∧ v.presence.connected = true)
    (hQ : ∀ w₁ w₂ v, I w₁.pollView → Refreshed platform.config t w₁ w₂.pollView →
      Timed ⟨platform, steadyPass platform t⟩ t w₂ v → Q v) :
    ∃ w', loopPass platform (steadyPass platform t) w = (.ok (), w') ∧ Q w'.pollView := by
  let env : Env := ⟨platform, steadyPass platform t⟩
  have hquiet : True → env.Undisturbed := fun _ => steadyPass_undisturbed t
  have hsuccess : env.Succeeding := (steadyPass_healthy t).succeeding
  have hrun : wp runIteration env (fun _ w' => Q w'.pollView) (fun _ _ => False) w := by
    rw [runIteration, wp_bind, wp_steadyNow, wp_bind]
    refine wp_mono hconnect (fun _ w₁ h₁ => ?_) fun _ _ => False.elim
    obtain ⟨hcommands, hconn⟩ := hI _ h₁
    have hconn' : w₁.conn.connected = true := hconn
    rw [wp_bind, wp_get, wp_ite, if_pos hconn']
    refine wp_connectedPass (fun hq => (hquiet hq).publishes) _ hcommands (fun _ _ h => h trivial)
      fun w₂ h₂ => ?_
    have ht : monoMs (env.steady w.taken.steady) = t := monoMs_milliseconds t
    rw [ht]
    refine wp_mono (refreshRestHealth_polled (fun hq => (hquiet hq).publishes) t) (fun _ w₃ h₃ => ?_)
      fun _ _ h => h.1 trivial
    exact wp_mono (restTimer_polled hquiet hend hsuccess t)
      (fun _ w₄ h₄ => hQ w₂ w₃ _ (h₂ ▸ h₁) h₃ h₄) fun _ _ h => h.1 trivial
  revert hrun
  unfold loopPass wp
  rcases exec runIteration env w with ⟨_ | ⟨⟩, w'⟩
  · exact False.elim
  · exact fun h => ⟨w', rfl, h⟩

/-- A refresh before the first poll leaves the next one as it is. -/
theorem Waits.refreshed {next t : ℤ} {w : World} {v : PollView} (h : Waits next w.pollView)
    (hv : Refreshed platform.config t w v) : Waits next v := by
  cases hv with
  | fresh _ => exact ⟨⟨h.commands, h.offline, h.never⟩, h.connected, h.streak, h.next, h.recording⟩
  | stale _ _ hp =>
    refine ⟨⟨h.commands, ?_, ?_⟩, ?_, h.streak, h.next, h.recording⟩
    · exact hp.online_eq trivial
    · exact hp.never h.never
    · exact hp.connected_eq.trans h.connected
  | known _ _ => exact h

theorem Waits.timed {env : Env} {next t : ℤ} {w : World} {v : PollView} (h : Waits next w.pollView)
    (hnext : 0 < next) (hearly : t < next) (hv : Timed env t w v) : Waits next v := by
  have hset : w.nextPoll env.config t = next := by
    have hw : w.timers.nextRestPollMs = next := h.next
    rw [World.nextPoll, hw, if_neg (by omega)]
  rw [Timed, hset] at hv
  rcases hv with ⟨-, rfl⟩ | ⟨hdue, -⟩
  · exact ⟨⟨h.commands, h.offline, h.never⟩, h.connected, h.streak, rfl, h.recording⟩
  · omega

/-- What an answered poll leaves that brings presence up or keeps it up. -/
theorem online_answered (env : Env) {t : ℤ} {w : World} {v : PollView} (hsilent : env.Silent)
    (ht : 0 < t) (hconn : w.conn.connected = true) (hcommands : w.pollView.commands = [])
    (hrecording : w.status.recordingActive = false) (hcomes : w.comesOnline t = true)
    (hup : w.presence.presenceOnline = true → PresenceEvent.announced true ∈ w.presenceHistory)
    (hnext : v.nextRestPollMs = t + env.config.restPollInterval)
    (ha : Answered env.toInputs t w { v with nextRestPollMs := w.timers.nextRestPollMs }) :
    Online ⟨t, t + env.config.restPollInterval⟩ v := by
  have hannounces : Announces True (w.comesOnline t) (w.presenceView.succeeded countUp) v.presence :=
    ha.announces
  rw [hcomes] at hannounces
  obtain ⟨stamp, hrest⟩ := ha.rest
  have hrest' : v.rest = w.rest.recordSuccess stamp t := hrest
  have hinterval := restPollInterval_pos env.config
  have hannounced : PresenceEvent.announced true ∈ v.presence.history := by
    generalize v.presence = q at hannounces
    cases hannounces with
    | remembered hsame =>
      refine List.mem_cons_of_mem _ (hup (hsame.resolve_left fun hoff => ?_))
      exact Bool.false_ne_true (hoff.symm.trans hconn)
    | published _ => exact List.mem_cons_self
    | lost h => exact absurd trivial h
  refine ⟨ha.commands.trans hcommands, hannounces.connected_eq.trans hconn,
    hannounces.online_eq trivial, hannounced, ?_, ?_, ?_, ?_, (ha.recording hsilent).trans hrecording,
    ?_⟩
  · rw [hrest']
    rfl
  · rw [hrest']
    rfl
  · rw [hrest']
    exact ht
  · omega
  · rw [PollView.poller, hrest', hnext]
    rfl

/-- The second success brings presence up. -/
theorem Waits.online {next t : ℤ} {w : World} {v : PollView} (h : Waits next w.pollView)
    (hnext : 0 < next) (hdue : next ≤ t) (hv : Timed ⟨platform, steadyPass platform t⟩ t w v) :
    Online ⟨t, t + platform.config.restPollInterval⟩ v := by
  have hset : w.nextPoll platform.config t = next := by
    have hw : w.timers.nextRestPollMs = next := h.next
    rw [World.nextPoll, hw, if_neg (by omega)]
  have hoffline : w.presence.presenceOnline = false := h.offline
  have hstreak : w.rest.restSuccessStreak = 1 := h.streak
  have hconn : w.conn.connected = true := h.connected
  rcases hv with ⟨hearly, -⟩ | ⟨-, hpolled, ha⟩
  · have hlt : t < next := by rwa [hset] at hearly
    omega
  · have hcomes : w.comesOnline t = true := by
      have hpos : 0 < t := by omega
      simp [World.comesOnline, hconn, hpos, hstreak, countUp, intMax]
    refine online_answered ⟨platform, steadyPass platform t⟩ (steadyPass_silent t) (by omega) hconn
      h.commands h.recording hcomes
      (fun hup => ?_) hpolled ha
    exact absurd (hoffline.symm.trans hup) Bool.false_ne_true

/-- The age test tells whether the poller is stale. -/
theorem Online.offline_iff {p : Poller} {t : ℤ} {w : World} (h : Online p w.pollView) :
    restOfflineCondition platform.config w t = false ↔ ¬p.Stale platform.config.presenceTimeout t := by
  have hpos := presenceTimeout_pos platform.config
  have hfails : w.rest.restFailStreak = 0 := h.fails
  have hok : 0 < w.rest.lastRestOkTsMs := h.succeeded
  have hrecording : w.status.recordingActive = false := h.recording
  have hlast : p.lastOk = w.rest.lastRestOkTsMs := (congrArg Poller.lastOk h.poller).symm
  rw [restOfflineCondition_eq_false, hrecording]
  unfold RestHealth.ageMs restGrace Poller.Stale
  rw [if_neg (by omega), hlast]
  simp only [Bool.false_eq_true, if_false]
  split_ifs <;> omega

theorem Online.refreshed {p : Poller} {t : ℤ} {w : World} {v : PollView} (h : Online p w.pollView)
    (hfresh : ¬p.Stale platform.config.presenceTimeout t) (hv : Refreshed platform.config t w v) :
    Online p v := by
  have hok := h.offline_iff.mpr hfresh
  cases hv with
  | fresh _ =>
    exact ⟨h.commands, h.connected, h.online, h.announced, rfl, h.fails, h.succeeded, h.next,
      h.recording, h.poller⟩
  | stale hstale | known hstale => exact absurd (hok.symm.trans hstale) Bool.false_ne_true

theorem Online.timed {p : Poller} {t : ℤ} {w : World} {v : PollView} (h : Online p w.pollView)
    (hv : Timed ⟨platform, steadyPass platform t⟩ t w v) :
    Online (p.look platform.config.restPollInterval t) v := by
  have hnext : 0 < w.timers.nextRestPollMs := h.next
  have hset : w.nextPoll platform.config t = w.timers.nextRestPollMs := if_neg (by omega)
  have hp : p.next = w.timers.nextRestPollMs := (congrArg Poller.next h.poller).symm
  have hconn : w.conn.connected = true := h.connected
  have honline : w.presence.presenceOnline = true := h.online
  rcases hv with ⟨hearly, rfl⟩ | ⟨hdue, hpolled, ha⟩
  · have hwaits : ¬p.next ≤ t := by
      rw [hset] at hearly
      omega
    rw [Poller.look, if_neg hwaits]
    have hsame : w.nextPoll (Env.mk platform (steadyPass platform t)).config t =
        w.timers.nextRestPollMs := hset
    rw [hsame]
    exact h
  · have hasks : p.next ≤ t := by
      rw [hset] at hdue
      omega
    have hcomes : w.comesOnline t = true := by
      have hpos : 0 < t := by omega
      simp [World.comesOnline, hconn, hpos, honline]
    rw [Poller.look, if_pos hasks]
    exact online_answered ⟨platform, steadyPass platform t⟩ (steadyPass_silent t) (by omega) hconn
      h.commands h.recording hcomes
      (fun _ => h.announced) hpolled ha

/-- A stale poller takes presence down. -/
theorem Online.stale {p : Poller} {t : ℤ} {w : World} {v : PollView} (h : Online p w.pollView)
    (hstale : p.Stale platform.config.presenceTimeout t) (hv : Refreshed platform.config t w v) :
    ¬NeverFlaps v.presence.history := by
  have hoffline : restOfflineCondition platform.config w t = true :=
    eq_true_of_ne_false fun hfresh => h.offline_iff.mp hfresh hstale
  have honline : w.presence.presenceOnline = true := h.online
  have hconn : w.conn.connected = true := h.connected
  have halive : w.rest.restAlive = true := h.alive
  cases hv with
  | fresh hfresh => exact absurd (hfresh.symm.trans hoffline) Bool.false_ne_true
  | known _ hdead => exact absurd (hdead.symm.trans halive) Bool.false_ne_true
  | stale _ _ hp =>
    cases hp with
    | remembered hsame =>
      rcases hsame with hdown | hdown
      · exact absurd (hdown.symm.trans hconn) Bool.false_ne_true
      · exact absurd (honline.symm.trans hdown) Bool.noConfusion
    | published _ => exact fun hflat => hflat [] _ rfl h.announced
    | lost hlost => exact absurd trivial hlost

theorem Timed.flapped {env : Env} {t : ℤ} {w : World} {v : PollView} (hv : Timed env t w v)
    (hw : ¬NeverFlaps w.presenceHistory) : ¬NeverFlaps v.presence.history := by
  rcases hv with ⟨-, rfl⟩ | ⟨-, -, ha⟩
  · exact hw
  · have hannounces : Announces True (w.comesOnline t) (w.presenceView.succeeded countUp) v.presence :=
      ha.announces
    obtain ⟨newer, hnewer⟩ := hannounces.history_append
    intro hflat
    rw [hnewer] at hflat
    exact hw (show NeverFlaps ([_] ++ _) from hflat.of_append).of_append

theorem Waits.passed (hend : validateRestTarget platform.config = none) {next t : ℤ} {w : World}
    (h : Waits next w.pollView) (hnext : 0 < next) (hearly : t < next) :
    ∃ w', loopPass platform (steadyPass platform t) w = (.ok (), w') ∧ Waits next w'.pollView := by
  apply steadyPass_polls hend (I := Waits next)
  · exact (ensureConnection_connected (w := w.tookSteady) h.connected _).mpr h
  · exact fun v hv => ⟨hv.commands, hv.connected⟩
  · intro w₁ w₂ v h₁ h₂ h₃
    exact (h₁.refreshed h₂).timed hnext hearly h₃

/-- The poll that is waited for brings presence up. -/
theorem Waits.ends (hend : validateRestTarget platform.config = none) {next : ℤ} {w : World}
    (h : Waits next w.pollView) (hnext : 0 < next) :
    ∃ w', loopPass platform (steadyPass platform next) w = (.ok (), w') ∧
      Online ⟨next, next + platform.config.restPollInterval⟩ w'.pollView := by
  apply steadyPass_polls hend (I := Waits next)
  · exact (ensureConnection_connected (w := w.tookSteady) h.connected _).mpr h
  · exact fun v hv => ⟨hv.commands, hv.connected⟩
  · intro w₁ w₂ v h₁ h₂ h₃
    exact (h₁.refreshed h₂).online hnext (Int.le_refl next) h₃

theorem Online.passed (hend : validateRestTarget platform.config = none) {p : Poller} {t : ℤ}
    {w : World} (h : Online p w.pollView) (hfresh : ¬p.Stale platform.config.presenceTimeout t) :
    ∃ w', loopPass platform (steadyPass platform t) w = (.ok (), w') ∧
      Online (p.look platform.config.restPollInterval t) w'.pollView := by
  apply steadyPass_polls hend (I := Online p)
  · exact (ensureConnection_connected (w := w.tookSteady) h.connected _).mpr h
  · exact fun v hv => ⟨hv.commands, hv.connected⟩
  · intro w₁ w₂ v h₁ h₂ h₃
    exact (h₁.refreshed hfresh h₂).timed h₃

theorem Online.flaps (hend : validateRestTarget platform.config = none) {p : Poller} {t : ℤ}
    {w : World} (h : Online p w.pollView) (hstale : p.Stale platform.config.presenceTimeout t) :
    ∃ w', loopPass platform (steadyPass platform t) w = (.ok (), w') ∧
      ¬NeverFlaps w'.presenceHistory := by
  apply steadyPass_polls hend (I := Online p) (Q := fun v => ¬NeverFlaps v.presence.history)
  · exact (ensureConnection_connected (w := w.tookSteady) h.connected _).mpr h
  · exact fun v hv => ⟨hv.commands, hv.connected⟩
  · intro w₁ w₂ v h₁ h₂ h₃
    exact h₃.flapped (h₁.stale hstale h₂)

/-- The first pass connects and has the first success. -/
theorem steadyPass_connects (hend : validateRestTarget platform.config = none) {t : ℤ} (ht : 0 ≤ t) :
    ∃ w', loopPass platform (steadyPass platform t)
        (initialWorld platform.config (steadyPass platform t)) = (.ok (), w') ∧
      Waits (t + platform.config.restPollInterval) w'.pollView := by
  have hinterval := restPollInterval_pos platform.config
  have hbegun {v : PollView} (h : Begun ⟨platform, steadyPass platform t⟩ v) :
      Waits (t + platform.config.restPollInterval) v := by
    obtain ⟨k, hk⟩ := h.next
    have hstamp : monoMs ((steadyPass platform t).steady k) = t := monoMs_milliseconds t
    rw [hstamp] at hk
    exact ⟨h.toDown, h.connected, h.streak, hk, h.recording (steadyPass_silent t)⟩
  apply steadyPass_polls hend (I := Waits (t + platform.config.restPollInterval))
  · have hdown : Down (initialWorld platform.config (steadyPass platform t)).tookSteady.pollView :=
      ⟨rfl, rfl, List.not_mem_nil⟩
    refine wp_mono (ensureConnection_down (p := True) (fun _ => steadyPass_undisturbed t) hend
      (steadyPass_healthy t).succeeding hdown rfl _) (fun _ w₁ h₁ => ?_) fun _ _ h => h.1 trivial
    exact hbegun (h₁.2 trivial (Int.le_refl (milliseconds t)))
  · exact fun v hv => ⟨hv.commands, hv.connected⟩
  · intro w₁ w₂ v h₁ h₂ h₃
    exact (h₁.refreshed h₂).timed (by omega) (by omega) h₃

/-- The passes that begin at `ts`. -/
def steadyPasses (platform : Platform) (ts : List ℤ) : List Inputs := ts.map (steadyPass platform)

theorem Waits.run (hend : validateRestTarget platform.config = none) {next : ℤ} (hnext : 0 < next)
    {ts : List ℤ} (hts : ∀ t ∈ ts, t < next) {w : World} (h : Waits next w.pollView) :
    ∃ w', execAll (loopPass platform) (steadyPasses platform ts) w = (.ok (), w') ∧
      Waits next w'.pollView := by
  induction ts generalizing w with
  | nil => exact ⟨w, rfl, h⟩
  | cons t ts ih =>
    obtain ⟨w₁, hpass, h₁⟩ := h.passed hend hnext (hts t List.mem_cons_self)
    obtain ⟨w₂, hrun, h₂⟩ := ih (fun u hu => hts u (List.mem_cons_of_mem t hu)) h₁
    refine ⟨w₂, ?_, h₂⟩
    rw [steadyPasses, List.map_cons, execAll, hpass]
    exact hrun

/-- A schedule that makes the poller stale takes presence down. -/
theorem Online.run (hend : validateRestTarget platform.config = none) {p : Poller} {ts : List ℤ}
    (hstale : ¬NeverStale platform.config.restPollInterval platform.config.presenceTimeout p ts)
    {w : World} (h : Online p w.pollView) :
    ¬NeverFlaps (execAll (loopPass platform) (steadyPasses platform ts) w).2.presenceHistory := by
  induction ts generalizing p w with
  | nil => exact absurd trivial hstale
  | cons t ts ih =>
    rw [steadyPasses, List.map_cons, execAll]
    by_cases hfresh : p.Stale platform.config.presenceTimeout t
    · obtain ⟨w₁, hpass, h₁⟩ := h.flaps hend hfresh
      rw [hpass]
      exact loopPass_flapped _ h₁
    · obtain ⟨w₁, hpass, h₁⟩ := h.passed hend hfresh
      rw [hpass]
      exact ih (fun hlater => hstale ⟨hfresh, hlater⟩) h₁

/-- Passes that follow each other closely make a healthy run. -/
theorem steadyPasses_follow {ts : List ℤ} {prev : ℤ} (hts : Spaced loopGap prev ts) (w : World) :
    AllSteps (monitored (loopPass platform) passStart)
      (fun inputs p => inputs.Healthy platform ∧ Follows p.2 (inputs.steady p.1.taken.steady))
      (steadyPasses platform ts) (w, some (milliseconds prev)) := by
  induction ts generalizing prev w with
  | nil => trivial
  | cons t ts ih =>
    obtain ⟨hle, hgap, hts⟩ := hts
    have hfollows : Follows (some (milliseconds prev)) (milliseconds t) := by
      rintro _ ⟨rfl⟩
      have hnext : prev * 1000000 ≤ t * 1000000 ∧
          t * 1000000 ≤ prev * 1000000 + loopGap * 1000000 := by omega
      exact hnext
    exact .cons _ ⟨steadyPass_healthy t, hfollows⟩ (ih hts _)

theorem healthyRun_steadyPasses {t : ℤ} {ts : List ℤ} (hts : Spaced loopGap t ts) (w : World) :
    HealthyRun platform (steadyPasses platform (t :: ts)) w :=
  .cons _ ⟨steadyPass_healthy t, nofun⟩ (steadyPasses_follow hts _)

theorem steadyPasses_undisturbed (ts : List ℤ) :
    ∀ inputs ∈ steadyPasses platform ts, inputs.Undisturbed := by
  intro inputs hmem
  obtain ⟨t, -, rfl⟩ := List.mem_map.mp hmem
  exact steadyPass_undisturbed t

/-- Passes before the second poll, that poll, and passes that make the poller stale. -/
theorem steadyPasses_flap (hend : validateRestTarget platform.config = none) {early late : List ℤ}
    (hearly : ∀ t ∈ early, t < 1 + platform.config.restPollInterval)
    (hlate : ¬NeverStale platform.config.restPollInterval platform.config.presenceTimeout
      ⟨1 + platform.config.restPollInterval,
        1 + platform.config.restPollInterval + platform.config.restPollInterval⟩ late) :
    ¬NeverFlaps (execAll (loopPass platform)
      (steadyPasses platform (1 :: (early ++ [1 + platform.config.restPollInterval] ++ late)))
      (initialWorld platform.config (steadyPass platform 1))).2.presenceHistory := by
  have hinterval := restPollInterval_pos platform.config
  obtain ⟨w₁, hconnects, h₁⟩ := steadyPass_connects hend (t := 1) (by decide)
  obtain ⟨w₂, hwaits, h₂⟩ := h₁.run hend (by omega) hearly
  obtain ⟨w₃, hends, h₃⟩ := h₂.ends hend (by omega)
  have hflaps := h₃.run hend hlate
  simp only [steadyPasses, List.map_cons, List.map_append, List.append_assoc, List.cons_append,
    List.nil_append, execAll, hconnects, execAll_append] at hwaits hflaps ⊢
  rw [hwaits]
  dsimp only
  rw [hends]
  exact hflaps

/-- A timeout that the polls can miss lets the presence of a healthy device flap. -/
theorem exists_flapping (hend : validateRestTarget platform.config = none)
    (hlate : platform.config.presenceTimeout + 1 < platform.config.restPollInterval + loopGap) :
    ∃ ts, Spaced loopGap 1 ts ∧
      ¬NeverFlaps (execAll (loopPass platform) (steadyPasses platform (1 :: ts))
        (initialWorld platform.config (steadyPass platform 1))).2.presenceHistory := by
  have hinterval := restPollInterval_pos platform.config
  have htimeout := presenceTimeout_pos platform.config
  have hgap : 1 ≤ loopGap := by decide
  obtain ⟨n, hn⟩ := Int.eq_ofNat_of_zero_le (show 0 ≤ platform.config.restPollInterval - 1 by omega)
  obtain ⟨late, hspaced, hstale⟩ := exists_stale hinterval hgap (Int.le_of_lt htimeout) hlate
    (1 + platform.config.restPollInterval)
  refine ⟨ticks 1 n ++ [1 + platform.config.restPollInterval] ++ late, ?_, ?_⟩
  · have hticks : Spaced loopGap 1 (ticks 1 n ++ [1 + platform.config.restPollInterval]) :=
      spaced_ticks hgap (by omega) (by omega)
    exact hticks.append hspaced
  · refine steadyPasses_flap hend (fun t ht => ?_) hstale
    have hle := le_of_mem_ticks ht
    omega

end Flapping

/-- No healthy run whose passes meet `calls` takes presence down. -/
def HealthyRunsNeverFlap (platform : Platform) (calls : Inputs → Prop) : Prop :=
  ∀ start passes, HealthyRun platform passes (initialWorld platform.config start) →
    (∀ inputs ∈ passes, calls inputs) →
    NeverFlaps (execAll (loopPass platform) passes
      (initialWorld platform.config start)).2.presenceHistory

/-- It makes no difference whether MQTT calls throw. -/
theorem presence_never_flaps_iff {platform : Platform} (haccepted : Accepted platform.config) :
    (HealthyRunsNeverFlap platform Inputs.Undisturbed ↔
      1099 ≤ platform.config.timeouts.presenceTimeoutMs.toInt) ∧
    (HealthyRunsNeverFlap platform (fun _ => True) ↔
      1099 ≤ platform.config.timeouts.presenceTimeoutMs.toInt) := by
  have hend := validateRestTarget_eq_none (restEndpointError_eq_nil haccepted.hasEndpoint)
  have hgrace := grace_iff haccepted.timeoutsPositive
  have hflat (calls : Inputs → Prop)
      (hlong : 1099 ≤ platform.config.timeouts.presenceTimeoutMs.toInt) :
      HealthyRunsNeverFlap platform calls :=
    fun _ _ hrun _ => healthyRun_neverFlaps haccepted hlong hrun
  have hlong {calls : Inputs → Prop} (hcalls : ∀ inputs, inputs.Undisturbed → calls inputs)
      (hnever : HealthyRunsNeverFlap platform calls) :
      1099 ≤ platform.config.timeouts.presenceTimeoutMs.toInt := by
    by_contra hshort
    obtain ⟨ts, hspaced, hflaps⟩ := exists_flapping hend (Int.not_le.mp (mt hgrace.mp hshort))
    exact hflaps (hnever _ _ (healthyRun_steadyPasses hspaced _)
      fun inputs hmem => hcalls inputs (steadyPasses_undisturbed _ inputs hmem))
  exact ⟨⟨hlong fun _ => id, hflat _⟩, ⟨hlong fun _ _ => trivial, hflat _⟩⟩

theorem presence_never_flaps_default : HealthyRunsNeverFlap benchPlatform fun _ => True :=
  (presence_never_flaps_iff benchPlatform_accepted).2.mpr (by decide)

/-- A platform whose presence times out after a second. -/
def benchImpatient : Platform :=
  { benchPlatform with config.timeouts.presenceTimeoutMs := 1000 }

def benchImpatientText : Bytes :=
  bytes "\x7b\"mqtt\":\x7b\"host\":\"broker\",\"port\":1883,\"drone_id\":\"d1\"\x7d," ++
    bytes "\"ekinox\":\x7b\"ip\":\"10.0.0.2\"\x7d," ++
    bytes "\"timeouts\":\x7b\"presence_timeout_ms\":1000\x7d\x7d"

def benchImpatientJson : Json :=
  .obj [(bytes "mqtt", .obj [(bytes "host", .str (bytes "broker")), (bytes "port", .int 1883),
      (bytes "drone_id", .str (bytes "d1"))]),
    (bytes "ekinox", .obj [(bytes "ip", .str (bytes "10.0.0.2"))]),
    (bytes "timeouts", .obj [(bytes "presence_timeout_ms", .int 1000)])]

def benchImpatientLoadEnv : LoadEnv where
  parse content := .ok (if content = benchImpatientText then some benchImpatientJson else none)
  file := some benchImpatientText

theorem benchImpatient_accepted : Accepted benchImpatient.config :=
  ⟨benchImpatientLoadEnv, bytes "config.json", {}, rfl⟩

/-- At 2000 ms the next poll is not due, and at 2100 ms the last success is 1099 ms old. -/
theorem impatient_presence_flaps :
    let passes := steadyPasses benchImpatient
      (1 :: ([101, 201, 301, 401, 501, 601, 701, 801, 901] ++ [1001] ++
        [1101, 1201, 1301, 1401, 1501, 1601, 1701, 1801, 1901, 2000, 2100]))
    let w := initialWorld benchImpatient.config (steadyPass benchImpatient 1)
    Accepted benchImpatient.config ∧ HealthyRun benchImpatient passes w ∧
      (∀ inputs ∈ passes, inputs.Undisturbed) ∧
      ¬NeverFlaps (execAll (loopPass benchImpatient) passes w).2.presenceHistory := by
  intro passes w
  have hend := validateRestTarget_eq_none (restEndpointError_eq_nil benchImpatient_accepted.hasEndpoint)
  refine ⟨benchImpatient_accepted, healthyRun_steadyPasses (by decide) w,
    steadyPasses_undisturbed _, ?_⟩
  exact steadyPasses_flap hend (by decide) (by decide)

end Ironsoft.Ekinox
