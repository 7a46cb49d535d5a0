import Ironsoft.EkinoxOutcomes
import Ironsoft.EkinoxPublishes
import Ironsoft.PresenceModel

/-!
# Presence of the service

The functions of the service that touch presence are steps of the presence automaton, and
all others leave it alone.
-/
namespace Ironsoft.Ekinox
open Effect PresenceModel

set_option synthInstance.maxSize 400000
set_option synthInstance.maxHeartbeats 200000

def Event.presence? : Event → Option PresenceEvent
  | .mqtt .connect false => some .connect
  | .mqtt (.publish ⟨_, .presence payload, _, _⟩) false => some (.announced payload.online)
  | .restResult result _ => some (.result result.restSuccess)
  | _ => none

abbrev World.presenceHistory : World → List PresenceEvent := heard Event.presence?

def World.presenceView (w : World) : PresenceView where
  connected := w.conn.connected
  online := w.presence.presenceOnline
  alive := w.rest.restAlive
  streak := w.rest.restSuccessStreak
  history := w.presenceHistory

/-- `w'` is reached from `w` by steps of the automaton. -/
def Presents (quiet strict : Prop) (w w' : World) : Prop :=
  Relation.ReflTransGen (PresenceStep quiet strict countUp) w.presenceView w'.presenceView

section Frames

variable (quiet strict : Prop)

instance : IsPreorder World (Presents quiet strict) where
  refl _ := .refl
  trans _ _ _ := .trans

instance : IgnoresReadings (Presents quiet strict) :=
  ⟨fun _ => .refl, fun _ => .refl, fun _ => .refl, fun _ => .refl, fun _ => .refl⟩
instance : IgnoresReplies (Presents quiet strict) := ⟨fun _ => .refl⟩
instance : atLink.Ignored (Presents quiet strict) := ⟨fun _ _ => .refl⟩
instance : atLogger.Ignored (Presents quiet strict) := ⟨fun _ _ => .refl⟩
instance : atError.Ignored (Presents quiet strict) := ⟨fun _ _ => .refl⟩
instance : atMarker.Ignored (Presents quiet strict) := ⟨fun _ _ => .refl⟩
instance : atRetry.Ignored (Presents quiet strict) := ⟨fun _ _ => .refl⟩
instance : atSensor.Ignored (Presents quiet strict) := ⟨fun _ _ => .refl⟩
instance : atTimers.Ignored (Presents quiet strict) := ⟨fun _ _ => .refl⟩
instance : atPending.Ignored (Presents quiet strict) := ⟨fun _ _ => .refl⟩
instance : atBatch.Ignored (Presents quiet strict) := ⟨fun _ _ => .refl⟩
instance (topic : Bytes) (s : StatusPayload) (qos : ℕ) (retained threw : Bool) :
    Emits (Presents quiet strict) (.mqtt (.publish ⟨topic, .status s, qos, retained⟩) threw) :=
  ⟨fun _ => .refl⟩
instance (topic : Bytes) (n m : ℤ) (qos : ℕ) (retained threw : Bool) :
    Emits (Presents quiet strict) (.mqtt (.publish ⟨topic, .heartbeat n m, qos, retained⟩) threw) :=
  ⟨fun _ => .refl⟩
instance (topic : Bytes) (a : Ack) (ts : ℤ) (qos : ℕ) (retained threw : Bool) :
    Emits (Presents quiet strict) (.mqtt (.publish ⟨topic, .ack a ts, qos, retained⟩) threw) :=
  ⟨fun _ => .refl⟩
instance (a : Ack) : Emits (Presents quiet strict) (.publishAck a) := ⟨fun _ => .refl⟩
instance (r : RestRequest) : Emits (Presents quiet strict) (.restRequest r) := ⟨fun _ => .refl⟩
instance (m : Bytes) : Emits (Presents quiet strict) (.errorSet m) := ⟨fun _ => .refl⟩
instance (e : SbgEvent) : Emits (Presents quiet strict) (.sbg e) := ⟨fun _ => .refl⟩
instance : Emits (Presents quiet strict) .sessionOpened := ⟨fun _ => .refl⟩
instance (t : ℤ) : Emits (Presents quiet strict) (.linkAlive t) := ⟨fun _ => .refl⟩
instance (c : CommandMessage) : Emits (Presents quiet strict) (.commandArrived c) := ⟨fun _ => .refl⟩
instance (c : CommandMessage) : Emits (Presents quiet strict) (.commandHandled c) := ⟨fun _ => .refl⟩

end Frames

section Announcements

variable {env : Env} {quiet : Prop}

theorem presenceView_noticeDeferred (online : Bool) (reason : Bytes) (w : World) :
    (w.noticeDeferred env online reason).presenceView = { w.presenceView with online := online } :=
  congrArg (PresenceView.mk _ _ _ _) World.heard_noticeDeferred

theorem presenceView_noticeRefused (online : Bool) (reason : Bytes) (w : World) :
    (w.noticeRefused env online reason).presenceView = w.presenceView :=
  congrArg (PresenceView.mk _ _ _ _) World.heard_noticeRefused

theorem presenceView_noticePublished (online : Bool) (reason : Bytes) (w : World) :
    (w.noticePublished env online reason).presenceView =
      { w.presenceView with online := online, history := .announced online :: w.presenceHistory } :=
  congrArg (PresenceView.mk _ _ _ _) World.heard_noticePublished

theorem publishPresence_announces (hquiet : quiet → env.QuietPublishes) (online : Bool)
    (reason : Bytes) (w : World) :
    wp (publishPresence online reason) env
      (fun _ w' => Announces quiet online w.presenceView w'.presenceView)
      (fun _ w' => Announces quiet online w.presenceView w'.presenceView) w := by
  rw [wp_publishPresence, presenceView_noticeDeferred, presenceView_noticeRefused,
    presenceView_noticePublished]
  split_ifs with hconn hrate hthrew
  · exact .remembered (.inl hconn)
  · have hsame : w.presence.presenceOnline = online := hrate.1
    subst hsame
    exact .remembered (.inr rfl)
  · refine Announces.lost fun hq => ?_
    exact Bool.false_ne_true ((hquiet hq _ .presence (by decide)).symm.trans hthrew)
  · exact .published (eq_true_of_ne_false hconn)

/-- Nothing holds back the first announcement of a connection. -/
theorem publishPresence_first (hquiet : quiet → env.QuietPublishes) {w : World}
    (hconn : w.conn.connected = true) (hemit : w.presence.lastPresenceEmitTsMs = 0) (online : Bool)
    (reason : Bytes) :
    wp (publishPresence online reason) env
      (fun _ w' => w'.presenceView =
        { w.presenceView with online := online, history := .announced online :: w.presenceView.history })
      (fun _ w' => ¬quiet ∧ w'.presenceView = w.presenceView) w := by
  rw [wp_publishPresence]
  split_ifs with hoff hrate hthrew
  · exact absurd (hoff.symm.trans hconn) Bool.false_ne_true
  · have hpos : 0 < w.presence.lastPresenceEmitTsMs := hrate.2.1
    omega
  · refine ⟨fun hq => ?_, presenceView_noticeRefused online reason w⟩
    exact Bool.false_ne_true ((hquiet hq _ .presence (by decide)).symm.trans hthrew)
  · exact presenceView_noticePublished online reason w

theorem updatePresenceState_announces (hquiet : quiet → env.QuietPublishes) (nowMs : ℤ)
    (reason : Bytes) (w : World) :
    wp (updatePresenceState nowMs reason) env
      (fun _ w' => Announces quiet (shouldOnline env.config w nowMs) w.presenceView w'.presenceView)
      (fun _ w' => Announces quiet (shouldOnline env.config w nowMs) w.presenceView w'.presenceView)
      w := by
  simp only [updatePresenceState, wp_bind, wp_get, wp_read]
  exact publishPresence_announces hquiet _ _ w

theorem markRestResult_presents {strict : Prop} (hquiet : quiet → env.QuietPublishes) {nowMs : ℤ}
    (hclock : strict → 0 < nowMs) (result : LoggerResult) (contextReason : Bytes) :
    Respects env (Presents quiet strict) (markRestResult result contextReason nowMs) := by
  rw [respects_iff_wp]
  intro w
  rw [wp_markRestResult]
  dsimp only
  split_ifs with hsuccess hoffline
  · generalize hw₁ : World.resultMarked _ _ _ _ _ = w₁
    have hview : w₁.presenceView = w.presenceView.succeeded countUp := by
      rw [← hw₁]
      refine congrArg (PresenceView.mk _ _ true _) ?_
      rw [← hsuccess]
      rfl
    have hfail : w₁.rest.restFailStreak = 0 := by rw [← hw₁]; rfl
    have hok : w₁.rest.lastRestOkTsMs = nowMs := by rw [← hw₁]; rfl
    have hstep {w' : World} (ha : Announces quiet (shouldOnline env.config w₁ nowMs)
        w₁.presenceView w'.presenceView) : Presents quiet strict w w' := by
      have hconn : w₁.conn = w.conn := by rw [← hw₁]; rfl
      have hpresence : w₁.presence = w.presence := by rw [← hw₁]; rfl
      have hstreak : w₁.rest.restSuccessStreak = countUp w.rest.restSuccessStreak := by
        rw [← hw₁]; rfl
      rw [hview] at ha
      refine .single (.success _ (fun h => ?_) (fun hs hc ho => ?_) ha)
      · obtain ⟨hc, -, hready⟩ := shouldOnline_eq_true.mp h
        rw [hconn] at hc
        rw [hstreak, hpresence] at hready
        exact ⟨hc, hready⟩
      · have hfresh : restOfflineCondition env.config w₁ nowMs = false :=
          restOfflineCondition_of_now (by omega) hok (hclock hs)
        exact shouldOnline_eq_true.mpr ⟨hconn ▸ hc, hfresh, .inr (hpresence ▸ ho)⟩
    exact wp_mono (updatePresenceState_announces hquiet _ _ w₁) (fun _ _ => hstep)
      (fun _ _ => hstep)
  · generalize hw₁ : World.resultMarked _ _ _ _ _ = w₁
    have hview : w₁.presenceView = w.presenceView.failed true := by
      rw [← hw₁]
      refine congrArg (PresenceView.mk _ _ false 0) ?_
      rw [← eq_false_of_ne_true hsuccess]
      rfl
    have hoff₁ : shouldOnline env.config w₁ nowMs = false := by
      rw [← hw₁]
      exact shouldOnline_of_offline hoffline
    have hstep {w' : World} (ha : Announces quiet (shouldOnline env.config w₁ nowMs)
        w₁.presenceView w'.presenceView) : Presents quiet strict w w' := by
      rw [hview, hoff₁] at ha
      exact .single (.outage ha)
    exact wp_mono (updatePresenceState_announces hquiet _ _ w₁) (fun _ _ => hstep)
      (fun _ _ => hstep)
  · generalize hw₁ : World.resultMarked _ _ _ _ _ = w₁
    have hview : w₁.presenceView = w.presenceView.failed false := by
      rw [← hw₁]
      refine congrArg (PresenceView.mk _ _ true 0) ?_
      rw [← eq_false_of_ne_true hsuccess]
      rfl
    unfold Presents
    rw [hview]
    exact .single .failure

/-- The age test takes presence offline and leaves the streak as it is. -/
theorem refreshRestHealth_presents {strict : Prop} (hquiet : quiet → env.QuietPublishes)
    {nowMs : ℤ} {w : World}
    (hstrict : strict → restOfflineCondition env.config w nowMs = true → w.conn.connected = true →
      w.presence.presenceOnline = true → w.rest.restSuccessStreak = 0) :
    wp (refreshRestHealth nowMs) env (fun _ w' => Presents quiet strict w w')
      (fun _ w' => Presents quiet strict w w') w := by
  simp only [refreshRestHealth, wp_updateLinkHealth, wp_bind, wp_ite, wp_get, wp_read,
    Part.wp_update, wp_pure]
  split_ifs with hfresh halive
  · exact .single .revive
  · have hoffline := eq_true_of_ne_false hfresh
    have hoff := shouldOnline_of_offline hoffline
    generalize hw₁ : World.withLinkHealth _ _ _ = w₁
    have hview : w₁.presenceView = { w.presenceView with alive := false } := by
      rw [← hw₁]
      rfl
    have hoff₁ : shouldOnline env.config w₁ nowMs = false := by
      rw [← hw₁]
      exact hoff
    have hstep {w' : World} (ha : Announces quiet (shouldOnline env.config w₁ nowMs)
        w₁.presenceView w'.presenceView) : Presents quiet strict w w' := by
      rw [hview, hoff₁] at ha
      exact .single (.ageOut (fun hs => hstrict hs hoffline) ha)
    exact wp_mono (updatePresenceState_announces hquiet _ _ w₁) (fun _ _ => hstep)
      (fun _ _ => hstep)
  · exact .refl

theorem connectionLost_presents {strict : Prop} (hquiet : quiet → env.QuietPublishes) :
    Respects env (Presents quiet strict) connectionLost := by
  refine respects_iff_wp.mpr fun w => connectionLost_drops fun w₁ nowMs h => ?_
  have hview : w₁.presenceView = w.presenceView.dropped := by
    simp only [World.presenceView, PresenceView.dropped, h.connected, h.presence, h.rest]
    rw [World.presenceHistory, h.heard _ rfl rfl]
  have hoff : shouldOnline env.config w₁ nowMs = false := by
    simp [shouldOnline, h.connected]
  have hstep {w' : World} (ha : Announces quiet (shouldOnline env.config w₁ nowMs)
      w₁.presenceView w'.presenceView) : Presents quiet strict w w' := by
    rw [hview, hoff] at ha
    unfold Presents
    rw [ha.eq_of_dropped]
    exact .single .dropped
  exact wp_mono (updatePresenceState_announces hquiet _ _ w₁) (fun _ _ => hstep)
    (fun _ _ => hstep)

theorem disconnect_presents {strict : Prop} : Respects env (Presents quiet strict) disconnect := by
  rw [respects_iff_wp]
  intro w
  rw [wp_disconnect]
  split_ifs
  · exact .refl
  · exact .single .disconnected
  · exact .refl

end Announcements

/-- Where the functions of the service are steps of the automaton. -/
class PresenceContext (env : Env) (quiet strict : Prop) : Prop where
  publishes : quiet → env.QuietPublishes
  clock : strict → ∀ k, 0 < monoMs (env.steady k)
  endpoint : restEndpointError env.config = []

section Service

variable (env : Env) (quiet strict : Prop) [h : PresenceContext env quiet strict]

instance (result : LoggerResult) (contextReason : Bytes) (k : ℕ) :
    Respects env (Presents quiet strict)
      (markRestResult result contextReason (monoMs (env.steady k))) :=
  markRestResult_presents h.publishes (fun hs => h.clock hs k) result contextReason

instance : Respects env (Presents quiet strict) connectionLost :=
  connectionLost_presents h.publishes

instance : Respects env (Presents quiet strict) disconnect := disconnect_presents

instance (id type : Bytes) : Wraps env (Presents quiet strict) (checkedRestEndpoint id type) where
  wrapped body hbody := by
    unfold checkedRestEndpoint
    apply Respects.of_read
    rw [if_neg (not_not.mpr h.endpoint)]
    exact hbody

instance : IgnoresReadings (Keeping World.presenceView) :=
  ⟨fun _ => rfl, fun _ => rfl, fun _ => rfl, fun _ => rfl, fun _ => rfl⟩
instance (topic : Bytes) (threw : Bool) :
    Emits (Keeping World.presenceView) (.mqtt (.subscribe topic) threw) := ⟨fun _ => rfl⟩

/-- The session begins with an announcement of being offline. -/
theorem startSession_presents {w : World} {older : List PresenceEvent}
    (hw : w.presenceHistory = .connect :: older) :
    wp startSession env (fun _ w' => Presents quiet strict w w')
      (fun _ w' => Presents quiet strict w w') w := by
  simp only [startSession, resetSession, setNextRestPoll, setState, updatePresenceState, wp_bind,
    wp_monoNow, wp_get, wp_read, Part.wp_update]
  generalize hw₁ : World.tookSteady (Part.set atLogger _ _) = w₁
  have hview : w₁.presenceView = w.presenceView.restarted := by
    rw [← hw₁]
    rfl
  have hconn : w₁.conn.connected = true := by
    rw [← hw₁]
    rfl
  have hemit : w₁.presence.lastPresenceEmitTsMs = 0 := by
    rw [← hw₁]
    rfl
  have hoffline (t : ℤ) : restOfflineCondition env.config w₁ t = true := by
    rw [← hw₁]
    rfl
  rw [shouldOnline_of_offline (hoffline _)]
  refine wp_mono (publishPresence_first h.publishes hconn hemit _ _) (fun _ w₂ h₂ => ?_)
    fun _ w₂ hlost => ?_
  · have hstep : Presents quiet strict w w₂ := by
      unfold Presents
      rw [h₂, hview]
      exact .single (.session hw)
    exact Respects.wp_of inferInstance fun _ => trans_of _ hstep
  · obtain ⟨hq, h₂⟩ := hlost
    unfold Presents
    rw [h₂, hview]
    exact .single (.sessionLost hq hw)

theorem connectOnce_presents {w : World} (hw : w.conn.connected = false) :
    wp connectOnce env (fun _ w' => Presents quiet strict w w')
      (fun _ w' => Presents quiet strict w w') w := by
  unfold connectOnce
  refine wp_catchMqtt_respects env (Presents quiet strict) inferInstance ?_
  simp only [setState, wp_bind, Part.wp_update, wp_mqttCall, wp_read]
  split_ifs
  · exact .refl
  generalize hw₁ : World.said _ (.mqtt .connect false) = w₁
  have hview : w₁.presenceView =
      { w.presenceView with history := .connect :: w.presenceView.history } := by
    rw [← hw₁]
    rfl
  have hkeep (topic : Bytes) (v : World) :
      wp (subscribeAndLog topic) env (fun _ v' => v'.presenceView = v.presenceView)
        (fun _ v' => v'.presenceView = v.presenceView) v := by
    have hkeeps : Respects env (Keeping World.presenceView) (subscribeAndLog topic) := inferInstance
    exact respects_iff_wp.mp hkeeps v
  have hconnecting {v : World} (hv : v.presenceView = w₁.presenceView) :
      Presents quiet strict w v := by
    unfold Presents
    rw [hv, hview]
    exact .single (.connecting hw)
  refine wp_mono (hkeep _ w₁) (fun _ w₂ h₂ => ?_) fun _ _ => hconnecting
  rw [wp_bind]
  refine wp_mono (hkeep _ w₂) (fun _ w₃ h₃ => ?_) fun _ _ h₃ => hconnecting (h₃.trans h₂)
  rw [wp_bind]
  have hstart := startSession_presents env quiet strict
    (congrArg PresenceView.history (h₃.trans (h₂.trans hview)))
  have hsession := hconnecting (h₃.trans h₂)
  exact wp_mono hstart (fun _ _ => trans_of _ hsession) fun _ _ => trans_of _ hsession

instance (now : TimePoint) : Respects env (Presents quiet strict) (ensureConnection now) := by
  rw [respects_iff_wp]
  intro w
  rw [wp_ensureConnection]
  split_ifs with hconn hlate
  · exact .refl
  · exact .refl
  have hoff : (w.attempting now).conn.connected = false := eq_false_of_ne_true hconn
  exact wp_mono (connectOnce_presents env quiet strict hoff) (fun _ _ h => h) fun _ _ h => h

instance : Respects env (Presents quiet strict) handleFront := inferInstance

/-- The operation does not give presence up by age while successes are being counted, and
stamps results with times after the epoch of the clock. -/
def Op.KeepsCount (config : EkinoxConfig) : Op → World → Prop
  | .refreshRestHealth nowMs, w =>
    restOfflineCondition config w nowMs = true → w.conn.connected = true →
      w.presence.presenceOnline = true → w.rest.restSuccessStreak = 0
  | .requestLoggerState _ nowMs, _ => 0 < nowMs
  | .markRestResult _ _ nowMs, _ => 0 < nowMs
  | .restTimer nowMs, _ => 0 < nowMs
  | _, _ => True

theorem Op.run_presents {op : Op} {w : World}
    (hop : strict → op.KeepsCount env.config w ∧ op ≠ .shutdown) :
    Presents quiet strict w (exec op.run env w).2 := by
  have hmark (result : LoggerResult) (contextReason : Bytes) {nowMs : ℤ} (ht : strict → 0 < nowMs) :
      Respects env (Presents quiet strict) (Ekinox.markRestResult result contextReason nowMs) :=
    markRestResult_presents h.publishes ht result contextReason
  cases op
  case refreshRestHealth nowMs =>
    exact exec_of_wp (refreshRestHealth_presents h.publishes fun hs => (hop hs).1)
  case requestLoggerState contextReason nowMs =>
    have hresult (result : LoggerResult) := hmark result contextReason fun hs => (hop hs).1
    refine Respects.relates ?_ w
    unfold Op.run
    infer_instance
  case markRestResult result contextReason nowMs =>
    exact (hmark result contextReason fun hs => (hop hs).1).related w
  case restTimer nowMs =>
    have hresult (result : LoggerResult) (contextReason : Bytes) :=
      hmark result contextReason fun hs => (hop hs).1
    refine Respects.relates ?_ w
    unfold Op.run
    infer_instance
  case shutdown =>
    have hopen : ¬strict := fun hs => (hop hs).2 rfl
    have hoff (reason : Bytes) : Respects env (Presents quiet strict) (publishPresence false reason) :=
      respects_iff_wp.mpr fun v => wp_mono (publishPresence_announces h.publishes false reason v)
        (fun _ _ ha => .single (.closing hopen ha)) fun _ _ ha => .single (.closing hopen ha)
    refine Respects.relates ?_ w
    unfold Op.run
    infer_instance
  all_goals
    refine Respects.relates ?_ w
    unfold Op.run
    dsimp only
    infer_instance

end Service

/-- The `state` of a presence message. -/
def presenceState (online : Bool) : Json :=
  .str (if online then bytes "online" else bytes "offline")

/-- The presence a broker retains is the one announced last. -/
theorem retainedOn_presence {config : EkinoxConfig} {trace : List Event}
    (h : ∀ e ∈ trace, e.Addressed config) :
    (retainedOn config.topics.presence trace).map (fun body => body.toJson.get (bytes "state")) =
      (shown (trace.filterMap Event.presence?)).map presenceState := by
  induction trace with
  | nil => rfl
  | cons e older ih =>
    obtain ⟨he, holder⟩ := List.forall_mem_cons.mp h
    have ih := ih holder
    cases e with
    | mqtt call threw =>
      cases threw with
      | true =>
        cases call with
        | publish m =>
          obtain ⟨topic, body, qos, retained⟩ := m
          cases body <;> exact ih
        | connect | subscribe | disconnect => exact ih
      | false =>
        cases call with
        | publish m =>
          obtain ⟨topic, body, qos, retained⟩ := m
          rw [retainedOn_cons_publish]
          cases body with
          | presence payload =>
            have hpresence : topic = config.topics.presence ∧ retained = true := he
            rw [if_pos hpresence]
            rfl
          | status payload =>
            rw [if_neg fun h => status_topic_ne_presence config (he.1.symm.trans h.1)]
            exact ih
          | heartbeat | ack =>
            rw [if_neg fun h => Bool.false_ne_true (he.2.symm.trans h.2)]
            exact ih
        | connect | subscribe | disconnect => exact ih
    | _ => exact ih

theorem fresh_initial (config : EkinoxConfig) (inputs : Inputs) :
    Fresh (initialWorld config inputs).presenceView :=
  ⟨nofun, nofun⟩

theorem addressed_initial (config : EkinoxConfig) (inputs : Inputs) :
    AllAddressed config (initialWorld config inputs) :=
  fun _ h => absurd h List.not_mem_nil

theorem Accepted.presenceContext {platform : Platform} (h : Accepted platform.config)
    {inputs : Inputs} (hquiet : inputs.QuietPublishes) :
    PresenceContext ⟨platform, inputs⟩ True False :=
  ⟨fun _ => hquiet, nofun, restEndpointError_eq_nil h.hasEndpoint⟩

theorem execSteps_fresh {platform : Platform} (haccepted : Accepted platform.config)
    {steps : List Step} (hquiet : ∀ s ∈ steps, s.inputs.QuietPublishes) {w : World}
    (hw : Fresh w.presenceView) : Fresh (execSteps platform steps w).2.presenceView := by
  refine execSteps_preserves (I := fun w => Fresh w.presenceView) (fun s hs => ⟨fun v hv => ?_⟩) hw
  have hcontext := haccepted.presenceContext (hquiet s hs)
  have hrun : Presents True False v (exec s.op.run ⟨platform, s.inputs⟩ v).2 :=
    Op.run_presents _ True False nofun
  exact hv.steps trivial hrun

/-- Right after a refresh nobody is online whose last success is too old. -/
theorem refreshRestHealth_fresh (env : Env) (hquiet : env.QuietPublishes) {w : World}
    (hw : Fresh w.presenceView) (nowMs : ℤ) :
    let w' := (exec (refreshRestHealth nowMs) env w).2
    w'.presence.presenceOnline = true → restOfflineCondition env.config w' nowMs = false := by
  let Q (w' : World) : Prop :=
    w'.presence.presenceOnline = true → restOfflineCondition env.config w' nowMs = false
  refine exec_of_wp (I := Q) ?_
  simp only [refreshRestHealth, wp_updateLinkHealth, wp_bind, wp_ite, wp_get, wp_read,
    Part.wp_update, wp_pure]
  split_ifs with hfresh halive
  · exact fun _ => hfresh
  · generalize hw₁ : World.withLinkHealth _ _ _ = w₁
    have hoff₁ : shouldOnline env.config w₁ nowMs = false := by
      rw [← hw₁]
      exact shouldOnline_of_offline (eq_true_of_ne_false hfresh)
    have hstep {w' : World} (ha : Announces True (shouldOnline env.config w₁ nowMs)
        w₁.presenceView w'.presenceView) : Q w' := by
      rw [hoff₁] at ha
      exact fun hon => absurd ((ha.online_eq trivial).symm.trans hon) Bool.false_ne_true
    exact wp_mono (updatePresenceState_announces (fun _ => hquiet) _ _ w₁) (fun _ _ => hstep)
      fun _ _ => hstep
  · exact fun hon => absurd (hw.alive hon) halive

/-- While connected the broker shows the presence the service believes in, and a refresh
leaves no service online without a recent success. -/
theorem no_stale_online {platform : Platform} (haccepted : Accepted platform.config)
    (inputs : Inputs) {steps : List Step} (hquiet : ∀ s ∈ steps, s.inputs.QuietPublishes) :
    let w := (execSteps platform steps (initialWorld platform.config inputs)).2
    (w.conn.connected = true →
      (retainedOn platform.config.topics.presence w.trace).map
        (fun body => body.toJson.get (bytes "state")) =
          some (presenceState w.presence.presenceOnline)) ∧
    ∀ next : Inputs, next.QuietPublishes → ∀ nowMs,
      let w' := (exec (refreshRestHealth nowMs) ⟨platform, next⟩ w).2
      w'.presence.presenceOnline = true →
        restOfflineCondition platform.config w' nowMs = false ∧ w'.rest.restFailStreak < 3 ∧
          w'.rest.ageMs nowMs ≤ restGrace platform.config w'.status.recordingActive := by
  intro w
  have hfresh : Fresh w.presenceView :=
    execSteps_fresh haccepted hquiet (fresh_initial platform.config inputs)
  have haddressed : AllAddressed platform.config w :=
    execSteps_addressed steps (addressed_initial platform.config inputs)
  constructor
  · intro hconn
    rw [retainedOn_presence haddressed]
    exact congrArg (Option.map presenceState) (hfresh.shown hconn)
  · intro next hnext nowMs w' hon
    have hoffline : restOfflineCondition platform.config w' nowMs = false :=
      refreshRestHealth_fresh ⟨platform, next⟩ hnext hfresh nowMs hon
    obtain ⟨hfail, -, hage⟩ := restOfflineCondition_eq_false.mp hoffline
    exact ⟨hoffline, hfail, hage⟩

/-- After two polls the broker shows a service that is online. -/
theorem no_stale_online_polled :
    let steps := [⟨.ensureConnection (milliseconds 1000), benchHealthy⟩,
      ⟨.requestLoggerState (bytes "poll.timer") 1000, benchHealthy⟩]
    let w := (execSteps benchPlatform steps (initialWorld benchPlatform.config benchHealthy)).2
    (retainedOn benchPlatform.config.topics.presence w.trace).map
      (fun body => body.toJson.get (bytes "state")) = some (presenceState true) := by
  intro steps w
  have hquiet : ∀ s ∈ steps, s.inputs.QuietPublishes := by
    simp [steps, benchHealthy, benchInputs_quiet]
  have hshown := (no_stale_online benchPlatform_accepted benchHealthy hquiet).1 (by decide)
  have honline : w.presence.presenceOnline = true := by decide
  rw [← honline]
  exact hshown

section Hysteresis

instance (topic : Bytes) (s : StatusPayload) (qos : ℕ) (retained threw : Bool) :
    Unheard Event.presence? (.mqtt (.publish ⟨topic, .status s, qos, retained⟩) threw) := ⟨rfl⟩
instance (threw : Bool) : Unheard Event.presence? (.mqtt .disconnect threw) := ⟨rfl⟩
instance (e : SbgEvent) : Unheard Event.presence? (.sbg e) := ⟨rfl⟩

/-- Going offline for good needs no successes. -/
theorem shutdown_hysteresis (env : Env) :
    Respects env (Preserving fun w => Hysteresis w.presenceHistory) shutdown := by
  have hkept {x : M Unit} (hx : Respects env (Keeping World.presenceHistory) x) :
      Respects env (Preserving fun w => Hysteresis w.presenceHistory) x :=
    hx.preserving fun w w' hw h => hw ▸ h
  have hsensor := hkept (x := handleSensorDisconnect) inferInstance
  have hstatus := hkept (x := publishStatus) inferInstance
  have hdisconnect := hkept (x := disconnect) inferInstance
  have hpresence (reason : Bytes) :
      Respects env (Preserving fun w => Hysteresis w.presenceHistory)
        (publishPresence false reason) := by
    refine respects_iff_wp.mpr fun w =>
      wp_mono (publishPresence_announces (nofun : False → env.QuietPublishes) false reason w) ?_ ?_
    · exact fun _ _ ha hw => Hysteresis.announces hw ha nofun
    · exact fun _ _ ha hw => Hysteresis.announces hw ha nofun
  infer_instance

theorem counted_initial (config : EkinoxConfig) (inputs : Inputs) :
    Counted (initialWorld config inputs).presenceView :=
  ⟨nofun, nofun⟩

/-- A step that keeps the count, with the clock past its epoch. -/
def Step.KeepsCount (config : EkinoxConfig) (s : Step) (w : World) : Prop :=
  (∀ k, 0 < monoMs (s.inputs.steady k)) ∧ s.op.KeepsCount config w

theorem execStep_presents {platform : Platform} (haccepted : Accepted platform.config) {s : Step}
    {w : World} (hs : s.KeepsCount platform.config w) (hopen : s.op ≠ .shutdown) :
    Presents False True w (execStep platform s w).2 := by
  have hcontext : PresenceContext ⟨platform, s.inputs⟩ False True :=
    ⟨nofun, fun _ => hs.1, restEndpointError_eq_nil haccepted.hasEndpoint⟩
  exact Op.run_presents ⟨platform, s.inputs⟩ False True fun _ => ⟨hs.2, hopen⟩

theorem execSteps_hysteresis {platform : Platform} (haccepted : Accepted platform.config)
    {steps : List Step} (hlast : ∀ s ∈ steps.dropLast, s.op ≠ .shutdown) {w : World}
    (hsteps : AllSteps (execStep platform) (Step.KeepsCount platform.config) steps w)
    (hcounted : Counted w.presenceView) (hw : Hysteresis w.presenceHistory) :
    Hysteresis (execSteps platform steps w).2.presenceHistory := by
  induction steps generalizing w with
  | nil => exact hw
  | cons s steps ih =>
    obtain ⟨hs, hrest⟩ := hsteps
    by_cases hclose : s.op = .shutdown
    · have hnil : steps = [] := by
        by_contra hne
        refine hlast s ?_ hclose
        rw [List.dropLast_cons_of_ne_nil hne]
        exact List.mem_cons_self
      have hshutdown : Hysteresis (execStep platform s w).2.presenceHistory := by
        unfold execStep
        rw [hclose]
        exact (shutdown_hysteresis ⟨platform, s.inputs⟩).related w hw
      subst hnil
      unfold execSteps execAll
      revert hshutdown
      rcases execStep platform s w with ⟨_ | _, w'⟩ <;> exact id
    · have hpresents := execStep_presents haccepted hs hclose
      have hw' : Hysteresis (execStep platform s w).2.presenceHistory :=
        Hysteresis.steps countUp_le hw hcounted hpresents
      have hcounted' : Counted (execStep platform s w).2.presenceView :=
        hcounted.steps countUp_le hpresents
      have htail : ∀ t ∈ steps.dropLast, t.op ≠ .shutdown := by
        intro t ht
        refine hlast t ?_
        rw [List.dropLast_cons_of_ne_nil (by rintro rfl; cases ht)]
        exact List.mem_cons_of_mem s ht
      unfold execSteps execAll
      revert hrest hw' hcounted'
      rcases execStep platform s w with ⟨_ | _, w'⟩
      · exact fun _ hw' _ => hw'
      · exact fun hrest hw' hcounted' => ih htail hrest hcounted' hw'

/-- Presence hysteresis, in every run that keeps the count and leaves the loop at its end. -/
theorem presence_hysteresis {platform : Platform} (haccepted : Accepted platform.config)
    (inputs : Inputs) {steps : List Step} (hlast : ∀ s ∈ steps.dropLast, s.op ≠ .shutdown)
    (hsteps : AllSteps (execStep platform) (Step.KeepsCount platform.config) steps
      (initialWorld platform.config inputs)) :
    Hysteresis (execSteps platform steps (initialWorld platform.config inputs)).2.presenceHistory :=
  execSteps_hysteresis haccepted hlast hsteps (counted_initial platform.config inputs)
    hysteresis_nil

theorem presence_hysteresis_polled :
    let steps := [⟨.ensureConnection (milliseconds 1000), benchHealthy⟩,
      ⟨.requestLoggerState (bytes "poll.timer") 1000, benchHealthy⟩,
      ⟨.requestLoggerState (bytes "poll.timer") 3000, benchHealthy⟩]
    Hysteresis (execSteps benchPlatform steps
      (initialWorld benchPlatform.config benchHealthy)).2.presenceHistory := by
  refine presence_hysteresis benchPlatform_accepted benchHealthy ?_ ?_
  · simp
  · refine allSteps_of_forall _ ?_
    simp [Step.KeepsCount, Op.KeepsCount, benchHealthy, benchInputs, monoMs, milliseconds]

/-- The age test leaves the streak at two, and one success brings presence back. -/
theorem aged_out_presence_returns :
    Accepted benchPlatform.config ∧
    let steps := [⟨.ensureConnection (milliseconds 1000), benchHealthy⟩,
      ⟨.requestLoggerState (bytes "poll.timer") 1000, benchHealthy⟩,
      ⟨.refreshRestHealth 7000, benchHealthy⟩,
      ⟨.requestLoggerState (bytes "poll.timer") 8000, benchHealthy⟩]
    ¬Hysteresis (execSteps benchPlatform steps
      (initialWorld benchPlatform.config benchHealthy)).2.presenceHistory := by
  refine ⟨benchPlatform_accepted, ?_⟩
  intro steps h
  have hhistory : (execSteps benchPlatform steps
      (initialWorld benchPlatform.config benchHealthy)).2.presenceHistory =
      [.announced true, .result true, .announced false, .announced true, .result true,
        .result true, .announced false, .connect] := by
    decide
  obtain ⟨older, hresults⟩ := h [] _ [true] hhistory rfl
  cases hresults

end Hysteresis

end Ironsoft.Ekinox
