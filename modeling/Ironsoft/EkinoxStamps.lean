import Ironsoft.EkinoxApiRecovery

/-!
# Stamps of successes

A success is stamped with the time its request was passed. The handlers read the clock for every
request; the timer of the loop passes the reading its pass began with, which can be earlier than a
stamp that a command of the same pass has left.
-/
namespace Ironsoft.Ekinox
open Effect

set_option synthInstance.maxSize 400000
set_option synthInstance.maxHeartbeats 200000

/-- A success with its stamp, or a connection that is made. -/
def Event.stamp? : Event → Option (Option ℤ)
  | .restResult result nowMs => if result.restSuccess then some (some nowMs) else none
  | .mqtt .connect false => some none
  | _ => none

abbrev World.stampLog : World → List (Option ℤ) := heard Event.stamp?

/-- The part of the log since the last connection. -/
def sinceConnect : List (Option ℤ) → List ℤ
  | some nowMs :: log => nowMs :: sinceConnect log
  | _ => []

/-- The stamps of the successes of this connection, newest first. -/
def World.stamps (w : World) : List ℤ := sinceConnect w.stampLog

/-- No stamp is earlier than the one before it, and the last one is `last_rest_ok_ts_ms_`. -/
structure StampsInOrder (w : World) : Prop where
  ordered : w.stamps.Pairwise fun newer older => older ≤ newer
  last : ∀ t ∈ w.stamps.head?, w.rest.lastRestOkTsMs = t

instance (m : Message) (b : Bool) : Unheard Event.stamp? (.mqtt (.publish m) b) := ⟨rfl⟩
instance (t : Bytes) (b : Bool) : Unheard Event.stamp? (.mqtt (.subscribe t) b) := ⟨rfl⟩
instance (b : Bool) : Unheard Event.stamp? (.mqtt .disconnect b) := ⟨rfl⟩
instance (a : Ack) : Unheard Event.stamp? (.publishAck a) := ⟨rfl⟩
instance (r : RestRequest) : Unheard Event.stamp? (.restRequest r) := ⟨rfl⟩
instance (m : Bytes) : Unheard Event.stamp? (.errorSet m) := ⟨rfl⟩
instance (e : SbgEvent) : Unheard Event.stamp? (.sbg e) := ⟨rfl⟩
instance : Unheard Event.stamp? .sessionOpened := ⟨rfl⟩
instance (t : ℤ) : Unheard Event.stamp? (.linkAlive t) := ⟨rfl⟩
instance (c : CommandMessage) : Unheard Event.stamp? (.commandArrived c) := ⟨rfl⟩
instance (c : CommandMessage) : Unheard Event.stamp? (.commandHandled c) := ⟨rfl⟩

instance (w : World) : Decidable (StampsInOrder w) :=
  decidable_of_iff
    ((w.stamps.Pairwise fun newer older => older ≤ newer) ∧
      ∀ t ∈ w.stamps.head?, w.rest.lastRestOkTsMs = t)
    ⟨fun h => ⟨h.1, h.2⟩, fun h => ⟨h.ordered, h.last⟩⟩

/-- No success is stamped and the last stamp is kept; the clock may be read. -/
structure KeepsStamps (w w' : World) : Prop where
  log : w'.stampLog = w.stampLog
  last : w'.rest.lastRestOkTsMs = w.rest.lastRestOkTsMs
  steady : w.taken.steady ≤ w'.taken.steady

instance : IsPreorder World KeepsStamps where
  refl _ := ⟨rfl, rfl, Nat.le_refl _⟩
  trans _ _ _ h h' := ⟨h'.log.trans h.log, h'.last.trans h.last, h.steady.trans h'.steady⟩

instance : IgnoresReadings KeepsStamps :=
  ⟨fun _ => ⟨rfl, rfl, Nat.le_succ _⟩, fun _ => ⟨rfl, rfl, Nat.le_refl _⟩,
    fun _ => ⟨rfl, rfl, Nat.le_refl _⟩, fun _ => ⟨rfl, rfl, Nat.le_refl _⟩,
    fun _ => ⟨rfl, rfl, Nat.le_refl _⟩⟩
instance : IgnoresReplies KeepsStamps := ⟨fun _ => ⟨rfl, rfl, Nat.le_refl _⟩⟩
instance (e : Event) [h : Unheard Event.stamp? e] : Emits KeepsStamps e := by
  refine ⟨fun w => ⟨?_, rfl, Nat.le_refl _⟩⟩
  unfold World.stampLog
  rw [World.heard_said, h.none]
  rfl
instance : atLink.Ignored KeepsStamps := ⟨fun _ _ => ⟨rfl, rfl, Nat.le_refl _⟩⟩
instance : atLogger.Ignored KeepsStamps := ⟨fun _ _ => ⟨rfl, rfl, Nat.le_refl _⟩⟩
instance : atError.Ignored KeepsStamps := ⟨fun _ _ => ⟨rfl, rfl, Nat.le_refl _⟩⟩
instance : atMarker.Ignored KeepsStamps := ⟨fun _ _ => ⟨rfl, rfl, Nat.le_refl _⟩⟩
instance : atConn.Ignored KeepsStamps := ⟨fun _ _ => ⟨rfl, rfl, Nat.le_refl _⟩⟩
instance : atRetry.Ignored KeepsStamps := ⟨fun _ _ => ⟨rfl, rfl, Nat.le_refl _⟩⟩
instance : atPresence.Ignored KeepsStamps := ⟨fun _ _ => ⟨rfl, rfl, Nat.le_refl _⟩⟩
instance : atSensor.Ignored KeepsStamps := ⟨fun _ _ => ⟨rfl, rfl, Nat.le_refl _⟩⟩
instance : atTimers.Ignored KeepsStamps := ⟨fun _ _ => ⟨rfl, rfl, Nat.le_refl _⟩⟩
instance : atPending.Ignored KeepsStamps := ⟨fun _ _ => ⟨rfl, rfl, Nat.le_refl _⟩⟩
instance : atBatch.Ignored KeepsStamps := ⟨fun _ _ => ⟨rfl, rfl, Nat.le_refl _⟩⟩

section Keeping

variable (env : Env)

theorem restUpdate_keepsStamps {f : RestHealth → RestHealth}
    (hf : ∀ r, (f r).lastRestOkTsMs = r.lastRestOkTsMs) :
    Respects env KeepsStamps (atRest.update f : M Unit) :=
  ⟨fun _ => ⟨rfl, hf _, Nat.le_refl _⟩⟩

instance (error : Bytes) : Respects env KeepsStamps (atRest.update (.recordFailure error) : M Unit) :=
  restUpdate_keepsStamps env fun _ => rfl
instance (alive : Bool) : Respects env KeepsStamps (atRest.update (.setAlive alive) : M Unit) :=
  restUpdate_keepsStamps env fun _ => rfl
instance : Respects env KeepsStamps (atRest.update .recordTimeout : M Unit) :=
  restUpdate_keepsStamps env fun _ => rfl
instance : Respects env KeepsStamps
    (atRest.update fun r => { r with restSuccessStreak := 0 } : M Unit) :=
  restUpdate_keepsStamps env fun _ => rfl

instance : Respects env KeepsStamps disconnect := by
  unfold disconnect
  infer_instance

instance : Respects env KeepsStamps connectionLost := by
  unfold connectionLost
  infer_instance

instance (nowMs : ℤ) : Respects env KeepsStamps (refreshRestHealth nowMs) := by
  unfold refreshRestHealth
  infer_instance

end Keeping

/-- The stamps are in order, and none is later than `limit`. -/
structure StampedBy (limit : ℤ) (w : World) : Prop where
  inOrder : StampsInOrder w
  limited : ∀ t ∈ w.stamps, t ≤ limit

theorem StampedBy.weaken {limit next : ℤ} {w : World} (h : StampedBy limit w) (hnext : limit ≤ next) :
    StampedBy next w := ⟨h.inOrder, fun t ht => Int.le_trans (h.limited t ht) hnext⟩

/-- Stamps in order are limited by the last one. -/
theorem StampsInOrder.stampedBy {limit : ℤ} {w : World} (h : StampsInOrder w)
    (hlast : ∀ t ∈ w.stamps.head?, t ≤ limit) : StampedBy limit w := by
  refine ⟨h, fun t ht => ?_⟩
  have hordered := h.ordered
  cases hstamps : w.stamps with
  | nil =>
    rw [hstamps] at ht
    cases ht
  | cons newest older =>
    rw [hstamps] at ht hordered hlast
    have hnewest := hlast newest rfl
    rcases List.mem_cons.mp ht with rfl | hold
    · exact hnewest
    · exact Int.le_trans (List.rel_of_pairwise_cons hordered hold) hnewest

theorem stampedBy_of_nil {w : World} (h : w.stamps = []) (limit : ℤ) : StampedBy limit w := by
  refine ⟨⟨?_, ?_⟩, ?_⟩ <;> rw [h]
  · exact .nil
  · nofun
  · nofun

theorem KeepsStamps.stamps {w w' : World} (h : KeepsStamps w w') : w'.stamps = w.stamps :=
  congrArg sinceConnect h.log

theorem StampedBy.of_kept {limit : ℤ} {w w' : World} (hw : StampedBy limit w) (h : KeepsStamps w w') :
    StampedBy limit w' := by
  obtain ⟨⟨hordered, hlast⟩, hlimited⟩ := hw
  refine ⟨⟨?_, ?_⟩, ?_⟩ <;> rw [h.stamps]
  · exact hordered
  · exact fun t ht => h.last.trans (hlast t ht)
  · exact hlimited

/-- Stamps that are in order and not later than now stay so. -/
structure Advances (τ : Timeline) (w w' : World) : Prop where
  steady : w.taken.steady ≤ w'.taken.steady
  stamped : StampedBy (τ.time w.taken.steady) w → StampedBy (τ.time w'.taken.steady) w'

instance (τ : Timeline) : IsPreorder World (Advances τ) where
  refl _ := ⟨Nat.le_refl _, id⟩
  trans _ _ _ h h' := ⟨h.steady.trans h'.steady, h'.stamped ∘ h.stamped⟩

theorem KeepsStamps.advances {τ : Timeline} {w w' : World} (h : KeepsStamps w w') : Advances τ w w' :=
  ⟨h.steady, fun hw => (hw.of_kept h).weaken (τ.steady _ _ h.steady)⟩

instance (priority := low) (env : Env) (τ : Timeline) {α : Type} (x : M α)
    [h : Respects env KeepsStamps x] : Respects env (Advances τ) x :=
  ⟨fun w => (h.related w).advances⟩

instance (τ : Timeline) : IgnoresReadings (Advances τ) :=
  ⟨fun w => (IgnoresReadings.steady (R := KeepsStamps) w).advances,
    fun w => (IgnoresReadings.system (R := KeepsStamps) w).advances,
    fun w => (IgnoresReadings.mqtt (R := KeepsStamps) w).advances,
    fun w => (IgnoresReadings.udpOpen (R := KeepsStamps) w).advances,
    fun w => (IgnoresReadings.udpPoll (R := KeepsStamps) w).advances⟩

instance (τ : Timeline) (e : Event) [h : Emits KeepsStamps e] : Emits (Advances τ) e :=
  ⟨fun w => (h.step w).advances⟩

instance (τ : Timeline) {γ : Type} (P : Part World γ) [h : P.Ignored KeepsStamps] :
    P.Ignored (Advances τ) := ⟨fun w v => (h.step w v).advances⟩

section Results

variable {env : Env} {t : ℤ} {w : World} {result : LoggerResult}

/-- The time a reply that was asked for at `nowMs` is stamped with, if it is a success. -/
def stampOf (nowMs : ℤ) : Except JsonException LoggerResult → Option ℤ
  | .ok result => if result.restSuccess then some nowMs else none
  | .error _ => none

theorem eq_of_mem_stampOf {s : ℤ} {reply : Except JsonException LoggerResult}
    (h : s ∈ stampOf t reply) : s = t := by
  cases reply with
  | error _ => cases h
  | ok result =>
    simp only [stampOf, Option.mem_def] at h
    split_ifs at h
    exact (Option.some.inj h).symm

/-- `stamp` is left, if there is one. -/
structure Stamps (stamp : Option ℤ) (w w' : World) : Prop where
  stamps : w'.stamps = stamp.toList ++ w.stamps
  last : w'.rest.lastRestOkTsMs = stamp.getD w.rest.lastRestOkTsMs
  steady : w.taken.steady ≤ w'.taken.steady

variable {stamp : Option ℤ}

theorem KeepsStamps.none {w' : World} (h : KeepsStamps w w') : Stamps none w w' :=
  ⟨h.stamps, h.last, h.steady⟩

theorem Stamps.then {w₁ w₂ : World} (h : Stamps stamp w w₁) (h' : KeepsStamps w₁ w₂) :
    Stamps stamp w w₂ :=
  ⟨h'.stamps.trans h.stamps, h'.last.trans h.last, h.steady.trans h'.steady⟩

theorem Stamps.after {w₁ w₂ : World} (h : KeepsStamps w w₁) (h' : Stamps stamp w₁ w₂) :
    Stamps stamp w w₂ := by
  obtain ⟨hstamps, hlast, hsteady⟩ := h'
  rw [h.stamps] at hstamps
  rw [h.last] at hlast
  exact ⟨hstamps, hlast, h.steady.trans hsteady⟩

/-- A stamp is in order if it is not earlier than the last one. -/
theorem Stamps.inOrder_iff {w' : World} (h : Stamps stamp w w') (hw : StampsInOrder w) :
    StampsInOrder w' ↔ ∀ t ∈ stamp, ∀ last ∈ w.stamps.head?, last ≤ t := by
  obtain ⟨hstamps, hlast, -⟩ := h
  cases stamp with
  | none =>
    refine ⟨fun _ => nofun, fun _ => ⟨?_, ?_⟩⟩ <;> rw [hstamps]
    · exact hw.ordered
    · exact fun s hs => hlast.trans (hw.last s hs)
  | some t =>
    constructor
    · intro hw' t' ht' last hmem
      cases ht'
      have hordered := hw'.ordered
      rw [hstamps] at hordered
      exact List.rel_of_pairwise_cons hordered (List.mem_of_mem_head? hmem)
    · intro h
      have hby := hw.stampedBy (h t rfl)
      refine ⟨?_, ?_⟩ <;> rw [hstamps]
      · exact .cons hby.limited hw.ordered
      · intro s hs
        cases hs
        exact hlast

theorem Stamps.stampedBy {limit : ℤ} {w' : World} (h : Stamps stamp w w') (hw : StampedBy limit w)
    (hstamp : ∀ t ∈ stamp, t ≤ limit) (hlast : ∀ t ∈ stamp, ∀ last ∈ w.stamps.head?, last ≤ t) :
    StampedBy limit w' := by
  refine ⟨(h.inOrder_iff hw.inOrder).mpr hlast, fun s hs => ?_⟩
  rw [h.stamps, List.mem_append, Option.mem_toList] at hs
  exact hs.elim (hstamp s) (hw.limited s)

/-- What is stamped with a time that limits the stamps stays limited by it. -/
theorem Stamps.advances {reply : Except JsonException LoggerResult} {w' : World}
    (h : Stamps (stampOf t reply) w w') : Advances (.still t) w w' := by
  refine ⟨h.steady, fun hw => h.stampedBy hw (fun s hs => Int.le_of_eq (eq_of_mem_stampOf hs)) ?_⟩
  intro s hs last hlast
  rw [eq_of_mem_stampOf hs]
  exact hw.limited last (List.mem_of_mem_head? hlast)

theorem markRestResult_stamps (contextReason : Bytes) :
    wp (markRestResult result contextReason t) env (fun _ w' => Stamps (stampOf t (.ok result)) w w')
      (fun _ w' => Stamps (stampOf t (.ok result)) w w') w := by
  simp only [stampOf]
  cases hresult : result.restSuccess with
  | true =>
    have hpresence : Respects env KeepsStamps (updatePresenceState t []) := inferInstance
    rw [if_pos rfl, wp_markRestResult, if_pos hresult]
    generalize hw₁ : World.resultMarked _ _ _ _ _ = w₁
    have h₁ : Stamps (some t) w w₁ := by
      rw [← hw₁]
      refine ⟨?_, rfl, Nat.le_succ _⟩
      have hheard : Event.stamp? (.restResult result t) = some (some t) := if_pos hresult
      change sinceConnect ((w.said (.restResult result t)).heard Event.stamp?) = _
      rw [World.heard_said, hheard]
      rfl
    exact hpresence.wp_of fun _ => h₁.then
  | false =>
    have hunheard : Unheard Event.stamp? (.restResult result t) := ⟨if_neg (by simp [hresult])⟩
    have hkeeps : Respects env KeepsStamps (markRestResult result contextReason t) := by
      unfold markRestResult
      rw [hresult]
      simp only [Bool.false_eq_true, if_false]
      infer_instance
    rw [if_neg nofun]
    exact hkeeps.wp_of fun _ => KeepsStamps.none

theorem Asked.keepsStamps {w' : World} (h : Asked w w') : KeepsStamps w w' := by
  rcases h with rfl | rfl <;> exact ⟨rfl, rfl, Nat.le_refl _⟩

theorem requestLoggerState_stamps (contextReason : Bytes) :
    wp (requestLoggerState contextReason t) env (fun _ w' => Stamps (stampOf t (nextReply env w)) w w')
      (fun _ w' => Stamps (stampOf t (nextReply env w)) w w') w := by
  unfold requestLoggerState
  rw [wp_bind]
  refine wp_mono dataLoggerGet_next (fun result w₁ h => ?_) fun _ w₁ h => ?_
  · obtain ⟨hnext, hasked⟩ := h
    have h₁ := hasked.keepsStamps
    have hstore : Respects env KeepsStamps (storeLoggerState result contextReason) := inferInstance
    rw [hnext, wp_bind]
    refine wp_mono (markRestResult_stamps contextReason) (fun _ w₂ h₂ => ?_) fun _ _ h₂ => h₂.after h₁
    have hthen {w₃ : World} (h₃ : KeepsStamps w₂ w₃) : Stamps (stampOf t (.ok result)) w w₃ :=
      .after h₁ (h₂.then h₃)
    rw [wp_bind]
    exact hstore.wp_of fun _ => hthen
  · obtain ⟨⟨e, hnext⟩, hasked⟩ := h
    rw [hnext]
    exact hasked.keepsStamps.none

variable (env)

instance (contextReason : Bytes) :
    Respects env (Advances (.still t)) (markRestResult result contextReason t) :=
  ⟨fun _ => exec_of_wp (wp_mono (markRestResult_stamps contextReason) (fun _ _ => Stamps.advances)
    fun _ _ => Stamps.advances)⟩

instance (contextReason : Bytes) :
    Respects env (Advances (.still t)) (requestLoggerState contextReason t) :=
  ⟨fun _ => exec_of_wp (wp_mono (requestLoggerState_stamps contextReason)
    (fun _ _ => Stamps.advances) fun _ _ => Stamps.advances)⟩

end Results

section Running

variable {env : Env} (hclock : SteadyClock env.steady)

/-- What is stamped with the time that has just been read is not earlier than any stamp. -/
theorem Advances.of_reading {w w' : World}
    (h : Advances (.still (monoMs (env.steady w.taken.steady))) w.tookSteady w') :
    Advances (.running env.steady hclock) w w' := by
  refine ⟨(Nat.le_succ _).trans h.steady, fun hw => ?_⟩
  have hread : StampedBy (monoMs (env.steady w.taken.steady)) w.tookSteady :=
    ⟨⟨hw.inOrder.ordered, hw.inOrder.last⟩, hw.limited⟩
  exact (h.stamped hread).weaken
    (Timeline.monoMs_mono (hclock _ _ ((Nat.le_succ _).trans h.steady)))

variable (env)

instance : ReadsClock env (Advances (.running env.steady hclock))
    fun k => Advances (.still (monoMs (env.steady k))) := ⟨Advances.of_reading hclock⟩

instance (id type : Bytes) (body : M Unit)
    [Respects env (Advances (.running env.steady hclock)) body] :
    Respects env (Advances (.running env.steady hclock)) (checkedLoggerCmd id type body) := by
  unfold checkedLoggerCmd checkedRestEndpoint
  dsimp only
  infer_instance

instance (nowReason laterReason : Bytes) : Respects env (Advances (.running env.steady hclock))
    (verifyLoggerState nowReason laterReason) := by
  unfold verifyLoggerState
  infer_instance

instance (id type : Bytes) (cmd : Json) :
    Respects env (Advances (.running env.steady hclock)) (handleLoggerStart id type cmd) := by
  unfold handleLoggerStart concludeLoggerStart
  infer_instance

instance (id type : Bytes) :
    Respects env (Advances (.running env.steady hclock)) (handleLoggerStop id type) := by
  unfold handleLoggerStop concludeLoggerStop ackAlreadyStopped
  dsimp only
  infer_instance

instance (id type : Bytes) :
    Respects env (Advances (.running env.steady hclock)) (handleLoggerStatus id type) := by
  unfold handleLoggerStatus
  infer_instance

instance : Respects env (Advances (.running env.steady hclock)) handleFront := inferInstance

instance : Respects env (Advances (.running env.steady hclock)) selfTest := by
  unfold selfTest
  infer_instance

variable {env} {w : World}

theorem resetSession_keepsLog (nextRestPollMs : ℤ) :
    wp (resetSession nextRestPollMs) env
      (fun _ w' => w'.stamps = w.stamps ∧ w'.taken.steady = w.taken.steady) (fun _ _ => False) w :=
  ⟨rfl, rfl⟩

/-- A session starts without a stamp. -/
theorem startSession_advances (hw : w.stamps = []) :
    wp startSession env (fun _ w' => Advances (.running env.steady hclock) w w')
      (fun _ w' => Advances (.running env.steady hclock) w w') w := by
  have htail : Respects env (Advances (.running env.steady hclock)) (do
      setState .connecting
      updatePresenceState (← monoNow) (bytes "connecting")
      selfTest : M Unit) := inferInstance
  unfold startSession
  rw [wp_bind, wp_monoNow, wp_bind, wp_read, wp_bind]
  refine wp_mono (resetSession_keepsLog _) (fun _ w₁ h₁ => ?_) fun _ _ => False.elim
  obtain ⟨hlog, hsteady⟩ := h₁
  have hthen {w' : World} (h : Advances (.running env.steady hclock) w₁ w') :
      Advances (.running env.steady hclock) w w' := by
    refine ⟨(Nat.le_succ _).trans (hsteady.ge.trans h.steady), fun _ => h.stamped ?_⟩
    exact stampedBy_of_nil (hlog.trans hw) _
  exact htail.wp_of fun _ => hthen

variable (env) in
instance : Respects env (Advances (.running env.steady hclock)) connectOnce := by
  rw [respects_iff_wp]
  intro w
  have hfailed : Respects env (Advances (.running env.steady hclock)) (do
      setState .disconnected
      return false) := inferInstance
  refine wp_catchMqtt_respects env _ hfailed ?_
  rw [setState, wp_bind, Part.wp_update, wp_bind, wp_mqttCall]
  split_ifs with hthrew
  · have hunheard : Unheard Event.stamp? (.mqtt .connect true) := ⟨rfl⟩
    exact KeepsStamps.advances ⟨World.heard_said _ _ _, rfl, Nat.le_refl _⟩
  generalize hw₁ : World.said _ (.mqtt .connect false) = w₁
  have h₁ : w₁.stamps = [] ∧ w₁.taken.steady = w.taken.steady := by
    rw [← hw₁]
    exact ⟨rfl, rfl⟩
  have hsubscribe : Respects env KeepsStamps (do
      subscribeAndLog env.config.topics.cmd
      subscribeAndLog env.config.topics.cmdLegacy) := inferInstance
  have hearlier {v : World} (h : KeepsStamps w₁ v) : w.taken.steady ≤ v.taken.steady ∧ v.stamps = [] :=
    ⟨h₁.2.ge.trans h.steady, h.stamps.trans h₁.1⟩
  have hthen {v w' : World} (h : KeepsStamps w₁ v) (h' : Advances (.running env.steady hclock) v w') :
      Advances (.running env.steady hclock) w w' :=
    ⟨(hearlier h).1.trans h'.steady, fun _ => h'.stamped (stampedBy_of_nil (hearlier h).2 _)⟩
  rw [wp_bind, wp_read, ← bind_assoc, wp_bind]
  refine wp_mono (respects_iff_wp.mp hsubscribe w₁) (fun _ w₂ h₂ => ?_)
    fun _ _ h₂ => hthen h₂ (refl_of _ _)
  rw [wp_bind]
  exact wp_mono (startSession_advances hclock (hearlier h₂).2) (fun _ _ h₃ => hthen h₂ h₃)
    fun _ _ h₃ => hthen h₂ h₃

end Running

/-- The time `op` stamps a success with if that time was read before. -/
def Op.stampsAt (env : Env) (w : World) : Op → Option ℤ
  | .restTimer nowMs =>
    if 0 < w.timers.nextRestPollMs ∧ w.timers.nextRestPollMs ≤ nowMs then
      stampOf nowMs (nextReply env w)
    else none
  | .requestLoggerState _ nowMs => stampOf nowMs (nextReply env w)
  | .markRestResult result _ nowMs => stampOf nowMs (.ok result)
  | _ => none

/-- An operation that succeeds is passed a time before the last success. -/
def Op.StampsBack (env : Env) (w : World) (op : Op) : Prop :=
  ∃ t ∈ op.stampsAt env w, ∃ last ∈ w.stamps.head?, t < last

instance (env : Env) (w : World) (op : Op) : Decidable (op.StampsBack env w) :=
  inferInstanceAs (Decidable (∃ t ∈ op.stampsAt env w, ∃ last ∈ w.stamps.head?, t < last))

theorem not_stampsBack_iff {env : Env} {w : World} {op : Op} :
    ¬ op.StampsBack env w ↔ ∀ t ∈ op.stampsAt env w, ∀ last ∈ w.stamps.head?, last ≤ t := by
  simp [Op.StampsBack]

/-- The stamps after an operation: they are in order unless it stamps back, and then they are not
later than now. -/
structure Continues (env : Env) (w : World) (op : Op) (w' : World) : Prop where
  inOrder_iff : StampsInOrder w' ↔ ¬ op.StampsBack env w
  stamped : ¬ op.StampsBack env w → StampedBy (monoMs (env.steady w'.taken.steady)) w'

section Operations

variable {env : Env} {w w' : World} {op : Op}

/-- An operation that uses no time that was read before. -/
theorem Advances.continues {hclock : SteadyClock env.steady}
    (h : Advances (.running env.steady hclock) w w')
    (hw : StampedBy (monoMs (env.steady w.taken.steady)) w) (hnone : op.stampsAt env w = none) :
    Continues env w op w' := by
  have hafter := h.stamped hw
  refine ⟨⟨fun _ => not_stampsBack_iff.mpr ?_, fun _ => hafter.inOrder⟩, fun _ => hafter⟩
  rw [hnone]
  nofun

theorem Stamps.continues (h : Stamps (op.stampsAt env w) w w') (hclock : SteadyClock env.steady)
    (hw : StampedBy (monoMs (env.steady w.taken.steady)) w)
    (htimed : ∀ t ∈ op.stampsAt env w, t ≤ monoMs (env.steady w.taken.steady)) :
    Continues env w op w' := by
  refine ⟨(h.inOrder_iff hw.inOrder).trans not_stampsBack_iff.symm, fun hback => ?_⟩
  have hnow := h.stampedBy hw htimed (not_stampsBack_iff.mp hback)
  exact hnow.weaken (Timeline.monoMs_mono (hclock _ _ h.steady))

/-- The timer stamps the reply it asks for when it is due. -/
theorem restTimer_stamps {nowMs : ℤ} :
    wp (restTimer nowMs) env (fun _ w' => Stamps ((Op.restTimer nowMs).stampsAt env w) w w')
      (fun _ w' => Stamps ((Op.restTimer nowMs).stampsAt env w) w w') w := by
  have hpos := restPollInterval_pos env.config
  simp only [restTimer, setNextRestPoll, wp_bind, wp_get, wp_ite, wp_pure, wp_read, Part.wp_update]
  split_ifs with hunset hdue hdue
  · have hlater : nowMs + env.config.restPollInterval ≤ nowMs := hdue
    omega
  · have hnone : (Op.restTimer nowMs).stampsAt env w = none := if_neg fun h => absurd h.1 (by omega)
    rw [hnone]
    exact KeepsStamps.none ⟨rfl, rfl, Nat.le_refl _⟩
  · have hasks : (Op.restTimer nowMs).stampsAt env w = stampOf nowMs (nextReply env w) :=
      if_pos ⟨Int.not_le.mp hunset, hdue⟩
    rw [hasks]
    refine wp_mono (requestLoggerState_stamps _) (fun _ w₁ h₁ => ?_) fun _ _ => id
    exact h₁.then ⟨rfl, rfl, Nat.le_refl _⟩
  · have hnone : (Op.restTimer nowMs).stampsAt env w = none := if_neg fun h => hdue h.2
    rw [hnone]
    exact (refl_of KeepsStamps w).none

theorem stampsAt_le {t : ℤ} (hclock : SteadyClock env.steady) (htimed : op.Timed env.steady w)
    (ht : t ∈ op.stampsAt env w) : t ≤ monoMs (env.steady w.taken.steady) := by
  cases op
  case restTimer nowMs =>
    obtain ⟨j, hj, rfl⟩ := htimed
    simp only [Op.stampsAt] at ht
    split_ifs at ht
    · exact eq_of_mem_stampOf ht ▸ monoMs_le_now hclock hj
    · cases ht
  case requestLoggerState contextReason nowMs =>
    obtain ⟨j, hj, rfl⟩ := htimed
    exact eq_of_mem_stampOf ht ▸ monoMs_le_now hclock hj
  case markRestResult result contextReason nowMs =>
    obtain ⟨j, hj, rfl⟩ := htimed
    have hmem : t ∈ stampOf (monoMs (env.steady j)) (.ok result) := ht
    exact eq_of_mem_stampOf hmem ▸ monoMs_le_now hclock hj
  all_goals cases ht

theorem Op.run_continues (hclock : SteadyClock env.steady) (htimed : op.Timed env.steady w)
    (hw : StampedBy (monoMs (env.steady w.taken.steady)) w) :
    Continues env w op (exec op.run env w).2 := by
  have hstamps (h : wp op.run env (fun _ w' => Stamps (op.stampsAt env w) w w')
      (fun _ w' => Stamps (op.stampsAt env w) w w') w) : Continues env w op (exec op.run env w).2 :=
    exec_of_wp (I := fun w' => Continues env w op w')
      (wp_mono h (fun _ _ h => h.continues hclock hw fun _ => stampsAt_le hclock htimed)
        fun _ _ h => h.continues hclock hw fun _ => stampsAt_le hclock htimed)
  cases op
  case restTimer nowMs => exact hstamps restTimer_stamps
  case requestLoggerState contextReason nowMs =>
    refine hstamps ?_
    unfold Op.run
    rw [wp_bind]
    exact requestLoggerState_stamps contextReason
  case markRestResult result contextReason nowMs => exact hstamps (markRestResult_stamps contextReason)
  all_goals
    refine Advances.continues (Respects.relates (?_ : Respects env
      (Advances (.running env.steady hclock)) _) w) hw rfl
    unfold Op.run
    dsimp only
    infer_instance

end Operations

/-- In a run with a steady clock the stamps of every connection are in order if and only if no
operation stamps back. -/
theorem stamps_in_order_iff (platform : Platform) (clock : ℕ → TimePoint) (hclock : SteadyClock clock)
    (inputs : Inputs) (steps : List Step)
    (hsteps : AllSteps (execStep platform) (fun s w => s.inputs.steady = clock ∧ s.op.Timed clock w)
      steps (initialWorld platform.config inputs)) :
    AllSteps (execStep platform) (fun s w => StampsInOrder (execStep platform s w).2) steps
        (initialWorld platform.config inputs) ↔
      AllSteps (execStep platform) (fun s w => ¬ s.op.StampsBack ⟨platform, s.inputs⟩ w) steps
        (initialWorld platform.config inputs) := by
  refine AllSteps.iff_of_invariant _ (I := fun w => StampedBy (monoMs (clock w.taken.steady)) w)
    (fun s w hs hw => ?_) hsteps (stampedBy_of_nil rfl _)
  obtain ⟨rfl, htimed⟩ := hs
  have h : Continues ⟨platform, s.inputs⟩ w s.op (execStep platform s w).2 :=
    Op.run_continues hclock htimed hw
  exact ⟨h.inOrder_iff, h.stamped⟩

/-- A clock that goes on by a second with every reading, and replies that succeed. -/
def benchTicking : Inputs :=
  { benchHealthy with steady := fun k => milliseconds (1000 * k) }

theorem benchTicking_steady : SteadyClock benchTicking.steady := by
  intro j k h
  change 1000 * (j : ℤ) * 1000000 ≤ 1000 * (k : ℤ) * 1000000
  omega

/-- A connection, and its first poll. -/
def benchPolledSteps : List Step :=
  [⟨.readClock, benchTicking⟩, ⟨.ensureConnection (milliseconds 2000), benchTicking⟩,
    ⟨.readClock, benchTicking⟩, ⟨.restTimer 9000, benchTicking⟩]

theorem stamps_in_order_iff_polled :
    AllSteps (execStep benchPlatform) (fun s w => StampsInOrder (execStep benchPlatform s w).2)
      benchPolledSteps (initialWorld benchPlatform.config benchTicking) := by
  refine (stamps_in_order_iff benchPlatform benchTicking.steady benchTicking_steady benchTicking _
    ?_).mpr (.cons _ ?_ (.cons _ ?_ (.cons _ ?_ (.cons _ ?_ trivial))))
  · refine .cons _ ⟨rfl, trivial⟩ (.cons _ ⟨rfl, ⟨2, ?_, rfl⟩⟩ (.cons _ ⟨rfl, trivial⟩
      (.cons _ ⟨rfl, ⟨9, ?_, rfl⟩⟩ trivial)))
    all_goals decide +kernel
  all_goals decide +kernel

/-- A pass that handles a status command and polls afterwards, with the time it began at. -/
theorem timer_stamps_back :
    let env : Env := ⟨benchPlatform, benchTicking⟩
    let w := (exec runIteration env (initialWorld benchPlatform.config benchTicking)).2
    let command : CommandMessage :=
      ⟨bytes "ironsoft/uav/d1/cmd", benchPayload (bytes "logger.status")⟩
    let w' := (exec runIteration env (exec (messageArrived command) env w).2).2
    SteadyClock env.steady ∧ w'.stamps = [10000, 11000, 6000] ∧ ¬ StampsInOrder w' :=
  ⟨benchTicking_steady, by decide +kernel, by decide +kernel⟩

end Ironsoft.Ekinox
