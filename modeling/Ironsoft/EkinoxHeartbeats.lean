import Ironsoft.EkinoxFrames
import Ironsoft.PacingModel

/-!
# Heartbeats

The heartbeats of a run are numbered one after the other, across all its connections, and every one
tells a later uptime than the one before it.
-/
namespace Ironsoft.Ekinox
open Effect PacingModel

set_option synthInstance.maxSize 400000
set_option synthInstance.maxHeartbeats 200000

/-- The number of a heartbeat, and the uptime it tells. -/
def Event.heartbeat? : Event → Option (ℤ × ℤ)
  | .mqtt (.publish ⟨_, .heartbeat seq uptimeS, _, _⟩) _ => some (seq, uptimeS)
  | _ => none

/-- The heartbeats so far, newest first. -/
abbrev World.heartbeats : World → List (ℤ × ℤ) := heard Event.heartbeat?

/-- What decides the next heartbeat. -/
def World.beating (w : World) : List (ℤ × ℤ) × TimePoint × TimePoint × ℤ :=
  (w.heartbeats, w.timers.startTp, w.timers.nextHeartbeatPub, w.timers.heartbeatSeq)

section Frames

instance : IgnoresReadings (Keeping World.beating) :=
  ⟨fun _ => rfl, fun _ => rfl, fun _ => rfl, fun _ => rfl, fun _ => rfl⟩
instance : IgnoresReplies (Keeping World.beating) := ⟨fun _ => rfl⟩
instance (b : Bool) : Emits (Keeping World.beating) (.mqtt .connect b) := ⟨fun _ => rfl⟩
instance (topic : Bytes) (b : Bool) : Emits (Keeping World.beating) (.mqtt (.subscribe topic) b) :=
  ⟨fun _ => rfl⟩
instance (b : Bool) : Emits (Keeping World.beating) (.mqtt .disconnect b) := ⟨fun _ => rfl⟩
instance (topic : Bytes) (p : PresencePayload) (qos : ℕ) (retained threw : Bool) :
    Emits (Keeping World.beating) (.mqtt (.publish ⟨topic, .presence p, qos, retained⟩) threw) :=
  ⟨fun _ => rfl⟩
instance (topic : Bytes) (s : StatusPayload) (qos : ℕ) (retained threw : Bool) :
    Emits (Keeping World.beating) (.mqtt (.publish ⟨topic, .status s, qos, retained⟩) threw) :=
  ⟨fun _ => rfl⟩
instance (topic : Bytes) (a : Ack) (ts : ℤ) (qos : ℕ) (retained threw : Bool) :
    Emits (Keeping World.beating) (.mqtt (.publish ⟨topic, .ack a ts, qos, retained⟩) threw) :=
  ⟨fun _ => rfl⟩
instance (a : Ack) : Emits (Keeping World.beating) (.publishAck a) := ⟨fun _ => rfl⟩
instance (r : RestRequest) : Emits (Keeping World.beating) (.restRequest r) := ⟨fun _ => rfl⟩
instance (r : LoggerResult) (t : ℤ) : Emits (Keeping World.beating) (.restResult r t) :=
  ⟨fun _ => rfl⟩
instance (m : Bytes) : Emits (Keeping World.beating) (.errorSet m) := ⟨fun _ => rfl⟩
instance (e : SbgEvent) : Emits (Keeping World.beating) (.sbg e) := ⟨fun _ => rfl⟩
instance : Emits (Keeping World.beating) .sessionOpened := ⟨fun _ => rfl⟩
instance (t : ℤ) : Emits (Keeping World.beating) (.linkAlive t) := ⟨fun _ => rfl⟩
instance (c : CommandMessage) : Emits (Keeping World.beating) (.commandArrived c) := ⟨fun _ => rfl⟩
instance (c : CommandMessage) : Emits (Keeping World.beating) (.commandHandled c) := ⟨fun _ => rfl⟩
instance : atLink.Ignored (Keeping World.beating) := ⟨fun _ _ => rfl⟩
instance : atLogger.Ignored (Keeping World.beating) := ⟨fun _ _ => rfl⟩
instance : atError.Ignored (Keeping World.beating) := ⟨fun _ _ => rfl⟩
instance : atMarker.Ignored (Keeping World.beating) := ⟨fun _ _ => rfl⟩
instance : atConn.Ignored (Keeping World.beating) := ⟨fun _ _ => rfl⟩
instance : atRetry.Ignored (Keeping World.beating) := ⟨fun _ _ => rfl⟩
instance : atPresence.Ignored (Keeping World.beating) := ⟨fun _ _ => rfl⟩
instance : atRest.Ignored (Keeping World.beating) := ⟨fun _ _ => rfl⟩
instance : atSensor.Ignored (Keeping World.beating) := ⟨fun _ _ => rfl⟩
instance : atPending.Ignored (Keeping World.beating) := ⟨fun _ _ => rfl⟩
instance : atBatch.Ignored (Keeping World.beating) := ⟨fun _ _ => rfl⟩

end Frames

section Keeping

variable (env : Env)

instance (nowMs : ℤ) : Respects env (Keeping World.beating) (setNextRestPoll nowMs) :=
  ⟨fun _ => rfl⟩

instance (nowMs : ℤ) : Respects env (Keeping World.beating) (resetSession nowMs) := by
  unfold resetSession
  infer_instance

instance (nowMs : ℤ) : Respects env (Keeping World.beating) (restTimer nowMs) := by
  unfold restTimer
  dsimp only
  infer_instance

instance (now : TimePoint) : Respects env (Keeping World.beating) (statusTimer now) := by
  have hnext : Respects env (Keeping World.beating)
      (atTimers.update fun t => { t with nextStatusPub := now + milliseconds 1000 } : M Unit) :=
    ⟨fun _ => rfl⟩
  unfold statusTimer
  infer_instance

instance : Respects env (Keeping World.beating) disconnect := by
  unfold disconnect
  infer_instance

instance : Respects env (Keeping World.beating) restIdle := by
  unfold restIdle
  infer_instance

instance : Respects env (Keeping World.beating) connectionLost := by
  unfold connectionLost
  infer_instance

end Keeping

theorem Op.run_keepsBeating {op : Op} (env : Env) (hop : ∀ now, op ≠ .heartbeatTimer now) :
    Respects env (Keeping World.beating) op.run := by
  cases op
  case heartbeatTimer now => exact absurd rfl (hop now)
  all_goals
    unfold Op.run
    dsimp only
    infer_instance

/-- The heartbeats of a service that was started at `start`, for the times they were sent at. -/
def beatsAt (start : TimePoint) : List TimePoint → List (ℤ × ℤ)
  | [] => []
  | t :: times => ((times.length : ℤ) + 1, (t - start).tdiv 1000000000) :: beatsAt start times

/-- The heartbeats were sent at these times, none before `start`. -/
structure SentAt (start : TimePoint) (times : List TimePoint) (w : World) : Prop where
  beats : w.heartbeats = beatsAt start times
  since : ∀ t ∈ times, start ≤ t

/-- The heartbeats sent so far, and the timer of the next one. -/
structure Beating (times : List TimePoint) (w : World) : Prop
    extends SentAt w.timers.startTp times w where
  timer : Timer (milliseconds 1000) w.timers.nextHeartbeatPub times
  due : w.timers.startTp ≤ w.timers.nextHeartbeatPub
  seq : w.timers.heartbeatSeq = times.length

/-- Heartbeats have been sent, the last one perhaps in vain. -/
def HasBeaten (w : World) : Prop :=
  ∃ start times, SentAt start times w ∧ Paced (milliseconds 1000) times

section Beats

variable {times : List TimePoint} {w w' : World}

theorem Beating.hasBeaten (h : Beating times w) : HasBeaten w :=
  ⟨_, times, h.toSentAt, h.timer.paced⟩

theorem Beating.kept (h : Beating times w) (hkept : w'.beating = w.beating) : Beating times w' := by
  simp only [World.beating, Prod.mk.injEq] at hkept
  obtain ⟨hbeats, hstart, hnext, hseq⟩ := hkept
  exact ⟨⟨by rw [hbeats, hstart]; exact h.beats, hstart ▸ h.since⟩, hnext ▸ h.timer,
    hstart ▸ hnext ▸ h.due, hseq ▸ h.seq⟩

theorem le_add_second {t now : ℤ} (h : t ≤ now) : t ≤ now + milliseconds 1000 := by
  unfold milliseconds
  omega

/-- A heartbeat that is due is sent, or put off if there is no connection. -/
theorem heartbeatTimer_beats (env : Env) (now : TimePoint) (h : Beating times w) :
    wp (heartbeatTimer now) env (fun _ w' => ∃ times', Beating times' w') (fun _ => HasBeaten) w := by
  simp only [heartbeatTimer, publishHeartbeat, wp_bind, wp_ite, wp_get, wp_pure, wp_read,
    Part.wp_update, wp_mqttCall]
  have hdue := h.due
  split_ifs with hnow hoff hthrew
  · exact ⟨times, ⟨h.beats, h.since⟩, h.timer.postpone (le_add_second hnow),
      le_add_second (Int.le_trans hdue hnow), h.seq⟩
  · refine ⟨w.timers.startTp, now :: times, ⟨?_, ?_⟩, h.timer.paced_fire hnow⟩
    · rw [World.heartbeats, World.heard_said, beatsAt, ← h.seq, ← h.beats]
      rfl
    · exact List.forall_mem_cons.mpr ⟨Int.le_trans hdue hnow, h.since⟩
  · refine ⟨now :: times, ⟨?_, ?_⟩, h.timer.fire hnow (by decide),
      le_add_second (Int.le_trans hdue hnow), ?_⟩
    · change (w.timers.heartbeatSeq + 1, _) :: w.heartbeats = _
      rw [beatsAt, ← h.seq, h.beats]
      rfl
    · exact List.forall_mem_cons.mpr ⟨Int.le_trans hdue hnow, h.since⟩
    · change w.timers.heartbeatSeq + 1 = ((now :: times).length : ℤ)
      rw [h.seq, List.length_cons, Int.natCast_add, Int.natCast_one]
  · exact ⟨times, h⟩

end Beats

/-- The heartbeats, oldest first, are numbered from one, and the uptimes they tell grow. -/
structure HeartbeatsInOrder (beats : List (ℤ × ℤ)) : Prop where
  numbered : beats.map Prod.fst = (List.range beats.length).map fun k : ℕ => (k : ℤ) + 1
  later : (beats.map Prod.snd).Pairwise (· < ·)
  since : ∀ uptime ∈ beats.map Prod.snd, 0 ≤ uptime

theorem length_beatsAt (start : TimePoint) (times : List TimePoint) :
    (beatsAt start times).length = times.length := by
  induction times with
  | nil => rfl
  | cons t times ih => rw [beatsAt, List.length_cons, ih, List.length_cons]

theorem beatsAt_numbers (start : TimePoint) (times : List TimePoint) :
    (beatsAt start times).reverse.map Prod.fst =
      (List.range times.length).map fun k : ℕ => (k : ℤ) + 1 := by
  induction times with
  | nil => rfl
  | cons t times ih =>
    rw [beatsAt, List.reverse_cons, List.map_append, ih, List.length_cons, List.range_succ,
      List.map_append]
    rfl

theorem beatsAt_uptimes (start : TimePoint) (times : List TimePoint) :
    (beatsAt start times).map Prod.snd = times.map fun t => (t - start).tdiv 1000000000 := by
  induction times with
  | nil => rfl
  | cons t times ih => rw [beatsAt, List.map_cons, ih, List.map_cons]

theorem HasBeaten.inOrder {w : World} (h : HasBeaten w) : HeartbeatsInOrder w.heartbeats.reverse := by
  obtain ⟨start, times, hsent, hpaced⟩ := h
  have huptimes : w.heartbeats.reverse.map Prod.snd =
      (times.map fun t => (t - start).tdiv 1000000000).reverse := by
    rw [hsent.beats, List.map_reverse, beatsAt_uptimes]
  constructor
  · rw [hsent.beats, List.length_reverse, length_beatsAt]
    exact beatsAt_numbers start times
  · rw [huptimes, List.pairwise_reverse, List.pairwise_map]
    exact hpaced.tdiv (by decide) hsent.since
  · rw [huptimes]
    intro uptime huptime
    obtain ⟨t, ht, rfl⟩ := List.mem_map.mp (List.mem_reverse.mp huptime)
    exact Int.tdiv_nonneg (Int.sub_nonneg_of_le (hsent.since t ht)) (by decide)

/-- In every run, whatever its connections and its clock do, the heartbeats are numbered one after
the other and every one tells a later uptime than the one before. -/
theorem heartbeats_in_order (platform : Platform) (inputs : Inputs) (steps : List Step) :
    HeartbeatsInOrder
      (execSteps platform steps (initialWorld platform.config inputs)).2.heartbeats.reverse := by
  have hinitial : Beating [] (initialWorld platform.config inputs) :=
    ⟨⟨rfl, fun _ h => absurd h List.not_mem_nil⟩, .new _ _, Int.le_refl _, rfl⟩
  have hleaves : Leaves (fun w => ∃ times, Beating times w) HasBeaten
      (execSteps platform steps (initialWorld platform.config inputs)) := by
    refine execAll_leaves (execStep platform) (C := fun _ _ => True) (fun s w _ hw => ?_)
      (allSteps_of_forall _ fun _ _ _ => trivial) ⟨[], hinitial⟩
    obtain ⟨times, hw⟩ := hw
    unfold execStep
    rw [leaves_exec_iff]
    by_cases hop : ∃ now, s.op = .heartbeatTimer now
    · obtain ⟨now, hop⟩ := hop
      rw [hop]
      exact heartbeatTimer_beats _ now hw
    · have hkeeps := Op.run_keepsBeating ⟨platform, s.inputs⟩ fun now h => hop ⟨now, h⟩
      exact wp_mono (respects_iff_wp.mp hkeeps w) (fun _ _ hkept => ⟨times, hw.kept hkept⟩)
        fun _ _ hkept => (hw.kept hkept).hasBeaten
  rcases hrun : execSteps platform steps (initialWorld platform.config inputs) with ⟨_ | _, w⟩
  · rw [hrun] at hleaves
    exact HasBeaten.inOrder hleaves
  · rw [hrun] at hleaves
    obtain ⟨times, hw⟩ := hleaves
    exact hw.hasBeaten.inOrder

end Ironsoft.Ekinox
