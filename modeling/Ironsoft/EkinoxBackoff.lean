import Ironsoft.BackoffModel
import Ironsoft.EkinoxConnect
import Ironsoft.EkinoxSensorFlags

/-!
# The pace of reconnecting

`current_backoff_ms_` is doubled by the failures of `connect_once` and of the UDP session and
reset by the successes of either. The delay before the next attempt to connect is that of the
failed attempts alone exactly if the failures of the session leave the count as it is.
-/
namespace Ironsoft.Ekinox
open Effect BackoffModel

set_option synthInstance.maxSize 400000
set_option synthInstance.maxHeartbeats 200000

def World.backoffMs (w : World) : ℤ := w.retry.currentBackoffMs

section Frames

variable (env : Env)

instance : IgnoresReadings (Keeping World.backoffMs) :=
  ⟨fun _ => rfl, fun _ => rfl, fun _ => rfl, fun _ => rfl, fun _ => rfl⟩
instance : IgnoresReplies (Keeping World.backoffMs) := ⟨fun _ => rfl⟩
instance (e : Event) : Emits (Keeping World.backoffMs) e := ⟨fun _ => rfl⟩
instance : atConn.Ignored (Keeping World.backoffMs) := ⟨fun _ _ => rfl⟩
instance : atLink.Ignored (Keeping World.backoffMs) := ⟨fun _ _ => rfl⟩
instance : atLogger.Ignored (Keeping World.backoffMs) := ⟨fun _ _ => rfl⟩
instance : atError.Ignored (Keeping World.backoffMs) := ⟨fun _ _ => rfl⟩
instance : atMarker.Ignored (Keeping World.backoffMs) := ⟨fun _ _ => rfl⟩
instance : atPresence.Ignored (Keeping World.backoffMs) := ⟨fun _ _ => rfl⟩
instance : atRest.Ignored (Keeping World.backoffMs) := ⟨fun _ _ => rfl⟩
instance : atSensor.Ignored (Keeping World.backoffMs) := ⟨fun _ _ => rfl⟩
instance : atTimers.Ignored (Keeping World.backoffMs) := ⟨fun _ _ => rfl⟩
instance : atPending.Ignored (Keeping World.backoffMs) := ⟨fun _ _ => rfl⟩
instance : atBatch.Ignored (Keeping World.backoffMs) := ⟨fun _ _ => rfl⟩

/-- A lost connection sets the time of the next attempt only. -/
instance : Respects env (Keeping World.backoffMs) connectionLost := by
  have hnext (now : TimePoint) : Respects env (Keeping World.backoffMs)
      (atRetry.update fun r => { r with nextReconnectAttempt := some now } : M Unit) :=
    ⟨fun _ => rfl⟩
  unfold connectionLost
  infer_instance

instance : Respects env (Keeping World.backoffMs) connectOnce := inferInstance

end Frames

theorem Op.run_backoffMs (env : Env) {op : Op} (hconnect : ∀ now, op ≠ .ensureConnection now)
    (hopen : ∀ now, op ≠ .ensureSensorSession now) (w : World) :
    (exec op.run env w).2.backoffMs = w.backoffMs := by
  cases op
  case ensureConnection now => exact absurd rfl (hconnect now)
  case ensureSensorSession now => exact absurd rfl (hopen now)
  all_goals
    refine Respects.keeps ?_ w
    unfold Op.run
    dsimp only
    infer_instance

section Attempts

variable (env : Env) {w : World}

instance (outcome : OpenOutcome) : Decidable outcome.Succeeds := inferInstanceAs (Decidable (_ ∧ _))

/-- What `connect_once` returns, if the pass at `now` calls it. -/
def connectResult (env : Env) (now : TimePoint) (w : World) : Option Bool :=
  if Due now w then (exec connectOnce env (w.attempting now)).1.toOption else none

/-- Whether the session opens, if the pass at `now` tries to open it. -/
def openResult (env : Env) (now : TimePoint) (w : World) : Option Bool :=
  if w.sensor.sensorConnected = false ∧ w.sensor.nextSensorAttempt.getD now ≤ now then
    some (decide (env.udpOpen w.taken.udpOpen).Succeeds)
  else none

/-- What an attempt makes of the backoff. -/
def paced (config : EkinoxConfig) (result : Option Bool) (backoff : ℤ) : ℤ :=
  match result with
  | none => backoff
  | some true => config.timeouts.reconnectBackoffMs.toInt
  | some false => doubleBackoff config backoff

theorem wp_toOption {α : Type} (x : M α) :
    wp x env (fun a _ => (exec x env w).1.toOption = some a)
      (fun _ _ => (exec x env w).1.toOption = none) w := by
  unfold wp
  rcases exec x env w with ⟨e | a, w'⟩ <;> rfl

theorem ensureConnection_paced (now : TimePoint) :
    wp (ensureConnection now) env
      (fun _ w' => w'.backoffMs = paced env.config (connectResult env now w) w.backoffMs ∧
        (connectResult env now w = some false →
          w'.retry.nextReconnectAttempt = some (now + milliseconds w'.backoffMs)))
      (fun _ w' => w'.backoffMs = paced env.config (connectResult env now w) w.backoffMs ∧
        connectResult env now w = none) w := by
  rw [wp_ensureConnection]
  split_ifs with hconn hearly
  · have hnone : connectResult env now w = none :=
      if_neg fun h => absurd (h.1.symm.trans hconn) Bool.false_ne_true
    simp [hnone, paced]
  · have hnone : connectResult env now w = none := if_neg fun h => absurd h.2 (Int.not_le.mpr hearly)
    simp only [hnone, paced]
    exact ⟨rfl, fun h => absurd h.symm (Option.some_ne_none false)⟩
  have hdue : Due now w := ⟨eq_false_of_ne_true hconn, Int.not_lt.mp hearly⟩
  have hresult : connectResult env now w = (exec connectOnce env (w.attempting now)).1.toOption :=
    if_pos hdue
  have hkeeps : Respects env (Keeping World.backoffMs) connectOnce := inferInstance
  rw [hresult]
  refine wp_mono (wp_and (wp_toOption env connectOnce) (respects_iff_wp.mp hkeeps _))
    (fun connected w₁ h => ?_) fun _ w₁ h => ?_
  · obtain ⟨hreturned, hkept⟩ := h
    rw [hreturned]
    cases connected with
    | true => exact ⟨rfl, fun h => absurd (Option.some.inj h).symm Bool.false_ne_true⟩
    | false =>
      have hdoubled : doubleBackoff env.config w₁.retry.currentBackoffMs =
          doubleBackoff env.config w.backoffMs := congrArg _ hkept
      exact ⟨hdoubled, fun _ => rfl⟩
  · obtain ⟨hthrew, hkept⟩ := h
    rw [hthrew]
    exact ⟨hkept, rfl⟩

/-- However an attempt to connect ends, it paces the backoff. -/
theorem backoffMs_ensureConnection (now : TimePoint) (w : World) :
    (exec (ensureConnection now) env w).2.backoffMs =
      paced env.config (connectResult env now w) w.backoffMs := by
  let Q (w' : World) : Prop :=
    w'.backoffMs = paced env.config (connectResult env now w) w.backoffMs
  have hrun : Q (exec (ensureConnection now) env w).2 := exec_of_wp
    (wp_mono (ensureConnection_paced env now) (fun _ _ h => h.1) fun _ _ h => h.1)
  exact hrun

theorem ensureSensorSession_paced (hsbg : env.hasSbg = true) (now : TimePoint) :
    wp (ensureSensorSession now) env
      (fun _ w' => w'.backoffMs = paced env.config (openResult env now w) w.backoffMs)
      (fun _ _ => False) w := by
  refine wp_ensureSensorSession hsbg (fun hsensor => ?_) (fun _ hearly => ?_) fun hsensor hdue => ?_
  · have hnone : openResult env now w = none :=
      if_neg fun h => absurd (h.1.symm.trans hsensor) Bool.false_ne_true
    simp [hnone, paced]
  · have hnone : openResult env now w = none := if_neg fun h => absurd h.2 (Int.not_le.mpr hearly)
    simp only [hnone, paced]
    rfl
  have hresult : openResult env now w = some (decide (env.udpOpen w.taken.udpOpen).Succeeds) :=
    if_pos ⟨hsensor, hdue⟩
  rw [hresult]
  have hkeeps : Respects env (Keeping World.backoffMs) sessionOpen := inferInstance
  refine wp_mono (wp_and (sessionOpen_flags env _) (respects_iff_wp.mp hkeeps _))
    (fun err w₁ h w₂ hleft => ?_) fun _ _ h => h.1
  obtain ⟨⟨-, hsucceeds⟩, hkept⟩ := h
  cases err with
  | some text =>
    have hfails : ¬(env.udpOpen w.taken.udpOpen).Succeeds :=
      fun h => absurd (hsucceeds.mpr h) (Option.some_ne_none text)
    rw [decide_eq_false hfails]
    exact hleft.backoff.trans (congrArg (doubleBackoff env.config) hkept)
  | none =>
    have hopens : (env.udpOpen w.taken.udpOpen).Succeeds := hsucceeds.mp rfl
    rw [decide_eq_true hopens]
    exact hleft.backoff

theorem backoffMs_ensureSensorSession (hsbg : env.hasSbg = true) (now : TimePoint) (w : World) :
    (exec (ensureSensorSession now) env w).2.backoffMs =
      paced env.config (openResult env now w) w.backoffMs := by
  let Q (w' : World) : Prop := w'.backoffMs = paced env.config (openResult env now w) w.backoffMs
  have hrun : Q (exec (ensureSensorSession now) env w).2 := exec_of_wp
    (wp_mono (ensureSensorSession_paced env hsbg now) (fun _ _ => id) fun _ _ => False.elim)
  exact hrun

end Attempts

/-- The delay after `n` failures in a row. -/
def EkinoxTimeouts.reconnectDelay (t : EkinoxTimeouts) (n : ℕ) : ℤ :=
  delay t.reconnectBackoffMs.toInt t.reconnectBackoffMaxMs.toInt n

/-- The attempt a step makes. -/
def Step.attempt (platform : Platform) (s : Step) (w : World) : Option Attempt :=
  match s.op with
  | .ensureConnection now => (connectResult ⟨platform, s.inputs⟩ now w).map .own
  | .ensureSensorSession now => (openResult ⟨platform, s.inputs⟩ now w).map .other
  | _ => none

/-- The failures behind a step. -/
def Step.tally (platform : Platform) (s : Step) (w _w' : World) (f : Failures) : Failures :=
  match s.attempt platform w with
  | none => f
  | some a => f.count a

/-- A failed attempt doubles the backoff within `int`. -/
def Step.Doubles (platform : Platform) (s : Step) (w : World) : Prop :=
  ∀ a ∈ s.attempt platform w, a.succeeded = false → w.retry.currentBackoffMs * 2 ≤ 2147483647

instance (platform : Platform) (s : Step) (w : World) : Decidable (s.Doubles platform w) :=
  inferInstanceAs (Decidable (∀ _ ∈ _, _))

theorem execStep_paced {platform : Platform} (hsbg : platform.hasSbg = true) (s : Step) (w : World) :
    (execStep platform s w).2.backoffMs =
      paced platform.config ((s.attempt platform w).map Attempt.succeeded) w.backoffMs := by
  obtain ⟨op, inputs⟩ := s
  let env : Env := ⟨platform, inputs⟩
  cases op
  case ensureConnection now =>
    have hown : ((connectResult env now w).map Attempt.own).map Attempt.succeeded =
        connectResult env now w := by
      cases connectResult env now w <;> rfl
    have hpaced := backoffMs_ensureConnection env now w
    exact hpaced.trans (congrArg (paced env.config · w.backoffMs) hown.symm)
  case ensureSensorSession now =>
    have hother : ((openResult env now w).map Attempt.other).map Attempt.succeeded =
        openResult env now w := by
      cases openResult env now w <;> rfl
    have hpaced := backoffMs_ensureSensorSession env hsbg now w
    exact hpaced.trans (congrArg (paced env.config · w.backoffMs) hother.symm)
  all_goals exact Op.run_backoffMs env (by simp) (by simp) w

section Delays

variable {platform : Platform}

/-- A doubling that does not overflow. -/
theorem doubleBackoff_eq {config : EkinoxConfig} {backoff : ℤ} (hpos : 0 < backoff)
    (hfits : backoff * 2 ≤ 2147483647) :
    doubleBackoff config backoff =
      min (backoff * 2) config.timeouts.reconnectBackoffMaxMs.toInt := by
  have hwraps : Int.bmod (backoff * 2) 4294967296 = backoff * 2 :=
    Int.bmod_eq_of_le (by omega) (by omega)
  rw [doubleBackoff, hwraps]

/-- The backoff is the delay of the failures of both loops. -/
theorem paced_tally (hpos : platform.config.timeouts.Positive)
    (hle : platform.config.timeouts.reconnectBackoffMs ≤
      platform.config.timeouts.reconnectBackoffMaxMs)
    {s : Step} {w w' : World} {f : Failures} (hdoubles : s.Doubles platform w)
    (hw : w.backoffMs = platform.config.timeouts.reconnectDelay f.shared) :
    paced platform.config ((s.attempt platform w).map Attempt.succeeded) w.backoffMs =
      platform.config.timeouts.reconnectDelay (s.tally platform w w' f).shared := by
  have hbase : 0 < platform.config.timeouts.reconnectBackoffMs.toInt :=
    Int32.lt_iff_toInt_lt.mp hpos.reconnectBackoffMs
  have hcap : 0 < platform.config.timeouts.reconnectBackoffMaxMs.toInt :=
    Int32.lt_iff_toInt_lt.mp hpos.reconnectBackoffMaxMs
  unfold Step.tally
  cases ha : s.attempt platform w with
  | none => exact hw
  | some a =>
    have hcount := Failures.delay_count (Int32.le_iff_toInt_le.mp hle) (Int.le_of_lt hcap) f a
    have hdelay : 0 < w.backoffMs := by
      rw [hw]
      exact delay_pos hbase hcap f.shared
    refine Eq.trans ?_ hcount.symm
    cases hsucceeded : a.succeeded with
    | true => simp only [Option.map_some, hsucceeded, paced, if_true]
    | false =>
      have hfits : w.backoffMs * 2 ≤ 2147483647 := hdoubles a ha hsucceeded
      simp only [Option.map_some, hsucceeded, paced, Bool.false_eq_true, if_false]
      rw [doubleBackoff_eq hdelay hfits, hw]
      rfl

end Delays

theorem milliseconds_inj {a b : ℤ} : milliseconds a = milliseconds b ↔ a = b := by
  change a * 1000000 = b * 1000000 ↔ a = b
  omega

/-- If the step is a failed attempt to connect, the next one follows after the delay of the
failures to connect. -/
def DelayedAlone (platform : Platform) (s : Step) (w : World) (f : Failures) : Prop :=
  let (w', f') := (monitored (execStep platform) (Step.tally platform) s (w, f)).2
  ∀ now, s.op = .ensureConnection now → connectResult ⟨platform, s.inputs⟩ now w = some false →
    w'.retry.nextReconnectAttempt =
      some (now + milliseconds (platform.config.timeouts.reconnectDelay f'.own))

/-- If the step is a failed attempt to connect, the other failures do not show. -/
def CountedAlone (platform : Platform) (s : Step) (w : World) (f : Failures) : Prop :=
  let (_, f') := (monitored (execStep platform) (Step.tally platform) s (w, f)).2
  ∀ now, s.op = .ensureConnection now → connectResult ⟨platform, s.inputs⟩ now w = some false →
    f'.Alone platform.config.timeouts.reconnectBackoffMs.toInt
      platform.config.timeouts.reconnectBackoffMaxMs.toInt

theorem delayedAlone_iff {platform : Platform}
    (hbase : 0 < platform.config.timeouts.reconnectBackoffMs.toInt) {s : Step} {w : World} {f : Failures}
    (hpaced : (execStep platform s w).2.backoffMs =
      platform.config.timeouts.reconnectDelay (s.tally platform w (execStep platform s w).2 f).shared) :
    DelayedAlone platform s w f ↔ CountedAlone platform s w f := by
  refine forall_congr' fun now => forall_congr' fun hop => forall_congr' fun hfailed => ?_
  rw [← Failures.alone_iff hbase]
  obtain ⟨op, inputs⟩ := s
  subst hop
  let env : Env := ⟨platform, inputs⟩
  let Q (w' : World) : Prop := w'.retry.nextReconnectAttempt = some (now + milliseconds w'.backoffMs)
  have hnext : Q (exec (ensureConnection now) env w).2 :=
    exec_of_wp (wp_mono (ensureConnection_paced env now) (fun _ _ h => h.2 hfailed)
      fun _ _ h => absurd (hfailed.symm.trans h.2) (Option.some_ne_none _))
  change Q (execStep platform ⟨.ensureConnection now, inputs⟩ w).2 at hnext
  simp only [Q, hpaced] at hnext
  simp only [monitored, hnext, Option.some.injEq]
  exact (Int.add_right_inj now).trans milliseconds_inj

/-- In a run of an accepted configuration whose backoff does not overflow, the delay before the
next attempt to connect is that of the failed attempts alone exactly where the failures of the
session do not show. -/
theorem reconnect_delayed_alone_iff {platform : Platform} (hsbg : platform.hasSbg = true)
    (haccepted : Accepted platform.config)
    (hle : platform.config.timeouts.reconnectBackoffMs ≤
      platform.config.timeouts.reconnectBackoffMaxMs)
    (inputs : Inputs) (steps : List Step)
    (hdoubles : AllSteps (execStep platform) (Step.Doubles platform) steps
      (initialWorld platform.config inputs)) :
    AllSteps (monitored (execStep platform) (Step.tally platform))
      (fun s p => DelayedAlone platform s p.1 p.2 ↔ CountedAlone platform s p.1 p.2) steps
      (initialWorld platform.config inputs, {}) := by
  have hpos := haccepted.timeoutsPositive
  have hbase : 0 < platform.config.timeouts.reconnectBackoffMs.toInt :=
    Int32.lt_iff_toInt_lt.mp hpos.reconnectBackoffMs
  refine AllSteps.of_invariant _
    (I := fun p => p.1.backoffMs = platform.config.timeouts.reconnectDelay p.2.shared)
    (fun s p hs hp => ?_) hdoubles.monitored ?_
  · have hpaced : (execStep platform s p.1).2.backoffMs = platform.config.timeouts.reconnectDelay
        (s.tally platform p.1 (execStep platform s p.1).2 p.2).shared :=
      (execStep_paced hsbg s p.1).trans (paced_tally hpos hle hs hp)
    exact ⟨hpaced, delayedAlone_iff hbase hpaced⟩
  · exact (delay_zero (Int32.le_iff_toInt_le.mp hle)).symm

/-- Nothing can be reached. -/
def benchUnreachable : Inputs :=
  { benchHealthy with
    mqttThrows := fun _ op => op = .connect
    udpOpen := fun _ => ⟨false, .noError, .noError⟩ }

/-- Two attempts to connect fail. -/
theorem reconnect_delayed_alone_twice :
    let steps := [⟨.ensureConnection (milliseconds 1000), benchUnreachable⟩,
      ⟨.ensureConnection (milliseconds 1500), benchUnreachable⟩]
    AllSteps (monitored (execStep benchPlatform) (Step.tally benchPlatform))
      (fun s p => DelayedAlone benchPlatform s p.1 p.2 ↔ CountedAlone benchPlatform s p.1 p.2) steps
      (initialWorld benchPlatform.config benchUnreachable, {}) := by
  intro steps
  refine reconnect_delayed_alone_iff rfl benchPlatform_accepted (by decide) benchUnreachable steps ?_
  refine .cons _ ?_ (.cons _ ?_ trivial)
  · decide +kernel
  · decide +kernel

/-- A session that has twice failed to open delays the first attempt to connect again. -/
theorem reconnect_delayed_by_session :
    let opens (t : ℤ) : Step := ⟨.ensureSensorSession (milliseconds t), benchUnreachable⟩
    let steps := [⟨.ensureConnection (milliseconds 1000), benchHealthy⟩, opens 1000, opens 1500,
      ⟨.connectionLost, benchHealthy⟩]
    let p := (execAll (monitored (execStep benchPlatform) (Step.tally benchPlatform)) steps
      (initialWorld benchPlatform.config benchHealthy, {})).2
    p.2.own = 0 ∧
      ¬DelayedAlone benchPlatform ⟨.ensureConnection (milliseconds 2000), benchUnreachable⟩ p.1 p.2 := by
  intro opens steps p
  have hfailed : connectResult ⟨benchPlatform, benchUnreachable⟩ (milliseconds 2000) p.1 =
      some false := by
    decide +kernel
  have hlate :
      let q := (monitored (execStep benchPlatform) (Step.tally benchPlatform)
        ⟨.ensureConnection (milliseconds 2000), benchUnreachable⟩ p).2
      q.2.own = 1 ∧ q.1.retry.nextReconnectAttempt ≠ some (milliseconds 2000 +
        milliseconds (benchPlatform.config.timeouts.reconnectDelay q.2.own)) := by
    decide +kernel
  exact ⟨by decide +kernel, fun h => hlate.2 (h _ rfl hfailed)⟩

end Ironsoft.Ekinox
