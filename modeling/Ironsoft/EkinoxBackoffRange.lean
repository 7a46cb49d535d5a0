import Ironsoft.EkinoxBackoff

/-!
# The range of the backoff

`current_backoff_ms_` starts as the configuration gives it and is doubled before it is capped.
It stays positive and under the cap, and the doubling within `int`, exactly if the cap is no
less than the start and can itself be doubled.
-/
namespace Ironsoft.Ekinox
open Effect BackoffModel

set_option synthInstance.maxSize 400000
set_option synthInstance.maxHeartbeats 200000

def BackoffInRange (config : EkinoxConfig) (w : World) : Prop :=
  0 < w.backoffMs ∧ w.backoffMs ≤ config.timeouts.reconnectBackoffMaxMs.toInt

/-- `current_backoff_ms_ * 2` is computed in the step. -/
def Step.Doubling (platform : Platform) (s : Step) (w : World) : Prop :=
  match s.op with
  | .ensureConnection now => connectResult ⟨platform, s.inputs⟩ now w = some false
  | .ensureSensorSession now =>
    platform.hasSbg = true ∧ openResult ⟨platform, s.inputs⟩ now w = some false
  | _ => False

/-- It does not overflow. -/
def Step.DoublesInt (platform : Platform) (s : Step) (w : World) : Prop :=
  s.Doubling platform w → w.backoffMs * 2 ≤ 2147483647

/-- The cap is no less than the first delay, and can be doubled. -/
structure EkinoxTimeouts.Doublable (t : EkinoxTimeouts) : Prop where
  base_le : t.reconnectBackoffMs ≤ t.reconnectBackoffMaxMs
  fits : t.reconnectBackoffMaxMs.toInt * 2 ≤ 2147483647

section Steps

variable {platform : Platform}

theorem paced_cases (config : EkinoxConfig) (result : Option Bool) (backoff : ℤ) :
    paced config result backoff = backoff ∨
      paced config result backoff = config.timeouts.reconnectBackoffMs.toInt ∨
      result = some false ∧ paced config result backoff = doubleBackoff config backoff := by
  rcases result with _ | _ | _
  · exact .inl rfl
  · exact .inr (.inr ⟨rfl, rfl⟩)
  · exact .inr (.inl rfl)

/-- Without sbgECom no session is opened. -/
theorem ensureSensorSession_noSbg (env : Env) (hsbg : env.hasSbg = false) (now : TimePoint) :
    Respects env (Keeping World.backoffMs) (ensureSensorSession now) := by
  have hmissing : Respects env (Keeping World.backoffMs) (ensureSensorSessionNoSbg now) := by
    unfold ensureSensorSessionNoSbg
    infer_instance
  unfold ensureSensorSession
  apply Respects.of_read
  simpa [hsbg] using hmissing

/-- The backoff is kept, started again or doubled. -/
theorem execStep_backoff (s : Step) (w : World) :
    (execStep platform s w).2.backoffMs = w.backoffMs ∨
      (execStep platform s w).2.backoffMs = platform.config.timeouts.reconnectBackoffMs.toInt ∨
      s.Doubling platform w ∧
        (execStep platform s w).2.backoffMs = doubleBackoff platform.config w.backoffMs := by
  obtain ⟨op, inputs⟩ := s
  let env : Env := ⟨platform, inputs⟩
  cases op
  case ensureConnection now =>
    have hcases := paced_cases env.config (connectResult env now w) w.backoffMs
    rw [← backoffMs_ensureConnection env now w] at hcases
    exact hcases
  case ensureSensorSession now =>
    cases hsbg : platform.hasSbg with
    | false => exact .inl ((ensureSensorSession_noSbg env hsbg now).keeps w)
    | true =>
      have hcases := paced_cases env.config (openResult env now w) w.backoffMs
      rw [← backoffMs_ensureSensorSession env hsbg now w] at hcases
      rcases hcases with h | h | ⟨hfailed, h⟩
      · exact .inl h
      · exact .inr (.inl h)
      · exact .inr (.inr ⟨⟨hsbg, hfailed⟩, h⟩)
  all_goals exact .inl (Op.run_backoffMs env (by simp) (by simp) w)

theorem execStep_inRange (hpos : platform.config.timeouts.Positive)
    (hdoublable : platform.config.timeouts.Doublable) (s : Step) {w : World}
    (hw : BackoffInRange platform.config w) :
    BackoffInRange platform.config (execStep platform s w).2 ∧ s.DoublesInt platform w := by
  have hbase : 0 < platform.config.timeouts.reconnectBackoffMs.toInt :=
    Int32.lt_iff_toInt_lt.mp hpos.reconnectBackoffMs
  have hle : platform.config.timeouts.reconnectBackoffMs.toInt ≤
      platform.config.timeouts.reconnectBackoffMaxMs.toInt :=
    Int32.le_iff_toInt_le.mp hdoublable.base_le
  have hfits : w.backoffMs * 2 ≤ 2147483647 := by
    have hcap := hdoublable.fits
    have hmax := hw.2
    omega
  refine ⟨?_, fun _ => hfits⟩
  unfold BackoffInRange
  rcases @execStep_backoff platform s w with h | h | ⟨-, h⟩
  · rw [h]
    exact hw
  · rw [h]
    exact ⟨hbase, hle⟩
  · have hlow := hw.1
    rw [h, doubleBackoff_eq hlow hfits]
    omega

end Steps

section Unreachable

variable {platform : Platform} {now : TimePoint} {w : World}

theorem connectOnce_unreachable (w : World) :
    wp connectOnce ⟨platform, benchUnreachable⟩ (fun connected w' => connected = false ∧
      w'.conn = w.conn ∧ w'.backoffMs = w.backoffMs) (fun _ _ => False) w := by
  have hthrows (k : ℕ) : benchUnreachable.mqttThrows k .connect = true := rfl
  simp only [connectOnce, setState, subscribeAndLog, wp_catchMqtt, wp_bind, wp_read, wp_mqttCall,
    Part.wp_update, wp_pure, if_true, MqttCall.op, hthrows]
  exact ⟨trivial, rfl, rfl⟩

theorem ensureConnection_unreachable (hdue : Due now w) :
    ∃ w', execStep platform ⟨.ensureConnection now, benchUnreachable⟩ w = (.ok (), w') ∧
      w'.conn.connected = false ∧ w'.backoffMs = doubleBackoff platform.config w.backoffMs := by
  let env : Env := ⟨platform, benchUnreachable⟩
  have hrun : wp (ensureConnection now) env (fun _ w' => w'.conn.connected = false ∧
      w'.backoffMs = doubleBackoff platform.config w.backoffMs) (fun _ _ => False) w := by
    rw [wp_ensureConnection_due hdue]
    refine wp_mono (connectOnce_unreachable (w.attempting now)) (fun connected w₁ h => ?_) fun _ _ => id
    obtain ⟨rfl, hconn₁, hbackoff⟩ := h
    constructor
    · change w₁.conn.connected = false
      rw [hconn₁]
      exact hdue.1
    · exact congrArg (doubleBackoff platform.config) hbackoff
  unfold wp at hrun
  change ∃ w', exec (ensureConnection now) env w = (.ok (), w') ∧ _
  revert hrun
  rcases exec (ensureConnection now) env w with ⟨e | ⟨⟩, w'⟩
  · exact False.elim
  · exact fun hrun => ⟨w', rfl, hrun⟩

theorem doubling_unreachable (hdue : Due now w) :
    Step.Doubling platform ⟨.ensureConnection now, benchUnreachable⟩ w := by
  have hrun := @connectOnce_unreachable platform (w.attempting now)
  have hresult : connectResult ⟨platform, benchUnreachable⟩ now w =
      (exec connectOnce ⟨platform, benchUnreachable⟩ (w.attempting now)).1.toOption := if_pos hdue
  change connectResult _ _ _ = _
  rw [hresult]
  unfold wp at hrun
  revert hrun
  rcases exec connectOnce ⟨platform, benchUnreachable⟩ (w.attempting now) with ⟨e | connected, w'⟩
  · exact False.elim
  · exact fun hrun => congrArg some hrun.1

theorem due_next (hconn : w.conn.connected = false) :
    Due (w.retry.nextReconnectAttempt.getD 0) w := by
  refine ⟨hconn, ?_⟩
  cases w.retry.nextReconnectAttempt <;> exact Int.le_refl _

/-- Attempts that fail in a row double the backoff as often as one likes. -/
theorem unreachable_run (hpos : platform.config.timeouts.Positive) (n k : ℕ)
    (hconn : w.conn.connected = false)
    (hw : w.backoffMs = platform.config.timeouts.reconnectDelay k) :
    ∃ steps, AllSteps (execStep platform) (Step.DoublesInt platform) steps w →
      platform.config.timeouts.reconnectDelay (k + n) * 2 ≤ 2147483647 := by
  induction n generalizing k w with
  | zero =>
    have hdue := due_next hconn
    refine ⟨[⟨.ensureConnection (w.retry.nextReconnectAttempt.getD 0), benchUnreachable⟩],
      fun hsteps => ?_⟩
    rw [Nat.add_zero, ← hw]
    exact hsteps.1 (doubling_unreachable hdue)
  | succ n ih =>
    have hdue := due_next hconn
    obtain ⟨w', hstep, hconn', hw'⟩ := @ensureConnection_unreachable platform _ _ hdue
    by_cases hfits : w.backoffMs * 2 ≤ 2147483647
    · have hbase : 0 < platform.config.timeouts.reconnectBackoffMs.toInt :=
        Int32.lt_iff_toInt_lt.mp hpos.reconnectBackoffMs
      have hcap : 0 < platform.config.timeouts.reconnectBackoffMaxMs.toInt :=
        Int32.lt_iff_toInt_lt.mp hpos.reconnectBackoffMaxMs
      have hdelay : w'.backoffMs = platform.config.timeouts.reconnectDelay (k + 1) := by
        have hlow : 0 < w.backoffMs := by
          rw [hw]
          exact delay_pos hbase hcap k
        rw [hw', doubleBackoff_eq hlow hfits, hw]
        exact (delay_succ (Int.le_of_lt hcap) k).symm
      obtain ⟨steps, hsteps⟩ := ih (k + 1) hconn' hdelay
      refine ⟨⟨.ensureConnection (w.retry.nextReconnectAttempt.getD 0), benchUnreachable⟩ :: steps,
        fun hall => ?_⟩
      have htail := hall.2
      rw [hstep] at htail
      have hfinal := hsteps htail
      rwa [Nat.add_assoc, Nat.add_comm 1 n] at hfinal
    · refine ⟨[⟨.ensureConnection (w.retry.nextReconnectAttempt.getD 0), benchUnreachable⟩],
        fun hall => ?_⟩
      exact absurd (hall.1 (doubling_unreachable hdue)) hfits

end Unreachable

/-- The backoff of an accepted configuration is in range in every run, and no run doubles it out
of `int`, exactly if its cap is no less than the first delay and can be doubled. -/
theorem backoff_in_range_iff {platform : Platform} (haccepted : Accepted platform.config) :
    (∀ (inputs : Inputs) (steps : List Step),
      BackoffInRange platform.config
        (execSteps platform steps (initialWorld platform.config inputs)).2 ∧
      AllSteps (execStep platform) (Step.DoublesInt platform) steps
        (initialWorld platform.config inputs)) ↔
      platform.config.timeouts.Doublable := by
  have hpos := haccepted.timeoutsPositive
  have hbase : 0 < platform.config.timeouts.reconnectBackoffMs.toInt :=
    Int32.lt_iff_toInt_lt.mp hpos.reconnectBackoffMs
  constructor
  · intro h
    have hle : platform.config.timeouts.reconnectBackoffMs.toInt ≤
        platform.config.timeouts.reconnectBackoffMaxMs.toInt := (h benchUnreachable []).1.2
    refine ⟨Int32.le_iff_toInt_le.mpr hle, ?_⟩
    have hstart : (initialWorld platform.config benchUnreachable).backoffMs =
        platform.config.timeouts.reconnectDelay 0 := (delay_zero hle).symm
    obtain ⟨steps, hsteps⟩ := unreachable_run hpos
      platform.config.timeouts.reconnectBackoffMaxMs.toInt.toNat 0 rfl hstart
    have hfits := hsteps (h benchUnreachable steps).2
    rwa [Nat.zero_add, EkinoxTimeouts.reconnectDelay, delay_eq_cap hbase] at hfits
  · intro hdoublable inputs steps
    have hstart : BackoffInRange platform.config (initialWorld platform.config inputs) :=
      ⟨hbase, Int32.le_iff_toInt_le.mp hdoublable.base_le⟩
    have hsteps : AllSteps (execStep platform) (fun _ _ => True) steps
        (initialWorld platform.config inputs) := allSteps_of_forall _ fun _ _ _ => trivial
    constructor
    · exact execAll_invariant (I := BackoffInRange platform.config) (execStep platform)
        (fun s _ _ hw => (execStep_inRange hpos hdoublable s hw).1) hsteps hstart
    · exact AllSteps.of_invariant (execStep platform)
        (fun s _ _ hw => execStep_inRange hpos hdoublable s hw) hsteps hstart

theorem backoff_in_range_bench :
    let steps := [⟨.ensureConnection (milliseconds 1000), benchUnreachable⟩,
      ⟨.ensureConnection (milliseconds 1500), benchUnreachable⟩]
    BackoffInRange benchPlatform.config
        (execSteps benchPlatform steps (initialWorld benchPlatform.config benchUnreachable)).2 ∧
      AllSteps (execStep benchPlatform) (Step.DoublesInt benchPlatform) steps
        (initialWorld benchPlatform.config benchUnreachable) :=
  (backoff_in_range_iff benchPlatform_accepted).mpr ⟨by decide, by decide⟩ benchUnreachable _

def benchSlowText : Bytes :=
  bytes "\x7b\"mqtt\":\x7b\"host\":\"broker\",\"port\":1883,\"drone_id\":\"d1\"\x7d," ++
    bytes "\"ekinox\":\x7b\"ip\":\"10.0.0.2\"\x7d," ++
    bytes "\"timeouts\":\x7b\"reconnect_backoff_ms\":2000000000\x7d\x7d"

def benchSlowJson : Json :=
  .obj [(bytes "mqtt", .obj [(bytes "host", .str (bytes "broker")), (bytes "port", .int 1883),
      (bytes "drone_id", .str (bytes "d1"))]),
    (bytes "ekinox", .obj [(bytes "ip", .str (bytes "10.0.0.2"))]),
    (bytes "timeouts", .obj [(bytes "reconnect_backoff_ms", .int 2000000000)])]

/-- A bench with a first delay of 2000000000 ms. -/
def benchSlowPlatform : Platform :=
  { benchPlatform with
    config := { benchPlatform.config with timeouts := { reconnectBackoffMs := 2000000000 } } }

theorem benchSlowPlatform_accepted : Accepted benchSlowPlatform.config :=
  ⟨{ benchLoadEnv with
      parse := fun content => .ok (if content = benchSlowText then some benchSlowJson else none)
      file := some benchSlowText }, bytes "config.json", {}, rfl⟩

theorem slow_backoff_overflows :
    Accepted benchSlowPlatform.config ∧
    ¬BackoffInRange benchSlowPlatform.config
      (initialWorld benchSlowPlatform.config benchUnreachable) ∧
    ¬AllSteps (execStep benchSlowPlatform) (Step.DoublesInt benchSlowPlatform)
      [⟨.ensureConnection (milliseconds 1000), benchUnreachable⟩]
      (initialWorld benchSlowPlatform.config benchUnreachable) := by
  refine ⟨benchSlowPlatform_accepted, fun h => ?_, fun h => ?_⟩
  · exact absurd h.2 (by decide)
  · have hdue : Due (milliseconds 1000) (initialWorld benchSlowPlatform.config benchUnreachable) := by
      decide
    exact absurd (h.1 (doubling_unreachable hdue)) (by decide)

end Ironsoft.Ekinox
