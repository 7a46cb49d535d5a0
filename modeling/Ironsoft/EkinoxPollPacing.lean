import Ironsoft.EkinoxApiRecovery
import Ironsoft.EkinoxConversation
import Ironsoft.PacingModel

/-!
# Pacing of the polls

The passes of the loop in which the timer asks the logger for its state are a poll interval apart,
although each lost connection disarms it and each new one arms it again. The times are those of the
passes: the request itself comes later if the pass has had commands to handle.
-/
namespace Ironsoft.Ekinox
open Effect PacingModel

set_option synthInstance.maxSize 400000
set_option synthInstance.maxHeartbeats 190000

/-- The next poll stays where it is, is called off, or is an interval behind a time that has been
read since. -/
structure Rearms (env : Env) (w w' : World) : Prop where
  steady : w.taken.steady ≤ w'.taken.steady
  next : w'.timers.nextRestPollMs = w.timers.nextRestPollMs ∨ w'.timers.nextRestPollMs ≤ 0 ∨
    ∃ k ≥ w.taken.steady, k < w'.taken.steady ∧
      w'.timers.nextRestPollMs = monoMs (env.steady k) + env.config.restPollInterval

section Frames

variable (env : Env)

theorem Rearms.kept {w w' : World} (hsteady : w.taken.steady ≤ w'.taken.steady)
    (hnext : w'.timers.nextRestPollMs = w.timers.nextRestPollMs) : Rearms env w w' :=
  ⟨hsteady, .inl hnext⟩

instance : IsPreorder World (Rearms env) where
  refl _ := .kept env (Nat.le_refl _) rfl
  trans _ _ _ h h' := by
    refine ⟨h.steady.trans h'.steady, ?_⟩
    rcases h'.next with hsame | hoff | ⟨k, hk, hread, hnext⟩
    · rw [hsame]
      rcases h.next with hkept | hoff | ⟨k, hk, hread, hnext⟩
      · exact .inl hkept
      · exact .inr (.inl hoff)
      · exact .inr (.inr ⟨k, hk, Nat.lt_of_lt_of_le hread h'.steady, hnext⟩)
    · exact .inr (.inl hoff)
    · exact .inr (.inr ⟨k, h.steady.trans hk, hread, hnext⟩)

instance : IgnoresReadings (Rearms env) :=
  ⟨fun _ => .kept env (Nat.le_succ _) rfl, fun _ => .kept env (Nat.le_refl _) rfl,
    fun _ => .kept env (Nat.le_refl _) rfl, fun _ => .kept env (Nat.le_refl _) rfl,
    fun _ => .kept env (Nat.le_refl _) rfl⟩
instance : IgnoresReplies (Rearms env) := ⟨fun _ => .kept env (Nat.le_refl _) rfl⟩
instance (e : Event) : Emits (Rearms env) e := ⟨fun _ => .kept env (Nat.le_refl _) rfl⟩
instance : atLink.Ignored (Rearms env) := ⟨fun _ _ => .kept env (Nat.le_refl _) rfl⟩
instance : atLogger.Ignored (Rearms env) := ⟨fun _ _ => .kept env (Nat.le_refl _) rfl⟩
instance : atError.Ignored (Rearms env) := ⟨fun _ _ => .kept env (Nat.le_refl _) rfl⟩
instance : atMarker.Ignored (Rearms env) := ⟨fun _ _ => .kept env (Nat.le_refl _) rfl⟩
instance : atConn.Ignored (Rearms env) := ⟨fun _ _ => .kept env (Nat.le_refl _) rfl⟩
instance : atRetry.Ignored (Rearms env) := ⟨fun _ _ => .kept env (Nat.le_refl _) rfl⟩
instance : atPresence.Ignored (Rearms env) := ⟨fun _ _ => .kept env (Nat.le_refl _) rfl⟩
instance : atRest.Ignored (Rearms env) := ⟨fun _ _ => .kept env (Nat.le_refl _) rfl⟩
instance : atSensor.Ignored (Rearms env) := ⟨fun _ _ => .kept env (Nat.le_refl _) rfl⟩
instance : atPending.Ignored (Rearms env) := ⟨fun _ _ => .kept env (Nat.le_refl _) rfl⟩
instance : atBatch.Ignored (Rearms env) := ⟨fun _ _ => .kept env (Nat.le_refl _) rfl⟩

instance : Respects env (Rearms env) (setNextRestPoll 0) :=
  ⟨fun _ => ⟨Nat.le_refl _, .inr (.inl (Int.le_refl _))⟩⟩

instance : Respects env (Rearms env) restIdle := by
  unfold restIdle
  infer_instance

instance : Respects env (Rearms env) disconnect := by
  unfold disconnect
  infer_instance

instance : Respects env (Rearms env) connectionLost := by
  unfold connectionLost
  infer_instance

instance (now : TimePoint) : Respects env (Rearms env) (statusTimer now) := by
  have hnext : Respects env (Rearms env)
      (atTimers.update fun t => { t with nextStatusPub := now + milliseconds 1000 } : M Unit) :=
    ⟨fun _ => .kept env (Nat.le_refl _) rfl⟩
  unfold statusTimer
  infer_instance

instance (now : TimePoint) : Respects env (Rearms env) (heartbeatTimer now) := by
  have hseq : Respects env (Rearms env)
      (atTimers.update fun t => { t with heartbeatSeq := t.heartbeatSeq + 1 } : M Unit) :=
    ⟨fun _ => .kept env (Nat.le_refl _) rfl⟩
  have hnext : Respects env (Rearms env)
      (atTimers.update fun t => { t with nextHeartbeatPub := now + milliseconds 1000 } : M Unit) :=
    ⟨fun _ => .kept env (Nat.le_refl _) rfl⟩
  unfold heartbeatTimer publishHeartbeat
  infer_instance

/-- A new session arms the timer with the time it reads first. -/
instance : Respects env (Rearms env) startSession := by
  rw [respects_iff_wp]
  intro w
  have htail : Respects env (Rearms env) (do
      setState .connecting
      updatePresenceState (← monoNow) (bytes "connecting")
      selfTest : M Unit) := inferInstance
  unfold startSession
  rw [wp_bind, wp_monoNow, wp_bind, wp_read, wp_bind]
  have hreset (t : ℤ) : wp (resetSession t) env
      (fun _ w' => w'.timers.nextRestPollMs = t ∧ w.taken.steady < w'.taken.steady)
      (fun _ _ => False) w.tookSteady := ⟨rfl, Nat.lt_succ_self _⟩
  refine wp_mono (hreset _) (fun _ w₁ h₁ => ?_) fun _ _ => False.elim
  have harmed : Rearms env w w₁ :=
    ⟨Nat.le_of_lt h₁.2, .inr (.inr ⟨_, Nat.le_refl _, h₁.2, h₁.1⟩)⟩
  exact htail.wp_of fun _ => trans_of _ harmed

end Frames

theorem Op.run_rearms {op : Op} (env : Env) (hop : ∀ nowMs, op ≠ .restTimer nowMs) :
    Respects env (Rearms env) op.run := by
  cases op
  case restTimer nowMs => exact absurd rfl (hop nowMs)
  all_goals
    unfold Op.run
    dsimp only
    infer_instance

/-- The time the loop has last looked at the timer with, and the times of the looks after which the
timer has asked the logger, newest first. -/
structure PollWatch where
  look : Option ℤ := none
  polls : List ℤ := []

def PollWatch.looked (m : PollWatch) (nowMs : ℤ) (asked : Bool) : PollWatch :=
  ⟨some nowMs, if asked then nowMs :: m.polls else m.polls⟩

/-- The timer has asked if anything was said. -/
def PollWatch.note (s : Step) (w w' : World) (m : PollWatch) : PollWatch :=
  match s.op with
  | .restTimer nowMs => m.looked nowMs (w'.talkLog ≠ w.talkLog)
  | _ => m

/-- The operations are passed times the clock has shown, and the loop does not look at the timer with
a time before the last one. -/
structure LooksInOrder (clock : ℕ → TimePoint) (s : Step) (p : World × PollWatch) : Prop where
  clock_eq : s.inputs.steady = clock
  timed : s.op.Timed clock p.1
  ordered : ∀ nowMs, s.op = .restTimer nowMs → ∀ last ∈ p.2.look, last ≤ nowMs

/-- The polls are an interval apart, and so is the next one if the timer is armed. -/
structure Watched (config : EkinoxConfig) (clock : ℕ → TimePoint) (p : World × PollWatch) : Prop where
  paced : Paced config.restPollInterval p.2.polls
  seen : ∀ t ∈ p.2.polls, ∃ last ∈ p.2.look, t ≤ last
  past : ∀ last ∈ p.2.look, last ≤ monoMs (clock p.1.taken.steady)
  waits : 0 < p.1.timers.nextRestPollMs →
    ∀ t ∈ p.2.polls, t + config.restPollInterval ≤ p.1.timers.nextRestPollMs

section Watching

variable {config : EkinoxConfig} {clock : ℕ → TimePoint} {w w' : World} {m : PollWatch}

theorem Watched.timer (h : Watched config clock (w, m)) (hnext : 0 < w.timers.nextRestPollMs) :
    Timer config.restPollInterval w.timers.nextRestPollMs m.polls :=
  ⟨h.paced, h.waits hnext⟩

theorem Watched.rearms {env : Env} (h : Watched env.config env.steady (w, m))
    (hclock : SteadyClock env.steady) (hrearms : Rearms env w w') :
    Watched env.config env.steady (w', m) := by
  refine ⟨h.paced, h.seen, fun last hlast => ?_, fun hpos t ht => ?_⟩
  · exact Int.le_trans (h.past last hlast) (Timeline.monoMs_mono (hclock _ _ hrearms.steady))
  · rcases hrearms.next with hsame | hoff | ⟨k, hk, -, hnext⟩
    · dsimp only at hpos ⊢
      rw [hsame] at hpos ⊢
      exact h.waits hpos t ht
    · exact absurd hpos (Int.not_lt.mpr hoff)
    · obtain ⟨last, hlast, hle⟩ := h.seen t ht
      have hread := Timeline.monoMs_mono (hclock _ _ hk)
      have hpast := h.past last hlast
      dsimp only at hpast ⊢
      rw [hnext]
      omega

theorem Watched.le_of_poll (h : Watched config clock (w, m)) {nowMs : ℤ}
    (hordered : ∀ last ∈ m.look, last ≤ nowMs) {t : ℤ} (ht : t ∈ m.polls) : t ≤ nowMs := by
  obtain ⟨last, hlast, hle⟩ := h.seen t ht
  exact Int.le_trans hle (hordered last hlast)

/-- The timer has been set to an interval behind the time it was looked at. -/
theorem watched_of_set {nowMs : ℤ} {asked : Bool}
    (htimer : Timer config.restPollInterval (nowMs + config.restPollInterval)
      (m.looked nowMs asked).polls)
    (hbefore : ∀ t ∈ m.polls, t ≤ nowMs) (hpast : nowMs ≤ monoMs (clock w.taken.steady))
    (hnext : w.timers.nextRestPollMs = nowMs + config.restPollInterval) :
    Watched config clock (w, m.looked nowMs asked) where
  paced := htimer.paced
  seen t ht := by
    refine ⟨nowMs, rfl, ?_⟩
    unfold PollWatch.looked at ht
    split_ifs at ht
    · rcases List.mem_cons.mp ht with rfl | ht
      · exact Int.le_refl _
      · exact hbefore t ht
    · exact hbefore t ht
  past := by
    rintro last ⟨⟩
    exact hpast
  waits _ t ht := hnext ▸ htimer.waits t ht

/-- The timer waits until it is due, and is set anew when it has asked. -/
theorem restTimer_watched (env : Env) {nowMs : ℤ} (h : Watched env.config env.steady (w, m))
    (hclock : SteadyClock env.steady) (hpast : nowMs ≤ monoMs (env.steady w.taken.steady))
    (hordered : ∀ last ∈ m.look, last ≤ nowMs) :
    wp (restTimer nowMs) env
      (fun _ w' => ∀ asked : Bool, (asked = true → w'.talkLog ≠ w.talkLog) →
        Watched env.config env.steady (w', m.looked nowMs asked))
      (fun _ _ => ∀ asked, Paced env.config.restPollInterval (m.looked nowMs asked).polls) w := by
  have hinterval := restPollInterval_pos env.config
  have hbefore (t : ℤ) (ht : t ∈ m.polls) : t ≤ nowMs := h.le_of_poll hordered ht
  simp only [restTimer, setNextRestPoll, wp_bind, wp_get, wp_ite, wp_pure, wp_read, Part.wp_update]
  split_ifs with hunset hdue hdue
  · have hlater : nowMs + env.config.restPollInterval ≤ nowMs := hdue
    omega
  · intro asked hasked
    obtain rfl : asked = false := eq_false_of_ne_true fun h => hasked h rfl
    refine watched_of_set ⟨h.paced, fun t ht => ?_⟩ hbefore hpast rfl
    have hle := hbefore t ht
    omega
  · have htimer := h.timer (Int.not_le.mp hunset)
    have hafter (asked : Bool) : Timer env.config.restPollInterval
        (nowMs + env.config.restPollInterval) (m.looked nowMs asked).polls := by
      unfold PollWatch.looked
      split_ifs
      · exact htimer.fire hdue (Int.le_of_lt hinterval)
      · exact htimer.postpone (by omega)
    have hrearms : Respects env (Rearms env) (requestLoggerState (bytes "poll.timer") nowMs) :=
      inferInstance
    refine wp_mono (respects_iff_wp.mp hrearms w) (fun _ w₁ h₁ asked _ => ?_)
      fun _ w₁ _ asked => (hafter asked).paced
    exact watched_of_set (hafter asked) hbefore
      (Int.le_trans hpast (Timeline.monoMs_mono (hclock _ _ h₁.steady))) rfl
  · intro asked hasked
    obtain rfl : asked = false := eq_false_of_ne_true fun h => hasked h rfl
    refine ⟨h.paced, fun t ht => ⟨nowMs, rfl, hbefore t ht⟩, ?_, h.waits⟩
    rintro last ⟨⟩
    exact hpast

end Watching

/-- What a step leaves of the timer and its polls. -/
theorem monitored_watched {platform : Platform} {clock : ℕ → TimePoint} (hclock : SteadyClock clock)
    {s : Step} {p : World × PollWatch} (hs : LooksInOrder clock s p)
    (hp : Watched platform.config clock p) :
    Leaves (Watched platform.config clock) (fun p => Paced platform.config.restPollInterval p.2.polls)
      (monitored (execStep platform) PollWatch.note s p) := by
  obtain ⟨rfl, htimed, hordered⟩ := hs
  obtain ⟨w, m⟩ := p
  obtain ⟨op, inputs⟩ := s
  rw [leaves_monitored_iff]
  unfold execStep
  rw [leaves_exec_iff]
  by_cases hop : ∃ nowMs, op = .restTimer nowMs
  · obtain ⟨nowMs, rfl⟩ := hop
    obtain ⟨j, hj, hnow⟩ := htimed
    have hpast : nowMs ≤ monoMs (inputs.steady w.taken.steady) := by
      rw [hnow]
      exact Timeline.monoMs_mono (hclock _ _ (Nat.le_of_lt hj))
    have hafter := restTimer_watched ⟨platform, inputs⟩ hp hclock hpast
      (hordered nowMs rfl)
    exact wp_mono hafter (fun _ _ h => h _ of_decide_eq_true) fun _ _ h => h _
  · have hrearms := Op.run_rearms ⟨platform, inputs⟩ fun nowMs h => hop ⟨nowMs, h⟩
    have hother (w' : World) : m.note ⟨op, inputs⟩ w w' = m := by
      cases op
      case restTimer nowMs => exact absurd ⟨nowMs, rfl⟩ hop
      all_goals rfl
    simp only [hother]
    exact wp_mono (respects_iff_wp.mp hrearms w) (fun _ _ h => hp.rearms hclock h)
      fun _ _ _ => hp.paced

/-- In a run with a steady clock two passes in which the timer asks are never closer than the poll
interval, whatever connections are lost and made in between. -/
theorem polls_paced (platform : Platform) (clock : ℕ → TimePoint) (hclock : SteadyClock clock)
    (inputs : Inputs) (steps : List Step)
    (hsteps : AllSteps (monitored (execStep platform) PollWatch.note) (LooksInOrder clock) steps
      (initialWorld platform.config inputs, {})) :
    Paced platform.config.restPollInterval
      (execAll (monitored (execStep platform) PollWatch.note) steps
        (initialWorld platform.config inputs, {})).2.2.polls := by
  have hinitial : Watched platform.config clock (initialWorld platform.config inputs, {}) :=
    ⟨.nil, nofun, nofun, fun _ => nofun⟩
  have hleaves := execAll_leaves (monitored (execStep platform) PollWatch.note)
    (fun s p hs hp => monitored_watched hclock hs hp) hsteps hinitial
  revert hleaves
  rcases execAll (monitored (execStep platform) PollWatch.note) steps
    (initialWorld platform.config inputs, {}) with ⟨_ | _, w, m⟩
  · exact fun h => h
  · exact fun h => h.paced

/-- A clock that goes on by a second with every reading. -/
def benchStriding : Inputs :=
  { benchHealthy with steady := fun k => milliseconds (1000 * k) }

theorem benchStriding_steady : SteadyClock benchStriding.steady := by
  intro j k h
  change 1000 * (j : ℤ) * 1000000 ≤ 1000 * (k : ℤ) * 1000000
  omega

/-- A poll on a connection, and one on the connection after it is lost. -/
def benchRepolledSteps : List Step :=
  [⟨.ensureConnection (milliseconds 1000), benchStriding⟩, ⟨.readClock, benchStriding⟩,
    ⟨.restTimer 8000, benchStriding⟩, ⟨.connectionLost, benchStriding⟩,
    ⟨.ensureConnection (milliseconds 12000), benchStriding⟩, ⟨.readClock, benchStriding⟩,
    ⟨.restTimer 19000, benchStriding⟩]

theorem polls_paced_relinked :
    (execAll (monitored (execStep benchPlatform) PollWatch.note) benchRepolledSteps
        (initialWorld benchPlatform.config benchStriding, {})).2.2.polls = [19000, 8000] ∧
      Paced 2000 (execAll (monitored (execStep benchPlatform) PollWatch.note) benchRepolledSteps
        (initialWorld benchPlatform.config benchStriding, {})).2.2.polls := by
  refine ⟨by decide +kernel, ?_⟩
  refine polls_paced benchPlatform benchStriding.steady benchStriding_steady benchStriding _ ?_
  refine .cons _ ⟨rfl, ⟨1, ?_, rfl⟩, nofun⟩ (.cons _ ⟨rfl, trivial, nofun⟩
    (.cons _ ⟨rfl, ⟨8, ?_, rfl⟩, ?_⟩ (.cons _ ⟨rfl, trivial, nofun⟩
      (.cons _ ⟨rfl, ⟨12, ?_, rfl⟩, nofun⟩ (.cons _ ⟨rfl, trivial, nofun⟩
        (.cons _ ⟨rfl, ⟨19, ?_, rfl⟩, ?_⟩ trivial))))))
  · decide +kernel
  · decide +kernel
  · rintro _ ⟨⟩
    decide +kernel
  · decide +kernel
  · decide +kernel
  · rintro _ ⟨⟩
    decide +kernel

end Ironsoft.Ekinox
