import Ironsoft.GuiSettles
import Ironsoft.RankModel

/-!
# Stopping the worker

`stop` waits for the worker to end. However the threads come between one another, the worker has few
steps left to take then, reads no message but the one it may be waiting for, and always has a step to
take until it has ended.
-/
namespace Ironsoft.Gui
open Ekinox RankModel

/-- A setter may leave a signal to post. -/
def GuiAct.weight : GuiAct → ℕ
  | .post _ _ => 1
  | _ => 2

def weightOf : List GuiAct → ℕ
  | [] => 0
  | a :: todo => a.weight + weightOf todo

/-- The steps from the end of a list of actions to the end of a worker that is to stop. -/
def WorkerPhase.rank : WorkerPhase → ℕ
  | .finished => 0
  | .top | .afterTry | .waiting => 7
  | .looping => 13
  | .subscribing => 16
  | .consuming => 17
  | .connecting => 22

def Worker.rank (w : Worker) : ℕ := w.phase.rank + weightOf w.todo

def GuiState.rank (s : GuiState) : ℕ := (s.worker.map Worker.rank).getD 0 + weightOf s.uiTodo

/-- The messages that a worker which is to stop may still be given: one where it waits for one. -/
def WorkerPhase.unread : WorkerPhase → ℕ
  | .consuming => 1
  | _ => 0

def GuiState.unread (s : GuiState) : ℕ := (s.worker.map fun w => w.phase.unread).getD 0

/-- A step of the worker, or of `stop`. -/
def Move.stops : Move → Bool
  | .uiAct | .workerAct | .workerMove _ => true
  | _ => false

def WorkerMove.reads : WorkerMove → Bool
  | .consume _ _ => true
  | _ => false

def Move.reads : Move → Bool
  | .workerMove move => move.reads
  | _ => false

@[simp] theorem weightOf_nil : weightOf [] = 0 := rfl

@[simp] theorem weightOf_cons (a : GuiAct) (todo : List GuiAct) :
    weightOf (a :: todo) = a.weight + weightOf todo := rfl

@[simp] theorem weightOf_append (todo todo' : List GuiAct) :
    weightOf (todo ++ todo') = weightOf todo + weightOf todo' := by
  induction todo with
  | nil => simp
  | cons a todo ih => simp [ih, Nat.add_assoc]

/-- An action leaves less to do. -/
theorem exec_weight (c : Core) (a : GuiAct) : weightOf (c.exec a).2 < a.weight := by
  have hstate (state : MqttConnectionState) : weightOf (c.exchangeState state).2 < 2 := by
    simp only [Core.exchangeState]
    split_ifs <;> simp [GuiAct.weight]
  cases a with
  | setConnected v =>
    simp only [Core.exec]
    split_ifs <;> simp [GuiAct.weight]
  | setPresence v =>
    simp only [Core.exec]
    split_ifs <;> simp [GuiAct.weight]
  | setState state => exact hstate state
  | setLastState => exact hstate _
  | post origin signal => simp [Core.exec, GuiAct.weight]

theorem messageActs_weight (fromJson : QJsonParser) (msg : GuiMessage) (currentSecs : ℤ) :
    weightOf (messageActs fromJson msg currentSecs) ≤ 3 := by
  obtain ⟨kind, payload⟩ := msg
  cases kind with
  | presence =>
    cases hread : readObject fromJson payload with
    | none => simp [messageActs, hread, GuiAct.weight]
    | some obj =>
      simp only [messageActs, hread]
      split_ifs <;> simp [GuiAct.weight]
  | ekinoxPresence => cases hread : readObject fromJson payload <;> simp [messageActs, hread, GuiAct.weight]
  | ekinoxStatus =>
    cases hparse : parseEkinoxStatusJson fromJson payload {} currentSecs <;>
      simp [messageActs, hparse, GuiAct.weight]
  | _ => simp [messageActs, GuiAct.weight]

section WorkerMoves

variable {fromJson : QJsonParser} {c : Core} {phase : WorkerPhase} {move : WorkerMove} {next : Core × Worker}

/-- A worker that is to stop comes closer to its end. -/
theorem workerMove_rank (hstop : c.stop = true) (h : c.workerMove fromJson phase move = some next) :
    next.1.stop = true ∧ next.2.rank < phase.rank := by
  cases move with
  | consume msg currentSecs =>
    cases phase with
    | consuming =>
      obtain rfl := Option.some.inj h
      have hmessage := messageActs_weight fromJson msg currentSecs
      refine ⟨hstop, ?_⟩
      simp only [Worker.rank, WorkerPhase.rank]
      omega
    | _ => simp [Core.workerMove] at h
  | _ =>
    cases phase <;> simp [Core.workerMove, hstop] at h <;> subst h <;>
      simp [Worker.rank, WorkerPhase.rank, Worker.failed, Worker.closed, Worker.finish, GuiAct.weight, hstop]

/-- It does not begin to wait for a message again. -/
theorem workerMove_unread (hstop : c.stop = true) (h : c.workerMove fromJson phase move = some next) :
    if move.reads then next.2.phase.unread < phase.unread else next.2.phase.unread ≤ phase.unread := by
  cases phase <;> cases move <;> simp [Core.workerMove, hstop] at h <;> subst h <;>
    simp [WorkerMove.reads, WorkerPhase.unread, Worker.failed, Worker.closed, Worker.finish]

/-- A worker never has more to do than one that begins to connect. -/
theorem workerMove_rank_le (h : c.workerMove fromJson phase move = some next) : next.2.rank ≤ 25 := by
  cases move with
  | consume msg currentSecs =>
    cases phase with
    | consuming =>
      obtain rfl := Option.some.inj h
      have hmessage := messageActs_weight fromJson msg currentSecs
      simp only [Worker.rank, WorkerPhase.rank]
      omega
    | _ => simp [Core.workerMove] at h
  | loop =>
    cases phase with
    | top | looping | afterTry | waiting =>
      simp only [Core.workerMove] at h
      split_ifs at h
      all_goals
        obtain rfl := Option.some.inj h
        simp [Worker.rank, WorkerPhase.rank, Worker.closed, Worker.finish, GuiAct.weight]
    | _ => simp [Core.workerMove] at h
  | callFails | callReturns | consumeEnds =>
    cases phase <;> simp [Core.workerMove] at h <;> subst h <;>
      simp [Worker.rank, WorkerPhase.rank, Worker.failed, Worker.closed, GuiAct.weight]

/-- A worker that has not ended can go on. -/
theorem exists_workerMove (fromJson : QJsonParser) (c : Core) {phase : WorkerPhase} (h : phase ≠ .finished) :
    ∃ move, (c.workerMove fromJson phase move).isSome = true := by
  cases phase with
  | finished => exact absurd rfl h
  | connecting | subscribing | looping | consuming => exact ⟨.callFails, rfl⟩
  | top | afterTry | waiting =>
    refine ⟨.loop, ?_⟩
    simp only [Core.workerMove]
    split_ifs <;> rfl

end WorkerMoves

/-- How much the threads have to do is bounded. -/
structure GuiState.Short (s : GuiState) : Prop where
  worker : ∀ w, s.worker = some w → w.rank ≤ 25
  ui : s.uiPhase = .joining → weightOf s.uiTodo ≤ 2

/-- The UI thread is in `stop`. -/
structure GuiState.Stopping (s : GuiState) : Prop where
  joining : s.uiPhase = .joining
  stop : s.core.stop = true

variable {fromJson : QJsonParser} {s s' : GuiState} {move : Move}

theorem short_init : GuiState.Short {} := ⟨by simp, by simp⟩

theorem GuiState.Short.step (h : s.Short) (hs : s.step fromJson move = some s') : s'.Short := by
  cases move with
  | uiAct =>
    cases htodo : s.uiTodo with
    | nil => simp [GuiState.step, htodo] at hs
    | cons a rest =>
      simp only [GuiState.step, htodo, Option.some.injEq] at hs
      subst hs
      refine ⟨h.worker, fun hphase => ?_⟩
      have hui := h.ui hphase
      have hless := exec_weight s.core a
      rw [htodo, weightOf_cons] at hui
      simp only [weightOf_append]
      omega
  | workerAct =>
    simp only [GuiState.step] at hs
    split at hs
    case h_1 a rest phase hw =>
      obtain rfl := Option.some.inj hs
      refine ⟨fun w hw' => ?_, h.ui⟩
      obtain rfl := Option.some.inj hw'
      have hrank := h.worker _ hw
      have hless := exec_weight s.core a
      simp only [Worker.rank, weightOf_cons, weightOf_append] at hrank ⊢
      omega
    case h_2 => simp at hs
  | workerMove move =>
    simp only [GuiState.step] at hs
    split at hs
    case h_1 phase hw =>
      obtain ⟨next, hm, rfl⟩ := Option.map_eq_some_iff.mp hs
      refine ⟨fun w hw' => ?_, h.ui⟩
      obtain rfl := Option.some.inj hw'
      exact workerMove_rank_le hm
    case h_2 => simp at hs
  | chatter =>
    obtain rfl := Option.some.inj hs
    exact ⟨h.worker, h.ui⟩
  | deliver =>
    cases hq : s.core.queue with
    | nil => simp [GuiState.step, hq] at hs
    | cons e queue =>
      simp only [GuiState.step, hq] at hs
      split_ifs at hs
      obtain rfl := Option.some.inj hs
      exact ⟨h.worker, h.ui⟩
  | connectToBroker =>
    simp only [GuiState.step] at hs
    split_ifs at hs
    obtain rfl := Option.some.inj hs
    exact ⟨h.worker, by simp⟩
  | startWorker =>
    simp only [GuiState.step] at hs
    split_ifs at hs
    obtain rfl := Option.some.inj hs
    refine ⟨fun w hw => ?_, by simp⟩
    obtain rfl := Option.some.inj hw
    simp [Worker.rank, WorkerPhase.rank]
  | stop =>
    simp only [GuiState.step] at hs
    split_ifs at hs
    obtain rfl := Option.some.inj hs
    exact ⟨h.worker, fun _ => by simp [GuiAct.weight]⟩
  | join =>
    simp only [GuiState.step] at hs
    split_ifs at hs
    obtain rfl := Option.some.inj hs
    exact ⟨by simp, by simp⟩

theorem GuiState.Short.run {moves : List Move} (h : s.Short) (hr : s.run fromJson moves = some s') :
    s'.Short := by
  induction moves generalizing s with
  | nil =>
    obtain rfl := Option.some.inj hr
    exact h
  | cons move moves ih =>
    rw [GuiState.run, List.foldlM_cons] at hr
    obtain ⟨s₁, hs, hr⟩ := Option.bind_eq_some_iff.mp hr
    exact ih (h.step hs) hr

theorem GuiState.Short.rank_le (h : s.Short) (hjoining : s.uiPhase = .joining) : s.rank ≤ 27 := by
  have hui := h.ui hjoining
  unfold GuiState.rank
  cases hw : s.worker with
  | none =>
    simp only [Option.map_none, Option.getD_none]
    omega
  | some w =>
    have hworker := h.worker w hw
    simp only [Option.map_some, Option.getD_some]
    omega

/-- What a step in `stop` leaves, short of its end. -/
theorem GuiState.Stopping.step (h : s.Stopping) (hjoin : move ≠ .join)
    (hs : s.step fromJson move = some s') :
    s'.Stopping ∧ (if move.stops then s'.rank < s.rank else s'.rank ≤ s.rank) ∧
      (if move.reads then s'.unread < s.unread else s'.unread ≤ s.unread) := by
  have hidle : s.idle = false := by simp [GuiState.idle, h.joining]
  cases move with
  | uiAct =>
    cases htodo : s.uiTodo with
    | nil => simp [GuiState.step, htodo] at hs
    | cons a rest =>
      simp only [GuiState.step, htodo, Option.some.injEq] at hs
      subst hs
      have hstop : (s.core.exec a).1.stop = s.core.stop := exec_stop s.core a
      have hless := exec_weight s.core a
      refine ⟨⟨h.joining, hstop.trans h.stop⟩, ?_, le_rfl⟩
      simp only [Move.stops, if_true, GuiState.rank, htodo, weightOf_cons, weightOf_append]
      omega
  | workerAct =>
    simp only [GuiState.step] at hs
    split at hs
    case h_1 a rest phase hw =>
      obtain rfl := Option.some.inj hs
      have hstop : (s.core.exec a).1.stop = s.core.stop := exec_stop s.core a
      have hless := exec_weight s.core a
      refine ⟨⟨h.joining, hstop.trans h.stop⟩, ?_, by simp [Move.reads, GuiState.unread, hw]⟩
      simp only [Move.stops, if_true, GuiState.rank, hw, Option.map_some, Option.getD_some, Worker.rank,
        weightOf_cons, weightOf_append]
      omega
    case h_2 => simp at hs
  | workerMove move =>
    simp only [GuiState.step] at hs
    split at hs
    case h_1 phase hw =>
      obtain ⟨next, hm, rfl⟩ := Option.map_eq_some_iff.mp hs
      obtain ⟨hstop, hless⟩ := workerMove_rank h.stop hm
      have hunread := workerMove_unread h.stop hm
      refine ⟨⟨h.joining, hstop⟩, ?_, by simpa [Move.reads, GuiState.unread, hw] using hunread⟩
      simp only [Move.stops, if_true, GuiState.rank, hw, Option.map_some, Option.getD_some]
      have hrank : Worker.rank ⟨[], phase⟩ = phase.rank := rfl
      omega
    case h_2 => simp at hs
  | chatter =>
    obtain rfl := Option.some.inj hs
    exact ⟨⟨h.joining, h.stop⟩, le_rfl, le_rfl⟩
  | deliver =>
    simp only [GuiState.step, hidle] at hs
    cases hq : s.core.queue <;> simp [hq] at hs
  | connectToBroker => simp [GuiState.step, hidle] at hs
  | startWorker => simp [GuiState.step, h.joining] at hs
  | stop => simp [GuiState.step, hidle] at hs
  | join => exact absurd rfl hjoin

theorem stopping_uses (fromJson : QJsonParser) :
    Uses (GuiState.step fromJson) GuiState.Stopping (· ≠ .join) Move.stops GuiState.rank := by
  intro s move s' h hjoin hs
  obtain ⟨hstill, hrank, -⟩ := h.step hjoin hs
  exact ⟨hstill, hrank⟩

theorem reading_uses (fromJson : QJsonParser) :
    Uses (GuiState.step fromJson) GuiState.Stopping (· ≠ .join) Move.reads GuiState.unread := by
  intro s move s' h hjoin hs
  obtain ⟨hstill, -, hunread⟩ := h.step hjoin hs
  exact ⟨hstill, hunread⟩

/-- Someone can go on. -/
theorem GuiState.Stopping.progress (h : s.Stopping) (fromJson : QJsonParser) :
    (s.step fromJson .join).isSome = true ∨
      ∃ move, move.stops = true ∧ (s.step fromJson move).isSome = true := by
  cases htodo : s.uiTodo with
  | cons a rest => exact .inr ⟨.uiAct, rfl, by simp [GuiState.step, htodo]⟩
  | nil =>
    cases hw : s.worker with
    | none => exact .inl (by simp [GuiState.step, htodo, h.joining, hw])
    | some w =>
      obtain ⟨_ | ⟨a, rest⟩, phase⟩ := w
      · by_cases hphase : phase = .finished
        · subst hphase
          exact .inl (by simp [GuiState.step, htodo, h.joining, hw])
        · obtain ⟨move, hmove⟩ := exists_workerMove fromJson s.core hphase
          exact .inr ⟨.workerMove move, rfl, by simpa [GuiState.step, hw] using hmove⟩
      · exact .inr ⟨.workerAct, rfl, by simp [GuiState.step, hw]⟩

/-- **`stop` ends.** From any state in which the UI thread is in `stop`, however the threads go on, they
take at most 27 steps of their own before the worker is joined, and always have a step to take or a worker
to join. A worker that waits for a message may be given one more; otherwise it reads none. -/
theorem stop_ends {before after : List Move} (h : GuiState.run fromJson {} before = some s)
    (hjoining : s.uiPhase = .joining) (hrun : s.run fromJson after = some s') (hjoin : .join ∉ after) :
    after.countP Move.stops ≤ 27 ∧
      after.countP Move.reads ≤ s.unread ∧
      ((s'.step fromJson .join).isSome = true ∨
        ∃ move, move.stops = true ∧ (s'.step fromJson move).isSome = true) := by
  have hstopping : s.Stopping := ⟨hjoining, ((settles_init.run h).stops hjoining).1⟩
  have hrank := (short_init.run h).rank_le hjoining
  have hallowed : ∀ move ∈ after, move ≠ .join := fun move hmove heq => hjoin (heq ▸ hmove)
  obtain ⟨hstill, hcount⟩ := (stopping_uses fromJson).run hstopping hallowed hrun
  obtain ⟨-, hreads⟩ := (reading_uses fromJson).run hstopping hallowed hrun
  exact ⟨by omega, by omega, hstill.progress fromJson⟩

/-- A worker that waits for a message is stopped, and gets one. -/
def benchHaltMoves : List Move := benchConnect ++ [.stop]

def benchHaltingMoves : List Move :=
  [.uiAct, .uiAct, .workerMove (.consume ⟨.heartbeat, []⟩ 7), .workerAct, .workerAct, .workerMove .loop]

theorem stop_ends_consuming : ∃ s s', GuiState.run (fun _ => .error []) {} benchHaltMoves = some s ∧
    s.run (fun _ => .error []) benchHaltingMoves = some s' ∧
    benchHaltingMoves.countP Move.reads ≤ s.unread ∧
    ((s'.step (fun _ => .error []) .join).isSome = true ∨
      ∃ move, move.stops = true ∧ (s'.step (fun _ => .error []) move).isSome = true) := by
  have hrun : (GuiState.run (fun _ => .error []) {} benchHaltMoves).isSome = true := by decide +kernel
  obtain ⟨s, hs⟩ := Option.isSome_iff_exists.mp hrun
  have hphase : (GuiState.run (fun _ => .error []) {} benchHaltMoves).map GuiState.uiPhase =
      some .joining := by decide +kernel
  have hgoes : (GuiState.run (fun _ => .error []) {} (benchHaltMoves ++ benchHaltingMoves)).isSome = true := by
    decide +kernel
  rw [hs] at hphase
  have hjoining : s.uiPhase = .joining := Option.some.inj hphase
  obtain ⟨s', hs'⟩ : ∃ s', s.run (fun _ => .error []) benchHaltingMoves = some s' := by
    rw [GuiState.run, List.foldlM_append] at hgoes
    rw [GuiState.run] at hs
    rw [hs] at hgoes
    exact Option.isSome_iff_exists.mp hgoes
  exact ⟨s, s', hs, hs', (stop_ends hs hjoining hs' (by decide)).2⟩

end Ironsoft.Gui
