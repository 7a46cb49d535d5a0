import Ironsoft.GuiMessages
import Ironsoft.PendingModel

/-!
# Pings of the GUI

The steps of `publishCmdPing`, of the worker that handles acks, of the timers and of `stop`, each
of them atomic, in any order the ids allow. The pending pings are a desk: an ack takes a ping off
it and answers with the round trip time, a timer takes it off and answers with a timeout.
-/
namespace Ironsoft.Gui
open Ekinox PendingModel

/-- The signal `pingUpdated`. -/
structure PingUpdate where
  id : Bytes
  rttMs : ℤ
  timeout : Bool
  deriving DecidableEq

/-- The signal `ackReceived`. -/
structure AckEvent where
  type : Bytes
  id : Bytes
  ok : Bool
  deriving DecidableEq

/-- How far the bookkeeping of a ping is. -/
inductive PingStage
  | fresh
  | published
  | inserted
  | armed
  | fired
  deriving DecidableEq

structure PingState where
  stop : Bool := false
  pendingPings : Bytes → Option ℤ := fun _ => none
  /-- newest first -/
  pingUpdates : List PingUpdate := []
  ackEvents : List AckEvent := []
  stage : Bytes → PingStage := fun _ => .fresh

inductive PingStep
  /-- `client_->publish(cm)` returns -/
  | publish (pingId : Bytes)
  | insert (pingId : Bytes) (nowMs : ℤ)
  /-- the update without a verdict, and the timer -/
  | arm (pingId : Bytes)
  | handlePingTimeout (id : Bytes)
  /-- `none` is a payload that is no object -/
  | handleAckMessage (ack : Option AckFields) (nowMs : ℤ)
  /-- `stop()` raises the flag, `connectToBroker()` lowers it -/
  | setStop (stop : Bool)
  /-- the lock in `stop()` -/
  | clearPending

namespace PingState

def setStage (s : PingState) (id : Bytes) (stage : PingStage) : PingState :=
  { s with stage := Function.update s.stage id stage }

def erase (s : PingState) (id : Bytes) : PingState :=
  { s with pendingPings := Function.update s.pendingPings id none }

def emitPingUpdate (s : PingState) (id : Bytes) (rttMs : ℤ) (timeout : Bool) : PingState :=
  { s with pingUpdates := ⟨id, rttMs, timeout⟩ :: s.pingUpdates }

def emitAckEvent (s : PingState) (type id : Bytes) (ok : Bool) : PingState :=
  { s with ackEvents := ⟨type, id, ok⟩ :: s.ackEvents }

def handlePingTimeout (s : PingState) (id : Bytes) : PingState :=
  match s.pendingPings id with
  | none => s
  | some _ => if s.stop then s.erase id else (s.erase id).emitPingUpdate id (-1) true

def handleAck (s : PingState) (ack : AckFields) (nowMs : ℤ) : PingState :=
  if ack.ackId = [] then s
  else
    match s.pendingPings ack.ackId with
    | some sentMs =>
      ((s.erase ack.ackId).emitPingUpdate ack.ackId (max 0 (nowMs - sentMs)) false).emitAckEvent
        (if ack.ackType = [] then bytes "ping" else ack.ackType) ack.ackId ack.ok
    | none => s.emitAckEvent ack.ackType ack.ackId ack.ok

def step (s : PingState) : PingStep → PingState
  | .publish pingId => s.setStage pingId .published
  | .insert pingId nowMs =>
    { s.setStage pingId .inserted with
      pendingPings := Function.update s.pendingPings pingId (some nowMs) }
  | .arm pingId => (s.setStage pingId .armed).emitPingUpdate pingId (-1) false
  | .handlePingTimeout id => (s.handlePingTimeout id).setStage id .fired
  | .handleAckMessage none _ => s
  | .handleAckMessage (some ack) nowMs => s.handleAck ack nowMs
  | .setStop stop => { s with stop := stop }
  | .clearPending => { s with pendingPings := fun _ => none }

/-- The steps for one ping come in order, and each of them once: the ids are new UUIDs. -/
def Enabled (s : PingState) : PingStep → Prop
  | .publish pingId => pingId ≠ [] ∧ s.stage pingId = .fresh
  | .insert pingId _ => s.stage pingId = .published
  | .arm pingId => s.stage pingId = .inserted
  | .handlePingTimeout id => s.stage id = .armed
  | _ => True

instance (s : PingState) (x : PingStep) : Decidable (s.Enabled x) := by
  cases x <;> unfold Enabled <;> infer_instance

def run (s : PingState) (steps : List PingStep) : PingState := steps.foldl step s

/-- Every step is possible where it is taken. -/
def Valid : PingState → List PingStep → Prop
  | _, [] => True
  | s, x :: steps => s.Enabled x ∧ Valid (s.step x) steps

instance decidableValid : (s : PingState) → (steps : List PingStep) → Decidable (s.Valid steps)
  | _, [] => .isTrue trivial
  | s, x :: steps => @instDecidableAnd _ _ _ (decidableValid (s.step x) steps)

theorem valid_append {s : PingState} {steps steps' : List PingStep} :
    s.Valid (steps ++ steps') ↔ s.Valid steps ∧ (s.run steps).Valid steps' := by
  induction steps generalizing s with
  | nil => simp [Valid, run]
  | cons x steps ih =>
    have h := ih (s := s.step x)
    simp only [List.cons_append, Valid, h, and_assoc]
    rfl

end PingState

/-- The round trip time of an ack, or the end of the two seconds. -/
def PingUpdate.Terminal (u : PingUpdate) : Prop := u.timeout = true ∨ 0 ≤ u.rttMs

instance (u : PingUpdate) : Decidable u.Terminal := inferInstanceAs (Decidable (_ ∨ _))

def PingState.terminal (s : PingState) : List PingUpdate := s.pingUpdates.filter (·.Terminal)

def PingUpdate.answer (u : PingUpdate) : Bytes × (ℤ × Bool) := (u.id, u.rttMs, u.timeout)

def PingState.desk (s : PingState) : Desk Bytes ℤ (ℤ × Bool) where
  pending := s.pendingPings
  answers := s.terminal.map PingUpdate.answer

/-- What a step does to the desk, by the flag of `stop()`. -/
def PingStep.act (stop : Bool) : PingStep → Act Bytes ℤ (ℤ × Bool)
  | .insert pingId nowMs => .put pingId nowMs
  | .handlePingTimeout id => .take id fun _ => if stop then none else some (-1, true)
  | .handleAckMessage (some ack) nowMs =>
    if ack.ackId = [] then .idle
    else .take ack.ackId fun sentMs => some (max 0 (nowMs - sentMs), false)
  | .clearPending => .clear
  | _ => .idle

/-- A step of the GUI is an act at the desk. -/
theorem PingState.desk_step (s : PingState) (x : PingStep) :
    (s.step x).desk = s.desk.act (x.act s.stop) := by
  have hrtt (sentMs nowMs : ℤ) (id : Bytes) :
      (⟨id, max 0 (nowMs - sentMs), false⟩ : PingUpdate).Terminal := .inr (Int.le_max_left 0 _)
  have hno (id : Bytes) : ¬ (⟨id, -1, false⟩ : PingUpdate).Terminal := by
    simp [PingUpdate.Terminal]
  have htimeout (id : Bytes) : (⟨id, -1, true⟩ : PingUpdate).Terminal := .inl rfl
  cases x with
  | publish pingId => rfl
  | insert pingId nowMs => rfl
  | setStop stop => rfl
  | clearPending => rfl
  | arm pingId =>
    simp [step, setStage, emitPingUpdate, desk, terminal, PingStep.act, Desk.act, hno]
  | handlePingTimeout id =>
    simp only [step, PingStep.act]
    cases hp : s.pendingPings id with
    | none => simp [handlePingTimeout, hp, setStage, desk, terminal, Desk.act]
    | some sentMs =>
      rw [Desk.act_take_of_some (t := sentMs) hp]
      cases hs : s.stop with
      | true => simp [handlePingTimeout, hp, hs, setStage, erase, desk, terminal]
      | false =>
        simp [handlePingTimeout, hp, hs, setStage, erase, emitPingUpdate, desk, terminal, htimeout,
          PingUpdate.answer]
  | handleAckMessage ack nowMs =>
    cases ack with
    | none => rfl
    | some ack =>
      simp only [step, handleAck, PingStep.act]
      by_cases hid : ack.ackId = []
      · simp [hid, Desk.act]
      · rw [if_neg hid, if_neg hid]
        cases hp : s.pendingPings ack.ackId with
        | none =>
          rw [Desk.act_take_of_none (d := s.desk) hp]
          rfl
        | some sentMs =>
          rw [Desk.act_take_of_some (t := sentMs) hp]
          simp [erase, emitPingUpdate, emitAckEvent, desk, terminal, hrtt, PingUpdate.answer]

/-- The acts of a run. -/
def PingState.acts : PingState → List PingStep → List (Act Bytes ℤ (ℤ × Bool))
  | _, [] => []
  | s, x :: steps => x.act s.stop :: (s.step x).acts steps

theorem PingState.desk_run (s : PingState) (steps : List PingStep) :
    (s.run steps).desk = s.desk.run (s.acts steps) := by
  induction steps generalizing s with
  | nil => rfl
  | cons x steps ih =>
    have h := ih (s.step x)
    rw [desk_step] at h
    exact h

def PingStage.rank : PingStage → ℕ
  | fresh => 0
  | published => 1
  | inserted => 2
  | armed => 3
  | fired => 4

namespace PingState

theorem stage_update (stage : Bytes → PingStage) (pingId id : Bytes) (next : PingStage)
    (h : (stage pingId).rank ≤ next.rank) :
    (stage id).rank ≤ (Function.update stage pingId next id).rank := by
  by_cases hid : id = pingId
  · subst hid
    simpa using h
  · simp [Function.update_of_ne hid]

theorem stage_handleAck (s : PingState) (ack : AckFields) (nowMs : ℤ) :
    (s.handleAck ack nowMs).stage = s.stage := by
  unfold handleAck
  by_cases hid : ack.ackId = []
  · rw [if_pos hid]
  · rw [if_neg hid]
    cases s.pendingPings ack.ackId <;> rfl

theorem stage_handlePingTimeout (s : PingState) (id : Bytes) :
    (s.handlePingTimeout id).stage = s.stage := by
  unfold handlePingTimeout
  cases s.pendingPings id with
  | none => rfl
  | some _ => cases s.stop <;> rfl

/-- The bookkeeping of a ping does not go back. -/
theorem rank_step {s : PingState} {x : PingStep} (h : s.Enabled x) (id : Bytes) :
    (s.stage id).rank ≤ ((s.step x).stage id).rank := by
  cases x with
  | publish pingId => exact stage_update _ _ _ _ (by simp [h.2, PingStage.rank])
  | insert pingId nowMs =>
    have hs : s.stage pingId = .published := h
    exact stage_update _ _ _ _ (by simp [hs, PingStage.rank])
  | arm pingId =>
    have hs : s.stage pingId = .inserted := h
    exact stage_update _ _ _ _ (by simp [hs, PingStage.rank])
  | handlePingTimeout pingId =>
    have hs : s.stage pingId = .armed := h
    simp only [step, setStage, stage_handlePingTimeout]
    exact stage_update _ _ _ _ (by simp [hs, PingStage.rank])
  | handleAckMessage ack nowMs =>
    cases ack with
    | none => exact Nat.le_refl _
    | some ack => simp [step, stage_handleAck]
  | setStop stop => exact Nat.le_refl _
  | clearPending => exact Nat.le_refl _

theorem rank_run {s : PingState} {steps : List PingStep} (h : s.Valid steps) (id : Bytes) :
    (s.stage id).rank ≤ ((s.run steps).stage id).rank := by
  induction steps generalizing s with
  | nil => exact Nat.le_refl _
  | cons x steps ih => exact Nat.le_trans (rank_step h.1 id) (ih h.2)

theorem puts_act {x : PingStep} {stop : Bool} {id : Bytes} (h : (x.act stop).Puts id) :
    ∃ nowMs, x = .insert id nowMs := by
  cases x with
  | insert pingId nowMs =>
    have hid : pingId = id := h
    exact ⟨nowMs, by rw [hid]⟩
  | handleAckMessage ack nowMs =>
    cases ack with
    | none => exact h.elim
    | some ack =>
      by_cases hid : ack.ackId = []
      · simp [PingStep.act, hid, Act.Puts] at h
      · simp [PingStep.act, hid, Act.Puts] at h
  | _ => exact h.elim

theorem puts_le {s : PingState} {steps : List PingStep} (h : s.Valid steps) (id : Bytes) :
    puts id (s.acts steps) ≤ if (s.stage id).rank ≤ 1 then 1 else 0 := by
  induction steps generalizing s with
  | nil => simp [acts, puts]
  | cons x steps ih =>
    have hrest := ih h.2
    have hrank := rank_step h.1 id
    simp only [acts, puts, List.countP_cons, decide_eq_true_eq] at hrest ⊢
    by_cases hx : (x.act s.stop).Puts id
    · obtain ⟨nowMs, rfl⟩ := puts_act hx
      have hs : s.stage id = .published := h.1
      have hafter : ((s.step (.insert id nowMs)).stage id).rank = 2 := by
        simp [step, setStage, PingStage.rank]
      have hbefore : (s.stage id).rank = 1 := by simp [hs, PingStage.rank]
      rw [hafter, if_neg (by omega)] at hrest
      rw [hbefore, if_pos hx, if_pos (Nat.le_refl 1)]
      omega
    · rw [if_neg hx]
      split_ifs at hrest ⊢ <;> omega

theorem answersTo_desk (s : PingState) (id : Bytes) :
    s.desk.answersTo id = (s.terminal.filter (·.id = id)).map PingUpdate.answer := by
  simp only [desk, Desk.answersTo, List.filter_map]
  rfl

theorem terminal_once {steps : List PingStep} (h : Valid {} steps) (id : Bytes) :
    ((run {} steps).terminal.filter (·.id = id)).length ≤ 1 := by
  have hputs : puts id (acts {} steps) ≤ 1 := puts_le h id
  have hdesk : (run {} steps).desk = Desk.empty.run (acts {} steps) := desk_run {} steps
  have honce := answered_once hputs
  rw [← hdesk, answersTo_desk, List.length_map] at honce
  exact honce

theorem terminal_unique {steps : List PingStep} (h : Valid {} steps) {u v : PingUpdate}
    (hu : u ∈ (run {} steps).terminal) (hv : v ∈ (run {} steps).terminal) (hid : u.id = v.id) :
    u = v := by
  have honce := terminal_once h v.id
  have hu' : u ∈ (run {} steps).terminal.filter (·.id = v.id) := List.mem_filter.mpr ⟨hu, by simp [hid]⟩
  have hv' : v ∈ (run {} steps).terminal.filter (·.id = v.id) := List.mem_filter.mpr ⟨hv, by simp⟩
  revert honce hu' hv'
  generalize (run {} steps).terminal.filter (·.id = v.id) = l
  intro honce hu' hv'
  rcases l with _ | ⟨w, _ | ⟨_, _⟩⟩
  · exact absurd hu' List.not_mem_nil
  · rw [List.mem_singleton.mp hu', List.mem_singleton.mp hv']
  · simp at honce

theorem mem_terminal {s : PingState} {u : PingUpdate} :
    u ∈ s.terminal ↔ u ∈ s.pingUpdates ∧ u.Terminal := by simp [terminal]

end PingState

/-- A ping gets at most one verdict, and an ack that answers no pending ping gives none. -/
theorem ping_verdict_once {steps : List PingStep} (h : PingState.Valid {} steps) (id : Bytes) :
    ((PingState.run {} steps).pingUpdates.filter fun u => u.id = id ∧ u.Terminal).length ≤ 1 ∧
    ¬ ((∃ rttMs, 0 ≤ rttMs ∧ ⟨id, rttMs, false⟩ ∈ (PingState.run {} steps).pingUpdates) ∧
      ∃ rttMs, ⟨id, rttMs, true⟩ ∈ (PingState.run {} steps).pingUpdates) ∧
    ∀ ack nowMs, (PingState.run {} steps).pendingPings ack.ackId = none →
      ((PingState.run {} steps).step (.handleAckMessage (some ack) nowMs)).pingUpdates =
        (PingState.run {} steps).pingUpdates := by
  refine ⟨?_, ?_, ?_⟩
  · have honce := PingState.terminal_once h id
    rw [PingState.terminal, List.filter_filter] at honce
    simpa using honce
  · rintro ⟨⟨rttMs, hpos, hrtt⟩, rttMs', htimeout⟩
    have hr : (⟨id, rttMs, false⟩ : PingUpdate) ∈ (PingState.run {} steps).terminal :=
      PingState.mem_terminal.mpr ⟨hrtt, .inr hpos⟩
    have ht : (⟨id, rttMs', true⟩ : PingUpdate) ∈ (PingState.run {} steps).terminal :=
      PingState.mem_terminal.mpr ⟨htimeout, .inl rfl⟩
    have heq := PingState.terminal_unique h hr ht rfl
    exact Bool.false_ne_true (congrArg PingUpdate.timeout heq)
  · intro ack nowMs hp
    simp only [PingState.step, PingState.handleAck, hp]
    split_ifs <;> rfl

/-- Both the backend and the service answer the ping, and a third ack is foreign. -/
def benchPing : Bytes := bytes "p"

def benchPong (id : Bytes) : PingStep :=
  .handleAckMessage (some ⟨id, true, bytes "pong", [], bytes "ping", -1⟩) 1020

def benchPingSteps : List PingStep :=
  [.publish benchPing, .insert benchPing 1000, .arm benchPing, benchPong benchPing, benchPong benchPing,
    benchPong (bytes "q"), .handlePingTimeout benchPing]

theorem benchPing_verdict_once :
    ((PingState.run {} benchPingSteps).pingUpdates.filter
      fun u => u.id = benchPing ∧ u.Terminal).length ≤ 1 :=
  (ping_verdict_once (by decide +kernel) benchPing).1

def AckOf (id : Bytes) (x : PingStep) : Prop :=
  ∃ ack nowMs, x = .handleAckMessage (some ack) nowMs ∧ ack.ackId = id

/-- `stop()` is not called. -/
def NoStop (steps : List PingStep) : Prop := .setStop true ∉ steps ∧ .clearPending ∉ steps

/-- The worker has processed an ack of the published ping before its timer fires. -/
def AckedBeforeTimer (id : Bytes) (steps : List PingStep) : Prop :=
  ∃ before x after, steps = before ++ x :: after ∧ AckOf id x ∧ .publish id ∈ before ∧
    .handlePingTimeout id ∉ before

/-- Such an ack comes when the ping is on the books already. -/
def AckedInWindow (id : Bytes) (steps : List PingStep) : Prop :=
  ∃ before x after, steps = before ++ x :: after ∧ AckOf id x ∧
    (∃ nowMs, .insert id nowMs ∈ before) ∧ .handlePingTimeout id ∉ before

/-- The ping is reported with a round trip time and not as a timeout. -/
def Ponged (updates : List PingUpdate) (id : Bytes) : Prop :=
  (∃ rttMs, 0 ≤ rttMs ∧ ⟨id, rttMs, false⟩ ∈ updates) ∧ ∀ rttMs, ⟨id, rttMs, true⟩ ∉ updates

def Pong (answer : ℤ × Bool) : Prop := 0 ≤ answer.1 ∧ answer.2 = false

namespace PingState

theorem acts_eq_map {s : PingState} {steps : List PingStep} (hs : s.stop = false)
    (h : .setStop true ∉ steps) : s.acts steps = steps.map (PingStep.act false) := by
  induction steps generalizing s with
  | nil => rfl
  | cons x steps ih =>
    have hx : x ≠ .setStop true := fun hx => h (by simp [hx])
    have hstop : (s.step x).stop = false := by
      cases x with
      | setStop stop =>
        cases stop with
        | true => exact absurd rfl hx
        | false => rfl
      | handlePingTimeout id =>
        simp only [step, setStage, handlePingTimeout]
        cases s.pendingPings id with
        | none => exact hs
        | some _ => simp [hs, erase, emitPingUpdate]
      | handleAckMessage ack nowMs =>
        cases ack with
        | none => exact hs
        | some ack =>
          simp only [step, handleAck]
          by_cases hid : ack.ackId = []
          · rw [if_pos hid]
            exact hs
          · rw [if_neg hid]
            cases s.pendingPings ack.ackId <;> exact hs
      | _ => exact hs
    have hrest := ih hstop fun hm => h (List.mem_cons_of_mem _ hm)
    simp [acts, hs, hrest]

/-- The timer of a ping comes after its insertion. -/
theorem timer_not_before_insert {before after : List PingStep} {id : Bytes} {nowMs : ℤ}
    (h : Valid {} (before ++ .insert id nowMs :: after)) : .handlePingTimeout id ∉ before := by
  intro hmem
  obtain ⟨before₁, before₂, rfl⟩ := List.append_of_mem hmem
  rw [List.append_assoc, valid_append] at h
  obtain ⟨-, htail⟩ := h
  rw [List.cons_append, Valid, valid_append] at htail
  obtain ⟨-, hbetween, hinsert, -⟩ := htail
  have hrank := rank_run hbetween id
  have hpublished : (run (step (run {} before₁) (.handlePingTimeout id)) before₂).stage id =
      .published := hinsert
  rw [hpublished] at hrank
  simp [step, setStage, PingStage.rank] at hrank

theorem answers_act {x : PingStep} {id : Bytes} (ht : x ≠ .handlePingTimeout id)
    (hc : x ≠ .clearPending) : (x.act false).Answers Pong id := by
  constructor
  · intro answer hx t
    cases x with
    | handlePingTimeout pingId =>
      simp only [PingStep.act, Act.take.injEq] at hx
      exact absurd (by rw [hx.1]) ht
    | handleAckMessage ack nowMs =>
      cases ack with
      | none => simp [PingStep.act] at hx
      | some ack =>
        simp only [PingStep.act] at hx
        split_ifs at hx
        obtain ⟨-, rfl⟩ := Act.take.inj hx
        exact ⟨_, rfl, Int.le_max_left 0 _, rfl⟩
    | _ => simp [PingStep.act] at hx
  · cases x with
    | clearPending => exact absurd rfl hc
    | handleAckMessage ack nowMs =>
      cases ack with
      | none => simp [PingStep.act]
      | some ack =>
        simp only [PingStep.act]
        split_ifs <;> simp
    | _ => simp [PingStep.act]

theorem act_eq_take {x : PingStep} {id : Bytes} {answer : ℤ → Option (ℤ × Bool)} {t : ℤ}
    {w : ℤ × Bool} (hx : x.act false = .take id answer) (hw : answer t = some w)
    (hpong : Pong w) : AckOf id x := by
  cases x with
  | handlePingTimeout pingId =>
    obtain ⟨-, rfl⟩ := Act.take.inj hx
    rw [if_neg Bool.false_ne_true] at hw
    rw [← Option.some.inj hw] at hpong
    exact absurd hpong.1 (by decide)
  | handleAckMessage ack nowMs =>
    cases ack with
    | none => simp [PingStep.act] at hx
    | some ack =>
      simp only [PingStep.act] at hx
      split_ifs at hx
      exact ⟨ack, nowMs, rfl, (Act.take.inj hx).1⟩
  | _ => simp [PingStep.act] at hx

theorem act_of_ack {x : PingStep} {id : Bytes} (hid : id ≠ []) (h : AckOf id x) :
    ∃ answer, x.act false = .take id answer := by
  obtain ⟨ack, nowMs, rfl, rfl⟩ := h
  exact ⟨_, if_neg hid⟩

theorem mem_desk_answers {s : PingState} {id : Bytes} {w : ℤ × Bool} (hw : Pong w ∨ w.2 = true) :
    (id, w) ∈ s.desk.answers ↔ ⟨id, w.1, w.2⟩ ∈ s.pingUpdates := by
  have hterminal : (⟨id, w.1, w.2⟩ : PingUpdate).Terminal := hw.elim (fun h => .inr h.1) .inl
  simp only [desk, List.mem_map, mem_terminal]
  constructor
  · rintro ⟨u, ⟨hu, -⟩, hanswer⟩
    obtain ⟨rfl, rfl⟩ := Prod.mk.inj hanswer
    exact hu
  · intro hu
    exact ⟨_, ⟨hu, hterminal⟩, rfl⟩

theorem insert_nonempty {s : PingState} {before after : List PingStep} {id : Bytes} {nowMs : ℤ}
    (hs : s.stage id = .fresh) (h : s.Valid (before ++ .insert id nowMs :: after)) : id ≠ [] := by
  induction before generalizing s with
  | nil => exact absurd (hs.symm.trans h.1) (by decide)
  | cons x before ih =>
    by_cases hx : x = .publish id
    · subst hx
      exact h.1.1
    · apply ih _ h.2
      have henabled := h.1
      cases x with
      | publish pingId =>
        have hn : id ≠ pingId := fun hid => hx (by rw [hid])
        simp [step, setStage, Function.update_of_ne hn, hs]
      | insert pingId nowMs =>
        have hpublished : s.stage pingId = .published := henabled
        have hn : id ≠ pingId := fun hid => absurd (hs.symm.trans (hid ▸ hpublished)) (by decide)
        simp [step, setStage, Function.update_of_ne hn, hs]
      | arm pingId =>
        have hinserted : s.stage pingId = .inserted := henabled
        have hn : id ≠ pingId := fun hid => absurd (hs.symm.trans (hid ▸ hinserted)) (by decide)
        simp [step, setStage, emitPingUpdate, Function.update_of_ne hn, hs]
      | handlePingTimeout pingId =>
        have harmed : s.stage pingId = .armed := henabled
        have hn : id ≠ pingId := fun hid => absurd (hs.symm.trans (hid ▸ harmed)) (by decide)
        simp [step, setStage, stage_handlePingTimeout, Function.update_of_ne hn, hs]
      | handleAckMessage ack nowMs =>
        cases ack with
        | none => exact hs
        | some ack => simp [step, stage_handleAck, hs]
      | _ => exact hs

/-- The desk after a run without `stop()`. -/
theorem desk_noStop {steps : List PingStep} (hs : NoStop steps) :
    (run {} steps).desk = Desk.empty.run (steps.map (PingStep.act false)) := by
  rw [← acts_eq_map (s := {}) rfl hs.1]
  exact desk_run {} steps

theorem acked_of_ponged {steps : List PingStep} (h : Valid {} steps) (hs : NoStop steps) {id : Bytes}
    (hp : Ponged (run {} steps).pingUpdates id) : AckedInWindow id steps := by
  obtain ⟨⟨rttMs, hpos, hmem⟩, -⟩ := hp
  have hpong : Pong (rttMs, false) := ⟨hpos, rfl⟩
  rw [← mem_desk_answers (w := (rttMs, false)) (.inl hpong), desk_noStop hs] at hmem
  obtain hmem | ⟨acts, answer, acts', t, hsplit, hpending, hw⟩ := Desk.answered_of_run hmem
  · exact absurd hmem List.not_mem_nil
  obtain ⟨before, rest, rfl, rfl, hrest⟩ := List.map_eq_append_iff.mp hsplit
  obtain ⟨x, after, rfl, hx, -⟩ := List.map_eq_cons_iff.mp hrest
  obtain ⟨bs, between, hbefore, hspares⟩ := Desk.pending_of_run rfl hpending
  obtain ⟨before₁, tail, rfl, -, htail⟩ := List.map_eq_append_iff.mp hbefore
  obtain ⟨y, before₂, rfl, hy, rfl⟩ := List.map_eq_cons_iff.mp htail
  have hputs : (y.act false).Puts id := by rw [hy]; exact rfl
  obtain ⟨nowMs, rfl⟩ := puts_act hputs
  have hx' : AckOf id x := act_eq_take hx hw hpong
  refine ⟨before₁ ++ .insert id nowMs :: before₂, x, after, rfl, hx', ⟨nowMs, by simp⟩, ?_⟩
  have hvalid : Valid {} (before₁ ++ .insert id nowMs :: (before₂ ++ x :: after)) := by simpa using h
  have h₁ : .handlePingTimeout id ∉ before₁ := timer_not_before_insert hvalid
  have h₂ : .handlePingTimeout id ∉ before₂ := fun hm =>
    (hspares _ (List.mem_map_of_mem hm)).2 rfl
  simp [h₁, h₂]

theorem ponged_of_acked {steps : List PingStep} (h : Valid {} steps) (hs : NoStop steps) {id : Bytes}
    (ha : AckedInWindow id steps) : Ponged (run {} steps).pingUpdates id := by
  obtain ⟨before, x, after, rfl, hx, ⟨nowMs, hinsert⟩, htimer⟩ := ha
  obtain ⟨before₁, before₂, rfl⟩ := List.append_of_mem hinsert
  have hvalid : Valid {} (before₁ ++ .insert id nowMs :: (before₂ ++ x :: after)) := by simpa using h
  have hid : id ≠ [] := insert_nonempty rfl hvalid
  obtain ⟨answer, hanswer⟩ := act_of_ack hid hx
  have hkeeps : ∀ a ∈ before₂.map (PingStep.act false), a.Answers Pong id := by
    intro a ha
    obtain ⟨y, hy, rfl⟩ := List.mem_map.mp ha
    apply answers_act
    · rintro rfl
      exact htimer (by simp [hy])
    · rintro rfl
      exact hs.2 (by simp [hy])
  have hxanswers : (Act.take id answer).Answers Pong id := by
    obtain ⟨ack, now, rfl, -⟩ := hx
    rw [← hanswer]
    exact answers_act (by simp) (by simp)
  -- the ping waits from its insertion on, until an ack takes it
  have hserved : (run {} (before₁ ++ .insert id nowMs :: before₂ ++ x :: after)).desk.Served Pong id := by
    rw [desk_noStop hs]
    simp only [List.map_append, List.map_cons, hanswer, Desk.run, List.foldl_append, List.foldl_cons]
    have hput := Desk.waits_or_served (d := (Desk.run Desk.empty (before₁.map (PingStep.act false))).act
      (.put id nowMs)) hkeeps (.inl (by simp [Desk.act]))
    obtain ⟨w, hw, hmem⟩ := Desk.served_of_take hxanswers hput
    exact ⟨w, hw, Desk.mem_answers_run hmem _⟩
  obtain ⟨⟨rttMs, timeout⟩, ⟨hpos, rfl⟩, hmem⟩ := hserved
  rw [mem_desk_answers (.inl ⟨hpos, rfl⟩)] at hmem
  refine ⟨⟨rttMs, hpos, hmem⟩, fun rttMs' htimeout => ?_⟩
  have heq := terminal_unique h (mem_terminal.mpr ⟨hmem, .inr hpos⟩)
    (mem_terminal.mpr ⟨htimeout, .inl rfl⟩) rfl
  exact Bool.false_ne_true (congrArg PingUpdate.timeout heq)

end PingState

/-- A ping is ponged if and only if an ack of it is handled when it is on the books. An ack that
overtakes the insertion is taken for a foreign one. -/
theorem ponged_iff_ackedInWindow {steps : List PingStep} (h : PingState.Valid {} steps)
    (hs : NoStop steps) (id : Bytes) :
    Ponged (PingState.run {} steps).pingUpdates id ↔ AckedInWindow id steps :=
  ⟨PingState.acked_of_ponged h hs, PingState.ponged_of_acked h hs⟩

theorem benchPing_ponged : Ponged (PingState.run {} benchPingSteps).pingUpdates benchPing := by
  have hstop : NoStop benchPingSteps := by
    constructor <;> simp [benchPingSteps, benchPong]
  have hacked : AckedInWindow benchPing benchPingSteps :=
    ⟨[.publish benchPing, .insert benchPing 1000, .arm benchPing], benchPong benchPing, _, rfl,
      ⟨_, _, rfl, rfl⟩, ⟨1000, by simp⟩, by simp⟩
  exact (ponged_iff_ackedInWindow (by decide +kernel) hstop benchPing).mpr hacked

def benchLostSteps : List PingStep :=
  [.publish benchPing, benchPong benchPing, .insert benchPing 1000, .arm benchPing,
    .handlePingTimeout benchPing]

/-- The worker handles the ack before the UI thread has inserted the ping. -/
theorem pong_lost : ¬ ∀ steps, PingState.Valid {} steps → NoStop steps →
    ∀ id, AckedBeforeTimer id steps → Ponged (PingState.run {} steps).pingUpdates id := by
  intro hall
  have hstop : NoStop benchLostSteps := by
    constructor <;> simp [benchLostSteps, benchPong]
  have hacked : AckedBeforeTimer benchPing benchLostSteps :=
    ⟨[.publish benchPing], benchPong benchPing, _, rfl, ⟨_, _, rfl, rfl⟩, by simp, by simp⟩
  have hponged := hall benchLostSteps (by decide +kernel) hstop benchPing hacked
  exact hponged.2 (-1) (by decide +kernel)

end Ironsoft.Gui
