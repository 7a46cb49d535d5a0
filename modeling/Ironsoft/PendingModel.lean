import Mathlib.Data.List.Induction
import Mathlib.Data.Nat.Notation
import Mathlib.Logic.Function.Basic

/-!
# Pending requests

Requests wait until somebody takes them off the desk, and who takes a request answers it or drops
it. Whoever comes second finds nothing, so a request is answered no more often than it was put on
the desk.
-/
namespace Ironsoft.PendingModel

variable {ι τ ω : Type}

structure Desk (ι τ ω : Type) where
  pending : ι → Option τ
  /-- newest first -/
  answers : List (ι × ω)

inductive Act (ι τ ω : Type)
  | put (i : ι) (t : τ)
  /-- `i` is taken off the desk and gets the answer, if there is one -/
  | take (i : ι) (answer : τ → Option ω)
  | clear
  /-- something else happens -/
  | idle

namespace Desk

variable [DecidableEq ι]

def empty : Desk ι τ ω := ⟨fun _ => none, []⟩

def act (d : Desk ι τ ω) : Act ι τ ω → Desk ι τ ω
  | .put i t => { d with pending := Function.update d.pending i (some t) }
  | .take i answer =>
    match d.pending i with
    | none => d
    | some t =>
      { pending := Function.update d.pending i none
        answers := ((answer t).map (i, ·)).toList ++ d.answers }
  | .clear => { d with pending := fun _ => none }
  | .idle => d

def run (d : Desk ι τ ω) (acts : List (Act ι τ ω)) : Desk ι τ ω := acts.foldl act d

@[simp] theorem run_append (d : Desk ι τ ω) (acts acts' : List (Act ι τ ω)) :
    d.run (acts ++ acts') = (d.run acts).run acts' := List.foldl_append

@[simp] theorem run_singleton (d : Desk ι τ ω) (a : Act ι τ ω) : d.run [a] = d.act a := rfl

/-- Taking what is not there does nothing. -/
theorem act_take_of_none {d : Desk ι τ ω} {i : ι} (h : d.pending i = none) (answer : τ → Option ω) :
    d.act (.take i answer) = d := by
  unfold act
  dsimp only
  rw [h]

theorem act_take_of_some {d : Desk ι τ ω} {i : ι} {t : τ} (h : d.pending i = some t)
    (answer : τ → Option ω) :
    d.act (.take i answer) =
      { pending := Function.update d.pending i none
        answers := ((answer t).map (i, ·)).toList ++ d.answers } := by
  unfold act
  dsimp only
  rw [h]

def answersTo (d : Desk ι τ ω) (i : ι) : List (ι × ω) := d.answers.filter fun p => p.1 = i

end Desk

section Counts

variable [DecidableEq ι]

/-- `i` is put on the desk. -/
def Act.Puts (i : ι) : Act ι τ ω → Prop
  | .put j _ => j = i
  | _ => False

instance (i : ι) (a : Act ι τ ω) : Decidable (a.Puts i) := by
  cases a <;> unfold Act.Puts <;> infer_instance

/-- `i` does not stay on the desk. -/
def Act.Removes (i : ι) : Act ι τ ω → Prop
  | .take j _ => j = i
  | .clear => True
  | _ => False

def puts (i : ι) (acts : List (Act ι τ ω)) : ℕ := acts.countP fun a => a.Puts i

variable {d : Desk ι τ ω} {acts : List (Act ι τ ω)} {i : ι} {w : ω}

/-- The answers a request has got, and one more if it may still get one. -/
def Desk.budget (d : Desk ι τ ω) (i : ι) : ℕ :=
  (d.answersTo i).length + if d.pending i = none then 0 else 1

theorem Desk.budget_take (d : Desk ι τ ω) (i j : ι) (answer : τ → Option ω) :
    (d.act (.take j answer)).budget i ≤ d.budget i := by
  cases hp : d.pending j with
  | none => simp [act_take_of_none hp]
  | some t =>
    rw [act_take_of_some hp]
    by_cases hj : j = i
    · subst hj
      cases answer t <;> simp [budget, answersTo, hp]
    · have hn : i ≠ j := fun h => hj h.symm
      cases answer t <;> simp [budget, answersTo, Function.update_of_ne hn, hj]

theorem Desk.budget_act (d : Desk ι τ ω) (i : ι) (a : Act ι τ ω) :
    (d.act a).budget i ≤ d.budget i + if a.Puts i then 1 else 0 := by
  cases a with
  | put j t =>
    by_cases hj : j = i
    · subst hj
      simp only [act, budget, answersTo, Act.Puts, Function.update_self]
      split_ifs <;> omega
    · have hn : i ≠ j := fun h => hj h.symm
      simp [act, budget, answersTo, Act.Puts, hj, Function.update_of_ne hn]
  | take j answer => exact Nat.le_trans (d.budget_take i j answer) (Nat.le_add_right _ _)
  | clear =>
    simp only [act, budget, answersTo]
    split_ifs <;> omega
  | idle => exact Nat.le_add_right _ _

theorem Desk.budget_run (d : Desk ι τ ω) (i : ι) (acts : List (Act ι τ ω)) :
    (d.run acts).budget i ≤ d.budget i + puts i acts := by
  induction acts generalizing d with
  | nil => simp [run, puts]
  | cons a acts ih =>
    have ha := d.budget_act i a
    have hr := ih (d.act a)
    simp only [run, List.foldl_cons, puts, List.countP_cons, decide_eq_true_eq] at hr ⊢
    omega

/-- A request put on an empty desk once is answered at most once. -/
theorem answered_once (h : puts i acts ≤ 1) :
    ((Desk.empty.run acts).answersTo i).length ≤ 1 := by
  have hb := Desk.empty.budget_run i acts
  have he : (Desk.empty : Desk ι τ ω).budget i = 0 := by simp [Desk.budget, Desk.answersTo, Desk.empty]
  simp only [Desk.budget] at hb he
  omega

/-- `i` is left where it is. -/
def Act.Spares (i : ι) (a : Act ι τ ω) : Prop := ¬ a.Puts i ∧ ¬ a.Removes i

theorem Desk.pending_act_iff (d : Desk ι τ ω) (a : Act ι τ ω) (i : ι) (t : τ) :
    (d.act a).pending i = some t ↔ (d.pending i = some t ∧ a.Spares i) ∨ a = .put i t := by
  cases a with
  | put j u =>
    by_cases hj : j = i
    · subst hj
      simp [act, Act.Spares, Act.Puts]
    · have hn : i ≠ j := fun h => hj h.symm
      simp [act, Act.Spares, Act.Puts, Act.Removes, hj, Function.update_of_ne hn]
  | take j answer =>
    cases hp : d.pending j with
    | none =>
      rw [act_take_of_none hp]
      by_cases hj : j = i
      · subst hj
        simp [hp]
      · simp [Act.Spares, Act.Puts, Act.Removes, hj]
    | some u =>
      rw [act_take_of_some hp]
      by_cases hj : j = i
      · subst hj
        simp [Act.Spares, Act.Removes]
      · have hn : i ≠ j := fun h => hj h.symm
        simp [Act.Spares, Act.Puts, Act.Removes, hj, Function.update_of_ne hn]
  | clear => simp [act, Act.Spares, Act.Removes]
  | idle => simp [act, Act.Spares, Act.Puts, Act.Removes]

/-- What is pending was put there, and nobody has touched it since. -/
theorem Desk.pending_of_run {d : Desk ι τ ω} {t : τ} (hd : d.pending i = none)
    (h : (d.run acts).pending i = some t) :
    ∃ before between, acts = before ++ .put i t :: between ∧ ∀ a ∈ between, a.Spares i := by
  induction acts using List.reverseRecOn with
  | nil => exact absurd (hd.symm.trans h) (by simp)
  | append_singleton acts a ih =>
    rw [run_append, run_singleton, pending_act_iff] at h
    obtain ⟨h, hs⟩ | rfl := h
    · obtain ⟨before, between, rfl, hb⟩ := ih h
      refine ⟨before, between ++ [a], by simp, ?_⟩
      intro x hx
      rw [List.mem_append, List.mem_singleton] at hx
      obtain hx | rfl := hx
      · exact hb x hx
      · exact hs
    · exact ⟨acts, [], rfl, by simp⟩

/-- Who is answered was taken off the desk. -/
theorem Desk.answered_of_run {d : Desk ι τ ω} (h : (i, w) ∈ (d.run acts).answers) :
    (i, w) ∈ d.answers ∨ ∃ before answer after t, acts = before ++ .take i answer :: after ∧
      (d.run before).pending i = some t ∧ answer t = some w := by
  induction acts using List.reverseRecOn with
  | nil => exact .inl h
  | append_singleton acts a ih =>
    rw [run_append, run_singleton] at h
    have hold : (i, w) ∈ (d.run acts).answers → (i, w) ∈ d.answers ∨
        ∃ before answer after t, acts ++ [a] = before ++ .take i answer :: after ∧
          (d.run before).pending i = some t ∧ answer t = some w := by
      intro hm
      apply (ih hm).imp_right
      rintro ⟨before, answer, after, t, rfl, hp, hw⟩
      exact ⟨before, answer, after ++ [a], t, by simp, hp, hw⟩
    cases a with
    | put j t => exact hold h
    | clear => exact hold h
    | idle => exact hold h
    | take j answer =>
      cases hp : (d.run acts).pending j with
      | none => exact hold (by rwa [act_take_of_none hp] at h)
      | some t =>
        rw [act_take_of_some hp, List.mem_append] at h
        obtain h | h := h
        · simp only [Option.mem_toList, Option.map_eq_some_iff, Prod.mk.injEq] at h
          obtain ⟨w', hw, rfl, rfl⟩ := h
          exact .inr ⟨acts, answer, [], t, rfl, hp, hw⟩
        · exact hold h

/-- Every taker of `i` answers it, and well. -/
structure Act.Answers (good : ω → Prop) (i : ι) (a : Act ι τ ω) : Prop where
  take : ∀ answer, a = .take i answer → ∀ t, ∃ w, answer t = some w ∧ good w
  keeps : a ≠ .clear

def Desk.Served (good : ω → Prop) (d : Desk ι τ ω) (i : ι) : Prop :=
  ∃ w, good w ∧ (i, w) ∈ d.answers

theorem Desk.mem_answers_act {d : Desk ι τ ω} {p : ι × ω} (hp : p ∈ d.answers) (a : Act ι τ ω) :
    p ∈ (d.act a).answers := by
  cases a with
  | put j t => exact hp
  | clear => exact hp
  | idle => exact hp
  | take j answer =>
    cases h : d.pending j with
    | none => rwa [act_take_of_none h]
    | some t => simp [act_take_of_some h, hp]

theorem Desk.mem_answers_run {d : Desk ι τ ω} {p : ι × ω} (hp : p ∈ d.answers)
    (acts : List (Act ι τ ω)) : p ∈ (d.run acts).answers := by
  induction acts generalizing d with
  | nil => exact hp
  | cons a acts ih => exact ih (mem_answers_act hp a)

theorem Desk.waits_or_served_act {good : ω → Prop} {a : Act ι τ ω} (ha : a.Answers good i)
    (h : d.pending i ≠ none ∨ d.Served good i) :
    (d.act a).pending i ≠ none ∨ (d.act a).Served good i := by
  obtain h | ⟨w, hw, hm⟩ := h
  · obtain ⟨t, ht⟩ := Option.ne_none_iff_exists'.mp h
    cases a with
    | put j u =>
      by_cases hj : i = j
      · subst hj
        simp [act]
      · simp [act, Function.update_of_ne hj, h]
    | clear => exact absurd rfl ha.keeps
    | idle => exact .inl h
    | take j answer =>
      by_cases hj : i = j
      · subst hj
        obtain ⟨w, hw, hg⟩ := ha.take answer rfl t
        exact .inr ⟨w, hg, by simp [act_take_of_some ht, hw]⟩
      · left
        cases hp : d.pending j with
        | none => rwa [act_take_of_none hp]
        | some u => simp [act_take_of_some hp, Function.update_of_ne hj, h]
  · exact .inr ⟨w, hw, mem_answers_act hm a⟩

theorem Desk.waits_or_served {good : ω → Prop} (ha : ∀ a ∈ acts, a.Answers good i)
    (h : d.pending i ≠ none ∨ d.Served good i) :
    (d.run acts).pending i ≠ none ∨ (d.run acts).Served good i := by
  induction acts generalizing d with
  | nil => exact h
  | cons a acts ih =>
    have h1 := waits_or_served_act (ha a (by simp)) h
    exact ih (fun x hx => ha x (by simp [hx])) h1

/-- A request that waits is served by the first who takes it. -/
theorem Desk.served_of_take {good : ω → Prop} {answer : τ → Option ω}
    (ha : (Act.take i answer).Answers good i) (h : d.pending i ≠ none ∨ d.Served good i) :
    (d.act (.take i answer)).Served good i := by
  obtain h | ⟨w, hw, hm⟩ := h
  · obtain ⟨t, ht⟩ := Option.ne_none_iff_exists'.mp h
    obtain ⟨w, hw, hg⟩ := ha.take answer rfl t
    exact ⟨w, hg, by simp [act_take_of_some ht, hw]⟩
  · exact ⟨w, hw, mem_answers_act hm _⟩

end Counts

end Ironsoft.PendingModel
