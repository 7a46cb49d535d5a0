import Ironsoft.EffectProgram
import Mathlib.Data.List.Basic

/-!
# Rules on a document

A list of rules judges a document by the first rule that it breaks. What a program comes to is its
value and state, or its exception, in which case the state does not count.
-/
namespace Ironsoft.RuleModel
open Effect

structure Rule (δ ε : Type) where
  meets : δ → Bool
  err : ε

variable {δ ε : Type}

/-- Goes on if the condition holds. -/
def demand (b : Bool) (err : ε) : Except ε Unit := if b then pure () else throw err

def judge (rules : List (Rule δ ε)) (d : δ) : Except ε Unit :=
  rules.forM fun rule => demand (rule.meets d) rule.err

@[simp] theorem judge_nil (d : δ) : judge ([] : List (Rule δ ε)) d = pure () := rfl

@[simp] theorem judge_cons (rule : Rule δ ε) (rules : List (Rule δ ε)) (d : δ) :
    judge (rule :: rules) d = demand (rule.meets d) rule.err >>= fun _ => judge rules d := rfl

theorem judge_append (rules rules' : List (Rule δ ε)) (d : δ) :
    judge (rules ++ rules') d = judge rules d >>= fun _ => judge rules' d := by
  induction rules with
  | nil => rfl
  | cons rule rules ih => simp [ih]

/-- A document is let through if it breaks no rule. -/
theorem judge_ok_iff (rules : List (Rule δ ε)) (d : δ) :
    judge rules d = .ok () ↔ ∀ rule ∈ rules, rule.meets d = true := by
  induction rules with
  | nil => simp [judge, pure, Except.pure]
  | cons rule rules ih =>
    rw [judge_cons, List.forall_mem_cons, ← ih]
    cases hm : rule.meets d with
    | true => simp [demand]
    | false => simp [demand, throw, throwThe, MonadExceptOf.throw, bind, Except.bind]

/-- The error is that of the first rule broken. -/
theorem judge_error_iff (rules : List (Rule δ ε)) (d : δ) (err : ε) :
    judge rules d = .error err ↔ ∃ earlier rule later, rules = earlier ++ rule :: later ∧
      (∀ r ∈ earlier, r.meets d = true) ∧ rule.meets d = false ∧ rule.err = err := by
  induction rules with
  | nil => simp [judge, pure, Except.pure]
  | cons rule rules ih =>
    rw [judge_cons]
    cases hm : rule.meets d with
    | true =>
      have hpass : (demand true rule.err >>= fun _ => judge rules d) = judge rules d := by simp [demand]
      rw [hpass, ih]
      constructor
      · rintro ⟨earlier, r, later, rfl, hearlier, hr⟩
        exact ⟨rule :: earlier, r, later, rfl, List.forall_mem_cons.mpr ⟨hm, hearlier⟩, hr⟩
      · rintro ⟨earlier, r, later, heq, hearlier, hr⟩
        cases earlier with
        | nil =>
          obtain ⟨rfl, rfl⟩ := List.cons.inj heq
          exact absurd (hm.symm.trans hr.1) Bool.noConfusion
        | cons r' earlier =>
          obtain ⟨rfl, rfl⟩ := List.cons.inj heq
          exact ⟨earlier, r, later, rfl, (List.forall_mem_cons.mp hearlier).2, hr⟩
    | false =>
      have hstop : (demand false rule.err >>= fun _ => judge rules d) = .error rule.err := rfl
      rw [hstop]
      constructor
      · intro h
        exact ⟨[], rule, rules, rfl, by simp, hm, Except.error.inj h⟩
      · rintro ⟨earlier, r, later, heq, hearlier, hr⟩
        cases earlier with
        | nil =>
          obtain ⟨rfl, rfl⟩ := List.cons.inj heq
          rw [hr.2]
        | cons r' earlier =>
          obtain ⟨rfl, rfl⟩ := List.cons.inj heq
          have hfirst := (List.forall_mem_cons.mp hearlier).1
          exact absurd (hm.symm.trans hfirst) Bool.noConfusion

section Outcomes

variable {ρ σ α β : Type} {env : ρ} {w : σ}

def outcome (x : Prog ρ σ ε α) (env : ρ) (w : σ) : Except ε (α × σ) :=
  match exec x env w with
  | (.ok a, w') => pure (a, w')
  | (.error e, _) => throw e

@[simp] theorem outcome_pure (a : α) : outcome (pure a : Prog ρ σ ε α) env w = pure (a, w) := rfl

@[simp] theorem outcome_throw (e : ε) : outcome (throw e : Prog ρ σ ε α) env w = throw e := rfl

@[simp] theorem outcome_get : outcome (get : Prog ρ σ ε σ) env w = pure (w, w) := rfl

@[simp] theorem outcome_read : outcome (read : Prog ρ σ ε ρ) env w = pure (env, w) := rfl

@[simp] theorem outcome_modify (f : σ → σ) :
    outcome (modify f : Prog ρ σ ε PUnit) env w = pure (⟨⟩, f w) := rfl

@[simp] theorem outcome_bind (x : Prog ρ σ ε α) (f : α → Prog ρ σ ε β) :
    outcome (x >>= f) env w = outcome x env w >>= fun p => outcome (f p.1) env p.2 := by
  unfold outcome
  rw [exec_bind]
  rcases exec x env w with ⟨_ | _, _⟩ <;> rfl

end Outcomes

end Ironsoft.RuleModel
