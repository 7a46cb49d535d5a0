import Mathlib.Data.List.Basic
import Mathlib.Tactic.SplitIfs

/-!
# Runs that use up a rank

Some actions lower a rank, and the others do not raise it, as long as an invariant holds that the allowed
actions keep. A run of allowed actions has no more of those that lower it than the rank it starts with.
-/
namespace Ironsoft.RankModel

variable {σ α : Type} {step : σ → α → Option σ} {inv : σ → Prop} {allowed : α → Prop}
  {lowers : α → Bool} {rank : σ → ℕ}

/-- The rule of a step. -/
def Uses (step : σ → α → Option σ) (inv : σ → Prop) (allowed : α → Prop) (lowers : α → Bool)
    (rank : σ → ℕ) : Prop :=
  ∀ s a s', inv s → allowed a → step s a = some s' →
    inv s' ∧ (if lowers a then rank s' < rank s else rank s' ≤ rank s)

/-- The rule of a run. -/
theorem Uses.run (h : Uses step inv allowed lowers rank) {s s' : σ} {actions : List α} (hs : inv s)
    (hallowed : ∀ a ∈ actions, allowed a) (hrun : actions.foldlM step s = some s') :
    inv s' ∧ actions.countP lowers + rank s' ≤ rank s := by
  induction actions generalizing s with
  | nil =>
    obtain rfl := Option.some.inj hrun
    exact ⟨hs, by simp⟩
  | cons a actions ih =>
    obtain ⟨ha, hrest⟩ := List.forall_mem_cons.mp hallowed
    rw [List.foldlM_cons] at hrun
    obtain ⟨s₁, hstep, hrun⟩ := Option.bind_eq_some_iff.mp hrun
    obtain ⟨hs₁, hrank⟩ := h s a s₁ hs ha hstep
    obtain ⟨hs', hcount⟩ := ih hs₁ hrest hrun
    refine ⟨hs', ?_⟩
    rw [List.countP_cons]
    split_ifs at hrank ⊢ <;> omega

end Ironsoft.RankModel
