import Mathlib.Data.List.Infix

/-!
# Histories

A history is a list, newest first. Every entry may have to be warranted by the ones before it.
-/
namespace Ironsoft.HistoryModel

variable {α : Type} {P Q : α → List α → Prop}

/-- Every entry is warranted by the ones before it. -/
def Warranted (P : α → List α → Prop) : List α → Prop
  | [] => True
  | a :: older => P a older ∧ Warranted P older

theorem warranted_iff {history : List α} :
    Warranted P history ↔ ∀ a older, a :: older <:+ history → P a older := by
  induction history with
  | nil => exact iff_of_true trivial fun a older h => absurd (List.suffix_nil.mp h) nofun
  | cons b history ih =>
    constructor
    · rintro ⟨hb, hhistory⟩ a older h
      rcases List.suffix_cons_iff.mp h with heq | hsuffix
      · cases heq
        exact hb
      · exact ih.mp hhistory a older hsuffix
    · intro h
      refine ⟨h b history (List.suffix_refl _), ih.mpr fun a older hsuffix => ?_⟩
      exact h a older (hsuffix.trans (List.suffix_cons _ _))

/-- Entries that need no warrant can come on top. -/
theorem Warranted.append {part history : List α} (h : Warranted P history)
    (hpart : ∀ a ∈ part, ∀ older, P a older) : Warranted P (part ++ history) := by
  induction part with
  | nil => exact h
  | cons a part ih =>
    obtain ⟨ha, hpart⟩ := List.forall_mem_cons.mp hpart
    exact ⟨ha _, ih hpart⟩

end Ironsoft.HistoryModel
