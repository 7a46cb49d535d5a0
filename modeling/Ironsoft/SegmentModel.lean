import Mathlib.Data.List.Infix
import Mathlib.Tactic.SplitIfs

/-!
# Segments

The parts of a text between its separators, and the texts in which two separators meet.
-/
namespace Ironsoft.SegmentModel

variable {α : Type} {sep : α} {path xs ys : List α}

/-- Two separators stand next to each other. -/
def Doubled (sep : α) (path : List α) : Prop := [sep, sep] <:+: path

theorem Doubled.of_infix (hx : Doubled sep xs) (h : xs <:+: ys) : Doubled sep ys := hx.trans h

theorem not_doubled_nil : ¬ Doubled sep [] := by simp [Doubled]

theorem doubled_cons {a : α} :
    Doubled sep (a :: path) ↔ a = sep ∧ path.head? = some sep ∨ Doubled sep path := by
  unfold Doubled
  rw [List.infix_cons_iff, List.cons_prefix_cons]
  cases path with
  | nil => simp
  | cons b path =>
    rw [List.cons_prefix_cons, List.head?_cons, Option.some.injEq, eq_comm (a := sep) (b := a),
      eq_comm (a := sep) (b := b)]
    simp

/-- Two separators meet on either side of a third or next to it. -/
theorem doubled_append_sep : Doubled sep (xs ++ sep :: ys) ↔
    Doubled sep xs ∨ Doubled sep ys ∨ xs.getLast? = some sep ∨ ys.head? = some sep := by
  induction xs with
  | nil =>
    rw [List.nil_append, doubled_cons]
    simp [not_doubled_nil, or_comm]
  | cons a xs ih =>
    rw [List.cons_append, doubled_cons, doubled_cons, ih]
    cases xs with
    | nil =>
      simp [not_doubled_nil]
      tauto
    | cons b xs =>
      simp
      tauto

/-- Separators alone meet unless there is at most one of them. -/
theorem eq_of_all_sep (hall : ∀ a ∈ path, a = sep) (h : ¬ Doubled sep path) :
    path = [] ∨ path = [sep] := by
  match path with
  | [] => exact .inl rfl
  | [a] => exact .inr (by rw [hall a (List.mem_singleton_self a)])
  | a :: b :: path =>
    have ha : a = sep := hall a (by simp)
    have hb : b = sep := hall b (by simp)
    exact absurd (doubled_cons.mpr (.inl ⟨ha, by rw [hb, List.head?_cons]⟩)) h

variable [DecidableEq α]

instance : Decidable (Doubled sep path) := inferInstanceAs (Decidable (_ <:+: _))

/-- The nonempty parts between the separators. -/
def segments (sep : α) (path : List α) : List (List α) := (path.splitOn sep).filter (· ≠ [])

theorem segments_nil : segments sep [] = [] := rfl

/-- A separator cuts. -/
theorem segments_append_sep :
    segments sep (xs ++ sep :: ys) = segments sep xs ++ segments sep ys := by
  unfold segments
  rw [List.splitOn_append_cons_self, List.filter_append]

theorem segments_sep_cons : segments sep (sep :: ys) = segments sep ys := by
  have hcut : segments sep ([] ++ sep :: ys) = segments sep [] ++ segments sep ys :=
    segments_append_sep
  rwa [segments_nil, List.nil_append, List.nil_append] at hcut

theorem segments_concat_sep : segments sep (xs ++ [sep]) = segments sep xs := by
  rw [segments_append_sep, segments_nil, List.append_nil]

theorem segments_dropWhile (path : List α) :
    segments sep (path.dropWhile (· = sep)) = segments sep path := by
  induction path with
  | nil => rfl
  | cons a path ih =>
    by_cases ha : a = sep
    · rw [List.dropWhile_cons_of_pos (by simpa using ha), ih, ha, segments_sep_cons]
    · rw [List.dropWhile_cons_of_neg (by simpa using ha)]

/-- Nothing but separators has no segment. -/
theorem segments_eq_nil_iff : segments sep path = [] ↔ ∀ a ∈ path, a = sep := by
  induction path with
  | nil => simp [segments_nil]
  | cons a path ih =>
    by_cases ha : a = sep
    · rw [ha, segments_sep_cons, ih]
      simp
    · have hhead : segments sep (a :: path) ≠ [] := by
        unfold segments
        rw [List.splitOn_cons_eq_if_modifyHead, if_neg (by simpa using ha)]
        obtain ⟨part, parts, hparts⟩ := List.exists_cons_of_ne_nil (List.splitOn_ne_nil sep path)
        simp [hparts]
      simp [hhead, ha]

end Ironsoft.SegmentModel
