import Mathlib.Data.List.Basic
import Mathlib.Data.Nat.Notation
import Mathlib.Tactic.SplitIfs

/-!
# Clipped images

A text is written symbol by symbol, every symbol by an image of its own, and the writing stops at
the first image that has no room left. No image is written in part, and what is written is the
longest prefix that fits.
-/
namespace Ironsoft.ClipModel

variable {α β : Type} (image : α → List β)

/-- The prefix whose image is written. -/
def fitting : ℕ → List α → List α
  | _, [] => []
  | room, a :: text =>
    if (image a).length ≤ room then a :: fitting (room - (image a).length) text else []

def clip (room : ℕ) (text : List α) : List β := (fitting image room text).flatMap image

section Fitting

variable {image} {room : ℕ} {text : List α} {a : α}

@[simp] theorem fitting_nil : fitting image room [] = [] := rfl

theorem fitting_cons_of_le (h : (image a).length ≤ room) :
    fitting image room (a :: text) = a :: fitting image (room - (image a).length) text := if_pos h

theorem fitting_cons_of_lt (h : room < (image a).length) : fitting image room (a :: text) = [] :=
  if_neg (by omega)

theorem fitting_isInitial (room : ℕ) (text : List α) : fitting image room text <+: text := by
  induction text generalizing room with
  | nil => exact List.prefix_refl _
  | cons a text ih =>
    simp only [fitting]
    split_ifs
    · exact List.prefix_cons_inj a |>.mpr (ih _)
    · exact List.nil_prefix

theorem clip_length (room : ℕ) (text : List α) : (clip image room text).length ≤ room := by
  induction text generalizing room with
  | nil => simp [clip]
  | cons a text ih =>
    simp only [clip, fitting]
    split_ifs with h
    · have htail := ih (room - (image a).length)
      simp only [clip] at htail
      simp only [List.flatMap_cons, List.length_append]
      omega
    · simp

/-- A prefix whose image fits is written in full. -/
theorem fitting_longest {p : List α} (hp : p <+: text) (hfits : (p.flatMap image).length ≤ room) :
    p <+: fitting image room text := by
  induction text generalizing p room with
  | nil => simpa using hp
  | cons a text ih =>
    cases p with
    | nil => exact List.nil_prefix
    | cons b p =>
      obtain ⟨rfl, htail⟩ := List.cons_prefix_cons.mp hp
      simp only [List.flatMap_cons, List.length_append] at hfits
      rw [fitting_cons_of_le (by omega)]
      exact List.prefix_cons_inj b |>.mpr (ih htail (by omega))

/-- Something is written if the first image has room. -/
theorem clip_ne_nil (himage : ∀ a, image a ≠ []) (htext : text ≠ [])
    (hroom : ∀ a, (image a).length ≤ room) : clip image room text ≠ [] := by
  cases text with
  | nil => exact absurd rfl htext
  | cons a text =>
    rw [clip, fitting_cons_of_le (hroom a), List.flatMap_cons]
    exact List.append_ne_nil_of_left_ne_nil (himage a) _

/-- Everything written is part of an image. -/
theorem forall_mem_clip {P : β → Prop} (h : ∀ a, ∀ b ∈ image a, P b) :
    ∀ b ∈ clip image room text, P b := by
  intro b hb
  obtain ⟨a, -, hba⟩ := List.mem_flatMap.mp hb
  exact h a b hba

end Fitting

end Ironsoft.ClipModel
