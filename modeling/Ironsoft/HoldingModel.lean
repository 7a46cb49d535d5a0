import Mathlib.Data.List.Count
import Mathlib.Data.Nat.Notation

/-!
# Held resources

Resources are acquired, used and released, and some of them need others. Whoever keeps to the
discipline releases each resource once for every time it got it, and before what it needs.
-/
namespace Ironsoft.HoldingModel

variable {ρ : Type}

inductive Move (ρ : Type)
  /-- an attempt, and whether it has got the resource -/
  | acquire (r : ρ) (got : Bool)
  | use (r : ρ)
  | release (r : ρ)
  deriving DecidableEq

open Move

variable [DecidableEq ρ]

def held (r : ρ) : List (Move ρ) → Bool
  | [] => false
  | acquire r' got :: older => if r' = r then got else held r older
  | use _ :: older => held r older
  | release r' :: older => if r' = r then false else held r older

/-- A move that may come after `older`: `needs r r'` if `r` only lives while `r'` does. -/
def Allowed (needs : ρ → ρ → Prop) (older : List (Move ρ)) : Move ρ → Prop
  | acquire r _ => held r older = false ∧ ∀ r', needs r r' → held r' older = true
  | use r => held r older = true
  | release r => held r older = true ∧ ∀ r', needs r' r → held r' older = false

def Disciplined (needs : ρ → ρ → Prop) : List (Move ρ) → Prop
  | [] => True
  | move :: older => Allowed needs older move ∧ Disciplined needs older

variable {needs : ρ → ρ → Prop} {r : ρ} {history span older : List (Move ρ)}

/-- Every part of a disciplined history is disciplined. -/
theorem Disciplined.suffix (h : Disciplined needs history) (hpart : older <:+ history) :
    Disciplined needs older := by
  obtain ⟨newer, rfl⟩ := hpart
  induction newer with
  | nil => exact h
  | cons _ newer ih => exact ih h.2

theorem Disciplined.allowed {move : Move ρ} (h : Disciplined needs history)
    (hpart : move :: older <:+ history) : Allowed needs older move := (h.suffix hpart).1

/-- Without another attempt a resource is released at most once, and then it is not held. -/
theorem Disciplined.count_release (h : Disciplined needs (span ++ acquire r true :: older))
    (hquiet : ∀ got, acquire r got ∉ span) :
    span.count (release r) = if held r (span ++ acquire r true :: older) then 0 else 1 := by
  induction span with
  | nil => simp [held]
  | cons move span ih =>
    obtain ⟨hmove, h⟩ := h
    have hcount := ih h fun got hmem => hquiet got (List.mem_cons_of_mem _ hmem)
    cases move with
    | acquire r' got =>
      have hother : r' ≠ r := by
        rintro rfl
        exact hquiet got List.mem_cons_self
      simpa [held, hother] using hcount
    | use r' => simpa [held] using hcount
    | release r' =>
      by_cases hsame : r' = r
      · subst hsame
        have hheld : held r' (span ++ acquire r' true :: older) = true := hmove.1
        rw [hheld, if_pos rfl] at hcount
        simp [held, hcount]
      · simpa [held, hsame] using hcount

/-- A resource that is not held in the end has been released once since it was acquired. -/
theorem Disciplined.released_once (h : Disciplined needs (span ++ acquire r true :: older))
    (hend : held r (span ++ acquire r true :: older) = false) (hquiet : ∀ got, acquire r got ∉ span) :
    span.count (release r) = 1 := by
  rw [h.count_release hquiet, hend]
  rfl

/-- What happens between an acquisition of `r` and the next attempt, or the end. -/
structure Span (r : ρ) (history span older : List (Move ρ)) : Prop where
  next : span ++ acquire r true :: older = history ∨
    ∃ got, acquire r got :: (span ++ acquire r true :: older) <:+ history
  quiet : ∀ got, acquire r got ∉ span

/-- A history at whose end every resource has been released once for every time it was acquired, and
before what it needs, and in which nothing else is released or used. -/
structure Paired (needs : ρ → ρ → Prop) (history : List (Move ρ)) : Prop where
  once : ∀ r span older, Span r history span older → span.count (release r) = 1
  first : ∀ r r' span older, needs r r' → (∀ got, acquire r got ∉ span) →
    release r' :: (span ++ acquire r true :: older) <:+ history → span.count (release r) = 1
  needed : ∀ r r' got older, needs r r' → acquire r got :: older <:+ history → held r' older = true
  released : ∀ r older, release r :: older <:+ history → held r older = true
  used : ∀ r older, use r :: older <:+ history → held r older = true

theorem Disciplined.paired (h : Disciplined needs history) (hend : ∀ r, held r history = false) :
    Paired needs history where
  once r span older hspan := by
    rcases hspan.next with rfl | ⟨got, hnext⟩
    · exact h.released_once (hend r) hspan.quiet
    · exact (h.suffix hnext).2.released_once (h.allowed hnext).1 hspan.quiet
  first r r' span older hneeds hquiet hpart :=
    (h.suffix hpart).2.released_once ((h.allowed hpart).2 r hneeds) hquiet
  needed r r' got older hneeds hpart := (h.allowed hpart).2 r' hneeds
  released r older hpart := (h.allowed hpart).1
  used r older hpart := h.allowed hpart

end Ironsoft.HoldingModel
