import Mathlib.Data.Set.Defs
import Mathlib.Logic.Function.Basic
import Mathlib.Logic.Relation

/-!
# Parties on a topic

Parties with states of their own publish on a topic. What has been published arrives in any order,
possibly more than once, and possibly never.
-/
namespace Ironsoft.TopicModel
open Relation

variable {ι α : Type} [DecidableEq ι] {σ : ι → Type}

structure Net (σ : ι → Type) (α : Type) where
  state : (i : ι) → σ i
  published : List α
  /-- newest first -/
  arrived : List α

/-- `acts i s s' out`: the party `i` can go from `s` to `s'`, publishing `out`. -/
abbrev Acts (σ : ι → Type) (α : Type) := (i : ι) → σ i → σ i → List α → Prop

inductive Step (acts : Acts σ α) (net : Net σ α) : Net σ α → Prop
  | acts (i : ι) {s' : σ i} {out : List α} (h : acts i (net.state i) s' out) :
    Step acts net
      { net with state := Function.update net.state i s', published := net.published ++ out }
  | arrives {a : α} (h : a ∈ net.published) : Step acts net { net with arrived := a :: net.arrived }

/-- Each party in a state that satisfies `I`, and everything published in `Good`. -/
structure Kept (I : (i : ι) → σ i → Prop) (Good : Set α) (net : Net σ α) : Prop where
  state : ∀ i, I i (net.state i)
  published : ∀ a ∈ net.published, a ∈ Good
  arrived : ∀ a ∈ net.arrived, a ∈ Good

variable {acts : Acts σ α} {I : (i : ι) → σ i → Prop} {Good : Set α} {net net' : Net σ α}

theorem Kept.step
    (hacts : ∀ i s s' out, acts i s s' out → I i s → I i s' ∧ ∀ a ∈ out, a ∈ Good)
    (h : Kept I Good net) (hs : Step acts net net') : Kept I Good net' := by
  cases hs with
  | acts i hi =>
    obtain ⟨hstate, hout⟩ := hacts i _ _ _ hi (h.state i)
    refine ⟨fun j => ?_, fun a ha => ?_, h.arrived⟩
    · by_cases hj : j = i
      · subst hj
        simpa using hstate
      · simpa [hj] using h.state j
    · exact (List.mem_append.mp ha).elim (h.published a) (hout a)
  | arrives ha =>
    exact ⟨h.state, h.published, List.forall_mem_cons.mpr ⟨h.published _ ha, h.arrived⟩⟩

/-- Whatever arrives is good if every party publishes nothing else. -/
theorem Kept.steps
    (hacts : ∀ i s s' out, acts i s s' out → I i s → I i s' ∧ ∀ a ∈ out, a ∈ Good)
    (h : Kept I Good net) (hs : ReflTransGen (Step acts) net net') : Kept I Good net' := by
  induction hs with
  | refl => exact h
  | tail _ hstep ih => exact ih.step hacts hstep

theorem exists_step {i : ι} {s : σ i} {out : List α} (h : acts i (net.state i) s out) :
    ∃ net', Step acts net net' ∧ net'.state i = s :=
  ⟨_, .acts i h, Function.update_self i s net.state⟩

/-- What two parties publish may arrive next to each other. -/
theorem arrive_both {i j : ι} (hij : j ≠ i) {s : σ i} {t : σ j} {out out' : List α} {a b : α}
    (hi : acts i (net.state i) s out) (hj : acts j (net.state j) t out') (ha : a ∈ out)
    (hb : b ∈ out') :
    ∃ net', ReflTransGen (Step acts) net net' ∧ a ∈ net'.arrived ∧ b ∈ net'.arrived := by
  let net₁ : Net σ α :=
    { net with state := Function.update net.state i s, published := net.published ++ out }
  let net₂ : Net σ α :=
    { net₁ with state := Function.update net₁.state j t, published := net₁.published ++ out' }
  have hfirst : Step acts net net₁ := .acts i hi
  have hsame : net₁.state j = net.state j := Function.update_of_ne hij s net.state
  have hsecond : Step acts net₁ net₂ := .acts j (by rw [hsame]; exact hj)
  have hpublished : net₂.published = net.published ++ out ++ out' := rfl
  have ha₂ : a ∈ net₂.published := by simp [hpublished, ha]
  have hb₂ : b ∈ net₂.published := by simp [hpublished, hb]
  refine ⟨{ net₂ with arrived := b :: a :: net₂.arrived }, ?_, ?_, List.mem_cons_self⟩
  · have hboth : ReflTransGen (Step acts) net net₂ := (ReflTransGen.single hfirst).tail hsecond
    exact (hboth.tail (.arrives ha₂)).tail (.arrives hb₂)
  · exact List.mem_cons_of_mem b List.mem_cons_self

end Ironsoft.TopicModel
