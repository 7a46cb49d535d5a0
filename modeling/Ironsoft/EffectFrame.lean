import Ironsoft.EffectProgram

/-!
# Frames

Properties of programs that compose and are therefore found by instance search from the
primitives a program uses. A program respects a relation between states if every state it
is left in, by returning or by an exception, is related to the state it was entered in; a
part of the state is ignored by a relation when writing to it is a step of the relation.
A program throws only `p` if every exception that leaves it satisfies `p`. A program pushes
one entry onto a list kept in the state if it has done so whenever it returns.
-/
namespace Ironsoft.Effect

variable {ρ σ ε α β γ δ : Type}

class Respects (env : ρ) (R : σ → σ → Prop) (x : Prog ρ σ ε α) : Prop where
  related : ∀ w, R w (exec x env w).2

/-- What `f` adds to a program that respects `R` respects it as well. -/
class Wraps (env : ρ) (R : σ → σ → Prop) (f : Prog ρ σ ε α → Prog ρ σ ε β) : Prop where
  wrapped : ∀ x, Respects env R x → Respects env R (f x)

theorem Respects.relates {env : ρ} {R : σ → σ → Prop} {x : Prog ρ σ ε α} (h : Respects env R x)
    (w : σ) : R w (exec x env w).2 := h.related w

theorem respects_iff_wp {env : ρ} {R : σ → σ → Prop} {x : Prog ρ σ ε α} :
    Respects env R x ↔ ∀ w, wp x env (fun _ w' => R w w') (fun _ w' => R w w') w := by
  constructor
  · intro h w
    have hw := h.related w
    revert hw
    unfold wp
    rcases exec x env w with ⟨_ | _, _⟩ <;> exact id
  · exact fun h => ⟨fun w => exec_of_wp (h w)⟩

/-- Wherever `x` ends, it has come there by `R`. -/
theorem Respects.wp_of {env : ρ} {R : σ → σ → Prop} {x : Prog ρ σ ε α} {I : σ → Prop} {w : σ}
    (h : Respects env R x) (hI : ∀ w', R w w' → I w') :
    wp x env (fun _ w' => I w') (fun _ w' => I w') w :=
  wp_mono (respects_iff_wp.mp h w) (fun _ => hI) fun _ => hI

section Composition

variable (env : ρ) (R : σ → σ → Prop) [IsPreorder σ R]

instance (a : α) : Respects env R (pure a : Prog ρ σ ε α) := ⟨fun w => refl_of R w⟩

instance : Respects env R (get : Prog ρ σ ε σ) := ⟨fun w => refl_of R w⟩

instance (e : ε) : Respects env R (throw e : Prog ρ σ ε α) := ⟨fun w => refl_of R w⟩

instance (x : Prog ρ σ ε α) (f : α → Prog ρ σ ε β) [hx : Respects env R x]
    [hf : ∀ a, Respects env R (f a)] : Respects env R (x >>= f) where
  related w := by
    have h := hx.related w
    rw [exec_bind]
    revert h
    rcases exec x env w with ⟨e | a, w'⟩
    · exact id
    · intro h
      exact trans_of R h ((hf a).related w')

omit [IsPreorder σ R] in
theorem Respects.of_read {f : ρ → Prog ρ σ ε β} (hf : Respects env R (f env)) :
    Respects env R (read >>= f) where
  related w := by
    rw [exec_bind, exec_read]
    exact hf.related w

instance (priority := high) (f : ρ → Prog ρ σ ε β) [hf : Respects env R (f env)] :
    Respects env R (read >>= f) := hf.of_read

instance (c : Prop) [Decidable c] (x y : Prog ρ σ ε α) [Respects env R x]
    [Respects env R y] : Respects env R (if c then x else y) := by
  split <;> assumption

instance (x : Prog ρ σ ε α) (h : ε → Prog ρ σ ε α) [hx : Respects env R x]
    [hh : ∀ e, Respects env R (h e)] : Respects env R (tryCatch x h) where
  related w := by
    have hw := hx.related w
    rw [exec_tryCatch]
    revert hw
    rcases exec x env w with ⟨e | a, w'⟩
    · intro hw
      exact trans_of R hw ((hh e).related w')
    · exact id

end Composition

/-- What `g` shows of the state stays the same. -/
def Keeping (g : σ → δ) (w w' : σ) : Prop := g w' = g w

instance (g : σ → δ) : IsPreorder σ (Keeping g) where
  refl _ := rfl
  trans _ _ _ h h' := h'.trans h

/-- The invariant `I` survives. -/
def Preserving (I : σ → Prop) (w w' : σ) : Prop := I w → I w'

instance (I : σ → Prop) : IsPreorder σ (Preserving I) where
  refl _ := id
  trans _ _ _ h h' := h' ∘ h

theorem Respects.keeps {env : ρ} {g : σ → δ} {x : Prog ρ σ ε α}
    (h : Respects env (Keeping g) x) (w : σ) : g (exec x env w).2 = g w := h.related w

theorem Respects.preserves {env : ρ} {I : σ → Prop} {x : Prog ρ σ ε α}
    (h : Respects env (Preserving I) x) {w : σ} (hw : I w) : I (exec x env w).2 := h.related w hw

/-- An invariant that only looks at what is kept is preserved. -/
theorem Respects.preserving {env : ρ} {g : σ → δ} {x : Prog ρ σ ε α} {I : σ → Prop}
    (h : Respects env (Keeping g) x) (hI : ∀ w w', g w' = g w → I w → I w') :
    Respects env (Preserving I) x :=
  ⟨fun w => hI w _ (h.related w)⟩

/-- What is behind a program that leaves `g` alone meets the same `g`. -/
theorem wp_bind_of_keeps {env : ρ} {g : σ → δ} {x : Prog ρ σ ε α} {f : α → Prog ρ σ ε β}
    {Q : β → σ → Prop} {E : ε → σ → Prop} {w : σ} (hx : Respects env (Keeping g) x)
    (hf : ∀ a w', g w' = g w → wp (f a) env Q E w') (hE : ∀ e w', g w' = g w → E e w') :
    wp (x >>= f) env Q E w := by
  rw [wp_bind]
  exact wp_mono (respects_iff_wp.mp hx w) (fun a w' hkept => hf a w' hkept)
    fun e w' hkept => hE e w' hkept

/-- A component of the state. -/
structure Part (σ γ : Type) where
  get : σ → γ
  set : γ → σ → σ

namespace Part

variable (P : Part σ γ)

def update (f : γ → γ) : Prog ρ σ ε PUnit := modify fun w => P.set (f (P.get w)) w

@[simp] theorem wp_update (f : γ → γ) {env : ρ} {Q : PUnit → σ → Prop} {E : ε → σ → Prop} {w : σ} :
    wp (P.update f) env Q E w ↔ Q ⟨⟩ (P.set (f (P.get w)) w) := ⟨id, id⟩

/-- Writing to the part is a step of `R`. -/
class Ignored (R : σ → σ → Prop) : Prop where
  step : ∀ w v, R w (P.set v w)

instance (env : ρ) (R : σ → σ → Prop) [h : P.Ignored R] (f : γ → γ) :
    Respects env R (P.update f : Prog ρ σ ε PUnit) :=
  ⟨fun w => h.step w _⟩

end Part

class Throws (env : ρ) (p : ε → Prop) (x : Prog ρ σ ε α) : Prop where
  only : ∀ w, wp x env (fun _ _ => True) (fun e _ => p e) w

section Exceptions

variable (env : ρ) (p : ε → Prop)

instance (a : α) : Throws env p (pure a : Prog ρ σ ε α) := ⟨fun _ => trivial⟩

instance : Throws env p (get : Prog ρ σ ε σ) := ⟨fun _ => trivial⟩

instance (f : σ → σ) : Throws env p (modify f : Prog ρ σ ε PUnit) := ⟨fun _ => trivial⟩

instance (P : Part σ γ) (f : γ → γ) : Throws env p (P.update f : Prog ρ σ ε PUnit) :=
  ⟨fun _ => trivial⟩

instance (x : Prog ρ σ ε α) (f : α → Prog ρ σ ε β) [hx : Throws env p x]
    [hf : ∀ a, Throws env p (f a)] : Throws env p (x >>= f) where
  only w := by
    rw [wp_bind]
    exact wp_mono (hx.only w) (fun a w' _ => (hf a).only w') fun _ _ => id

theorem Throws.of_read {f : ρ → Prog ρ σ ε β} (hf : Throws env p (f env)) :
    Throws env p (read >>= f) where
  only w := by
    rw [wp_bind, wp_read]
    exact hf.only w

instance (priority := high) (f : ρ → Prog ρ σ ε β) [hf : Throws env p (f env)] :
    Throws env p (read >>= f) := hf.of_read

instance (c : Prop) [Decidable c] (x y : Prog ρ σ ε α) [Throws env p x] [Throws env p y] :
    Throws env p (if c then x else y) := by
  split <;> assumption

/-- A program that throws nothing returns. -/
theorem Throws.returns {x : Prog ρ σ ε α} (h : Throws env (fun _ => False) x) (w : σ) :
    ∃ a w', exec x env w = (.ok a, w') := by
  have hw := h.only w
  revert hw
  unfold wp
  rcases exec x env w with ⟨e | a, w'⟩
  · exact False.elim
  · exact fun _ => ⟨a, w', rfl⟩

theorem Throws.error {x : Prog ρ σ ε α} (h : Throws env p x) {w w' : σ} {e : ε}
    (hx : exec x env w = (.error e, w')) : p e := by
  simpa only [wp, hx] using h.only w

end Exceptions

/-- A program that throws nothing returns in a related state. -/
theorem Respects.returns {env : ρ} {R : σ → σ → Prop} {x : Prog ρ σ ε α} (h : Respects env R x)
    (hx : Throws env (fun _ => False) x) (w : σ) :
    wp x env (fun _ w' => R w w') (fun _ _ => False) w :=
  wp_mono (wp_and (respects_iff_wp.mp h w) (hx.only w)) (fun _ _ hw => hw.1) fun _ _ hw => hw.2

/-- Whenever `x` returns, the list `g` has one entry more, and the entry satisfies `P`. -/
class PushesOne (env : ρ) (g : σ → List δ) (P : δ → Prop) (x : Prog ρ σ ε α) : Prop where
  pushed : ∀ w, wp x env (fun _ w' => ∃ d, P d ∧ g w' = d :: g w) (fun _ _ => True) w

section Lists

variable (env : ρ) (g : σ → List δ) (P : δ → Prop)

instance (x : Prog ρ σ ε α) (f : α → Prog ρ σ ε β) [hx : Respects env (Keeping g) x]
    [hf : ∀ a, PushesOne env g P (f a)] : PushesOne env g P (x >>= f) where
  pushed w := by
    rw [wp_bind]
    refine wp_mono (respects_iff_wp.mp hx w) (fun a w' (hw : g w' = g w) => ?_)
      fun _ _ _ => trivial
    rw [← hw]
    exact (hf a).pushed w'

/-- The entry is pushed before the last steps. -/
instance (priority := low) (x : Prog ρ σ ε α) (f : α → Prog ρ σ ε β) [hx : PushesOne env g P x]
    [hf : ∀ a, Respects env (Keeping g) (f a)] : PushesOne env g P (x >>= f) where
  pushed w := by
    rw [wp_bind]
    refine wp_mono (hx.pushed w) (fun a w' hw => ?_) fun _ _ _ => trivial
    refine wp_mono (respects_iff_wp.mp (hf a) w') (fun _ w'' (hg : g w'' = g w') => ?_)
      fun _ _ _ => trivial
    rw [hg]
    exact hw

instance (priority := high) (f : ρ → Prog ρ σ ε β) [hf : PushesOne env g P (f env)] :
    PushesOne env g P (read >>= f) where
  pushed w := by
    rw [wp_bind, wp_read]
    exact hf.pushed w

instance (c : Prop) [Decidable c] (x y : Prog ρ σ ε α) [PushesOne env g P x]
    [PushesOne env g P y] : PushesOne env g P (if c then x else y) := by
  split <;> assumption

end Lists

end Ironsoft.Effect
