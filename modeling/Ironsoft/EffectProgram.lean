import Mathlib.Order.Defs.Unbundled

/-!
# Effectful programs

Programs that read an environment, change a state and may be left by an exception. An
exception keeps the state reached when it is thrown, as unwinding a stack does. `wp` is
the assertion that has to hold before a program for given assertions to hold after it,
one for each way of leaving.
-/
namespace Ironsoft.Effect

variable {ρ σ ε α β : Type}

abbrev Prog (ρ σ ε : Type) := ReaderT ρ (ExceptT ε (StateM σ))

def exec (x : Prog ρ σ ε α) (env : ρ) (w : σ) : Except ε α × σ :=
  ((x.run env).run).run w

/-- `Q` holds if the program returns, `E` holds if an exception leaves it. -/
def wp (x : Prog ρ σ ε α) (env : ρ) (Q : α → σ → Prop) (E : ε → σ → Prop) (w : σ) : Prop :=
  match exec x env w with
  | (.ok a, w') => Q a w'
  | (.error e, w') => E e w'

section Execution

variable (env : ρ) (w : σ)

@[simp] theorem exec_get : exec (get : Prog ρ σ ε σ) env w = (.ok w, w) := rfl

@[simp] theorem exec_read : exec (read : Prog ρ σ ε ρ) env w = (.ok env, w) := rfl

theorem exec_bind (x : Prog ρ σ ε α) (f : α → Prog ρ σ ε β) :
    exec (x >>= f) env w = match exec x env w with
      | (.ok a, w') => exec (f a) env w'
      | (.error e, w') => (.error e, w') := by
  change (ExceptT.bindCont (fun a => (f a).run env) (exec x env w).1) (exec x env w).2 = _
  rcases exec x env w with ⟨_ | _, _⟩ <;> rfl

theorem exec_tryCatch (x : Prog ρ σ ε α) (h : ε → Prog ρ σ ε α) :
    exec (tryCatch x h) env w = match exec x env w with
      | (.ok a, w') => (.ok a, w')
      | (.error e, w') => exec (h e) env w' := by
  change (match (exec x env w).1 with
    | .ok a => (pure (.ok a) : StateM σ (Except ε α))
    | .error e => (h e).run env) (exec x env w).2 = _
  rcases exec x env w with ⟨_ | _, _⟩ <;> rfl

end Execution

section Assertions

variable {env : ρ} {Q : β → σ → Prop} {E : ε → σ → Prop} {w : σ}

@[simp] theorem wp_pure (a : β) : wp (pure a : Prog ρ σ ε β) env Q E w ↔ Q a w := ⟨id, id⟩

@[simp] theorem wp_throw (e : ε) : wp (throw e : Prog ρ σ ε β) env Q E w ↔ E e w := ⟨id, id⟩

@[simp] theorem wp_get {Q : σ → σ → Prop} : wp (get : Prog ρ σ ε σ) env Q E w ↔ Q w w := ⟨id, id⟩

@[simp] theorem wp_read {Q : ρ → σ → Prop} :
    wp (read : Prog ρ σ ε ρ) env Q E w ↔ Q env w := ⟨id, id⟩

@[simp] theorem wp_modify {Q : PUnit → σ → Prop} (f : σ → σ) :
    wp (modify f : Prog ρ σ ε PUnit) env Q E w ↔ Q ⟨⟩ (f w) := ⟨id, id⟩

@[simp] theorem wp_bind (x : Prog ρ σ ε α) (f : α → Prog ρ σ ε β) :
    wp (x >>= f) env Q E w ↔ wp x env (fun a => wp (f a) env Q E) E w := by
  unfold wp
  rw [exec_bind]
  rcases exec x env w with ⟨_ | _, _⟩ <;> rfl

@[simp] theorem wp_tryCatch (x : Prog ρ σ ε β) (h : ε → Prog ρ σ ε β) :
    wp (tryCatch x h) env Q E w ↔ wp x env Q (fun e => wp (h e) env Q E) w := by
  unfold wp
  rw [exec_tryCatch]
  rcases exec x env w with ⟨_ | _, _⟩ <;> rfl

@[simp] theorem wp_ite (c : Prop) [Decidable c] (x y : Prog ρ σ ε β) :
    wp (if c then x else y) env Q E w ↔ if c then wp x env Q E w else wp y env Q E w := by
  split <;> rfl

/-- Consequence. -/
theorem wp_mono {x : Prog ρ σ ε β} {Q' : β → σ → Prop} {E' : ε → σ → Prop}
    (h : wp x env Q E w) (hQ : ∀ a w', Q a w' → Q' a w') (hE : ∀ e w', E e w' → E' e w') :
    wp x env Q' E' w := by
  revert h
  unfold wp
  rcases exec x env w with ⟨e | a, w'⟩
  · exact hE e w'
  · exact hQ a w'

theorem wp_of_forall {x : Prog ρ σ ε β} (hQ : ∀ a w', Q a w') (hE : ∀ e w', E e w') :
    wp x env Q E w := by
  unfold wp
  rcases exec x env w with ⟨e | a, w'⟩
  · exact hE e w'
  · exact hQ a w'

/-- What holds however `x` is left. -/
theorem exec_of_wp {x : Prog ρ σ ε β} {I : σ → Prop}
    (h : wp x env (fun _ w' => I w') (fun _ w' => I w') w) : I (exec x env w).2 := by
  revert h
  unfold wp
  rcases exec x env w with ⟨e | a, w'⟩ <;> exact id

theorem wp_and {x : Prog ρ σ ε β} {Q' : β → σ → Prop} {E' : ε → σ → Prop} (h : wp x env Q E w)
    (h' : wp x env Q' E' w) :
    wp x env (fun a w' => Q a w' ∧ Q' a w') (fun e w' => E e w' ∧ E' e w') w := by
  revert h h'
  unfold wp
  rcases exec x env w with ⟨e | a, w'⟩
  · exact And.intro
  · exact And.intro

end Assertions

end Ironsoft.Effect
