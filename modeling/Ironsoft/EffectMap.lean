import Ironsoft.EffectFrame

/-!
# Programs up to a map of the state

Two programs that do the same from a state and from its image under a map: they leave the
same result or exception, and the second one ends in the image of the state the first one
ends in. The property composes and is found by instance search.
-/
namespace Ironsoft.Effect

variable {ρ σ ε α β γ : Type}

class Maps (env : ρ) (h : σ → σ) (x y : Prog ρ σ ε α) : Prop where
  maps : ∀ w, exec y env (h w) = Prod.map id h (exec x env w)

/-- Two programs that are mapped to the same one differ by no more than the map hides. -/
theorem Maps.agree {env : ρ} {h : σ → σ} {x x' y : Prog ρ σ ε α} (hx : Maps env h x y)
    (hx' : Maps env h x' y) (w : σ) :
    Prod.map id h (exec x env w) = Prod.map id h (exec x' env w) := by
  rw [← hx.maps, ← hx'.maps]

section Composition

variable (env : ρ) (h : σ → σ)

instance (a : α) : Maps env h (pure a : Prog ρ σ ε α) (pure a) := ⟨fun _ => rfl⟩

instance (e : ε) : Maps env h (throw e : Prog ρ σ ε α) (throw e) := ⟨fun _ => rfl⟩

theorem maps_modify {f g : σ → σ} (hf : ∀ w, g (h w) = h (f w)) :
    Maps env h (modify f : Prog ρ σ ε PUnit) (modify g) :=
  ⟨fun w => congrArg (Prod.mk (Except.ok PUnit.unit)) (hf w)⟩

instance (x y : Prog ρ σ ε α) (f g : α → Prog ρ σ ε β) [hx : Maps env h x y]
    [hf : ∀ a, Maps env h (f a) (g a)] : Maps env h (x >>= f) (y >>= g) where
  maps w := by
    rw [exec_bind, exec_bind, hx.maps]
    rcases exec x env w with ⟨e | a, w'⟩
    · rfl
    · exact (hf a).maps w'

instance (priority := high) (f g : σ → Prog ρ σ ε β) [hf : ∀ w, Maps env h (f w) (g (h w))] :
    Maps env h (get >>= f) (get >>= g) where
  maps w := by
    rw [exec_bind, exec_bind, exec_get, exec_get]
    exact (hf w).maps w

theorem Maps.of_read {f g : ρ → Prog ρ σ ε β} (hf : Maps env h (f env) (g env)) :
    Maps env h (read >>= f) (read >>= g) where
  maps w := by
    rw [exec_bind, exec_bind, exec_read, exec_read]
    exact hf.maps w

instance (priority := high) (f g : ρ → Prog ρ σ ε β) [hf : Maps env h (f env) (g env)] :
    Maps env h (read >>= f) (read >>= g) := hf.of_read

instance (c : Prop) [Decidable c] (x x' y y' : Prog ρ σ ε α) [Maps env h x y] [Maps env h x' y'] :
    Maps env h (if c then x else x') (if c then y else y') := by
  split <;> assumption

instance (x y : Prog ρ σ ε α) (f g : ε → Prog ρ σ ε α) [hx : Maps env h x y]
    [hf : ∀ e, Maps env h (f e) (g e)] : Maps env h (tryCatch x f) (tryCatch y g) where
  maps w := by
    rw [exec_tryCatch, exec_tryCatch, hx.maps]
    rcases exec x env w with ⟨e | a, w'⟩
    · exact (hf e).maps w'
    · rfl

/-- The map neither looks at the part nor changes it. -/
class Part.Apart (P : Part σ γ) (h : σ → σ) : Prop where
  get_map : ∀ w, P.get (h w) = P.get w
  set_map : ∀ v w, P.set v (h w) = h (P.set v w)

instance (P : Part σ γ) (f : γ → γ) [hP : P.Apart h] :
    Maps env h (P.update f : Prog ρ σ ε PUnit) (P.update f) :=
  maps_modify env h fun w => by rw [hP.get_map, hP.set_map]

end Composition

end Ironsoft.Effect
