import Ironsoft.EffectFrame

/-!
# Runs

A run executes steps one after the other until one of them is left by an exception. An
invariant is proved for one step and then holds in the state the run ends in, also when
the steps only preserve it under a condition on the state they start from, or when an
exception leaves less of it.
-/
namespace Ironsoft.Effect

variable {σ ε τ : Type}

def execAll (step : τ → σ → Except ε Unit × σ) : List τ → σ → Except ε Unit × σ
  | [], w => (.ok (), w)
  | t :: ts, w =>
    match step t w with
    | (.ok _, w') => execAll step ts w'
    | (.error e, w') => (.error e, w')

/-- Every step that is executed meets `C`. -/
def AllSteps (step : τ → σ → Except ε Unit × σ) (C : τ → σ → Prop) : List τ → σ → Prop
  | [], _ => True
  | t :: ts, w =>
    C t w ∧ match step t w with
      | (.ok _, w') => AllSteps step C ts w'
      | (.error _, _) => True

instance decidableAllSteps (step : τ → σ → Except ε Unit × σ) (C : τ → σ → Prop)
    [∀ t w, Decidable (C t w)] : ∀ ts w, Decidable (AllSteps step C ts w)
  | [], _ => inferInstanceAs (Decidable True)
  | t :: ts, w =>
    have : Decidable (match step t w with
        | (.ok _, w') => AllSteps step C ts w'
        | (.error _, _) => True) :=
      match step t w with
      | (.ok _, w') => decidableAllSteps step C ts w'
      | (.error _, _) => inferInstanceAs (Decidable True)
    inferInstanceAs (Decidable (_ ∧ _))

variable (step : τ → σ → Except ε Unit × σ) {C : τ → σ → Prop} {I : σ → Prop}

/-- `I` holds if a step has returned, `J` if an exception has left it. -/
def Leaves (I J : σ → Prop) : Except ε Unit × σ → Prop
  | (.ok _, w) => I w
  | (.error _, w) => J w

theorem leaves_self_iff {r : Except ε Unit × σ} : Leaves I I r ↔ I r.2 := by
  rcases r with ⟨_ | _, w⟩ <;> exact Iff.rfl

theorem leaves_exec_iff {ρ : Type} {env : ρ} {J : σ → Prop} {x : Prog ρ σ ε Unit} {w : σ} :
    Leaves I J (exec x env w) ↔ wp x env (fun _ => I) (fun _ => J) w := by
  unfold wp
  rcases exec x env w with ⟨_ | _, w'⟩ <;> exact Iff.rfl

theorem Leaves.returns {r : Except ε Unit × σ} (h : Leaves I (fun _ => False) r) :
    ∃ w, r = (.ok (), w) ∧ I w := by
  rcases r with ⟨_ | ⟨⟩, w⟩
  · exact h.elim
  · exact ⟨w, rfl, h⟩

theorem execAll_leaves {J : σ → Prop} (hstep : ∀ t w, C t w → I w → Leaves I J (step t w))
    {ts : List τ} {w : σ} (hC : AllSteps step C ts w) (hw : I w) :
    Leaves I J (execAll step ts w) := by
  induction ts generalizing w with
  | nil => exact hw
  | cons t ts ih =>
    obtain ⟨ht, hts⟩ := hC
    have hI := hstep t w ht hw
    unfold execAll
    revert hts hI
    rcases step t w with ⟨_ | _, w'⟩
    · exact fun _ hJ => hJ
    · exact fun hts hI => ih hts hI

theorem execAll_invariant (hstep : ∀ t w, C t w → I w → I (step t w).2) {ts : List τ} {w : σ}
    (hC : AllSteps step C ts w) (hw : I w) : I (execAll step ts w).2 :=
  leaves_self_iff.mp
    (execAll_leaves step (fun t w ht hI => leaves_self_iff.mpr (hstep t w ht hI)) hC hw)

/-- What an invariant and the condition of a step give for it holds of every step. -/
theorem AllSteps.of_invariant {P : τ → σ → Prop}
    (hstep : ∀ t w, C t w → I w → I (step t w).2 ∧ P t w) {ts : List τ} {w : σ}
    (hC : AllSteps step C ts w) (hw : I w) : AllSteps step P ts w := by
  induction ts generalizing w with
  | nil => trivial
  | cons t ts ih =>
    obtain ⟨ht, hts⟩ := hC
    have hI := hstep t w ht hw
    refine ⟨hI.2, ?_⟩
    revert hts hI
    rcases step t w with ⟨_ | _, w'⟩
    · exact fun _ _ => trivial
    · exact fun hts hI => ih hts hI.1

/-- Two conditions that agree on a step as long as the invariant holds, and that carry it on, agree on
a run. -/
theorem AllSteps.iff_of_invariant {P Q : τ → σ → Prop}
    (hstep : ∀ t w, C t w → I w → (P t w ↔ Q t w) ∧ (Q t w → I (step t w).2)) {ts : List τ} {w : σ}
    (hC : AllSteps step C ts w) (hw : I w) : AllSteps step P ts w ↔ AllSteps step Q ts w := by
  induction ts generalizing w with
  | nil => exact Iff.rfl
  | cons t ts ih =>
    obtain ⟨ht, hts⟩ := hC
    obtain ⟨hagree, hnext⟩ := hstep t w ht hw
    refine (and_congr_left' hagree).trans (and_congr_right fun hQ => ?_)
    have hI := hnext hQ
    revert hts hI
    rcases step t w with ⟨_ | _, w'⟩
    · exact fun _ _ => Iff.rfl
    · exact fun hts hI => ih hts hI

/-- The exception that ends a run is thrown by one of its steps. -/
theorem execAll_error {ts : List τ} {w w' : σ} {e : ε}
    (h : execAll step ts w = (.error e, w')) : ∃ t ∈ ts, ∃ v, step t v = (.error e, w') := by
  induction ts generalizing w with
  | nil => simp [execAll] at h
  | cons t ts ih =>
    unfold execAll at h
    rcases hs : step t w with ⟨e' | u, v⟩
    · rw [hs] at h
      exact ⟨t, List.mem_cons_self, w, by rw [hs]; exact h⟩
    · rw [hs] at h
      obtain ⟨t', ht', hv⟩ := ih h
      exact ⟨t', List.mem_cons_of_mem _ ht', hv⟩

theorem execAll_returns {ts : List τ} (h : ∀ t ∈ ts, ∀ v, ∃ v', step t v = (.ok (), v')) (w : σ) :
    ∃ w', execAll step ts w = (.ok (), w') := by
  rcases hx : execAll step ts w with ⟨e | ⟨⟩, w'⟩
  · obtain ⟨t, ht, v, hv⟩ := execAll_error step hx
    obtain ⟨v', hv'⟩ := h t ht v
    rw [hv] at hv'
    cases hv'
  · exact ⟨w', rfl⟩

theorem allSteps_of_forall {ts : List τ} {w : σ} (h : ∀ t ∈ ts, ∀ v, C t v) :
    AllSteps step C ts w := by
  induction ts generalizing w with
  | nil => trivial
  | cons t ts ih =>
    refine ⟨h t List.mem_cons_self w, ?_⟩
    rcases step t w with ⟨_ | _, w'⟩
    · trivial
    · exact ih fun t' ht' => h t' (List.mem_cons_of_mem _ ht')

theorem AllSteps.and_forall {P : τ → Prop} {ts : List τ} {w : σ} (hP : ∀ t ∈ ts, P t)
    (h : AllSteps step C ts w) : AllSteps step (fun t v => P t ∧ C t v) ts w := by
  induction ts generalizing w with
  | nil => trivial
  | cons t ts ih =>
    obtain ⟨ht, hts⟩ := h
    obtain ⟨hPt, hPts⟩ := List.forall_mem_cons.mp hP
    refine ⟨⟨hPt, ht⟩, ?_⟩
    revert hts
    rcases step t w with ⟨_ | _, w'⟩
    · exact fun _ => trivial
    · exact ih hPts

theorem AllSteps.cons {t : τ} {ts : List τ} {w : σ} (ht : C t w)
    (hts : AllSteps step C ts (step t w).2) : AllSteps step C (t :: ts) w := by
  refine ⟨ht, ?_⟩
  revert hts
  rcases step t w with ⟨_ | _, w'⟩
  · exact fun _ => trivial
  · exact id

/-- A run of two parts. -/
theorem execAll_append (ts us : List τ) (w : σ) :
    execAll step (ts ++ us) w = match execAll step ts w with
      | (.ok _, w') => execAll step us w'
      | (.error e, w') => (.error e, w') := by
  induction ts generalizing w with
  | nil => rfl
  | cons t ts ih =>
    simp only [List.cons_append, execAll]
    rcases step t w with ⟨_ | _, w'⟩
    · rfl
    · exact ih w'

/-- A step with a monitor beside it, which notes what the step has done. -/
def monitored {μ : Type} (note : τ → σ → σ → μ → μ) (t : τ) (p : σ × μ) :
    Except ε Unit × (σ × μ) :=
  ((step t p.1).1, (step t p.1).2, note t p.1 (step t p.1).2 p.2)

theorem leaves_monitored_iff {μ : Type} {note : τ → σ → σ → μ → μ} {J I : σ × μ → Prop} {t : τ} {w : σ}
    {m : μ} : Leaves I J (monitored step note t (w, m)) ↔
      Leaves (fun w' => I (w', note t w w' m)) (fun w' => J (w', note t w w' m)) (step t w) := by
  unfold monitored
  rcases step t w with ⟨_ | _, w'⟩ <;> exact Iff.rfl

/-- A monitor does not change the run beside it. -/
theorem execAll_monitored {μ : Type} (note : τ → σ → σ → μ → μ) (ts : List τ) (w : σ) (m : μ) :
    (execAll (monitored step note) ts (w, m)).2.1 = (execAll step ts w).2 := by
  induction ts generalizing w m with
  | nil => rfl
  | cons t ts ih =>
    unfold execAll monitored
    rcases step t w with ⟨_ | _, w'⟩
    · rfl
    · exact ih w' _

theorem AllSteps.monitored {μ : Type} {note : τ → σ → σ → μ → μ} {ts : List τ} {w : σ} {m : μ}
    (h : AllSteps step C ts w) : AllSteps (monitored step note) (fun t p => C t p.1) ts (w, m) := by
  induction ts generalizing w m with
  | nil => trivial
  | cons t ts ih =>
    obtain ⟨ht, hts⟩ := h
    refine ⟨ht, ?_⟩
    revert hts
    unfold Effect.monitored
    rcases step t w with ⟨_ | _, w'⟩
    · exact fun _ => trivial
    · exact fun hts => ih hts

variable {ρ α : Type} {env : ρ} {run : τ → Prog ρ σ ε Unit}

/-- From every state, `x` does what the steps of some run do. -/
class IsRun (env : ρ) (run : τ → Prog ρ σ ε Unit) (x : Prog ρ σ ε Unit) : Prop where
  steps : ∀ w, ∃ ts, exec x env w = execAll (fun t => exec (run t) env) ts w

theorem isRun_step (t : τ) : IsRun env run (run t) := by
  refine ⟨fun w => ⟨[t], ?_⟩⟩
  unfold execAll execAll
  rcases exec (run t) env w with ⟨_ | _, _⟩ <;> rfl

instance : IsRun env run (pure () : Prog ρ σ ε Unit) := ⟨fun _ => ⟨[], rfl⟩⟩

instance (x : Prog ρ σ ε Unit) (f : Unit → Prog ρ σ ε Unit) [hx : IsRun env run x]
    [hf : ∀ u, IsRun env run (f u)] : IsRun env run (x >>= f) where
  steps w := by
    obtain ⟨ts, hts⟩ := hx.steps w
    rcases hw : exec x env w with ⟨e | u, w'⟩
    · refine ⟨ts, ?_⟩
      rw [exec_bind, ← hts, hw]
    · obtain ⟨us, hus⟩ := (hf u).steps w'
      refine ⟨ts ++ us, ?_⟩
      rw [exec_bind, execAll_append, ← hts, hw]
      exact hus

instance (f : σ → Prog ρ σ ε Unit) [hf : ∀ w, IsRun env run (f w)] :
    IsRun env run (get >>= f) where
  steps w := by
    rw [exec_bind, exec_get]
    exact (hf w).steps w

instance (c : Prop) [Decidable c] (x y : Prog ρ σ ε Unit) [IsRun env run x] [IsRun env run y] :
    IsRun env run (if c then x else y) := by
  split <;> assumption

end Ironsoft.Effect
