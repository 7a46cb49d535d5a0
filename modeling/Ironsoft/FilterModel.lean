import Mathlib.Data.List.Forall2

/-!
# Topic filters

A topic is a list of levels. A level of a filter stands for itself, for any one level, or, at the
end, for all levels that are left. Text with a wildcard in any other place is no filter.
-/
namespace Ironsoft.FilterModel

variable {α : Type}

structure Wildcards (α : Type) where
  sep : α
  single : α
  multi : α

inductive Pattern (α : Type)
  | exactly (level : List α)
  | single
  | multi

def matchLevels [DecidableEq α] : List (Pattern α) → List (List α) → Bool
  | [], [] => true
  | [], _ :: _ => false
  | .multi :: _, _ => true
  | .single :: _, [] => false
  | .exactly _ :: _, [] => false
  | .single :: patterns, _ :: levels => matchLevels patterns levels
  | .exactly level :: patterns, level' :: levels => level = level' ∧ matchLevels patterns levels

section Covers

variable (c : Wildcards α)

/-- What one level of a filter matches. -/
def Covers (level level' : List α) : Prop :=
  level = [c.single] ∨ (level = level' ∧ c.single ∉ level ∧ c.multi ∉ level)

/-- A level without wildcards. -/
def Plain (level : List α) : Prop := c.single ∉ level ∧ c.multi ∉ level

theorem Plain.covers_iff {level level' : List α} (h : Plain c level) :
    Covers c level level' ↔ level = level' := by
  have hs : level ≠ [c.single] := by
    rintro rfl
    exact h.1 (by simp)
  simp [Covers, hs, h.1, h.2]

end Covers

section Read

variable [DecidableEq α] (c : Wildcards α)

def readLevel (level : List α) : Option (Pattern α) :=
  if level = [c.single] then some .single
  else if c.single ∈ level ∨ c.multi ∈ level then none
  else some (.exactly level)

def readLevels : List (List α) → Option (List (Pattern α))
  | [] => some []
  | level :: levels =>
    if level = [c.multi] ∧ levels = [] then some [.multi]
    else (readLevel c level).bind fun pattern => (readLevels levels).map (pattern :: ·)

def levels (topic : List α) : List (List α) := topic.splitOn c.sep

/-- What is no filter matches nothing. -/
def matchRead (filter topic : List (List α)) : Bool :=
  match readLevels c filter with
  | some patterns => matchLevels patterns topic
  | none => false

def matchTopic (filter topic : List α) : Bool := matchRead c (levels c filter) (levels c topic)

theorem levels_append (head tail : List α) :
    levels c (head ++ c.sep :: tail) = levels c head ++ levels c tail :=
  List.splitOn_append_cons_self head tail

theorem levels_of_not_mem {level : List α} (h : c.sep ∉ level) : levels c level = [level] :=
  List.splitOn_eq_singleton h

theorem levels_injective : Function.Injective (levels c) := by
  intro topic topic' h
  have hjoin := congrArg ([c.sep].intercalate ·) h
  simpa [levels] using hjoin

instance (level level' : List α) : Decidable (Covers c level level') :=
  inferInstanceAs (Decidable (_ ∨ _))

theorem matchRead_nil (topic : List (List α)) : matchRead c [] topic = true ↔ topic = [] := by
  cases topic <;> simp [matchRead, readLevels, matchLevels]

theorem matchRead_cons {level : List α} {filter : List (List α)} (topic : List (List α))
    (h : ¬ (level = [c.multi] ∧ filter = [])) :
    matchRead c (level :: filter) topic = true ↔
      ∃ level' rest, topic = level' :: rest ∧ Covers c level level' ∧ matchRead c filter rest = true := by
  simp only [matchRead, readLevels, if_neg h, Covers, readLevel]
  cases hf : readLevels c filter with
  | none => split_ifs <;> simp
  | some patterns =>
    by_cases hs : level = [c.single]
    · cases topic <;> simp [hs, matchLevels]
    · by_cases hw : c.single ∈ level ∨ c.multi ∈ level
      · have hn : ¬ (c.single ∉ level ∧ c.multi ∉ level) := fun hn => hw.elim hn.1 hn.2
        simp [hs, hw, hn]
      · have hn : c.single ∉ level ∧ c.multi ∉ level := not_or.mp hw
        cases topic <;> simp [hs, hn, matchLevels]

/-- Level by level. -/
theorem matchRead_iff {filter : List (List α)} (topic : List (List α))
    (h : filter.getLast? ≠ some [c.multi]) :
    matchRead c filter topic = true ↔ List.Forall₂ (Covers c) filter topic := by
  induction filter generalizing topic with
  | nil => rw [matchRead_nil, List.forall₂_nil_left_iff]
  | cons level filter ih =>
    have hlast : ¬ (level = [c.multi] ∧ filter = []) := by
      rintro ⟨rfl, rfl⟩
      exact h rfl
    have hrest : filter.getLast? ≠ some [c.multi] := by
      cases filter with
      | nil => simp
      | cons level' filter => simpa using h
    rw [matchRead_cons c topic hlast, List.forall₂_cons_left_iff]
    constructor
    · rintro ⟨level', rest, rfl, hc, hm⟩
      exact ⟨level', rest, hc, (ih rest hrest).mp hm, rfl⟩
    · rintro ⟨level', rest, hc, hm, rfl⟩
      exact ⟨level', rest, rfl, hc, (ih rest hrest).mpr hm⟩

theorem forall₂_snoc {β γ : Type} {R : β → γ → Prop} {xs : List β} {ys : List γ} {x : β} {y : γ} :
    List.Forall₂ R (xs ++ [x]) (ys ++ [y]) ↔ List.Forall₂ R xs ys ∧ R x y := by
  rw [← List.forall₂_reverse_iff, List.reverse_concat, List.reverse_concat, List.forall₂_cons,
    List.forall₂_reverse_iff, and_comm]

instance (level : List α) : Decidable (Plain c level) := inferInstanceAs (Decidable (_ ∧ _))

end Read

end Ironsoft.FilterModel
