import Mathlib.Data.Nat.Notation

/-!
# Streaks

Two counters over a trace of good and bad marks: one of the good marks in a row, and one of the
bad marks that is cleared when the other is long enough. Both stop at a cap. Traces are newest
first.
-/
namespace Ironsoft.StreakModel

structure Streaks where
  fails : ℕ
  oks : ℕ
  deriving DecidableEq

variable (cap threshold : ℕ)

def countTo (n : ℕ) : ℕ := if n < cap then n + 1 else n

def Streaks.mark (s : Streaks) (bad : Bool) : Streaks :=
  if bad then ⟨countTo cap s.fails, 0⟩
  else ⟨if threshold ≤ countTo cap s.oks then 0 else s.fails, countTo cap s.oks⟩

/-- The good marks in a row at the end of a trace. -/
def trailing : List Bool → ℕ
  | [] => 0
  | bad :: marks => if bad then 0 else trailing marks + 1

/-- The marks since the last point at which enough good marks in a row had just been seen. -/
def recent : List Bool → List Bool
  | [] => []
  | bad :: marks => if threshold ≤ trailing (bad :: marks) then [] else bad :: recent marks

def badSince (marks : List Bool) : ℕ := (recent threshold marks).count true

variable {cap threshold}

theorem badSince_bad (h : 0 < threshold) (marks : List Bool) :
    badSince threshold (true :: marks) = badSince threshold marks + 1 := by
  have hn : ¬ threshold ≤ trailing (true :: marks) := by
    simp only [trailing, if_true]
    omega
  rw [badSince, recent, if_neg hn, List.count_cons_self]
  rfl

theorem badSince_good (marks : List Bool) :
    badSince threshold (false :: marks) =
      if threshold ≤ trailing (false :: marks) then 0 else badSince threshold marks := by
  by_cases h : threshold ≤ trailing (false :: marks)
  · simp [badSince, recent, h]
  · rw [badSince, recent, if_neg h, if_neg h, List.count_cons_of_ne (by decide)]
    rfl

theorem countTo_min (n : ℕ) : countTo cap (min n cap) = min (n + 1) cap := by
  by_cases h : n < cap
  · have hmin : min n cap = n := by omega
    rw [hmin, countTo, if_pos h]
    omega
  · have hmin : min n cap = cap := by omega
    rw [hmin, countTo, if_neg (Nat.lt_irrefl cap)]
    omega

/-- One more mark. -/
theorem mark_counts (h : 0 < threshold) (hcap : threshold ≤ cap) (marks : List Bool) (bad : Bool) :
    Streaks.mark cap threshold ⟨min (badSince threshold marks) cap, min (trailing marks) cap⟩ bad =
      ⟨min (badSince threshold (bad :: marks)) cap, min (trailing (bad :: marks)) cap⟩ := by
  cases bad with
  | true =>
    have ht : trailing (true :: marks) = 0 := rfl
    rw [badSince_bad h, ht, Nat.zero_min]
    simp only [Streaks.mark, if_true, countTo_min]
  | false =>
    have ht : trailing (false :: marks) = trailing marks + 1 := rfl
    rw [badSince_good, ht]
    simp only [Streaks.mark, Bool.false_eq_true, if_false, countTo_min]
    by_cases hc : threshold ≤ trailing marks + 1
    · have hc' : threshold ≤ min (trailing marks + 1) cap := by omega
      rw [if_pos hc, if_pos hc', Nat.zero_min]
    · have hc' : ¬ threshold ≤ min (trailing marks + 1) cap := by omega
      rw [if_neg hc, if_neg hc']

end Ironsoft.StreakModel
