import Mathlib.Data.Int.Notation
import Mathlib.Data.Nat.Notation

/-!
# A shared backoff

A delay that doubles with every failure in a row, up to a cap. Two loops that share it see the
delays of the failures of both; how far that shows is decided by their counts.
-/
namespace Ironsoft.BackoffModel

/-- The delay after `n` failures in a row. -/
def delay (base cap : ℤ) (n : ℕ) : ℤ := min (base * Nat.pow 2 n) cap

section Delay

variable {base cap : ℤ}

theorem delay_zero (h : base ≤ cap) : delay base cap 0 = base := by
  change min (base * 1) cap = base
  omega

theorem delay_succ (hcap : 0 ≤ cap) (n : ℕ) :
    delay base cap (n + 1) = min (delay base cap n * 2) cap := by
  have hpow : base * (Nat.pow 2 (n + 1) : ℕ) = base * (Nat.pow 2 n : ℕ) * 2 := by
    rw [Int.mul_assoc]
    rfl
  unfold delay
  rw [hpow]
  omega

theorem delay_pos (hbase : 0 < base) (hcap : 0 < cap) (n : ℕ) : 0 < delay base cap n := by
  have hpow : 0 < base * (Nat.pow 2 n : ℕ) :=
    Int.mul_pos hbase (Int.natCast_pos.mpr (Nat.pow_pos (by decide)))
  unfold delay
  omega

/-- The cap is reached. -/
theorem delay_eq_cap (hbase : 0 < base) : delay base cap cap.toNat = cap := by
  have hpow : cap.toNat < Nat.pow 2 cap.toNat := Nat.lt_two_pow_self
  have hle : 1 * (Nat.pow 2 cap.toNat : ℕ) ≤ base * (Nat.pow 2 cap.toNat : ℕ) :=
    Int.mul_le_mul_of_nonneg_right hbase (Int.natCast_nonneg _)
  unfold delay
  omega

/-- Doubling goes on growing until the cap is reached. -/
theorem delay_eq_iff_of_lt (hbase : 0 < base) {m n : ℕ} (h : m < n) :
    delay base cap m = delay base cap n ↔ cap ≤ base * Nat.pow 2 m := by
  have hgrows : base * (Nat.pow 2 m : ℕ) < base * (Nat.pow 2 n : ℕ) :=
    Int.mul_lt_mul_of_pos_left (Int.ofNat_lt.mpr (Nat.pow_lt_pow_right (by decide) h)) hbase
  unfold delay
  omega

theorem delay_eq_iff (hbase : 0 < base) {m n : ℕ} :
    delay base cap m = delay base cap n ↔ m = n ∨ cap ≤ base * Nat.pow 2 (min m n) := by
  rcases Nat.lt_trichotomy m n with h | rfl | h
  · have hmin : min m n = m := Nat.min_eq_left (Nat.le_of_lt h)
    rw [delay_eq_iff_of_lt hbase h, hmin, or_iff_right (Nat.ne_of_lt h)]
  · exact ⟨fun _ => .inl rfl, fun _ => rfl⟩
  · have hmin : min m n = n := Nat.min_eq_right (Nat.le_of_lt h)
    rw [eq_comm, delay_eq_iff_of_lt hbase h, hmin, or_iff_right (Nat.ne_of_gt h)]

end Delay

/-- An attempt of the loop that is looked at, or of the one it shares the backoff with. -/
inductive Attempt
  | own (succeeded : Bool)
  | other (succeeded : Bool)
  deriving DecidableEq

def Attempt.succeeded : Attempt → Bool
  | own b | other b => b

/-- Failures of the loop itself since its last success, and of both loops since the last success
of either. -/
structure Failures where
  own : ℕ := 0
  shared : ℕ := 0
  deriving DecidableEq

namespace Failures

def count (f : Failures) : Attempt → Failures
  | .own true => {}
  | .own false => { own := f.own + 1, shared := f.shared + 1 }
  | .other true => { f with shared := 0 }
  | .other false => { f with shared := f.shared + 1 }

/-- The delay the loops share is the one the loop would have alone. -/
def Alone (base cap : ℤ) (f : Failures) : Prop :=
  f.shared = f.own ∨ cap ≤ base * Nat.pow 2 (min f.shared f.own)

instance (base cap : ℤ) (f : Failures) : Decidable (f.Alone base cap) :=
  inferInstanceAs (Decidable (_ ∨ _))

theorem alone_iff {base cap : ℤ} (hbase : 0 < base) (f : Failures) :
    delay base cap f.shared = delay base cap f.own ↔ f.Alone base cap := delay_eq_iff hbase

/-- A backoff that is doubled by each failure and reset by each success follows the shared count. -/
theorem delay_count {base cap : ℤ} (hbase : base ≤ cap) (hcap : 0 ≤ cap) (f : Failures)
    (a : Attempt) :
    delay base cap (f.count a).shared =
      if a.succeeded then base else min (delay base cap f.shared * 2) cap := by
  rcases a with ⟨_ | _⟩ | ⟨_ | _⟩
  · exact delay_succ hcap f.shared
  · exact delay_zero hbase
  · exact delay_succ hcap f.shared
  · exact delay_zero hbase

end Failures

end Ironsoft.BackoffModel
