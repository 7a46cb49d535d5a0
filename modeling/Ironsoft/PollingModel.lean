import Mathlib.Data.Int.Notation
import Mathlib.Data.Nat.Notation
import Mathlib.Tactic.SplitIfs

/-!
# Polling against a timeout

A poller asks again as soon as it is looked at `interval` after its last answer. It is looked at
at least every `gap`, and first for how old its last answer has become.
-/
namespace Ironsoft.PollingModel

structure Poller where
  lastOk : ℤ
  next : ℤ

namespace Poller

/-- What a look at `t` leaves of a poller whose requests are answered at once. -/
def look (interval t : ℤ) (p : Poller) : Poller := if p.next ≤ t then ⟨t, t + interval⟩ else p

def Stale (grace t : ℤ) (p : Poller) : Prop := grace < t - p.lastOk

/-- The poller was looked at at `prev` and does not have to ask before `next`. -/
structure OnTime (interval prev : ℤ) (p : Poller) : Prop where
  answered : p.lastOk ≤ prev
  waits : prev < p.next
  asks : p.next ≤ p.lastOk + interval

variable {interval gap grace prev t : ℤ} {p : Poller}

theorem onTime_answered (hinterval : 0 < interval) (t : ℤ) : OnTime interval t ⟨t, t + interval⟩ := by
  constructor <;> dsimp only <;> omega

/-- A poller that is looked at often enough is never stale. -/
theorem OnTime.not_stale (h : OnTime interval prev p) (hgap : t ≤ prev + gap)
    (hgrace : interval + gap ≤ grace + 1) : ¬Stale grace t p := by
  have hwaits := h.waits
  have hasks := h.asks
  unfold Stale
  omega

end Poller

section Schedules

variable {interval gap grace : ℤ}

/-- The looks at `ts` follow one at `prev`, none later than `gap` after the one before. -/
def Spaced (gap : ℤ) : ℤ → List ℤ → Prop
  | _, [] => True
  | prev, t :: ts => prev ≤ t ∧ t ≤ prev + gap ∧ Spaced gap t ts

def NeverStale (interval grace : ℤ) : Poller → List ℤ → Prop
  | _, [] => True
  | p, t :: ts => ¬p.Stale grace t ∧ NeverStale interval grace (p.look interval t) ts

instance decidableSpaced (gap : ℤ) : ∀ prev ts, Decidable (Spaced gap prev ts)
  | _, [] => inferInstanceAs (Decidable True)
  | prev, t :: ts =>
    have := decidableSpaced gap t ts
    inferInstanceAs (Decidable (prev ≤ t ∧ t ≤ prev + gap ∧ Spaced gap t ts))

instance decidableNeverStale (interval grace : ℤ) :
    ∀ p ts, Decidable (NeverStale interval grace p ts)
  | _, [] => inferInstanceAs (Decidable True)
  | p, t :: ts =>
    have := decidableNeverStale interval grace (p.look interval t) ts
    inferInstanceAs (Decidable (¬grace < t - p.lastOk ∧
      NeverStale interval grace (p.look interval t) ts))

/-- The next `n` instants. -/
def ticks (t : ℤ) : ℕ → List ℤ
  | 0 => []
  | n + 1 => (t + 1) :: ticks (t + 1) n

theorem le_of_mem_ticks {t u : ℤ} {n : ℕ} (h : u ∈ ticks t n) : u ≤ t + n := by
  induction n generalizing t with
  | zero => exact absurd h List.not_mem_nil
  | succ n ih =>
    rcases List.mem_cons.mp h with rfl | h
    · omega
    · have hle := ih h
      omega

theorem spaced_ticks (hgap : 1 ≤ gap) {t u : ℤ} {n : ℕ} (hle : t + n ≤ u) (hge : u ≤ t + n + gap) :
    Spaced gap t (ticks t n ++ [u]) := by
  induction n generalizing t with
  | zero => exact ⟨by omega, by omega, trivial⟩
  | succ n ih => exact ⟨by omega, by omega, ih (by omega) (by omega)⟩

theorem Spaced.append {t u : ℤ} {ts us : List ℤ} (h : Spaced gap t (ts ++ [u]))
    (hus : Spaced gap u us) : Spaced gap t (ts ++ [u] ++ us) := by
  induction ts generalizing t with
  | nil => exact ⟨h.1, h.2.1, hus⟩
  | cons v ts ih => exact ⟨h.1, h.2.1, ih h.2.2⟩

theorem not_neverStale_ticks {p : Poller} {t u : ℤ} {n : ℕ} (hnext : t + n < p.next)
    (hstale : p.Stale grace u) : ¬NeverStale interval grace p (ticks t n ++ [u]) := by
  induction n generalizing t with
  | zero => exact fun h => h.1 hstale
  | succ n ih =>
    have hlook : p.look interval (t + 1) = p := if_neg (by omega)
    rintro ⟨-, h⟩
    change NeverStale interval grace (p.look interval (t + 1)) (ticks (t + 1) n ++ [u]) at h
    rw [hlook] at h
    exact ih (by omega) h

/-- A poller that may be looked at too late is stale on some schedule. -/
theorem exists_stale (hinterval : 0 < interval) (hgap : 1 ≤ gap) (hgrace : 0 ≤ grace)
    (hlate : grace + 1 < interval + gap) (t : ℤ) :
    ∃ ts, Spaced gap t ts ∧ ¬NeverStale interval grace ⟨t, t + interval⟩ ts := by
  obtain ⟨n, hn⟩ := Int.eq_ofNat_of_zero_le (show 0 ≤ min grace (interval - 1) by omega)
  refine ⟨ticks t n ++ [t + grace + 1], spaced_ticks hgap ?_ ?_, not_neverStale_ticks ?_ ?_⟩
  · omega
  · omega
  · dsimp only
    omega
  · unfold Poller.Stale
    dsimp only
    omega

end Schedules

end Ironsoft.PollingModel
