import Mathlib.Data.Int.Notation
import Mathlib.Data.List.Pairwise

/-!
# Timers

A timer that fires when it is due, and is not due again before a period is over, fires at times
that are a period apart, wherever it is put off to in between.
-/
namespace Ironsoft.PacingModel

variable {period due start t : ℤ} {times : List ℤ}

/-- The times, newest first, are a period apart. -/
def Paced (period : ℤ) (times : List ℤ) : Prop :=
  times.Pairwise fun newer older => older + period ≤ newer

/-- The timer that has fired at `times` is not due before `due`. -/
structure Timer (period due : ℤ) (times : List ℤ) : Prop where
  paced : Paced period times
  waits : ∀ t ∈ times, t + period ≤ due

namespace Timer

theorem new (period due : ℤ) : Timer period due [] := ⟨.nil, fun _ h => absurd h List.not_mem_nil⟩

theorem postpone {due' : ℤ} (h : Timer period due times) (hdue : due ≤ due') :
    Timer period due' times :=
  ⟨h.paced, fun t ht => Int.le_trans (h.waits t ht) hdue⟩

theorem paced_fire (h : Timer period due times) (ht : due ≤ t) : Paced period (t :: times) :=
  List.pairwise_cons.mpr ⟨fun u hu => Int.le_trans (h.waits u hu) ht, h.paced⟩

theorem fire (h : Timer period due times) (ht : due ≤ t) (hperiod : 0 ≤ period) :
    Timer period (t + period) (t :: times) := by
  refine ⟨h.paced_fire ht, fun u hu => ?_⟩
  rcases List.mem_cons.mp hu with rfl | hu
  · exact Int.le_refl _
  · have hwaits := h.waits u hu
    omega

end Timer

/-- Times that are a period apart fall into different periods. -/
theorem Paced.tdiv (h : Paced period times) (hperiod : 0 < period)
    (hstart : ∀ t ∈ times, start ≤ t) :
    times.Pairwise fun newer older => (older - start).tdiv period < (newer - start).tdiv period := by
  refine h.imp_of_mem fun {newer older} hnewer holder hapart => ?_
  have hnewer := hstart newer hnewer
  have holder := hstart older holder
  rw [Int.tdiv_eq_ediv_of_nonneg (by omega), Int.tdiv_eq_ediv_of_nonneg (by omega)]
  have hstep : (older - start) / period + 1 = (older - start + period) / period := by
    rw [Int.add_ediv_of_dvd_right (Int.dvd_refl period), Int.ediv_self (Int.ne_of_gt hperiod)]
  have hle : (older - start + period) / period ≤ (newer - start) / period :=
    Int.ediv_le_ediv hperiod (by omega)
  omega

end Ironsoft.PacingModel
