import Mathlib.Algebra.Order.Ring.Int
import Mathlib.Data.Int.Interval
import Mathlib.Data.List.Nodup
import Mathlib.Tactic.Ring

/-!
# Counting the cells of a grid in a window

Time is cut into cells of one period, and each of some moments is in another cell. Then no more
moments fit into a window than the whole periods in it and two (`length_le_of_distinct_cells`): a
window touches at most one cell more than it has whole periods at either end.

A length that is measured in whole units is the other way to count: so many periods of so many whole
units make up a width, or do not, by what the two roundings lose and gain
(`mul_le_ediv_mul_iff`).
-/

set_option autoImplicit false
set_option relaxedAutoImplicit false

namespace UvcRtmpStream.Foundations

/-- Distinct integers between two bounds. -/
theorem length_le_of_nodup_of_mem_Icc {l : List ℤ} (hnodup : l.Nodup) {low high : ℤ}
    (hlow : low ≤ high + 1) (h : ∀ i ∈ l, low ≤ i ∧ i ≤ high) :
    (l.length : ℤ) ≤ high + 1 - low := by
  have hsub : l.toFinset ⊆ Finset.Icc low high := fun i hi ↦
    Finset.mem_Icc.mpr (h i (List.mem_toFinset.mp hi))
  have hcard := Finset.card_le_card hsub
  rw [List.toFinset_card_of_nodup hnodup, Int.card_Icc] at hcard
  omega

/-- The cells of two moments are at most the whole periods between them and one apart. -/
theorem ediv_add_le {period : ℤ} (hperiod : 0 < period) (moment width : ℤ) :
    (moment + width) / period ≤ moment / period + width / period + 1 := by
  have hmoment := Int.lt_ediv_add_one_mul_self moment hperiod
  have hwidth := Int.lt_ediv_add_one_mul_self width hperiod
  have hlt : (moment + width) / period < moment / period + width / period + 2 := by
    refine Int.ediv_lt_of_lt_mul hperiod ?_
    calc moment + width
        < (moment / period + 1) * period + (width / period + 1) * period := by omega
      _ = (moment / period + width / period + 2) * period := by ring
  omega

/-- Moments in distinct cells that lie in one window. -/
theorem length_le_of_distinct_cells {period width last : ℤ} (hperiod : 0 < period)
    (hwidth : 0 ≤ width) {moments : List ℤ} (hnodup : (moments.map (· / period)).Nodup)
    (h : ∀ moment ∈ moments, last - width ≤ moment ∧ moment ≤ last) :
    (moments.length : ℤ) ≤ width / period + 2 := by
  have hspan := ediv_add_le hperiod (last - width) width
  rw [Int.sub_add_cancel] at hspan
  have horder : (last - width) / period ≤ last / period := Int.ediv_le_ediv hperiod (by omega)
  have hcount := length_le_of_nodup_of_mem_Icc hnodup
    (by omega : (last - width) / period ≤ last / period + 1) fun cell hcell ↦ by
      obtain ⟨moment, hmoment, rfl⟩ := List.mem_map.mp hcell
      obtain ⟨hfirst, hlast⟩ := h moment hmoment
      exact ⟨Int.ediv_le_ediv hperiod hfirst, Int.ediv_le_ediv hperiod hlast⟩
  rw [List.length_map] at hcount
  omega

/-! ### Periods of whole units -/

section Units

variable {unit period : ℤ}

/-- So many periods cover a width, counted in whole units, if what the rounding of the count loses
is made up for by what the rounding of the period gains. -/
theorem mul_le_ediv_mul_iff (unit period width : ℤ) :
    unit * width ≤ width / (period / unit) * period ↔
      unit * (width % (period / unit)) ≤ width / (period / unit) * (period % unit) := by
  have hwidth := Int.mul_ediv_add_emod width (period / unit)
  have hperiod := Int.mul_ediv_add_emod period unit
  have hleft : unit * width = unit * (period / unit * (width / (period / unit))) +
      unit * (width % (period / unit)) := by
    rw [← mul_add, hwidth]
  have hright : width / (period / unit) * period =
      unit * (period / unit * (width / (period / unit))) +
        width / (period / unit) * (period % unit) := by
    calc width / (period / unit) * period
        = width / (period / unit) * (unit * (period / unit) + period % unit) := by rw [hperiod]
      _ = unit * (period / unit * (width / (period / unit))) +
          width / (period / unit) * (period % unit) := by ring
  rw [hleft, hright]
  exact add_le_add_iff_left _

/-- One period more covers any width. -/
theorem mul_lt_ediv_add_one_mul {width : ℤ} (hunit : 0 < unit) (hperiod : unit ≤ period)
    (hwidth : 0 ≤ width) : unit * width < (width / (period / unit) + 1) * period := by
  have hunits : 1 ≤ period / unit :=
    (Int.le_ediv_iff_mul_le hunit).mpr ((one_mul unit).le.trans hperiod)
  have hcount : 0 ≤ width / (period / unit) + 1 :=
    Int.add_nonneg (Int.ediv_nonneg hwidth (by omega)) Int.one_nonneg
  calc unit * width
      < unit * ((width / (period / unit) + 1) * (period / unit)) :=
        Int.mul_lt_mul_of_pos_left (Int.lt_ediv_add_one_mul_self width (by omega)) hunit
    _ = (width / (period / unit) + 1) * (period / unit * unit) := by ring
    _ ≤ (width / (period / unit) + 1) * period :=
        Int.mul_le_mul_of_nonneg_left (Int.ediv_mul_le period (by omega)) hcount

end Units

end UvcRtmpStream.Foundations
