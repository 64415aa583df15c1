import Mathlib.Data.Nat.Basic
import Mathlib.Tactic.Convert
import Mathlib.Tactic.SplitIfs

/-!
# Copying rows between regions of memory

A picture is copied row by row: the pointers into the source and into the destination each advance
by a step of their own behind every row. A row that would leave one of the two regions is a fault.
The loops that do this are often unrolled, and then copy a whole number of groups of rows:
`loop_eq_rows` turns such a loop into a number of rows, `rows_isSome_iff` says when that many rows
stay inside, and `rows_copies` and `rows_frame` what the destination holds then.
-/

set_option autoImplicit false
set_option relaxedAutoImplicit false

namespace UvcRtmpStream.Foundations

variable {β : Type*}

/-- A region of memory: what is behind its first `size` places does not belong to it. -/
structure Region (β : Type*) where
  bytes : ℕ → β
  size : ℕ

/-- `count` places of the source are written over those of the region. -/
def Region.write (dest source : Region β) (destOffset sourceOffset count : ℕ) : Region β where
  bytes := fun place ↦
    if destOffset ≤ place ∧ place < destOffset + count then
      source.bytes (sourceOffset + (place - destOffset))
    else dest.bytes place
  size := dest.size

/-- What rows are copied from, how long they are, and how far the two pointers advance. -/
structure RowCopy (β : Type*) where
  source : Region β
  count : ℕ
  sourceStep : ℕ
  destStep : ℕ

/-- The two pointers, and the destination. -/
structure RowState (β : Type*) where
  sourceOffset : ℕ
  destOffset : ℕ
  dest : Region β

namespace RowCopy

/-- One row. There is no result where it leaves one of the regions. -/
def row (c : RowCopy β) (s : RowState β) : Option (RowState β) :=
  if s.sourceOffset + c.count ≤ c.source.size ∧ s.destOffset + c.count ≤ s.dest.size then
    some ⟨s.sourceOffset + c.sourceStep, s.destOffset + c.destStep,
      s.dest.write c.source s.destOffset s.sourceOffset c.count⟩
  else none

/-- Rows one after the other. -/
def rows (c : RowCopy β) : ℕ → RowState β → Option (RowState β)
  | 0, s => some s
  | number + 1, s => (c.row s).bind (c.rows number)

/-- A loop that counts up to `height` and copies `unroll` rows in each turn. -/
def loop (c : RowCopy β) (unroll height turn : ℕ) (s : RowState β) : Option (RowState β) :=
  if turn < height ∧ 0 < unroll then
    (c.rows unroll s).bind (c.loop unroll height (turn + unroll))
  else some s
termination_by height - turn

/-- Row `index` stays inside of both regions. -/
def RowFits (c : RowCopy β) (s : RowState β) (index : ℕ) : Prop :=
  s.sourceOffset + index * c.sourceStep + c.count ≤ c.source.size ∧
    s.destOffset + index * c.destStep + c.count ≤ s.dest.size

variable (c : RowCopy β)

theorem rows_add (first second : ℕ) (s : RowState β) :
    c.rows (first + second) s = (c.rows first s).bind (c.rows second) := by
  induction first generalizing s with
  | zero => rw [Nat.zero_add, rows, Option.bind_some]
  | succ first ih =>
    rw [Nat.succ_add, rows, rows, Option.bind_assoc]
    exact congrArg _ (funext ih)

/-- The number of groups of rows that reach a height. -/
def groups (unroll height : ℕ) : ℕ := (height + unroll - 1) / unroll

theorem groups_of_pos {unroll height : ℕ} (hunroll : 0 < unroll) (hheight : 0 < height) :
    groups unroll height = groups unroll (height - unroll) + 1 := by
  have hfirst : height + unroll - 1 = height - 1 + unroll := by omega
  have hrest : (height - unroll + unroll - 1) / unroll = (height - 1) / unroll := by
    by_cases hmore : unroll ≤ height
    · rw [Nat.sub_add_cancel hmore]
    · rw [Nat.div_eq_of_lt (by omega), Nat.div_eq_of_lt (by omega)]
  rw [groups, groups, hfirst, hrest, Nat.add_div_right _ hunroll]

/-- An unrolled loop copies whole groups of rows, as few as reach the height. -/
theorem loop_eq_rows {unroll : ℕ} (hunroll : 0 < unroll) (height turn : ℕ) (s : RowState β) :
    c.loop unroll height turn s = c.rows (unroll * groups unroll (height - turn)) s := by
  induction hleft : height - turn using Nat.strong_induction_on generalizing turn s with
  | _ left ih =>
    subst hleft
    by_cases hturn : turn < height
    · have hrest (t : RowState β) : c.loop unroll height (turn + unroll) t =
          c.rows (unroll * groups unroll (height - turn - unroll)) t := by
        rw [Nat.sub_sub]
        exact ih _ (by omega) (turn + unroll) t rfl
      have hgroups := groups_of_pos hunroll (by omega : 0 < height - turn)
      rw [loop, if_pos ⟨hturn, hunroll⟩, hgroups, Nat.mul_succ, Nat.add_comm (unroll * _), rows_add]
      exact congrArg _ (funext hrest)
    · have hnone : height - turn = 0 := by omega
      have hgroups : groups unroll 0 = 0 := Nat.div_eq_of_lt (by omega)
      rw [loop, if_neg fun h ↦ hturn h.1, hnone, hgroups, Nat.mul_zero, rows]

/-- The state behind a row. -/
def next (s : RowState β) : RowState β where
  sourceOffset := s.sourceOffset + c.sourceStep
  destOffset := s.destOffset + c.destStep
  dest := s.dest.write c.source s.destOffset s.sourceOffset c.count

theorem row_of_fits {s : RowState β} (h : c.RowFits s 0) : c.row s = some (c.next s) :=
  if_pos (by simpa [RowFits] using h)

theorem row_of_not_fits {s : RowState β} (h : ¬ c.RowFits s 0) : c.row s = none :=
  if_neg (by simpa [RowFits] using h)

/-- The rows behind the first one are the rows of the state behind it. -/
theorem rowFits_next (s : RowState β) (index : ℕ) :
    c.RowFits (c.next s) index ↔ c.RowFits s (index + 1) := by
  simp only [RowFits, next, Region.write, Nat.succ_mul]
  omega

/-- Rows stay inside exactly if each does. -/
theorem rows_isSome_iff (number : ℕ) (s : RowState β) :
    (c.rows number s).isSome ↔ ∀ index < number, c.RowFits s index := by
  induction number generalizing s with
  | zero => simp [rows]
  | succ number ih =>
    by_cases hfirst : c.RowFits s 0
    · rw [rows, row_of_fits c hfirst, Option.bind_some, ih]
      simp only [rowFits_next]
      constructor
      · intro h index hindex
        cases index with
        | zero => exact hfirst
        | succ index => exact h index (by omega)
      · exact fun h index hindex ↦ h (index + 1) (by omega)
    · rw [rows, row_of_not_fits c hfirst, Option.bind_none]
      exact iff_of_false Bool.false_ne_true fun h ↦ hfirst (h 0 (Nat.succ_pos _))

/-- What rows leave as it is. -/
theorem rows_frame {number : ℕ} {s t : RowState β} (h : c.rows number s = some t) :
    t.dest.size = s.dest.size ∧ ∀ place,
      (∀ index < number, place < s.destOffset + index * c.destStep ∨
        s.destOffset + index * c.destStep + c.count ≤ place) →
      t.dest.bytes place = s.dest.bytes place := by
  induction number generalizing s with
  | zero =>
    obtain rfl := Option.some.inj h
    exact ⟨rfl, fun _ _ ↦ rfl⟩
  | succ number ih =>
    by_cases hfirst : c.RowFits s 0
    · rw [rows, row_of_fits c hfirst, Option.bind_some] at h
      obtain ⟨hsize, hbytes⟩ := ih h
      refine ⟨hsize, fun place houtside ↦ ?_⟩
      have hzero := houtside 0 (Nat.succ_pos _)
      rw [Nat.zero_mul, Nat.add_zero] at hzero
      rw [hbytes place fun index hindex ↦ ?_]
      · exact if_neg (by omega)
      · have hlater := houtside (index + 1) (by omega)
        rw [Nat.succ_mul] at hlater
        simp only [next]
        omega
    · rw [rows, row_of_not_fits c hfirst] at h
      exact absurd h (Option.some_ne_none _).symm

/-- What rows copy, where they do not overlap. -/
theorem rows_copies {number : ℕ} {s t : RowState β} (h : c.rows number s = some t)
    (hapart : c.count ≤ c.destStep) {index column : ℕ} (hindex : index < number)
    (hcolumn : column < c.count) :
    t.dest.bytes (s.destOffset + index * c.destStep + column) =
      c.source.bytes (s.sourceOffset + index * c.sourceStep + column) := by
  induction number generalizing s index with
  | zero => omega
  | succ number ih =>
    by_cases hfirst : c.RowFits s 0
    · rw [rows, row_of_fits c hfirst, Option.bind_some] at h
      cases index with
      | zero =>
        -- no later row reaches the first one
        rw [(c.rows_frame h).2 _ fun later _ ↦ Or.inl ?_]
        · simp only [next, Region.write, Nat.zero_mul, Nat.add_zero]
          rw [if_pos (by omega), Nat.add_sub_cancel_left]
        · simp only [next]
          omega
      | succ index =>
        have hrow := ih h (by omega : index < number)
        simp only [next] at hrow
        rw [Nat.succ_mul, Nat.succ_mul]
        convert hrow using 2 <;> omega
    · rw [rows, row_of_not_fits c hfirst] at h
      exact absurd h (Option.some_ne_none _).symm

end RowCopy

end UvcRtmpStream.Foundations
