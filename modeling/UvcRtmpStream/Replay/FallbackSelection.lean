import UvcRtmpStream.Foundations.Grid
import UvcRtmpStream.Replay.ReplayBufferSpec

/-!
# The selection by count

Where no segment was modified within the seconds asked for, `saveLastNSeconds` takes the last
segments of the list, as many as it takes for these seconds to be the quotient of two integer
divisions (`wantedSegments`). The count is meant to be an approximation. It is exact for the
segments of one second that the service uses. In general full segments of the selection span the
seconds asked for if there are no more segments, or where what the rounding of the count loses is
made up for by what the rounding of the duration gains (`RoundingCovers`), which it never is below
one second.
-/

set_option autoImplicit false
set_option relaxedAutoImplicit false

namespace UvcRtmpStream.Replay

open UvcRtmpStream.Foundations UvcRtmpStream.Platform

variable {κ : Type*} {files : List (SegmentFile κ)} {segmentDurationMs seconds : ℤ} {now : ℕ}

/-- `want` of `saveLastNSeconds`. -/
def wantedSegments (segmentDurationMs seconds : ℤ) : ℤ :=
  max 1 (seconds / max 1 (segmentDurationMs / 1000))

/-- The selection is a back part of the list without repetition, and it is the whole list or spans
the seconds asked for, if its segments are full. -/
structure Covers (segmentDurationMs seconds : ℤ) (files selected : List (SegmentFile κ)) : Prop
    where
  suffix : selected <:+ files
  nodup : selected.Nodup
  enough : selected.length = files.length ∨ 1000 * seconds ≤ selected.length * segmentDurationMs

/-- The segments are no shorter than a second, and one of them is longer than what is asked for, or
the seconds that the count leaves out are made up for by the parts of a second that the duration
leaves out. -/
def RoundingCovers (segmentDurationMs seconds : ℤ) : Prop :=
  1000 ≤ segmentDurationMs ∧
    (seconds < segmentDurationMs / 1000 ∨
      1000 * (seconds % (segmentDurationMs / 1000)) ≤
        seconds / (segmentDurationMs / 1000) * (segmentDurationMs % 1000))

instance : Decidable (RoundingCovers segmentDurationMs seconds) :=
  inferInstanceAs (Decidable (_ ∧ _))

/-- No file was modified within the last seconds. -/
def AllOld (seconds : ℤ) (now : ℕ) (files : List (SegmentFile κ)) : Prop :=
  ∀ file ∈ files, expired (seconds * 1000) now file = true

instance : Decidable (AllOld seconds now files) :=
  inferInstanceAs (Decidable (∀ file ∈ files, expired (seconds * 1000) now file = true))

/-- Without a recent file the selection is by count. -/
theorem selectSegments_of_old (h : AllOld seconds now files) (segmentDurationMs : ℤ) :
    selectSegments segmentDurationMs seconds now files =
      files.drop (files.length - (wantedSegments segmentDurationMs seconds).toNat) := by
  have hnone : (files.filter fun file ↦ !expired (seconds * 1000) now file) = [] := by
    refine List.filter_eq_nil_iff.mpr fun file hfile ↦ ?_
    rw [h file hfile]
    exact Bool.false_ne_true
  simp only [selectSegments, hnone, List.isEmpty_nil, if_true]
  rfl

theorem one_le_wantedSegments (segmentDurationMs seconds : ℤ) :
    1 ≤ wantedSegments segmentDurationMs seconds := le_max_left _ _

/-- A segment that is shorter than a second is counted as one second. -/
theorem wantedSegments_of_lt (hduration : segmentDurationMs < 1000) (hseconds : 1 ≤ seconds) :
    wantedSegments segmentDurationMs seconds = seconds := by
  have hunits : segmentDurationMs / 1000 < 1 := by omega
  rw [wantedSegments, max_eq_left (Int.le_of_lt hunits), Int.ediv_one, max_eq_right hseconds]

theorem wantedSegments_of_le (hduration : 1000 ≤ segmentDurationMs) :
    wantedSegments segmentDurationMs seconds = max 1 (seconds / (segmentDurationMs / 1000)) := by
  have hunits : 1 ≤ segmentDurationMs / 1000 := by omega
  rw [wantedSegments, max_eq_right hunits]

/-- So many segments span the seconds asked for. -/
theorem mul_le_wantedSegments_mul_iff (hduration : 0 < segmentDurationMs) (hseconds : 1 ≤ seconds) :
    1000 * seconds ≤ wantedSegments segmentDurationMs seconds * segmentDurationMs ↔
      RoundingCovers segmentDurationMs seconds := by
  rcases lt_or_ge segmentDurationMs 1000 with hshort | hlong
  · rw [wantedSegments_of_lt hshort hseconds]
    refine iff_of_false (fun hspans ↦ ?_) fun hcovers ↦ ?_
    · have hless : seconds * segmentDurationMs < seconds * 1000 :=
        Int.mul_lt_mul_of_pos_left hshort (by omega)
      omega
    · exact absurd hcovers.1 (by omega)
  · have hunits : 1 ≤ segmentDurationMs / 1000 := by omega
    have hwhole := Int.mul_ediv_add_emod segmentDurationMs 1000
    have hrest : 0 ≤ segmentDurationMs % 1000 := Int.emod_nonneg _ (by omega)
    rw [wantedSegments_of_le hlong, RoundingCovers]
    rcases lt_or_ge seconds (segmentDurationMs / 1000) with hless | hmore
    · -- One segment is longer than the seconds asked for.
      rw [Int.ediv_eq_zero_of_lt (by omega) hless]
      refine iff_of_true ?_ ⟨hlong, Or.inl hless⟩
      rw [max_eq_left Int.one_nonneg, one_mul]
      omega
    · have hcount : 1 ≤ seconds / (segmentDurationMs / 1000) :=
        (Int.le_ediv_iff_mul_le (by omega)).mpr ((one_mul _).le.trans hmore)
      rw [max_eq_right hcount, mul_le_ediv_mul_iff]
      simp [hlong, not_lt.mpr hmore]

section Selection

variable (hold : AllOld seconds now files)

include hold

theorem length_selectSegments_of_old (segmentDurationMs : ℤ) :
    ((selectSegments segmentDurationMs seconds now files).length : ℤ) =
      min (files.length : ℤ) (wantedSegments segmentDurationMs seconds) := by
  have hwanted := one_le_wantedSegments segmentDurationMs seconds
  rw [selectSegments_of_old hold, List.length_drop]
  omega

/-- The selection covers the request if there is no more, or the count is enough. -/
theorem covers_selectSegments_iff (hduration : 0 < segmentDurationMs) (hseconds : 1 ≤ seconds)
    (hnodup : files.Nodup) :
    Covers segmentDurationMs seconds files (selectSegments segmentDurationMs seconds now files) ↔
      files.length ≤ wantedSegments segmentDurationMs seconds ∨
        RoundingCovers segmentDurationMs seconds := by
  have hspans := mul_le_wantedSegments_mul_iff hduration hseconds
  have hlength := length_selectSegments_of_old hold segmentDurationMs
  have hsuffix : selectSegments segmentDurationMs seconds now files <:+ files :=
    selectSegments_of_old hold segmentDurationMs ▸ List.drop_suffix _ _
  have hunique := hnodup.sublist hsuffix.sublist
  rcases le_or_gt (files.length : ℤ) (wantedSegments segmentDurationMs seconds) with hall | hmore
  · rw [min_eq_left hall] at hlength
    exact iff_of_true ⟨hsuffix, hunique, Or.inl (Int.ofNat_inj.mp hlength)⟩ (Or.inl hall)
  · rw [min_eq_right hmore.le] at hlength
    rw [← hspans, or_iff_right (not_le.mpr hmore)]
    constructor
    · intro hcovers
      rcases hcovers.enough with hall | henough
      · omega
      · exact hlength ▸ henough
    · intro henough
      exact ⟨hsuffix, hunique, Or.inr (hlength ▸ henough)⟩

/-- What is missing is less than one segment. -/
theorem selectSegments_short_lt (hduration : 1000 ≤ segmentDurationMs) (hseconds : 1 ≤ seconds) :
    (selectSegments segmentDurationMs seconds now files).length = files.length ∨
      1000 * seconds <
        ((selectSegments segmentDurationMs seconds now files).length + 1) * segmentDurationMs := by
  have hlength := length_selectSegments_of_old hold segmentDurationMs
  rcases le_or_gt (files.length : ℤ) (wantedSegments segmentDurationMs seconds) with hall | hmore
  · rw [min_eq_left hall] at hlength
    exact Or.inl (Int.ofNat_inj.mp hlength)
  · rw [min_eq_right hmore.le] at hlength
    have hover := @mul_lt_ediv_add_one_mul 1000 segmentDurationMs seconds (by omega) hduration
      (by omega)
    have hcount : seconds / (segmentDurationMs / 1000) ≤
        wantedSegments segmentDurationMs seconds := by
      rw [wantedSegments_of_le hduration]
      exact le_max_right _ _
    refine Or.inr (hover.trans_le ?_)
    rw [hlength]
    exact Int.mul_le_mul_of_nonneg_right (by omega) (by omega)

end Selection

/-- The selection by count, for every duration that the constructor admits, all numbers of seconds
and every list without a recent file: it is the last files of the list, as many as are wanted; full
segments of it span the seconds asked for if and only if there are no more files or the rounding
covers them; with segments of a second or more they fall short of them by less than one segment, and
below that a segment counts as one second. -/
theorem fallback_selection_iff (buffer : ReplayBuffer) (hseconds : 1 ≤ seconds)
    (hnodup : files.Nodup) (hold : AllOld seconds now files) :
    (selectSegments buffer.segmentDurationMs seconds now files <:+ files ∧
      (selectSegments buffer.segmentDurationMs seconds now files).Nodup ∧
      ((selectSegments buffer.segmentDurationMs seconds now files).length : ℤ) =
        min (files.length : ℤ) (wantedSegments buffer.segmentDurationMs seconds)) ∧
    (Covers buffer.segmentDurationMs seconds files
        (selectSegments buffer.segmentDurationMs seconds now files) ↔
      files.length ≤ wantedSegments buffer.segmentDurationMs seconds ∨
        RoundingCovers buffer.segmentDurationMs seconds) ∧
    (1000 ≤ buffer.segmentDurationMs →
      (selectSegments buffer.segmentDurationMs seconds now files).length = files.length ∨
        1000 * seconds < ((selectSegments buffer.segmentDurationMs seconds now files).length + 1) *
          buffer.segmentDurationMs) ∧
    (buffer.segmentDurationMs < 1000 →
      ((selectSegments buffer.segmentDurationMs seconds now files).length : ℤ) =
        min (files.length : ℤ) seconds) := by
  have hduration : 0 < buffer.segmentDurationMs := by
    have := buffer.le_segmentDurationMs
    omega
  have hsuffix : selectSegments buffer.segmentDurationMs seconds now files <:+ files :=
    selectSegments_of_old hold buffer.segmentDurationMs ▸ List.drop_suffix _ _
  have hlength := length_selectSegments_of_old hold buffer.segmentDurationMs
  refine ⟨⟨hsuffix, hnodup.sublist hsuffix.sublist, hlength⟩,
    covers_selectSegments_iff hold hduration hseconds hnodup,
    fun hlong ↦ selectSegments_short_lt hold hlong hseconds, fun hshort ↦ ?_⟩
  rw [hlength, wantedSegments_of_lt hshort hseconds]

/-- Three segments, the last of which was modified 3 ms after the epoch. -/
def oldSegments : List (SegmentFile (List UInt8)) :=
  [⟨0, "segment_0.seg", [], 1⟩, ⟨1, "segment_200000.seg", [], 2⟩, ⟨2, "segment_400000.seg", [], 3⟩]

theorem fallback_selection_iff_old_segments :
    ∃ fresh, ReplayBuffer.new 120 2500 (FileStore.empty : Directory (List UInt8)) 0 true =
        .ok fresh ∧
      (Covers fresh.buffer.segmentDurationMs 5 oldSegments
          (selectSegments fresh.buffer.segmentDurationMs 5 10000 oldSegments) ↔
        oldSegments.length ≤ wantedSegments fresh.buffer.segmentDurationMs 5 ∨
          RoundingCovers fresh.buffer.segmentDurationMs 5) :=
  ⟨_, rfl, (fallback_selection_iff _ (by decide) (by decide) (by decide)).2.1⟩

/-- Two segments of 200 ms are taken for two seconds. -/
theorem not_covers_short_segments :
    ∃ fresh, ReplayBuffer.new 120 200 (FileStore.empty : Directory (List UInt8)) 0 true =
        .ok fresh ∧
      (oldSegments ≠ [] ∧ SortedBy StoredFile.lastModified oldSegments ∧ oldSegments.Nodup ∧
        AllOld 2 10000 oldSegments) ∧
      ¬ Covers fresh.buffer.segmentDurationMs 2 oldSegments
        (selectSegments fresh.buffer.segmentDurationMs 2 10000 oldSegments) := by
  refine ⟨_, rfl, ⟨by decide, by simp [SortedBy, oldSegments], by decide, by decide⟩, fun h ↦ ?_⟩
  exact absurd h.enough (by decide)

end UvcRtmpStream.Replay
