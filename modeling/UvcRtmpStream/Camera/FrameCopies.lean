import UvcRtmpStream.Camera.Negotiation
import UvcRtmpStream.Foundations.RowCopy

/-!
# How frames are copied

A frame that arrives is copied by `uvc_duplicate_frame` into a frame of the pool, and a frame that
has been converted is copied by `copyToSurface` to the window. Both copy row by row, with loops that
are unrolled, and neither loop stops in the middle of a turn. `uvc_duplicate_frame` copies the
number of rows rounded up to a multiple of four. `copyFrame` copies the odd rows first, and then as
many groups of eight as if it had not: eight rows too many wherever the height is not a multiple of
eight.

`duplicate_frame_iff` and `copy_to_surface_iff` say exactly when they stay inside of the frames, and
that what they copy then is the picture. Steps and sizes are below `2 ^ 31`.
-/

set_option autoImplicit false
set_option relaxedAutoImplicit false

namespace UvcRtmpStream.Camera

open UvcRtmpStream.Foundations

/-- `uvc_frame`, whose `data` has `data_bytes` bytes. -/
structure UvcFrame where
  data : Region UInt8
  actualBytes : ℕ
  width : ℕ
  height : ℕ
  frameFormat : FrameFormat
  step : ℕ
  sequence : UInt32
  libraryOwnsData : Bool

/-- How a copy of a frame fails: `UVC_ERROR_NO_MEM`, or an access outside of the data. -/
inductive CopyFault
  | noMem
  | outside
  deriving DecidableEq

/-- `uvc_ensure_frame_size`. `memory` is what is in new memory, if `realloc` finds any. -/
def uvcEnsureFrameSize (memory : Option (ℕ → UInt8)) (frame : UvcFrame) (needBytes : ℕ) :
    Except CopyFault UvcFrame :=
  if frame.libraryOwnsData then
    if needBytes = 0 then .error .noMem
    else if frame.data.size = needBytes then .ok frame
    else
      match memory with
      | none => .error .noMem
      | some new => .ok { frame with
          actualBytes := needBytes
          data :=
            { bytes := fun place ↦
                if place < frame.data.size then frame.data.bytes place else new place
              size := needBytes } }
  else if frame.data.size < needBytes then .error .noMem
  else .ok frame

/-- The copy of the data in `uvc_duplicate_frame`. -/
def duplicateData (input output : UvcFrame) : Except CopyFault UvcFrame :=
  if input.step ≠ 0 ∧ output.step ≠ 0 then
    let copy : RowCopy UInt8 :=
      { source := input.data
        count := min input.step output.step
        sourceStep := input.step
        destStep := output.step }
    match copy.loop 4 (min input.height output.height) 0 ⟨0, 0, output.data⟩ with
    | some s => .ok { output with data := s.dest }
    | none => .error .outside
  else if input.actualBytes ≤ input.data.size ∧ input.actualBytes ≤ output.data.size then
    .ok { output with data := output.data.write input.data 0 0 input.actualBytes }
  else .error .outside

/-- `uvc_duplicate_frame`. -/
def uvcDuplicateFrame (memory : Option (ℕ → UInt8)) (input output : UvcFrame) :
    Except CopyFault UvcFrame := do
  let output ← uvcEnsureFrameSize memory output input.data.size
  duplicateData input { output with
    width := input.width
    height := input.height
    frameFormat := input.frameFormat
    step := if output.libraryOwnsData then input.step else output.step
    sequence := input.sequence
    actualBytes := input.actualBytes }

/-- `copyFrame`. -/
def copyFrame (src dest : Region UInt8) (width height strideSrc strideDest : ℕ) :
    Option (Region UInt8) :=
  let copy : RowCopy UInt8 :=
    { source := src
      count := width
      sourceStep := strideSrc
      destStep := strideDest }
  ((copy.rows (height % 8) ⟨0, 0, dest⟩).bind (copy.loop 8 height 0)).map RowState.dest

/-- `ANativeWindow_Buffer`. -/
structure WindowBuffer where
  bits : Region UInt8
  width : ℕ
  height : ℕ
  stride : ℕ

/-- `PREVIEW_PIXEL_BYTES`. -/
def previewPixelBytes : ℕ := 4

/-- `copyToSurface`, to a window that is set and can be locked. -/
def copyToSurface (frame : UvcFrame) (buffer : WindowBuffer) : Option (Region UInt8) :=
  copyFrame frame.data buffer.bits
    (min (frame.width * previewPixelBytes) (buffer.width * previewPixelBytes))
    (min frame.height buffer.height) (frame.width * previewPixelBytes)
    (buffer.stride * previewPixelBytes)

/-! ### The window -/

/-- `copyFrame` copies the rows it is to copy, or eight more. -/
theorem copyFrame_eq_rows (src dest : Region UInt8) (width height strideSrc strideDest : ℕ) :
    copyFrame src dest width height strideSrc strideDest =
      ((RowCopy.rows ⟨src, width, strideSrc, strideDest⟩
        (if 8 ∣ height then height else height + 8)) ⟨0, 0, dest⟩).map RowState.dest := by
  have hloop := funext (RowCopy.loop_eq_rows
    (⟨src, width, strideSrc, strideDest⟩ : RowCopy UInt8) (by decide : 0 < 8) height 0)
  have hnumber : height % 8 + 8 * RowCopy.groups 8 (height - 0) =
      if 8 ∣ height then height else height + 8 := by
    unfold RowCopy.groups
    split_ifs <;> omega
  rw [← hnumber, RowCopy.rows_add, copyFrame, hloop]

/-- A converted frame fills its rows. -/
def UvcFrame.IsFilled (frame : UvcFrame) : Prop :=
  0 < frame.width ∧ frame.data.size = frame.height * (frame.width * previewPixelBytes)

/-- The memory of a window is its rows, which are as long as its stride. -/
def WindowBuffer.IsWhole (buffer : WindowBuffer) : Prop :=
  0 < buffer.width ∧ buffer.width ≤ buffer.stride ∧
    buffer.bits.size = buffer.height * (buffer.stride * previewPixelBytes)

/-- A row of a picture is inside of it exactly if its number is below the height. -/
theorem row_le_iff {row height step count : ℕ} (hcount : 0 < count) (hstep : count ≤ step) :
    row * step + count ≤ height * step ↔ row < height := by
  constructor
  · intro h
    by_contra hbeyond
    have hle := Nat.mul_le_mul_right step (Nat.le_of_not_lt hbeyond)
    omega
  · intro h
    have hle := Nat.mul_le_mul_right step (Nat.succ_le_of_lt h)
    rw [Nat.succ_mul] at hle
    omega

/-- The rows of a frame that `copyToSurface` copies. -/
def UvcFrame.windowCopy (frame : UvcFrame) (buffer : WindowBuffer) : RowCopy UInt8 where
  source := frame.data
  count := min frame.width buffer.width * previewPixelBytes
  sourceStep := frame.width * previewPixelBytes
  destStep := buffer.stride * previewPixelBytes

theorem copyToSurface_eq_rows (frame : UvcFrame) (buffer : WindowBuffer) :
    copyToSurface frame buffer =
      ((frame.windowCopy buffer).rows
        (if 8 ∣ min frame.height buffer.height then min frame.height buffer.height
          else min frame.height buffer.height + 8) ⟨0, 0, buffer.bits⟩).map RowState.dest := by
  rw [copyToSurface, copyFrame_eq_rows, Nat.mul_min_mul_right, UvcFrame.windowCopy]

/-- A converted frame is copied to the window without leaving its data or the window exactly if the
height that they share is a multiple of eight. The window then shows the part of the frame that
fits, and is as before elsewhere. -/
theorem copy_to_surface_iff {frame : UvcFrame} {buffer : WindowBuffer} (hframe : frame.IsFilled)
    (hbuffer : buffer.IsWhole) :
    ((copyToSurface frame buffer).isSome ↔ 8 ∣ min frame.height buffer.height) ∧
      ∀ bits, copyToSurface frame buffer = some bits →
        (∀ row < min frame.height buffer.height,
          ∀ column < min frame.width buffer.width * previewPixelBytes,
            bits.bytes (row * (buffer.stride * previewPixelBytes) + column) =
              frame.data.bytes (row * (frame.width * previewPixelBytes) + column)) ∧
          ∀ place, (∀ row < min frame.height buffer.height,
              place < row * (buffer.stride * previewPixelBytes) ∨
                row * (buffer.stride * previewPixelBytes) +
                  min frame.width buffer.width * previewPixelBytes ≤ place) →
            bits.bytes place = buffer.bits.bytes place := by
  obtain ⟨hwidth, hsize⟩ := hframe
  obtain ⟨hshown, hstride, hbits⟩ := hbuffer
  have hpositive : 0 < min frame.width buffer.width * previewPixelBytes :=
    Nat.mul_pos (lt_min hwidth hshown) (by decide)
  have hsource : min frame.width buffer.width * previewPixelBytes ≤
      frame.width * previewPixelBytes := Nat.mul_le_mul_right _ (min_le_left _ _)
  have hdest : min frame.width buffer.width * previewPixelBytes ≤
      buffer.stride * previewPixelBytes :=
    Nat.mul_le_mul_right _ ((min_le_right _ _).trans hstride)
  have hfits (row : ℕ) : (frame.windowCopy buffer).RowFits ⟨0, 0, buffer.bits⟩ row ↔
      row < min frame.height buffer.height := by
    simp only [RowCopy.RowFits, UvcFrame.windowCopy, Nat.zero_add, hsize, hbits,
      row_le_iff hpositive hsource, row_le_iff hpositive hdest, Nat.lt_min]
  rw [copyToSurface_eq_rows]
  refine ⟨?_, fun bits hcopy ↦ ?_⟩
  · rw [Option.isSome_map, RowCopy.rows_isSome_iff]
    simp only [hfits]
    split_ifs with hgroups
    · exact iff_of_true (fun _ h ↦ h) hgroups
    · -- the first of the eight rows too many is beyond the frame or beyond the window
      exact iff_of_false
        (fun h ↦ lt_irrefl _ (h (min frame.height buffer.height) (by omega))) hgroups
  · obtain ⟨s, hrows, rfl⟩ := Option.map_eq_some_iff.mp hcopy
    have hinside := (RowCopy.rows_isSome_iff _ _ _).mp (Option.isSome_of_mem hrows)
    simp only [hfits] at hinside
    have hnumber : min frame.height buffer.height ≤ if 8 ∣ min frame.height buffer.height
        then min frame.height buffer.height else min frame.height buffer.height + 8 := by
      split_ifs <;> omega
    refine ⟨fun row hrow column hcolumn ↦ ?_, fun place houtside ↦ ?_⟩
    · have hcopied := RowCopy.rows_copies _ hrows hdest (hrow.trans_le hnumber) hcolumn
      simpa only [UvcFrame.windowCopy, Nat.zero_add] using hcopied
    · refine (RowCopy.rows_frame _ hrows).2 place fun row hrow ↦ ?_
      simpa only [UvcFrame.windowCopy, Nat.zero_add] using houtside row (hinside row hrow)

/-- A frame of one pixel in each of eight rows. -/
def narrowFrame : UvcFrame where
  data := { bytes := UInt8.ofNat, size := 32 }
  actualBytes := 32
  width := 1
  height := 8
  frameFormat := .uncompressed
  step := 4
  sequence := 0
  libraryOwnsData := true

/-- A window of one pixel in each of nine rows, whose rows are twice as long. -/
def narrowWindow : WindowBuffer where
  bits := { bytes := fun _ ↦ 0, size := 72 }
  width := 1
  height := 9
  stride := 2

theorem copy_to_surface_iff_narrow :
    narrowFrame.IsFilled ∧ narrowWindow.IsWhole ∧
      (copyToSurface narrowFrame narrowWindow).isSome :=
  ⟨⟨by decide, rfl⟩, ⟨by decide, by decide, rfl⟩,
    (copy_to_surface_iff ⟨by decide, rfl⟩ ⟨by decide, by decide, rfl⟩).1.mpr (by decide)⟩

/-! ### The copy of a frame -/

/-- A frame that owns its data gets as many bytes as it is to have. -/
theorem uvcEnsureFrameSize_owned (memory : ℕ → UInt8) {frame : UvcFrame} {needBytes : ℕ}
    (howns : frame.libraryOwnsData) (hneed : 0 < needBytes) :
    ∃ grown, uvcEnsureFrameSize (some memory) frame needBytes = .ok grown ∧
      grown.data.size = needBytes ∧ grown.libraryOwnsData := by
  rw [uvcEnsureFrameSize, if_pos howns, if_neg hneed.ne.symm]
  by_cases hsize : frame.data.size = needBytes
  · exact ⟨frame, if_pos hsize, hsize, howns⟩
  · exact ⟨_, if_neg hsize, rfl, howns⟩

/-- The rows that `uvc_duplicate_frame` copies: the height, rounded up to a multiple of four. -/
def UvcFrame.copiedRows (frame : UvcFrame) : ℕ := (frame.height + 3) / 4 * 4

/-- The bytes of the picture: its rows, or what has arrived if it is compressed. -/
def UvcFrame.pictureBytes (frame : UvcFrame) : ℕ :=
  if frame.step = 0 then frame.actualBytes else frame.height * frame.step

/-- Rows that follow each other are inside of a size if what they fill together is. -/
theorem rows_within_iff (number step size : ℕ) :
    (∀ index < number, index * step + step ≤ size) ↔ number * step ≤ size := by
  constructor
  · intro h
    cases number with
    | zero => simp
    | succ number =>
      rw [Nat.succ_mul]
      exact h number (Nat.lt_succ_self _)
  · intro h index hindex
    rw [← Nat.succ_mul]
    exact (Nat.mul_le_mul_right step hindex).trans h

/-- The copy of rows of one length. -/
theorem duplicateData_rows {input output : UvcFrame} (hstep : input.step ≠ 0)
    (hsteps : output.step = input.step) (hheight : output.height = input.height)
    (hsize : output.data.size = input.data.size) :
    ((∃ copy, duplicateData input output = .ok copy) ↔
        input.copiedRows * input.step ≤ input.data.size) ∧
      ∀ copy, duplicateData input output = .ok copy →
        ∃ data, copy = { output with data := data } ∧ data.size = output.data.size ∧
          ∀ place < input.height * input.step, data.bytes place = input.data.bytes place := by
  have hcopied : 4 * RowCopy.groups 4 (input.height - 0) = input.copiedRows := by
    unfold RowCopy.groups UvcFrame.copiedRows
    omega
  have hinside := RowCopy.rows_isSome_iff
    ⟨input.data, input.step, input.step, input.step⟩ input.copiedRows ⟨0, 0, output.data⟩
  simp only [RowCopy.RowFits, Nat.zero_add, hsize, and_self, rows_within_iff] at hinside
  rw [duplicateData, if_pos ⟨hstep, hsteps ▸ hstep⟩]
  simp only [hsteps, hheight, Nat.min_self, RowCopy.loop_eq_rows _ (by decide : 0 < 4), hcopied]
  cases hrows : RowCopy.rows ⟨input.data, input.step, input.step, input.step⟩ input.copiedRows
      ⟨0, 0, output.data⟩ with
  | none =>
    rw [hrows] at hinside
    refine ⟨iff_of_false ?_ fun h ↦ Bool.false_ne_true (hinside.mpr h), ?_⟩
    · rintro ⟨copy, hcopy⟩
      cases hcopy
    · intro copy hcopy
      cases hcopy
  | some s =>
    rw [hrows] at hinside
    refine ⟨iff_of_true ⟨_, rfl⟩ (hinside.mp rfl), fun copy hcopy ↦ ?_⟩
    obtain rfl := Except.ok.inj hcopy
    refine ⟨s.dest, rfl, (RowCopy.rows_frame _ hrows).1, fun place hplace ↦ ?_⟩
    -- the place is in the row that its quotient by the step counts
    have hrow : place / input.step < input.copiedRows := by
      have hbelow := Nat.div_lt_of_lt_mul (by rwa [Nat.mul_comm] at hplace)
      unfold UvcFrame.copiedRows
      omega
    have hbyte := RowCopy.rows_copies _ hrows (le_refl input.step) hrow
      (Nat.mod_lt place (Nat.pos_of_ne_zero hstep))
    simpa only [Nat.zero_add, Nat.div_add_mod'] using hbyte

/-- The copy of compressed data. -/
theorem duplicateData_whole {input output : UvcFrame} (hstep : input.step = 0)
    (hsize : output.data.size = input.data.size) (hactual : input.actualBytes ≤ input.data.size) :
    ∃ data, duplicateData input output = .ok { output with data := data } ∧
      data.size = output.data.size ∧
        ∀ place < input.actualBytes, data.bytes place = input.data.bytes place := by
  rw [duplicateData, if_neg fun h ↦ h.1 hstep, if_pos ⟨hactual, hsize ▸ hactual⟩]
  refine ⟨_, rfl, rfl, fun place hplace ↦ ?_⟩
  simp [Region.write, hplace]

/-- A frame is copied into one that owns its data, without an access outside of either, exactly if
it is compressed, or if its rows, rounded up to a multiple of four, fit in its data. The copy is
then of the same picture: it agrees in every field, and in every byte of the picture. -/
theorem duplicate_frame_iff (memory : ℕ → UInt8) {input output : UvcFrame}
    (hdata : 0 < input.data.size) (hactual : input.actualBytes ≤ input.data.size)
    (howns : output.libraryOwnsData) :
    ((∃ copy, uvcDuplicateFrame (some memory) input output = .ok copy) ↔
        input.step = 0 ∨ input.copiedRows * input.step ≤ input.data.size) ∧
      ∀ copy, uvcDuplicateFrame (some memory) input output = .ok copy →
        ∃ data, copy = { input with data := data, libraryOwnsData := true } ∧
          data.size = input.data.size ∧
            ∀ place < input.pictureBytes, data.bytes place = input.data.bytes place := by
  obtain ⟨grown, hgrown, hsize, hstays⟩ := uvcEnsureFrameSize_owned memory howns hdata
  -- the fields of the copy are set before its data
  have hfields : uvcDuplicateFrame (some memory) input output = duplicateData input
      { input with data := grown.data, libraryOwnsData := true } := by
    rw [uvcDuplicateFrame, hgrown]
    simp only [bind, Except.bind, hstays, if_true]
  rw [hfields]
  by_cases hstep : input.step = 0
  · obtain ⟨data, hcopy, hkept, hbytes⟩ := @duplicateData_whole input
      { input with data := grown.data, libraryOwnsData := true } hstep hsize hactual
    rw [hcopy]
    refine ⟨iff_of_true ⟨_, rfl⟩ (Or.inl hstep), fun copy hok ↦ ?_⟩
    obtain rfl := Except.ok.inj hok
    refine ⟨data, rfl, hkept.trans hsize, ?_⟩
    rwa [UvcFrame.pictureBytes, if_pos hstep]
  · obtain ⟨hfits, hcopies⟩ := @duplicateData_rows input
      { input with data := grown.data, libraryOwnsData := true } hstep rfl rfl hsize
    refine ⟨hfits.trans (or_iff_right hstep).symm, fun copy hok ↦ ?_⟩
    obtain ⟨data, rfl, hkept, hbytes⟩ := hcopies copy hok
    refine ⟨data, rfl, hkept.trans hsize, ?_⟩
    rwa [UvcFrame.pictureBytes, if_neg hstep]

theorem duplicate_frame_iff_narrow :
    ∃ copy, uvcDuplicateFrame (some fun _ ↦ 0) narrowFrame narrowFrame = .ok copy :=
  (duplicate_frame_iff (fun _ ↦ 0) (by decide) (by decide) rfl).1.mpr (Or.inr (by decide))

end UvcRtmpStream.Camera
