import Mathlib.Tactic.NormNum
import UvcRtmpStream.Camera.DescriptorFormat

/-!
# Descriptors taken in as they were said

For each kind of block, what the parser makes of its bytes, whatever stands behind it; with the rule
for scans (`BlockScanner.scan_encodeAll`) from it what the scan makes of an interface, and with that
what `uvc_get_device_info` makes of a camera.
-/

set_option autoImplicit false
set_option relaxedAutoImplicit false

namespace UvcRtmpStream.Camera

open UvcRtmpStream.Foundations LittleEndian

/-! ### The blocks of a streaming interface -/

/-- What a block does to the interface. -/
def StreamingInterface.take (s : StreamingInterface) : StreamingBlock → StreamingInterface
  | .header spec => { s with
      bEndpointAddress := spec.bEndpointAddress &&& 0x8f
      bTerminalLink := spec.bTerminalLink
      bmInfo := spec.bmInfo
      bStillCaptureMethod := spec.bStillCaptureMethod
      bTriggerSupport := spec.bTriggerSupport
      bTriggerUsage := spec.bTriggerUsage
      bmaControls := if spec.bControlSize = 0 ∨ spec.controls = [] then none
        else some (spec.controls.map bitmap) }
  | .format spec => s.appendFormat spec.bare
  | .frame parent spec => s.appendFrame (spec.desc parent)
  | .other _ => s

/-- A frame comes behind its format. -/
def StreamingInterface.Accepts (s : StreamingInterface) (block : StreamingBlock) : Prop :=
  block.Fits ∧ match block with
    | .frame parent _ => ∃ format, s.formatDescs.getLast? = some format ∧
        format.bBitsPerPixel = parent.bare.bBitsPerPixel
    | _ => True

/-- The number of bitmaps, from the length of the header. -/
theorem controlCount_eq {count : ℕ} {size : UInt8} (hlength : 13 + count * size.toNat ≤ 255)
    (hsize : size ≠ 0) :
    controlCount (UInt8.ofNat (13 + count * size.toNat)) size = count := by
  have hpos : 0 < size.toNat := Nat.pos_of_ne_zero fun hzero ↦
    hsize (UInt8.toNat_inj.mp (by simpa using hzero))
  have hbyte : (UInt8.ofNat (13 + count * size.toNat)).toNat = 13 + count * size.toNat := by
    rw [UInt8.toNat_ofNat']
    exact Nat.mod_eq_of_lt (by omega)
  have hdiff : (2 ^ 64 + (13 + count * size.toNat) - 13) % 2 ^ 64 = count * size.toNat := by
    omega
  have hcount : count ≤ count * size.toNat := Nat.le_mul_of_pos_right count hpos
  rw [controlCount, hbyte, hdiff, Nat.mul_div_cancel _ hpos]
  exact Nat.mod_eq_of_lt (by omega)

theorem HeaderSpec.length_encode {header : HeaderSpec} (h : (StreamingBlock.header header).Fits) :
    header.encode.length = 13 + header.controls.length * header.bControlSize.toNat := by
  have hflat : header.controls.flatten.length =
      header.controls.length * header.bControlSize.toNat := by
    rw [List.length_flatten, List.map_congr_left h.2, List.map_const', List.sum_replicate_nat]
  rw [HeaderSpec.encode, List.length_append, hflat]
  rfl

theorem uvcParseVs_header (s : StreamingInterface) (spec : HeaderSpec)
    (h : (StreamingBlock.header spec).Fits) (later : List UInt8) :
    uvcParseVs s (spec.encode ++ later) = .ok (s.take (.header spec)) := by
  obtain ⟨hlength, hgroups⟩ := h
  have hneeded : 13 ≤ (spec.encode ++ later).length := by
    simp [HeaderSpec.encode, splitSw]
  have hsize : (spec.encode ++ later).getD 12 0 = spec.bControlSize := rfl
  have hfirst : (spec.encode ++ later).getD 0 0 =
      UInt8.ofNat (13 + spec.controls.length * spec.bControlSize.toNat) := rfl
  have hparse : uvcParseVs s (spec.encode ++ later) =
      uvcParseVsInputHeader s (spec.encode ++ later) := rfl
  rw [hparse, uvcParseVsInputHeader, reads_of_le hneeded]
  simp only [hsize, hfirst]
  by_cases hzero : spec.bControlSize = 0
  · rw [if_pos (Or.inl hzero)]
    simp only [StreamingInterface.take, if_pos (Or.inl hzero)]
    rfl
  · rw [controlCount_eq hlength hzero]
    by_cases hnone : spec.controls = []
    · have hcount : spec.controls.length = 0 := by rw [hnone, List.length_nil]
      rw [if_pos (Or.inr hcount)]
      simp only [StreamingInterface.take, if_pos (Or.inr hnone)]
      rfl
    · have hcount : spec.controls.length ≠ 0 := fun hlen ↦
        hnone (List.eq_nil_of_length_eq_zero hlen)
      have hwhole : 13 + spec.controls.length * spec.bControlSize.toNat ≤
          (spec.encode ++ later).length := by
        rw [List.length_append, HeaderSpec.length_encode ⟨hlength, hgroups⟩]
        omega
      rw [if_neg (not_or.mpr ⟨hzero, hcount⟩), reads_of_le hwhole]
      have hfront : ((spec.encode ++ later).take 13).length = 13 := by
        rw [List.length_take]
        omega
      have hback : (spec.encode ++ later).drop 13 = spec.controls.flatten ++ later := rfl
      have hgroupsAt := map_bytesAt_append ((spec.encode ++ later).take 13) spec.controls hgroups
        later
      rw [hfront, ← hback, List.take_append_drop] at hgroupsAt
      have hbitmaps := congrArg (List.map bitmap) hgroupsAt
      rw [List.map_map] at hbitmaps
      simp only [StreamingInterface.take, if_neg (not_or.mpr ⟨hzero, hnone⟩)]
      rw [← hbitmaps]
      rfl

/-- The bytes behind the name of a format. -/
theorem getD_behind_guid {front guid : List UInt8} (hfront : front.length = 5)
    (hguid : guid.length = 16) (rest : List UInt8) (offset : ℕ) :
    (front ++ (guid ++ rest)).getD (21 + offset) 0 = rest.getD offset 0 := by
  have hbehind := getD_append_add (front ++ guid) rest offset
  rw [List.length_append, hfront, hguid, List.append_assoc] at hbehind
  exact hbehind

theorem uvcParseVs_format (s : StreamingInterface) (spec : FormatSpec)
    (h : (StreamingBlock.format spec).Fits) (later : List UInt8) :
    uvcParseVs s (spec.encode ++ later) = .ok (s.take (.format spec)) := by
  have hguid : spec.guidFormat.length = 16 := h
  cases hkind : spec.kind with
  | mjpeg =>
    simp only [FormatSpec.encode, StreamingInterface.take, FormatSpec.bare, hkind]
    rfl
  | uncompressed =>
    let front : List UInt8 := [27, 0x24, 0x04, spec.bFormatIndex,
      UInt8.ofNat spec.frames.length]
    let back : List UInt8 := [spec.bBitsPerPixel, spec.bDefaultFrameIndex, spec.bAspectRatioX,
      spec.bAspectRatioY, spec.bmInterlaceFlags, spec.bCopyProtect] ++ later
    have hbytes : spec.encode ++ later = front ++ (spec.guidFormat ++ back) := by
      simp [FormatSpec.encode, hkind, front, back]
    have hneeded : 27 ≤ (front ++ (spec.guidFormat ++ back)).length := by
      simp [front, back, hguid]
      omega
    have hparse : uvcParseVs s (front ++ (spec.guidFormat ++ back)) =
        uvcParseVsFormatUncompressed s (front ++ (spec.guidFormat ++ back)) := rfl
    have hname : bytesAt (fun offset ↦ (front ++ (spec.guidFormat ++ back)).getD offset 0) 5 16 =
        spec.guidFormat := by
      have hbytesAt := bytesAt_append front spec.guidFormat back
      rwa [hguid] at hbytesAt
    have hfront : front.length = 5 := rfl
    have hbehind := getD_behind_guid hfront hguid back
    rw [hbytes, hparse, uvcParseVsFormatUncompressed, reads_of_le hneeded]
    simp only [hbehind 0, hbehind 1, hbehind 2, hbehind 3, hbehind 4, hbehind 5]
    simp only [StreamingInterface.take, FormatSpec.bare, hkind]
    rw [hname]
    rfl
  | frameBased =>
    let front : List UInt8 := [28, 0x24, 0x10, spec.bFormatIndex,
      UInt8.ofNat spec.frames.length]
    let back : List UInt8 := [spec.bBitsPerPixel, spec.bDefaultFrameIndex, spec.bAspectRatioX,
      spec.bAspectRatioY, spec.bmInterlaceFlags, spec.bCopyProtect, spec.bVariableSize] ++ later
    have hbytes : spec.encode ++ later = front ++ (spec.guidFormat ++ back) := by
      simp [FormatSpec.encode, hkind, front, back]
    have hneeded : 28 ≤ (front ++ (spec.guidFormat ++ back)).length := by
      simp [front, back, hguid]
      omega
    have hparse : uvcParseVs s (front ++ (spec.guidFormat ++ back)) =
        uvcParseVsFrameFormat s (front ++ (spec.guidFormat ++ back)) := rfl
    have hname : bytesAt (fun offset ↦ (front ++ (spec.guidFormat ++ back)).getD offset 0) 5 16 =
        spec.guidFormat := by
      have hbytesAt := bytesAt_append front spec.guidFormat back
      rwa [hguid] at hbytesAt
    have hfront : front.length = 5 := rfl
    have hbehind := getD_behind_guid hfront hguid back
    rw [hbytes, hparse, uvcParseVsFrameFormat, reads_of_le hneeded]
    simp only [hbehind 0, hbehind 1, hbehind 2, hbehind 3, hbehind 4, hbehind 5, hbehind 6]
    simp only [StreamingInterface.take, FormatSpec.bare, hkind]
    rw [hname]
    rfl

/-- The bytes of a frame descriptor in front of what it says of its intervals. -/
def FrameSpec.front (kind : FormatKind) (frame : FrameSpec) : List UInt8 :=
  (frame.encode kind).take 26

theorem FrameSpec.front_append (kind : FormatKind) (frame : FrameSpec) :
    frame.front kind ++ frame.timing.encode = frame.encode kind := by
  cases kind <;> rfl

theorem FrameSpec.length_front (kind : FormatKind) (frame : FrameSpec) :
    (frame.front kind).length = 26 := by
  cases kind <;> rfl

theorem length_flatMap_splitDw (words : List UInt32) :
    (words.flatMap splitDw).length = 4 * words.length := by
  simp [List.length_flatMap, Nat.mul_comm]

theorem intervalsAt_front (kind : FormatKind) (frame : FrameSpec) {intervals : List UInt32}
    (h : frame.timing = .discrete intervals) (later : List UInt8) :
    intervalsAt (fun offset ↦ (frame.encode kind ++ later).getD offset 0) intervals.length =
      intervals := by
  have hwords := map_dwAt_append (frame.front kind) intervals later
  rw [FrameSpec.length_front, ← List.append_assoc] at hwords
  have hencode := frame.front_append kind
  rw [h, FrameTiming.encode] at hencode
  rw [hencode] at hwords
  exact hwords

theorem FrameTiming.length_encode_continuous (min max step : UInt32) :
    (FrameTiming.continuous min max step).encode.length = 12 := rfl

/-- The number of intervals in a frame descriptor. -/
theorem FrameTiming.toNat_kind_discrete {intervals : List UInt32}
    (h : (FrameTiming.discrete intervals).Fits) :
    (FrameTiming.discrete intervals).kind.toNat = intervals.length := by
  have hfits : 0 < intervals.length ∧ intervals.length ≤ 57 := h
  rw [FrameTiming.kind, UInt8.toNat_ofNat']
  exact Nat.mod_eq_of_lt (by omega)

/-- A frame descriptor is as long as its scan needs it. -/
theorem FrameSpec.length_encode_append (kind : FormatKind) (frame : FrameSpec)
    (later : List UInt8) :
    26 + frame.timing.encode.length ≤ (frame.encode kind ++ later).length := by
  rw [← frame.front_append, List.length_append, List.length_append, FrameSpec.length_front]
  omega

theorem FrameTiming.kind_ne_zero {intervals : List UInt32}
    (h : (FrameTiming.discrete intervals).Fits) : (FrameTiming.discrete intervals).kind ≠ 0 := by
  intro hzero
  have hkind := FrameTiming.toNat_kind_discrete h
  rw [hzero] at hkind
  exact absurd h.1 (by rw [← hkind]; decide)

/-- What every kind of frame descriptor has in the same places. -/
theorem FrameSpec.words_encode (kind : FormatKind) (frame : FrameSpec) (later : List UInt8) :
    swAt (fun offset ↦ (frame.encode kind ++ later).getD offset 0) 5 = frame.wWidth ∧
      swAt (fun offset ↦ (frame.encode kind ++ later).getD offset 0) 7 = frame.wHeight ∧
      dwAt (fun offset ↦ (frame.encode kind ++ later).getD offset 0) 9 = frame.dwMinBitRate ∧
      dwAt (fun offset ↦ (frame.encode kind ++ later).getD offset 0) 13 = frame.dwMaxBitRate := by
  cases kind <;>
    simp only [FrameSpec.encode, swAt, dwAt, splitSw, splitDw, List.cons_append, List.nil_append,
      Nat.reduceAdd, List.getD_cons_zero, List.getD_cons_succ, joinSw_bytes, joinDw_bytes, and_self]

theorem FrameSpec.dwAt_encode (kind : FormatKind) (frame : FrameSpec) (later : List UInt8)
    (offset : ℕ) :
    dwAt (fun offset ↦ (frame.encode kind ++ later).getD offset 0) (26 + offset) =
      dwAt (fun offset ↦ (frame.timing.encode ++ later).getD offset 0) offset := by
  have hbehind := getD_append_add (frame.front kind) (frame.timing.encode ++ later)
  rw [FrameSpec.length_front, ← List.append_assoc, frame.front_append] at hbehind
  simp only [dwAt, Nat.add_assoc, hbehind]

/-- The least, the greatest and the step of the intervals, behind the front of a frame. -/
theorem FrameSpec.timing_encode (kind : FormatKind) (frame : FrameSpec) {min max step : UInt32}
    (h : frame.timing = .continuous min max step) (later : List UInt8) :
    dwAt (fun offset ↦ (frame.encode kind ++ later).getD offset 0) 26 = min ∧
      dwAt (fun offset ↦ (frame.encode kind ++ later).getD offset 0) 30 = max ∧
      dwAt (fun offset ↦ (frame.encode kind ++ later).getD offset 0) 34 = step := by
  have hwords := frame.dwAt_encode kind later
  rw [h] at hwords
  rw [hwords 0, hwords 4, hwords 8]
  simp only [FrameTiming.encode, dwAt, splitDw, List.cons_append, List.nil_append, Nat.reduceAdd,
    List.getD_cons_zero, List.getD_cons_succ, joinDw_bytes, and_self]

theorem uvcParseVs_frameBased (s : StreamingInterface) (parent : FormatSpec) (spec : FrameSpec)
    (hkind : parent.kind = .frameBased) (hfits : spec.timing.Fits) (hsome : s.formatDescs ≠ [])
    (later : List UInt8) :
    uvcParseVs s (spec.encode parent.kind ++ later) = .ok (s.take (.frame parent spec)) := by
  rw [hkind]
  have hlength := spec.length_encode_append .frameBased later
  have hparse : uvcParseVs s (spec.encode .frameBased ++ later) =
      uvcParseVsFrameFrame s (spec.encode .frameBased ++ later) := rfl
  have htype : (spec.encode .frameBased ++ later).getD 21 0 = spec.timing.kind := rfl
  obtain ⟨hwidth, hheight, hminRate, hmaxRate⟩ := spec.words_encode .frameBased later
  have hdefault : dwAt (fun offset ↦ (spec.encode .frameBased ++ later).getD offset 0) 17 =
      spec.dwDefaultFrameInterval := by
    simp only [FrameSpec.encode, dwAt, splitSw, splitDw, List.cons_append, List.nil_append,
      Nat.reduceAdd, List.getD_cons_zero, List.getD_cons_succ, joinDw_bytes]
  have hline : dwAt (fun offset ↦ (spec.encode .frameBased ++ later).getD offset 0) 22 =
      spec.dwBytesPerLine := by
    simp only [FrameSpec.encode, dwAt, splitSw, splitDw, List.cons_append, List.nil_append,
      Nat.reduceAdd, List.getD_cons_zero, List.getD_cons_succ, joinDw_bytes]
  have htake : s.take (.frame parent spec) = s.appendFrame (spec.desc parent) := rfl
  rw [hparse, uvcParseVsFrameFrame, if_neg hsome, reads_of_le (by omega), htake, FrameSpec.desc]
  simp only [htype, hwidth, hheight, hminRate, hmaxRate, hdefault, hline, hkind]
  cases htiming : spec.timing with
  | continuous min max step =>
    obtain ⟨hmin, hmax, hstep⟩ := spec.timing_encode .frameBased htiming later
    rw [htiming, FrameTiming.length_encode_continuous] at hlength
    have hzero : (FrameTiming.continuous min max step).kind = 0 := rfl
    rw [if_pos hzero, reads_of_le hlength]
    simp only [hmin, hmax, hstep]
    rfl
  | discrete intervals =>
    have hintervals := intervalsAt_front .frameBased spec htiming later
    rw [htiming] at hfits hlength
    have hcount : (FrameTiming.discrete intervals).encode.length = 4 * intervals.length :=
      length_flatMap_splitDw intervals
    rw [hcount] at hlength
    rw [if_neg (FrameTiming.kind_ne_zero hfits), FrameTiming.toNat_kind_discrete hfits,
      reads_of_le hlength]
    simp only [htype, htiming, FrameTiming.toNat_kind_discrete hfits, hintervals]
    rfl

/-- What the frame descriptors of the first two kinds of format have in the same places. -/
theorem FrameSpec.words_uncompressed {kind : FormatKind} (hkind : kind ≠ .frameBased)
    (frame : FrameSpec) (later : List UInt8) :
    (frame.encode kind ++ later).getD 25 0 = frame.timing.kind ∧
      dwAt (fun offset ↦ (frame.encode kind ++ later).getD offset 0) 17 =
        frame.dwMaxVideoFrameBufferSize ∧
      dwAt (fun offset ↦ (frame.encode kind ++ later).getD offset 0) 21 =
        frame.dwDefaultFrameInterval := by
  cases kind with
  | frameBased => exact absurd rfl hkind
  | uncompressed =>
    simp only [FrameSpec.encode, dwAt, splitSw, splitDw, List.cons_append, List.nil_append,
      Nat.reduceAdd, List.getD_cons_zero, List.getD_cons_succ, joinDw_bytes, and_self]
  | mjpeg =>
    simp only [FrameSpec.encode, dwAt, splitSw, splitDw, List.cons_append, List.nil_append,
      Nat.reduceAdd, List.getD_cons_zero, List.getD_cons_succ, joinDw_bytes, and_self]

theorem uvcParseVs_uncompressed {kind : FormatKind} (hkind : kind ≠ .frameBased)
    (s : StreamingInterface) (frame : FrameSpec) (later : List UInt8) :
    uvcParseVs s (frame.encode kind ++ later) =
      uvcParseVsFrameUncompressed s (frame.encode kind ++ later) := by
  cases kind with
  | frameBased => exact absurd rfl hkind
  | uncompressed => rfl
  | mjpeg => rfl

theorem uvcParseVs_frameUncompressed (s : StreamingInterface) {format : FormatDesc}
    (parent : FormatSpec) (spec : FrameSpec) (hkind : parent.kind ≠ .frameBased)
    (hfits : spec.timing.Fits) (hlast : s.formatDescs.getLast? = some format)
    (hbits : format.bBitsPerPixel = parent.bare.bBitsPerPixel) (later : List UInt8) :
    uvcParseVs s (spec.encode parent.kind ++ later) = .ok (s.take (.frame parent spec)) := by
  have hlength := spec.length_encode_append parent.kind later
  obtain ⟨hwidth, hheight, hminRate, hmaxRate⟩ := spec.words_encode parent.kind later
  obtain ⟨htype, hsize, hdefault⟩ := spec.words_uncompressed hkind later
  have htake : s.take (.frame parent spec) = s.appendFrame (spec.desc parent) := rfl
  rw [uvcParseVs_uncompressed hkind, uvcParseVsFrameUncompressed, hlast, htake, FrameSpec.desc]
  simp only
  rw [reads_of_le (by omega)]
  simp only [htype, hwidth, hheight, hminRate, hmaxRate, hdefault, hsize, hbits]
  cases htiming : spec.timing with
  | continuous min max step =>
    obtain ⟨hmin, hmax, hstep⟩ := spec.timing_encode parent.kind htiming later
    rw [htiming, FrameTiming.length_encode_continuous] at hlength
    have hzero : (FrameTiming.continuous min max step).kind = 0 := rfl
    rw [if_pos hzero, reads_of_le hlength]
    simp only [hmin, hmax, hstep]
    cases hparent : parent.kind with
    | frameBased => exact absurd hparent hkind
    | uncompressed =>
      simp only [FormatSpec.bare, hparent]
      rfl
    | mjpeg =>
      simp only [FormatSpec.bare, hparent]
      rfl
  | discrete intervals =>
    have hintervals := intervalsAt_front parent.kind spec htiming later
    rw [htiming] at hfits hlength
    have hcount : (FrameTiming.discrete intervals).encode.length = 4 * intervals.length :=
      length_flatMap_splitDw intervals
    rw [hcount] at hlength
    rw [if_neg (FrameTiming.kind_ne_zero hfits), FrameTiming.toNat_kind_discrete hfits,
      reads_of_le hlength]
    simp only [htype, htiming, FrameTiming.toNat_kind_discrete hfits, hintervals]
    cases hparent : parent.kind with
    | frameBased => exact absurd hparent hkind
    | uncompressed =>
      simp only [FormatSpec.bare, hparent]
      rfl
    | mjpeg =>
      simp only [FormatSpec.bare, hparent]
      rfl

theorem uvcParseVs_frame (s : StreamingInterface) {format : FormatDesc} (parent : FormatSpec)
    (spec : FrameSpec) (hfits : spec.timing.Fits) (hlast : s.formatDescs.getLast? = some format)
    (hbits : format.bBitsPerPixel = parent.bare.bBitsPerPixel) (later : List UInt8) :
    uvcParseVs s (spec.encode parent.kind ++ later) = .ok (s.take (.frame parent spec)) := by
  by_cases hkind : parent.kind = .frameBased
  · refine uvcParseVs_frameBased s parent spec hkind hfits (fun hnil ↦ ?_) later
    simp [hnil] at hlast
  · exact uvcParseVs_frameUncompressed s parent spec hkind hfits hlast hbits later

theorem uvcParseVs_other (s : StreamingInterface) (spec : OtherSpec)
    (h : (StreamingBlock.other spec).Fits) (later : List UInt8) :
    uvcParseVs s (spec.encode ++ later) = .ok (s.take (.other spec)) := by
  have hsubtype : (spec.encode ++ later).getD 2 0 = spec.bDescriptorSubtype := rfl
  have hnot := h.2
  simp only [List.mem_cons, List.not_mem_nil, or_false, not_or] at hnot
  obtain ⟨hheader, huncompressed, hframe, hmjpeg, hframeMjpeg, hbased, hframeBased⟩ := hnot
  rw [uvcParseVs]
  simp only [hsubtype, hheader, huncompressed, hframe, hmjpeg, hframeMjpeg, hbased, hframeBased,
    if_false, or_self]
  rfl

theorem FrameTiming.length_encode_le {timing : FrameTiming} (h : timing.Fits) :
    timing.encode.length ≤ 228 := by
  cases timing with
  | continuous min max step =>
    rw [FrameTiming.length_encode_continuous]
    omega
  | discrete intervals =>
    have hcount : (FrameTiming.discrete intervals).encode.length = 4 * intervals.length :=
      length_flatMap_splitDw intervals
    have hfits : 0 < intervals.length ∧ intervals.length ≤ 57 := h
    omega

theorem FrameSpec.length_encode (kind : FormatKind) (frame : FrameSpec) :
    (frame.encode kind).length = 26 + frame.timing.encode.length := by
  rw [← frame.front_append, List.length_append, FrameSpec.length_front]

theorem FormatSpec.length_encode {format : FormatSpec}
    (h : (StreamingBlock.format format).Fits) :
    3 ≤ format.encode.length ∧
      (format.encode.headD 0).toNat = format.encode.length := by
  have hguid : format.guidFormat.length = 16 := h
  cases hkind : format.kind with
  | mjpeg => simp [FormatSpec.encode, hkind]
  | uncompressed => simp [FormatSpec.encode, hkind, hguid]
  | frameBased => simp [FormatSpec.encode, hkind, hguid]

/-- A block says its own length. -/
theorem StreamingBlock.length_encode (block : StreamingBlock) (h : block.Fits) :
    3 ≤ block.encode.length ∧ (block.encode.headD 0).toNat = block.encode.length := by
  cases block with
  | format spec => exact FormatSpec.length_encode h
  | header spec =>
    have hlength : spec.encode.length = _ := HeaderSpec.length_encode h
    have hle := h.1
    have hfirst : spec.encode.headD 0 =
        UInt8.ofNat (13 + spec.controls.length * spec.bControlSize.toNat) := rfl
    rw [StreamingBlock.encode, hfirst, hlength, UInt8.toNat_ofNat']
    omega
  | frame parent spec =>
    have hle := FrameTiming.length_encode_le h
    have hfirst : (spec.encode parent.kind).headD 0 =
        UInt8.ofNat (26 + spec.timing.encode.length) := by
      cases parent.kind <;> rfl
    rw [StreamingBlock.encode, hfirst, FrameSpec.length_encode, UInt8.toNat_ofNat']
    omega
  | other spec =>
    have hle := h.1
    have hfirst : spec.encode.headD 0 = UInt8.ofNat (3 + spec.payload.length) := rfl
    have hlength : spec.encode.length = 3 + spec.payload.length := by
      rw [OtherSpec.encode, List.length_append]
      rfl
    rw [StreamingBlock.encode, hfirst, hlength, UInt8.toNat_ofNat']
    omega

theorem StreamingBlock.size_encode (block : StreamingBlock) (h : block.Fits) (later : List UInt8) :
    3 ≤ (block.encode ++ later).length ∧ block.encode ≠ [] ∧
      vsScanner.size (block.encode ++ later) = block.encode.length := by
  obtain ⟨hleast, hsize⟩ := block.length_encode h
  cases hencode : block.encode with
  | nil => simp [hencode] at hleast
  | cons byte bytes =>
    rw [hencode] at hleast hsize
    refine ⟨?_, List.cons_ne_nil _ _, hsize⟩
    rw [List.length_append]
    omega

theorem uvcParseVs_block (s : StreamingInterface) (block : StreamingBlock) (h : s.Accepts block)
    (later : List UInt8) : uvcParseVs s (block.encode ++ later) = .ok (s.take block) := by
  obtain ⟨hfits, hbehind⟩ := h
  cases block with
  | header spec => exact uvcParseVs_header s spec hfits later
  | format spec => exact uvcParseVs_format s spec hfits later
  | frame parent spec =>
    obtain ⟨format, hlast, hbits⟩ := hbehind
    exact uvcParseVs_frame s parent spec hfits hlast hbits later
  | other spec => exact uvcParseVs_other s spec hfits later

/-! ### Whole streaming interfaces -/

theorem StreamingInterface.appendFrame_concat (s : StreamingInterface) {before : List FormatDesc}
    {format : FormatDesc} (h : s.formatDescs = before ++ [format]) (frame : FrameDesc) :
    s.appendFrame frame = { s with
      formatDescs := before ++ [{ format with frameDescs := format.frameDescs ++ [frame] }] } := by
  simp [StreamingInterface.appendFrame, h]

/-- The frames of a format go to it, one behind the other. -/
theorem accepted_frames (parent : FormatSpec) {s : StreamingInterface} {before : List FormatDesc}
    {format : FormatDesc} (hs : s.formatDescs = before ++ [format])
    (hbits : format.bBitsPerPixel = parent.bare.bBitsPerPixel) (frames : List FrameSpec)
    (hfits : ∀ frame ∈ frames, frame.timing.Fits) :
    BlockScanner.AcceptedAll StreamingInterface.take StreamingInterface.Accepts s
        (frames.map (.frame parent)) ∧
      (frames.map (StreamingBlock.frame parent)).foldl StreamingInterface.take s = { s with
        formatDescs := before ++
          [{ format with frameDescs := format.frameDescs ++ frames.map (·.desc parent) }] } := by
  induction frames generalizing s format with
  | nil =>
    refine ⟨trivial, ?_⟩
    simp [← hs]
  | cons frame frames ih =>
    have htake : s.take (.frame parent frame) = _ := s.appendFrame_concat hs (frame.desc parent)
    have hlast : s.formatDescs.getLast? = some format := by rw [hs, List.getLast?_concat]
    have hs' : (s.take (.frame parent frame)).formatDescs = before ++
        [{ format with frameDescs := format.frameDescs ++ [frame.desc parent] }] := by rw [htake]
    obtain ⟨haccepted, hfold⟩ := ih hs' hbits fun other hother ↦
      hfits other (List.mem_cons_of_mem _ hother)
    refine ⟨⟨⟨hfits frame List.mem_cons_self, format, hlast, hbits⟩, haccepted⟩, ?_⟩
    rw [List.map_cons, List.foldl_cons, hfold, htake]
    simp

theorem accepted_others (s : StreamingInterface) (others : List OtherSpec)
    (hfits : ∀ other ∈ others, (StreamingBlock.other other).Fits) :
    BlockScanner.AcceptedAll StreamingInterface.take StreamingInterface.Accepts s
        (others.map .other) ∧
      (others.map StreamingBlock.other).foldl StreamingInterface.take s = s := by
  induction others with
  | nil => exact ⟨trivial, rfl⟩
  | cons other others ih =>
    obtain ⟨haccepted, hfold⟩ := ih fun later hlater ↦ hfits later (List.mem_cons_of_mem _ hlater)
    exact ⟨⟨⟨hfits other List.mem_cons_self, trivial⟩, haccepted⟩, hfold⟩

/-- A format with the blocks behind it. -/
theorem accepted_format (s : StreamingInterface) (format : FormatSpec)
    (hfits : ∀ block ∈ format.blocks, block.Fits) :
    BlockScanner.AcceptedAll StreamingInterface.take StreamingInterface.Accepts s format.blocks ∧
      format.blocks.foldl StreamingInterface.take s = s.appendFormat format.desc := by
  simp only [FormatSpec.blocks, List.forall_mem_cons, List.forall_mem_append,
    List.forall_mem_map] at hfits
  obtain ⟨hformat, hframes, hothers⟩ := hfits
  obtain ⟨hacceptedFrames, hfoldFrames⟩ := accepted_frames format
    (s := s.appendFormat format.bare) rfl rfl format.frames hframes
  obtain ⟨hacceptedOthers, hfoldOthers⟩ := accepted_others
    ((format.frames.map (StreamingBlock.frame format)).foldl StreamingInterface.take
      (s.appendFormat format.bare)) format.others hothers
  refine ⟨⟨⟨hformat, trivial⟩, ?_⟩, ?_⟩
  · exact BlockScanner.acceptedAll_append.mpr ⟨hacceptedFrames, hacceptedOthers⟩
  · have htake : s.take (.format format) = s.appendFormat format.bare := rfl
    rw [FormatSpec.blocks, List.foldl_cons, List.foldl_append, htake, hfoldOthers, hfoldFrames]
    rfl

theorem accepted_formats (s : StreamingInterface) (formats : List FormatSpec)
    (hfits : ∀ format ∈ formats, ∀ block ∈ format.blocks, block.Fits) :
    BlockScanner.AcceptedAll StreamingInterface.take StreamingInterface.Accepts s
        (formats.flatMap FormatSpec.blocks) ∧
      (formats.flatMap FormatSpec.blocks).foldl StreamingInterface.take s =
        { s with formatDescs := s.formatDescs ++ formats.map FormatSpec.desc } := by
  induction formats generalizing s with
  | nil =>
    refine ⟨trivial, ?_⟩
    simp
  | cons format formats ih =>
    obtain ⟨haccepted, hfold⟩ := accepted_format s format (hfits format List.mem_cons_self)
    obtain ⟨hacceptedRest, hfoldRest⟩ := ih (s.appendFormat format.desc) fun other hother ↦
      hfits other (List.mem_cons_of_mem _ hother)
    rw [List.flatMap_cons]
    refine ⟨BlockScanner.acceptedAll_append.mpr ⟨haccepted, ?_⟩, ?_⟩
    · rw [hfold]
      exact hacceptedRest
    · rw [List.foldl_append, hfold, hfoldRest]
      simp [StreamingInterface.appendFormat]

/-- The scan of a streaming interface takes in what was said of it. -/
theorem scan_streaming_encode (spec : StreamingSpec) (h : ∀ block ∈ spec.blocks, block.Fits)
    (bInterfaceNumber : UInt8) :
    vsScanner.scan (.blank bInterfaceNumber) spec.encode =
      .ok (spec.interface bInterfaceNumber) := by
  have hfits := h
  simp only [StreamingSpec.blocks, List.forall_mem_cons, List.forall_mem_flatMap] at hfits
  obtain ⟨haccepted, hfold⟩ := accepted_formats
    ((StreamingInterface.blank bInterfaceNumber).take (.header spec.header)) spec.formats hfits.2
  have hall : BlockScanner.AcceptedAll StreamingInterface.take StreamingInterface.Accepts
      (.blank bInterfaceNumber) spec.blocks := ⟨⟨hfits.1, trivial⟩, haccepted⟩
  have hencode : ∀ (s : StreamingInterface) (block : StreamingBlock) (later : List UInt8),
      s.Accepts block → vsScanner.least ≤ (block.encode ++ later).length ∧ block.encode ≠ [] ∧
        vsScanner.size (block.encode ++ later) = block.encode.length ∧
          vsScanner.handle s (block.encode ++ later) = .ok (s.take block) := by
    intro s block later haccept
    obtain ⟨hleast, hne, hsize⟩ := block.size_encode haccept.1 later
    exact ⟨hleast, hne, hsize, uvcParseVs_block s block haccept later⟩
  have hscan := BlockScanner.scan_encodeAll (by decide) hencode hall
  rw [StreamingSpec.encode, hscan, StreamingSpec.blocks, List.foldl_cons, hfold]
  rfl

end UvcRtmpStream.Camera
