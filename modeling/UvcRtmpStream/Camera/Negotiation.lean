import UvcRtmpStream.Camera.StreamControl

/-!
# Agreeing on a mode

`uvc_get_stream_ctrl_format_size_fps` looks for a mode of a given format, size and range of frame
rates: through the streaming interfaces, through the formats of each, through the frames and
intervals of each format. For each format it tries, it claims the interface and reads the control
block of the camera; where the camera refuses, or the format has no such mode, it releases the
interface and goes on. With the first mode it asks the camera to take it.

The camera is a function from what was sent to its answer, so that a statement about every camera is
one about all the answers there can be. The steps of a range of intervals may be zero, which the
search divides by (`Outcome.dividesByZero`).
-/

set_option autoImplicit false
set_option relaxedAutoImplicit false

namespace UvcRtmpStream.Camera

open UvcRtmpStream.Foundations LittleEndian

/-! ### Formats -/

/-- `enum uvc_frame_format`. `any` is `UVC_FRAME_FORMAT_UNKNOWN` too. -/
inductive FrameFormat
  | any
  | uncompressed
  | compressed
  | yuyv
  | uyvy
  | rgb565
  | rgb
  | bgr
  | rgbx
  | mjpeg
  | gray8
  | by8
  deriving DecidableEq

/-- `struct format_table_entry`. `abstract_fmt` is left out: it is zero in every entry. -/
structure FormatEntry where
  guid : List UInt8
  children : List FrameFormat

/-- The GUID of four characters. -/
def fourccGuid (first second third fourth : UInt8) : List UInt8 :=
  [first, second, third, fourth, 0x00, 0x00, 0x10, 0x00, 0x80, 0x00, 0x00, 0xaa, 0x00, 0x38, 0x9b,
    0x71]

/-- `_get_format_entry`. An abstract format has a GUID of zeros. -/
def getFormatEntry : FrameFormat → Option FormatEntry
  | .any => some ⟨List.replicate 16 0, [.uncompressed, .compressed]⟩
  | .uncompressed => some ⟨List.replicate 16 0, [.yuyv, .uyvy, .gray8]⟩
  | .yuyv => some ⟨fourccGuid 0x59 0x55 0x59 0x32, []⟩
  | .uyvy => some ⟨fourccGuid 0x55 0x59 0x56 0x59, []⟩
  | .gray8 => some ⟨fourccGuid 0x59 0x38 0x30 0x30, []⟩
  | .by8 => some ⟨fourccGuid 0x42 0x59 0x38 0x20, []⟩
  | .compressed => some ⟨List.replicate 16 0, [.mjpeg]⟩
  | .mjpeg => some ⟨fourccMjpg, []⟩
  | .rgb565 | .rgb | .bgr | .rgbx => none

/-- `_uvc_frame_format_matches_guid`, down to a given depth of the table. -/
def matchesGuidWithin : ℕ → FrameFormat → List UInt8 → Bool
  | 0, _, _ => false
  | depth + 1, format, guid =>
    match getFormatEntry format with
    | none => false
    | some entry =>
      decide (guid = entry.guid) ||
        entry.children.any fun child ↦ matchesGuidWithin depth child guid

/-- `_uvc_frame_format_matches_guid`. -/
def uvcFrameFormatMatchesGuid (format : FrameFormat) (guid : List UInt8) : Bool :=
  matchesGuidWithin 3 format guid

/-- The formats from `0` to `UVC_FRAME_FORMAT_COUNT - 1`. -/
def frameFormats : List FrameFormat :=
  [.any, .uncompressed, .compressed, .yuyv, .uyvy, .rgb565, .rgb, .bgr, .rgbx, .mjpeg, .gray8, .by8]

/-- `uvc_frame_format_for_guid`. -/
def uvcFrameFormatForGuid (guid : List UInt8) : FrameFormat :=
  (frameFormats.find? fun format ↦ (getFormatEntry format).any fun entry ↦
    decide (entry.guid = guid)).getD .any

/-! ### Transfers -/

inductive VsRequest
  | setCur
  | getCur
  | getMin
  | getMax
  deriving DecidableEq

/-- What is sent to the camera. -/
inductive Request
  | claim (bInterfaceNumber : UInt8)
  | release (bInterfaceNumber : UInt8)
  | control (bInterfaceNumber : UInt8) (probe : Bool) (request : VsRequest) (block : List UInt8)
  deriving DecidableEq

/-- An error code, or zero, or the number of bytes that were transferred. -/
structure Reply where
  result : ℤ
  data : List UInt8

/-- The answer to the last of the requests. -/
abbrev Answering := List Request → Reply

def uvcErrorInvalidMode : ℤ := -51

def uvcErrorOther : ℤ := -99

/-- `_uvc_find_frame_desc_stream_if`: the frame, with its parent. -/
def StreamingInterface.findFrame (streamIf : StreamingInterface) (formatId frameId : UInt8) :
    Option (FormatDesc × FrameDesc) :=
  streamIf.formatDescs.findSome? fun format ↦
    if format.bFormatIndex = formatId then
      (format.frameDescs.find? fun frame ↦ frame.bFrameIndex = frameId).map fun frame ↦
        (format, frame)
    else none

/-- `uvc_find_frame_desc`. -/
def uvcFindFrameDesc (info : DeviceInfo) (formatId frameId : UInt8) : Option FrameDesc :=
  (info.streamIfs.findSome? fun streamIf ↦ streamIf.findFrame formatId frameId).map Prod.snd

/-- The end of `uvc_query_stream_ctrl`, for cameras that fail to set `dwMax`. -/
def fixUp (info : DeviceInfo) (ctrl : StreamCtrl) : StreamCtrl :=
  if ctrl.dwMaxVideoFrameSize = 0 then
    match uvcFindFrameDesc info ctrl.bFormatIndex ctrl.bFrameIndex with
    | some frame => { ctrl with dwMaxVideoFrameSize := frame.dwMaxVideoFrameBufferSize }
    | none => ctrl
  else ctrl

/-- `uvc_query_stream_ctrl`: what was sent by its end, the block, and the error. -/
def uvcQueryStreamCtrl (camera : Answering) (info : DeviceInfo) (sent : List Request)
    (ctrl : StreamCtrl) (probe : Bool) (request : VsRequest) : List Request × StreamCtrl × ℤ :=
  let block := if request = .setCur then encodeCtrl info.bcdUVC ctrl else []
  let sent := sent ++ [.control ctrl.bInterfaceNumber probe request block]
  let reply := camera sent
  if reply.result ≤ 0 then
    (sent, ctrl, if reply.result = 0 then uvcErrorOther else reply.result)
  else if reply.result < blockLength info.bcdUVC then (sent, ctrl, uvcErrorOther)
  else if request = .setCur then (sent, ctrl, 0)
  else (sent, fixUp info (decodeCtrl info.bcdUVC ctrl reply.data), 0)

/-- `_prepare_stream_ctrl`. -/
def prepareStreamCtrl (camera : Answering) (info : DeviceInfo) (sent : List Request)
    (ctrl : StreamCtrl) : List Request × StreamCtrl × ℤ :=
  match uvcQueryStreamCtrl camera info sent ctrl true .getCur with
  | (sent, ctrl, result) =>
    if result ≠ 0 then (sent, ctrl, result)
    else
      match uvcQueryStreamCtrl camera info sent ctrl true .getMin with
      | (sent, ctrl, result) =>
        if result ≠ 0 then (sent, ctrl, result)
        else uvcQueryStreamCtrl camera info sent ctrl true .getMax

/-- `uvc_probe_stream_ctrl`. -/
def uvcProbeStreamCtrl (camera : Answering) (info : DeviceInfo) (sent : List Request)
    (ctrl : StreamCtrl) : List Request × StreamCtrl × ℤ :=
  let sent := sent ++ [.claim ctrl.bInterfaceNumber]
  let result := (camera sent).result
  if result ≠ 0 then (sent, ctrl, result)
  else
    match uvcQueryStreamCtrl camera info sent ctrl true .setCur with
    | (sent, ctrl, result) =>
      if result ≠ 0 then (sent, ctrl, result)
      else uvcQueryStreamCtrl camera info sent ctrl true .getCur

/-! ### The search -/

/-- What the search through a frame or through the frames of a format comes to. -/
inductive Found (α : Type)
  | nothing
  | mode (value : α)
  | dividesByZero

/-- The `for` loop over the intervals of a frame, up to the zero at its end. -/
def searchIntervals (minFps maxFps : ℤ) : List UInt32 → Found UInt32
  | [] => .nothing
  | interval :: intervals =>
    if interval = 0 then .nothing
    else
      let it := 10000000 / interval
      if UInt32.ofInt minFps ≤ it ∧ it ≤ UInt32.ofInt maxFps then .mode interval
      else searchIntervals minFps maxFps intervals

/-- The body of the loop over the frame rates of a range of intervals, and the loop. -/
def searchRates (frame : FrameDesc) : List ℤ → Found UInt32
  | [] => .nothing
  | fps :: rates =>
    if fps = 0 then searchRates frame rates
    else
      let interval := UInt32.ofInt (Int.tdiv 10000000 fps)
      let offset := interval - frame.dwMinFrameInterval
      if frame.dwMinFrameInterval ≤ interval ∧ interval ≤ frame.dwMaxFrameInterval then
        if offset = 0 then .mode interval
        else if frame.dwFrameIntervalStep = 0 then .dividesByZero
        else if offset % frame.dwFrameIntervalStep = 0 then .mode interval
        else searchRates frame rates
      else searchRates frame rates

/-- The frame rates from the greatest to the least. -/
def ratesDown (minFps maxFps : ℤ) : List ℤ :=
  (List.range (maxFps - minFps + 1).toNat).map fun (step : ℕ) ↦ maxFps - step

/-- The search through one frame. -/
def searchFrame (minFps maxFps : ℤ) (frame : FrameDesc) : Found UInt32 :=
  match frame.intervals with
  | some intervals => searchIntervals minFps maxFps intervals
  | none => searchRates frame (ratesDown minFps maxFps)

/-- The loop of `_uvc_get_stream_ctrl_format` over the frames of a format. -/
def searchFrames (width height minFps maxFps : ℤ) : List FrameDesc → Found (FrameDesc × UInt32)
  | [] => .nothing
  | frame :: frames =>
    if (frame.wWidth.toNat : ℤ) ≠ width ∨ (frame.wHeight.toNat : ℤ) ≠ height then
      searchFrames width height minFps maxFps frames
    else
      match searchFrame minFps maxFps frame with
      | .mode interval => .mode (frame, interval)
      | .dividesByZero => .dividesByZero
      | .nothing => searchFrames width height minFps maxFps frames

inductive Outcome
  | returned (result : ℤ)
  | dividesByZero
  deriving DecidableEq

/-- `_uvc_get_stream_ctrl_format`. -/
def uvcGetStreamCtrlFormat (camera : Answering) (info : DeviceInfo) (width height minFps maxFps : ℤ)
    (streamIf : StreamingInterface) (format : FormatDesc) (sent : List Request)
    (ctrl : StreamCtrl) : List Request × StreamCtrl × Outcome :=
  let number := streamIf.bInterfaceNumber
  let ctrl := { ctrl with bInterfaceNumber := number }
  let sent := sent ++ [.claim number]
  let result := (camera sent).result
  if result ≠ 0 then (sent ++ [.release number], ctrl, .returned result)
  else
    match prepareStreamCtrl camera info sent ctrl with
    | (sent, ctrl, _) =>
      match prepareStreamCtrl camera info sent ctrl with
      | (sent, ctrl, result) =>
        if result ≠ 0 then (sent ++ [.release number], ctrl, .returned result)
        else
          match searchFrames width height minFps maxFps format.frameDescs with
          | .nothing => (sent ++ [.release number], ctrl, .returned uvcErrorInvalidMode)
          | .dividesByZero => (sent, ctrl, .dividesByZero)
          | .mode (frame, interval) =>
            (sent, { ctrl with
              bmHint := 1
              bFormatIndex := format.bFormatIndex
              bFrameIndex := frame.bFrameIndex
              dwFrameInterval := interval }, .returned 0)

/-- The loops of `uvc_get_stream_ctrl_format_size_fps`, and what comes behind them. -/
def tryFormats (camera : Answering) (info : DeviceInfo) (cf : FrameFormat)
    (width height minFps maxFps : ℤ) :
    List (StreamingInterface × FormatDesc) → List Request → StreamCtrl →
      List Request × StreamCtrl × Outcome
  | [], sent, ctrl => (sent, ctrl, .returned uvcErrorInvalidMode)
  | (streamIf, format) :: formats, sent, ctrl =>
    if uvcFrameFormatMatchesGuid cf format.guidFormat then
      match uvcGetStreamCtrlFormat camera info width height minFps maxFps streamIf format sent
          ctrl with
      | (sent, ctrl, .dividesByZero) => (sent, ctrl, .dividesByZero)
      | (sent, ctrl, .returned result) =>
        if result = 0 then
          match uvcProbeStreamCtrl camera info sent ctrl with
          | (sent, ctrl, result) => (sent, ctrl, .returned result)
        else tryFormats camera info cf width height minFps maxFps formats sent ctrl
    else tryFormats camera info cf width height minFps maxFps formats sent ctrl

/-- The formats of all streaming interfaces. -/
def DeviceInfo.formats (info : DeviceInfo) : List (StreamingInterface × FormatDesc) :=
  info.streamIfs.flatMap fun streamIf ↦ streamIf.formatDescs.map fun format ↦ (streamIf, format)

/-- `uvc_get_stream_ctrl_format_size_fps`. -/
def uvcGetStreamCtrlFormatSizeFps (camera : Answering) (info : DeviceInfo) (cf : FrameFormat)
    (width height minFps maxFps : ℤ) : List Request × StreamCtrl × Outcome :=
  tryFormats camera info cf width height minFps maxFps info.formats [] .zero

/-! ### What the search finds -/

theorem mem_ratesDown {minFps maxFps fps : ℤ} :
    fps ∈ ratesDown minFps maxFps ↔ minFps ≤ fps ∧ fps ≤ maxFps := by
  simp only [ratesDown, List.mem_map, List.mem_range]
  constructor
  · rintro ⟨step, hstep, rfl⟩
    omega
  · rintro ⟨hmin, hmax⟩
    exact ⟨(maxFps - fps).toNat, by omega, by omega⟩

/-- What a search found, by what it came to. -/
def Found.Meets {α : Type} (found : Found α) (mode : α → Prop) (nothing dividesByZero : Prop) :
    Prop :=
  match found with
  | .mode value => mode value
  | .nothing => nothing
  | .dividesByZero => dividesByZero

theorem Found.Meets.mono {α : Type} {found : Found α} {mode mode' : α → Prop}
    {nothing nothing' divides divides' : Prop} (h : found.Meets mode nothing divides)
    (hmode : ∀ value, mode value → mode' value) (hnothing : nothing → nothing')
    (hdivides : divides → divides') : found.Meets mode' nothing' divides' := by
  cases found with
  | mode value => exact hmode value h
  | nothing => exact hnothing h
  | dividesByZero => exact hdivides h

/-- The interval makes a frame rate within bounds. -/
def InRange (minFps maxFps : ℤ) (interval : UInt32) : Prop :=
  UInt32.ofInt minFps ≤ 10000000 / interval ∧ 10000000 / interval ≤ UInt32.ofInt maxFps

theorem searchIntervals_spec (minFps maxFps : ℤ) (intervals : List UInt32) :
    (searchIntervals minFps maxFps intervals).Meets
      (fun interval ↦ interval ∈ intervals.takeWhile (· ≠ 0) ∧ InRange minFps maxFps interval)
      (∀ interval ∈ intervals.takeWhile (· ≠ 0), ¬ InRange minFps maxFps interval) False := by
  induction intervals with
  | nil => simp [searchIntervals, Found.Meets]
  | cons interval intervals ih =>
    rw [searchIntervals]
    by_cases hzero : interval = 0
    · simp [hzero, Found.Meets]
    · have htake : (interval :: intervals).takeWhile (· ≠ 0) =
          interval :: intervals.takeWhile (· ≠ 0) := List.takeWhile_cons_of_pos (by simpa)
      rw [if_neg hzero, htake]
      simp only
      split_ifs with hrate
      · exact ⟨List.mem_cons_self, hrate⟩
      · exact ih.mono (fun found h ↦ ⟨List.mem_cons_of_mem _ h.1, h.2⟩)
          (fun h ↦ List.forall_mem_cons.mpr ⟨hrate, h⟩) fun h ↦ h

/-- An interval that the camera has at a frame rate. -/
def FrameDesc.AtRate (frame : FrameDesc) (fps : ℤ) (interval : UInt32) : Prop :=
  fps ≠ 0 ∧ interval = UInt32.ofInt (Int.tdiv 10000000 fps) ∧
    frame.dwMinFrameInterval ≤ interval ∧ interval ≤ frame.dwMaxFrameInterval ∧
    (interval - frame.dwMinFrameInterval) % frame.dwFrameIntervalStep = 0

theorem searchRates_spec (frame : FrameDesc) (rates : List ℤ) :
    (searchRates frame rates).Meets
      (fun interval ↦ ∃ fps ∈ rates, frame.AtRate fps interval)
      (∀ fps ∈ rates, ∀ interval, ¬ frame.AtRate fps interval)
      (frame.dwFrameIntervalStep = 0) := by
  induction rates with
  | nil => simp [searchRates, Found.Meets]
  | cons fps rates ih =>
    -- what is found behind a rate that the camera does not have
    have hpast (hnot : ∀ interval, ¬ frame.AtRate fps interval) :
        (searchRates frame rates).Meets
          (fun interval ↦ ∃ other ∈ fps :: rates, frame.AtRate other interval)
          (∀ other ∈ fps :: rates, ∀ interval, ¬ frame.AtRate other interval)
          (frame.dwFrameIntervalStep = 0) :=
      ih.mono (fun interval ⟨other, hother, hrate⟩ ↦ ⟨other, List.mem_cons_of_mem _ hother, hrate⟩)
        (fun h ↦ List.forall_mem_cons.mpr ⟨hnot, h⟩) fun h ↦ h
    rw [searchRates]
    by_cases hzero : fps = 0
    · rw [if_pos hzero]
      exact hpast fun interval h ↦ h.1 hzero
    · rw [if_neg hzero]
      simp only
      split_ifs with hrange hoffset hstep hgrid
      · refine ⟨fps, List.mem_cons_self, hzero, rfl, hrange.1, hrange.2, ?_⟩
        rw [hoffset, UInt32.zero_mod]
      · exact hstep
      · exact ⟨fps, List.mem_cons_self, hzero, rfl, hrange.1, hrange.2, hgrid⟩
      · refine hpast fun interval h ↦ hgrid ?_
        rw [← h.2.1]
        exact h.2.2.2.2
      · refine hpast fun interval h ↦ hrange ?_
        rw [← h.2.1]
        exact ⟨h.2.2.1, h.2.2.2.1⟩

/-- A frame can be had at an interval, the frame rate being within bounds. -/
def FrameDesc.Rate (frame : FrameDesc) (minFps maxFps : ℤ) (interval : UInt32) : Prop :=
  match frame.intervals with
  | some intervals =>
    interval ∈ intervals.takeWhile (· ≠ 0) ∧ InRange minFps maxFps interval
  | none => ∃ fps, (minFps ≤ fps ∧ fps ≤ maxFps) ∧ frame.AtRate fps interval

/-- A range of intervals without a step. -/
def FrameDesc.Stepless (frame : FrameDesc) : Prop :=
  frame.intervals = none ∧ frame.dwFrameIntervalStep = 0

theorem searchFrame_spec (minFps maxFps : ℤ) (frame : FrameDesc) :
    (searchFrame minFps maxFps frame).Meets (frame.Rate minFps maxFps)
      (∀ interval, ¬ frame.Rate minFps maxFps interval) frame.Stepless := by
  rw [searchFrame]
  cases hintervals : frame.intervals with
  | some intervals =>
    refine (searchIntervals_spec minFps maxFps intervals).mono ?_ ?_ False.elim
    · intro interval h
      simpa only [FrameDesc.Rate, hintervals] using h
    · intro hnone interval h
      simp only [FrameDesc.Rate, hintervals] at h
      exact hnone interval h.1 h.2
  | none =>
    refine (searchRates_spec frame (ratesDown minFps maxFps)).mono ?_ ?_ fun h ↦ ⟨hintervals, h⟩
    · rintro interval ⟨fps, hfps, hrate⟩
      simp only [FrameDesc.Rate, hintervals]
      exact ⟨fps, mem_ratesDown.mp hfps, hrate⟩
    · intro hnone interval h
      simp only [FrameDesc.Rate, hintervals] at h
      obtain ⟨fps, hfps, hrate⟩ := h
      exact hnone fps (mem_ratesDown.mpr hfps) interval hrate

/-- The size of a frame. -/
def FrameDesc.HasSize (frame : FrameDesc) (width height : ℤ) : Prop :=
  (frame.wWidth.toNat : ℤ) = width ∧ (frame.wHeight.toNat : ℤ) = height

theorem searchFrames_spec (width height minFps maxFps : ℤ) (frames : List FrameDesc) :
    (searchFrames width height minFps maxFps frames).Meets
      (fun found ↦ found.1 ∈ frames ∧ found.1.HasSize width height ∧
        found.1.Rate minFps maxFps found.2)
      (∀ frame ∈ frames, frame.HasSize width height →
        ∀ interval, ¬ frame.Rate minFps maxFps interval)
      (∃ frame ∈ frames, frame.HasSize width height ∧ frame.Stepless) := by
  induction frames with
  | nil => simp [searchFrames, Found.Meets]
  | cons frame frames ih =>
    -- what is found behind a frame that is of no use
    have hpast (hnot : frame.HasSize width height →
        ∀ interval, ¬ frame.Rate minFps maxFps interval) :=
      ih.mono (fun found h ↦ (⟨List.mem_cons_of_mem frame h.1, h.2⟩ :
          found.1 ∈ frame :: frames ∧ found.1.HasSize width height ∧
            found.1.Rate minFps maxFps found.2))
        (fun h ↦ List.forall_mem_cons.mpr ⟨hnot, h⟩)
        fun ⟨other, hother, h⟩ ↦ (⟨other, List.mem_cons_of_mem _ hother, h⟩ :
          ∃ other ∈ frame :: frames, other.HasSize width height ∧ other.Stepless)
    rw [searchFrames]
    split_ifs with hother
    · refine hpast fun hsize ↦ ?_
      exact (hother.elim (fun h ↦ h hsize.1) fun h ↦ h hsize.2).elim
    · have hsize : frame.HasSize width height := by
        rw [not_or, not_not, not_not] at hother
        exact hother
      have hspec := searchFrame_spec minFps maxFps frame
      cases hsearch : searchFrame minFps maxFps frame with
      | dividesByZero =>
        rw [hsearch] at hspec
        exact ⟨frame, List.mem_cons_self, hsize, hspec⟩
      | mode interval =>
        rw [hsearch] at hspec
        exact ⟨List.mem_cons_self, hsize, hspec⟩
      | nothing =>
        rw [hsearch] at hspec
        exact hpast fun _ ↦ hspec

end UvcRtmpStream.Camera
