import UvcRtmpStream.Camera.NegotiationTrace
import UvcRtmpStream.Camera.SupportedSizes
import UvcRtmpStream.Streaming.StreamService

/-!
# The size that the service asks for

When a camera is connected, `StreamService` asks for the largest of the sizes that `UVCCamera` lists
for MJPEG, as MJPEG. The list is read from a text, and knows nothing of frame rates; the driver
looks for the size in the device information, at 1 to 30 frames in a second.

`connect_size_iff` says how this ends. There is no size where every MJPEG format of the camera is
without frames or behind a format of another kind. A size that is listed is refused where no frame
of that size has a frame rate within bounds.
-/

set_option autoImplicit false
set_option relaxedAutoImplicit false

namespace UvcRtmpStream.Camera

open UvcRtmpStream.Foundations
open UvcRtmpStream.Streaming (CameraSize largestSize)

/-- `UVCCamera.getSupportedSizeList`. -/
def UVCCamera.getSupportedSizeList (currentFrameFormat : Int32) (supportedSize : List Char) :
    List Size :=
  UVCCamera.getSupportedSize (if currentFrameFormat > 0 then 6 else 4) supportedSize

/-- The fields of `UVCPreview` for what is asked of the camera. -/
structure PreviewRequest where
  requestWidth : ℤ
  requestHeight : ℤ
  requestMinFps : ℤ
  requestMaxFps : ℤ
  requestMode : ℤ

/-- As the constructor of `UVCPreview` leaves them. -/
def PreviewRequest.initial : PreviewRequest := ⟨640, 480, 1, 30, 0⟩

/-- `UVCPreview::setPreviewSize`. What was asked last is not asked again. -/
def UVCPreview.setPreviewSize (camera : Answering) (info : DeviceInfo)
    (request asked : PreviewRequest) : PreviewRequest × Outcome :=
  if request.requestWidth ≠ asked.requestWidth ∨ request.requestHeight ≠ asked.requestHeight ∨
      request.requestMode ≠ asked.requestMode then
    (asked, (uvcGetStreamCtrlFormatSizeFps camera info
      (if asked.requestMode = 0 then .yuyv else .mjpeg) asked.requestWidth asked.requestHeight
      asked.requestMinFps asked.requestMaxFps).2.2)
  else (request, .returned 0)

/-- How the choice of a size ends: without a size, with a size that is refused, or with a size that
the camera takes. The process ends where the search divides by zero. -/
inductive SizeChoice
  | noSuchElement
  | illegalArgument
  | chosen (size : CameraSize)
  | dividesByZero

/-- The sizes of a new camera that has been opened, by `supportedSizeList`. -/
def DeviceInfo.supportedSizeList (info : DeviceInfo) : List CameraSize :=
  (UVCCamera.getSupportedSizeList 1 (UVCDiags.getSupportedSize info)).map fun size ↦
    ⟨size.width, size.height⟩

/-- The part of `onConnect` that asks for the largest size, after `UVCCamera.open`, which asks for
the default size first and does not look at what comes of it. -/
def connectSize (camera : Answering) (info : DeviceInfo) : SizeChoice :=
  match UVCPreview.setPreviewSize camera info .initial ⟨640, 480, 1, 30, 0⟩ with
  | (_, .dividesByZero) => .dividesByZero
  | (request, .returned _) =>
    match largestSize info.supportedSizeList with
    | none => .noSuchElement
    | some size =>
      if size.width = 0 ∨ size.height = 0 then .illegalArgument
      else
        match UVCPreview.setPreviewSize camera info request
          ⟨size.width.toInt, size.height.toInt, 1, 30, 1⟩ with
        | (_, .dividesByZero) => .dividesByZero
        | (_, .returned result) => if result = 0 then .chosen size else .illegalArgument

/-- The MJPEG formats that are read. -/
def DeviceInfo.readableMjpeg (info : DeviceInfo) : List FormatDesc :=
  info.readable.filter fun format ↦ format.bDescriptorSubtype = 0x06

/-- The size of a frame, as the service has it. -/
def FrameDesc.cameraSize (frame : FrameDesc) : CameraSize :=
  ⟨Int32.ofNat frame.wWidth.toNat, Int32.ofNat frame.wHeight.toNat⟩

theorem type_eq_six_iff (format : FormatDesc) :
    format.type = 6 ↔ format.bDescriptorSubtype = 0x06 := by
  have hbyte := format.bDescriptorSubtype.toNat_lt
  rw [FormatDesc.type, ← UInt8.toNat_inj, ← Int32.toInt_inj,
    Int32.toInt_ofNat_of_lt (lt_trans hbyte (by decide))]
  exact Int.ofNat_inj

theorem supportedSizeList_eq (info : DeviceInfo) :
    info.supportedSizeList =
      info.readableMjpeg.flatMap fun format ↦ format.frameDescs.map FrameDesc.cameraSize := by
  have htypes : (info.readable.filter fun format ↦ format.type = 6 ∨ (6 : Int32) = -1) =
      info.readableMjpeg := by
    rw [DeviceInfo.readableMjpeg]
    congr
    funext format
    have hsix : ¬ (6 : Int32) = -1 := by decide
    simp only [type_eq_six_iff, hsix, or_false]
  have hlist : UVCCamera.getSupportedSizeList 1 (UVCDiags.getSupportedSize info) =
      info.readableMjpeg.flatMap FormatDesc.sizes := by
    rw [UVCCamera.getSupportedSizeList, if_pos (by decide), getSupportedSize_of_text,
      addFormats_map, ← DeviceInfo.readable, htypes]
  rw [DeviceInfo.supportedSizeList, hlist, List.map_flatMap]
  congr
  funext format
  apply List.ext_getElem?
  intro place
  simp only [FormatDesc.sizes, List.getElem?_map, List.getElem?_mapIdx, Option.map_map]
  rfl

theorem mem_supportedSizeList {info : DeviceInfo} {size : CameraSize} :
    size ∈ info.supportedSizeList ↔
      ∃ format ∈ info.readableMjpeg, ∃ frame ∈ format.frameDescs, frame.cameraSize = size := by
  simp only [supportedSizeList_eq, List.mem_flatMap, List.mem_map]

/-- The largest size is one of them, and none is larger. -/
theorem largestSize_mem {sizes : List CameraSize} {size : CameraSize}
    (h : largestSize sizes = some size) : size ∈ sizes := by
  cases sizes with
  | nil => exact absurd h (Option.some_ne_none _).symm
  | cons first sizes =>
    obtain rfl := Option.some.inj h
    refine List.foldlRecOn sizes _ List.mem_cons_self fun best hbest next hnext ↦ ?_
    split_ifs
    · exact List.mem_cons_of_mem _ hnext
    · exact hbest

theorem largestSize_eq_none_iff {sizes : List CameraSize} :
    largestSize sizes = none ↔ sizes = [] := by
  cases sizes <;> simp [largestSize]

/-- The size is not empty, and a frame of that size can be had as MJPEG. -/
def DeviceInfo.Takes (info : DeviceInfo) (size : CameraSize) : Prop :=
  ¬ (size.width = 0 ∨ size.height = 0) ∧
    ∃ mode, info.Offers .mjpeg size.width.toInt size.height.toInt 1 30 mode

section Obliging

variable {camera : Answering} {info : DeviceInfo} (h : Obliging camera info.bcdUVC)
  (hsteps : ∀ listed ∈ info.formats, ∀ frame ∈ listed.2.frameDescs, ¬ frame.Stepless)
include h hsteps

/-- What becomes of a size that is asked for. -/
theorem connectSize_of_largest {size : CameraSize}
    (hlargest : largestSize info.supportedSizeList = some size) :
    info.Takes size ∧ connectSize camera info = .chosen size ∨
      ¬ info.Takes size ∧ connectSize camera info = .illegalArgument := by
  have hopen : UVCPreview.setPreviewSize camera info .initial ⟨640, 480, 1, 30, 0⟩ =
      (.initial, .returned 0) := by
    simp [UVCPreview.setPreviewSize, PreviewRequest.initial]
  -- the other mode is asked for anew
  have hask : UVCPreview.setPreviewSize camera info .initial
      ⟨size.width.toInt, size.height.toInt, 1, 30, 1⟩ =
        (⟨size.width.toInt, size.height.toInt, 1, 30, 1⟩,
          (uvcGetStreamCtrlFormatSizeFps camera info .mjpeg size.width.toInt size.height.toInt 1
            30).2.2) := by
    simp [UVCPreview.setPreviewSize, PreviewRequest.initial]
  rw [connectSize, hopen]
  simp only [hlargest]
  by_cases hempty : size.width = 0 ∨ size.height = 0
  · exact Or.inr ⟨fun htakes ↦ htakes.1 hempty, by rw [if_pos hempty]⟩
  · rw [if_neg hempty, hask]
    rcases obliging_search h .mjpeg size.width.toInt size.height.toInt 1 30 hsteps with
      ⟨hresult, hoffers⟩ | ⟨hresult, hnone⟩
    · refine Or.inl ⟨⟨hempty, hoffers⟩, ?_⟩
      rw [hresult]
      rfl
    · refine Or.inr ⟨fun htakes ↦ hnone htakes.2, ?_⟩
      rw [hresult]
      rfl

/-- Of a camera that refuses nothing, all of whose ranges have steps, the choice ends without a size
where no MJPEG format that is read has a frame; with the largest size of these frames where a frame
of that size can be had; and is refused where none can. -/
theorem connect_size_iff :
    (connectSize camera info = .noSuchElement ↔
        ∀ format ∈ info.readableMjpeg, format.frameDescs = []) ∧
      (∀ size, connectSize camera info = .chosen size ↔
        largestSize info.supportedSizeList = some size ∧ info.Takes size) ∧
      (connectSize camera info = .illegalArgument ↔
        ∃ format ∈ info.readableMjpeg, ∃ frame ∈ format.frameDescs,
          largestSize info.supportedSizeList = some frame.cameraSize ∧
            ¬ info.Takes frame.cameraSize) := by
  cases hlargest : largestSize info.supportedSizeList with
  | none =>
    have hnone : connectSize camera info = .noSuchElement := by
      rw [connectSize, UVCPreview.setPreviewSize]
      simp only [hlargest]
      simp [PreviewRequest.initial]
    have hframes : ∀ format ∈ info.readableMjpeg, format.frameDescs = [] := by
      have hnil := largestSize_eq_none_iff.mp hlargest
      simpa only [supportedSizeList_eq, List.flatMap_eq_nil_iff, List.map_eq_nil_iff] using hnil
    rw [hnone]
    exact ⟨iff_of_true rfl hframes, by simp, by simp⟩
  | some largest =>
    obtain ⟨format, hformat, frame, hframe, rfl⟩ :=
      mem_supportedSizeList.mp (largestSize_mem hlargest)
    have hsome : ¬ ∀ format ∈ info.readableMjpeg, format.frameDescs = [] := fun hnone ↦
      absurd (hnone format hformat) (List.ne_nil_of_mem hframe)
    rcases connectSize_of_largest h hsteps hlargest with ⟨htakes, hresult⟩ | ⟨htakes, hresult⟩
    · rw [hresult]
      refine ⟨iff_of_false (by simp) hsome, fun size ↦ ?_, iff_of_false (by simp) ?_⟩
      · rw [SizeChoice.chosen.injEq, Option.some.injEq]
        exact ⟨fun heq ↦ ⟨heq, heq ▸ htakes⟩, fun hsize ↦ hsize.1⟩
      · rintro ⟨-, -, other, -, hother, hrefused⟩
        rw [← Option.some.inj hother] at hrefused
        exact hrefused htakes
    · rw [hresult]
      refine ⟨iff_of_false (by simp) hsome, fun size ↦ iff_of_false (by simp) ?_,
        iff_of_true rfl ⟨format, hformat, frame, hframe, rfl, htakes⟩⟩
      rintro ⟨hsize, hchosen⟩
      rw [← Option.some.inj hsize] at hchosen
      exact htakes hchosen

end Obliging

theorem connect_size_iff_small :
    (connectSize blankCamera smallInfo = .noSuchElement ↔
        ∀ format ∈ smallInfo.readableMjpeg, format.frameDescs = []) ∧
      (∀ size, connectSize blankCamera smallInfo = .chosen size ↔
        largestSize smallInfo.supportedSizeList = some size ∧ smallInfo.Takes size) ∧
      (connectSize blankCamera smallInfo = .illegalArgument ↔
        ∃ format ∈ smallInfo.readableMjpeg, ∃ frame ∈ format.frameDescs,
          largestSize smallInfo.supportedSizeList = some frame.cameraSize ∧
            ¬ smallInfo.Takes frame.cameraSize) := by
  have hsteps : ∀ listed ∈ smallInfo.formats, ∀ frame ∈ listed.2.frameDescs,
      ¬ frame.Stepless := by
    intro listed hlisted frame hframe hstepless
    obtain rfl := List.mem_singleton.mp (show listed ∈ [_] from hlisted)
    obtain rfl := List.mem_singleton.mp (show frame ∈ [_] from hframe)
    exact absurd hstepless.1 (Option.some_ne_none _)
  exact connect_size_iff (obliging_blankCamera _) hsteps

end UvcRtmpStream.Camera
