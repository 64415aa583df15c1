import UvcRtmpStream.Camera.Descriptors

/-!
# Descriptors that are well formed

What a camera says about itself (`StreamingSpec`, `ControlSpec`), the bytes it says it with, and
what the scans are to make of them: each format with its frames behind it, each interval and each
bitmap of controls, whatever blocks of other kinds stand in between.
-/

set_option autoImplicit false
set_option relaxedAutoImplicit false

namespace UvcRtmpStream.Camera

open UvcRtmpStream.Foundations LittleEndian

/-! ### Reading at offsets -/

theorem getD_append_add (front back : List UInt8) (offset : ℕ) :
    (front ++ back).getD (front.length + offset) 0 = back.getD offset 0 := by
  simp [List.getD_eq_getElem?_getD, List.getElem?_append_right (Nat.le_add_right _ _)]

/-- The bytes of a part of a buffer. -/
theorem bytesAt_append (front bytes back : List UInt8) :
    bytesAt (fun offset ↦ (front ++ (bytes ++ back)).getD offset 0) front.length bytes.length =
      bytes := by
  refine List.ext_getElem (by simp [bytesAt]) fun place hplace hbound ↦ ?_
  simp only [bytesAt, List.getElem_map, List.getElem_range, getD_append_add]
  simp [List.getD_eq_getElem?_getD, List.getElem?_append_left hbound,
    List.getElem?_eq_getElem hbound]

/-- Words one behind the other. -/
theorem map_dwAt_append (front : List UInt8) (words : List UInt32) (back : List UInt8) :
    ((List.range words.length).map fun place ↦
      dwAt (fun offset ↦ (front ++ (words.flatMap splitDw ++ back)).getD offset 0)
        (front.length + 4 * place)) = words := by
  induction words generalizing front with
  | nil => rfl
  | cons word words ih =>
    rw [List.length_cons, List.range_succ_eq_map, List.map_cons, List.map_map]
    congr 1
    · have hword := joinDw_bytes word
      simp only [dwAt, Nat.mul_zero, Nat.add_assoc, getD_append_add]
      simpa [splitDw] using hword
    · have hrest := ih (front ++ splitDw word)
      simp only [List.length_append, length_splitDw, List.append_assoc] at hrest
      refine (List.map_congr_left fun place _ ↦ ?_).trans hrest
      simp only [Function.comp_apply, List.flatMap_cons, List.append_assoc]
      congr 1
      omega

/-- Groups of one size, one behind the other. -/
theorem map_bytesAt_append (front : List UInt8) {size : ℕ} (groups : List (List UInt8))
    (hgroups : ∀ group ∈ groups, group.length = size) (back : List UInt8) :
    ((List.range groups.length).map fun place ↦
      bytesAt (fun offset ↦ (front ++ (groups.flatten ++ back)).getD offset 0)
        (front.length + place * size) size) = groups := by
  induction groups generalizing front with
  | nil => rfl
  | cons group groups ih =>
    have hgroup := hgroups group List.mem_cons_self
    rw [List.length_cons, List.range_succ_eq_map, List.map_cons, List.map_map]
    congr 1
    · have hfirst := bytesAt_append front group (groups.flatten ++ back)
      rw [hgroup] at hfirst
      simpa [List.append_assoc] using hfirst
    · have hrest := ih (front ++ group) fun other hother ↦
        hgroups other (List.mem_cons_of_mem _ hother)
      simp only [List.length_append, hgroup, List.append_assoc] at hrest
      refine (List.map_congr_left fun place _ ↦ ?_).trans hrest
      simp only [Function.comp_apply, List.flatten_cons, List.append_assoc, Nat.succ_mul]
      congr 1
      omega

/-! ### Streaming interfaces -/

/-- The frame intervals of a frame size: any of a range, or those of a list. -/
inductive FrameTiming
  | continuous (min max step : UInt32)
  | discrete (intervals : List UInt32)

def FrameTiming.kind : FrameTiming → UInt8
  | .continuous _ _ _ => 0
  | .discrete intervals => UInt8.ofNat intervals.length

def FrameTiming.encode : FrameTiming → List UInt8
  | .continuous min max step => splitDw min ++ splitDw max ++ splitDw step
  | .discrete intervals => intervals.flatMap splitDw

/-- A list of intervals is not empty, and the block not longer than its length can say. -/
def FrameTiming.Fits : FrameTiming → Prop
  | .continuous _ _ _ => True
  | .discrete intervals => 0 < intervals.length ∧ intervals.length ≤ 57

inductive FormatKind
  | uncompressed
  | mjpeg
  | frameBased

/-- `dwMaxVideoFrameBufferSize` is said of the first two kinds of format, `dwBytesPerLine` of the
third. -/
structure FrameSpec where
  bFrameIndex : UInt8
  bmCapabilities : UInt8
  wWidth : UInt16
  wHeight : UInt16
  dwMinBitRate : UInt32
  dwMaxBitRate : UInt32
  dwMaxVideoFrameBufferSize : UInt32
  dwBytesPerLine : UInt32
  dwDefaultFrameInterval : UInt32
  timing : FrameTiming

/-- A block that the scan goes past. -/
structure OtherSpec where
  bDescriptorType : UInt8
  bDescriptorSubtype : UInt8
  payload : List UInt8

/-- A format, with the blocks behind it. `guidFormat` is not said of MJPEG. -/
structure FormatSpec where
  kind : FormatKind
  bFormatIndex : UInt8
  guidFormat : List UInt8
  bBitsPerPixel : UInt8
  bDefaultFrameIndex : UInt8
  bAspectRatioX : UInt8
  bAspectRatioY : UInt8
  bmInterlaceFlags : UInt8
  bCopyProtect : UInt8
  bVariableSize : UInt8
  frames : List FrameSpec
  others : List OtherSpec

/-- `controls` has one bitmap for each format, of `bControlSize` bytes. -/
structure HeaderSpec where
  bNumFormats : UInt8
  wTotalLength : UInt16
  bEndpointAddress : UInt8
  bmInfo : UInt8
  bTerminalLink : UInt8
  bStillCaptureMethod : UInt8
  bTriggerSupport : UInt8
  bTriggerUsage : UInt8
  bControlSize : UInt8
  controls : List (List UInt8)

structure StreamingSpec where
  header : HeaderSpec
  formats : List FormatSpec

def FrameSpec.encode (kind : FormatKind) (frame : FrameSpec) : List UInt8 :=
  let start : UInt8 → List UInt8 := fun subtype ↦
    [UInt8.ofNat (26 + frame.timing.encode.length), 0x24, subtype, frame.bFrameIndex,
      frame.bmCapabilities] ++ splitSw frame.wWidth ++ splitSw frame.wHeight ++
        splitDw frame.dwMinBitRate ++ splitDw frame.dwMaxBitRate
  match kind with
  | .uncompressed => start 0x05 ++ splitDw frame.dwMaxVideoFrameBufferSize ++
      splitDw frame.dwDefaultFrameInterval ++ [frame.timing.kind] ++ frame.timing.encode
  | .mjpeg => start 0x07 ++ splitDw frame.dwMaxVideoFrameBufferSize ++
      splitDw frame.dwDefaultFrameInterval ++ [frame.timing.kind] ++ frame.timing.encode
  | .frameBased => start 0x11 ++ splitDw frame.dwDefaultFrameInterval ++ [frame.timing.kind] ++
      splitDw frame.dwBytesPerLine ++ frame.timing.encode

def FormatSpec.encode (format : FormatSpec) : List UInt8 :=
  match format.kind with
  | .uncompressed =>
    [27, 0x24, 0x04, format.bFormatIndex, UInt8.ofNat format.frames.length] ++ format.guidFormat ++
      [format.bBitsPerPixel, format.bDefaultFrameIndex, format.bAspectRatioX, format.bAspectRatioY,
        format.bmInterlaceFlags, format.bCopyProtect]
  | .mjpeg =>
    [11, 0x24, 0x06, format.bFormatIndex, UInt8.ofNat format.frames.length, format.bBitsPerPixel,
      format.bDefaultFrameIndex, format.bAspectRatioX, format.bAspectRatioY,
      format.bmInterlaceFlags, format.bCopyProtect]
  | .frameBased =>
    [28, 0x24, 0x10, format.bFormatIndex, UInt8.ofNat format.frames.length] ++ format.guidFormat ++
      [format.bBitsPerPixel, format.bDefaultFrameIndex, format.bAspectRatioX, format.bAspectRatioY,
        format.bmInterlaceFlags, format.bCopyProtect, format.bVariableSize]

def OtherSpec.encode (other : OtherSpec) : List UInt8 :=
  [UInt8.ofNat (3 + other.payload.length), other.bDescriptorType, other.bDescriptorSubtype] ++
    other.payload

def HeaderSpec.encode (header : HeaderSpec) : List UInt8 :=
  [UInt8.ofNat (13 + header.controls.length * header.bControlSize.toNat), 0x24, 0x01,
    header.bNumFormats] ++ splitSw header.wTotalLength ++
      [header.bEndpointAddress, header.bmInfo, header.bTerminalLink, header.bStillCaptureMethod,
        header.bTriggerSupport, header.bTriggerUsage, header.bControlSize] ++
        header.controls.flatten

/-- The blocks of a streaming interface, in their order. -/
inductive StreamingBlock
  | header (spec : HeaderSpec)
  | format (spec : FormatSpec)
  | frame (parent : FormatSpec) (spec : FrameSpec)
  | other (spec : OtherSpec)

def StreamingBlock.encode : StreamingBlock → List UInt8
  | .header spec => spec.encode
  | .format spec => spec.encode
  | .frame parent spec => spec.encode parent.kind
  | .other spec => spec.encode

/-- What a block can be said with. -/
def StreamingBlock.Fits : StreamingBlock → Prop
  | .header spec => 13 + spec.controls.length * spec.bControlSize.toNat ≤ 255 ∧
      ∀ group ∈ spec.controls, group.length = spec.bControlSize.toNat
  | .format spec => spec.guidFormat.length = 16
  | .frame _ spec => spec.timing.Fits
  | .other spec => spec.payload.length ≤ 252 ∧
      spec.bDescriptorSubtype ∉ [0x01, 0x04, 0x05, 0x06, 0x07, 0x10, 0x11]

def FormatSpec.blocks (format : FormatSpec) : List StreamingBlock :=
  .format format :: (format.frames.map (.frame format) ++ format.others.map .other)

def StreamingSpec.blocks (spec : StreamingSpec) : List StreamingBlock :=
  .header spec.header :: spec.formats.flatMap FormatSpec.blocks

/-- The bytes of a streaming interface. -/
def StreamingSpec.encode (spec : StreamingSpec) : List UInt8 :=
  spec.blocks.flatMap StreamingBlock.encode

/-! ### What a scan is to make of them -/

/-- The frame as it is to be taken in: an interval of zero counts as one, the default interval lies
between the first and the last, and the size of an uncompressed frame follows from its format. -/
def FrameSpec.desc (format : FormatSpec) (frame : FrameSpec) : FrameDesc :=
  let desc : FrameDesc := {
    bDescriptorSubtype := match format.kind with
      | .uncompressed => 0x05
      | .mjpeg => 0x07
      | .frameBased => 0x11
    bFrameIndex := frame.bFrameIndex
    bmCapabilities := frame.bmCapabilities
    wWidth := frame.wWidth
    wHeight := frame.wHeight
    dwMinBitRate := frame.dwMinBitRate
    dwMaxBitRate := frame.dwMaxBitRate
    dwMaxVideoFrameBufferSize := match format.kind with
      | .uncompressed => frameBufferSize format.bBitsPerPixel frame.wWidth frame.wHeight
      | .mjpeg => frame.dwMaxVideoFrameBufferSize
      | .frameBased => 0
    dwDefaultFrameInterval := frame.dwDefaultFrameInterval
    dwMinFrameInterval := 0
    dwMaxFrameInterval := 0
    dwFrameIntervalStep := 0
    bFrameIntervalType := frame.timing.kind
    dwBytesPerLine := match format.kind with
      | .frameBased => frame.dwBytesPerLine
      | .uncompressed | .mjpeg => 0
    intervals := none }
  match frame.timing, format.kind with
  | .continuous min max step, _ =>
    { desc with dwMinFrameInterval := min, dwMaxFrameInterval := max, dwFrameIntervalStep := step }
  | .discrete intervals, .frameBased => { desc with intervals := some intervals }
  | .discrete intervals, _ =>
    let intervals := intervals.map fun interval ↦ if interval = 0 then 1 else interval
    { desc with
      intervals := some intervals
      dwDefaultFrameInterval := clampInterval intervals frame.dwDefaultFrameInterval }

/-- The format as it is to be taken in, without its frames. -/
def FormatSpec.bare (format : FormatSpec) : FormatDesc where
  bDescriptorSubtype := match format.kind with
    | .uncompressed => 0x04
    | .mjpeg => 0x06
    | .frameBased => 0x10
  bFormatIndex := format.bFormatIndex
  bNumFrameDescriptors := match format.kind with
    | .frameBased => UInt8.ofNat format.frames.length
    | .uncompressed | .mjpeg => 0
  guidFormat := match format.kind with
    | .mjpeg => fourccMjpg
    | .uncompressed | .frameBased => format.guidFormat
  bBitsPerPixel := match format.kind with
    | .mjpeg => 0
    | .uncompressed | .frameBased => format.bBitsPerPixel
  bDefaultFrameIndex := format.bDefaultFrameIndex
  bAspectRatioX := format.bAspectRatioX
  bAspectRatioY := format.bAspectRatioY
  bmInterlaceFlags := format.bmInterlaceFlags
  bCopyProtect := format.bCopyProtect
  bVariableSize := match format.kind with
    | .frameBased => format.bVariableSize
    | .uncompressed | .mjpeg => 0
  frameDescs := []

def FormatSpec.desc (format : FormatSpec) : FormatDesc :=
  { format.bare with frameDescs := format.frames.map (·.desc format) }

/-- The streaming interface as it is to be taken in. -/
def StreamingSpec.interface (spec : StreamingSpec) (bInterfaceNumber : UInt8) :
    StreamingInterface where
  bInterfaceNumber := bInterfaceNumber
  formatDescs := spec.formats.map FormatSpec.desc
  bEndpointAddress := spec.header.bEndpointAddress &&& 0x8f
  bTerminalLink := spec.header.bTerminalLink
  bmInfo := spec.header.bmInfo
  bStillCaptureMethod := spec.header.bStillCaptureMethod
  bTriggerSupport := spec.header.bTriggerSupport
  bTriggerUsage := spec.header.bTriggerUsage
  bmaControls :=
    if spec.header.bControlSize = 0 ∨ spec.header.controls = [] then none
    else some (spec.header.controls.map bitmap)

/-! ### The control interface -/

/-- The terminal of a camera. -/
structure CameraTerminalSpec where
  bTerminalID : UInt8
  bAssocTerminal : UInt8
  iTerminal : UInt8
  wObjectiveFocalLengthMin : UInt16
  wObjectiveFocalLengthMax : UInt16
  wOcularFocalLength : UInt16
  controls : List UInt8

/-- `trailer` is what the version of the class has behind the controls. -/
structure ProcessingUnitSpec where
  bUnitID : UInt8
  bSourceID : UInt8
  wMaxMultiplier : UInt16
  controls : List UInt8
  trailer : List UInt8

structure ExtensionUnitSpec where
  bUnitID : UInt8
  guidExtensionCode : List UInt8
  bNumControls : UInt8
  pins : List UInt8
  controls : List UInt8
  iExtension : UInt8

/-- The blocks of a control interface behind its header. `terminal` is an input terminal other than
a camera, and `skipped` a block that the scan goes past. -/
inductive UnitSpec
  | camera (spec : CameraTerminalSpec)
  | processing (spec : ProcessingUnitSpec)
  | extension (spec : ExtensionUnitSpec)
  | terminal (bTerminalID : UInt8) (wTerminalType : UInt16) (payload : List UInt8)
  | skipped (spec : OtherSpec)

/-- `baInterfaceNr` has the places of the streaming interfaces. -/
structure ControlSpec where
  bcdUVC : UInt16
  wTotalLength : UInt16
  dwClockFrequency : UInt32
  baInterfaceNr : List UInt8
  units : List UnitSpec

def CameraTerminalSpec.encode (spec : CameraTerminalSpec) : List UInt8 :=
  [UInt8.ofNat (15 + spec.controls.length), 0x24, 0x02, spec.bTerminalID] ++ splitSw 0x0201 ++
    [spec.bAssocTerminal, spec.iTerminal] ++ splitSw spec.wObjectiveFocalLengthMin ++
      splitSw spec.wObjectiveFocalLengthMax ++ splitSw spec.wOcularFocalLength ++
        [UInt8.ofNat spec.controls.length] ++ spec.controls

def ProcessingUnitSpec.encode (spec : ProcessingUnitSpec) : List UInt8 :=
  [UInt8.ofNat (8 + spec.controls.length + spec.trailer.length), 0x24, 0x05, spec.bUnitID,
    spec.bSourceID] ++ splitSw spec.wMaxMultiplier ++ [UInt8.ofNat spec.controls.length] ++
      (spec.controls ++ spec.trailer)

def ExtensionUnitSpec.encode (spec : ExtensionUnitSpec) : List UInt8 :=
  [UInt8.ofNat (24 + spec.pins.length + spec.controls.length), 0x24, 0x06, spec.bUnitID] ++
    (spec.guidExtensionCode ++ ([spec.bNumControls, UInt8.ofNat spec.pins.length] ++ (spec.pins ++
      ([UInt8.ofNat spec.controls.length] ++ (spec.controls ++ [spec.iExtension])))))

def UnitSpec.encode : UnitSpec → List UInt8
  | .camera spec => spec.encode
  | .processing spec => spec.encode
  | .extension spec => spec.encode
  | .terminal bTerminalID wTerminalType payload =>
    [UInt8.ofNat (6 + payload.length), 0x24, 0x02, bTerminalID] ++ splitSw wTerminalType ++ payload
  | .skipped spec => spec.encode

def ControlSpec.header (spec : ControlSpec) : List UInt8 :=
  [UInt8.ofNat (12 + spec.baInterfaceNr.length), 0x24, 0x01] ++ splitSw spec.bcdUVC ++
    splitSw spec.wTotalLength ++ splitDw spec.dwClockFrequency ++
      [UInt8.ofNat spec.baInterfaceNr.length] ++ spec.baInterfaceNr

inductive ControlBlock
  | header (spec : ControlSpec)
  | unit (spec : UnitSpec)

def ControlBlock.encode : ControlBlock → List UInt8
  | .header spec => spec.header
  | .unit spec => spec.encode

def ControlSpec.blocks (spec : ControlSpec) : List ControlBlock :=
  .header spec :: spec.units.map .unit

/-- The bytes of the control interface. -/
def ControlSpec.encode (spec : ControlSpec) : List UInt8 := spec.blocks.flatMap ControlBlock.encode

def UnitSpec.Fits : UnitSpec → Prop
  | .camera spec => spec.controls.length ≤ 240
  | .processing spec => spec.controls.length + spec.trailer.length ≤ 247
  | .extension spec => spec.guidExtensionCode.length = 16 ∧
      spec.pins.length + spec.controls.length ≤ 231
  | .terminal _ wTerminalType payload => wTerminalType ≠ 0x0201 ∧ payload.length ≤ 249
  | .skipped spec => spec.payload.length ≤ 252 ∧
      (spec.bDescriptorType ≠ 0x24 ∨ spec.bDescriptorSubtype ∈ [0x03, 0x04])

/-- The versions that `uvc_parse_vc_header` knows. -/
def knownVersions : List UInt16 := [0x0100, 0x010a, 0x0110, 0x0150]

/-- What a control interface can say. -/
structure ControlSpec.Fits (spec : ControlSpec) : Prop where
  version : spec.bcdUVC ∈ knownVersions
  places : spec.baInterfaceNr.length ≤ 243
  units : ∀ unit ∈ spec.units, unit.Fits

/-- What the scan is to make of a unit, given where requests to it go. -/
def UnitSpec.inputTerminal (request : UInt8 → UInt16) : UnitSpec → Option InputTerminal
  | .camera spec => some {
      bTerminalID := spec.bTerminalID
      wTerminalType := 0x0201
      wObjectiveFocalLengthMin := spec.wObjectiveFocalLengthMin
      wObjectiveFocalLengthMax := spec.wObjectiveFocalLengthMax
      wOcularFocalLength := spec.wOcularFocalLength
      bmControls := bitmap spec.controls
      request := request spec.bTerminalID }
  | .processing _ | .extension _ | .terminal _ _ _ | .skipped _ => none

def UnitSpec.processingUnit (request : UInt8 → UInt16) : UnitSpec → Option ProcessingUnit
  | .processing spec => some {
      bUnitID := spec.bUnitID
      bSourceID := spec.bSourceID
      bmControls := bitmap spec.controls
      request := request spec.bUnitID }
  | .camera _ | .extension _ | .terminal _ _ _ | .skipped _ => none

def UnitSpec.extensionUnit (request : UInt8 → UInt16) : UnitSpec → Option ExtensionUnit
  | .extension spec => some {
      bUnitID := spec.bUnitID
      guidExtensionCode := spec.guidExtensionCode
      bmControls := bitmap spec.controls
      request := request spec.bUnitID }
  | .camera _ | .processing _ | .terminal _ _ _ | .skipped _ => none

/-- A unit behind those that are there. -/
def DeviceInfo.addUnit (info : DeviceInfo) (unit : UnitSpec) : DeviceInfo :=
  { info with
    inputTermDescs := info.inputTermDescs ++ (unit.inputTerminal info.requestOf).toList
    processingUnitDescs := info.processingUnitDescs ++ (unit.processingUnit info.requestOf).toList
    extensionUnitDescs := info.extensionUnitDescs ++ (unit.extensionUnit info.requestOf).toList }

/-- The interface at a place of the configuration says of itself what `streams` has for it. -/
def Describes (streams : UInt8 → StreamingSpec) (config : List UsbInterface) (place : UInt8) :
    Prop :=
  (∀ block ∈ (streams place).blocks, block.Fits) ∧
    ∃ interface, config[place.toNat]? = some interface ∧
      interface.formatBytes = (streams place).encode

/-- What the scan is to make of the interface at a place. -/
def streamAt (streams : UInt8 → StreamingSpec) (config : List UsbInterface) (place : UInt8) :
    StreamingInterface :=
  (streams place).interface ((config[place.toNat]?.map UsbInterface.bInterfaceNumber).getD 0)

/-- The camera as it is to be taken in. -/
def ControlSpec.deviceInfo (spec : ControlSpec) (streams : UInt8 → StreamingSpec)
    (config : List UsbInterface) (bInterfaceNumber bEndpointAddress : UInt8) : DeviceInfo :=
  let request : UInt8 → UInt16 := fun id ↦ id.toUInt16 <<< 8 ||| bInterfaceNumber.toUInt16
  { config := config
    bcdUVC := spec.bcdUVC
    bEndpointAddress := bEndpointAddress
    bInterfaceNumber := bInterfaceNumber
    inputTermDescs := spec.units.filterMap (·.inputTerminal request)
    processingUnitDescs := spec.units.filterMap (·.processingUnit request)
    extensionUnitDescs := spec.units.filterMap (·.extensionUnit request)
    streamIfs := spec.baInterfaceNr.map (streamAt streams config) }

end UvcRtmpStream.Camera
