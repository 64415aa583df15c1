import Mathlib.Data.Int.Basic
import UvcRtmpStream.Foundations.BlockScan
import UvcRtmpStream.Foundations.LittleEndian

/-!
# The descriptors of a camera

When a camera is opened, `uvc_get_device_info` reads from its configuration descriptor what it can
do: the units of its video control interface, and for each streaming interface the formats, each
with its frame sizes and frame intervals. The descriptors are blocks of bytes, each with its length
in front; `uvc_scan_control` and `uvc_scan_streaming` go from one to the next.

No function here compares an offset with the length of its block. A function reads at fixed offsets,
some of them at offsets it has read; where these lie behind the end of the buffer, it reads memory
that is not the buffer's (`Fault.overrun`). A frame descriptor in front of every format descriptor
follows a null pointer (`Fault.noFormat`), and an interface number that the configuration does not
have leaves the array of interfaces (`Fault.noInterface`).
-/

set_option autoImplicit false
set_option relaxedAutoImplicit false

namespace UvcRtmpStream.Camera

open UvcRtmpStream.Foundations LittleEndian

/-- What ends a scan: an error code, or one of the ways to go wrong. -/
inductive Fault
  | invalidDevice
  | notSupported
  | overrun
  | noFormat
  | noInterface
  | hangs
  deriving DecidableEq

/-- `uvc_frame_desc_t`. `intervals` is left without the zero at its end. -/
structure FrameDesc where
  bDescriptorSubtype : UInt8
  bFrameIndex : UInt8
  bmCapabilities : UInt8
  wWidth : UInt16
  wHeight : UInt16
  dwMinBitRate : UInt32
  dwMaxBitRate : UInt32
  dwMaxVideoFrameBufferSize : UInt32
  dwDefaultFrameInterval : UInt32
  dwMinFrameInterval : UInt32
  dwMaxFrameInterval : UInt32
  dwFrameIntervalStep : UInt32
  bFrameIntervalType : UInt8
  dwBytesPerLine : UInt32
  intervals : Option (List UInt32)
  deriving DecidableEq

/-- `uvc_format_desc_t`. `guidFormat` and `fourccFormat` are one field, and so are `bBitsPerPixel`
and `bmFlags`. -/
structure FormatDesc where
  bDescriptorSubtype : UInt8
  bFormatIndex : UInt8
  bNumFrameDescriptors : UInt8
  guidFormat : List UInt8
  bBitsPerPixel : UInt8
  bDefaultFrameIndex : UInt8
  bAspectRatioX : UInt8
  bAspectRatioY : UInt8
  bmInterlaceFlags : UInt8
  bCopyProtect : UInt8
  bVariableSize : UInt8
  frameDescs : List FrameDesc
  deriving DecidableEq

/-- `uvc_streaming_interface_t`. -/
structure StreamingInterface where
  bInterfaceNumber : UInt8
  formatDescs : List FormatDesc
  bEndpointAddress : UInt8
  bTerminalLink : UInt8
  bmInfo : UInt8
  bStillCaptureMethod : UInt8
  bTriggerSupport : UInt8
  bTriggerUsage : UInt8
  bmaControls : Option (List UInt64)
  deriving DecidableEq

/-- `uvc_input_terminal_t`. -/
structure InputTerminal where
  bTerminalID : UInt8
  wTerminalType : UInt16
  wObjectiveFocalLengthMin : UInt16
  wObjectiveFocalLengthMax : UInt16
  wOcularFocalLength : UInt16
  bmControls : UInt64
  request : UInt16
  deriving DecidableEq

/-- `uvc_processing_unit_t`. -/
structure ProcessingUnit where
  bUnitID : UInt8
  bSourceID : UInt8
  bmControls : UInt64
  request : UInt16
  deriving DecidableEq

/-- `uvc_extension_unit_t`. -/
structure ExtensionUnit where
  bUnitID : UInt8
  guidExtensionCode : List UInt8
  bmControls : UInt64
  request : UInt16
  deriving DecidableEq

/-- `altsetting[0]` of an interface, an endpoint being its address and its extra bytes. -/
structure UsbInterface where
  bInterfaceNumber : UInt8
  bInterfaceClass : UInt8
  bInterfaceSubClass : UInt8
  endpoints : List (UInt8 × List UInt8)
  extra : List UInt8
  deriving DecidableEq

/-- `uvc_device_info_t`, with the fields of its `ctrl_if`. -/
structure DeviceInfo where
  config : List UsbInterface
  bcdUVC : UInt16
  bEndpointAddress : UInt8
  bInterfaceNumber : UInt8
  inputTermDescs : List InputTerminal
  processingUnitDescs : List ProcessingUnit
  extensionUnitDescs : List ExtensionUnit
  streamIfs : List StreamingInterface
  deriving DecidableEq

/-- The bytes of a block, of which the first `needed` are looked at. `block` is what is left of the
buffer from the start of the block. -/
def reads {α : Type*} (block : List UInt8) (needed : ℕ) (result : (ℕ → UInt8) → Except Fault α) :
    Except Fault α :=
  if needed ≤ block.length then result fun offset ↦ block.getD offset 0 else .error .overrun

theorem reads_of_le {α : Type*} {block : List UInt8} {needed : ℕ} (h : needed ≤ block.length)
    (result : (ℕ → UInt8) → Except Fault α) :
    reads block needed result = result fun offset ↦ block.getD offset 0 := if_pos h

theorem reads_eq_ok_iff {α : Type*} {block : List UInt8} {needed : ℕ}
    {result : (ℕ → UInt8) → Except Fault α} {value : α} :
    reads block needed result = .ok value ↔
      needed ≤ block.length ∧ result (fun offset ↦ block.getD offset 0) = .ok value := by
  rw [reads]
  split_ifs with h
  · exact (and_iff_right h).symm
  · simp [h]

def dwAt (byteAt : ℕ → UInt8) (offset : ℕ) : UInt32 :=
  joinDw (byteAt offset) (byteAt (offset + 1)) (byteAt (offset + 2)) (byteAt (offset + 3))

def swAt (byteAt : ℕ → UInt8) (offset : ℕ) : UInt16 := joinSw (byteAt offset) (byteAt (offset + 1))

/-- The bytes from an offset on. -/
def bytesAt (byteAt : ℕ → UInt8) (offset count : ℕ) : List UInt8 :=
  (List.range count).map fun place ↦ byteAt (offset + place)

/-- The loops that put a bitmap together, from its last byte to its first. -/
def bitmap (bytes : List UInt8) : UInt64 :=
  bytes.foldr (fun byte controls ↦ byte.toUInt64 + controls <<< 8) 0

/-! ### The streaming interface -/

def StreamingInterface.appendFormat (streamIf : StreamingInterface) (format : FormatDesc) :
    StreamingInterface :=
  { streamIf with formatDescs := streamIf.formatDescs ++ [format] }

/-- The frame is appended to the last format. -/
def StreamingInterface.appendFrame (streamIf : StreamingInterface) (frame : FrameDesc) :
    StreamingInterface :=
  { streamIf with
    formatDescs := streamIf.formatDescs.dropLast ++ streamIf.formatDescs.getLast?.toList.map
      fun format ↦ { format with frameDescs := format.frameDescs ++ [frame] } }

/-- `(block_size - 13) / n` as a `uint8_t`, the difference being a `size_t`. -/
def controlCount (blockSize n : UInt8) : ℕ :=
  ((2 ^ 64 + blockSize.toNat - 13) % 2 ^ 64 / n.toNat) % 2 ^ 8

/-- `uvc_parse_vs_input_header`. -/
def uvcParseVsInputHeader (streamIf : StreamingInterface) (block : List UInt8) :
    Except Fault StreamingInterface :=
  reads block 13 fun byteAt ↦
    let n := byteAt 12
    let p := controlCount (byteAt 0) n
    let header := { streamIf with
      bEndpointAddress := byteAt 6 &&& 0x8f
      bTerminalLink := byteAt 8
      bmInfo := byteAt 7
      bStillCaptureMethod := byteAt 9
      bTriggerSupport := byteAt 10
      bTriggerUsage := byteAt 11
      bmaControls := none }
    if n = 0 ∨ p = 0 then .ok header
    else
      reads block (13 + p * n.toNat) fun byteAt ↦ .ok { header with
        bmaControls := some <| (List.range p).map fun place ↦
          bitmap (bytesAt byteAt (13 + place * n.toNat) n.toNat) }

/-- `uvc_parse_vs_format_uncompressed`. -/
def uvcParseVsFormatUncompressed (streamIf : StreamingInterface) (block : List UInt8) :
    Except Fault StreamingInterface :=
  reads block 27 fun byteAt ↦ .ok <| streamIf.appendFormat {
    bDescriptorSubtype := byteAt 2
    bFormatIndex := byteAt 3
    bNumFrameDescriptors := 0
    guidFormat := bytesAt byteAt 5 16
    bBitsPerPixel := byteAt 21
    bDefaultFrameIndex := byteAt 22
    bAspectRatioX := byteAt 23
    bAspectRatioY := byteAt 24
    bmInterlaceFlags := byteAt 25
    bCopyProtect := byteAt 26
    bVariableSize := 0
    frameDescs := [] }

/-- `uvc_parse_vs_frame_format`. -/
def uvcParseVsFrameFormat (streamIf : StreamingInterface) (block : List UInt8) :
    Except Fault StreamingInterface :=
  reads block 28 fun byteAt ↦ .ok <| streamIf.appendFormat {
    bDescriptorSubtype := byteAt 2
    bFormatIndex := byteAt 3
    bNumFrameDescriptors := byteAt 4
    guidFormat := bytesAt byteAt 5 16
    bBitsPerPixel := byteAt 21
    bDefaultFrameIndex := byteAt 22
    bAspectRatioX := byteAt 23
    bAspectRatioY := byteAt 24
    bmInterlaceFlags := byteAt 25
    bCopyProtect := byteAt 26
    bVariableSize := byteAt 27
    frameDescs := [] }

/-- `"MJPG"` in a field of sixteen bytes. -/
def fourccMjpg : List UInt8 := [0x4d, 0x4a, 0x50, 0x47] ++ List.replicate 12 0

/-- `uvc_parse_vs_format_mjpeg`. The flags are written first, and then the bits per pixel, which are
the same byte. -/
def uvcParseVsFormatMjpeg (streamIf : StreamingInterface) (block : List UInt8) :
    Except Fault StreamingInterface :=
  reads block 11 fun byteAt ↦ .ok <| streamIf.appendFormat {
    bDescriptorSubtype := byteAt 2
    bFormatIndex := byteAt 3
    bNumFrameDescriptors := 0
    guidFormat := fourccMjpg
    bBitsPerPixel := 0
    bDefaultFrameIndex := byteAt 6
    bAspectRatioX := byteAt 7
    bAspectRatioY := byteAt 8
    bmInterlaceFlags := byteAt 9
    bCopyProtect := byteAt 10
    bVariableSize := 0
    frameDescs := [] }

/-- The intervals of a frame descriptor, one after the other from an offset on. -/
def intervalsAt (byteAt : ℕ → UInt8) (count : ℕ) : List UInt32 :=
  (List.range count).map fun place ↦ dwAt byteAt (26 + 4 * place)

/-- `uvc_parse_vs_frame_frame`. -/
def uvcParseVsFrameFrame (streamIf : StreamingInterface) (block : List UInt8) :
    Except Fault StreamingInterface :=
  if streamIf.formatDescs = [] then .error .noFormat
  else
    reads block 26 fun byteAt ↦
      let frame : FrameDesc := {
        bDescriptorSubtype := byteAt 2
        bFrameIndex := byteAt 3
        bmCapabilities := byteAt 4
        wWidth := swAt byteAt 5
        wHeight := swAt byteAt 7
        dwMinBitRate := dwAt byteAt 9
        dwMaxBitRate := dwAt byteAt 13
        dwMaxVideoFrameBufferSize := 0
        dwDefaultFrameInterval := dwAt byteAt 17
        dwMinFrameInterval := 0
        dwMaxFrameInterval := 0
        dwFrameIntervalStep := 0
        bFrameIntervalType := byteAt 21
        dwBytesPerLine := dwAt byteAt 22
        intervals := none }
      if byteAt 21 = 0 then
        reads block 38 fun byteAt ↦ .ok <| streamIf.appendFrame { frame with
          dwMinFrameInterval := dwAt byteAt 26
          dwMaxFrameInterval := dwAt byteAt 30
          dwFrameIntervalStep := dwAt byteAt 34 }
      else
        reads block (26 + 4 * (byteAt 21).toNat) fun byteAt ↦
          .ok <| streamIf.appendFrame { frame with
            intervals := some (intervalsAt byteAt (byteAt 21).toNat) }

/-- `bBitsPerPixel * wWidth * wHeight / 8`, the product being an `int`. -/
def frameBufferSize (bitsPerPixel : UInt8) (width height : UInt16) : UInt32 :=
  let product : ℕ := bitsPerPixel.toNat * width.toNat * height.toNat % 2 ^ 32
  let signed : ℤ := if product < 2 ^ 31 then (product : ℤ) else (product : ℤ) - 2 ^ 32
  UInt32.ofInt (signed.tdiv 8)

/-- `MIN(intervals[n-1], MAX(intervals[0], default))`. -/
def clampInterval (intervals : List UInt32) (default : UInt32) : UInt32 :=
  min (intervals.getLast?.getD 0) (max (intervals.headD 0) default)

/-- `uvc_parse_vs_frame_uncompressed`, for MJPEG frames too. -/
def uvcParseVsFrameUncompressed (streamIf : StreamingInterface) (block : List UInt8) :
    Except Fault StreamingInterface :=
  match streamIf.formatDescs.getLast? with
  | none => .error .noFormat
  | some format =>
    reads block 26 fun byteAt ↦
      let frame : FrameDesc := {
        bDescriptorSubtype := byteAt 2
        bFrameIndex := byteAt 3
        bmCapabilities := byteAt 4
        wWidth := swAt byteAt 5
        wHeight := swAt byteAt 7
        dwMinBitRate := dwAt byteAt 9
        dwMaxBitRate := dwAt byteAt 13
        dwMaxVideoFrameBufferSize :=
          if byteAt 2 = 5 then
            frameBufferSize format.bBitsPerPixel (swAt byteAt 5) (swAt byteAt 7)
          else dwAt byteAt 17
        dwDefaultFrameInterval := dwAt byteAt 21
        dwMinFrameInterval := 0
        dwMaxFrameInterval := 0
        dwFrameIntervalStep := 0
        bFrameIntervalType := byteAt 25
        dwBytesPerLine := 0
        intervals := none }
      if byteAt 25 = 0 then
        reads block 38 fun byteAt ↦ .ok <| streamIf.appendFrame { frame with
          dwMinFrameInterval := dwAt byteAt 26
          dwMaxFrameInterval := dwAt byteAt 30
          dwFrameIntervalStep := dwAt byteAt 34 }
      else
        reads block (26 + 4 * (byteAt 25).toNat) fun byteAt ↦
          let intervals := (intervalsAt byteAt (byteAt 25).toNat).map fun interval ↦
            if interval = 0 then 1 else interval
          .ok <| streamIf.appendFrame { frame with
            intervals := some intervals
            dwDefaultFrameInterval := clampInterval intervals frame.dwDefaultFrameInterval }

/-- `uvc_parse_vs`. The type of the descriptor is not looked at, only its subtype. -/
def uvcParseVs (streamIf : StreamingInterface) (block : List UInt8) :
    Except Fault StreamingInterface :=
  let subtype := block.getD 2 0
  if subtype = 0x01 then uvcParseVsInputHeader streamIf block
  else if subtype = 0x04 then uvcParseVsFormatUncompressed streamIf block
  else if subtype = 0x06 then uvcParseVsFormatMjpeg streamIf block
  else if subtype = 0x05 ∨ subtype = 0x07 then uvcParseVsFrameUncompressed streamIf block
  else if subtype = 0x10 then uvcParseVsFrameFormat streamIf block
  else if subtype = 0x11 then uvcParseVsFrameFrame streamIf block
  else .ok streamIf

/-- The loop of `uvc_scan_streaming`. -/
def vsScanner : BlockScanner UInt8 StreamingInterface Fault where
  least := 3
  size := fun buffer ↦ (buffer.getD 0 0).toNat
  handle := uvcParseVs
  overrun := .overrun
  hangs := .hangs

/-- Where the descriptors of a streaming interface are: behind the interface, or else behind its
first endpoint. -/
def UsbInterface.formatBytes (interface : UsbInterface) : List UInt8 :=
  if interface.extra = [] then (interface.endpoints.head?.map Prod.snd).getD interface.extra
  else interface.extra

/-- A streaming interface as `calloc` leaves it. -/
def StreamingInterface.blank (bInterfaceNumber : UInt8) : StreamingInterface where
  bInterfaceNumber := bInterfaceNumber
  formatDescs := []
  bEndpointAddress := 0
  bTerminalLink := 0
  bmInfo := 0
  bStillCaptureMethod := 0
  bTriggerSupport := 0
  bTriggerUsage := 0
  bmaControls := none

/-- `uvc_scan_streaming`. -/
def uvcScanStreaming (info : DeviceInfo) (interfaceIdx : ℕ) : Except Fault DeviceInfo :=
  match info.config[interfaceIdx]? with
  | none => .error .noInterface
  | some interface =>
    match vsScanner.scan (.blank interface.bInterfaceNumber) interface.formatBytes with
    | .error fault => .error fault
    | .ok streamIf => .ok { info with streamIfs := info.streamIfs ++ [streamIf] }

/-! ### The control interface -/

/-- `uvc_parse_vc_header`: the version, and then the streaming interfaces by their places. -/
def uvcParseVcHeader (info : DeviceInfo) (block : List UInt8) : Except Fault DeviceInfo :=
  reads block 5 fun byteAt ↦
    let version := swAt byteAt 3
    if version = 0x0100 ∨ version = 0x010a ∨ version = 0x0110 ∨ version = 0x0150 then
      (List.range ((byteAt 0).toNat - 12)).foldlM
        (fun info place ↦
          reads block (13 + place) fun byteAt ↦
            uvcScanStreaming info (byteAt (12 + place)).toNat)
        { info with bcdUVC := version }
    else .error .notSupported

/-- `(id << 8) | bInterfaceNumber`. -/
def DeviceInfo.requestOf (info : DeviceInfo) (id : UInt8) : UInt16 :=
  id.toUInt16 <<< 8 ||| info.bInterfaceNumber.toUInt16

/-- `uvc_parse_vc_input_terminal`: cameras only. -/
def uvcParseVcInputTerminal (info : DeviceInfo) (block : List UInt8) : Except Fault DeviceInfo :=
  reads block 6 fun byteAt ↦
    if swAt byteAt 4 ≠ 0x0201 then .ok info
    else
      reads block 15 fun byteAt ↦
        reads block (15 + (byteAt 14).toNat) fun byteAt ↦ .ok { info with
          inputTermDescs := info.inputTermDescs ++ [{
            bTerminalID := byteAt 3
            wTerminalType := swAt byteAt 4
            wObjectiveFocalLengthMin := swAt byteAt 8
            wObjectiveFocalLengthMax := swAt byteAt 10
            wOcularFocalLength := swAt byteAt 12
            bmControls := bitmap (bytesAt byteAt 15 (byteAt 14).toNat)
            request := info.requestOf (byteAt 3) }] }

/-- `uvc_parse_vc_processing_unit`. -/
def uvcParseVcProcessingUnit (info : DeviceInfo) (block : List UInt8) : Except Fault DeviceInfo :=
  reads block 8 fun byteAt ↦
    reads block (8 + (byteAt 7).toNat) fun byteAt ↦ .ok { info with
      processingUnitDescs := info.processingUnitDescs ++ [{
        bUnitID := byteAt 3
        bSourceID := byteAt 4
        bmControls := bitmap (bytesAt byteAt 8 (byteAt 7).toNat)
        request := info.requestOf (byteAt 3) }] }

/-- `uvc_parse_vc_extension_unit`: the controls are behind the input pins. -/
def uvcParseVcExtensionUnit (info : DeviceInfo) (block : List UInt8) : Except Fault DeviceInfo :=
  reads block 22 fun byteAt ↦
    let pins := (byteAt 21).toNat
    reads block (23 + pins) fun byteAt ↦
      let size := (byteAt (22 + pins)).toNat
      reads block (23 + pins + size) fun byteAt ↦ .ok { info with
        extensionUnitDescs := info.extensionUnitDescs ++ [{
          bUnitID := byteAt 3
          guidExtensionCode := bytesAt byteAt 4 16
          bmControls := bitmap (bytesAt byteAt (23 + pins) size)
          request := info.requestOf (byteAt 3) }] }

/-- `uvc_parse_vc`. -/
def uvcParseVc (info : DeviceInfo) (block : List UInt8) : Except Fault DeviceInfo :=
  let subtype := block.getD 2 0
  if block.getD 1 0 ≠ 0x24 then .ok info
  else if subtype = 0x01 then uvcParseVcHeader info block
  else if subtype = 0x02 then uvcParseVcInputTerminal info block
  else if subtype = 0x03 ∨ subtype = 0x04 then .ok info
  else if subtype = 0x05 then uvcParseVcProcessingUnit info block
  else if subtype = 0x06 then uvcParseVcExtensionUnit info block
  else .error .invalidDevice

/-- The loop of `uvc_scan_control`. -/
def vcScanner : BlockScanner UInt8 DeviceInfo Fault where
  least := 3
  size := fun buffer ↦ (buffer.getD 0 0).toNat
  handle := uvcParseVc
  overrun := .overrun
  hangs := .hangs

/-- The interface is a video control interface, or that of a camera known not to say so. -/
def UsbInterface.IsControl (isTIS : Bool) (interface : UsbInterface) : Prop :=
  interface.bInterfaceClass = 14 ∧ interface.bInterfaceSubClass = 1 ∨
    interface.bInterfaceClass = 255 ∧ interface.bInterfaceSubClass = 1 ∧ isTIS = true

instance (isTIS : Bool) (interface : UsbInterface) : Decidable (interface.IsControl isTIS) :=
  inferInstanceAs (Decidable (_ ∨ _))

/-- `uvc_scan_control`, on the first control interface. -/
def uvcScanControl (isTIS : Bool) (info : DeviceInfo) : Except Fault DeviceInfo :=
  match info.config.find? (·.IsControl isTIS) with
  | none => .error .invalidDevice
  | some interface =>
    vcScanner.scan
      { info with
        bInterfaceNumber := UInt8.ofNat (info.config.findIdx (·.IsControl isTIS))
        bEndpointAddress := (interface.endpoints.head?.map Prod.fst).getD info.bEndpointAddress }
      interface.extra

/-- `uvc_get_device_info`, of a configuration that has been read. -/
def uvcGetDeviceInfo (isTIS : Bool) (config : List UsbInterface) : Except Fault DeviceInfo :=
  uvcScanControl isTIS {
    config := config
    bcdUVC := 0
    bEndpointAddress := 0
    bInterfaceNumber := 0
    inputTermDescs := []
    processingUnitDescs := []
    extensionUnitDescs := []
    streamIfs := [] }

end UvcRtmpStream.Camera
