import UvcRtmpStream.Camera.DescriptorSafety
import UvcRtmpStream.Camera.NegotiationTrace

/-!
# Starting a stream

`uvc_stream_start_bandwidth` sets up the transfers of a stream. An interface with several alternate
settings is isochronous: the first setting is taken whose packets are as large as the camera needs
them, or else the last, and each transfer is made of as many packets as a frame takes, thirty-two at
most.

The model ends where the setting has been chosen and the transfers are laid out: the camera may
still refuse the setting or the transfers. `starts_isochronous_iff` says when that point is reached,
with which setting, and with packets for a whole frame wherever that is possible.
`frameBased_never_starts` is about frames whose descriptors say no size, and `negotiated_starts_iff`
about a mode that was agreed on.
-/

set_option autoImplicit false
set_option relaxedAutoImplicit false

namespace UvcRtmpStream.Camera

open UvcRtmpStream.Foundations LittleEndian

/-- `struct libusb_interface_descriptor`, an endpoint being its address and its `wMaxPacketSize`. -/
structure AltSetting where
  bInterfaceNumber : UInt8
  bAlternateSetting : UInt8
  endpoints : List (UInt8 × UInt16)
  deriving DecidableEq

/-- The bytes of a packet, and of the additional packets of a microframe. -/
def packetBytes (wMaxPacketSize : UInt16) : ℕ :=
  (wMaxPacketSize &&& 0x07ff).toNat * (((wMaxPacketSize >>> 11) &&& 3).toNat + 1)

/-- `endpoint_bytes_per_packet`, of the endpoint with a given address. -/
def AltSetting.bytesPerPacket (altsetting : AltSetting) (bEndpointAddress : UInt8) : ℕ :=
  match altsetting.endpoints.find? fun endpoint ↦ endpoint.1 = bEndpointAddress with
  | some endpoint => packetBytes endpoint.2
  | none => 0

/-- The loop over the altsettings. The last one is taken with whatever it has, and where that is
nothing the search fails. -/
def chooseAltsetting (bEndpointAddress : UInt8) (configBytes : ℕ) :
    List AltSetting → Option AltSetting
  | [] => none
  | altsetting :: altsettings =>
    let bytes := altsetting.bytesPerPacket bEndpointAddress
    if bytes ≠ 0 ∧ (configBytes ≤ bytes ∨ altsettings = []) then some altsetting
    else chooseAltsetting bEndpointAddress configBytes altsettings

/-- What the transfers of a stream are set up with. -/
inductive Setup
  | isochronous (altsetting : AltSetting) (bytesPerPacket packetsPerTransfer : ℕ)
      (totalTransferSize : ℕ)
  | bulk (transferSize : ℕ)
  deriving DecidableEq

def uvcErrorIo : ℤ := -1

def uvcErrorInvalidParam : ℤ := -2

def uvcErrorNotSupported : ℤ := -12

/-- `config_bytes_per_packet`. `scaled` is the product with a bandwidth factor between zero and one,
if there is such a factor. -/
def configBytesPerPacket (dwMaxPayloadTransferSize : UInt32) (scaled : Option ℕ) : ℕ :=
  match scaled with
  | some product => if product = 0 then dwMaxPayloadTransferSize.toNat else product
  | none => dwMaxPayloadTransferSize.toNat

/-- `packets_per_transfer`. -/
def packetsPerTransfer (dwMaxVideoFrameSize : UInt32) (bytesPerPacket : ℕ) : ℕ :=
  min 32 ((dwMaxVideoFrameSize.toNat + bytesPerPacket - 1) / bytesPerPacket)

/-- `uvc_stream_start_bandwidth`, up to the selection of the altsetting. -/
def uvcStreamStartBandwidth (streamIf : StreamingInterface) (altsettings : List AltSetting)
    (ctrl : StreamCtrl) (scaled : Option ℕ) : Except ℤ Setup :=
  match streamIf.findFrame ctrl.bFormatIndex ctrl.bFrameIndex with
  | none => .error uvcErrorInvalidParam
  | some (format, frame) =>
    if uvcFrameFormatForGuid format.guidFormat = .any then .error uvcErrorNotSupported
    else if 1 < altsettings.length then
      let configBytes := configBytesPerPacket ctrl.dwMaxPayloadTransferSize scaled
      if configBytes = 0 then .error uvcErrorIo
      else
        match chooseAltsetting streamIf.bEndpointAddress configBytes altsettings with
        | none => .error uvcErrorInvalidMode
        | some altsetting =>
          let bytes := altsetting.bytesPerPacket streamIf.bEndpointAddress
          let packets :=
            packetsPerTransfer (min ctrl.dwMaxVideoFrameSize frame.dwMaxVideoFrameBufferSize) bytes
          if packets * bytes = 0 then .error uvcErrorInvalidMode
          else .ok (.isochronous altsetting bytes packets (packets * bytes))
    else .ok (.bulk ctrl.dwMaxPayloadTransferSize.toNat)

/-! ### Which setting is taken -/

/-- The first altsetting that is large enough, or the last. -/
structure Chosen (bEndpointAddress : UInt8) (configBytes : ℕ) (altsettings : List AltSetting)
    (altsetting : AltSetting) : Prop where
  usable : altsetting.bytesPerPacket bEndpointAddress ≠ 0
  first : ∃ before after, altsettings = before ++ altsetting :: after ∧
    (∀ other ∈ before, other.bytesPerPacket bEndpointAddress = 0 ∨
      other.bytesPerPacket bEndpointAddress < configBytes) ∧
    (configBytes ≤ altsetting.bytesPerPacket bEndpointAddress ∨ after = [])

theorem chooseAltsetting_eq_some_iff (bEndpointAddress : UInt8) (configBytes : ℕ)
    (altsettings : List AltSetting) (altsetting : AltSetting) :
    chooseAltsetting bEndpointAddress configBytes altsettings = some altsetting ↔
      Chosen bEndpointAddress configBytes altsettings altsetting := by
  induction altsettings with
  | nil =>
    refine iff_of_false (by simp [chooseAltsetting]) fun h ↦ ?_
    obtain ⟨before, after, hsplit, -⟩ := h.first
    simp at hsplit
  | cons here altsettings ih =>
    rw [chooseAltsetting]
    by_cases huse : here.bytesPerPacket bEndpointAddress ≠ 0 ∧
        (configBytes ≤ here.bytesPerPacket bEndpointAddress ∨ altsettings = [])
    · rw [if_pos huse]
      constructor
      · intro h
        obtain rfl := Option.some.inj h
        exact ⟨huse.1, [], altsettings, rfl, List.forall_mem_nil _, huse.2⟩
      · intro h
        obtain ⟨before, after, hsplit, hbefore, -⟩ := h.first
        cases before with
        | nil =>
          obtain ⟨rfl, -⟩ := List.cons.inj hsplit
          rfl
        | cons first before =>
          -- what is in front of the chosen one is of no use, and not the last
          obtain ⟨rfl, rfl⟩ := List.cons.inj hsplit
          have hsmall := hbefore here List.mem_cons_self
          have hlarge := huse.2.resolve_right (by simp)
          omega
    · rw [if_neg huse, ih]
      constructor
      · rintro ⟨husable, before, after, hsplit, hbefore, hend⟩
        refine ⟨husable, here :: before, after, by rw [hsplit, List.cons_append], ?_, hend⟩
        refine List.forall_mem_cons.mpr ⟨?_, hbefore⟩
        by_contra hneither
        rw [not_or, Nat.not_lt] at hneither
        exact huse ⟨hneither.1, Or.inl hneither.2⟩
      · rintro ⟨husable, before, after, hsplit, hbefore, hend⟩
        cases before with
        | nil =>
          obtain ⟨rfl, rfl⟩ := List.cons.inj hsplit
          exact absurd ⟨husable, hend⟩ huse
        | cons first before =>
          obtain ⟨rfl, hrest⟩ := List.cons.inj hsplit
          exact ⟨husable, before, after, hrest, (List.forall_mem_cons.mp hbefore).2, hend⟩

/-! ### What the transfers hold -/

/-- The packets of a transfer, for a frame of some size: as many as it takes, or thirty-two. -/
theorem packetsPerTransfer_spec {dwMaxVideoFrameSize : UInt32} {bytesPerPacket : ℕ}
    (hbytes : bytesPerPacket ≠ 0) (hframe : dwMaxVideoFrameSize ≠ 0) :
    0 < packetsPerTransfer dwMaxVideoFrameSize bytesPerPacket ∧
      packetsPerTransfer dwMaxVideoFrameSize bytesPerPacket ≤ 32 ∧
      (dwMaxVideoFrameSize.toNat ≤
          packetsPerTransfer dwMaxVideoFrameSize bytesPerPacket * bytesPerPacket ∨
        packetsPerTransfer dwMaxVideoFrameSize bytesPerPacket = 32) ∧
      packetsPerTransfer dwMaxVideoFrameSize bytesPerPacket * bytesPerPacket <
        dwMaxVideoFrameSize.toNat + bytesPerPacket := by
  have hpos : 0 < bytesPerPacket := Nat.pos_of_ne_zero hbytes
  have hsize : 0 < dwMaxVideoFrameSize.toNat := Nat.pos_of_ne_zero fun hzero ↦
    hframe (UInt32.toNat_inj.mp (by simpa using hzero))
  have hquotient := Nat.div_add_mod (dwMaxVideoFrameSize.toNat + bytesPerPacket - 1) bytesPerPacket
  have hremainder := Nat.mod_lt (dwMaxVideoFrameSize.toNat + bytesPerPacket - 1) hpos
  have hone : 1 ≤ (dwMaxVideoFrameSize.toNat + bytesPerPacket - 1) / bytesPerPacket :=
    (Nat.one_le_div_iff hpos).mpr (by omega)
  rw [packetsPerTransfer]
  generalize (dwMaxVideoFrameSize.toNat + bytesPerPacket - 1) / bytesPerPacket = quotient
    at hquotient hone ⊢
  rw [Nat.mul_comm] at hquotient
  have hless : min 32 quotient * bytesPerPacket ≤ quotient * bytesPerPacket :=
    Nat.mul_le_mul_right _ (Nat.min_le_right _ _)
  refine ⟨by omega, Nat.min_le_left _ _, ?_, by omega⟩
  rcases Nat.le_total 32 quotient with hmany | hfew
  · exact Or.inr (Nat.min_eq_left hmany)
  · rw [Nat.min_eq_right hfew]
    exact Or.inl (by omega)

/-- There is nothing to transfer only of a frame without a size. -/
theorem packetsPerTransfer_mul_eq_zero_iff {dwMaxVideoFrameSize : UInt32} {bytesPerPacket : ℕ}
    (hbytes : bytesPerPacket ≠ 0) :
    packetsPerTransfer dwMaxVideoFrameSize bytesPerPacket * bytesPerPacket = 0 ↔
      dwMaxVideoFrameSize = 0 := by
  constructor
  · intro h
    by_contra hframe
    have hspec := packetsPerTransfer_spec hbytes hframe
    exact absurd h (Nat.mul_ne_zero (by omega) hbytes)
  · rintro rfl
    have hquotient : (0 + bytesPerPacket - 1) / bytesPerPacket = 0 := Nat.div_eq_of_lt (by omega)
    have hzero : (0 : UInt32).toNat = 0 := rfl
    rw [packetsPerTransfer, hzero, hquotient, Nat.min_zero, Nat.zero_mul]

/-- What an isochronous stream is set up with: an altsetting that is the first large enough, or the
last, and as many of its packets as a frame takes. -/
structure SetUp (streamIf : StreamingInterface) (altsettings : List AltSetting) (ctrl : StreamCtrl)
    (scaled : Option ℕ) (frame : FrameDesc) (altsetting : AltSetting)
    (bytes packets total : ℕ) : Prop where
  chosen : Chosen streamIf.bEndpointAddress
    (configBytesPerPacket ctrl.dwMaxPayloadTransferSize scaled) altsettings altsetting
  bytes_eq : bytes = altsetting.bytesPerPacket streamIf.bEndpointAddress
  packets_eq : packets =
    packetsPerTransfer (min ctrl.dwMaxVideoFrameSize frame.dwMaxVideoFrameBufferSize) bytes
  total_eq : total = packets * bytes

/-- When an isochronous stream starts, and with what: the frame and its format are known, and the
sizes are not zero. -/
theorem starts_isochronous_iff {streamIf : StreamingInterface} {altsettings : List AltSetting}
    (ctrl : StreamCtrl) (scaled : Option ℕ) (hseveral : 1 < altsettings.length) (setup : Setup) :
    uvcStreamStartBandwidth streamIf altsettings ctrl scaled = .ok setup ↔
      ∃ format frame altsetting bytes packets total,
        streamIf.findFrame ctrl.bFormatIndex ctrl.bFrameIndex = some (format, frame) ∧
        uvcFrameFormatForGuid format.guidFormat ≠ .any ∧
        configBytesPerPacket ctrl.dwMaxPayloadTransferSize scaled ≠ 0 ∧
        min ctrl.dwMaxVideoFrameSize frame.dwMaxVideoFrameBufferSize ≠ 0 ∧
        SetUp streamIf altsettings ctrl scaled frame altsetting bytes packets total ∧
        setup = .isochronous altsetting bytes packets total := by
  rw [uvcStreamStartBandwidth]
  cases hfind : streamIf.findFrame ctrl.bFormatIndex ctrl.bFrameIndex with
  | none => simp
  | some found =>
    obtain ⟨format, frame⟩ := found
    simp only [if_pos hseveral]
    constructor
    · intro h
      split_ifs at h with hknown hconfig
      cases hchoose : chooseAltsetting streamIf.bEndpointAddress
          (configBytesPerPacket ctrl.dwMaxPayloadTransferSize scaled) altsettings with
      | none => simp [hchoose] at h
      | some altsetting =>
        have hchosen := (chooseAltsetting_eq_some_iff _ _ _ _).mp hchoose
        simp only [hchoose, packetsPerTransfer_mul_eq_zero_iff hchosen.usable] at h
        split_ifs at h with hsize
        exact ⟨format, frame, altsetting, _, _, _, rfl, hknown, hconfig, hsize,
          ⟨hchosen, rfl, rfl, rfl⟩, (Except.ok.inj h).symm⟩
    · rintro ⟨_, _, altsetting, bytes, packets, total, hsame, hknown, hconfig, hsize, hsetup, rfl⟩
      obtain ⟨rfl, rfl⟩ := Prod.mk.inj (Option.some.inj hsame)
      obtain ⟨hchosen, rfl, rfl, rfl⟩ := hsetup
      rw [if_neg hknown, if_neg hconfig, (chooseAltsetting_eq_some_iff _ _ _ _).mpr hchosen]
      simp only [packetsPerTransfer_mul_eq_zero_iff hchosen.usable, if_neg hsize]

/-! ### Formats whose frames say no size -/

/-- The frames of the frame-based formats are taken in without a size. -/
def FrameBasedSizeless (s : StreamingInterface) : Prop :=
  ∀ format ∈ s.formatDescs, ∀ frame ∈ format.frameDescs,
    frame.bDescriptorSubtype = 0x11 → frame.dwMaxVideoFrameBufferSize = 0

theorem FrameBasedSizeless.appendFormat {s : StreamingInterface} (h : FrameBasedSizeless s)
    {format : FormatDesc} (hnone : format.frameDescs = []) :
    FrameBasedSizeless (s.appendFormat format) := by
  refine List.forall_mem_append.mpr ⟨h, List.forall_mem_singleton.mpr ?_⟩
  rw [hnone]
  exact List.forall_mem_nil _

theorem FrameBasedSizeless.appendFrame {s : StreamingInterface} (h : FrameBasedSizeless s)
    {frame : FrameDesc}
    (hframe : frame.bDescriptorSubtype = 0x11 → frame.dwMaxVideoFrameBufferSize = 0) :
    FrameBasedSizeless (s.appendFrame frame) := by
  refine List.forall_mem_append.mpr
    ⟨fun format hformat ↦ h format (List.dropLast_subset _ hformat), ?_⟩
  intro format hformat
  simp only [List.mem_map, Option.mem_toList] at hformat
  obtain ⟨last, hlast, rfl⟩ := hformat
  exact List.forall_mem_append.mpr
    ⟨h last (List.mem_of_getLast? hlast), List.forall_mem_singleton.mpr hframe⟩

/-- One block. -/
theorem FrameBasedSizeless.step {s t : StreamingInterface} {block : List UInt8}
    (h : FrameBasedSizeless s) (hparse : uvcParseVs s block = .ok t) : FrameBasedSizeless t := by
  rw [uvcParseVs] at hparse
  generalize hsubtype : block.getD 2 0 = subtype at hparse
  split_ifs at hparse with hheader huncompressed hmjpeg hframe hbased hframeBased
  · intro format hformat
    rw [formatDescs_of_header hparse] at hformat
    exact h format hformat
  · obtain ⟨-, hparse⟩ := reads_eq_ok_iff.mp hparse
    cases hparse
    exact h.appendFormat rfl
  · obtain ⟨-, hparse⟩ := reads_eq_ok_iff.mp hparse
    cases hparse
    exact h.appendFormat rfl
  · obtain ⟨frame, rfl, hsame⟩ := uvcParseVsFrameUncompressed_appends hparse
    refine h.appendFrame fun hbased ↦ ?_
    rw [hsame, hsubtype] at hbased
    rcases hframe with hframe | hframe <;> rw [hframe] at hbased <;> exact absurd hbased (by decide)
  · obtain ⟨-, hparse⟩ := reads_eq_ok_iff.mp hparse
    cases hparse
    exact h.appendFormat rfl
  · obtain ⟨frame, rfl, hsize⟩ := uvcParseVsFrameFrame_appends hparse
    exact h.appendFrame fun _ ↦ hsize
  · cases hparse
    exact h

theorem FrameBasedSizeless.run {s t : StreamingInterface} {buffer : List UInt8}
    (hblocks : vsScanner.Blocks s buffer t) (h : FrameBasedSizeless s) : FrameBasedSizeless t := by
  induction hblocks with
  | tail _ => exact h
  | block _ _ _ hhandle _ ih => exact ih (h.step hhandle)

theorem mem_of_findFrame {streamIf : StreamingInterface} {formatId frameId : UInt8}
    {format : FormatDesc} {frame : FrameDesc}
    (h : streamIf.findFrame formatId frameId = some (format, frame)) :
    format ∈ streamIf.formatDescs ∧ frame ∈ format.frameDescs := by
  obtain ⟨other, hother, hfound⟩ := List.exists_of_findSome?_eq_some h
  split_ifs at hfound
  obtain ⟨found, hfind, hpair⟩ := Option.map_eq_some_iff.mp hfound
  obtain ⟨rfl, rfl⟩ := Prod.mk.inj hpair
  exact ⟨hother, List.mem_of_find?_eq_some hfind⟩

/-- Of an interface that was taken in from its descriptors, whatever they were, no frame with a
descriptor for frame-based formats can be streamed isochronously. -/
theorem frameBased_never_starts {bInterfaceNumber : UInt8} {buffer : List UInt8}
    {streamIf : StreamingInterface} {altsettings : List AltSetting} {ctrl : StreamCtrl}
    {format : FormatDesc} {frame : FrameDesc}
    (hscan : vsScanner.scan (.blank bInterfaceNumber) buffer = .ok streamIf)
    (hseveral : 1 < altsettings.length)
    (hfind : streamIf.findFrame ctrl.bFormatIndex ctrl.bFrameIndex = some (format, frame))
    (hbased : frame.bDescriptorSubtype = 0x11) (scaled : Option ℕ) :
    ¬ ∃ setup, uvcStreamStartBandwidth streamIf altsettings ctrl scaled = .ok setup := by
  rintro ⟨setup, h⟩
  obtain ⟨_, _, _, _, _, _, hsame, -, -, hsize, -⟩ :=
    (starts_isochronous_iff ctrl scaled hseveral setup).mp h
  obtain ⟨rfl, rfl⟩ := Prod.mk.inj (Option.some.inj (hfind.symm.trans hsame))
  have hblocks := (BlockScanner.scan_eq_ok_iff (by decide)).mp hscan
  have hsizeless : FrameBasedSizeless streamIf :=
    FrameBasedSizeless.run hblocks (List.forall_mem_nil _)
  obtain ⟨hformat, hframe⟩ := mem_of_findFrame hfind
  have hmin : min ctrl.dwMaxVideoFrameSize 0 = 0 := by
    change (if ctrl.dwMaxVideoFrameSize ≤ 0 then ctrl.dwMaxVideoFrameSize else 0) = 0
    split_ifs with hle
    · exact UInt32.le_zero_iff.mp hle
    · rfl
  rw [hsizeless format hformat frame hframe hbased] at hsize
  exact hsize hmin

/-- A streaming interface with one frame-based format, of one size. -/
def smallFrameBased : StreamingSpec where
  header := smallStream.header
  formats :=
    [{ kind := .frameBased, bFormatIndex := 1, guidFormat := fourccGuid 0x59 0x55 0x59 0x32
       bBitsPerPixel := 16, bDefaultFrameIndex := 1, bAspectRatioX := 0, bAspectRatioY := 0
       bmInterlaceFlags := 0, bCopyProtect := 0, bVariableSize := 0
       frames :=
        [{ bFrameIndex := 1, bmCapabilities := 0, wWidth := 640, wHeight := 480
           dwMinBitRate := 1000, dwMaxBitRate := 2000, dwMaxVideoFrameBufferSize := 0
           dwBytesPerLine := 1280, dwDefaultFrameInterval := 333333
           timing := .discrete [333333] }]
       others := [] }]

def smallAltsettings : List AltSetting := [⟨1, 0, []⟩, ⟨1, 1, [(0x81, 1024)]⟩]

theorem frameBased_never_starts_small :
    ¬ ∃ setup, uvcStreamStartBandwidth (smallFrameBased.interface 1) smallAltsettings
      { StreamCtrl.zero with bFormatIndex := 1, bFrameIndex := 1 } none = .ok setup := by
  have hblocks : ∀ block ∈ smallFrameBased.blocks, block.Fits := by
    simp [smallFrameBased, smallStream, StreamingSpec.blocks, FormatSpec.blocks,
      StreamingBlock.Fits, FrameTiming.Fits, fourccGuid]
  have hscan := scan_streaming_encode smallFrameBased hblocks 1
  exact frameBased_never_starts hscan (by decide) rfl rfl none

/-! ### A mode that was agreed on -/

/-- A camera that takes every mode and says so. -/
structure Echoing (camera : Answering) (bcdUVC : UInt16) : Prop extends Obliging camera bcdUVC where
  echoes : ∀ sent number number' block,
    (camera (sent ++ [.control number true .setCur block] ++
      [.control number' true .getCur []])).data = block

/-- The fields of the mode, in a block that was read. -/
theorem decodeCtrl_mode (bcdUVC : UInt16) (ctrl : StreamCtrl) (buf : List UInt8) :
    (decodeCtrl bcdUVC ctrl buf).bmHint = swAt (fun offset ↦ buf.getD offset 0) 0 ∧
      (decodeCtrl bcdUVC ctrl buf).bFormatIndex = buf.getD 2 0 ∧
      (decodeCtrl bcdUVC ctrl buf).bFrameIndex = buf.getD 3 0 ∧
      (decodeCtrl bcdUVC ctrl buf).dwFrameInterval = dwAt (fun offset ↦ buf.getD offset 0) 4 := by
  rw [decodeCtrl]
  split_ifs <;> exact ⟨rfl, rfl, rfl, rfl⟩

theorem encodeCtrl_mode (bcdUVC : UInt16) (ctrl : StreamCtrl) :
    swAt (fun offset ↦ (encodeCtrl bcdUVC ctrl).getD offset 0) 0 = ctrl.bmHint ∧
      (encodeCtrl bcdUVC ctrl).getD 2 0 = ctrl.bFormatIndex ∧
      (encodeCtrl bcdUVC ctrl).getD 3 0 = ctrl.bFrameIndex ∧
      dwAt (fun offset ↦ (encodeCtrl bcdUVC ctrl).getD offset 0) 4 = ctrl.dwFrameInterval := by
  simp only [encodeCtrl, swAt, dwAt, splitSw, splitDw, List.cons_append, List.nil_append,
    Nat.reduceAdd, List.getD_cons_zero, List.getD_cons_succ, joinSw_bytes, joinDw_bytes, and_self]

/-- What a block says of a mode is read back. -/
theorem Mode.Fills.readBack {mode : Mode} {ctrl : StreamCtrl} (h : mode.Fills ctrl)
    (bcdUVC : UInt16) : mode.Fills (decodeCtrl bcdUVC ctrl (encodeCtrl bcdUVC ctrl)) := by
  obtain ⟨hhint, hformat, hframe, hinterval⟩ :=
    decodeCtrl_mode bcdUVC ctrl (encodeCtrl bcdUVC ctrl)
  obtain ⟨hwroteHint, hwroteFormat, hwroteFrame, hwroteInterval⟩ := encodeCtrl_mode bcdUVC ctrl
  exact {
    number := (decodeCtrl_bInterfaceNumber _ _ _).trans h.number
    hint := (hhint.trans hwroteHint).trans h.hint
    format := (hformat.trans hwroteFormat).trans h.format
    frame := (hframe.trans hwroteFrame).trans h.frame
    interval := (hinterval.trans hwroteInterval).trans h.interval }

theorem Mode.Fills.fixUp {mode : Mode} {ctrl : StreamCtrl} (h : mode.Fills ctrl)
    (info : DeviceInfo) : mode.Fills (fixUp info ctrl) := by
  rw [Camera.fixUp]
  split_ifs
  · cases uvcFindFrameDesc info ctrl.bFormatIndex ctrl.bFrameIndex with
    | none => exact h
    | some frame => exact ⟨h.number, h.hint, h.format, h.frame, h.interval⟩
  · exact h

/-- What is read of a camera that refuses nothing. -/
theorem obliging_read {camera : Answering} {info : DeviceInfo}
    (h : Obliging camera info.bcdUVC) (sent : List Request) (ctrl : StreamCtrl) :
    (uvcQueryStreamCtrl camera info sent ctrl true .getCur).2.1 =
      Camera.fixUp info (decodeCtrl info.bcdUVC ctrl
        (camera (sent ++ [.control ctrl.bInterfaceNumber true .getCur []])).data) := by
  have hpos := blockLength_pos info.bcdUVC
  have htransfers := h.transfers sent ctrl.bInterfaceNumber true .getCur []
  have hget : ¬ VsRequest.getCur = .setCur := by decide
  simp only [uvcQueryStreamCtrl, if_neg hget]
  rw [if_neg (by omega), if_neg (by omega)]

/-- A probe of a mode leaves the block with the mode. -/
theorem fills_probe {camera : Answering} {info : DeviceInfo} (h : Echoing camera info.bcdUVC)
    {mode : Mode} {ctrl : StreamCtrl} (hfills : mode.Fills ctrl) (sent : List Request) :
    mode.Fills (uvcProbeStreamCtrl camera info sent ctrl).2.1 := by
  have hset := obliging_query h.toObliging (sent ++ [.claim ctrl.bInterfaceNumber]) ctrl true
    .setCur
  obtain ⟨hsent, hctrl⟩ := query_set camera info (sent ++ [.claim ctrl.bInterfaceNumber]) ctrl true
  rw [uvcProbeStreamCtrl]
  simp only [h.claims, ne_eq, not_true_eq_false, if_false]
  generalize uvcQueryStreamCtrl camera info (sent ++ [.claim ctrl.bInterfaceNumber]) ctrl true
    .setCur = asked at hset hsent hctrl ⊢
  obtain ⟨sent', ctrl', result⟩ := asked
  simp only at hset hsent hctrl
  subst hsent hctrl
  simp only [hset, not_true_eq_false, if_false]
  rw [obliging_read h.toObliging, h.echoes]
  exact (hfills.readBack _).fixUp info

theorem fills_tryFormats {camera : Answering} {info : DeviceInfo}
    (h : Echoing camera info.bcdUVC) (cf : FrameFormat) (width height minFps maxFps : ℤ)
    (formats : List (StreamingInterface × FormatDesc))
    (hlisted : ∀ listed ∈ formats, listed ∈ info.formats) (sent : List Request)
    (ctrl : StreamCtrl)
    (hfound : (tryFormats camera info cf width height minFps maxFps formats sent ctrl).2.2 =
      .returned 0) :
    ∃ mode, info.Offers cf width height minFps maxFps mode ∧
      mode.Fills (tryFormats camera info cf width height minFps maxFps formats sent ctrl).2.1 := by
  induction formats generalizing sent ctrl with
  | nil => cases hfound
  | cons listed formats ih =>
    obtain ⟨streamIf, format⟩ := listed
    have hmore : ∀ listed ∈ formats, listed ∈ info.formats := fun other hother ↦
      hlisted other (List.mem_cons_of_mem _ hother)
    rw [tryFormats] at hfound ⊢
    by_cases hnamed : uvcFrameFormatMatchesGuid cf format.guidFormat = true
    · rw [if_pos hnamed] at hfound ⊢
      have htried := tried_format camera info width height minFps maxFps streamIf format sent ctrl
      generalize uvcGetStreamCtrlFormat camera info width height minFps maxFps streamIf format sent
        ctrl = result at htried hfound ⊢
      cases htried with
      | refused hgets hresult =>
        simp only [if_neg hresult] at hfound ⊢
        exact ih hmore _ _ hfound
      | divided hgets hstepless => exact absurd hfound (by simp)
      | @chosen gets ctrl' frame interval hgets hframe hsize hrate hfills =>
        simp only [if_true]
        exact ⟨⟨streamIf, format, frame, interval⟩,
          ⟨hlisted _ List.mem_cons_self, hnamed, hframe, hsize, hrate⟩, fills_probe h hfills _⟩
    · rw [if_neg hnamed] at hfound ⊢
      exact ih hmore sent ctrl hfound

/-- What the formats of the table match, but for the GUID of zeros of the abstract ones. -/
theorem known_of_matches {cf : FrameFormat} {guid : List UInt8}
    (h : uvcFrameFormatMatchesGuid cf guid = true) (hguid : guid ≠ List.replicate 16 0) :
    uvcFrameFormatForGuid guid ≠ .any := by
  have hlisted : guid ∈ [fourccGuid 0x59 0x55 0x59 0x32, fourccGuid 0x55 0x59 0x56 0x59,
      fourccGuid 0x59 0x38 0x30 0x30, fourccGuid 0x42 0x59 0x38 0x20, fourccMjpg] := by
    cases cf <;>
      simp [uvcFrameFormatMatchesGuid, matchesGuidWithin, getFormatEntry] at h ⊢ <;> tauto
  simp only [List.mem_cons, List.not_mem_nil, or_false] at hlisted
  rcases hlisted with rfl | rfl | rfl | rfl | rfl <;> decide

/-- The indices by which formats and frames are asked for are their own. -/
structure StreamingInterface.DistinctIndices (streamIf : StreamingInterface) : Prop where
  formats : (streamIf.formatDescs.map FormatDesc.bFormatIndex).Nodup
  frames : ∀ format ∈ streamIf.formatDescs, (format.frameDescs.map FrameDesc.bFrameIndex).Nodup

theorem find?_of_nodup_map {α β : Type*} [DecidableEq β] {key : α → β} {values : List α}
    (hnodup : (values.map key).Nodup) {value : α} (hvalue : value ∈ values) :
    (values.find? fun other ↦ key other = key value) = some value := by
  induction values with
  | nil => cases hvalue
  | cons here values ih =>
    rw [List.map_cons, List.nodup_cons] at hnodup
    rcases List.mem_cons.mp hvalue with rfl | hlater
    · simp
    · have hother : key here ≠ key value := fun hsame ↦
        hnodup.1 (hsame ▸ List.mem_map_of_mem hlater)
      rw [List.find?_cons_of_neg (by simpa using hother)]
      exact ih hnodup.2 hlater

theorem StreamingInterface.DistinctIndices.findFrame {streamIf : StreamingInterface}
    (h : streamIf.DistinctIndices) {format : FormatDesc} (hformat : format ∈ streamIf.formatDescs)
    {frame : FrameDesc} (hframe : frame ∈ format.frameDescs) :
    streamIf.findFrame format.bFormatIndex frame.bFrameIndex = some (format, frame) := by
  have hfind := find?_of_nodup_map (h.frames format hformat) hframe
  have hnodup := h.formats
  rw [StreamingInterface.findFrame]
  generalize streamIf.formatDescs = formats at hformat hnodup
  induction formats with
  | nil => cases hformat
  | cons here formats ih =>
    rw [List.map_cons, List.nodup_cons] at hnodup
    rcases List.mem_cons.mp hformat with rfl | hlater
    · rw [List.findSome?_cons, if_pos rfl, hfind]
      rfl
    · have hother : here.bFormatIndex ≠ format.bFormatIndex := fun hsame ↦
        hnodup.1 (hsame ▸ List.mem_map_of_mem hlater)
      rw [List.findSome?_cons, if_neg hother]
      exact ih hlater hnodup.2

/-- What a camera that takes every mode agreed on is found again by its indices, and a stream of it
is set up, isochronously, exactly where the sizes it said are not zero and an altsetting has
packets. -/
theorem negotiated_starts_iff {camera : Answering} {info : DeviceInfo}
    (h : Echoing camera info.bcdUVC) {cf : FrameFormat} {width height minFps maxFps : ℤ}
    {sent : List Request} {ctrl : StreamCtrl}
    (hfound : uvcGetStreamCtrlFormatSizeFps camera info cf width height minFps maxFps =
      (sent, ctrl, .returned 0)) :
    ∃ mode, info.Offers cf width height minFps maxFps mode ∧
      (mode.streamIf.DistinctIndices →
        mode.streamIf.findFrame ctrl.bFormatIndex ctrl.bFrameIndex =
            some (mode.format, mode.frame) ∧
          (mode.format.guidFormat ≠ List.replicate 16 0 →
            ∀ (altsettings : List AltSetting) (scaled : Option ℕ), 1 < altsettings.length →
              ((∃ setup,
                  uvcStreamStartBandwidth mode.streamIf altsettings ctrl scaled = .ok setup) ↔
                configBytesPerPacket ctrl.dwMaxPayloadTransferSize scaled ≠ 0 ∧
                min ctrl.dwMaxVideoFrameSize mode.frame.dwMaxVideoFrameBufferSize ≠ 0 ∧
                ∃ altsetting, Chosen mode.streamIf.bEndpointAddress
                  (configBytesPerPacket ctrl.dwMaxPayloadTransferSize scaled) altsettings
                  altsetting))) := by
  have hfills := fills_tryFormats h cf width height minFps maxFps info.formats
    (fun _ hlisted ↦ hlisted) [] .zero (congrArg (·.2.2) hfound)
  have hctrl : (tryFormats camera info cf width height minFps maxFps info.formats [] .zero).2.1 =
      ctrl := congrArg (·.2.1) hfound
  rw [hctrl] at hfills
  obtain ⟨mode, hoffers, hfills⟩ := hfills
  refine ⟨mode, hoffers, fun hdistinct ↦ ?_⟩
  have hformat : mode.format ∈ mode.streamIf.formatDescs := by
    have hlisted := hoffers.listed
    simp only [DeviceInfo.formats, List.mem_flatMap, List.mem_map, Prod.mk.injEq] at hlisted
    obtain ⟨streamIf, -, format, hformat, rfl, rfl⟩ := hlisted
    exact hformat
  have hfind : mode.streamIf.findFrame ctrl.bFormatIndex ctrl.bFrameIndex =
      some (mode.format, mode.frame) := by
    rw [hfills.format, hfills.frame]
    exact hdistinct.findFrame hformat hoffers.framed
  refine ⟨hfind, fun hguid altsettings scaled hseveral ↦ ?_⟩
  have hknown := known_of_matches hoffers.named hguid
  constructor
  · rintro ⟨setup, hsetup⟩
    obtain ⟨_, _, altsetting, _, _, _, hsame, -, hconfig, hsize, hset, -⟩ :=
      (starts_isochronous_iff ctrl scaled hseveral setup).mp hsetup
    obtain ⟨rfl, rfl⟩ := Prod.mk.inj (Option.some.inj (hfind.symm.trans hsame))
    exact ⟨hconfig, hsize, altsetting, hset.chosen⟩
  · rintro ⟨hconfig, hsize, altsetting, hchosen⟩
    refine ⟨_, (starts_isochronous_iff ctrl scaled hseveral _).mpr
      ⟨_, _, altsetting, _, _, _, hfind, hknown, hconfig, hsize, ⟨hchosen, rfl, rfl, rfl⟩, rfl⟩⟩

/-- A camera that refuses nothing, and answers with the block that it was sent last. -/
def echoCamera : Answering := fun sent ↦
  match sent.getLast? with
  | some (.claim _) | some (.release _) | none => ⟨0, []⟩
  | some (.control _ _ _ _) =>
    match sent.dropLast.getLast? with
    | some (.control _ _ _ block) => ⟨48, block⟩
    | some (.claim _) | some (.release _) | none => ⟨48, []⟩

theorem echoing_echoCamera (bcdUVC : UInt16) : Echoing echoCamera bcdUVC where
  claims := fun sent number ↦ by rw [echoCamera, List.getLast?_concat]
  transfers := fun sent number probe kind block ↦ by
    rw [echoCamera, List.getLast?_concat]
    simp only
    split <;> exact Int.ofNat_le.mpr (blockLength_le bcdUVC)
  echoes := fun sent number number' block ↦ by
    rw [echoCamera, List.getLast?_concat, List.dropLast_concat]
    simp

theorem negotiated_starts_iff_small :
    let ctrl := (uvcGetStreamCtrlFormatSizeFps echoCamera smallInfo .mjpeg 640 480 1 30).2.1
    ∃ mode, smallInfo.Offers .mjpeg 640 480 1 30 mode ∧
      (mode.streamIf.DistinctIndices →
        mode.streamIf.findFrame ctrl.bFormatIndex ctrl.bFrameIndex =
            some (mode.format, mode.frame) ∧
          (mode.format.guidFormat ≠ List.replicate 16 0 →
            ∀ (altsettings : List AltSetting) (scaled : Option ℕ), 1 < altsettings.length →
              ((∃ setup,
                  uvcStreamStartBandwidth mode.streamIf altsettings ctrl scaled = .ok setup) ↔
                configBytesPerPacket ctrl.dwMaxPayloadTransferSize scaled ≠ 0 ∧
                min ctrl.dwMaxVideoFrameSize mode.frame.dwMaxVideoFrameBufferSize ≠ 0 ∧
                ∃ altsetting, Chosen mode.streamIf.bEndpointAddress
                  (configBytesPerPacket ctrl.dwMaxPayloadTransferSize scaled) altsettings
                  altsetting))) := by
  have hfound : (uvcGetStreamCtrlFormatSizeFps echoCamera smallInfo .mjpeg 640 480 1 30).2.2 =
      .returned 0 := by decide
  exact negotiated_starts_iff (echoing_echoCamera _) (Prod.ext rfl (Prod.ext rfl hfound))

end UvcRtmpStream.Camera
