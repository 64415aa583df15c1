import Mathlib.Data.Int.Notation
import Mathlib.Data.List.Basic
import UvcRtmpStream.Foundations.LittleEndian

/-!
# Payloads of a video stream

The receiving half of `libuvc/src/stream.c`. A camera sends each frame in payloads: the full
transfer of a bulk endpoint (`uvcProcessPayload`), or one packet of an isochronous transfer
(`uvcProcessPacket`, the body of the loop in `uvcProcessPayloadIso`). A payload starts with a header
of the length given in its first byte; the second byte has the flags. The data is appended to
`outbuf`, and `uvcSwapBuffers` presents the frame in `holdbuf`.

Memory is a function from offsets to bytes, so that a read past the end of a transfer is a read like
any other. `published` is the list of the frames that were ever in `holdbuf`; no code reads it.
-/

set_option autoImplicit false
set_option relaxedAutoImplicit false

namespace UvcRtmpStream.Camera

open UvcRtmpStream.Foundations

/-! ### Memory -/

abbrev Buffer := ℕ → UInt8

/-- The bytes at `start`, …, `start + count - 1`. -/
def readBytes (buffer : Buffer) (start count : ℕ) : List UInt8 :=
  (List.range count).map fun place ↦ buffer (start + place)

/-- `memcpy(dest + offset, src, n)`. -/
def memcpy (dest : Buffer) (offset : ℕ) (src : List UInt8) : Buffer :=
  fun place ↦ if place < offset then dest place else (src[place - offset]?).getD (dest place)

/-- `DW_TO_INT(p)`. -/
def dwToInt (buffer : Buffer) (start : ℕ) : UInt32 :=
  LittleEndian.joinDw (buffer start) (buffer (start + 1)) (buffer (start + 2)) (buffer (start + 3))

/-! ### Flags of the payload header -/

def uvcStreamErr : UInt8 := (1 : UInt8) <<< 6
def uvcStreamScr : UInt8 := (1 : UInt8) <<< 3
def uvcStreamPts : UInt8 := (1 : UInt8) <<< 2
def uvcStreamEof : UInt8 := (1 : UInt8) <<< 1
def uvcStreamFid : UInt8 := (1 : UInt8) <<< 0

def hasFlag (headerInfo flag : UInt8) : Bool := headerInfo &&& flag != 0

/-- `isight_tag`, the magic numbers of the header packets of some cameras. -/
def isightTag : List UInt8 :=
  [0x11, 0x22, 0x33, 0x44, 0xde, 0xad, 0xbe, 0xef, 0xde, 0xad, 0xfa, 0xce]

/-! ### The stream handle -/

/-- `LIBUVC_XFER_BUF_SIZE`. -/
def libuvcXferBufSize : ℕ := 16 * 1024 * 1024

/-- A frame in `holdbuf`, with what the handle holds about it. -/
@[ext] structure HeldFrame where
  data : List UInt8
  bfhErr : Bool
  seq : UInt32
  pts : UInt32
  lastScr : UInt32
  deriving DecidableEq

/-- The part of `uvc_stream_handle` that the payloads change. The flags in `bfh_err` are only ever
`UVC_STREAM_ERR`, so that they are one Boolean here. -/
structure StreamHandle where
  isIsight : Bool
  sizeBuf : ℕ
  bfhErr : Bool
  holdBfhErr : Bool
  fid : UInt8
  seq : UInt32
  holdSeq : UInt32
  pts : UInt32
  holdPts : UInt32
  lastScr : UInt32
  holdLastScr : UInt32
  gotBytes : ℕ
  holdBytes : ℕ
  outbuf : Buffer
  holdbuf : Buffer
  published : List HeldFrame

namespace StreamHandle

/-- What `uvc_stream_open_ctrl` and `uvc_stream_start_bandwidth` leave, on buffers of any
content. -/
def started (isIsight : Bool) (outbuf holdbuf : Buffer) : StreamHandle where
  isIsight := isIsight
  sizeBuf := libuvcXferBufSize
  bfhErr := false
  holdBfhErr := false
  fid := 0
  seq := 0
  holdSeq := 0
  pts := 0
  holdPts := 0
  lastScr := 0
  holdLastScr := 0
  gotBytes := 0
  holdBytes := 0
  outbuf := outbuf
  holdbuf := holdbuf
  published := []

/-- The frame that is presented. -/
def held (strmh : StreamHandle) : HeldFrame where
  data := readBytes strmh.holdbuf 0 strmh.holdBytes
  bfhErr := strmh.holdBfhErr
  seq := strmh.holdSeq
  pts := strmh.holdPts
  lastScr := strmh.holdLastScr

end StreamHandle

/-- `_uvc_swap_buffers`. -/
def uvcSwapBuffers (strmh : StreamHandle) : StreamHandle :=
  let swapped := { strmh with
    holdBfhErr := strmh.bfhErr
    holdBytes := strmh.gotBytes
    holdbuf := strmh.outbuf
    outbuf := strmh.holdbuf
    holdLastScr := strmh.lastScr
    holdPts := strmh.pts
    holdSeq := strmh.seq }
  { swapped with
    published := strmh.published ++ [swapped.held]
    seq := strmh.seq + 1
    gotBytes := 0
    lastScr := 0
    pts := 0
    bfhErr := false }

/-! ### Bulk transfers -/

/-- No iSight magic in the payload: it is all image data. -/
def lacksIsightTag (payload : Buffer) (payloadLen : ℕ) : Bool :=
  (payloadLen < 14 || readBytes payload 2 12 != isightTag) &&
    (payloadLen < 15 || readBytes payload 3 12 != isightTag)

/-- The frame ID of a header. A flip while there is data from prior transfers means that the camera
did not send an EOF for the previous frame. -/
def uvcTakeFid (strmh : StreamHandle) (headerInfo : UInt8) : StreamHandle :=
  let flipped :=
    if strmh.fid ≠ headerInfo &&& uvcStreamFid ∧ strmh.gotBytes ≠ 0 then uvcSwapBuffers strmh
    else strmh
  { flipped with fid := headerInfo &&& uvcStreamFid }

/-- The part of `_uvc_process_payload` for a header of at least two bytes. -/
def uvcTakeHeader (strmh : StreamHandle) (payload : Buffer) (headerLen : ℕ) : StreamHandle :=
  let headerInfo := payload 1
  let strmh := uvcTakeFid strmh headerInfo
  let hasPts := hasFlag headerInfo uvcStreamPts && 2 + 4 ≤ headerLen
  let strmh :=
    if hasFlag headerInfo uvcStreamPts then
      { strmh with pts := if 2 + 4 ≤ headerLen then dwToInt payload 2 else 0 }
    else strmh
  let variableOffset := if hasPts then 6 else 2
  if hasFlag headerInfo uvcStreamScr then
    { strmh with
      lastScr := if variableOffset + 4 ≤ headerLen then dwToInt payload variableOffset else 0 }
  else strmh

/-- The copy of the data behind the header, if there is room for it. -/
def uvcCopyData (strmh : StreamHandle) (payload : Buffer) (headerLen dataLen : ℕ) :
    Option StreamHandle :=
  if strmh.gotBytes + dataLen < strmh.sizeBuf then
    some { strmh with
      outbuf := memcpy strmh.outbuf strmh.gotBytes (readBytes payload headerLen dataLen)
      gotBytes := strmh.gotBytes + dataLen }
  else none

/-- The end of `_uvc_process_payload`. -/
def uvcTakeData (strmh : StreamHandle) (payload : Buffer) (headerLen dataLen : ℕ)
    (headerInfo : UInt8) : StreamHandle :=
  if 0 < dataLen then
    let taken := (uvcCopyData strmh payload headerLen dataLen).getD { strmh with bfhErr := true }
    if hasFlag headerInfo uvcStreamEof then uvcSwapBuffers taken else taken
  else strmh

/-- `_uvc_process_payload`, without the requests that clear a halted endpoint. -/
def uvcProcessPayload (strmh : StreamHandle) (payload : Buffer) (payloadLen : ℕ) : StreamHandle :=
  if payloadLen = 0 then strmh
  else if strmh.isIsight && lacksIsightTag payload payloadLen then
    uvcTakeData strmh payload 0 payloadLen 0
  else
    let headerLen := (payload 0).toNat
    if payloadLen < headerLen then { strmh with bfhErr := true }
    else
      let dataLen := if strmh.isIsight then 0 else payloadLen - headerLen
      if headerLen < 2 then uvcTakeData strmh payload headerLen dataLen 0
      else
        uvcTakeData (uvcTakeHeader strmh payload headerLen) payload headerLen dataLen (payload 1)

/-! ### Isochronous transfers -/

/-- A `libusb_iso_packet_descriptor`, and where the bytes of the packet are, if
`libusb_get_iso_packet_buffer_simple` knows. -/
structure IsoPacket where
  status : ℤ
  actualLength : ℕ
  pktbuf : Option Buffer

/-- The part of the loop for a packet whose header is read. -/
def uvcTakeIsoHeader (strmh : StreamHandle) (pktbuf : Buffer) (headerLen : ℕ) : StreamHandle :=
  let headerInfo := pktbuf 1
  let strmh := uvcTakeFid strmh headerInfo
  let strmh :=
    if hasFlag headerInfo uvcStreamPts then
      { strmh with pts := if 6 ≤ headerLen then dwToInt pktbuf 2 else 0 }
    else strmh
  if hasFlag headerInfo uvcStreamScr then
    { strmh with lastScr := if 10 ≤ headerLen then dwToInt pktbuf 6 else 0 }
  else strmh

/-- The data of a packet. There is no result where the assertion in front of the copy fails. -/
def uvcTakeIsoData (strmh : StreamHandle) (pktbuf : Buffer) (actualLength headerLen : ℕ) :
    Option StreamHandle :=
  if actualLength < headerLen then some { strmh with bfhErr := true }
  else
    let oddBytes := actualLength - headerLen
    let taken := if 0 < oddBytes then uvcCopyData strmh pktbuf headerLen oddBytes else some strmh
    taken.map fun strmh ↦
      if hasFlag (pktbuf 1) uvcStreamEof && strmh.gotBytes != 0 then uvcSwapBuffers strmh else strmh

/-- One turn of the loop in `_uvc_process_payload_iso`. -/
def uvcProcessPacket (strmh : StreamHandle) (pkt : IsoPacket) : Option StreamHandle :=
  if pkt.status ≠ 0 then some { strmh with bfhErr := true }
  else if pkt.actualLength = 0 then some strmh
  else
    match pkt.pktbuf with
    | none => some { strmh with bfhErr := true }
    | some pktbuf =>
      let checkHeader := !(strmh.isIsight && (pkt.actualLength < 30 ||
        (readBytes pktbuf 2 12 != isightTag && readBytes pktbuf 3 12 != isightTag)))
      let headerLen := if checkHeader then (pktbuf 0).toNat else 0
      if checkHeader then
        if hasFlag (pktbuf 1) uvcStreamErr then some strmh
        else
          let strmh := uvcTakeIsoHeader strmh pktbuf headerLen
          if strmh.isIsight then some strmh
          else uvcTakeIsoData strmh pktbuf pkt.actualLength headerLen
      else uvcTakeIsoData strmh pktbuf pkt.actualLength headerLen

/-- `_uvc_process_payload_iso`. -/
def uvcProcessPayloadIso (strmh : StreamHandle) (packets : List IsoPacket) : Option StreamHandle :=
  packets.foldlM uvcProcessPacket strmh

/-! ### Small facts -/

@[simp] theorem length_readBytes (buffer : Buffer) (start count : ℕ) :
    (readBytes buffer start count).length = count := by
  simp [readBytes]

@[simp] theorem readBytes_zero (buffer : Buffer) (start : ℕ) : readBytes buffer start 0 = [] := rfl

theorem readBytes_eq_nil_iff {buffer : Buffer} {start count : ℕ} :
    readBytes buffer start count = [] ↔ count = 0 := by
  rw [← List.length_eq_zero_iff, length_readBytes]

/-- Copying behind the first `offset` bytes appends to them. -/
theorem readBytes_memcpy (dest : Buffer) (offset : ℕ) (src : List UInt8) :
    readBytes (memcpy dest offset src) 0 (offset + src.length) =
      readBytes dest 0 offset ++ src := by
  refine List.ext_getElem (by simp) ?_
  intro place hplace _
  have hbound : place < offset + src.length := by simpa using hplace
  by_cases hold : place < offset
  · rw [List.getElem_append_left (by simpa using hold)]
    simp [readBytes, memcpy, hold]
  · have hnew : place - offset < src.length := by omega
    rw [List.getElem_append_right (by simpa using hold)]
    simp [readBytes, memcpy, hold, List.getElem?_eq_getElem hnew]

/-! ### The rule for what the payloads leave alone -/

/-- A property that does not depend on the frame that is still open. -/
structure Settled (property : StreamHandle → Prop) : Prop where
  swap : ∀ strmh, property strmh → property (uvcSwapBuffers strmh)
  change : ∀ strmh bfhErr fid pts lastScr gotBytes outbuf, property strmh →
    property { strmh with
      bfhErr := bfhErr, fid := fid, pts := pts, lastScr := lastScr
      gotBytes := gotBytes, outbuf := outbuf }

namespace Settled

variable {property : StreamHandle → Prop} (h : Settled property) {strmh : StreamHandle}
include h

theorem uvcTakeFid (hstrmh : property strmh) (headerInfo : UInt8) :
    property (uvcTakeFid strmh headerInfo) := by
  unfold Camera.uvcTakeFid
  by_cases hflip : strmh.fid ≠ headerInfo &&& uvcStreamFid ∧ strmh.gotBytes ≠ 0
  · simp only [if_pos hflip]
    exact h.change _ _ _ _ _ _ _ (h.swap _ hstrmh)
  · simp only [if_neg hflip]
    exact h.change _ _ _ _ _ _ _ hstrmh

theorem uvcTakeHeader (hstrmh : property strmh) (payload : Buffer) (headerLen : ℕ) :
    property (uvcTakeHeader strmh payload headerLen) := by
  have hfid := h.uvcTakeFid hstrmh (payload 1)
  unfold Camera.uvcTakeHeader
  by_cases hpts : hasFlag (payload 1) uvcStreamPts = true <;>
    by_cases hscr : hasFlag (payload 1) uvcStreamScr = true <;>
      simp only [hpts, hscr, if_true, Bool.false_eq_true, if_false] <;>
        first | exact hfid | exact h.change _ _ _ _ _ _ _ hfid

theorem uvcCopyData (hstrmh : property strmh) {payload : Buffer} {headerLen dataLen : ℕ}
    {copied : StreamHandle} (hcopied : uvcCopyData strmh payload headerLen dataLen = some copied) :
    property copied := by
  unfold Camera.uvcCopyData at hcopied
  split at hcopied
  · obtain rfl := Option.some.inj hcopied
    exact h.change _ _ _ _ _ _ _ hstrmh
  · exact absurd hcopied (by simp)

theorem uvcTakeData (hstrmh : property strmh) (payload : Buffer) (headerLen dataLen : ℕ)
    (headerInfo : UInt8) : property (uvcTakeData strmh payload headerLen dataLen headerInfo) := by
  have htaken : property ((Camera.uvcCopyData strmh payload headerLen dataLen).getD
      { strmh with bfhErr := true }) := by
    cases hcopied : Camera.uvcCopyData strmh payload headerLen dataLen with
    | none => exact h.change _ _ _ _ _ _ _ hstrmh
    | some copied => exact h.uvcCopyData hstrmh hcopied
  unfold Camera.uvcTakeData
  split
  · split
    · exact h.swap _ htaken
    · exact htaken
  · exact hstrmh

/-- A settled property is kept by every payload. -/
theorem uvcProcessPayload (hstrmh : property strmh) (payload : Buffer) (payloadLen : ℕ) :
    property (uvcProcessPayload strmh payload payloadLen) := by
  unfold Camera.uvcProcessPayload
  by_cases hempty : payloadLen = 0
  · rwa [if_pos hempty]
  rw [if_neg hempty]
  by_cases hbare : (strmh.isIsight && lacksIsightTag payload payloadLen) = true
  · rw [if_pos hbare]
    exact h.uvcTakeData hstrmh _ _ _ _
  rw [if_neg hbare]
  by_cases hbogus : payloadLen < (payload 0).toNat
  · simp only [if_pos hbogus]
    exact h.change _ _ _ _ _ _ _ hstrmh
  simp only [if_neg hbogus]
  by_cases hshort : (payload 0).toNat < 2
  · simp only [if_pos hshort]
    exact h.uvcTakeData hstrmh _ _ _ _
  · simp only [if_neg hshort]
    exact h.uvcTakeData (h.uvcTakeHeader hstrmh _ _) _ _ _ _

theorem uvcTakeIsoHeader (hstrmh : property strmh) (pktbuf : Buffer) (headerLen : ℕ) :
    property (uvcTakeIsoHeader strmh pktbuf headerLen) := by
  have hfid := h.uvcTakeFid hstrmh (pktbuf 1)
  unfold Camera.uvcTakeIsoHeader
  by_cases hpts : hasFlag (pktbuf 1) uvcStreamPts = true <;>
    by_cases hscr : hasFlag (pktbuf 1) uvcStreamScr = true <;>
      simp only [hpts, hscr, if_true, Bool.false_eq_true, if_false] <;>
        first | exact hfid | exact h.change _ _ _ _ _ _ _ hfid

end Settled

end UvcRtmpStream.Camera
