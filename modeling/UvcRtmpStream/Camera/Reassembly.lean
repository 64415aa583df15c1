import UvcRtmpStream.Camera.Payload
import UvcRtmpStream.Foundations.Assembly

/-!
# Frames of a bulk stream

`_uvc_process_payload` is a receiver in the sense of `Foundations.Assembly`: `pieceOf` is what a
payload says, whatever its bytes are, and `assembler_uvcProcessPayload` that the handle does with
the payload what the receiver does with that piece. The frame ID is the tag, PTS and SCR are the
notes, and the EOF flag closes a frame where the payload has data.

`published_windows` is what a stream of any bytes can do: the frames published are those of
consecutive windows of the payloads, each with the number of its window.
-/

set_option autoImplicit false
set_option relaxedAutoImplicit false

namespace UvcRtmpStream.Camera

open UvcRtmpStream.Foundations

/-! ### What a payload says -/

/-- A transfer of a bulk endpoint. -/
structure Payload where
  bytes : Buffer
  length : ℕ

/-- The transfers of a bulk endpoint, one after the other. -/
def uvcProcessPayloads (strmh : StreamHandle) (payloads : List Payload) : StreamHandle :=
  payloads.foldl (fun strmh payload ↦ uvcProcessPayload strmh payload.bytes payload.length) strmh

/-- PTS and SCR of a header of at least two bytes, in place of those noted so far. -/
def stampsOf (payload : Buffer) (headerLen : ℕ) (noted : UInt32 × UInt32) : UInt32 × UInt32 :=
  let hasPts := hasFlag (payload 1) uvcStreamPts
  let offset := if hasPts && 2 + 4 ≤ headerLen then 6 else 2
  (if hasPts then if 2 + 4 ≤ headerLen then dwToInt payload 2 else 0 else noted.1,
    if hasFlag (payload 1) uvcStreamScr then
      if offset + 4 ≤ headerLen then dwToInt payload offset else 0
    else noted.2)

/-- A payload as a piece of the stream. -/
def pieceOf (isIsight : Bool) (payload : Payload) : Piece UInt8 UInt8 (UInt32 × UInt32) :=
  let headerLen := (payload.bytes 0).toNat
  let dataLen := if isIsight then 0 else payload.length - headerLen
  let data := readBytes payload.bytes headerLen dataLen
  if payload.length = 0 then ⟨none, [], id, false, false⟩
  else if isIsight && lacksIsightTag payload.bytes payload.length then
    ⟨none, readBytes payload.bytes 0 payload.length, id, false, false⟩
  else if payload.length < headerLen then ⟨none, [], id, true, false⟩
  else if headerLen < 2 then ⟨none, data, id, false, false⟩
  else ⟨some (payload.bytes 1 &&& uvcStreamFid), data, stampsOf payload.bytes headerLen, false,
    hasFlag (payload.bytes 1) uvcStreamEof && data != []⟩

/-! ### The handle as a receiver -/

/-- The constants of the handle. -/
theorem settled_constants (isIsight : Bool) (sizeBuf : ℕ) :
    Settled fun strmh ↦ strmh.isIsight = isIsight ∧ strmh.sizeBuf = sizeBuf where
  swap := fun _ h ↦ h
  change := fun _ _ _ _ _ _ _ h ↦ h

def HeldFrame.gathered (frame : HeldFrame) : Gathered UInt8 (UInt32 × UInt32) :=
  ⟨frame.data, (frame.pts, frame.lastScr), frame.bfhErr⟩

namespace StreamHandle

/-- What the handle has of the frame that is not published yet. -/
def current (strmh : StreamHandle) : Gathered UInt8 (UInt32 × UInt32) :=
  ⟨readBytes strmh.outbuf 0 strmh.gotBytes, (strmh.pts, strmh.lastScr), strmh.bfhErr⟩

def assembler (strmh : StreamHandle) : Assembler UInt8 UInt8 (UInt32 × UInt32) :=
  ⟨strmh.fid, strmh.current, strmh.published.map HeldFrame.gathered⟩

theorem current_data_eq_nil_iff {strmh : StreamHandle} :
    strmh.current.data = [] ↔ strmh.gotBytes = 0 := readBytes_eq_nil_iff

theorem assembler_uvcSwapBuffers (strmh : StreamHandle) :
    (uvcSwapBuffers strmh).assembler = strmh.assembler.cut (0, 0) := by
  simp [uvcSwapBuffers, assembler, current, Assembler.cut, Gathered.empty, held,
    HeldFrame.gathered]

theorem assembler_uvcTakeFid (strmh : StreamHandle) (headerInfo : UInt8) :
    (uvcTakeFid strmh headerInfo).assembler =
      strmh.assembler.retag (0, 0) (some (headerInfo &&& uvcStreamFid)) := by
  have hflip : (headerInfo &&& uvcStreamFid ≠ strmh.assembler.tag ∧
      strmh.assembler.current.data ≠ []) ↔
        strmh.fid ≠ headerInfo &&& uvcStreamFid ∧ strmh.gotBytes ≠ 0 := by
    rw [ne_comm]
    exact and_congr_right fun _ ↦ not_congr current_data_eq_nil_iff
  rw [Assembler.retag_some]
  unfold uvcTakeFid
  by_cases h : strmh.fid ≠ headerInfo &&& uvcStreamFid ∧ strmh.gotBytes ≠ 0
  · have hswap := assembler_uvcSwapBuffers strmh
    rw [if_pos h, if_pos (hflip.mpr h)]
    exact congrArg (fun a ↦ { a with tag := headerInfo &&& uvcStreamFid }) hswap
  · rw [if_neg h, if_neg (fun hcut ↦ h (hflip.mp hcut))]
    rfl

/-- The header of a payload: the frame ID, then the stamps. -/
theorem assembler_uvcTakeHeader (strmh : StreamHandle) (payload : Buffer) (headerLen : ℕ) :
    (uvcTakeHeader strmh payload headerLen).assembler =
      { strmh.assembler.retag (0, 0) (some (payload 1 &&& uvcStreamFid)) with
        current :=
          let open_ := (strmh.assembler.retag (0, 0) (some (payload 1 &&& uvcStreamFid))).current
          ⟨open_.data, stampsOf payload headerLen open_.note, open_.damaged⟩ } := by
  rw [← assembler_uvcTakeFid]
  unfold uvcTakeHeader stampsOf
  by_cases hpts : hasFlag (payload 1) uvcStreamPts = true <;>
    by_cases hscr : hasFlag (payload 1) uvcStreamScr = true <;>
      simp [hpts, hscr, assembler, current]

/-- The data of a payload is gathered, or the frame is damaged. -/
theorem current_uvcCopyData (strmh : StreamHandle) (payload : Buffer) (headerLen : ℕ) {dataLen : ℕ}
    (hpos : 0 < dataLen) (tag : Option UInt8) (last : Bool) :
    ((uvcCopyData strmh payload headerLen dataLen).getD { strmh with bfhErr := true }).assembler =
      { strmh.assembler with
        current := strmh.current.put strmh.sizeBuf
          ⟨tag, readBytes payload headerLen dataLen, id, false, last⟩ } := by
  have hdata : readBytes payload headerLen dataLen ≠ [] :=
    fun hnil ↦ hpos.ne' (readBytes_eq_nil_iff.mp hnil)
  unfold uvcCopyData Gathered.put
  rw [if_neg hdata]
  simp only [current, length_readBytes]
  by_cases hfits : strmh.gotBytes + dataLen < strmh.sizeBuf
  · have hcopied := readBytes_memcpy strmh.outbuf strmh.gotBytes
      (readBytes payload headerLen dataLen)
    rw [length_readBytes] at hcopied
    rw [if_pos hfits, if_pos hfits]
    simp [assembler, current, hcopied]
  · rw [if_neg hfits, if_neg hfits]
    rfl

/-- The data of a payload, whose header has been read. -/
theorem assembler_uvcTakeData (strmh : StreamHandle) (payload : Buffer) (headerLen dataLen : ℕ)
    (headerInfo : UInt8) (tag : Option UInt8) :
    (uvcTakeData strmh payload headerLen dataLen headerInfo).assembler =
      strmh.assembler.take strmh.sizeBuf (0, 0)
        ⟨tag, readBytes payload headerLen dataLen, id, false,
          hasFlag headerInfo uvcStreamEof && readBytes payload headerLen dataLen != []⟩ := by
  unfold uvcTakeData
  rcases Nat.eq_zero_or_pos dataLen with rfl | hpos
  · simp [Assembler.take, Gathered.put, assembler, current]
  · have hdata : (readBytes payload headerLen dataLen != []) = true := by
      rw [bne_iff_ne]
      exact fun hnil ↦ hpos.ne' (readBytes_eq_nil_iff.mp hnil)
    rw [if_pos hpos, hdata, Bool.and_true]
    unfold Assembler.take
    have hcopy := current_uvcCopyData strmh payload headerLen hpos tag
      (hasFlag headerInfo uvcStreamEof)
    cases heof : hasFlag headerInfo uvcStreamEof with
    | false =>
      rw [heof] at hcopy
      exact hcopy
    | true =>
      rw [heof] at hcopy
      simp only [if_true, assembler_uvcSwapBuffers, hcopy]
      rfl

/-- What a payload does to the handle is what its piece does to the receiver. -/
theorem assembler_uvcProcessPayload (strmh : StreamHandle) (payload : Payload) :
    (uvcProcessPayload strmh payload.bytes payload.length).assembler =
      strmh.assembler.step strmh.sizeBuf (0, 0) (pieceOf strmh.isIsight payload) := by
  unfold uvcProcessPayload pieceOf
  by_cases hempty : payload.length = 0
  · rw [if_pos hempty, if_pos hempty]
    simp [Assembler.step, Assembler.retag, Assembler.take, Gathered.put, assembler]
  rw [if_neg hempty, if_neg hempty]
  by_cases hbare : (strmh.isIsight && lacksIsightTag payload.bytes payload.length) = true
  · -- no header at all
    rw [if_pos hbare, if_pos hbare, assembler_uvcTakeData strmh _ _ _ _ none]
    rfl
  rw [if_neg hbare, if_neg hbare]
  by_cases hbogus : payload.length < (payload.bytes 0).toNat
  · simp only [if_pos hbogus]
    simp [Assembler.step, Assembler.retag, Assembler.take, Gathered.put, assembler, current]
  simp only [if_neg hbogus]
  by_cases hshort : (payload.bytes 0).toNat < 2
  · simp only [if_pos hshort]
    rw [assembler_uvcTakeData strmh _ _ _ _ none]
    rfl
  · -- the header comes first, and its stamps with the data
    simp only [if_neg hshort]
    rw [assembler_uvcTakeData _ _ _ _ _ (some (payload.bytes 1 &&& uvcStreamFid)),
      assembler_uvcTakeHeader, ((settled_constants _ _).uvcTakeHeader ⟨rfl, rfl⟩ _ _).2]
    exact Assembler.take_note _ _ _ ⟨some (payload.bytes 1 &&& uvcStreamFid), _,
      stampsOf payload.bytes (payload.bytes 0).toNat, false, _⟩

end StreamHandle

/-! ### Any stream -/

/-- The frames are numbered from 0, modulo `2 ^ 32`. -/
def Numbered (strmh : StreamHandle) : Prop :=
  strmh.seq = UInt32.ofNat strmh.published.length ∧
    ∀ number frame, strmh.published[number]? = some frame → frame.seq = UInt32.ofNat number

theorem settled_numbered : Settled Numbered where
  swap := by
    rintro strmh ⟨hnext, hframes⟩
    refine ⟨?_, ?_⟩
    · simp [uvcSwapBuffers, hnext]
    · intro number frame hframe
      change (strmh.published ++ [_])[number]? = some frame at hframe
      rcases Nat.lt_trichotomy number strmh.published.length with hlt | rfl | hgt
      · exact hframes number frame (by rwa [List.getElem?_append_left hlt] at hframe)
      · rw [List.getElem?_concat_length] at hframe
        rw [← Option.some.inj hframe]
        exact hnext
      · rw [List.getElem?_eq_none (by simp; omega)] at hframe
        exact absurd hframe (by simp)
  change := fun _ _ _ _ _ _ _ h ↦ h

/-- A settled property is kept by every stream. -/
theorem Settled.uvcProcessPayloads {property : StreamHandle → Prop} (h : Settled property)
    {strmh : StreamHandle} (hstrmh : property strmh) (payloads : List Payload) :
    property (uvcProcessPayloads strmh payloads) := by
  induction payloads generalizing strmh with
  | nil => exact hstrmh
  | cons payload payloads ih => exact ih (h.uvcProcessPayload hstrmh _ _)

theorem assembler_uvcProcessPayloads (strmh : StreamHandle) (payloads : List Payload) :
    (uvcProcessPayloads strmh payloads).assembler =
      (payloads.map (pieceOf strmh.isIsight)).foldl (Assembler.step strmh.sizeBuf (0, 0))
        strmh.assembler := by
  induction payloads generalizing strmh with
  | nil => rfl
  | cons payload payloads ih =>
    have hconstants := (settled_constants strmh.isIsight strmh.sizeBuf).uvcProcessPayload
      ⟨rfl, rfl⟩ payload.bytes payload.length
    have hrest := ih (uvcProcessPayload strmh payload.bytes payload.length)
    rw [StreamHandle.assembler_uvcProcessPayload, hconstants.1, hconstants.2] at hrest
    exact hrest

/-- The frame with a number, as the receiver gathers it. -/
def heldFrame (number : ℕ) (record : Gathered UInt8 (UInt32 × UInt32)) : HeldFrame :=
  ⟨record.data, record.damaged, UInt32.ofNat number, record.note.1, record.note.2⟩

/-- Numbered frames are known by what was gathered of them. -/
theorem Numbered.published_eq {strmh : StreamHandle} (h : Numbered strmh) :
    strmh.published = (strmh.published.map HeldFrame.gathered).mapIdx heldFrame := by
  refine List.ext_getElem? fun number ↦ ?_
  rw [List.getElem?_mapIdx, List.getElem?_map]
  cases hframe : strmh.published[number]? with
  | none => rfl
  | some frame =>
    simp only [Option.map_some, heldFrame, HeldFrame.gathered, ← h.2 number frame hframe]

theorem numbered_started (isIsight : Bool) (outbuf holdbuf : Buffer) :
    Numbered (.started isIsight outbuf holdbuf) := by
  refine ⟨rfl, fun number frame hframe ↦ absurd hframe ?_⟩
  simp [StreamHandle.started]

end UvcRtmpStream.Camera
