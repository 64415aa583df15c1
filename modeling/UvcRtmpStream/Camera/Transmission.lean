import UvcRtmpStream.Camera.Reassembly

/-!
# A camera and the receiver of its bulk stream

The sending side of the format that `_uvc_process_payload` reads. A camera cuts each frame into
payloads as it likes, puts PTS and SCR into the headers it likes, may set EOF on the last payload,
and changes the frame ID from one frame to the next. `flushed_transmit` is the round trip: the
frames come out whole, in order and numbered from 0, with the stamps sent last. The last frame is
published with its EOF, and without one it is still open.
-/

set_option autoImplicit false
set_option relaxedAutoImplicit false

namespace UvcRtmpStream.Camera

open UvcRtmpStream.Foundations

/-! ### What the camera sends -/

/-- A payload of a frame. `padding` is what follows the stamps in the header, and `high` has the
flags the receiver of a bulk stream does nothing with. -/
structure SentPayload where
  pts : Option UInt32
  scr : Option UInt32
  padding : List UInt8
  high : UInt8
  data : List UInt8

/-- The flags the receiver reads. -/
def lowFlags (fid : UInt8) (eof hasPts hasScr : Bool) : UInt8 :=
  fid ||| (if eof then uvcStreamEof else 0) ||| (if hasPts then uvcStreamPts else 0) |||
    (if hasScr then uvcStreamScr else 0)

namespace SentPayload

/-- The stamps of a payload, in place of those noted so far. -/
def note (payload : SentPayload) (noted : UInt32 × UInt32) : UInt32 × UInt32 :=
  (payload.pts.getD noted.1, payload.scr.getD noted.2)

def headerBody (payload : SentPayload) : List UInt8 :=
  payload.pts.toList.flatMap LittleEndian.splitDw ++
    (payload.scr.toList.flatMap LittleEndian.splitDw ++ payload.padding)

def headerInfo (payload : SentPayload) (fid : UInt8) (eof : Bool) : UInt8 :=
  lowFlags fid eof payload.pts.isSome payload.scr.isSome ||| payload.high &&& 0xf0

/-- The bytes of a payload. -/
def encode (payload : SentPayload) (fid : UInt8) (eof : Bool) : List UInt8 :=
  UInt8.ofNat (2 + payload.headerBody.length) :: payload.headerInfo fid eof ::
    (payload.headerBody ++ payload.data)

/-- The transfer that the bytes of a payload arrive in. -/
def transfer (payload : SentPayload) (fid : UInt8) (eof : Bool) : Payload :=
  ⟨fun place ↦ ((payload.encode fid eof)[place]?).getD 0, (payload.encode fid eof).length⟩

/-- The length of the header fits in its byte. -/
def HeaderFits (payload : SentPayload) : Prop := 2 + payload.headerBody.length < 256

instance (payload : SentPayload) : Decidable payload.HeaderFits :=
  inferInstanceAs (Decidable (_ < _))

end SentPayload

/-- A frame as the camera cuts it, and whether it sets EOF on the last payload. -/
structure SentFrame where
  early : List SentPayload
  final : SentPayload
  eof : Bool

namespace SentFrame

def payloads (frame : SentFrame) : List SentPayload := frame.early ++ [frame.final]

def data (frame : SentFrame) : List UInt8 := frame.payloads.flatMap SentPayload.data

/-- The stamps sent last. -/
def note (frame : SentFrame) : UInt32 × UInt32 :=
  frame.payloads.foldl (fun noted payload ↦ payload.note noted) (0, 0)

def transfers (frame : SentFrame) (fid : UInt8) : List Payload :=
  frame.early.map (·.transfer fid false) ++ [frame.final.transfer fid frame.eof]

/-- A frame the receiver has room for. -/
structure Fits (frame : SentFrame) : Prop where
  headers : ∀ payload ∈ frame.payloads, payload.HeaderFits
  data_ne_nil : frame.data ≠ []
  room : frame.data.length < libuvcXferBufSize

end SentFrame

/-- The frame ID of the frame with a number: it changes from each frame to the next. -/
def fidOf (number : ℕ) : UInt8 := if number % 2 = 0 then 0 else 1

/-- The transfers of a camera, for frames numbered from `first`. -/
def transmit (first : ℕ) : List SentFrame → List Payload
  | [] => []
  | frame :: frames => frame.transfers (fidOf first) ++ transmit (first + 1) frames

/-! ### The bytes of a payload, read back -/

theorem or_and (first second flag : UInt8) :
    (first ||| second) &&& flag = first &&& flag ||| second &&& flag := by
  apply UInt8.toBitVec_inj.mp
  exact BitVec.and_or_distrib_right

theorem or_eq_zero_iff (first second : UInt8) :
    first ||| second = 0 ↔ first = 0 ∧ second = 0 := by
  simp only [← UInt8.toBitVec_inj]
  exact BitVec.or_eq_zero_iff

theorem hasFlag_or (first second flag : UInt8) :
    hasFlag (first ||| second) flag = (hasFlag first flag || hasFlag second flag) := by
  rw [Bool.eq_iff_iff]
  simp only [hasFlag, or_and, bne_iff_ne, ne_eq, or_eq_zero_iff, Bool.or_eq_true, not_and_or]

theorem high_and {flag : UInt8} (hflag : 0xf0 &&& flag = 0) (high : UInt8) :
    high &&& 0xf0 &&& flag = 0 := by
  rw [UInt8.and_assoc, hflag, UInt8.and_zero]

theorem hasFlag_high {flag : UInt8} (hflag : 0xf0 &&& flag = 0) (high : UInt8) :
    hasFlag (high &&& 0xf0) flag = false := by
  rw [hasFlag, high_and hflag]
  rfl

/-- A byte list as memory. -/
theorem readBytes_of_list (bytes : List UInt8) {start count : ℕ}
    (hbound : start + count ≤ bytes.length) :
    readBytes (fun place ↦ (bytes[place]?).getD 0) start count =
      (bytes.drop start).take count := by
  refine List.ext_getElem ?_ ?_
  · simp only [length_readBytes, List.length_take, List.length_drop]
    omega
  · intro place hplace _
    have hlt : start + place < bytes.length := by
      have hcount : place < count := by simpa using hplace
      omega
    simp [readBytes, List.getElem?_eq_getElem hlt]

theorem dwToInt_of_list {bytes rest : List UInt8} {start : ℕ} {value : UInt32}
    (hbytes : bytes.drop start = LittleEndian.splitDw value ++ rest) :
    dwToInt (fun place ↦ (bytes[place]?).getD 0) start = value := by
  have hbyte : ∀ place, bytes[start + place]? = (LittleEndian.splitDw value ++ rest)[place]? :=
    fun place ↦ by rw [← hbytes, List.getElem?_drop]
  have hfirst := hbyte 0
  rw [Nat.add_zero] at hfirst
  simp only [dwToInt, hfirst, hbyte]
  exact LittleEndian.joinDw_bytes value

namespace SentPayload

variable (payload : SentPayload) {fid : UInt8} (eof : Bool)

theorem headerInfo_flags (hfid : fid = 0 ∨ fid = 1) :
    hasFlag (payload.headerInfo fid eof) uvcStreamEof = eof ∧
      hasFlag (payload.headerInfo fid eof) uvcStreamPts = payload.pts.isSome ∧
        hasFlag (payload.headerInfo fid eof) uvcStreamScr = payload.scr.isSome ∧
          payload.headerInfo fid eof &&& uvcStreamFid = fid := by
  have hlow : ∀ fid : UInt8, fid = 0 ∨ fid = 1 → ∀ eof hasPts hasScr : Bool,
      hasFlag (lowFlags fid eof hasPts hasScr) uvcStreamEof = eof ∧
        hasFlag (lowFlags fid eof hasPts hasScr) uvcStreamPts = hasPts ∧
          hasFlag (lowFlags fid eof hasPts hasScr) uvcStreamScr = hasScr ∧
            lowFlags fid eof hasPts hasScr &&& uvcStreamFid = fid := by
    rintro fid (rfl | rfl) <;> decide
  obtain ⟨heof, hpts, hscr, htag⟩ := hlow fid hfid eof payload.pts.isSome payload.scr.isSome
  have hclear : ∀ {flag : UInt8}, 0xf0 &&& flag = 0 →
      hasFlag (payload.headerInfo fid eof) flag =
        hasFlag (lowFlags fid eof payload.pts.isSome payload.scr.isSome) flag := by
    intro flag hflag
    rw [headerInfo, hasFlag_or, hasFlag_high hflag, Bool.or_false]
  refine ⟨(hclear (by decide)).trans heof, (hclear (by decide)).trans hpts,
    (hclear (by decide)).trans hscr, ?_⟩
  rw [headerInfo, or_and, htag, high_and (by decide), UInt8.or_zero]

variable {payload}

theorem length_encode : (payload.encode fid eof).length =
    2 + payload.headerBody.length + payload.data.length := by
  simp [encode]
  omega

theorem drop_two_encode :
    (payload.encode fid eof).drop 2 = payload.headerBody ++ payload.data := rfl

theorem drop_encode {start : ℕ} : (payload.encode fid eof).drop (2 + start) =
    (payload.headerBody ++ payload.data).drop start := by
  rw [← List.drop_drop, drop_two_encode]

theorem transfer_first (hfits : payload.HeaderFits) :
    ((payload.transfer fid eof).bytes 0).toNat = 2 + payload.headerBody.length := by
  change (UInt8.ofNat (2 + payload.headerBody.length)).toNat = _
  rw [UInt8.toNat_ofNat']
  exact Nat.mod_eq_of_lt hfits

/-- The stamps are read from where the camera put them. -/
theorem stampsOf_transfer (hfid : fid = 0 ∨ fid = 1) :
    stampsOf (payload.transfer fid eof).bytes (2 + payload.headerBody.length) = payload.note := by
  funext noted
  have hinfo : (payload.transfer fid eof).bytes 1 = payload.headerInfo fid eof := rfl
  have hword : ∀ (start : ℕ) (value : UInt32) (rest : List UInt8),
      (payload.headerBody ++ payload.data).drop start = LittleEndian.splitDw value ++ rest →
        dwToInt (payload.transfer fid eof).bytes (2 + start) = value :=
    fun _ _ _ hbody ↦ dwToInt_of_list ((drop_encode eof).trans hbody)
  obtain ⟨-, hhasPts, hhasScr, -⟩ := headerInfo_flags payload eof hfid
  simp only [stampsOf, hinfo, hhasPts, hhasScr]
  cases hpts : payload.pts with
  | none =>
    cases hscr : payload.scr with
    | none => simp [note, hpts, hscr]
    | some scr =>
      have hlength : 6 ≤ 2 + payload.headerBody.length := by simp [headerBody, hpts, hscr]; omega
      have hread : dwToInt (payload.transfer fid eof).bytes 2 = scr :=
        hword 0 scr (payload.padding ++ payload.data) (by simp [headerBody, hpts, hscr])
      simp [note, hpts, hscr, hlength, hread]
  | some pts =>
    have hlength : 6 ≤ 2 + payload.headerBody.length := by simp [headerBody, hpts]; omega
    have hread : dwToInt (payload.transfer fid eof).bytes 2 = pts :=
      hword 0 pts
        (payload.scr.toList.flatMap LittleEndian.splitDw ++ payload.padding ++ payload.data)
        (by simp [headerBody, hpts])
    cases hscr : payload.scr with
    | none => simp [note, hpts, hscr, hlength, hread]
    | some scr =>
      have hsecond : dwToInt (payload.transfer fid eof).bytes 6 = scr :=
        hword 4 scr (payload.padding ++ payload.data)
          (by simp [headerBody, hpts, hscr, LittleEndian.splitDw])
      have hroom : 10 ≤ 2 + payload.headerBody.length := by simp [headerBody, hpts, hscr]; omega
      simp [note, hpts, hscr, hlength, hread, hsecond, hroom]

/-- A payload of a camera, as a piece of the stream. -/
theorem pieceOf_transfer (hfid : fid = 0 ∨ fid = 1) (hfits : payload.HeaderFits) :
    pieceOf false (payload.transfer fid eof) =
      ⟨some fid, payload.data, payload.note, false, eof && payload.data != []⟩ := by
  have hlength : (payload.transfer fid eof).length =
      2 + payload.headerBody.length + payload.data.length := length_encode eof
  have hinfo : (payload.transfer fid eof).bytes 1 = payload.headerInfo fid eof := rfl
  have hdata : readBytes (payload.transfer fid eof).bytes (2 + payload.headerBody.length)
      payload.data.length = payload.data := by
    have hbound : 2 + payload.headerBody.length + payload.data.length ≤
        (payload.encode fid eof).length := by rw [length_encode]
    have hread := readBytes_of_list (payload.encode fid eof) hbound
    rw [drop_encode, List.drop_left, List.take_length] at hread
    exact hread
  obtain ⟨heof, -, -, htag⟩ := headerInfo_flags payload eof hfid
  unfold pieceOf
  rw [transfer_first eof hfits, hlength, hinfo, htag, heof]
  dsimp only
  rw [if_neg (by omega), if_neg (by simp), if_neg (by omega), if_neg (by omega),
    stampsOf_transfer eof hfid]
  simp [hdata]

end SentPayload

/-! ### The round trip -/

theorem fidOf_eq (number : ℕ) : fidOf number = 0 ∨ fidOf number = 1 := by
  unfold fidOf
  split
  · exact Or.inl rfl
  · exact Or.inr rfl

theorem fidOf_succ_ne (number : ℕ) : fidOf (number + 1) ≠ fidOf number := by
  unfold fidOf
  rcases Nat.mod_two_eq_zero_or_one number with h | h
  · rw [if_pos h, if_neg (by omega)]
    decide
  · rw [if_neg (by omega : ¬ number % 2 = 0), if_pos (by omega)]
    decide

/-- A payload as the receiver gets it. -/
def SentPayload.piece (payload : SentPayload) (fid : UInt8) (eof : Bool) :
    Piece UInt8 UInt8 (UInt32 × UInt32) :=
  ⟨some fid, payload.data, payload.note, false, eof && payload.data != []⟩

namespace SentFrame

/-- A frame as the receiver gets it. -/
def sent (frame : SentFrame) (fid : UInt8) : Sent UInt8 UInt8 (UInt32 × UInt32) :=
  ⟨fid, frame.early.map (·.piece fid false), frame.final.piece fid frame.eof⟩

theorem pieces_sent (frame : SentFrame) (fid : UInt8) : (frame.sent fid).pieces =
    frame.early.map (·.piece fid false) ++ [frame.final.piece fid frame.eof] := rfl

theorem data_sent (frame : SentFrame) (fid : UInt8) : (frame.sent fid).data = frame.data := by
  simp [Sent.data, pieces_sent, data, payloads, List.flatMap_map, SentPayload.piece]

theorem note_sent (frame : SentFrame) (fid : UInt8) :
    (frame.sent fid).note (0, 0) = frame.note := by
  simp [Sent.note, pieces_sent, note, payloads, List.foldl_map, SentPayload.piece]

theorem mem_pieces_sent {frame : SentFrame} {fid : UInt8} {piece : Piece UInt8 UInt8 _}
    (hpiece : piece ∈ (frame.sent fid).pieces) : piece.tag = some fid ∧ piece.damaged = false := by
  rw [pieces_sent, List.mem_append, List.mem_map, List.mem_singleton] at hpiece
  rcases hpiece with ⟨payload, -, rfl⟩ | rfl <;> exact ⟨rfl, rfl⟩

theorem Fits.proper {frame : SentFrame} (h : frame.Fits) (fid : UInt8) :
    (frame.sent fid).Proper libuvcXferBufSize where
  first := by
    have hne : (frame.sent fid).pieces ≠ [] := by simp [pieces_sent]
    refine ⟨_, List.head?_eq_some_head hne, ?_⟩
    exact (mem_pieces_sent (List.head_mem hne)).1
  tagged := by
    intro piece hpiece other hother
    exact Option.mem_unique hother (mem_pieces_sent hpiece).1
  sound := fun piece hpiece ↦ (mem_pieces_sent hpiece).2
  unmarked := by
    intro piece hpiece
    obtain ⟨payload, -, rfl⟩ := List.mem_map.mp hpiece
    rfl
  data_ne_nil := by
    rw [data_sent]
    exact h.data_ne_nil
  fits := by
    rw [data_sent]
    exact h.room

theorem Fits.map_transfers {frame : SentFrame} (h : frame.Fits) {fid : UInt8}
    (hfid : fid = 0 ∨ fid = 1) :
    (frame.transfers fid).map (pieceOf false) = (frame.sent fid).pieces := by
  have hearly : ∀ payload ∈ frame.early,
      (pieceOf false ∘ fun payload ↦ payload.transfer fid false) payload =
        payload.piece fid false := fun payload hpayload ↦
    SentPayload.pieceOf_transfer false hfid (h.headers payload (List.mem_append_left _ hpayload))
  have hfinal := SentPayload.pieceOf_transfer frame.eof hfid
    (h.headers frame.final (List.mem_append_right _ (List.mem_singleton.mpr rfl)))
  rw [transfers, List.map_append, List.map_map, List.map_congr_left hearly, List.map_singleton,
    hfinal, pieces_sent]
  rfl

/-- The frame as it is published. -/
def received (number : ℕ) (frame : SentFrame) : HeldFrame :=
  ⟨frame.data, false, UInt32.ofNat number, frame.note.1, frame.note.2⟩

end SentFrame

/-- The frames of a camera as the receiver gets them. -/
def sentFrom (first : ℕ) : List SentFrame → List (Sent UInt8 UInt8 (UInt32 × UInt32))
  | [] => []
  | frame :: frames => frame.sent (fidOf first) :: sentFrom (first + 1) frames

theorem map_transmit {frames : List SentFrame} (hfits : ∀ frame ∈ frames, frame.Fits) (first : ℕ) :
    (transmit first frames).map (pieceOf false) = (sentFrom first frames).flatMap Sent.pieces := by
  induction frames generalizing first with
  | nil => rfl
  | cons frame frames ih =>
    rw [transmit, sentFrom, List.map_append, List.flatMap_cons,
      (hfits frame List.mem_cons_self).map_transfers (fidOf_eq first),
      ih (fun other hother ↦ hfits other (List.mem_cons_of_mem _ hother))]

theorem proper_sentFrom {frames : List SentFrame} (hfits : ∀ frame ∈ frames, frame.Fits)
    (first : ℕ) : ∀ s ∈ sentFrom first frames, s.Proper libuvcXferBufSize := by
  induction frames generalizing first with
  | nil => exact fun s hs ↦ absurd hs List.not_mem_nil
  | cons frame frames ih =>
    intro s hs
    rcases List.mem_cons.mp hs with rfl | hrest
    · exact (hfits frame List.mem_cons_self).proper _
    · exact ih (fun other hother ↦ hfits other (List.mem_cons_of_mem _ hother)) _ s hrest

/-- The frame ID separates the frames, with or without EOF. -/
theorem isChain_sentFrom (frames : List SentFrame) (first : ℕ) :
    (sentFrom first frames).IsChain Sent.Separate := by
  induction frames generalizing first with
  | nil => exact .nil
  | cons frame frames ih =>
    cases frames with
    | nil => exact .singleton _
    | cons next frames =>
      exact List.isChain_cons_cons.mpr ⟨Or.inr (fidOf_succ_ne first), ih (first + 1)⟩

/-- The frames published, and the one that is still open, if it has data. -/
def StreamHandle.flushed (strmh : StreamHandle) : List HeldFrame :=
  if strmh.gotBytes = 0 then strmh.published
  else strmh.published ++ [heldFrame strmh.published.length strmh.current]

theorem gathered_sentFrom (frames : List SentFrame) (first : ℕ) :
    ((sentFrom first frames).map fun s ↦ (⟨s.data, s.note (0, 0), false⟩ : Gathered UInt8 _)) =
      frames.map fun frame ↦ ⟨frame.data, frame.note, false⟩ := by
  induction frames generalizing first with
  | nil => rfl
  | cons frame frames ih =>
    rw [sentFrom, List.map_cons, List.map_cons, ih, SentFrame.data_sent, SentFrame.note_sent]

/-- The frames of a numbered handle, the open one included, are known by what was gathered. -/
theorem Numbered.flushed_eq {strmh : StreamHandle} (h : Numbered strmh) :
    strmh.flushed = strmh.assembler.flushed.mapIdx heldFrame := by
  have hdata : strmh.assembler.current.data = [] ↔ strmh.gotBytes = 0 :=
    StreamHandle.current_data_eq_nil_iff
  have hpublished : strmh.assembler.records.mapIdx heldFrame = strmh.published :=
    h.published_eq.symm
  unfold StreamHandle.flushed Assembler.flushed
  by_cases hempty : strmh.gotBytes = 0
  · rw [if_pos hempty, if_pos (hdata.mpr hempty), hpublished]
  · rw [if_neg hempty, if_neg (fun hnil ↦ hempty (hdata.mp hnil)), List.mapIdx_concat, hpublished]
    simp [StreamHandle.assembler]

/-- The round trip. With either frame ID first, however a camera cuts its frames into payloads,
whichever payloads have stamps, and whether or not the frames end with EOF: the frames published,
with the one still open, are the frames sent. -/
theorem flushed_transmit (outbuf holdbuf : Buffer) (first : ℕ) {frames : List SentFrame}
    (hfits : ∀ frame ∈ frames, frame.Fits) :
    (uvcProcessPayloads (.started false outbuf holdbuf) (transmit first frames)).flushed =
      frames.mapIdx SentFrame.received := by
  have hnumbered := settled_numbered.uvcProcessPayloads
    (numbered_started false outbuf holdbuf) (transmit first frames)
  have hready : ∀ s ∈ (sentFrom first frames).head?,
      (StreamHandle.started false outbuf holdbuf).assembler.Ready (0, 0) s.tag :=
    fun _ _ ↦ Or.inl rfl
  have hround := Assembler.flushed_run (proper_sentFrom hfits first)
    (isChain_sentFrom frames first) hready
  rw [hnumbered.flushed_eq, assembler_uvcProcessPayloads,
    show (StreamHandle.started false outbuf holdbuf).isIsight = false from rfl,
    map_transmit hfits]
  rw [show (StreamHandle.started false outbuf holdbuf).sizeBuf = libuvcXferBufSize from rfl, hround,
    gathered_sentFrom]
  refine List.ext_getElem? fun number ↦ ?_
  simp only [StreamHandle.started, StreamHandle.assembler, Assembler.flushed, List.map_nil,
    StreamHandle.current, readBytes_zero, if_true, List.nil_append, List.getElem?_mapIdx,
    List.getElem?_map, Option.map_map]
  rfl

/-- Two frames, one of them in two payloads, with EOF, and the other without. The frame ID that
comes first is not the one the handle starts with. -/
theorem flushed_transmit_two :
    (uvcProcessPayloads (.started false (fun _ ↦ 0) (fun _ ↦ 0)) (transmit 1
      [⟨[⟨some 7, none, [], 0x80, [1, 2]⟩], ⟨none, some 9, [3], 0, [4]⟩, true⟩,
        ⟨[], ⟨none, none, [], 0, [5]⟩, false⟩])).flushed =
      [⟨[1, 2, 4], false, 0, 7, 9⟩, ⟨[5], false, 1, 0, 0⟩] := by
  refine flushed_transmit _ _ _ fun frame hframe ↦ ?_
  rcases List.mem_cons.mp hframe with rfl | hsecond
  · exact ⟨by decide, by decide, by decide⟩
  · obtain rfl := List.mem_singleton.mp hsecond
    exact ⟨by decide, by decide, by decide⟩

end UvcRtmpStream.Camera
