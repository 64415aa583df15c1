import UvcRtmpStream.Camera.Descriptors

/-!
# The control block of a stream

Mode, rate and sizes of a stream are agreed on through one block of bytes, `uvc_stream_ctrl_t`: 26
of them for a camera of the first versions of the class, 34 from version 1.1 on and 48 from version
1.5 on. `uvc_query_stream_ctrl` writes the block for a `SET_CUR` request and reads it for the
others.

The last field, of eight bytes, is read by a macro that puts its lower four bytes together as an
`int`. Where bit 31 is set, the widening to 64 bits sets all bits above. `decodeCtrl_encodeCtrl_iff`
says which blocks are read back as they were written.
-/

set_option autoImplicit false
set_option relaxedAutoImplicit false

namespace UvcRtmpStream.Camera

open UvcRtmpStream.Foundations LittleEndian

/-- `uvc_stream_ctrl_t`. -/
structure StreamCtrl where
  bmHint : UInt16
  bFormatIndex : UInt8
  bFrameIndex : UInt8
  dwFrameInterval : UInt32
  wKeyFrameRate : UInt16
  wPFrameRate : UInt16
  wCompQuality : UInt16
  wCompWindowSize : UInt16
  wDelay : UInt16
  dwMaxVideoFrameSize : UInt32
  dwMaxPayloadTransferSize : UInt32
  dwClockFrequency : UInt32
  bmFramingInfo : UInt8
  bPreferedVersion : UInt8
  bMinVersion : UInt8
  bMaxVersion : UInt8
  bUsage : UInt8
  bBitDepthLuma : UInt8
  bmSettings : UInt8
  bMaxNumberOfRefFramesPlus1 : UInt8
  bmRateControlModes : UInt16
  bmLayoutPerStream : UInt64
  bInterfaceNumber : UInt8
  deriving DecidableEq

/-- `memset(ctrl, 0, sizeof(*ctrl))`. -/
def StreamCtrl.zero : StreamCtrl where
  bmHint := 0
  bFormatIndex := 0
  bFrameIndex := 0
  dwFrameInterval := 0
  wKeyFrameRate := 0
  wPFrameRate := 0
  wCompQuality := 0
  wCompWindowSize := 0
  wDelay := 0
  dwMaxVideoFrameSize := 0
  dwMaxPayloadTransferSize := 0
  dwClockFrequency := 0
  bmFramingInfo := 0
  bPreferedVersion := 0
  bMinVersion := 0
  bMaxVersion := 0
  bUsage := 0
  bBitDepthLuma := 0
  bmSettings := 0
  bMaxNumberOfRefFramesPlus1 := 0
  bmRateControlModes := 0
  bmLayoutPerStream := 0
  bInterfaceNumber := 0

/-- The length of the block, by the version of the class. -/
def blockLength (bcdUVC : UInt16) : ℕ :=
  if 0x0150 ≤ bcdUVC then 48 else if 0x0110 ≤ bcdUVC then 34 else 26

theorem blockLength_pos (bcdUVC : UInt16) : 0 < blockLength bcdUVC := by
  rw [blockLength]
  split_ifs <;> decide

theorem blockLength_le (bcdUVC : UInt16) : blockLength bcdUVC ≤ 48 := by
  rw [blockLength]
  split_ifs <;> decide

/-- `LONG_TO_QW`. -/
def longToQw (value : UInt64) : List UInt8 :=
  [value.toUInt8, (value >>> 8).toUInt8, (value >>> 16).toUInt8, (value >>> 24).toUInt8,
    (value >>> 32).toUInt8, (value >>> 40).toUInt8, (value >>> 48).toUInt8, (value >>> 56).toUInt8]

/-- An `int` as a `uint64_t`. -/
def widen (value : UInt32) : UInt64 :=
  if value < 0x80000000 then value.toUInt64 else value.toUInt64 ||| 0xffffffff00000000

/-- `QW_TO_LONG`. The first four bytes make an `int`, which is widened for the others. -/
def qwToLong (byteAt : ℕ → UInt8) (offset : ℕ) : UInt64 :=
  widen (dwAt byteAt offset) ||| (byteAt (offset + 4)).toUInt64 <<< 32 |||
    (byteAt (offset + 5)).toUInt64 <<< 40 ||| (byteAt (offset + 6)).toUInt64 <<< 48 |||
    (byteAt (offset + 7)).toUInt64 <<< 56

/-- The part of `uvc_query_stream_ctrl` that prepares a `SET_CUR` transfer: the buffer that it
sends. -/
def encodeCtrl (bcdUVC : UInt16) (ctrl : StreamCtrl) : List UInt8 :=
  splitSw ctrl.bmHint ++ [ctrl.bFormatIndex, ctrl.bFrameIndex] ++ splitDw ctrl.dwFrameInterval ++
    splitSw ctrl.wKeyFrameRate ++ splitSw ctrl.wPFrameRate ++ splitSw ctrl.wCompQuality ++
    splitSw ctrl.wCompWindowSize ++ splitSw ctrl.wDelay ++ splitDw ctrl.dwMaxVideoFrameSize ++
    splitDw ctrl.dwMaxPayloadTransferSize ++
    if 26 < blockLength bcdUVC then
      splitDw ctrl.dwClockFrequency ++
        [ctrl.bmFramingInfo, ctrl.bPreferedVersion, ctrl.bMinVersion, ctrl.bMaxVersion] ++
        if blockLength bcdUVC = 48 then
          [ctrl.bUsage, ctrl.bBitDepthLuma, ctrl.bmSettings, ctrl.bMaxNumberOfRefFramesPlus1] ++
            splitSw ctrl.bmRateControlModes ++ longToQw ctrl.bmLayoutPerStream
        else []
    else []

/-- The part of `uvc_query_stream_ctrl` that decodes what a `GET` transfer brought. The fields that
the version does not have are left as they are. -/
def decodeCtrl (bcdUVC : UInt16) (ctrl : StreamCtrl) (buf : List UInt8) : StreamCtrl :=
  let byteAt : ℕ → UInt8 := fun offset ↦ buf.getD offset 0
  let first : StreamCtrl := { ctrl with
    bmHint := swAt byteAt 0
    bFormatIndex := byteAt 2
    bFrameIndex := byteAt 3
    dwFrameInterval := dwAt byteAt 4
    wKeyFrameRate := swAt byteAt 8
    wPFrameRate := swAt byteAt 10
    wCompQuality := swAt byteAt 12
    wCompWindowSize := swAt byteAt 14
    wDelay := swAt byteAt 16
    dwMaxVideoFrameSize := dwAt byteAt 18
    dwMaxPayloadTransferSize := dwAt byteAt 22 }
  if 26 < blockLength bcdUVC then
    let second : StreamCtrl := { first with
      dwClockFrequency := dwAt byteAt 26
      bmFramingInfo := byteAt 30
      bPreferedVersion := byteAt 31
      bMinVersion := byteAt 32
      bMaxVersion := byteAt 33 }
    if 48 ≤ blockLength bcdUVC then
      { second with
        bUsage := byteAt 34
        bBitDepthLuma := byteAt 35
        bmSettings := byteAt 36
        bMaxNumberOfRefFramesPlus1 := byteAt 37
        bmRateControlModes := swAt byteAt 38
        bmLayoutPerStream := qwToLong byteAt 40 }
    else second
  else first

/-! ### What is read back -/

/-- The fields of a block that a version has, over what was there before. -/
def StreamCtrl.over (ctrl : StreamCtrl) (bcdUVC : UInt16) (prior : StreamCtrl) : StreamCtrl :=
  if 48 ≤ blockLength bcdUVC then { ctrl with bInterfaceNumber := prior.bInterfaceNumber }
  else
    let second : StreamCtrl := { ctrl with
      bUsage := prior.bUsage
      bBitDepthLuma := prior.bBitDepthLuma
      bmSettings := prior.bmSettings
      bMaxNumberOfRefFramesPlus1 := prior.bMaxNumberOfRefFramesPlus1
      bmRateControlModes := prior.bmRateControlModes
      bmLayoutPerStream := prior.bmLayoutPerStream
      bInterfaceNumber := prior.bInterfaceNumber }
    if 26 < blockLength bcdUVC then second
    else { second with
      dwClockFrequency := prior.dwClockFrequency
      bmFramingInfo := prior.bmFramingInfo
      bPreferedVersion := prior.bPreferedVersion
      bMinVersion := prior.bMinVersion
      bMaxVersion := prior.bMaxVersion }

/-- The fields of the mode and of its size are in every version. -/
theorem over_fields (bcdUVC : UInt16) (ctrl prior : StreamCtrl) :
    (ctrl.over bcdUVC prior).dwMaxVideoFrameSize = ctrl.dwMaxVideoFrameSize ∧
      (ctrl.over bcdUVC prior).bFormatIndex = ctrl.bFormatIndex ∧
      (ctrl.over bcdUVC prior).bFrameIndex = ctrl.bFrameIndex := by
  rw [StreamCtrl.over]
  split_ifs <;> exact ⟨rfl, rfl, rfl⟩

/-- Bit 31 is clear, or all the bits above it are set. -/
def ReadsBack (value : UInt64) : Prop :=
  value.toUInt32 < 0x80000000 ∨ value >>> 32 = 0xffffffff

instance (value : UInt64) : Decidable (ReadsBack value) := inferInstanceAs (Decidable (_ ∨ _))

/-- The lower four bytes make the lower half. -/
theorem joinDw_low (value : UInt64) :
    joinDw value.toUInt8 (value >>> 8).toUInt8 (value >>> 16).toUInt8 (value >>> 24).toUInt8 =
      value.toUInt32 := by
  have hbyte : ∀ shift : ℕ, shift ≤ 24 →
      (value.toNat % 2 ^ 32) >>> shift % 2 ^ 8 = value.toNat >>> shift % 2 ^ 8 := by
    intro shift hshift
    apply Nat.eq_of_testBit_eq
    intro place
    simp only [Nat.testBit_mod_two_pow, Nat.testBit_shiftRight]
    by_cases hplace : place < 8
    · have hlow : shift + place < 32 := by omega
      simp [hplace, hlow]
    · simp [hplace]
  have hwords := joinDw_bytes value.toUInt32
  have hfirst : value.toUInt32.toUInt8 = value.toUInt8 := by
    apply UInt8.toNat_inj.mp
    simp
  have hsecond : (value.toUInt32 >>> 8).toUInt8 = (value >>> 8).toUInt8 := by
    apply UInt8.toNat_inj.mp
    have height := hbyte 8 (by omega)
    simpa using height
  have hthird : (value.toUInt32 >>> 16).toUInt8 = (value >>> 16).toUInt8 := by
    apply UInt8.toNat_inj.mp
    have hsixteen := hbyte 16 (by omega)
    simpa using hsixteen
  have hfourth : (value.toUInt32 >>> 24).toUInt8 = (value >>> 24).toUInt8 := by
    apply UInt8.toNat_inj.mp
    have htwentyfour := hbyte 24 (by omega)
    simpa using htwentyfour
  rwa [hfirst, hsecond, hthird, hfourth] at hwords

theorem testBit_widen (value : UInt32) (place : ℕ) :
    (widen value).toNat.testBit place =
      (value.toNat.testBit place || decide (2 ^ 31 ≤ value.toNat ∧ 32 ≤ place ∧ place < 64)) := by
  have hmask : (0xffffffff00000000 : UInt64).toNat = (2 ^ 32 - 1) <<< 32 := rfl
  have hsmall : value < 0x80000000 ↔ value.toNat < 2 ^ 31 := UInt32.lt_iff_toNat_lt
  rw [widen]
  split_ifs with hsign
  · rw [hsmall] at hsign
    have hclear : ¬ (2 ^ 31 ≤ value.toNat ∧ 32 ≤ place ∧ place < 64) := by omega
    rw [decide_eq_false hclear, Bool.or_false]
    rfl
  · rw [hsmall] at hsign
    rw [UInt64.toNat_or, Nat.testBit_or, hmask, UInt32.toNat_toUInt64, Nat.testBit_shiftLeft,
      Nat.testBit_two_pow_sub_one]
    congr 1
    have hset : 2 ^ 31 ≤ value.toNat := Nat.not_lt.mp hsign
    rw [← Bool.decide_and]
    exact decide_eq_decide.mpr ⟨fun h ↦ ⟨hset, h.1, by omega⟩, fun h ↦ ⟨h.2.1, by omega⟩⟩

/-- The bits of a word that was written and read. -/
theorem testBit_qwToLong (value : UInt64) (place : ℕ) :
    (qwToLong (fun offset ↦ (longToQw value).getD offset 0) 0).toNat.testBit place =
      (value.toNat.testBit place ||
        decide (2 ^ 31 ≤ value.toUInt32.toNat ∧ 32 ≤ place ∧ place < 64)) := by
  have hlow : dwAt (fun offset ↦ (longToQw value).getD offset 0) 0 = value.toUInt32 :=
    joinDw_low value
  have hbytes : qwToLong (fun offset ↦ (longToQw value).getD offset 0) 0 =
      widen value.toUInt32 ||| (value >>> 32).toUInt8.toUInt64 <<< 32 |||
        (value >>> 40).toUInt8.toUInt64 <<< 40 ||| (value >>> 48).toUInt8.toUInt64 <<< 48 |||
          (value >>> 56).toUInt8.toUInt64 <<< 56 := by
    rw [qwToLong, hlow]
    rfl
  have hshift : (32 : UInt64).toNat = 32 ∧ (40 : UInt64).toNat = 40 ∧ (48 : UInt64).toNat = 48 ∧
      (56 : UInt64).toNat = 56 := ⟨rfl, rfl, rfl, rfl⟩
  have htop : 64 ≤ place → value.toNat.testBit place = false := fun hplace ↦
    Nat.testBit_lt_two_pow (lt_of_lt_of_le value.toNat_lt (Nat.pow_le_pow_right (by decide) hplace))
  rw [hbytes]
  simp only [UInt64.toNat_or, UInt64.toNat_shiftLeft, UInt8.toNat_toUInt64, UInt64.toNat_toUInt8,
    UInt64.toNat_shiftRight, hshift.1, hshift.2.1, hshift.2.2.1, hshift.2.2.2, Nat.testBit_or,
    testBit_widen, UInt64.toNat_toUInt32, Nat.testBit_mod_two_pow, Nat.testBit_shiftLeft,
    Nat.testBit_shiftRight]
  -- each bit comes from the byte it is in, and those of the upper half from the sign too
  have hbyte : place < 32 ∨ (32 ≤ place ∧ place < 40) ∨ (40 ≤ place ∧ place < 48) ∨
      (48 ≤ place ∧ place < 56) ∨ (56 ≤ place ∧ place < 64) ∨ 64 ≤ place := by omega
  rcases hbyte with h | h | h | h | h | h <;> grind

/-- The upper half has all bits set. -/
theorem shiftRight_eq_iff (value : UInt64) :
    value >>> 32 = 0xffffffff ↔ ∀ place, 32 ≤ place → place < 64 →
      value.toNat.testBit place = true := by
  have hshift : (value >>> 32).toNat = value.toNat >>> 32 := rfl
  have hones : (0xffffffff : UInt64).toNat = 2 ^ 32 - 1 := rfl
  rw [← UInt64.toNat_inj, hshift, hones]
  constructor
  · intro h place hleast hmost
    have hbit := congrArg (Nat.testBit · (place - 32)) h
    simp only [Nat.testBit_shiftRight, Nat.testBit_two_pow_sub_one] at hbit
    rw [Nat.add_sub_cancel' hleast] at hbit
    rw [hbit]
    exact decide_eq_true (by omega)
  · intro h
    apply Nat.eq_of_testBit_eq
    intro place
    rw [Nat.testBit_shiftRight, Nat.testBit_two_pow_sub_one]
    by_cases hplace : place < 32
    · rw [h (32 + place) (by omega) (by omega), decide_eq_true hplace]
    · rw [decide_eq_false hplace]
      exact Nat.testBit_lt_two_pow
        (lt_of_lt_of_le value.toNat_lt (Nat.pow_le_pow_right (by decide) (by omega)))

theorem qwToLong_longToQw_iff (value : UInt64) :
    qwToLong (fun offset ↦ (longToQw value).getD offset 0) 0 = value ↔ ReadsBack value := by
  have hsmall : value.toUInt32 < 0x80000000 ↔ value.toUInt32.toNat < 2 ^ 31 :=
    UInt32.lt_iff_toNat_lt
  rw [ReadsBack, hsmall, shiftRight_eq_iff]
  constructor
  · intro h
    by_cases hsign : value.toUInt32.toNat < 2 ^ 31
    · exact Or.inl hsign
    · refine Or.inr fun place hleast hmost ↦ ?_
      have hbit := testBit_qwToLong value place
      rw [h, decide_eq_true ⟨Nat.not_lt.mp hsign, hleast, hmost⟩, Bool.or_true] at hbit
      exact hbit
  · intro h
    apply UInt64.toNat_inj.mp
    apply Nat.eq_of_testBit_eq
    intro place
    rw [testBit_qwToLong]
    by_cases hset : 2 ^ 31 ≤ value.toUInt32.toNat ∧ 32 ≤ place ∧ place < 64
    · have hupper := h.resolve_left (Nat.not_lt.mpr hset.1)
      rw [decide_eq_true hset, Bool.or_true, hupper place hset.2.1 hset.2.2]
    · rw [decide_eq_false hset, Bool.or_false]

/-- The size is read back in every version. -/
theorem dwMaxVideoFrameSize_readBack (bcdUVC : UInt16) (prior ctrl : StreamCtrl) :
    (decodeCtrl bcdUVC prior (encodeCtrl bcdUVC ctrl)).dwMaxVideoFrameSize =
      ctrl.dwMaxVideoFrameSize := by
  rw [decodeCtrl]
  split_ifs <;>
    simp only [encodeCtrl, dwAt, splitSw, splitDw, List.cons_append, List.nil_append,
      Nat.reduceAdd, List.getD_cons_zero, List.getD_cons_succ, joinDw_bytes]

/-- A block that was written is read back, in the fields that the version has, exactly where its
last field is one that `QW_TO_LONG` reads back. -/
theorem decodeCtrl_encodeCtrl_iff (bcdUVC : UInt16) (prior ctrl : StreamCtrl) :
    decodeCtrl bcdUVC prior (encodeCtrl bcdUVC ctrl) = ctrl.over bcdUVC prior ↔
      (0x0150 ≤ bcdUVC → ReadsBack ctrl.bmLayoutPerStream) := by
  by_cases hlast : 0x0150 ≤ bcdUVC
  · have hlength : blockLength bcdUVC = 48 := if_pos hlast
    rw [forall_prop_of_true hlast, ← qwToLong_longToQw_iff]
    simp only [decodeCtrl, encodeCtrl, StreamCtrl.over, hlength, Nat.reduceLT, Nat.reduceLeDiff,
      if_true]
    simp only [swAt, dwAt, splitSw, splitDw, qwToLong, longToQw, List.cons_append,
      List.nil_append, Nat.reduceAdd, List.getD_cons_zero, List.getD_cons_succ, joinSw_bytes,
      joinDw_bytes]
    simp only [StreamCtrl.mk.injEq, true_and, and_true]
  · refine iff_of_true ?_ fun h ↦ absurd h hlast
    by_cases hsecond : 0x0110 ≤ bcdUVC
    · have hlength : blockLength bcdUVC = 34 := by rw [blockLength, if_neg hlast, if_pos hsecond]
      simp only [decodeCtrl, encodeCtrl, StreamCtrl.over, hlength, Nat.reduceLT, Nat.reduceLeDiff,
        Nat.reduceEqDiff, if_true, if_false]
      simp only [swAt, dwAt, splitSw, splitDw, List.cons_append, List.nil_append, Nat.reduceAdd,
        List.getD_cons_zero, List.getD_cons_succ, joinSw_bytes, joinDw_bytes]
    · have hlength : blockLength bcdUVC = 26 := by rw [blockLength, if_neg hlast, if_neg hsecond]
      simp only [decodeCtrl, encodeCtrl, StreamCtrl.over, hlength, Nat.reduceLeDiff, lt_irrefl,
        if_false]
      simp only [swAt, dwAt, splitSw, splitDw, List.cons_append, List.nil_append, Nat.reduceAdd,
        List.getD_cons_zero, List.getD_cons_succ, joinSw_bytes, joinDw_bytes]

end UvcRtmpStream.Camera
