import UvcRtmpStream.Foundations.BigEndian
import UvcRtmpStream.Foundations.Framing
import UvcRtmpStream.Platform.Media

/-!
# The record format of a segment file

`ReplayBuffer` appends one record for each frame, `[long ptsUs][int flags][int size][byte[] data]`,
through a `DataOutputStream`, and reads the records back through a `DataInputStream`. This module
models the two streams' primitives (big-endian `writeLong`, `writeInt`, `readLong`, `readInt`, and
`read` into an array) and the body of the reading loop, with each of its exits, and shows that they
form a `Framing` (`segmentFraming`): what `encodeRecord` wrote is read back by `readRecord`, and
what `readRecord` reads is what `encodeRecord` would have written.
-/

set_option autoImplicit false
set_option relaxedAutoImplicit false

namespace UvcRtmpStream.Replay

open UvcRtmpStream.Foundations UvcRtmpStream.Platform

/-- One frame as a segment file stores it. The data is a Java array, so its length is an `int`. -/
structure SegmentRecord where
  ptsUs : Int64
  flags : Int32
  data : List UInt8
  length_data_lt : data.length < 2 ^ 31
  deriving DecidableEq

/-- The `size` field of a record. -/
def SegmentRecord.size (record : SegmentRecord) : Int32 := Int32.ofNat record.data.length

/-- The sample that the reading loop passes to the muxer for a record: a fresh `BufferInfo` with
offset zero, and the data wrapped. -/
def SegmentRecord.toSample (record : SegmentRecord) : Sample where
  info := ⟨0, record.size, record.ptsUs, record.flags⟩
  data := record.data

/-! ### Stream primitives -/

/-- `DataOutputStream.writeLong`. -/
def writeLong (value : Int64) : List UInt8 := BigEndian.toBytes 8 value.toUInt64.toNat

/-- `DataOutputStream.writeInt`. -/
def writeInt (value : Int32) : List UInt8 := BigEndian.toBytes 4 value.toUInt32.toNat

/-- `DataInputStream.readLong`, `none` standing for its `EOFException`. -/
def readLong (input : List UInt8) : Option (Int64 × List UInt8) :=
  if input.length < 8 then none
  else some ((UInt64.ofNat (BigEndian.ofBytes (input.take 8))).toInt64, input.drop 8)

/-- `DataInputStream.readInt`, `none` standing for its `EOFException`. -/
def readInt (input : List UInt8) : Option (Int32 × List UInt8) :=
  if input.length < 4 then none
  else some ((UInt32.ofNat (BigEndian.ofBytes (input.take 4))).toInt32, input.drop 4)

/-- `InputStream.read(byte[])` on a regular file: the number of bytes read, which is short only at
the end of the file, and `-1` when there was none to read. -/
def readArray (length : ℕ) (input : List UInt8) : ℤ :=
  if length = 0 then 0 else if input = [] then -1 else min length input.length

/-- Why the body of the reading loop delivered no frame. -/
inductive ReadFailure
  /-- `readLong` or `readInt` threw an `EOFException`, which is an `IOException`. -/
  | endOfFile
  /-- `new byte[size]` threw a `NegativeArraySizeException`. -/
  | negativeArraySize
  /-- Fewer than `size` bytes were left: the loop breaks. -/
  | sizeMismatch
  deriving DecidableEq, Repr

/-- `writeFrame`'s four writes. -/
def encodeRecord (record : SegmentRecord) : List UInt8 :=
  writeLong record.ptsUs ++ writeInt record.flags ++ writeInt record.size ++ record.data

/-- The part of the reading loop before `writeSampleData`: the next record and the rest of the
input. -/
def readRecord (input : List UInt8) : Except ReadFailure (SegmentRecord × List UInt8) :=
  match readLong input with
  | none => .error .endOfFile
  | some (ptsUs, input) =>
    match readInt input with
    | none => .error .endOfFile
    | some (flags, input) =>
      match readInt input with
      | none => .error .endOfFile
      | some (size, input) =>
        if size.toInt < 0 then .error .negativeArraySize
        else if readArray size.toInt.toNat input ≠ size.toInt then .error .sizeMismatch
        else
          .ok (⟨ptsUs, flags, input.take size.toInt.toNat, by
            have hsize := size.toInt_lt
            rw [List.length_take]
            omega⟩, input.drop size.toInt.toNat)

/-! ### Reading what was written -/

@[simp] theorem length_writeLong (value : Int64) : (writeLong value).length = 8 := by
  simp [writeLong]

@[simp] theorem length_writeInt (value : Int32) : (writeInt value).length = 4 := by
  simp [writeInt]

theorem readLong_writeLong (value : Int64) (rest : List UInt8) :
    readLong (writeLong value ++ rest) = some (value, rest) := by
  have hlength : ¬ (writeLong value ++ rest).length < 8 := by simp
  have hvalue : UInt64.ofNat (BigEndian.ofBytes (writeLong value)) = value.toUInt64 := by
    have hlt := value.toUInt64.toNat_lt
    rw [writeLong, BigEndian.ofBytes_toBytes, Nat.mod_eq_of_lt (by simpa using hlt)]
    exact UInt64.ofNat_toNat
  rw [readLong, if_neg hlength, List.take_left' (length_writeLong value),
    List.drop_left' (length_writeLong value), hvalue]
  simp

theorem readInt_writeInt (value : Int32) (rest : List UInt8) :
    readInt (writeInt value ++ rest) = some (value, rest) := by
  have hlength : ¬ (writeInt value ++ rest).length < 4 := by simp
  have hvalue : UInt32.ofNat (BigEndian.ofBytes (writeInt value)) = value.toUInt32 := by
    have hlt := value.toUInt32.toNat_lt
    rw [writeInt, BigEndian.ofBytes_toBytes, Nat.mod_eq_of_lt (by simpa using hlt)]
    exact UInt32.ofNat_toNat
  rw [readInt, if_neg hlength, List.take_left' (length_writeInt value),
    List.drop_left' (length_writeInt value), hvalue]
  simp

/-- What `readLong` read is what `writeLong` writes. -/
theorem writeLong_of_readLong {input rest : List UInt8} {value : Int64}
    (h : readLong input = some (value, rest)) : input = writeLong value ++ rest := by
  unfold readLong at h
  split at h
  · cases h
  · next hlength =>
    simp only [Option.some.injEq, Prod.mk.injEq] at h
    obtain ⟨rfl, rfl⟩ := h
    have htake : (input.take 8).length = 8 := by
      rw [List.length_take]
      omega
    have hlt := BigEndian.ofBytes_lt (input.take 8)
    rw [htake] at hlt
    have hbytes := BigEndian.toBytes_ofBytes (input.take 8)
    rw [htake] at hbytes
    rw [writeLong, UInt64.toUInt64_toInt64, UInt64.toNat_ofNat_of_lt' (by simpa using hlt), hbytes,
      List.take_append_drop]

/-- What `readInt` read is what `writeInt` writes. -/
theorem writeInt_of_readInt {input rest : List UInt8} {value : Int32}
    (h : readInt input = some (value, rest)) : input = writeInt value ++ rest := by
  unfold readInt at h
  split at h
  · cases h
  · next hlength =>
    simp only [Option.some.injEq, Prod.mk.injEq] at h
    obtain ⟨rfl, rfl⟩ := h
    have htake : (input.take 4).length = 4 := by
      rw [List.length_take]
      omega
    have hlt := BigEndian.ofBytes_lt (input.take 4)
    rw [htake] at hlt
    have hbytes := BigEndian.toBytes_ofBytes (input.take 4)
    rw [htake] at hbytes
    rw [writeInt, UInt32.toUInt32_toInt32, UInt32.toNat_ofNat_of_lt' (by simpa using hlt), hbytes,
      List.take_append_drop]

/-- `read` fills the array exactly when enough bytes are left. -/
theorem readArray_eq_iff {length : ℕ} {input : List UInt8} :
    readArray length input = length ↔ length ≤ input.length := by
  unfold readArray
  split_ifs with hzero hnil
  · simp [hzero]
  · subst hnil
    simp only [List.length_nil, Nat.le_zero, hzero]
  · omega

@[simp] theorem SegmentRecord.toInt_size (record : SegmentRecord) :
    record.size.toInt = record.data.length :=
  Int32.toInt_ofNat_of_lt record.length_data_lt

theorem readRecord_encodeRecord (record : SegmentRecord) (rest : List UInt8) :
    readRecord (encodeRecord record ++ rest) = .ok (record, rest) := by
  have hread : ¬ readArray record.data.length (record.data ++ rest) ≠ (record.data.length : ℤ) := by
    rw [not_not, readArray_eq_iff]
    simp
  simp only [readRecord, encodeRecord, List.append_assoc, readLong_writeLong, readInt_writeInt,
    SegmentRecord.toInt_size, Int.toNat_natCast, if_neg hread, List.take_left, List.drop_left]
  rw [if_neg (by omega)]

theorem encodeRecord_of_readRecord {input rest : List UInt8} {record : SegmentRecord}
    (h : readRecord input = .ok (record, rest)) : input = encodeRecord record ++ rest := by
  unfold readRecord at h
  split at h
  · cases h
  · next ptsUs afterPts hpts =>
    split at h
    · cases h
    · next flags afterFlags hflags =>
      split at h
      · cases h
      · next size afterSize hsize =>
        split_ifs at h with hnegative hread
        simp only [Except.ok.injEq, Prod.mk.injEq] at h
        obtain ⟨rfl, rfl⟩ := h
        have hnat : ((size.toInt.toNat : ℕ) : ℤ) = size.toInt := Int.toNat_of_nonneg (by omega)
        have henough : size.toInt.toNat ≤ afterSize.length := by
          rw [not_not, ← hnat, Int.toNat_natCast] at hread
          exact readArray_eq_iff.mp hread
        have hfield : Int32.ofNat (afterSize.take size.toInt.toNat).length = size := by
          rw [List.length_take, Nat.min_eq_left henough]
          apply Int32.toInt.inj
          rw [Int32.toInt_ofNat_of_lt (by have hlt := size.toInt_lt; omega), hnat]
        rw [writeLong_of_readLong hpts, writeInt_of_readInt hflags, writeInt_of_readInt hsize]
        simp only [encodeRecord, SegmentRecord.size, hfield, List.append_assoc,
          List.take_append_drop]

/-- The record format of the segment files, as a self-delimiting format. -/
def segmentFraming : Framing UInt8 SegmentRecord ReadFailure where
  encode := encodeRecord
  parse := readRecord
  encode_ne_nil := by
    intro record h
    have hlength := congrArg List.length h
    simp [encodeRecord] at hlength
  parse_encode := readRecord_encodeRecord
  encode_of_parse := fun _ _ _ h ↦ encodeRecord_of_readRecord h

end UvcRtmpStream.Replay
