import Mathlib.Data.Int.Init
import Mathlib.Data.List.Basic

/-!
# Buffers, frames and formats of the Android media classes

The parts of `java.nio.ByteBuffer`, `MediaCodec.BufferInfo` and `MediaFormat` that the app and the
streaming library rely on, and the exceptions their calls raise. Java `long` and `int` fields that
are stored or compared are `Int64` and `Int32`. A `ByteBuffer` carries the order of its indices as
fields, so a buffer whose position is past its limit cannot be built.
-/

set_option autoImplicit false
set_option relaxedAutoImplicit false

namespace UvcRtmpStream.Platform

/-- The exceptions that the modelled calls raise. -/
inductive JavaException
  | ioException
  | illegalState
  | illegalArgument
  | bufferUnderflow
  | negativeArraySize
  | nullPointer
  | unsupportedOperation
  | noSuchElement
  | codecException
  deriving DecidableEq, Repr

/-- `MediaCodec.BufferInfo`. -/
structure BufferInfo where
  offset : Int32
  size : Int32
  presentationTimeUs : Int64
  flags : Int32
  deriving DecidableEq

/-- `MediaCodec.BUFFER_FLAG_KEY_FRAME`. -/
def BUFFER_FLAG_KEY_FRAME : Int32 := 1

/-- `MediaCodec.BUFFER_FLAG_CODEC_CONFIG`. -/
def BUFFER_FLAG_CODEC_CONFIG : Int32 := 2

/-- `MediaFormat`: a mime type and integer parameters under string keys. -/
structure MediaFormat where
  mime : String
  parameters : List (String × ℤ)
  deriving DecidableEq

/-- What `MediaMuxer.writeSampleData` is given besides the track: the buffer info and the bytes it
delimits. -/
structure Sample where
  info : BufferInfo
  data : List UInt8
  deriving DecidableEq

/-- `java.nio.ByteBuffer`, with its capacity the length of the content. -/
structure ByteBuffer where
  content : List UInt8
  position : ℕ
  limit : ℕ
  position_le_limit : position ≤ limit
  limit_le_capacity : limit ≤ content.length
  deriving DecidableEq

namespace ByteBuffer

/-- `ByteBuffer.wrap`. -/
def wrap (data : List UInt8) : ByteBuffer where
  content := data
  position := 0
  limit := data.length
  position_le_limit := Nat.zero_le _
  limit_le_capacity := Nat.le_refl _

/-- `ByteBuffer.remaining`. -/
def remaining (buffer : ByteBuffer) : ℕ := buffer.limit - buffer.position

/-- The bytes between the position and the limit. -/
def remainingBytes (buffer : ByteBuffer) : List UInt8 :=
  (buffer.content.drop buffer.position).take buffer.remaining

/-- `ByteBuffer.position(int)`: refused outside the limit. -/
def setPosition (buffer : ByteBuffer) (position : ℤ) : Except JavaException ByteBuffer :=
  if h : 0 ≤ position ∧ position ≤ buffer.limit then
    .ok { buffer with position := position.toNat, position_le_limit := by omega }
  else .error .illegalArgument

/-- `ByteBuffer.limit(int)`: refused outside the capacity; a position past the new limit is moved to
it. -/
def setLimit (buffer : ByteBuffer) (limit : ℤ) : Except JavaException ByteBuffer :=
  if h : 0 ≤ limit ∧ limit ≤ buffer.content.length then
    .ok { content := buffer.content
          position := min buffer.position limit.toNat
          limit := limit.toNat
          position_le_limit := Nat.min_le_right _ _
          limit_le_capacity := by omega }
  else .error .illegalArgument

/-- `ByteBuffer.get(byte[], 0, length)`: the bytes read and the buffer behind them, or a buffer
underflow that leaves the buffer as it was. -/
def get (buffer : ByteBuffer) (length : ℕ) : Except JavaException (List UInt8 × ByteBuffer) :=
  if h : length ≤ buffer.remaining then
    .ok ((buffer.content.drop buffer.position).take length,
      { buffer with
        position := buffer.position + length
        position_le_limit := by
          have hle := buffer.position_le_limit
          unfold remaining at h
          omega })
  else .error .bufferUnderflow

@[simp] theorem length_remainingBytes (buffer : ByteBuffer) :
    buffer.remainingBytes.length = buffer.remaining := by
  have hposition := buffer.position_le_limit
  have hlimit := buffer.limit_le_capacity
  simp only [remainingBytes, remaining, List.length_take, List.length_drop]
  omega

theorem length_of_get {buffer moved : ByteBuffer} {length : ℕ} {data : List UInt8}
    (h : buffer.get length = .ok (data, moved)) : data.length = length := by
  have hposition := buffer.position_le_limit
  have hlimit := buffer.limit_le_capacity
  unfold get at h
  split at h
  · next hle =>
    simp only [Except.ok.injEq, Prod.mk.injEq] at h
    unfold remaining at hle
    rw [← h.1, List.length_take, List.length_drop]
    omega
  · cases h

theorem setPosition_of_le (buffer : ByteBuffer) {position : ℤ} (hlow : 0 ≤ position)
    (hhigh : position ≤ buffer.limit) :
    ∃ moved, buffer.setPosition position = .ok moved ∧ moved.content = buffer.content ∧
      moved.position = position.toNat ∧ moved.limit = buffer.limit :=
  ⟨_, dif_pos ⟨hlow, hhigh⟩, rfl, rfl, rfl⟩

theorem setLimit_of_le (buffer : ByteBuffer) {limit : ℤ} (hlow : 0 ≤ limit)
    (hhigh : limit ≤ buffer.content.length) :
    ∃ moved, buffer.setLimit limit = .ok moved ∧ moved.content = buffer.content ∧
      moved.position = min buffer.position limit.toNat ∧ moved.limit = limit.toNat :=
  ⟨_, dif_pos ⟨hlow, hhigh⟩, rfl, rfl, rfl⟩

theorem get_of_le (buffer : ByteBuffer) {length : ℕ} (h : length ≤ buffer.remaining) :
    ∃ moved, buffer.get length =
      .ok ((buffer.content.drop buffer.position).take length, moved) :=
  ⟨_, dif_pos h⟩

/-- Reading within the remaining bytes and setting the position back gives the bytes and leaves the
buffer as it was. -/
theorem get_setPosition (buffer : ByteBuffer) {length : ℕ} (h : length ≤ buffer.remaining) :
    ∃ moved, buffer.get length =
        .ok ((buffer.content.drop buffer.position).take length, moved) ∧
      moved.setPosition buffer.position = .ok buffer := by
  have hposition := buffer.position_le_limit
  refine ⟨_, dif_pos h, ?_⟩
  have hrange : 0 ≤ (buffer.position : ℤ) ∧ (buffer.position : ℤ) ≤ buffer.limit := by omega
  simp [setPosition, hrange]

end ByteBuffer

end UvcRtmpStream.Platform
