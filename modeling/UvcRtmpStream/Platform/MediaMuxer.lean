import UvcRtmpStream.Platform.Media
import Mathlib.Algebra.Order.Ring.Int

/-!
# `MediaMuxer`

The protocol of `android.media.MediaMuxer`: tracks are added, `start` is called, samples are written
to the tracks, `stop` is called, the muxer is released. A call out of this order raises an
`IllegalStateException`. A muxer remembers the formats of its tracks, which of the calls were made,
and the samples it accepted. A `stop` that throws counts as called too, but only one that returns
has finalised the file.
-/

set_option autoImplicit false
set_option relaxedAutoImplicit false

namespace UvcRtmpStream.Platform

/-- The bytes that an info delimits in a buffer. -/
def sampleOf (buffer : ByteBuffer) (info : BufferInfo) : Sample :=
  ⟨info, (buffer.content.drop info.offset.toInt.toNat).take info.size.toInt.toNat⟩

/-- A `MediaMuxer`. The index of a track is its place in `tracks`. -/
structure MediaMuxer where
  tracks : List MediaFormat
  startCalled : Bool
  stopCalled : Bool
  /-- A `stop` has returned. -/
  finalised : Bool
  released : Bool
  samples : List (ℤ × Sample)
  deriving DecidableEq

namespace MediaMuxer

/-- The constructor, when the output file can be created. -/
def new : MediaMuxer := ⟨[], false, false, false, false, []⟩

/-- `start` has been called and `stop` and `release` have not. -/
def Running (muxer : MediaMuxer) : Prop :=
  muxer.startCalled = true ∧ muxer.stopCalled = false ∧ muxer.released = false

/-- `start` has been called, and no `stop` has returned. -/
def Live (muxer : MediaMuxer) : Prop := muxer.startCalled = true ∧ muxer.finalised = false

/-- The track index was returned by `addTrack` of this muxer. -/
def HasTrack (muxer : MediaMuxer) (track : ℤ) : Prop := 0 ≤ track ∧ track < muxer.tracks.length

instance (muxer : MediaMuxer) : Decidable muxer.Running :=
  inferInstanceAs (Decidable (_ ∧ _ ∧ _))

instance (muxer : MediaMuxer) : Decidable muxer.Live := inferInstanceAs (Decidable (_ ∧ _))

instance (muxer : MediaMuxer) (track : ℤ) : Decidable (muxer.HasTrack track) :=
  inferInstanceAs (Decidable (_ ∧ _))

/-- `addTrack`: the index of the new track. -/
def addTrack (muxer : MediaMuxer) (format : Option MediaFormat) :
    Except JavaException (ℤ × MediaMuxer) :=
  match format with
  | none => .error .illegalArgument
  | some format =>
    if muxer.startCalled || muxer.stopCalled || muxer.released then .error .illegalState
    else .ok (muxer.tracks.length, { muxer with tracks := muxer.tracks ++ [format] })

/-- `start`: needs a track, and is possible once. -/
def start (muxer : MediaMuxer) : Except JavaException MediaMuxer :=
  if muxer.startCalled || muxer.stopCalled || muxer.released || muxer.tracks.isEmpty then
    .error .illegalState
  else .ok { muxer with startCalled := true }

/-- `writeSampleData`. -/
def writeSampleData (muxer : MediaMuxer) (track : ℤ) (sample : Sample) :
    Except JavaException MediaMuxer :=
  if muxer.Running ∧ muxer.HasTrack track then
    .ok { muxer with samples := muxer.samples ++ [(track, sample)] }
  else .error .illegalState

/-- The muxer after a `stop` that threw. -/
def stopFailed (muxer : MediaMuxer) : MediaMuxer := { muxer with stopCalled := true }

/-- The muxer after a `stop` that returned. -/
def stop (muxer : MediaMuxer) : MediaMuxer := { muxer with stopCalled := true, finalised := true }

/-- The muxer after `release`. -/
def release (muxer : MediaMuxer) : MediaMuxer := { muxer with released := true }

/-- A new muxer with one track, started. -/
def newStarted (format : MediaFormat) : MediaMuxer := ⟨[format], true, false, false, false, []⟩

@[simp] theorem addTrack_new (format : MediaFormat) :
    new.addTrack (some format) = .ok (0, ⟨[format], false, false, false, false, []⟩) := rfl

@[simp] theorem start_new_track (format : MediaFormat) :
    start ⟨[format], false, false, false, false, []⟩ = .ok (newStarted format) := rfl

theorem running_newStarted (format : MediaFormat) : (newStarted format).Running :=
  ⟨rfl, rfl, rfl⟩

theorem hasTrack_newStarted (format : MediaFormat) : (newStarted format).HasTrack 0 :=
  ⟨le_refl _, by simp [newStarted]⟩

theorem writeSampleData_of_running {muxer : MediaMuxer} {track : ℤ} (hrunning : muxer.Running)
    (htrack : muxer.HasTrack track) (sample : Sample) :
    muxer.writeSampleData track sample =
      .ok { muxer with samples := muxer.samples ++ [(track, sample)] } :=
  if_pos ⟨hrunning, htrack⟩

/-- Writing a list of samples to a track. -/
def writeAll (muxer : MediaMuxer) (track : ℤ) : List Sample → Except JavaException MediaMuxer
  | [] => .ok muxer
  | sample :: rest =>
    match muxer.writeSampleData track sample with
    | .error exception => .error exception
    | .ok muxer => writeAll muxer track rest

/-- A running muxer accepts all samples. -/
theorem writeAll_of_running {muxer : MediaMuxer} {track : ℤ} (hrunning : muxer.Running)
    (htrack : muxer.HasTrack track) (samples : List Sample) :
    muxer.writeAll track samples =
      .ok { muxer with samples := muxer.samples ++ samples.map fun sample ↦ (track, sample) } := by
  induction samples generalizing muxer with
  | nil => simp [writeAll]
  | cons sample rest ih =>
    have hrest := @ih { muxer with samples := muxer.samples ++ [(track, sample)] } hrunning htrack
    rw [writeAll, writeSampleData_of_running hrunning htrack]
    simp only
    rw [hrest, List.map_cons, List.append_assoc, List.singleton_append]

end MediaMuxer

end UvcRtmpStream.Platform
