import UvcRtmpStream.Foundations.Programs
import UvcRtmpStream.Platform.MediaMuxer
import UvcRtmpStream.Replay.ReplayBuffer

/-!
# What the streaming library drives

The objects that `USBBase` and `StreamService` call and that outlive one `RtmpUSB`: UVC cameras, GL
interfaces, muxers, and the replay buffer behind `ReplayHolder`. They are numbered by their place in
the lists of `Devices`.

How each call of a library ends is decided from outside: `Devices` holds the outcomes of the calls
to come, and `answer` takes the next one. A call that throws has had no effect, except
`MediaMuxer.stop`.
-/

set_option autoImplicit false
set_option relaxedAutoImplicit false

namespace UvcRtmpStream.Streaming

open UvcRtmpStream.Foundations UvcRtmpStream.Platform UvcRtmpStream.Replay

/-- How a call of a library ends. The value is that of a call that returns a `boolean`. -/
inductive Outcome
  | returns (value : Bool)
  | throws (exception : JavaException)
  deriving DecidableEq

/-- `UVCCamera`: whether `mCtrlBlock` and `mNativePtr` are set, and whether the preview runs. -/
structure UVCCamera where
  ctrlBlock : Bool
  nativePtr : Bool
  previewing : Bool
  deriving DecidableEq

namespace UVCCamera

/-- The constructor. -/
def new : UVCCamera := ⟨false, true, false⟩

/-- The control block that `open` sets before it connects. -/
def openCamera (camera : UVCCamera) : UVCCamera := { camera with ctrlBlock := true }

/-- `startPreview`. -/
def startPreview (camera : UVCCamera) : UVCCamera :=
  if camera.ctrlBlock then { camera with previewing := true } else camera

/-- `stopPreview`. -/
def stopPreview (camera : UVCCamera) : UVCCamera :=
  if camera.ctrlBlock then { camera with previewing := false } else camera

/-- `close`. -/
def close (camera : UVCCamera) : UVCCamera := { camera.stopPreview with ctrlBlock := false }

/-- `destroy`. -/
def destroy (camera : UVCCamera) : UVCCamera := { camera.close with nativePtr := false }

end UVCCamera

/-- A `GlInterface`: an `OffScreenGlThread`, or a view on the screen. -/
structure GlInterface where
  offScreen : Bool
  initialized : Bool
  started : Bool
  codecSurface : Bool
  deriving DecidableEq

/-- `ReplayHolder.replayManager` with the manager's buffer, and the directory of its segments. -/
structure ReplayHolder where
  replayManager : Option (Option ReplayBuffer)
  dir : Directory (List UInt8)

/-- What goes wrong in the replay classes during one frame: an I/O error, or an exception or error
of another kind, thrown by a call that does not get the frame's buffer, with the state they are left
in. -/
inductive SinkFault
  | io (fault : WriteFault)
  | throws (exception : JavaException) (left : ReplayHolder)

/-- `ReplayHolder.writeFrame`, through `ReplayManager.writeFrame`: the caller's buffer as it is
left, and the state of the replay classes. Exceptions are caught, here or by the caller. -/
def ReplayHolder.writeFrame (holder : ReplayHolder) (now : ℕ) (h264Buffer : ByteBuffer)
    (info : BufferInfo) : SinkFault → ByteBuffer × ReplayHolder
  | .throws _ left => (h264Buffer, left)
  | .io fault =>
    match holder.replayManager with
    | some (some buffer) =>
      let written := Replay.writeFrame ⟨buffer, holder.dir⟩ now h264Buffer info fault
      (written.2.1, ⟨some (some written.2.2.buffer), written.2.2.dir⟩)
    | _ => (h264Buffer, holder)

/-- A call of `writeSampleData`: the muxer as it is at the call, unless it is null, and the
arguments. -/
structure MuxerWrite where
  muxer : Option MediaMuxer
  track : ℤ
  buffer : ByteBuffer
  info : BufferInfo
  deriving DecidableEq

/-- All devices, the outcomes of the calls to come, and the writes made so far. -/
structure Devices where
  cameras : List UVCCamera
  interfaces : List GlInterface
  muxers : List MediaMuxer
  replay : ReplayHolder
  outcomes : List Outcome
  writes : List MuxerWrite

/-- The next outcome; a call for which none is left returns. -/
def answer : EStateM JavaException Devices Bool := fun devices ↦
  match devices.outcomes with
  | [] => .ok true devices
  | .returns value :: rest => .ok value { devices with outcomes := rest }
  | .throws exception :: rest => .error exception { devices with outcomes := rest }

/-- Taking an outcome changes nothing else. -/
theorem leaves_answer {ν : Type} {view : Devices → ν}
    (hview : ∀ devices outcomes, view { devices with outcomes := outcomes } = view devices) :
    Leaves view answer := by
  rintro value devices rfl
  unfold answer
  cases devices.outcomes with
  | nil => rfl
  | cons outcome rest => cases outcome <;> exact hview devices rest

end UvcRtmpStream.Streaming
