import UvcRtmpStream.Replay.ReplayBufferSpec
import UvcRtmpStream.Streaming.USBBase

/-!
# The replay sink does not disturb the others

`getVideoData` hands a frame to the replay classes before it records and streams it. The three share
the frame's `ByteBuffer`, whose position the replay classes move to read the frame, and an exception
of theirs is thrown in the middle of `getVideoData`.

On every exit of `ReplayBuffer.writeFrame` the buffer is as before, and the rest of `getVideoData`
does not look at the replay classes. So whatever they are and whatever goes wrong in them, the calls
on the muxer and on the RTMP client and the state of the session are the same.
-/

set_option autoImplicit false
set_option relaxedAutoImplicit false

namespace UvcRtmpStream.Streaming

open UvcRtmpStream.Foundations UvcRtmpStream.Platform UvcRtmpStream.Replay

/-- The state with other replay classes. -/
def Usb.withReplay (replay : ReplayHolder) (u : Usb) : Usb := { u with devices.replay := replay }

/-- The replay classes before there are any. -/
def ReplayHolder.absent : ReplayHolder := ⟨none, FileStore.empty⟩

/-- Everything but the replay classes, on either exit of a method: whether it returns or throws, the
session, and the devices with the muxers and the calls made on them. -/
def withoutReplay : EStateM.Result JavaException Usb Unit → EStateM.Result JavaException Usb Unit :=
  mapExit (Usb.withReplay .absent)

/-- On every exit the frame's buffer is as before. -/
theorem writeFrame_fst (holder : ReplayHolder) (now : ℕ) (h264Buffer : ByteBuffer)
    (info : BufferInfo) (fault : SinkFault) :
    (holder.writeFrame now h264Buffer info fault).1 = h264Buffer := by
  unfold ReplayHolder.writeFrame
  cases fault with
  | throws exception left => rfl
  | io fault =>
    dsimp only
    split
    · exact writeFrame_buffer _ now h264Buffer info fault
    · rfl

/-! ### The rest of `getVideoData` -/

section Rest

variable {replay : ReplayHolder}

theorem ignores_nextAnswer : Ignores (Usb.withReplay replay) nextAnswer := by
  rintro ⟨base, cameras, interfaces, muxers, replay, outcomes, writes⟩
  cases outcomes with
  | nil => rfl
  | cons outcome rest => cases outcome <;> rfl

theorem ignores_onRtmp (rtmpCall : RtmpCall) :
    Ignores (Usb.withReplay replay) (onRtmp rtmpCall) :=
  .bind ignores_nextAnswer fun _ ↦ .modify fun _ ↦ rfl

theorem ignores_onMuxer {α : Type}
    (operation : MediaMuxer → Except JavaException (α × MediaMuxer)) :
    Ignores (Usb.withReplay replay) (onMuxer operation) := by
  refine .read (fun u ↦ ?_) fun _ ↦ rfl
  split
  · refine .bind ignores_nextAnswer fun _ ↦ ?_
    split
    · exact .throw _
    · exact .bind (.modify fun _ ↦ rfl) fun _ ↦ .pure _
  · exact .throw _

theorem ignores_writeSampleData (track : ℤ) (buffer : ByteBuffer) (info : BufferInfo) :
    Ignores (Usb.withReplay replay) (writeSampleData track buffer info) :=
  .bind (.modify fun _ ↦ rfl) fun _ ↦ ignores_onMuxer _

theorem ignores_beginRecording (videoFormat audioFormat : Option MediaFormat) :
    Ignores (Usb.withReplay replay) (beginRecording videoFormat audioFormat) :=
  .bind (ignores_onMuxer _) fun _ ↦ .bind (.modify fun _ ↦ rfl) fun _ ↦
    .bind (ignores_onMuxer _) fun _ ↦ .bind (.modify fun _ ↦ rfl) fun _ ↦
    .bind (ignores_onMuxer _) fun _ ↦ .modify fun _ ↦ rfl

/-- `getVideoData` after the replay classes: the frame is recorded and streamed. -/
def deliverVideo (h264Buffer : ByteBuffer) (info : BufferInfo) : UsbM Unit := do
  let u ← get
  whenever u.base.recording do
    whenever (info.flags == BUFFER_FLAG_KEY_FRAME && !u.base.canRecord &&
        u.base.videoFormat.isSome && u.base.audioFormat.isSome)
      (beginRecording u.base.videoFormat u.base.audioFormat)
    let u ← get
    whenever u.base.canRecord (writeSampleData u.base.videoTrack h264Buffer info)
  whenever u.base.streaming (onRtmp (.sendVideo h264Buffer info))

theorem ignores_deliverVideo (h264Buffer : ByteBuffer) (info : BufferInfo) :
    Ignores (Usb.withReplay replay) (deliverVideo h264Buffer info) := by
  refine .read (fun u ↦ .bind (.whenever ?_) fun _ ↦ .whenever (ignores_onRtmp _)) fun _ ↦ rfl
  refine .bind (.whenever (ignores_beginRecording _ _)) fun _ ↦ .read (fun u ↦ ?_) fun _ ↦ rfl
  exact .whenever (ignores_writeSampleData _ _ _)

end Rest

/-- What `getVideoData` does besides the replay classes is to deliver the frame. -/
theorem withoutReplay_getVideoData (u : Usb) (now : ℕ) (h264Buffer : ByteBuffer)
    (info : BufferInfo) (fault : SinkFault) :
    withoutReplay (getVideoData now h264Buffer info fault u) =
      withoutReplay (deliverVideo h264Buffer info u) := by
  let written := u.devices.replay.writeFrame now h264Buffer info fault
  have hrun : getVideoData now h264Buffer info fault u =
      deliverVideo written.1 info (u.withReplay written.2) := rfl
  have hbuffer : written.1 = h264Buffer :=
    writeFrame_fst u.devices.replay now h264Buffer info fault
  rw [hrun, hbuffer, ignores_deliverVideo h264Buffer info u, withoutReplay, mapExit_mapExit]
  rfl

/-- Whatever the replay classes are in two runs and whatever goes wrong in them, `getVideoData`
returns or throws alike, makes the same calls on the muxer and on the RTMP client with the same
buffer, and leaves the same session; and `ReplayBuffer.writeFrame` leaves the buffer as it found it.
-/
theorem replay_sink_undisturbing (u : Usb) (replay replay' : ReplayHolder) (now now' : ℕ)
    (h264Buffer : ByteBuffer) (info : BufferInfo) (fault fault' : SinkFault) :
    withoutReplay (getVideoData now h264Buffer info fault (u.withReplay replay)) =
        withoutReplay (getVideoData now' h264Buffer info fault' (u.withReplay replay')) ∧
      ∀ (s : ReplayState (List UInt8)) (writeFault : WriteFault),
        (writeFrame s now h264Buffer info writeFault).2.1 = h264Buffer := by
  refine ⟨?_, fun s writeFault ↦ writeFrame_buffer s now h264Buffer info writeFault⟩
  rw [withoutReplay_getVideoData, withoutReplay_getVideoData, withoutReplay,
    ignores_deliverVideo h264Buffer info u, ignores_deliverVideo h264Buffer info u,
    mapExit_mapExit, mapExit_mapExit]
  rfl

end UvcRtmpStream.Streaming
