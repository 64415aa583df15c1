import UvcRtmpStream.Foundations.Runs
import UvcRtmpStream.Replay.SaveOutcome
import UvcRtmpStream.Streaming.Devices
import Mathlib.Logic.Function.Basic

/-!
# Clips saved by the service

`StreamService+Replay.kt` with `ReplayManager.kt` and the saving part of `ReplayHolder.java`: the
service makes a manager on first use, asks it for a clip of the last seconds, and returns the path
of the file when it was told that the clip was saved.

The clips are files under their paths. The constructor of `MediaMuxer` makes the file, and empties
one that exists; what the muxer accepted is in it afterwards, readable if the muxer's `stop`
succeeded.
-/

set_option autoImplicit false
set_option relaxedAutoImplicit false

namespace UvcRtmpStream.Streaming

open UvcRtmpStream.Foundations UvcRtmpStream.Platform UvcRtmpStream.Replay

/-! ### The replay classes -/

/-- `ReplayManager.ensureInitialized`, on the manager's buffer. A constructor that throws leaves
none. -/
def ReplayManager.ensureInitialized (buffer : Option ReplayBuffer) (dir : Directory (List UInt8))
    (maxSeconds segmentMs : ℤ) (now : ℕ) (dirReady : Bool) :
    Option ReplayBuffer × Directory (List UInt8) :=
  match buffer with
  | some buffer => (some buffer, dir)
  | none =>
    match ReplayBuffer.new maxSeconds segmentMs dir now dirReady with
    | .ok s => (some s.buffer, s.dir)
    | .error _ => (none, dir)

/-- `ensureReplayInitialized`. -/
def ensureReplayInitialized (holder : ReplayHolder) (now : ℕ) (dirReady : Bool) : ReplayHolder :=
  match holder.replayManager with
  | some _ => holder
  | none =>
    let initialized := ReplayManager.ensureInitialized none holder.dir 120 1000 now dirReady
    ⟨some initialized.1, initialized.2⟩

/-- A clip file: the samples that its muxer accepted, and whether it was finalised. -/
structure Clip where
  samples : List Sample
  finalised : Bool
  deriving DecidableEq

/-- The clip files under their paths. -/
abbrev Clips := String → Option Clip

/-- One save: the time it is made at, the seconds asked for, the video format of the service at that
time, whether the segment directory exists or can be made, and what the platform does. -/
structure SaveCall where
  now : ℕ
  seconds : ℤ
  videoFormat : Option MediaFormat
  dirReady : Bool
  environment : SaveEnvironment

/-- The segments that a save goes on to mux. -/
def SaveCall.segmentsToUse (call : SaveCall) (s : ReplayState (List UInt8)) :
    Option (List (SegmentFile (List UInt8))) :=
  Replay.segmentsToUse s call.now call.seconds call.videoFormat call.environment

/-- The save makes its muxer. -/
def SaveCall.createsMuxer (call : SaveCall) (s : ReplayState (List UInt8)) : Bool :=
  (call.segmentsToUse s).isSome && !call.environment.createFails

/-- `ReplayBuffer.saveLastNSeconds` with the file it writes. -/
def saveClip (s : ReplayState (List UInt8)) (clips : Clips) (outPath : String) (call : SaveCall) :
    Except JavaException Bool × ReplayState (List UInt8) × Clips :=
  let saved := Replay.saveLastNSeconds s call.now call.seconds call.videoFormat call.environment
  (saved.1.returned, saved.2,
    if call.createsMuxer s then
      Function.update clips outPath (some ⟨saved.1.samples, saved.1.stopped⟩)
    else clips)

/-- The replay classes and the clip files. -/
structure ClipStore where
  holder : ReplayHolder
  clips : Clips

/-- `ReplayManager.saveLastNSeconds` of the manager in `ReplayHolder`, and `false` when there is
none. -/
def ReplayManager.saveLastNSeconds (store : ClipStore) (outPath : String) (call : SaveCall) :
    Except JavaException Bool × ClipStore :=
  match store.holder.replayManager with
  | some (some buffer) =>
    let saved := saveClip ⟨buffer, store.holder.dir⟩ store.clips outPath call
    (saved.1, ⟨⟨some (some saved.2.1.buffer), saved.2.1.dir⟩, saved.2.2⟩)
  | _ => (.ok false, store)

/-- `ReplayHolder.saveLastNSeconds`, which turns an exception into `false`. -/
def ReplayHolder.saveLastNSeconds (store : ClipStore) (outPath : String) (call : SaveCall) :
    Bool × ClipStore :=
  let saved := ReplayManager.saveLastNSeconds store outPath call
  match saved.1 with
  | .ok success => (success, saved.2)
  | .error _ => (false, saved.2)

/-! ### The service -/

/-- The name of a clip, `clip_${timestamp}_${seconds}s.mp4` as it stands here: in the string
template of the source the dollar signs are escaped, so that neither value is put in. -/
def clipName (_timestamp : String) (_seconds : ℤ) : String :=
  "clip_" ++ "$" ++ "\x7btimestamp\x7d_" ++ "$" ++ "\x7bseconds\x7ds.mp4"

/-- The `outFile` of a save: the time stamp is the time of the call in seconds, in some format. -/
def SaveCall.outFile (clipsDir : String) (format : ℕ → String) (call : SaveCall) : String :=
  clipsDir ++ "/" ++ clipName (format (call.now / 1000)) call.seconds

/-- `saveLastNSeconds` of the service: whether the clip was saved, and its path. -/
def StreamService.saveLastNSeconds (clipsDir : String) (format : ℕ → String) (store : ClipStore)
    (call : SaveCall) : (Bool × Option String) × ClipStore :=
  let holder := ensureReplayInitialized store.holder call.now call.dirReady
  let outFile := call.outFile clipsDir format
  let saved := ReplayManager.saveLastNSeconds ⟨holder, store.clips⟩ outFile call
  match saved.1 with
  | .ok success => ((success, if success then some outFile else none), saved.2)
  | .error _ => ((false, none), saved.2)

/-! ### The machine -/

/-- A save, the initialisation when the service is created, or a frame from the encoder. -/
inductive ClipEvent
  | saveLastNSeconds (call : SaveCall)
  | ensureReplayInitialized (now : ℕ) (dirReady : Bool)
  | writeFrame (now : ℕ) (h264Buffer : ByteBuffer) (info : BufferInfo) (fault : SinkFault)

/-- The state after an event. -/
def clipStep (clipsDir : String) (format : ℕ → String) (store : ClipStore) :
    ClipEvent → ClipStore
  | .saveLastNSeconds call => (StreamService.saveLastNSeconds clipsDir format store call).2
  | .ensureReplayInitialized now dirReady =>
    { store with holder := Streaming.ensureReplayInitialized store.holder now dirReady }
  | .writeFrame now h264Buffer info fault =>
    { store with holder := (store.holder.writeFrame now h264Buffer info fault).2 }

end UvcRtmpStream.Streaming
