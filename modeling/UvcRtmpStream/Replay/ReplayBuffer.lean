import UvcRtmpStream.Foundations.FileStore
import UvcRtmpStream.Foundations.Runs
import UvcRtmpStream.Replay.SegmentFormat
import Mathlib.Data.List.Sort

/-!
# The segment-based replay buffer

`replay/ReplayBuffer.java`. A `ReplayBuffer` appends encoded frames to segment files, cut by frame
timestamp and named after the start of the segment, deletes segments by modification time, and muxes
the recent segments into a clip on request.

The state is the object's fields and the segment directory. The directory is a `FileStore`: a stream
that is open on a file writes through the file's inode, so a file that is deleted while it is open
takes the later writes with it. Methods that do not look at the contents of files are stated for any
type of contents. Every method is `synchronized`, so a call is one step, made at one value of
`System.currentTimeMillis()` (milliseconds since the epoch, hence natural). What the platform
decides is an argument: whether a file opens, how much of a record reaches the file before an
`IOException`, the order in which `listFiles` returns the files, which calls of the muxer throw.

Timestamps are Java `long`s. Their difference in `rotateSegmentIfNeeded` is the one place where the
arithmetic can overflow, and is wrapped (`wrapLong`). `maxSeconds`, `segmentDurationMs` and
`seconds` are `int`s that enter only `long` arithmetic, where they cannot overflow, and are integers
here.
-/

set_option autoImplicit false
set_option relaxedAutoImplicit false

namespace UvcRtmpStream.Replay

open UvcRtmpStream.Foundations UvcRtmpStream.Platform

/-- The segment directory, with file contents of type `κ`; the code's are byte strings. -/
abbrev Directory (κ : Type*) := FileStore String κ

/-- A file of the segment directory. -/
abbrev SegmentFile (κ : Type*) := StoredFile String κ

/-- The fields of a `ReplayBuffer`. `currentOut` is the inode that the open stream writes to. The
constructor and `setMaxSeconds` clamp the two settings, which is recorded here. -/
structure ReplayBuffer where
  maxSeconds : ℤ
  segmentDurationMs : ℤ
  currentOut : Option ℕ
  currentSegmentStartUs : ℤ
  currentSegmentFile : Option String
  lastFramePtsUs : ℤ
  frameCount : Int32
  one_le_maxSeconds : 1 ≤ maxSeconds
  le_segmentDurationMs : 200 ≤ segmentDurationMs

/-- A `ReplayBuffer` and the directory it works on. -/
structure ReplayState (κ : Type*) where
  buffer : ReplayBuffer
  dir : Directory κ

variable {κ : Type*}

/-- A `long` sum or difference, wrapped into the range of `long`. -/
def wrapLong (value : ℤ) : ℤ := value.bmod (2 ^ 64)

/-- `Arrays.sort(files, Comparator.comparingLong(File::lastModified))`, a stable sort. -/
def sortByLastModified (files : List (SegmentFile κ)) : List (SegmentFile κ) :=
  files.insertionSort fun a b ↦ a.lastModified ≤ b.lastModified

/-- `now - f.lastModified() > keepMs`. -/
def expired (keepMs : ℤ) (now : ℕ) (file : SegmentFile κ) : Bool :=
  decide ((now : ℤ) - file.lastModified > keepMs)

/-- `cleanupOldSegments`. -/
def cleanupOldSegments (maxSeconds : ℤ) (dir : Directory κ) (now : ℕ) : Directory κ :=
  let keepMs := maxSeconds * 1000
  (sortByLastModified dir.files).foldl
    (fun dir file ↦ if expired keepMs now file then dir.delete file.name else dir) dir

/-- The constructor on a directory that exists or can be made, and otherwise its `IOException`. -/
def ReplayBuffer.new (maxSeconds segmentDurationMs : ℤ) (dir : Directory κ) (now : ℕ)
    (dirReady : Bool) : Except JavaException (ReplayState κ) :=
  if dirReady then
    .ok
      { buffer :=
          { maxSeconds := max 1 maxSeconds
            segmentDurationMs := max 200 segmentDurationMs
            currentOut := none
            currentSegmentStartUs := -1
            currentSegmentFile := none
            lastFramePtsUs := -1
            frameCount := 0
            one_le_maxSeconds := le_max_left _ _
            le_segmentDurationMs := le_max_left _ _ }
        dir := cleanupOldSegments (max 1 maxSeconds) dir now }
  else .error .ioException

/-- `setMaxSeconds`. -/
def setMaxSeconds (s : ReplayState κ) (now : ℕ) (seconds : ℤ) : ReplayState κ where
  buffer := { s.buffer with
    maxSeconds := max 1 seconds
    one_le_maxSeconds := le_max_left _ _ }
  dir := cleanupOldSegments (max 1 seconds) s.dir now

/-- `segmentNameForStart`. -/
def segmentNameForStart (startUs : ℤ) : String := "segment_" ++ toString startUs ++ ".seg"

/-- `segDurUs` of `rotateSegmentIfNeeded`. -/
def ReplayBuffer.segDurUs (buffer : ReplayBuffer) : ℤ := buffer.segmentDurationMs * 1000

/-- The start of the segment that a timestamp belongs to, by `long` division, which truncates. -/
def segmentStart (segDurUs ptsUs : ℤ) : ℤ := ptsUs.tdiv segDurUs * segDurUs

/-- `closeCurrentSegment`. An exception of `flush` or `close` is ignored. -/
def closeCurrentSegment (buffer : ReplayBuffer) : ReplayBuffer :=
  if buffer.currentOut.isSome then
    { buffer with currentOut := none, currentSegmentFile := none, currentSegmentStartUs := -1 }
  else buffer

/-- The test of `rotateSegmentIfNeeded`. -/
def rotationNeeded (buffer : ReplayBuffer) (ptsUs : ℤ) : Bool :=
  buffer.currentOut.isNone || decide (buffer.currentSegmentStartUs < 0) ||
    decide (wrapLong (ptsUs - buffer.currentSegmentStartUs) ≥ buffer.segDurUs)

/-- The name of the file that a rotation at a timestamp opens. -/
def ReplayBuffer.rotationName (buffer : ReplayBuffer) (ptsUs : ℤ) : String :=
  segmentNameForStart (segmentStart buffer.segDurUs ptsUs)

/-- `rotateSegmentIfNeeded`. The cleanup runs after the file is opened, and whether or not it could
be opened. -/
def rotateSegmentIfNeeded [EmptyCollection κ] (s : ReplayState κ) (now : ℕ) (ptsUs : ℤ)
    (openFails : Bool) : ReplayState κ :=
  if rotationNeeded s.buffer ptsUs then
    let closed := closeCurrentSegment s.buffer
    let name := s.buffer.rotationName ptsUs
    let startUs := segmentStart s.buffer.segDurUs ptsUs
    if openFails then
      { buffer := { closed with
          currentSegmentStartUs := startUs, currentOut := none, currentSegmentFile := none }
        dir := cleanupOldSegments s.buffer.maxSeconds s.dir now }
    else
      let (dir, inode) := s.dir.openAppend name ∅ now
      { buffer := { closed with
          currentSegmentStartUs := startUs
          currentOut := some inode
          currentSegmentFile := some name }
        dir := cleanupOldSegments s.buffer.maxSeconds dir now }
  else s

/-- What goes wrong with the file system during one `writeFrame`: the segment file does not open, or
one of the four writes throws after so many bytes of the record have reached the file. -/
structure WriteFault where
  openFails : Bool
  failsAfter : Option ℕ
  deriving DecidableEq

/-- No I/O error. -/
def WriteFault.none : WriteFault := ⟨false, Option.none⟩

/-- How `writeFrame` ends. -/
inductive WriteOutcome
  /-- The buffer or the info is null. -/
  | ignored
  /-- No segment file is open. -/
  | notOpen
  | written
  /-- An `IOException` was logged. -/
  | failed
  | threw (exception : JavaException)
  deriving DecidableEq

/-- The frame count and `lastFramePtsUs` test at the start of `writeFrame`. -/
def countFrame (buffer : ReplayBuffer) (ptsUs : ℤ) : ReplayBuffer :=
  if buffer.lastFramePtsUs ≥ 0 ∧ ptsUs > buffer.lastFramePtsUs then
    { buffer with frameCount := buffer.frameCount + 1 }
  else buffer

/-- The frame that `writeFrame` reads from the buffer, `size` bytes from its position, and the
buffer with its position set back; or the exception of `new byte[size]` or of `get`. -/
def readFrame (h264Buffer : ByteBuffer) (info : BufferInfo) :
    Except JavaException (SegmentRecord × ByteBuffer) :=
  if info.size.toInt < 0 then .error .negativeArraySize
  else
    match hget : h264Buffer.get info.size.toInt.toNat with
    | .error exception => .error exception
    | .ok (data, moved) =>
      match moved.setPosition h264Buffer.position with
      | .error exception => .error exception
      | .ok restored =>
        .ok (⟨info.presentationTimeUs, info.flags, data, by
          have hlength := ByteBuffer.length_of_get hget
          have hsize := info.size.toInt_lt
          omega⟩, restored)

/-- `writeFrame` on a buffer and an info that are not null: how it ends, the caller's buffer, and
the state. The record's `size` field is `info.size`, the number of bytes read. -/
def writeFrame (s : ReplayState (List UInt8)) (now : ℕ) (h264Buffer : ByteBuffer)
    (info : BufferInfo) (fault : WriteFault) :
    WriteOutcome × ByteBuffer × ReplayState (List UInt8) :=
  let ptsUs := info.presentationTimeUs.toInt
  let s := rotateSegmentIfNeeded { s with buffer := countFrame s.buffer ptsUs } now ptsUs
    fault.openFails
  match s.buffer.currentOut with
  | none => (.notOpen, h264Buffer, s)
  | some inode =>
    match readFrame h264Buffer info with
    | .error exception => (.threw exception, h264Buffer, s)
    | .ok (record, restored) =>
      match fault.failsAfter with
      | none =>
        (.written, restored,
          { buffer := { s.buffer with lastFramePtsUs := ptsUs }
            dir := s.dir.write inode (· ++ encodeRecord record) now })
      | some 0 => (.failed, restored, s)
      | some (count + 1) =>
        (.failed, restored,
          { s with dir := s.dir.write inode (· ++ (encodeRecord record).take (count + 1)) now })

/-- The segments that `saveLastNSeconds` muxes, from the files sorted by modification time: those
modified within the last `seconds`, or, when there are none, the last few by count. -/
def selectSegments (segmentDurationMs seconds : ℤ) (now : ℕ) (files : List (SegmentFile κ)) :
    List (SegmentFile κ) :=
  let toUse := files.filter fun file ↦ !expired (seconds * 1000) now file
  if toUse.isEmpty then
    let want := max 1 (seconds / max 1 (segmentDurationMs / 1000))
    files.drop (files.length - want.toNat)
  else toUse

/-- What the platform decides during one `saveLastNSeconds`: the order of `listFiles`, which files
cannot be opened, and which calls on the muxer throw (the `n`-th `writeSampleData` counting from
zero). -/
structure SaveEnvironment where
  order : List (SegmentFile (List UInt8)) → List (SegmentFile (List UInt8))
  perm_order : ∀ files, (order files).Perm files
  unreadable : String → Bool
  createFails : Bool
  addTrackFails : Bool
  startFails : Bool
  rejectsSample : ℕ → Bool
  stopFails : Bool

/-- No call fails. -/
def SaveEnvironment.Faultless (environment : SaveEnvironment) : Prop :=
  (∀ name, environment.unreadable name = false) ∧ environment.createFails = false ∧
    environment.addTrackFails = false ∧ environment.startFails = false ∧
    (∀ n, environment.rejectsSample n = false) ∧ environment.stopFails = false

/-- The environment that returns the files in a given order and in which no call fails. -/
def SaveEnvironment.faultless
    (order : List (SegmentFile (List UInt8)) → List (SegmentFile (List UInt8)))
    (perm_order : ∀ files, (order files).Perm files) : SaveEnvironment where
  order := order
  perm_order := perm_order
  unreadable := fun _ ↦ false
  createFails := false
  addTrackFails := false
  startFails := false
  rejectsSample := fun _ ↦ false
  stopFails := false

/-- The reading loop on one segment: the samples passed to the muxer so far, and the exception that
left the loop. A size mismatch breaks the loop without one. -/
def muxSegment (environment : SaveEnvironment) :
    ℕ → List UInt8 → List Sample → List Sample × Option JavaException
  | 0, _, passed => (passed, none)
  | _ + 1, [], passed => (passed, none)
  | fuel + 1, byte :: input, passed =>
    match readRecord (byte :: input) with
    | .error .endOfFile => (passed, some .ioException)
    | .error .negativeArraySize => (passed, some .negativeArraySize)
    | .error .sizeMismatch => (passed, none)
    | .ok (record, rest) =>
      if environment.rejectsSample passed.length then (passed, some .illegalState)
      else muxSegment environment fuel rest (passed ++ [record.toSample])

/-- The loop over the selected segments. -/
def muxSegments (environment : SaveEnvironment) :
    List (SegmentFile (List UInt8)) → List Sample → List Sample × Option JavaException
  | [], passed => (passed, none)
  | segment :: rest, passed =>
    if environment.unreadable segment.name then (passed, some .ioException)
    else
      match muxSegment environment segment.content.length segment.content passed with
      | (passed, none) => muxSegments environment rest passed
      | (passed, some exception) => (passed, some exception)

/-- What `saveLastNSeconds` returns or throws, the samples that the muxer accepted, and whether its
`stop` succeeded. -/
structure SaveResult where
  returned : Except JavaException Bool
  samples : List Sample
  stopped : Bool

/-- The muxing part of `saveLastNSeconds`. An `IOException` becomes `false`; any other exception
leaves the method after `stop` and `release`, whose own exceptions are ignored. -/
def muxClip (environment : SaveEnvironment) (toUse : List (SegmentFile (List UInt8))) :
    SaveResult :=
  if environment.createFails then ⟨.ok false, [], false⟩
  else if environment.addTrackFails then ⟨.error .illegalState, [], false⟩
  else if environment.startFails then ⟨.error .illegalState, [], false⟩
  else
    match muxSegments environment toUse [] with
    | (passed, none) => ⟨.ok true, passed, !environment.stopFails⟩
    | (passed, some .ioException) => ⟨.ok false, passed, !environment.stopFails⟩
    | (passed, some exception) => ⟨.error exception, passed, !environment.stopFails⟩

/-- `saveLastNSeconds`. The format is only handed to the muxer, so its value plays no part here. -/
def saveLastNSeconds (s : ReplayState (List UInt8)) (now : ℕ) (seconds : ℤ)
    (videoFormat : Option MediaFormat) (environment : SaveEnvironment) :
    SaveResult × ReplayState (List UInt8) :=
  if seconds ≤ 0 then (⟨.ok false, [], false⟩, s)
  else if videoFormat.isNone then (⟨.ok false, [], false⟩, s)
  else
    let s := { s with buffer := closeCurrentSegment s.buffer }
    let files := environment.order s.dir.files
    if files.isEmpty then (⟨.ok false, [], false⟩, s)
    else
      let toUse := selectSegments s.buffer.segmentDurationMs seconds now (sortByLastModified files)
      if toUse.isEmpty then (⟨.ok false, [], false⟩, s)
      else (muxClip environment toUse, s)

/-- `shutdown`. -/
def shutdown (s : ReplayState κ) : ReplayState κ :=
  { s with buffer := { closeCurrentSegment s.buffer with lastFramePtsUs := -1, frameCount := 0 } }

/-! ### Calls in sequence -/

/-- A call on the replay buffer. `construct` makes a new `ReplayBuffer` on the same directory, as a
new process does; the stream of the old one is never written to again. -/
inductive ReplayOp
  | construct (maxSeconds segmentDurationMs : ℤ) (dirReady : Bool)
  | setMaxSeconds (seconds : ℤ)
  | writeFrame (h264Buffer : Option ByteBuffer) (info : Option BufferInfo) (fault : WriteFault)
  | saveLastNSeconds (seconds : ℤ) (videoFormat : Option MediaFormat)
      (environment : SaveEnvironment)
  | shutdown

/-- A call made at a wall-clock time. -/
structure ReplayCall where
  now : ℕ
  op : ReplayOp

/-- The `writeFrame` of some bytes under a timestamp, without I/O errors. -/
def ReplayCall.plainWrite (now : ℕ) (ptsUs : Int64) (data : List UInt8) : ReplayCall :=
  ⟨now, .writeFrame (some (ByteBuffer.wrap data)) (some ⟨0, Int32.ofNat data.length, ptsUs, 0⟩)
    WriteFault.none⟩

/-- The state after a call. A constructor that throws leaves no new object. -/
def replayStep (s : ReplayState (List UInt8)) (call : ReplayCall) : ReplayState (List UInt8) :=
  match call.op with
  | .construct maxSeconds segmentDurationMs dirReady =>
    match ReplayBuffer.new maxSeconds segmentDurationMs s.dir call.now dirReady with
    | .ok s => s
    | .error _ => s
  | .setMaxSeconds seconds => setMaxSeconds s call.now seconds
  | .writeFrame (some h264Buffer) (some info) fault =>
    (writeFrame s call.now h264Buffer info fault).2.2
  | .writeFrame _ _ _ => s
  | .saveLastNSeconds seconds videoFormat environment =>
    (saveLastNSeconds s call.now seconds videoFormat environment).2
  | .shutdown => shutdown s

/-- The state after a list of calls. -/
abbrev replayRun (s : ReplayState (List UInt8)) (calls : List ReplayCall) :
    ReplayState (List UInt8) := run replayStep s calls

end UvcRtmpStream.Replay
