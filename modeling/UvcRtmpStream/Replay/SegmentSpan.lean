import UvcRtmpStream.Replay.RoundTrip

/-!
# The span of a segment

The name of a segment file carries the start of its segment, and a segment is meant to hold the
frames of one segment duration from there. `SpanKept` says so of one call: the frame that it appends
goes to a file whose name carries a start at most one duration before the frame's timestamp.

`rotateSegmentIfNeeded` compares the timestamp with the start of the open segment from one side
only, so a timestamp that goes back stays in the open segment, and the division that finds a start
rounds a negative timestamp up. `StaysInSegment` excludes both, on the state before the call, and
`segment_span_iff` shows that nothing else goes wrong: along any calls, every frame lies in the span
of its file if and only if every call that appends a frame meets the condition. The invariant is
`NamedStream`: the open stream writes to the file named after `currentSegmentStartUs`.
-/

set_option autoImplicit false
set_option relaxedAutoImplicit false

namespace UvcRtmpStream.Replay

open UvcRtmpStream.Foundations UvcRtmpStream.Platform

/-- The open stream writes to the file of a name, which may have been deleted since. -/
def WritesTo {κ : Type*} (s : ReplayState κ) (name : String) : Prop :=
  ∃ inode, s.buffer.currentOut = some inode ∧ s.buffer.currentSegmentFile = some name ∧
    ∀ file ∈ s.dir.files, file.inode = inode → file.name = name

/-- A frame that the call appends lies in the span of the file it goes to. -/
def SpanKept (s : ReplayState (List UInt8)) (call : ReplayCall) : Prop :=
  ∀ h264Buffer info fault, call.op = .writeFrame (some h264Buffer) (some info) fault →
    (writeFrame s call.now h264Buffer info fault).1 = .written →
      ∃ startUs, WritesTo (replayStep s call) (segmentNameForStart startUs) ∧
        startUs ≤ info.presentationTimeUs.toInt ∧
        info.presentationTimeUs.toInt < startUs + 1000 * s.buffer.segmentDurationMs

/-- `writeFrame` appends the whole frame: its bytes can be read, the segment file opens when one has
to be opened, and none of the writes fails. -/
def AppendsFrame (s : ReplayState (List UInt8)) (h264Buffer : ByteBuffer) (info : BufferInfo)
    (fault : WriteFault) : Prop :=
  0 ≤ info.size.toInt ∧ info.size.toInt ≤ h264Buffer.remaining ∧ fault.failsAfter = none ∧
    (rotationNeeded s.buffer info.presentationTimeUs.toInt = true → fault.openFails = false)

/-- The timestamp lies in the segment that a `writeFrame` goes on with. A new one starts at or
before the timestamp unless that is negative and within a segment; the open one goes on being used
for a timestamp before its start. -/
def InSegment (buffer : ReplayBuffer) (ptsUs : ℤ) : Prop :=
  if rotationNeeded buffer ptsUs then 0 ≤ ptsUs ∨ ptsUs.tmod buffer.segDurUs = 0
  else buffer.currentSegmentStartUs ≤ ptsUs

/-- A call that appends a frame finds the frame's segment open, or opens it. -/
def StaysInSegment (s : ReplayState (List UInt8)) (call : ReplayCall) : Prop :=
  ∀ h264Buffer info fault, call.op = .writeFrame (some h264Buffer) (some info) fault →
    AppendsFrame s h264Buffer info fault → InSegment s.buffer info.presentationTimeUs.toInt

/-- The open stream writes to the file that is named after the start of the segment. -/
def NamedStream {κ : Type*} (s : ReplayState κ) : Prop :=
  s.buffer.currentOut.isSome → WritesTo s (segmentNameForStart s.buffer.currentSegmentStartUs)

/-! ### The open stream -/

section Stream

variable {κ : Type*} {s : ReplayState κ}

theorem namedStream_of_closed (h : s.buffer.currentOut = none) : NamedStream s := by
  intro hopen
  rw [h] at hopen
  cases hopen

/-- A stream is left on its file by whatever changes neither the stream nor the names of files. -/
theorem WritesTo.mono {s' : ReplayState κ} {name : String} (h : WritesTo s name)
    (hout : s'.buffer.currentOut = s.buffer.currentOut)
    (hfile : s'.buffer.currentSegmentFile = s.buffer.currentSegmentFile)
    (hnames : ∀ file' ∈ s'.dir.files, ∃ file ∈ s.dir.files, file.inode = file'.inode ∧
      file.name = file'.name) : WritesTo s' name := by
  obtain ⟨inode, hinode, hname, hfiles⟩ := h
  refine ⟨inode, hout.trans hinode, hfile.trans hname, fun file' hfile' hinode' ↦ ?_⟩
  obtain ⟨file, hmem, hsame, hsameName⟩ := hnames file' hfile'
  rw [← hsameName]
  exact hfiles file hmem (hsame.trans hinode')

theorem NamedStream.mono {s' : ReplayState κ} (h : NamedStream s)
    (hout : s'.buffer.currentOut = s.buffer.currentOut)
    (hfile : s'.buffer.currentSegmentFile = s.buffer.currentSegmentFile)
    (hstart : s'.buffer.currentSegmentStartUs = s.buffer.currentSegmentStartUs)
    (hnames : ∀ file' ∈ s'.dir.files, ∃ file ∈ s.dir.files, file.inode = file'.inode ∧
      file.name = file'.name) : NamedStream s' := by
  intro hopen
  rw [hstart]
  exact (h (hout ▸ hopen)).mono hout hfile hnames

theorem mem_of_mem_cleanup {maxSeconds : ℤ} {dir : Directory κ} {now : ℕ}
    {file : SegmentFile κ} (h : file ∈ (cleanupOldSegments maxSeconds dir now).files) :
    ∃ other ∈ dir.files, other.inode = file.inode ∧ other.name = file.name :=
  ⟨file, (mem_cleanupOldSegments_iff.mp h).1, rfl, rfl⟩

/-- A segment that is opened is named after the start of the timestamp's segment. -/
theorem writesTo_prepareAppend [EmptyCollection κ] {now : ℕ} {ptsUs : ℤ}
    (hneeded : rotationNeeded s.buffer ptsUs = true) :
    WritesTo (prepareAppend s now ptsUs false) (s.buffer.rotationName ptsUs) := by
  obtain ⟨hdir, hout, -⟩ := @prepareAppend_of_needed _ _ s now ptsUs hneeded
  refine ⟨_, hout, ?_, fun file hfile hinode ↦ ?_⟩
  · rw [← rotationName_countFrame s.buffer ptsUs]
    simp [prepareAppend, rotateSegmentIfNeeded, hneeded]
  · rw [hdir] at hfile
    exact s.dir.name_of_snd_openAppend (mem_cleanupOldSegments_iff.mp hfile).1 hinode

theorem countFrame_currentSegmentFile (buffer : ReplayBuffer) (ptsUs : ℤ) :
    (countFrame buffer ptsUs).currentSegmentFile = buffer.currentSegmentFile := by
  unfold countFrame
  split <;> rfl

/-- The state in which `writeFrame` appends has its stream on the file of the open segment. -/
theorem NamedStream.prepareAppend [EmptyCollection κ] (h : NamedStream s) (now : ℕ) (ptsUs : ℤ)
    (openFails : Bool) : NamedStream (prepareAppend s now ptsUs openFails) := by
  cases hneeded : rotationNeeded s.buffer ptsUs with
  | false =>
    rw [prepareAppend_of_not_needed hneeded]
    exact h.mono (countFrame_currentOut _ _) (countFrame_currentSegmentFile _ _)
      (countFrame_currentSegmentStartUs _ _) fun file hfile ↦ ⟨file, hfile, rfl, rfl⟩
  | true =>
    cases openFails with
    | true => exact namedStream_of_closed (prepareAppend_of_openFails hneeded).2
    | false =>
      intro _
      rw [(prepareAppend_of_needed hneeded).2.2]
      exact writesTo_prepareAppend hneeded

end Stream

/-- The writes of a record leave the stream and the names of the files as they are. -/
theorem NamedStream.write {s : ReplayState (List UInt8)} (h : NamedStream s) (inode now : ℕ)
    (bytes : List UInt8) (last : ℤ) :
    NamedStream
      { buffer := { s.buffer with lastFramePtsUs := last }
        dir := s.dir.write inode (· ++ bytes) now } := by
  refine h.mono rfl rfl rfl fun file' hfile' ↦ ?_
  obtain ⟨file, hfile, rfl⟩ := List.mem_map.mp hfile'
  exact ⟨file, hfile, (FileStore.writeFile_inode _ _ _ _).symm,
    (FileStore.writeFile_name _ _ _ _).symm⟩

/-- The step lemma: every call keeps the open stream on the file of the open segment. -/
theorem NamedStream.step {s : ReplayState (List UInt8)} (h : NamedStream s) (call : ReplayCall) :
    NamedStream (replayStep s call) := by
  obtain ⟨now, op⟩ := call
  cases op with
  | construct maxSeconds segmentDurationMs dirReady =>
    cases dirReady with
    | false => exact h
    | true => exact namedStream_of_closed rfl
  | setMaxSeconds seconds => exact h.mono rfl rfl rfl fun file hfile ↦ mem_of_mem_cleanup hfile
  | writeFrame h264Buffer info fault =>
    cases h264Buffer with
    | none => exact h
    | some h264Buffer =>
      cases info with
      | none => exact h
      | some info =>
        have hprepared := h.prepareAppend now info.presentationTimeUs.toInt fault.openFails
        simp only [replayStep]
        rcases writeFrame_state s now h264Buffer info fault with
          hstate | ⟨inode, bytes, last, -, hstate⟩
        · rw [hstate]
          exact hprepared
        · rw [hstate]
          exact hprepared.write inode now bytes last
  | saveLastNSeconds seconds videoFormat environment =>
    simp only [replayStep, saveLastNSeconds]
    split_ifs
    · exact h
    · exact h
    all_goals exact namedStream_of_closed (closeCurrentSegment_currentOut s.buffer)
  | shutdown => exact namedStream_of_closed (closeCurrentSegment_currentOut s.buffer)

/-! ### The span of one frame -/

section Written

variable {s : ReplayState (List UInt8)} {now : ℕ} {h264Buffer : ByteBuffer} {info : BufferInfo}
  {fault : WriteFault}

/-- With a stream that is open, or whose file opens, one is open to append to. -/
theorem isSome_prepareAppend_iff {ptsUs : ℤ} {openFails : Bool} :
    (prepareAppend s now ptsUs openFails).buffer.currentOut.isSome ↔
      (rotationNeeded s.buffer ptsUs = true → openFails = false) := by
  cases hneeded : rotationNeeded s.buffer ptsUs with
  | false =>
    rw [prepareAppend_of_not_needed hneeded]
    simp only [rotationNeeded, Bool.or_eq_false_iff, Option.isNone_eq_false_iff] at hneeded
    simp [hneeded.1.1]
  | true =>
    cases openFails with
    | true => simp [(prepareAppend_of_openFails hneeded).2]
    | false => simp [(prepareAppend_of_needed hneeded).2.1]

/-- A frame is read when its bytes are there. -/
theorem exists_readFrame_iff :
    (∃ frame, readFrame h264Buffer info = .ok frame) ↔
      0 ≤ info.size.toInt ∧ info.size.toInt ≤ h264Buffer.remaining := by
  constructor
  · rintro ⟨⟨record, restored⟩, hread⟩
    obtain ⟨hlow, hhigh, -⟩ := readFrame_eq_ok_iff.mp hread
    exact ⟨hlow, hhigh⟩
  · rintro ⟨hlow, hhigh⟩
    have hdata : ((h264Buffer.content.drop h264Buffer.position).take
        info.size.toInt.toNat).length < 2 ^ 31 := by
      have hlt := info.size.toInt_lt
      rw [List.length_take]
      omega
    refine ⟨(⟨info.presentationTimeUs, info.flags, _, hdata⟩, h264Buffer), ?_⟩
    exact readFrame_eq_ok_iff.mpr ⟨hlow, hhigh, rfl, rfl, rfl, rfl⟩

theorem written_iff_appendsFrame :
    (writeFrame s now h264Buffer info fault).1 = .written ↔
      AppendsFrame s h264Buffer info fault := by
  have hopen := @isSome_prepareAppend_iff s now info.presentationTimeUs.toInt fault.openFails
  rw [prepareAppend] at hopen
  rw [AppendsFrame, ← and_assoc, ← exists_readFrame_iff, ← hopen]
  simp only [writeFrame]
  cases hout : (rotateSegmentIfNeeded
      { s with buffer := countFrame s.buffer info.presentationTimeUs.toInt } now
      info.presentationTimeUs.toInt fault.openFails).buffer.currentOut with
  | none => simp
  | some inode =>
    cases hread : readFrame h264Buffer info with
    | error exception => simp
    | ok frame =>
      cases hfault : fault.failsAfter with
      | none => simp
      | some count => cases count <;> simp

/-- The start of the segment that a frame is appended to. -/
def appendStart (buffer : ReplayBuffer) (ptsUs : ℤ) : ℤ :=
  if rotationNeeded buffer ptsUs then segmentStart buffer.segDurUs ptsUs
  else buffer.currentSegmentStartUs

theorem currentSegmentStartUs_prepareAppend {ptsUs : ℤ} {openFails : Bool}
    (hopens : rotationNeeded s.buffer ptsUs = true → openFails = false) :
    (prepareAppend s now ptsUs openFails).buffer.currentSegmentStartUs =
      appendStart s.buffer ptsUs := by
  unfold appendStart
  cases hneeded : rotationNeeded s.buffer ptsUs with
  | false =>
    rw [prepareAppend_of_not_needed hneeded]
    exact countFrame_currentSegmentStartUs _ _
  | true =>
    rw [hopens hneeded]
    exact (prepareAppend_of_needed hneeded).2.2

/-- A frame that is appended goes to the file named after that start. -/
theorem writesTo_of_written (h : NamedStream s)
    (hwritten : (writeFrame s now h264Buffer info fault).1 = .written) :
    WritesTo (writeFrame s now h264Buffer info fault).2.2
      (segmentNameForStart (appendStart s.buffer info.presentationTimeUs.toInt)) := by
  obtain ⟨-, -, -, hopens⟩ := written_iff_appendsFrame.mp hwritten
  have hafter := h.step ⟨now, .writeFrame (some h264Buffer) (some info) fault⟩
  have hsome := (@isSome_prepareAppend_iff s now _ _).mpr hopens
  rw [← @currentSegmentStartUs_prepareAppend s now _ _ hopens]
  simp only [replayStep] at hafter
  rcases writeFrame_state s now h264Buffer info fault with
    hstate | ⟨inode, bytes, last, -, hstate⟩
  · rw [hstate] at hafter ⊢
    exact hafter hsome
  · rw [hstate] at hafter ⊢
    exact hafter hsome

/-- A frame lies within one duration of that start exactly when it belongs to the segment. -/
theorem appendStart_span_iff {buffer : ReplayBuffer} {ptsUs : ℤ} (hpts : ptsUs < 2 ^ 63) :
    (appendStart buffer ptsUs ≤ ptsUs ∧
        ptsUs < appendStart buffer ptsUs + 1000 * buffer.segmentDurationMs) ↔
      InSegment buffer ptsUs := by
  have hdur := buffer.segDurUs_pos
  have hms : 1000 * buffer.segmentDurationMs = buffer.segDurUs := by
    rw [ReplayBuffer.segDurUs, Int.mul_comm]
  rw [hms]
  unfold appendStart InSegment
  cases hneeded : rotationNeeded buffer ptsUs with
  | true =>
    simp only [if_true]
    by_cases hsign : 0 ≤ ptsUs
    · have hspan := segmentStart_le_and_lt hdur hsign
      exact ⟨fun _ ↦ Or.inl hsign, fun _ ↦ hspan⟩
    · -- The start is the timestamp rounded up.
      have hdiv := Int.tmod_add_tdiv_mul ptsUs buffer.segDurUs
      have hmod := Int.tmod_nonneg buffer.segDurUs (by omega : 0 ≤ -ptsUs)
      rw [Int.neg_tmod] at hmod
      unfold segmentStart
      omega
  | false =>
    simp only [rotationNeeded, Bool.or_eq_false_iff, decide_eq_false_iff_not] at hneeded
    obtain ⟨⟨-, hstart⟩, hspan⟩ := hneeded
    simp only [Bool.false_eq_true, if_false]
    constructor
    · exact And.left
    · intro hle
      rw [wrapLong_of_mem_range (by omega) (by omega)] at hspan
      exact ⟨hle, by omega⟩

end Written

/-- Under the invariant, a call keeps the span if and only if it meets the condition. -/
theorem spanKept_iff {s : ReplayState (List UInt8)} (h : NamedStream s) (call : ReplayCall) :
    SpanKept s call ↔ StaysInSegment s call := by
  obtain ⟨now, op⟩ := call
  refine forall_congr' fun h264Buffer ↦ forall_congr' fun info ↦ forall_congr' fun fault ↦ ?_
  refine forall_congr' fun hop ↦ ?_
  subst hop
  rw [← written_iff_appendsFrame, ← appendStart_span_iff info.presentationTimeUs.toInt_lt]
  refine forall_congr' fun hwritten ↦ ?_
  have hfile := writesTo_of_written h hwritten
  constructor
  · rintro ⟨startUs, ⟨inode, -, hname, -⟩, hspan⟩
    obtain ⟨-, -, hfileName, -⟩ := hfile
    have hsame := segmentNameForStart_injective
      (Option.some.inj (hname.symm.trans hfileName))
    rwa [← hsame]
  · intro hspan
    exact ⟨_, hfile, hspan⟩

/-- The span of segments. Along any calls on a new buffer, over any directory, every frame that is
appended lies within one segment duration of the start that its file is named after, if and only if
every call that appends a frame stays in a segment. -/
theorem segment_span_iff {maxSeconds segmentDurationMs : ℤ} {dir : Directory (List UInt8)}
    {start : ℕ} {fresh : ReplayState (List UInt8)}
    (hfresh : ReplayBuffer.new maxSeconds segmentDurationMs dir start true = .ok fresh)
    (calls : List ReplayCall) :
    Meets replayStep SpanKept fresh calls ↔ Meets replayStep StaysInSegment fresh calls := by
  have hclosed : fresh.buffer.currentOut = none := by
    obtain rfl := Except.ok.inj hfresh
    rfl
  exact @meets_iff_of_inv _ _ replayStep StaysInSegment (fun _ _ ↦ True) NamedStream SpanKept _ _
    (fun s call h _ _ ↦ h.step call) (fun s call h _ ↦ spanKept_iff h call)
    (namedStream_of_closed hclosed) (meets_of_forall fun _ _ ↦ trivial)

/-- A timestamp that jumps forward and one in the same segment. -/
theorem segment_span_iff_forward :
    ∃ fresh, ReplayBuffer.new 120 1000 FileStore.empty 0 true = .ok fresh ∧
      (Meets replayStep SpanKept fresh [.plainWrite 0 0 [1], .plainWrite 10 5000000 [2],
          .plainWrite 20 5500000 [3]] ↔
        Meets replayStep StaysInSegment fresh [.plainWrite 0 0 [1], .plainWrite 10 5000000 [2],
          .plainWrite 20 5500000 [3]]) :=
  ⟨_, rfl, segment_span_iff rfl _⟩

/-- After an encoder restart the timestamp goes back to zero: the frame is appended to the segment
that starts at five seconds. -/
theorem not_spanKept_restart :
    ∃ fresh, ReplayBuffer.new 120 1000 FileStore.empty 0 true = .ok fresh ∧
      ¬ Meets replayStep SpanKept fresh [.plainWrite 0 5000000 [1], .plainWrite 10 0 [2]] := by
  refine ⟨_, rfl, fun h ↦ ?_⟩
  obtain ⟨startUs, ⟨inode, -, hname, -⟩, hle, -⟩ :=
    h.2.1 _ _ _ rfl (by decide)
  have hstart := segmentNameForStart_injective
    (Option.some.inj (hname.symm.trans (by decide :
      _ = some (segmentNameForStart 5000000))))
  rw [hstart] at hle
  exact absurd hle (by decide)

end UvcRtmpStream.Replay
