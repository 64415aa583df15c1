import UvcRtmpStream.Replay.DamagedSegments

/-!
# Appends that fail half-way

A record is appended by four writes, any of which may throw after some of its bytes have reached the
file. The stream stays open, so that the next frame is appended behind them, and nothing marks where
a record begins. Where a record breaks off inside its header, the reader throws, and reads no
further file.

A frame that was written to the end is filed under the inode of the file it went to
(`completedFrames`). Reading files one after the other gives exactly these frames, each file its own
in order, and reaches the end of the last one (`ReadsBack`), as long as no frame is appended behind
a torn record, and a failed append leaves nothing that reads as a record or makes the reader throw
(`AppendsSafely`). The invariant is the statement itself, with the inodes in use (`Filed`).
-/

set_option autoImplicit false
set_option relaxedAutoImplicit false

namespace UvcRtmpStream.Replay

open UvcRtmpStream.Foundations UvcRtmpStream.Platform

/-! ### Completed frames -/

/-- A frame, with the inode of the file that it was written to. -/
structure FiledFrame where
  inode : ℕ
  record : SegmentRecord

/-- The frame of a call, when it is a `writeFrame` that writes its record to the end. -/
def completedFrame (s : ReplayState (List UInt8)) (call : ReplayCall) : Option FiledFrame :=
  match call.op with
  | .writeFrame (some h264Buffer) (some info) fault =>
    let written := writeFrame s call.now h264Buffer info fault
    if written.1 = .written then
      written.2.2.buffer.currentOut.bind fun inode ↦
        (readFrame h264Buffer info).toOption.map fun read ↦ ⟨inode, read.1⟩
    else none
  | _ => none

/-- The frames that are written to the end along the calls. -/
def completedFrames (s : ReplayState (List UInt8)) : List ReplayCall → List FiledFrame
  | [] => []
  | call :: rest => (completedFrame s call).toList ++ completedFrames (replayStep s call) rest

/-- The frames of one file, in the order they were written. -/
def framesOf (done : List FiledFrame) (inode : ℕ) : List SegmentRecord :=
  (done.filter fun frame ↦ frame.inode = inode).map FiledFrame.record

theorem framesOf_append (first second : List FiledFrame) (inode : ℕ) :
    framesOf (first ++ second) inode = framesOf first inode ++ framesOf second inode := by
  rw [framesOf, List.filter_append, List.map_append]
  rfl

/-- The reading loops of `saveLastNSeconds` on any files of the directory, with files that open and
a muxer that accepts every sample, give exactly the frames of each file, in order, and reach the end
of the last. -/
def ReadsBack (s : ReplayState (List UInt8)) (done : List FiledFrame) : Prop :=
  ∀ environment : SaveEnvironment, (∀ n, environment.rejectsSample n = false) →
    (∀ name, environment.unreadable name = false) →
      ∀ segments : List (SegmentFile (List UInt8)), (∀ file ∈ segments, file ∈ s.dir.files) →
        muxSegments environment segments [] =
          ((segments.flatMap fun file ↦ framesOf done file.inode).map SegmentRecord.toSample, none)

/-- What the reading loop makes of the contents of a file: the records that it delivers, and the
exception that ends all loops. -/
def segmentReading (content : List UInt8) : List SegmentRecord × Option JavaException :=
  ((segmentFraming.readAll content.length content).1,
    (segmentFraming.readAll content.length content).2.bind ReadFailure.thrown)

theorem segmentReading_encodeAll_append (records : List SegmentRecord) (tail : List UInt8) :
    segmentReading (segmentFraming.encodeAll records ++ tail) =
      (records ++ (segmentReading tail).1, (segmentReading tail).2) := by
  rw [segmentReading, segmentFraming.readAll_length_encodeAll_append]
  rfl

/-- To a muxer that accepts every sample, files whose reading does not throw are passed on whole. -/
theorem muxSegments_of_quiet {environment : SaveEnvironment}
    (haccepts : ∀ n, environment.rejectsSample n = false)
    (hreadable : ∀ name, environment.unreadable name = false)
    {segments : List (SegmentFile (List UInt8))} {records : ℕ → List SegmentRecord}
    (hquiet : ∀ file ∈ segments, segmentReading file.content = (records file.inode, none))
    (passed : List Sample) :
    muxSegments environment segments passed =
      (passed ++ (segments.flatMap fun file ↦ records file.inode).map SegmentRecord.toSample,
        none) := by
  induction segments generalizing passed with
  | nil => simp [muxSegments]
  | cons segment rest ih =>
    obtain ⟨hrecords, hending⟩ := Prod.mk.inj (hquiet segment List.mem_cons_self)
    have hrest := ih (fun file hfile ↦ hquiet file (List.mem_cons_of_mem _ hfile))
      (passed ++ (records segment.inode).map SegmentRecord.toSample)
    simp only [muxSegments, hreadable, Bool.false_eq_true, if_false,
      muxSegment_of_accepts haccepts, hrecords, hending]
    rw [hrest, List.flatMap_cons, List.map_append, List.append_assoc]

/-! ### Safe appends -/

/-- A record is appended only behind complete records, and an append that fails leaves, with what
earlier failures have left, no complete record and nothing that makes the reader throw. -/
def SafeAppend (content : List UInt8) (record : SegmentRecord) : Option ℕ → Prop
  | none => segmentFraming.leftover content = []
  | some count =>
    segmentReading (segmentFraming.leftover content ++ (encodeRecord record).take count) =
      ([], none)

instance decidableSafeAppend (content : List UInt8) (record : SegmentRecord) :
    (failsAfter : Option ℕ) → Decidable (SafeAppend content record failsAfter)
  | none => inferInstanceAs (Decidable (segmentFraming.leftover content = []))
  | some count => inferInstanceAs (Decidable
    (segmentReading (segmentFraming.leftover content ++ (encodeRecord record).take count) =
      ([], none)))

/-- The append of a `writeFrame` is safe, in a file that it goes on with and in a new one. Where the
file of a rotation does not open, nothing is appended. -/
def AppendsSafely (s : ReplayState (List UInt8)) (call : ReplayCall) : Prop :=
  match call.op with
  | .writeFrame (some h264Buffer) (some info) fault =>
    (rotationNeeded s.buffer info.presentationTimeUs.toInt = true → fault.openFails = false) →
      ∀ read ∈ (readFrame h264Buffer info).toOption,
        (MakesSegment s info.presentationTimeUs.toInt → SafeAppend [] read.1 fault.failsAfter) ∧
          ∀ file ∈ s.dir.files, IsAppendTarget s call.now info.presentationTimeUs.toInt file →
            SafeAppend file.content read.1 fault.failsAfter
  | _ => True

instance decidableAppendsSafely (s : ReplayState (List UInt8)) :
    (call : ReplayCall) → Decidable (AppendsSafely s call)
  | ⟨now, .writeFrame (some h264Buffer) (some info) fault⟩ =>
    inferInstanceAs (Decidable
      ((rotationNeeded s.buffer info.presentationTimeUs.toInt = true → fault.openFails = false) →
        ∀ read ∈ (readFrame h264Buffer info).toOption,
          (MakesSegment s info.presentationTimeUs.toInt → SafeAppend [] read.1 fault.failsAfter) ∧
            ∀ file ∈ s.dir.files, IsAppendTarget s now info.presentationTimeUs.toInt file →
              SafeAppend file.content read.1 fault.failsAfter))
  | ⟨_, .writeFrame none _ _⟩ | ⟨_, .writeFrame (some _) none _⟩ | ⟨_, .construct _ _ _⟩
  | ⟨_, .setMaxSeconds _⟩ | ⟨_, .saveLastNSeconds _ _ _⟩ | ⟨_, .shutdown⟩ => instDecidableTrue

/-- The bytes that an append gets into the file. -/
def appendedBytes (record : SegmentRecord) : Option ℕ → List UInt8
  | none => encodeRecord record
  | some count => (encodeRecord record).take count

/-- A safe append adds its record to those of the file if it completes, and otherwise none, and the
file is then read without an exception. -/
theorem segmentReading_appendedBytes {content : List UInt8} {record : SegmentRecord}
    {failsAfter : Option ℕ} (h : SafeAppend content record failsAfter) :
    segmentReading (content ++ appendedBytes record failsAfter) =
      ((segmentReading content).1 ++ if failsAfter = none then [record] else [], none) := by
  have hcontent := segmentFraming.encodeAll_decoded_append_leftover content
  cases failsAfter with
  | none =>
    have hwhole : segmentFraming.leftover content = [] := h
    rw [hwhole, List.append_nil] at hcontent
    have hbytes : content ++ encodeRecord record =
        segmentFraming.encodeAll (segmentFraming.decoded content ++ [record]) ++ [] := by
      rw [Framing.encodeAll_append, hcontent, Framing.encodeAll_cons, Framing.encodeAll_nil,
        List.append_nil, List.append_nil]
      rfl
    rw [if_pos rfl, appendedBytes, hbytes, segmentReading_encodeAll_append]
    simp [segmentReading, Framing.decoded]
  | some count =>
    have hbytes : content ++ (encodeRecord record).take count =
        segmentFraming.encodeAll (segmentFraming.decoded content) ++
          (segmentFraming.leftover content ++ (encodeRecord record).take count) := by
      rw [← List.append_assoc, hcontent]
    have hnothing : segmentReading
        (segmentFraming.leftover content ++ (encodeRecord record).take count) = ([], none) := h
    rw [if_neg (Option.some_ne_none count), appendedBytes, hbytes,
      segmentReading_encodeAll_append, hnothing]
    rfl

/-! ### The files hold what was filed under them -/

/-- The files of a directory hold the frames that are filed under their inodes, and are read without
an exception. -/
structure Filed (dir : Directory (List UInt8)) (done : List FiledFrame) : Prop where
  reading : ∀ file ∈ dir.files, segmentReading file.content = (framesOf done file.inode, none)
  inode_lt : ∀ frame ∈ done, frame.inode < dir.nextInode

section Filed

variable {dir : Directory (List UInt8)} {done : List FiledFrame}

theorem Filed.cleanup (h : Filed dir done) (maxSeconds : ℤ) (now : ℕ) :
    Filed (cleanupOldSegments maxSeconds dir now) done := by
  rw [cleanupOldSegments_eq_keep]
  exact ⟨fun file hfile ↦ h.reading file (List.mem_filter.mp hfile).1, h.inode_lt⟩

/-- Nothing is filed under the inode of a new file. -/
theorem framesOf_nextInode (h : Filed dir done) : framesOf done dir.nextInode = [] := by
  rw [framesOf, List.filter_eq_nil_iff.mpr, List.map_nil]
  intro frame hframe hinode
  exact (h.inode_lt frame hframe).ne (of_decide_eq_true hinode)

theorem Filed.openAppend (h : Filed dir done) (name : String) (now : ℕ) :
    Filed (dir.openAppend name ∅ now).1 done := by
  constructor
  · intro file hfile
    rcases dir.eq_of_mem_files_openAppend hfile with hold | ⟨rfl, -⟩
    · exact h.reading file hold
    · rw [framesOf_nextInode h]
      rfl
  · intro frame hframe
    exact (h.inode_lt frame hframe).trans_le (dir.nextInode_le_openAppend name ∅ now)

/-- Bytes written through an inode whose file they add some records to. -/
theorem Filed.write (h : Filed dir done) {inode : ℕ} (hinode : inode < dir.nextInode)
    {bytes : List UInt8} {added : List SegmentRecord}
    (hadded : ∀ file ∈ dir.files, file.inode = inode →
      segmentReading (file.content ++ bytes) = ((segmentReading file.content).1 ++ added, none))
    (now : ℕ) :
    Filed (dir.write inode (· ++ bytes) now) (done ++ added.map (FiledFrame.mk inode)) := by
  have hframes : ∀ other, framesOf (added.map (FiledFrame.mk inode)) other =
      if inode = other then added else [] := by
    intro other
    rw [framesOf, List.filter_map, List.map_map]
    split_ifs with hsame
    · simp [hsame, Function.comp_def]
    · simp [hsame, Function.comp_def]
  constructor
  · intro file hfile
    obtain ⟨old, hold, rfl⟩ := List.mem_map.mp hfile
    have hold' := h.reading old hold
    rw [FileStore.writeFile_inode, framesOf_append, hframes]
    unfold FileStore.writeFile
    split_ifs with hwritten hother hother
    · rw [hadded old hold hwritten, hold']
    · exact absurd hwritten.symm hother
    · exact absurd hother.symm hwritten
    · rw [hold', List.append_nil]
  · intro frame hframe
    rcases List.mem_append.mp hframe with hold | hnew
    · exact h.inode_lt frame hold
    · obtain ⟨record, -, rfl⟩ := List.mem_map.mp hnew
      exact hinode

end Filed

/-- The state of a run: the files hold what was filed, and the stream is on an inode in use. -/
structure FiledState (s : ReplayState (List UInt8)) (done : List FiledFrame) : Prop where
  filed : Filed s.dir done
  open_lt : ∀ inode ∈ s.buffer.currentOut, inode < s.dir.nextInode

section FiledState

variable {s : ReplayState (List UInt8)} {done : List FiledFrame}

theorem nextInode_cleanupOldSegments {κ : Type*} (maxSeconds : ℤ) (dir : Directory κ) (now : ℕ) :
    (cleanupOldSegments maxSeconds dir now).nextInode = dir.nextInode := by
  rw [cleanupOldSegments_eq_keep]
  rfl

theorem FiledState.prepared (h : FiledState s done) (now : ℕ) (ptsUs : ℤ) (openFails : Bool) :
    FiledState (prepareAppend s now ptsUs openFails) done := by
  unfold prepareAppend rotateSegmentIfNeeded
  split_ifs
  · exact ⟨h.filed.cleanup _ now, fun inode hinode ↦ absurd hinode (Option.not_mem_none inode)⟩
  · refine ⟨(h.filed.openAppend _ now).cleanup _ now, fun inode hinode ↦ ?_⟩
    obtain rfl := Option.some.inj hinode
    rw [nextInode_cleanupOldSegments]
    exact s.dir.snd_openAppend_lt _ ∅ now
  · refine ⟨h.filed, fun inode hinode ↦ h.open_lt inode ?_⟩
    rwa [countFrame_currentOut] at hinode

/-- `writeFrame` adds the record of a frame that completes to the file that it goes to. -/
theorem FiledState.written (h : FiledState s done) {now : ℕ} {h264Buffer : ByteBuffer}
    {info : BufferInfo} {fault : WriteFault}
    (hsafe : AppendsSafely s ⟨now, .writeFrame (some h264Buffer) (some info) fault⟩) :
    FiledState (writeFrame s now h264Buffer info fault).2.2
      (done ++
        (completedFrame s ⟨now, .writeFrame (some h264Buffer) (some info) fault⟩).toList) := by
  have hprepared := h.prepared now info.presentationTimeUs.toInt fault.openFails
  cases hout : (prepareAppend s now info.presentationTimeUs.toInt
      fault.openFails).buffer.currentOut with
  | none =>
    have hrun : writeFrame s now h264Buffer info fault = (.notOpen, h264Buffer,
        prepareAppend s now info.presentationTimeUs.toInt fault.openFails) := by
      rw [prepareAppend] at hout ⊢
      simp only [writeFrame, hout]
    simp only [completedFrame, hrun]
    simpa using hprepared
  | some inode =>
    cases hread : readFrame h264Buffer info with
    | error exception =>
      have hrun : writeFrame s now h264Buffer info fault = (.threw exception, h264Buffer,
          prepareAppend s now info.presentationTimeUs.toInt fault.openFails) := by
        rw [prepareAppend] at hout ⊢
        simp only [writeFrame, hout, hread]
      simp only [completedFrame, hrun]
      simpa using hprepared
    | ok read =>
      obtain ⟨record, restored⟩ := read
      have hopens : rotationNeeded s.buffer info.presentationTimeUs.toInt = true →
          fault.openFails = false := by
        intro hneeded
        by_contra hfails
        rw [Bool.not_eq_false] at hfails
        have hnone := (@prepareAppend_of_openFails _ _ s now _ hneeded).2
        rw [← hfails, hout] at hnone
        cases hnone
      obtain ⟨hnew, htarget⟩ := hsafe hopens (record, restored) (by rw [hread]; rfl)
      have hadded : ∀ file ∈ (prepareAppend s now info.presentationTimeUs.toInt
          fault.openFails).dir.files, file.inode = inode →
            segmentReading (file.content ++ appendedBytes record fault.failsAfter) =
              ((segmentReading file.content).1 ++
                if fault.failsAfter = none then [record] else [], none) := by
        intro file hfile hinode
        refine segmentReading_appendedBytes ?_
        rcases mem_prepareAppend hfile with ⟨hold, hopen⟩ | ⟨hempty, hmakes⟩
        · exact htarget file hold (hopen (hout.trans (congrArg some hinode.symm)))
        · rw [hempty]
          exact hnew hmakes
      have hwritten := hprepared.filed.write (hprepared.open_lt inode hout) hadded now
      rw [prepareAppend] at hout hprepared hwritten
      cases hfails : fault.failsAfter with
      | none =>
        rw [hfails] at hwritten
        simp only [completedFrame, writeFrame, hout, hread, hfails]
        exact ⟨hwritten, fun other hother ↦ hprepared.open_lt other (hout.trans hother)⟩
      | some count =>
        rw [hfails, if_neg (Option.some_ne_none count)] at hwritten
        cases count with
        | zero =>
          simp only [completedFrame, writeFrame, hout, hread, hfails]
          simpa using hprepared
        | succ count =>
          simp only [completedFrame, writeFrame, hout, hread, hfails]
          exact ⟨hwritten, fun other hother ↦ hprepared.open_lt other hother⟩

theorem FiledState.closed (h : FiledState s done) :
    FiledState { s with buffer := closeCurrentSegment s.buffer } done := by
  refine ⟨h.filed, fun inode hinode ↦ ?_⟩
  rw [closeCurrentSegment_currentOut] at hinode
  exact absurd hinode (Option.not_mem_none inode)

/-- One call whose append is safe. -/
theorem FiledState.step (h : FiledState s done) {call : ReplayCall} (hsafe : AppendsSafely s call) :
    FiledState (replayStep s call) (done ++ (completedFrame s call).toList) := by
  obtain ⟨now, op⟩ := call
  cases op with
  | construct maxSeconds segmentDurationMs dirReady =>
    rw [completedFrame, Option.toList_none, List.append_nil]
    cases dirReady with
    | false => exact h
    | true =>
      exact ⟨h.filed.cleanup _ now, fun inode hinode ↦ absurd hinode (Option.not_mem_none inode)⟩
  | setMaxSeconds seconds =>
    rw [completedFrame, Option.toList_none, List.append_nil]
    refine ⟨h.filed.cleanup _ now, fun inode hinode ↦ ?_⟩
    have hnext := nextInode_cleanupOldSegments (max 1 seconds) s.dir now
    exact hnext.symm ▸ h.open_lt inode hinode
  | writeFrame h264Buffer info fault =>
    cases h264Buffer with
    | none =>
      rw [completedFrame, Option.toList_none, List.append_nil]
      exact h
    | some h264Buffer =>
      cases info with
      | none =>
        rw [completedFrame, Option.toList_none, List.append_nil]
        exact h
      | some info => exact h.written hsafe
  | saveLastNSeconds seconds videoFormat environment =>
    rw [completedFrame, Option.toList_none, List.append_nil]
    simp only [replayStep, saveLastNSeconds]
    split_ifs
    · exact h
    · exact h
    · exact h.closed
    · exact h.closed
    · exact h.closed
  | shutdown =>
    rw [completedFrame, Option.toList_none, List.append_nil]
    exact ⟨h.filed, h.closed.open_lt⟩

end FiledState

/-- Calls whose appends are safe. -/
theorem FiledState.run {calls : List ReplayCall} {s : ReplayState (List UInt8)}
    {done : List FiledFrame} (h : FiledState s done)
    (hsafe : Meets replayStep AppendsSafely s calls) :
    FiledState (replayRun s calls) (done ++ completedFrames s calls) := by
  induction calls generalizing s done with
  | nil => simpa [completedFrames] using h
  | cons call rest ih =>
    rw [completedFrames, ← List.append_assoc]
    exact ih (h.step hsafe.1) hsafe.2

theorem FiledState.readsBack {s : ReplayState (List UInt8)} {done : List FiledFrame}
    (h : FiledState s done) : ReadsBack s done := by
  intro environment haccepts hreadable segments hsegments
  have hmux := @muxSegments_of_quiet environment haccepts hreadable segments (framesOf done)
    (fun file hfile ↦ h.filed.reading file (hsegments file hfile)) []
  rwa [List.nil_append] at hmux

/-- Along calls on a new buffer whose appends are safe, whatever else fails, the reading loops give
for any segment files exactly the frames whose `writeFrame` completed in them, in order. -/
theorem appends_read_back {maxSeconds segmentDurationMs : ℤ} {start : ℕ}
    {fresh : ReplayState (List UInt8)}
    (hfresh : ReplayBuffer.new maxSeconds segmentDurationMs FileStore.empty start true = .ok fresh)
    {calls : List ReplayCall} (hsafe : Meets replayStep AppendsSafely fresh calls) :
    ReadsBack (replayRun fresh calls) (completedFrames fresh calls) := by
  have hempty : Filed FileStore.empty [] :=
    ⟨fun file hfile ↦ absurd hfile List.not_mem_nil, fun frame hframe ↦
      absurd hframe List.not_mem_nil⟩
  have hstart : FiledState fresh [] := by
    obtain rfl := Except.ok.inj hfresh
    exact ⟨hempty.cleanup (max 1 maxSeconds) start,
      fun inode hinode ↦ absurd hinode (Option.not_mem_none inode)⟩
  exact (hstart.run hsafe).readsBack

/-- An append that fails before its first byte, one that completes, one that leaves a header without
its data, and one whose file does not open. -/
theorem appends_read_back_failures :
    ∃ fresh, ReplayBuffer.new 120 1000 FileStore.empty 0 true = .ok fresh ∧
      let calls := [ReplayCall.tornWrite 0 0 [1] 0, .plainWrite 100 100000 [2],
        .tornWrite 200 200000 [3] 16,
        ⟨1200, .writeFrame (some (ByteBuffer.wrap [4])) (some ⟨0, 1, 1200000, 0⟩) ⟨true, some 8⟩⟩]
      ReadsBack (replayRun fresh calls) (completedFrames fresh calls) :=
  ⟨_, rfl, appends_read_back rfl (by decide)⟩

/-- A frame behind a torn record is lost. -/
theorem not_readsBack_behind_torn :
    ∃ fresh, ReplayBuffer.new 120 1000 FileStore.empty 0 true = .ok fresh ∧
      let calls := [ReplayCall.tornWrite 0 0 [1] 8, .plainWrite 100 100000 [2]]
      ¬ ReadsBack (replayRun fresh calls) (completedFrames fresh calls) := by
  refine ⟨_, rfl, fun h ↦ ?_⟩
  have hread := h (SaveEnvironment.faultless id fun _ ↦ List.Perm.refl _) (fun _ ↦ rfl)
    (fun _ ↦ rfl) _ fun _ hfile ↦ hfile
  revert hread
  decide

end UvcRtmpStream.Replay
