import UvcRtmpStream.Replay.ReplayBufferSpec

/-!
# How long a frame stays on disk

A frame that `writeFrame` has written to a segment file is meant to stay in the directory for as
long as the retention time: until then, no cleanup deletes a file that was modified when the frame
was written or later (`RetainsFrames`).

The cleanup inside `rotateSegmentIfNeeded` runs after the segment file has been opened for appending
and before anything is appended. Where the file exists and was last modified more than the retention
time ago, the cleanup deletes it under the open stream, and the frame, with all further frames of
the segment, goes to a file that is no longer in the directory (`writeFrame_lost`). `TargetStays`
says when this does not happen, in terms of the state before the call. It is exact for a single
call (`exists_target_iff`), and runs whose `writeFrame`s meet it retain every frame
(`retains_frames`).
-/

set_option autoImplicit false
set_option relaxedAutoImplicit false

namespace UvcRtmpStream.Replay

open UvcRtmpStream.Foundations UvcRtmpStream.Platform

variable {s : ReplayState (List UInt8)}

/-- A call that writes a record to the end. -/
def AcceptsFrame (s : ReplayState (List UInt8)) (call : ReplayCall) (record : SegmentRecord) :
    Prop :=
  match call.op with
  | .writeFrame (some h264Buffer) (some info) fault =>
    (writeFrame s call.now h264Buffer info fault).1 = .written ∧
      ∃ restored, readFrame h264Buffer info = .ok (record, restored)
  | _ => False

/-- Some file of the directory contains a record and was modified at a time or later. -/
def HoldsSince (dir : Directory (List UInt8)) (record : SegmentRecord) (time : ℕ) : Prop :=
  ∃ file ∈ dir.files, encodeRecord record <:+: file.content ∧ time ≤ file.lastModified

/-- No frame is lost before its time along the calls. The file that a frame was written to is then
in the directory, and as long as no call was made more than `kept` seconds after the frame, `kept`
being at most the retention time in force at any moment since, some file of the directory contains
the frame. -/
def RetainsFrames (s : ReplayState (List UInt8)) (calls : List ReplayCall) : Prop :=
  ∀ before call after, calls = before ++ call :: after →
    ∀ record, AcceptsFrame (replayRun s before) call record →
      (∃ file ∈ (replayRun s (before ++ [call])).dir.files,
        (replayRun s (before ++ [call])).buffer.currentOut = some file.inode) ∧
      ∀ kept : ℤ,
        Throughout replayStep (fun s ↦ kept ≤ s.buffer.maxSeconds)
          (replayRun s (before ++ [call])) after →
        (∀ later ∈ after, (later.now : ℤ) ≤ call.now + kept * 1000) →
        ∃ file ∈ (replayRun s calls).dir.files, encodeRecord record <:+: file.content

/-- The file that a `writeFrame` at a timestamp appends to stays in the directory. The segment file
that is open is still listed; or, when the segment is rotated, the file of the timestamp's segment
does not exist yet or is not expired. -/
def TargetStays (s : ReplayState (List UInt8)) (now : ℕ) (ptsUs : ℤ) : Prop :=
  if rotationNeeded s.buffer ptsUs then
    ∀ file ∈ s.dir.files, file.name = s.buffer.rotationName ptsUs →
      expired (s.buffer.maxSeconds * 1000) now file = false
  else ∃ file ∈ s.dir.files, s.buffer.currentOut = some file.inode

/-- The condition on a call: the target of a `writeFrame` stays in the directory. -/
def KeepsTarget (s : ReplayState (List UInt8)) (call : ReplayCall) : Prop :=
  match call.op with
  | .writeFrame (some _) (some info) _ => TargetStays s call.now info.presentationTimeUs.toInt
  | _ => True

instance (now : ℕ) (ptsUs : ℤ) : Decidable (TargetStays s now ptsUs) := by
  unfold TargetStays
  infer_instance

instance (s : ReplayState (List UInt8)) : (call : ReplayCall) → Decidable (KeepsTarget s call)
  | ⟨now, .writeFrame (some _) (some info) _⟩ =>
    inferInstanceAs (Decidable (TargetStays s now info.presentationTimeUs.toInt))
  | ⟨_, .writeFrame none _ _⟩ | ⟨_, .writeFrame (some _) none _⟩ | ⟨_, .construct _ _ _⟩
  | ⟨_, .setMaxSeconds _⟩ | ⟨_, .saveLastNSeconds _ _ _⟩ | ⟨_, .shutdown⟩ => instDecidableTrue

/-! ### Where a frame goes -/

/-- The stream that `writeFrame` appends to is on a file of the directory exactly when the target
stays. -/
theorem exists_target_iff {now : ℕ} {ptsUs : ℤ} :
    (∃ file ∈ (prepareAppend s now ptsUs false).dir.files,
      (prepareAppend s now ptsUs false).buffer.currentOut = some file.inode) ↔
        TargetStays s now ptsUs := by
  unfold TargetStays
  cases hneeded : rotationNeeded s.buffer ptsUs with
  | false => simp [prepareAppend_of_not_needed hneeded]
  | true =>
    obtain ⟨hdir, hout, -⟩ := @prepareAppend_of_needed _ _ s now ptsUs hneeded
    rw [hdir, hout, if_pos rfl]
    simp only [mem_cleanupOldSegments_iff, Option.some.injEq]
    cases hlookup : s.dir.lookup (s.buffer.rotationName ptsUs) with
    | some file =>
      obtain ⟨hfile, hname⟩ := s.dir.lookup_eq_some_iff.mp hlookup
      rw [FileStore.openAppend_of_some _ hlookup]
      constructor
      · rintro ⟨target, ⟨htarget, hlive⟩, hinode⟩ other hother hotherName
        have heq : other = target := by
          rw [s.dir.eq_of_name_eq hother hfile (hotherName.trans hname.symm)]
          exact s.dir.eq_of_inode_eq hfile htarget hinode
        rw [heq, expired_eq_false_iff]
        exact hlive
      · intro hstays
        exact ⟨file, ⟨hfile, expired_eq_false_iff.mp (hstays file hfile hname)⟩, rfl⟩
    | none =>
      have hfree := s.dir.lookup_eq_none_iff.mp hlookup
      rw [FileStore.openAppend_of_none _ hlookup]
      refine iff_of_true ?_ fun file hfile hname ↦ absurd hname (hfree file hfile)
      refine ⟨⟨s.dir.nextInode, s.buffer.rotationName ptsUs, ∅, now⟩,
        ⟨List.mem_append_right _ (List.mem_singleton_self _), ?_⟩, rfl⟩
      have hmax := s.buffer.one_le_maxSeconds
      simp only
      omega

/-- A frame written while the target does not stay reaches no file of the directory. -/
theorem writeFrame_lost {now : ℕ} {h264Buffer : ByteBuffer} {info : BufferInfo}
    {fault : WriteFault} (hwritten : (writeFrame s now h264Buffer info fault).1 = .written)
    {record : SegmentRecord} {restored : ByteBuffer}
    (hread : readFrame h264Buffer info = .ok (record, restored))
    (hlost : ¬ TargetStays s now info.presentationTimeUs.toInt) :
    (writeFrame s now h264Buffer info fault).2.2.dir =
      (prepareAppend s now info.presentationTimeUs.toInt false).dir := by
  obtain ⟨inode, hout, hafter⟩ := writeFrame_of_written hwritten hread
  rw [hafter]
  refine FileStore.write_eq_self_of_unlinked _ (fun file hfile hinode ↦ hlost ?_) _ now
  rw [← exists_target_iff]
  exact ⟨file, hfile, by rw [hout, hinode]⟩

/-- A frame written while the target stays is in a file of the directory, stamped with the time of
the call, and the stream stays open on that file. -/
theorem writeFrame_holds {now : ℕ} {h264Buffer : ByteBuffer} {info : BufferInfo}
    {fault : WriteFault} (hwritten : (writeFrame s now h264Buffer info fault).1 = .written)
    {record : SegmentRecord} {restored : ByteBuffer}
    (hread : readFrame h264Buffer info = .ok (record, restored))
    (hstays : TargetStays s now info.presentationTimeUs.toInt) :
    (∃ file ∈ (writeFrame s now h264Buffer info fault).2.2.dir.files,
      (writeFrame s now h264Buffer info fault).2.2.buffer.currentOut = some file.inode) ∧
      HoldsSince (writeFrame s now h264Buffer info fault).2.2.dir record now := by
  obtain ⟨inode, hout, hafter⟩ := writeFrame_of_written hwritten hread
  obtain ⟨target, htarget, hopen⟩ := exists_target_iff.mpr hstays
  obtain rfl : inode = target.inode := Option.some.inj (hout.symm.trans hopen)
  rw [hafter]
  have hmem := FileStore.mem_files_write _ htarget target.inode (· ++ encodeRecord record) now
  refine ⟨⟨_, hmem, by simpa using hout⟩, _, hmem, ?_, ?_⟩
  · rw [FileStore.writeFile, if_pos rfl]
    exact List.infix_append_of_infix_right List.infix_rfl
  · rw [FileStore.writeFile, if_pos rfl]

/-! ### What keeps a frame in the directory -/

section Holds

variable {dir : Directory (List UInt8)} {record : SegmentRecord} {time : ℕ}

/-- A cleanup within the retention time of a modification leaves the file. -/
theorem HoldsSince.cleanup (h : HoldsSince dir record time) {maxSeconds : ℤ} {now : ℕ}
    (hnow : (now : ℤ) ≤ time + maxSeconds * 1000) :
    HoldsSince (cleanupOldSegments maxSeconds dir now) record time := by
  obtain ⟨file, hfile, hrecord, htime⟩ := h
  exact ⟨file, mem_cleanupOldSegments_iff.mpr ⟨hfile, by omega⟩, hrecord, htime⟩

theorem HoldsSince.openAppend (h : HoldsSince dir record time) (name : String) (now : ℕ) :
    HoldsSince (dir.openAppend name ∅ now).1 record time := by
  obtain ⟨file, hfile, hkept⟩ := h
  exact ⟨file, dir.mem_files_openAppend hfile name ∅ now, hkept⟩

/-- Appending to a file keeps what is in it and stamps it anew. -/
theorem HoldsSince.append (h : HoldsSince dir record time) (inode : ℕ) (bytes : List UInt8)
    {now : ℕ} (hnow : time ≤ now) :
    HoldsSince (dir.write inode (· ++ bytes) now) record time := by
  obtain ⟨file, hfile, hrecord, htime⟩ := h
  refine ⟨_, dir.mem_files_write hfile inode _ now, ?_, ?_⟩
  · unfold FileStore.writeFile
    split
    · exact List.infix_append_of_infix_left hrecord
    · exact hrecord
  · unfold FileStore.writeFile
    split
    · exact hnow
    · exact htime

theorem HoldsSince.prepareAppend (h : HoldsSince s.dir record time) {now : ℕ} {ptsUs : ℤ}
    (hnow : (now : ℤ) ≤ time + s.buffer.maxSeconds * 1000) (openFails : Bool) :
    HoldsSince (prepareAppend s now ptsUs openFails).dir record time := by
  unfold Replay.prepareAppend rotateSegmentIfNeeded
  split_ifs
  · exact h.cleanup (by simpa using hnow)
  · exact (h.openAppend _ now).cleanup (by simpa using hnow)
  · exact h

/-- The step lemma: a call within the retention time, before and after which it is at least `kept`
seconds, leaves a frame in the directory. -/
theorem HoldsSince.step (h : HoldsSince s.dir record time) {call : ReplayCall} {kept : ℤ}
    (hkept : kept ≤ (replayStep s call).buffer.maxSeconds) (hlater : time ≤ call.now)
    (hnow : (call.now : ℤ) ≤ time + kept * 1000) :
    HoldsSince (replayStep s call).dir record time := by
  obtain ⟨now, op⟩ := call
  simp only at hlater hnow
  cases op with
  | construct maxSeconds segmentDurationMs dirReady =>
    cases dirReady with
    | false => exact h
    | true =>
      have hmax : kept ≤ max 1 maxSeconds := hkept
      have hdeadline : (now : ℤ) ≤ time + max 1 maxSeconds * 1000 := by omega
      exact h.cleanup hdeadline
  | setMaxSeconds seconds =>
    have hmax : kept ≤ max 1 seconds := hkept
    have hdeadline : (now : ℤ) ≤ time + max 1 seconds * 1000 := by omega
    exact h.cleanup hdeadline
  | writeFrame h264Buffer info fault =>
    cases h264Buffer with
    | none => exact h
    | some h264Buffer =>
      cases info with
      | none => exact h
      | some info =>
        have hmax : kept ≤ s.buffer.maxSeconds := by
          simpa only [replayStep, writeFrame_maxSeconds] using hkept
        have hprepared : HoldsSince (Replay.prepareAppend s now info.presentationTimeUs.toInt
            fault.openFails).dir record time :=
          h.prepareAppend (by omega) fault.openFails
        simp only [replayStep]
        rcases writeFrame_state s now h264Buffer info fault with
          hstate | ⟨inode, bytes, last, -, hstate⟩
        · rw [hstate]
          exact hprepared
        · rw [hstate]
          exact hprepared.append inode bytes hlater
  | saveLastNSeconds seconds videoFormat environment =>
    simp only [replayStep, saveLastNSeconds]
    split_ifs <;> exact h
  | shutdown => exact h

/-- The run lemma. -/
theorem HoldsSince.run (h : HoldsSince s.dir record time) {calls : List ReplayCall} {kept : ℤ}
    (hkept : Throughout replayStep (fun s ↦ kept ≤ s.buffer.maxSeconds) s calls)
    (hlater : ∀ call ∈ calls, time ≤ call.now)
    (hnow : ∀ call ∈ calls, (call.now : ℤ) ≤ time + kept * 1000) :
    HoldsSince (replayRun s calls).dir record time := by
  induction calls generalizing s with
  | nil => exact h
  | cons call rest ih =>
    obtain ⟨-, hrest⟩ := throughout_cons.mp hkept
    obtain ⟨hlaterCall, hlaterRest⟩ := List.forall_mem_cons.mp hlater
    obtain ⟨hnowCall, hnowRest⟩ := List.forall_mem_cons.mp hnow
    exact ih (h.step (hrest [] List.nil_prefix) hlaterCall hnowCall) hrest hlaterRest hnowRest

end Holds

/-- No premature loss of replay data, where no target goes away. Assumes: calls in order of time,
from any state on any directory; every `writeFrame` whose target stays. -/
theorem retains_frames {calls : List ReplayCall}
    (hclock : (calls.map ReplayCall.now).Pairwise (· ≤ ·))
    (hkeeps : Meets replayStep KeepsTarget s calls) : RetainsFrames s calls := by
  rintro before call after rfl record haccepts
  have hcall := (meets_cons.mp (meets_append.mp hkeeps).2).1
  have hlater : ∀ later ∈ after, call.now ≤ later.now := by
    rw [List.map_append, List.map_cons] at hclock
    intro later hmem
    exact List.rel_of_pairwise_cons (List.pairwise_append.mp hclock).2.1 (List.mem_map_of_mem hmem)
  have hsplit : replayRun s (before ++ [call]) = replayStep (replayRun s before) call := by
    rw [replayRun, run_append, run_cons, run_nil]
  have hwhole : replayRun s (before ++ call :: after) =
      replayRun (replayStep (replayRun s before) call) after := by
    rw [replayRun, run_append, run_cons]
  obtain ⟨hopen, hholds⟩ : (∃ file ∈ (replayStep (replayRun s before) call).dir.files,
      (replayStep (replayRun s before) call).buffer.currentOut = some file.inode) ∧
        HoldsSince (replayStep (replayRun s before) call).dir record call.now := by
    obtain ⟨now, op⟩ := call
    cases op with
    | writeFrame h264Buffer info fault =>
      cases h264Buffer with
      | none => exact haccepts.elim
      | some h264Buffer =>
        cases info with
        | none => exact haccepts.elim
        | some info =>
          obtain ⟨hwritten, restored, hread⟩ := haccepts
          exact writeFrame_holds hwritten hread hcall
    | _ => exact haccepts.elim
  rw [hsplit, hwhole]
  refine ⟨hopen, fun kept hkept hnow ↦ ?_⟩
  obtain ⟨file, hfile, hrecord, -⟩ := hholds.run hkept hlater hnow
  exact ⟨file, hfile, hrecord⟩

/-- A new buffer on the directory of an earlier one, whose timestamps restart from zero within the
retention time. -/
theorem retains_frames_across_restart :
    ∃ fresh, ReplayBuffer.new 120 1000 FileStore.empty 0 true = .ok fresh ∧
      RetainsFrames fresh [.plainWrite 0 0 [1, 2, 3], ⟨50000, .construct 120 1000 true⟩,
        .plainWrite 100000 0 [4, 5, 6]] :=
  ⟨_, rfl, retains_frames (by decide) (by decide)⟩

/-- The same when the first frame of the new buffer comes 130 seconds after the last of the old one:
it is lost. -/
theorem not_retainsFrames_late_restart :
    ∃ fresh, ReplayBuffer.new 120 1000 FileStore.empty 0 true = .ok fresh ∧
      ¬ RetainsFrames fresh [.plainWrite 0 0 [1, 2, 3], ⟨100000, .construct 120 1000 true⟩,
        .plainWrite 130000 0 [4, 5, 6]] := by
  refine ⟨_, rfl, fun h ↦ ?_⟩
  obtain ⟨⟨file, hfile, -⟩, -⟩ := h
    [.plainWrite 0 0 [1, 2, 3], ⟨100000, .construct 120 1000 true⟩]
    (.plainWrite 130000 0 [4, 5, 6]) [] rfl ⟨0, 0, [4, 5, 6], by decide⟩ ⟨rfl, _, rfl⟩
  exact List.not_mem_nil hfile

end UvcRtmpStream.Replay
