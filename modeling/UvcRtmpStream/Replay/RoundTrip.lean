import Mathlib
import UvcRtmpStream.Replay.Ledger

/-!
# Segment replay round trip

A replay buffer started on an empty directory and fed a stream of frames with non-negative,
nondecreasing timestamps, never pausing for longer than the retention time. At any later moment a
clip of the last `N` seconds, `N` at most the retention time, is a final run of the frames written,
in order and unchanged, and contains every frame of the last `N` seconds.

The argument is on the ledger. `RoundTripInv` relates it to the frames written so far: the files, in
the order of the directory, hold a final run of these frames, what is missing expired, each file is
named after the segment of every frame in it, and an open stream writes to the last file. The step
lemma is `RoundTripInv.write`. It rests on `exists_appendsTo`, which says where `writeFrame`
appends: behind everything else that the cleanup left, to a file of the timestamp's segment
(`AppendsTo`). `replay_round_trip` reads the clip back.
-/

set_option autoImplicit false
set_option relaxedAutoImplicit false

namespace UvcRtmpStream.Replay

open UvcRtmpStream.Foundations UvcRtmpStream.Platform

/-- A call of a recording without I/O errors: a `writeFrame` of everything from the buffer's
position, or a `saveLastNSeconds` with any arguments. -/
def ReplayCall.IsRecording (call : ReplayCall) : Prop :=
  match call.op with
  | .writeFrame (some h264Buffer) (some info) fault =>
    info.size.toInt = h264Buffer.remaining ∧ fault = WriteFault.none
  | .saveLastNSeconds _ _ _ => True
  | _ => False

instance : (call : ReplayCall) → Decidable call.IsRecording
  | ⟨_, .writeFrame (some _) (some _) _⟩ => inferInstanceAs (Decidable (_ ∧ _))
  | ⟨_, .saveLastNSeconds _ _ _⟩ => instDecidableTrue
  | ⟨_, .writeFrame none _ _⟩ | ⟨_, .writeFrame (some _) none _⟩ | ⟨_, .construct _ _ _⟩
  | ⟨_, .setMaxSeconds _⟩ | ⟨_, .shutdown⟩ => instDecidableFalse

/-- A frame handed to `writeFrame`: the wall-clock time, and the sample that the buffer and the info
describe, the bytes from the buffer's position under the info's timestamp, flags and size. -/
structure WrittenFrame where
  time : ℕ
  sample : Sample
  deriving DecidableEq

/-- The timestamp of a frame. -/
def WrittenFrame.ptsUs (frame : WrittenFrame) : ℤ := frame.sample.info.presentationTimeUs.toInt

/-- The frame that a call hands over. -/
def writtenFrame (call : ReplayCall) : Option WrittenFrame :=
  match call.op with
  | .writeFrame (some h264Buffer) (some info) _ =>
    some ⟨call.now, ⟨0, info.size, info.presentationTimeUs, info.flags⟩, h264Buffer.remainingBytes⟩
  | _ => none

/-- The frames that a list of calls hands over, in order. -/
def writtenFrames (calls : List ReplayCall) : List WrittenFrame := calls.filterMap writtenFrame

/-- The frame that a ledger entry stands for. -/
def LedgerEntry.frame (entry : LedgerEntry) : WrittenFrame := ⟨entry.time, entry.record.toSample⟩

/-- What holds of the ledger, the frames written so far and the last wall-clock time. -/
structure RoundTripInv (maxSeconds segmentDurationMs : ℤ) (ledger : LedgerState)
    (written : List LedgerEntry) (clock : ℕ) : Prop where
  maxSeconds_eq : ledger.buffer.maxSeconds = maxSeconds
  duration_eq : ledger.buffer.segmentDurationMs = segmentDurationMs
  covered : ∃ gone, written = gone ++ heldEntries ledger.dir ∧
    ∀ entry ∈ gone, (entry.time : ℤ) + maxSeconds * 1000 < clock
  stamped : ∀ file ∈ ledger.dir.files, ∃ last, file.content.getLast? = some last ∧
    last.time = file.lastModified
  named : ∀ file ∈ ledger.dir.files, ∀ entry ∈ file.content,
    file.name = segmentNameForStart (segmentStart ledger.buffer.segDurUs entry.ptsUs)
  open_last : ∀ inode, ledger.buffer.currentOut = some inode →
    ∃ earlier last, ledger.dir.files = earlier ++ [last] ∧ last.inode = inode ∧
      ∀ entry ∈ last.content,
        ledger.buffer.currentSegmentStartUs = segmentStart ledger.buffer.segDurUs entry.ptsUs
  retained : written ≠ [] → ledger.dir.files ≠ []

/-- The frames written are in order of time and of timestamp, and no timestamp is negative. -/
structure OrderedFrames (written : List LedgerEntry) : Prop where
  sorted_time : SortedBy LedgerEntry.time written
  sorted_pts : SortedBy LedgerEntry.ptsUs written
  nonneg_pts : ∀ entry ∈ written, 0 ≤ entry.ptsUs

theorem OrderedFrames.of_append {first second : List LedgerEntry}
    (h : OrderedFrames (first ++ second)) : OrderedFrames first where
  sorted_time := (sortedBy_append.mp h.sorted_time).1
  sorted_pts := (sortedBy_append.mp h.sorted_pts).1
  nonneg_pts := fun entry hentry ↦ h.nonneg_pts entry (List.mem_append_left _ hentry)

theorem OrderedFrames.ptsUs_le {first second : List LedgerEntry} {entry later : LedgerEntry}
    (h : OrderedFrames (first ++ second)) (hentry : entry ∈ first) (hlater : later ∈ second) :
    entry.ptsUs ≤ later.ptsUs :=
  (sortedBy_append.mp h.sorted_pts).2.2 entry hentry later hlater

section Step

variable {maxSeconds segmentDurationMs : ℤ} {ledger : LedgerState} {written : List LedgerEntry}
  {clock : ℕ}

namespace RoundTripInv

/-- The frames held are among the frames written, in the same order. -/
theorem sublist_held (h : RoundTripInv maxSeconds segmentDurationMs ledger written clock) :
    (heldEntries ledger.dir).Sublist written := by
  obtain ⟨gone, hwritten, -⟩ := h.covered
  rw [hwritten]
  exact List.sublist_append_right _ _

theorem mem_written (h : RoundTripInv maxSeconds segmentDurationMs ledger written clock)
    {file : SegmentFile (List LedgerEntry)} (hfile : file ∈ ledger.dir.files)
    {entry : LedgerEntry} (hentry : entry ∈ file.content) : entry ∈ written :=
  h.sublist_held.subset (List.mem_flatMap.mpr ⟨file, hfile, hentry⟩)

/-- A file was last modified when its last frame was written, so not before any of its frames. -/
theorem time_le_lastModified (h : RoundTripInv maxSeconds segmentDurationMs ledger written clock)
    (hordered : OrderedFrames written) {file : SegmentFile (List LedgerEntry)}
    (hfile : file ∈ ledger.dir.files) {entry : LedgerEntry} (hentry : entry ∈ file.content) :
    entry.time ≤ file.lastModified := by
  obtain ⟨last, hlast, hstamp⟩ := h.stamped file hfile
  have hheld : SortedBy LedgerEntry.time (heldEntries ledger.dir) :=
    hordered.sorted_time.sublist h.sublist_held
  have hsorted : SortedBy LedgerEntry.time file.content :=
    (List.pairwise_flatMap.mp hheld).1 file hfile
  rw [← hstamp]
  exact hsorted.le_getLast hlast entry hentry

/-- The files are in order of modification. -/
theorem sorted_lastModified (h : RoundTripInv maxSeconds segmentDurationMs ledger written clock)
    (hordered : OrderedFrames written) :
    SortedBy StoredFile.lastModified ledger.dir.files := by
  have hheld : SortedBy LedgerEntry.time (heldEntries ledger.dir) :=
    hordered.sorted_time.sublist h.sublist_held
  refine List.Pairwise.imp_of_mem (fun hfirst hsecond hbetween ↦ ?_)
    (List.pairwise_flatMap.mp hheld).2
  obtain ⟨last, hlast, hstamp⟩ := h.stamped _ hfirst
  obtain ⟨other, hother, hotherStamp⟩ := h.stamped _ hsecond
  rw [← hstamp, ← hotherStamp]
  exact hbetween last (List.mem_of_getLast? hlast) other (List.mem_of_getLast? hother)

/-- The last file of the directory was stamped by the last frame written. -/
theorem lastModified_last (h : RoundTripInv maxSeconds segmentDurationMs ledger written clock)
    {earlier : List (SegmentFile (List LedgerEntry))} {last : SegmentFile (List LedgerEntry)}
    (hfiles : ledger.dir.files = earlier ++ [last]) :
    ∃ entry, written.getLast? = some entry ∧ entry.time = last.lastModified ∧
      entry ∈ last.content := by
  obtain ⟨entry, hentry, hstamp⟩ := h.stamped last (by rw [hfiles]; simp)
  refine ⟨entry, ?_, hstamp, List.mem_of_getLast? hentry⟩
  obtain ⟨gone, hwritten, -⟩ := h.covered
  rw [hwritten, heldEntries, hfiles, List.flatMap_append, List.flatMap_singleton,
    List.getLast?_append, List.getLast?_append, hentry]
  rfl

end RoundTripInv

theorem segmentNameForStart_injective : Function.Injective segmentNameForStart := by
  intro first second h
  have hstem := (String.append_left_inj _).mp h
  exact Int.repr_injective ((String.append_right_inj _).mp hstem)

/-- A file that bears the name of the segment of the next timestamp is the last file. -/
theorem RoundTripInv.last_of_name
    (h : RoundTripInv maxSeconds segmentDurationMs ledger written clock)
    (hordered : OrderedFrames written) {ptsUs : ℤ}
    (hlater : ∀ entry ∈ written, entry.ptsUs ≤ ptsUs) {file : SegmentFile (List LedgerEntry)}
    (hfile : file ∈ ledger.dir.files)
    (hname : file.name = segmentNameForStart (segmentStart ledger.buffer.segDurUs ptsUs)) :
    ∃ earlier, ledger.dir.files = earlier ++ [file] := by
  have hdur := ledger.buffer.segDurUs_pos
  obtain ⟨before, after, hfiles⟩ := List.append_of_mem hfile
  rcases List.eq_nil_or_concat' after with rfl | ⟨between, other, rfl⟩
  · exact ⟨before, hfiles⟩
  -- The timestamps of a later file lie between those of the file and the next one.
  exfalso
  have hother : other ∈ ledger.dir.files := by simp [hfiles]
  obtain ⟨entry, hlast, -⟩ := h.stamped file hfile
  obtain ⟨newer, hnewer, -⟩ := h.stamped other hother
  have hentry := List.mem_of_getLast? hlast
  have hnewer := List.mem_of_getLast? hnewer
  have hsorted : SortedBy LedgerEntry.ptsUs (heldEntries ledger.dir) :=
    hordered.sorted_pts.sublist h.sublist_held
  have hpairs := (List.pairwise_flatMap.mp hsorted).2
  rw [hfiles] at hpairs
  have hfirst := List.rel_of_pairwise_cons (List.pairwise_append.mp hpairs).2.1
    (List.mem_append_right between (List.mem_singleton_self other)) entry hentry newer hnewer
  have hlow := segmentStart_mono hdur hfirst
  have hhigh := segmentStart_mono hdur (hlater newer (h.mem_written hother hnewer))
  have hstart : segmentStart ledger.buffer.segDurUs entry.ptsUs =
      segmentStart ledger.buffer.segDurUs ptsUs :=
    segmentNameForStart_injective ((h.named file hfile entry hentry).symm.trans hname)
  have hsame : segmentStart ledger.buffer.segDurUs newer.ptsUs =
      segmentStart ledger.buffer.segDurUs entry.ptsUs := by omega
  have heq : other = file := by
    refine ledger.dir.eq_of_name_eq hother hfile ?_
    rw [h.named other hother newer hnewer, h.named file hfile entry hentry, hsame]
  have hnodup := ledger.dir.nodup_inode
  rw [hfiles, heq] at hnodup
  simp [List.nodup_append] at hnodup

/-- Where `writeFrame` appends. The state in which it appends has the target as the last file. In
front of it are files of the directory that are not expired, and the files that went (`cut`) were
expired. The target holds frames of the same segment, or is new. -/
structure AppendsTo (ledger : LedgerState) (now : ℕ) (ptsUs : ℤ)
    (cut earlier : List (SegmentFile (List LedgerEntry)))
    (target : SegmentFile (List LedgerEntry)) : Prop where
  files : (prepareAppend ledger now ptsUs false).dir.files = earlier ++ [target]
  currentOut : (prepareAppend ledger now ptsUs false).buffer.currentOut = some target.inode
  start : (prepareAppend ledger now ptsUs false).buffer.currentSegmentStartUs =
    segmentStart ledger.buffer.segDurUs ptsUs
  name : target.name = ledger.buffer.rotationName ptsUs
  held : heldEntries ledger.dir = cut.flatMap StoredFile.content ++
    (earlier.flatMap StoredFile.content ++ target.content)
  cut_expired : ∀ file ∈ cut, file ∈ ledger.dir.files ∧
    (file.lastModified : ℤ) + ledger.buffer.maxSeconds * 1000 < now
  earlier_mem : ∀ file ∈ earlier, file ∈ ledger.dir.files
  target_old : target ∈ ledger.dir.files ∨ target.content = []

/-- Without a rotation the stream stays open on the last file, which is of the timestamp's segment.
-/
theorem RoundTripInv.appendsTo_open
    (h : RoundTripInv maxSeconds segmentDurationMs ledger written clock)
    (hordered : OrderedFrames written) {ptsUs : ℤ} (hpts : ptsUs < 2 ^ 63)
    (hlater : ∀ entry ∈ written, entry.ptsUs ≤ ptsUs)
    (hneeded : rotationNeeded ledger.buffer ptsUs = false) (now : ℕ) :
    ∃ earlier target, AppendsTo ledger now ptsUs [] earlier target := by
  have hdur := ledger.buffer.segDurUs_pos
  have hsame := @prepareAppend_of_not_needed _ _ ledger now ptsUs false hneeded
  simp only [rotationNeeded, Bool.or_eq_false_iff, decide_eq_false_iff_not,
    Option.isNone_eq_false_iff] at hneeded
  obtain ⟨⟨hout, hstart⟩, hspan⟩ := hneeded
  obtain ⟨inode, hinode⟩ := Option.isSome_iff_exists.mp hout
  obtain ⟨earlier, last, hfiles, hlast, hsegment⟩ := h.open_last inode hinode
  obtain ⟨entry, -, -, hentry⟩ := h.lastModified_last hfiles
  have hmem : last ∈ ledger.dir.files := by simp [hfiles]
  have hwritten := h.mem_written hmem hentry
  have hnonneg := hordered.nonneg_pts entry hwritten
  have hstartEq := hsegment entry hentry
  have hlow := segmentStart_le_and_lt hdur hnonneg
  have hle := hlater entry hwritten
  rw [hstartEq] at hspan hstart
  rw [wrapLong_of_mem_range (by omega) (by omega)] at hspan
  have hstays : segmentStart ledger.buffer.segDurUs ptsUs =
      segmentStart ledger.buffer.segDurUs entry.ptsUs :=
    segmentStart_eq_of_lt hdur hnonneg hle (by omega)
  refine ⟨earlier, last, ?_⟩
  constructor
  · rw [hsame]
    exact hfiles
  · rw [hsame, countFrame_currentOut, hinode, hlast]
  · rw [hsame, countFrame_currentSegmentStartUs, hstartEq, hstays]
  · rw [ReplayBuffer.rotationName, hstays]
    exact h.named last hmem entry hentry
  · simp [heldEntries, hfiles]
  · exact fun file hfile ↦ absurd hfile List.not_mem_nil
  · intro file hfile
    rw [hfiles]
    exact List.mem_append_left _ hfile
  · exact Or.inl hmem

/-- A cleanup cuts off a front part of the frames. -/
theorem RoundTripInv.exists_cut
    (h : RoundTripInv maxSeconds segmentDurationMs ledger written clock)
    (hordered : OrderedFrames written) (now : ℕ) :
    ∃ cut : List (SegmentFile (List LedgerEntry)),
      (∀ file ∈ cut, file ∈ ledger.dir.files ∧
        (file.lastModified : ℤ) + ledger.buffer.maxSeconds * 1000 < now) ∧
      heldEntries ledger.dir = cut.flatMap StoredFile.content ++
        (ledger.dir.files.filter fun file ↦
          !expired (ledger.buffer.maxSeconds * 1000) now file).flatMap StoredFile.content := by
  obtain ⟨cut, hcut, hold⟩ := exists_append_not_expired (h.sorted_lastModified hordered)
    (ledger.buffer.maxSeconds * 1000) now
  refine ⟨cut, fun file hfile ↦ ⟨?_, hold file hfile⟩, ?_⟩
  · rw [hcut]
    exact List.mem_append_left _ hfile
  · rw [heldEntries, ← List.flatMap_append, ← hcut]

/-- A rotation to a file that exists. It is the last, and was written to too recently to expire. -/
theorem RoundTripInv.appendsTo_existing
    (h : RoundTripInv maxSeconds segmentDurationMs ledger written clock)
    (hordered : OrderedFrames written) {now : ℕ} {ptsUs : ℤ}
    (hlater : ∀ entry ∈ written, entry.ptsUs ≤ ptsUs)
    (hgap : ∀ entry ∈ written.getLast?, (now : ℤ) ≤ entry.time + ledger.buffer.maxSeconds * 1000)
    (hneeded : rotationNeeded ledger.buffer ptsUs = true)
    {file : SegmentFile (List LedgerEntry)}
    (hlookup : ledger.dir.lookup (ledger.buffer.rotationName ptsUs) = some file) :
    ∃ cut earlier, AppendsTo ledger now ptsUs cut earlier file := by
  obtain ⟨hdir, hout, hstart⟩ := @prepareAppend_of_needed _ _ ledger now ptsUs hneeded
  rw [FileStore.openAppend_of_some _ hlookup] at hdir hout
  rw [cleanupOldSegments_eq_keep] at hdir
  obtain ⟨cut, hcut, hheld⟩ := h.exists_cut hordered now
  obtain ⟨hfile, hname⟩ := ledger.dir.lookup_eq_some_iff.mp hlookup
  obtain ⟨earlier, hfiles⟩ := h.last_of_name hordered hlater hfile hname
  obtain ⟨entry, hentry, hstamp, -⟩ := h.lastModified_last hfiles
  have hlive : expired (ledger.buffer.maxSeconds * 1000) now file = false := by
    rw [expired_eq_false_iff, ← hstamp]
    exact hgap entry hentry
  have hkept : ledger.dir.files.filter
      (fun file ↦ !expired (ledger.buffer.maxSeconds * 1000) now file) =
        earlier.filter (fun file ↦ !expired (ledger.buffer.maxSeconds * 1000) now file) ++
          [file] := by
    rw [hfiles, List.filter_append]
    simp [hlive]
  refine ⟨cut, earlier.filter fun file ↦ !expired (ledger.buffer.maxSeconds * 1000) now file, ?_⟩
  refine ⟨?_, hout, hstart, hname, ?_, hcut, fun other hother ↦ ?_, Or.inl hfile⟩
  · rw [hdir]
    exact hkept
  · rw [hheld, hkept, List.flatMap_append, List.flatMap_singleton]
  · rw [hfiles]
    exact List.mem_append_left _ (List.mem_filter.mp hother).1

/-- A rotation to a new file. -/
theorem RoundTripInv.appendsTo_new
    (h : RoundTripInv maxSeconds segmentDurationMs ledger written clock)
    (hordered : OrderedFrames written) {now : ℕ} {ptsUs : ℤ}
    (hneeded : rotationNeeded ledger.buffer ptsUs = true)
    (hlookup : ledger.dir.lookup (ledger.buffer.rotationName ptsUs) = none) :
    ∃ cut earlier target, AppendsTo ledger now ptsUs cut earlier target := by
  obtain ⟨hdir, hout, hstart⟩ := @prepareAppend_of_needed _ _ ledger now ptsUs hneeded
  rw [FileStore.openAppend_of_none _ hlookup] at hdir hout
  rw [cleanupOldSegments_eq_keep] at hdir
  obtain ⟨cut, hcut, hheld⟩ := h.exists_cut hordered now
  let target : SegmentFile (List LedgerEntry) :=
    ⟨ledger.dir.nextInode, ledger.buffer.rotationName ptsUs, ∅, now⟩
  have hlive : expired (ledger.buffer.maxSeconds * 1000) now target = false := by
    have hmax := ledger.buffer.one_le_maxSeconds
    rw [expired_eq_false_iff]
    simp only [target]
    omega
  refine ⟨cut, ledger.dir.files.filter fun file ↦
    !expired (ledger.buffer.maxSeconds * 1000) now file, target, ?_⟩
  refine ⟨?_, hout, hstart, rfl, ?_, hcut, fun file hfile ↦ ?_, Or.inr rfl⟩
  · rw [hdir, FileStore.files_keep, FileStore.create, List.filter_append,
      List.filter_cons_of_pos (by rw [hlive]; rfl), List.filter_nil]
  · have hnew : target.content = [] := rfl
    rw [hheld, hnew, List.append_nil]
  · exact (List.mem_filter.mp hfile).1

/-- Where `writeFrame` appends. Assumes: a frame not earlier in time or timestamp than the frames
written, at most the retention time after the last of them. -/
theorem RoundTripInv.exists_appendsTo
    (h : RoundTripInv maxSeconds segmentDurationMs ledger written clock)
    (hordered : OrderedFrames written) {now : ℕ} {ptsUs : ℤ} (hpts : ptsUs < 2 ^ 63)
    (hlater : ∀ entry ∈ written, entry.ptsUs ≤ ptsUs)
    (hgap : ∀ entry ∈ written.getLast?, (now : ℤ) ≤ entry.time + maxSeconds * 1000) :
    ∃ cut earlier target, AppendsTo ledger now ptsUs cut earlier target := by
  rw [← h.maxSeconds_eq] at hgap
  cases hneeded : rotationNeeded ledger.buffer ptsUs with
  | false => exact ⟨[], h.appendsTo_open hordered hpts hlater hneeded now⟩
  | true =>
    cases hlookup : ledger.dir.lookup (ledger.buffer.rotationName ptsUs) with
    | some file =>
      obtain ⟨cut, earlier, htarget⟩ :=
        h.appendsTo_existing hordered hlater hgap hneeded hlookup
      exact ⟨cut, earlier, file, htarget⟩
    | none => exact h.appendsTo_new hordered hneeded hlookup

/-- The state after the append. -/
theorem AppendsTo.written_eq {now : ℕ} {info : BufferInfo}
    {cut earlier : List (SegmentFile (List LedgerEntry))} {target : SegmentFile (List LedgerEntry)}
    (h : AppendsTo ledger now info.presentationTimeUs.toInt cut earlier target)
    {h264Buffer restored : ByteBuffer} {record : SegmentRecord}
    (hread : readFrame h264Buffer info = .ok (record, restored)) :
    ledgerWriteFrame ledger now h264Buffer info false =
      { buffer :=
          { (prepareAppend ledger now info.presentationTimeUs.toInt false).buffer with
            lastFramePtsUs := info.presentationTimeUs.toInt }
        dir := (prepareAppend ledger now info.presentationTimeUs.toInt false).dir.write
          target.inode (· ++ [⟨now, record⟩]) now } := by
  simp only [ledgerWriteFrame, h.currentOut, hread]

/-- The files after the append. -/
theorem AppendsTo.files_written {now : ℕ} {info : BufferInfo}
    {cut earlier : List (SegmentFile (List LedgerEntry))} {target : SegmentFile (List LedgerEntry)}
    (h : AppendsTo ledger now info.presentationTimeUs.toInt cut earlier target)
    {h264Buffer restored : ByteBuffer} {record : SegmentRecord}
    (hread : readFrame h264Buffer info = .ok (record, restored)) :
    (ledgerWriteFrame ledger now h264Buffer info false).dir.files =
      earlier ++ [{ target with
        content := target.content ++ [⟨now, record⟩], lastModified := now }] := by
  rw [h.written_eq hread]
  exact FileStore.files_write_of_eq_concat _ h.files _ now

/-- The frames of the target are of the segment of the timestamp. -/
theorem RoundTripInv.segmentStart_target
    (h : RoundTripInv maxSeconds segmentDurationMs ledger written clock) {now : ℕ} {ptsUs : ℤ}
    {cut earlier : List (SegmentFile (List LedgerEntry))} {target : SegmentFile (List LedgerEntry)}
    (happends : AppendsTo ledger now ptsUs cut earlier target) :
    ∀ entry ∈ target.content, segmentStart ledger.buffer.segDurUs entry.ptsUs =
      segmentStart ledger.buffer.segDurUs ptsUs := by
  intro entry hentry
  rcases happends.target_old with hmem | hempty
  · exact segmentNameForStart_injective
      ((h.named target hmem entry hentry).symm.trans happends.name)
  · rw [hempty] at hentry
    cases hentry

/-- What is missing from the directory when the frame is appended was written before the retention
time. -/
theorem RoundTripInv.covered_appendsTo
    (h : RoundTripInv maxSeconds segmentDurationMs ledger written clock)
    (hordered : OrderedFrames written) {now : ℕ} (hclock : clock ≤ now) {ptsUs : ℤ}
    {cut earlier : List (SegmentFile (List LedgerEntry))} {target : SegmentFile (List LedgerEntry)}
    (happends : AppendsTo ledger now ptsUs cut earlier target) :
    ∃ gone, written = gone ++ (earlier.flatMap StoredFile.content ++ target.content) ∧
      ∀ entry ∈ gone, (entry.time : ℤ) + maxSeconds * 1000 < now := by
  obtain ⟨gone, hwritten, hgone⟩ := h.covered
  refine ⟨gone ++ cut.flatMap StoredFile.content, ?_, ?_⟩
  · rw [hwritten, happends.held, List.append_assoc]
  · intro entry hentry
    rcases List.mem_append.mp hentry with hold | hnew
    · have hlt := hgone entry hold
      omega
    · obtain ⟨file, hfile, hmem⟩ := List.mem_flatMap.mp hnew
      obtain ⟨hheld, hexpired⟩ := happends.cut_expired file hfile
      have hle := h.time_le_lastModified hordered hheld hmem
      rw [h.maxSeconds_eq] at hexpired
      omega

/-- Writing a frame keeps the invariant. Assumes: a frame not earlier in time or timestamp than the
frames written, at most the retention time after the last of them. -/
theorem RoundTripInv.write (h : RoundTripInv maxSeconds segmentDurationMs ledger written clock)
    {now : ℕ} (hclock : clock ≤ now) {h264Buffer restored : ByteBuffer} {info : BufferInfo}
    {record : SegmentRecord} (hread : readFrame h264Buffer info = .ok (record, restored))
    (hordered : OrderedFrames (written ++ [⟨now, record⟩]))
    (hgap : ∀ entry ∈ written.getLast?, (now : ℤ) ≤ entry.time + maxSeconds * 1000) :
    RoundTripInv maxSeconds segmentDurationMs (ledgerWriteFrame ledger now h264Buffer info false)
      (written ++ [⟨now, record⟩]) now := by
  have hpts : info.presentationTimeUs.toInt = LedgerEntry.ptsUs ⟨now, record⟩ := by
    rw [LedgerEntry.ptsUs, (readFrame_eq_ok_iff.mp hread).2.2.1]
  have hlater : ∀ entry ∈ written, entry.ptsUs ≤ info.presentationTimeUs.toInt :=
    fun entry hentry ↦ hpts ▸ hordered.ptsUs_le hentry (List.mem_singleton_self _)
  obtain ⟨cut, earlier, target, happends⟩ :=
    h.exists_appendsTo hordered.of_append (Int64.toInt_lt _) hlater hgap
  have hafter := happends.written_eq hread
  have hfiles := happends.files_written hread
  have hdur : (ledgerWriteFrame ledger now h264Buffer info false).buffer.segDurUs =
      ledger.buffer.segDurUs := by
    refine ReplayBuffer.segDurUs_congr ?_
    rw [hafter]
    exact prepareAppend_segmentDurationMs ..
  have hsegment : ∀ entry ∈ target.content ++ [⟨now, record⟩],
      segmentStart ledger.buffer.segDurUs entry.ptsUs =
        segmentStart ledger.buffer.segDurUs info.presentationTimeUs.toInt := by
    intro entry hentry
    rcases List.mem_append.mp hentry with hold | hnew
    · exact h.segmentStart_target happends entry hold
    · rw [List.mem_singleton.mp hnew, hpts]
  refine ⟨?_, ?_, ?_, ?_, ?_, ?_, ?_⟩
  · rw [hafter]
    exact (prepareAppend_maxSeconds ..).trans h.maxSeconds_eq
  · rw [hafter]
    exact (prepareAppend_segmentDurationMs ..).trans h.duration_eq
  · obtain ⟨gone, hwritten, hgone⟩ := h.covered_appendsTo hordered.of_append hclock happends
    refine ⟨gone, ?_, hgone⟩
    simp only [heldEntries, hfiles, List.flatMap_append, List.flatMap_singleton]
    rw [hwritten]
    simp only [List.append_assoc]
  · rw [hfiles]
    intro file hfile
    rcases List.mem_append.mp hfile with hold | hnew
    · exact h.stamped file (happends.earlier_mem file hold)
    · rw [List.mem_singleton.mp hnew]
      exact ⟨_, List.getLast?_concat, rfl⟩
  · rw [hfiles, hdur]
    intro file hfile entry hentry
    rcases List.mem_append.mp hfile with hold | hnew
    · exact h.named file (happends.earlier_mem file hold) entry hentry
    · rw [List.mem_singleton.mp hnew] at hentry ⊢
      rw [hsegment entry hentry]
      exact happends.name
  · intro inode hinode
    refine ⟨earlier, _, hfiles, ?_, ?_⟩
    · rw [hafter, happends.currentOut] at hinode
      exact Option.some.inj hinode
    · intro entry hentry
      rw [hdur, hsegment entry hentry, hafter]
      exact happends.start
  · rw [hfiles]
    simp

/-- A clip that is saved only closes the open stream. -/
theorem RoundTripInv.close (h : RoundTripInv maxSeconds segmentDurationMs ledger written clock)
    {now : ℕ} (hclock : clock ≤ now) :
    RoundTripInv maxSeconds segmentDurationMs
      { ledger with buffer := closeCurrentSegment ledger.buffer } written now where
  maxSeconds_eq := (closeCurrentSegment_maxSeconds _).trans h.maxSeconds_eq
  duration_eq := (closeCurrentSegment_segmentDurationMs _).trans h.duration_eq
  covered := by
    obtain ⟨gone, hwritten, hgone⟩ := h.covered
    exact ⟨gone, hwritten, fun entry hentry ↦ by have hlt := hgone entry hentry; omega⟩
  stamped := h.stamped
  named := by
    rw [ReplayBuffer.segDurUs_congr (closeCurrentSegment_segmentDurationMs ledger.buffer)]
    exact h.named
  open_last := by simp
  retained := h.retained

/-- Time passing keeps the invariant. -/
theorem RoundTripInv.wait (h : RoundTripInv maxSeconds segmentDurationMs ledger written clock)
    {now : ℕ} (hclock : clock ≤ now) :
    RoundTripInv maxSeconds segmentDurationMs ledger written now := by
  obtain ⟨gone, hwritten, hgone⟩ := h.covered
  exact { h with covered :=
    ⟨gone, hwritten, fun entry hentry ↦ by have hlt := hgone entry hentry; omega⟩ }

/-- The step lemma: a call of a recording keeps the invariant, and adds its frame to the frames
written. -/
theorem RoundTripInv.step (h : RoundTripInv maxSeconds segmentDurationMs ledger written clock)
    {call : ReplayCall} (hrecording : call.IsRecording) (hclock : clock ≤ call.now)
    (hordered : OrderedFrames (written ++ acceptedEntries [call]))
    (hgap : ∀ entry ∈ written.getLast?, ∀ next ∈ (acceptedEntries [call]).head?,
      (next.time : ℤ) ≤ entry.time + maxSeconds * 1000) :
    RoundTripInv maxSeconds segmentDurationMs (ledgerStep ledger call)
      (written ++ acceptedEntries [call]) call.now := by
  obtain ⟨now, op⟩ := call
  cases op with
  | writeFrame h264Buffer info fault =>
    cases h264Buffer with
    | none => exact hrecording.elim
    | some h264Buffer =>
      cases info with
      | none => exact hrecording.elim
      | some info =>
        obtain ⟨hsize, rfl⟩ := hrecording
        obtain ⟨record, hread, -⟩ := exists_readFrame_of_size_eq hsize
        rw [acceptedEntries_of_read hread] at hordered hgap ⊢
        exact h.write hclock hread hordered fun entry hentry ↦
          hgap entry hentry _ rfl
  | saveLastNSeconds seconds videoFormat environment =>
    rw [acceptedEntries_of_none rfl, List.append_nil]
    simp only [ledgerStep]
    split_ifs
    · exact h.wait hclock
    · exact h.wait hclock
    · exact h.close hclock
  | construct => exact hrecording.elim
  | setMaxSeconds => exact hrecording.elim
  | shutdown => exact hrecording.elim

end Step

/-- The run lemma. Assumes: the calls are made at times in order, none before `clock`, and frames
are at most the retention time apart. -/
theorem RoundTripInv.run {maxSeconds segmentDurationMs : ℤ} {ledger : LedgerState}
    {written : List LedgerEntry} {clock : ℕ} {calls : List ReplayCall}
    (h : RoundTripInv maxSeconds segmentDurationMs ledger written clock)
    (hrecording : ∀ call ∈ calls, call.IsRecording)
    (hclock : (clock :: calls.map ReplayCall.now).IsChain (· ≤ ·))
    (hordered : OrderedFrames (written ++ acceptedEntries calls))
    (hgap : (written ++ acceptedEntries calls).IsChain
      fun entry next ↦ (next.time : ℤ) ≤ entry.time + maxSeconds * 1000) :
    RoundTripInv maxSeconds segmentDurationMs (ledgerRun ledger calls)
      (written ++ acceptedEntries calls)
      ((clock :: calls.map ReplayCall.now).getLast (by simp)) := by
  induction calls generalizing ledger written clock with
  | nil => simpa [acceptedEntries] using h
  | cons call rest ih =>
    have hsplit : written ++ acceptedEntries (call :: rest) =
        written ++ acceptedEntries [call] ++ acceptedEntries rest := by
      rw [List.append_assoc, ← acceptedEntries_append, List.singleton_append]
    rw [hsplit] at hordered hgap ⊢
    obtain ⟨hnow, hlater⟩ := List.isChain_cons_cons.mp hclock
    have hstep := h.step (hrecording call List.mem_cons_self) hnow hordered.of_append
      (List.isChain_append.mp (List.isChain_append.mp hgap).1).2.2
    have hrest := ih hstep (fun other hother ↦ hrecording other (List.mem_cons_of_mem _ hother))
      hlater hordered hgap
    simpa using hrest

/-! ### Reading the clip back -/

theorem ReplayCall.IsRecording.appendsWhole {call : ReplayCall} (h : call.IsRecording) :
    call.AppendsWhole := by
  obtain ⟨now, op⟩ := call
  cases op with
  | writeFrame h264Buffer info fault =>
    cases h264Buffer with
    | none => exact h.elim
    | some h264Buffer =>
      cases info with
      | none => exact h.elim
      | some info => exact congrArg WriteFault.failsAfter h.2
  | _ => trivial

/-- In a recording the ledger's entries are the frames handed over. -/
theorem writtenFrames_eq_map {calls : List ReplayCall}
    (hrecording : ∀ call ∈ calls, call.IsRecording) :
    writtenFrames calls = (acceptedEntries calls).map LedgerEntry.frame := by
  rw [writtenFrames, acceptedEntries, List.map_filterMap]
  refine List.filterMap_congr fun call hcall ↦ ?_
  have hcall := hrecording call hcall
  obtain ⟨now, op⟩ := call
  cases op with
  | writeFrame h264Buffer info fault =>
    cases h264Buffer with
    | none => exact hcall.elim
    | some h264Buffer =>
      cases info with
      | none => exact hcall.elim
      | some info =>
        obtain ⟨record, hread, hsample⟩ := exists_readFrame_of_size_eq hcall.1
        simp [writtenFrame, acceptedEntry, LedgerEntry.frame, hread, hsample]
  | saveLastNSeconds => rfl
  | construct => rfl
  | setMaxSeconds => rfl
  | shutdown => rfl

theorem acceptedEntry_time {call : ReplayCall} {entry : LedgerEntry}
    (h : acceptedEntry call = some entry) : entry.time = call.now := by
  unfold acceptedEntry at h
  split at h
  · split at h
    · cases h
      rfl
    · cases h
  · cases h

/-- Frames are in order of time when the calls are. -/
theorem sorted_time_acceptedEntries {calls : List ReplayCall}
    (hclock : (calls.map ReplayCall.now).Pairwise (· ≤ ·)) :
    SortedBy LedgerEntry.time (acceptedEntries calls) := by
  refine List.pairwise_filterMap.mpr ((List.pairwise_map.mp hclock).imp ?_)
  intro first second hle entry hentry later hlater
  rw [acceptedEntry_time hentry, acceptedEntry_time hlater]
  exact hle

/-- A new buffer on an empty directory. -/
theorem RoundTripInv.start {maxSeconds segmentDurationMs : ℤ} (hmax : 1 ≤ maxSeconds) {start : ℕ}
    {fresh : ReplayState (List UInt8)}
    (hfresh : ReplayBuffer.new maxSeconds segmentDurationMs FileStore.empty start true =
      .ok fresh) :
    RoundTripInv maxSeconds (max 200 segmentDurationMs) ⟨fresh.buffer, FileStore.empty⟩ []
      start := by
  obtain rfl := Except.ok.inj hfresh
  exact {
    maxSeconds_eq := max_eq_right hmax
    duration_eq := rfl
    covered := ⟨[], rfl, by simp⟩
    stamped := by simp [FileStore.empty]
    named := by simp [FileStore.empty]
    open_last := by simp
    retained := by simp }

/-- The clip saved from a ledger that satisfies the invariant: a final run of the frames written,
not empty when there are frames, behind frames that were all written before the last `seconds`. -/
theorem RoundTripInv.exists_clip {maxSeconds segmentDurationMs : ℤ} {ledger : LedgerState}
    {written : List LedgerEntry} {now : ℕ}
    (h : RoundTripInv maxSeconds segmentDurationMs ledger written now)
    (hordered : OrderedFrames written)
    (hdistinct : (ledger.dir.files.map StoredFile.lastModified).Nodup) {seconds : ℤ}
    (hlow : 1 ≤ seconds) (hhigh : seconds ≤ maxSeconds) (format : MediaFormat)
    {environment : SaveEnvironment} (hfaultless : environment.Faultless) :
    ∃ gone kept, written = gone ++ kept ∧
      (saveLastNSeconds ledger.bytes now seconds (some format) environment).1.samples =
        kept.map (fun entry ↦ entry.record.toSample) ∧
      (∀ entry ∈ gone, (entry.time : ℤ) + seconds * 1000 < now) ∧
      (written ≠ [] → kept ≠ []) := by
  obtain ⟨gone, hwritten, hgone⟩ := h.covered
  rcases saveLastNSeconds_bytes ledger now seconds (some format) environment with
    ⟨hnil, hnone⟩ | ⟨listing, used, hperm, hused, -, hall⟩
  · have hempty : written = [] := by
      by_contra hne
      exact h.retained hne (hnone (by omega) rfl)
    exact ⟨[], [], hempty, hnil, by simp, fun hne ↦ absurd hempty hne⟩
  · have hsorted := h.sorted_lastModified hordered
    have hincreasing := (List.Pairwise.and hsorted (List.pairwise_map.mp hdistinct)).imp
      fun hboth ↦ lt_of_le_of_ne hboth.1 hboth.2
    have hlisted : sortByLastModified listing = ledger.dir.files :=
      insertionSort_eq_of_perm hperm hincreasing
    obtain ⟨unused, hfiles, hunused, hnonempty⟩ := exists_append_selectSegments hsorted
      ledger.buffer.segmentDurationMs seconds now
    rw [hlisted] at hused
    rw [← hused] at hfiles hnonempty
    refine ⟨gone ++ unused.flatMap StoredFile.content, used.flatMap StoredFile.content, ?_,
      hall hfaultless, ?_, ?_⟩
    · rw [List.append_assoc, ← List.flatMap_append, ← hfiles, ← heldEntries, ← hwritten]
    · intro entry hentry
      rcases List.mem_append.mp hentry with hold | hnew
      · have hlt := hgone entry hold
        omega
      · obtain ⟨file, hfile, hmem⟩ := List.mem_flatMap.mp hnew
        have hle := h.time_le_lastModified hordered
          (by rw [hfiles]; exact List.mem_append_left _ hfile) hmem
        have hlt := hunused file hfile
        omega
    · intro hne
      obtain ⟨file, hfile⟩ := List.exists_mem_of_ne_nil _ (hnonempty (h.retained hne))
      obtain ⟨last, hlast, -⟩ := h.stamped file
        (by rw [hfiles]; exact List.mem_append_right _ hfile)
      exact List.ne_nil_of_mem (List.mem_flatMap.mpr ⟨file, hfile, List.mem_of_getLast? hlast⟩)

/-- A recording of two frames in two segments, with a clip saved in between. -/
def twoSegmentRecording : List ReplayCall :=
  [.plainWrite 1000 0 [1, 2],
    ⟨1500, .saveLastNSeconds 1 (some ⟨"video/avc", []⟩)
      (SaveEnvironment.faultless List.reverse List.reverse_perm)⟩,
    .plainWrite 2000 1000000 [3]]

/-- Segment replay round trip. Assumes: a buffer started on an empty directory; a recording without
I/O errors, with timestamps that are not negative and in order, and frames at most `maxSeconds`
seconds of wall time apart; a wall clock that does not go back; segments with distinct modification
times; a clip of between one and `maxSeconds` seconds, in an environment where no call fails. The
samples passed to the muxer are a final run of the frames handed over, not empty when there are
frames, and the frames before it were all written before the last `seconds`. -/
theorem replay_round_trip {maxSeconds segmentDurationMs : ℤ} {start : ℕ}
    {fresh : ReplayState (List UInt8)}
    (hfresh : ReplayBuffer.new maxSeconds segmentDurationMs FileStore.empty start true =
      .ok fresh)
    {calls : List ReplayCall} (hrecording : ∀ call ∈ calls, call.IsRecording) {now : ℕ}
    (hclock : (start :: (calls.map ReplayCall.now ++ [now])).Pairwise (· ≤ ·))
    (hnonneg : ∀ frame ∈ writtenFrames calls, 0 ≤ frame.ptsUs)
    (hpts : SortedBy WrittenFrame.ptsUs (writtenFrames calls))
    (hgap : (writtenFrames calls).IsChain
      fun frame next ↦ (next.time : ℤ) ≤ frame.time + maxSeconds * 1000)
    (hdistinct : ((replayRun fresh calls).dir.files.map StoredFile.lastModified).Nodup)
    {seconds : ℤ} (hlow : 1 ≤ seconds) (hhigh : seconds ≤ maxSeconds) (format : MediaFormat)
    {environment : SaveEnvironment} (hfaultless : environment.Faultless) :
    ∃ gone kept, writtenFrames calls = gone ++ kept ∧
      (saveLastNSeconds (replayRun fresh calls) now seconds (some format) environment).1.samples =
        kept.map WrittenFrame.sample ∧
      (∀ frame ∈ gone, (frame.time : ℤ) + seconds * 1000 < now) ∧
      (writtenFrames calls ≠ [] → kept ≠ []) := by
  have hstart := RoundTripInv.start (hlow.trans hhigh) hfresh
  have hbytes := replayRun_bytes ⟨fresh.buffer, FileStore.empty⟩ fun call hcall ↦
    (hrecording call hcall).appendsWhole
  rw [bytes_of_new hfresh] at hbytes
  rw [hbytes, files_bytes, List.map_map] at hdistinct
  rw [hbytes]
  rw [writtenFrames_eq_map hrecording] at hnonneg hpts hgap ⊢
  rw [← List.cons_append] at hclock
  obtain ⟨hbefore, -, hnow⟩ := List.pairwise_append.mp hclock
  have hptsEntries := List.pairwise_map.mp hpts
  have hordered : OrderedFrames ([] ++ acceptedEntries calls) := {
    sorted_time := sorted_time_acceptedEntries hbefore.of_cons
    sorted_pts := hptsEntries
    nonneg_pts := fun entry hentry ↦ hnonneg _ (List.mem_map_of_mem hentry) }
  have hlatest := hnow _ (List.getLast_mem (by simp)) now (List.mem_singleton_self now)
  have hgapEntries := (List.isChain_map _).mp hgap
  have hinv := (hstart.run hrecording hbefore.isChain hordered hgapEntries).wait hlatest
  obtain ⟨gone, kept, hwritten, hsamples, hgone, hkept⟩ :=
    hinv.exists_clip hordered hdistinct hlow hhigh format hfaultless
  rw [List.nil_append] at hwritten hkept
  refine ⟨gone.map LedgerEntry.frame, kept.map LedgerEntry.frame, ?_, ?_, ?_, ?_⟩
  · rw [hwritten, List.map_append]
  · rw [hsamples, List.map_map]
    rfl
  · intro frame hframe
    obtain ⟨entry, hentry, rfl⟩ := List.mem_map.mp hframe
    exact hgone entry hentry
  · rw [Ne, List.map_eq_nil_iff, Ne, List.map_eq_nil_iff]
    exact hkept

/-- Frames in two segments with a save in between, of which a last clip of one second holds the
second. -/
theorem replay_round_trip_two_segments :
    ∃ fresh, ReplayBuffer.new 120 1000 FileStore.empty 0 true = .ok fresh ∧
      ∃ gone kept, writtenFrames twoSegmentRecording = gone ++ kept ∧
        (saveLastNSeconds (replayRun fresh twoSegmentRecording) 3000 1 (some ⟨"video/avc", []⟩)
          (SaveEnvironment.faultless List.reverse List.reverse_perm)).1.samples =
            kept.map WrittenFrame.sample ∧
        (∀ frame ∈ gone, (frame.time : ℤ) + 1 * 1000 < (3000 : ℕ)) ∧
        (writtenFrames twoSegmentRecording ≠ [] → kept ≠ []) :=
  ⟨_, rfl, replay_round_trip rfl (by decide) (by decide) (by decide) (by unfold SortedBy; decide)
    (by decide) (by decide) (by decide) (by decide) _
    (SaveEnvironment.faultless_spec List.reverse List.reverse_perm)⟩

end UvcRtmpStream.Replay
