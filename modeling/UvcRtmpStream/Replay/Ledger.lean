import UvcRtmpStream.Replay.ReplayBufferSpec
import Mathlib.Data.List.Flatten
import Mathlib.Data.List.Perm.Subperm

/-!
# The ledger of a replay directory

What the segment directory is for: it remembers frames, each with the wall-clock time it was handed
to `writeFrame`. The ledger is the same directory with, in place of a file's bytes, the list of its
frames in the order they were appended. It is driven by the same calls (`ledgerStep`), with the same
object state and the same rotation and cleanup, and a frame is appended as an entry.

The directory of the code is the ledger with every entry list written out as records
(`ReplayState.bytes`). `replayRun_bytes` is the refinement: as long as no append fails half-way, the
code's state after any calls is the ledger's, written out. `saveLastNSeconds_bytes` reads a clip
back to the ledger: the samples are a front part of the frames of the files that `selectSegments`
picks from some listing of the ledger.
-/

set_option autoImplicit false
set_option relaxedAutoImplicit false

namespace UvcRtmpStream.Replay

open UvcRtmpStream.Foundations UvcRtmpStream.Platform

/-- A frame of the ledger, with the wall-clock time of its `writeFrame`. -/
structure LedgerEntry where
  time : ℕ
  record : SegmentRecord
  deriving DecidableEq

/-- A replay buffer over a directory of frame lists. -/
abbrev LedgerState := ReplayState (List LedgerEntry)

/-- The timestamp of a ledger entry. -/
def LedgerEntry.ptsUs (entry : LedgerEntry) : ℤ := entry.record.ptsUs.toInt

/-- The bytes that a list of frames takes in a segment file. -/
def ledgerBytes (entries : List LedgerEntry) : List UInt8 :=
  segmentFraming.encodeAll (entries.map LedgerEntry.record)

/-- The code's state for a ledger. -/
def ReplayState.bytes (ledger : LedgerState) : ReplayState (List UInt8) where
  buffer := ledger.buffer
  dir := ledger.dir.mapContent ledgerBytes

/-- The entry that a call adds, when it is a `writeFrame` of a frame that can be read. -/
def acceptedEntry (call : ReplayCall) : Option LedgerEntry :=
  match call.op with
  | .writeFrame (some h264Buffer) (some info) _ =>
    match readFrame h264Buffer info with
    | .ok (record, _) => some ⟨call.now, record⟩
    | .error _ => none
  | _ => none

/-- The frames handed over by a list of calls, in order. -/
def acceptedEntries (calls : List ReplayCall) : List LedgerEntry := calls.filterMap acceptedEntry

theorem acceptedEntries_of_none {call : ReplayCall} (h : acceptedEntry call = none) :
    acceptedEntries [call] = [] := by
  rw [acceptedEntries, List.filterMap_cons_none h, List.filterMap_nil]

theorem acceptedEntries_of_read {now : ℕ} {h264Buffer restored : ByteBuffer} {info : BufferInfo}
    {record : SegmentRecord} (hread : readFrame h264Buffer info = .ok (record, restored))
    {fault : WriteFault} :
    acceptedEntries [⟨now, .writeFrame (some h264Buffer) (some info) fault⟩] =
      [⟨now, record⟩] := by
  simp [acceptedEntries, acceptedEntry, hread]

theorem acceptedEntries_append (first second : List ReplayCall) :
    acceptedEntries (first ++ second) = acceptedEntries first ++ acceptedEntries second :=
  List.filterMap_append

/-- `writeFrame` on the ledger, when no append fails half-way. -/
def ledgerWriteFrame (ledger : LedgerState) (now : ℕ) (h264Buffer : ByteBuffer) (info : BufferInfo)
    (openFails : Bool) : LedgerState :=
  let ptsUs := info.presentationTimeUs.toInt
  let ledger := prepareAppend ledger now ptsUs openFails
  match ledger.buffer.currentOut, readFrame h264Buffer info with
  | some inode, .ok (record, _) =>
    { buffer := { ledger.buffer with lastFramePtsUs := ptsUs }
      dir := ledger.dir.write inode (· ++ [⟨now, record⟩]) now }
  | _, _ => ledger

/-- A call on the ledger. -/
def ledgerStep (ledger : LedgerState) (call : ReplayCall) : LedgerState :=
  match call.op with
  | .construct maxSeconds segmentDurationMs dirReady =>
    match ReplayBuffer.new maxSeconds segmentDurationMs ledger.dir call.now dirReady with
    | .ok ledger => ledger
    | .error _ => ledger
  | .setMaxSeconds seconds => setMaxSeconds ledger call.now seconds
  | .writeFrame (some h264Buffer) (some info) fault =>
    ledgerWriteFrame ledger call.now h264Buffer info fault.openFails
  | .writeFrame _ _ _ => ledger
  | .saveLastNSeconds seconds videoFormat _ =>
    if seconds ≤ 0 then ledger
    else if videoFormat.isNone then ledger
    else { ledger with buffer := closeCurrentSegment ledger.buffer }
  | .shutdown => shutdown ledger

/-- The ledger after a list of calls. -/
abbrev ledgerRun (ledger : LedgerState) (calls : List ReplayCall) : LedgerState :=
  run ledgerStep ledger calls

/-- None of the four writes of a record fails during the call. -/
def ReplayCall.AppendsWhole (call : ReplayCall) : Prop :=
  match call.op with
  | .writeFrame _ _ fault => fault.failsAfter = none
  | _ => True

instance : (call : ReplayCall) → Decidable call.AppendsWhole
  | ⟨_, .writeFrame _ _ fault⟩ => decEq fault.failsAfter none
  | ⟨_, .construct _ _ _⟩ | ⟨_, .setMaxSeconds _⟩ | ⟨_, .saveLastNSeconds _ _ _⟩
  | ⟨_, .shutdown⟩ => instDecidableTrue

/-! ### The code refines the ledger -/

section MapContent

variable {κ κ' : Type*} (represent : κ → κ')

theorem cleanupOldSegments_mapContent (maxSeconds : ℤ) (dir : Directory κ) (now : ℕ) :
    cleanupOldSegments maxSeconds (dir.mapContent represent) now =
      (cleanupOldSegments maxSeconds dir now).mapContent represent := by
  rw [cleanupOldSegments_eq_keep, cleanupOldSegments_eq_keep]
  exact FileStore.mapContent_keep represent dir _ _ fun _ ↦ rfl

/-- Rotation does not look at the contents of files. -/
theorem rotateSegmentIfNeeded_mapContent [EmptyCollection κ] [EmptyCollection κ']
    (hempty : represent ∅ = ∅) (buffer : ReplayBuffer) (dir : Directory κ) (now : ℕ) (ptsUs : ℤ)
    (openFails : Bool) :
    rotateSegmentIfNeeded ⟨buffer, dir.mapContent represent⟩ now ptsUs openFails =
      ⟨(rotateSegmentIfNeeded ⟨buffer, dir⟩ now ptsUs openFails).buffer,
        (rotateSegmentIfNeeded ⟨buffer, dir⟩ now ptsUs openFails).dir.mapContent represent⟩ := by
  unfold rotateSegmentIfNeeded
  split_ifs
  · simp only [cleanupOldSegments_mapContent]
  · rw [← hempty]
    simp only [FileStore.mapContent_openAppend, cleanupOldSegments_mapContent]
  · rfl

end MapContent

theorem ledgerBytes_concat (entries : List LedgerEntry) (entry : LedgerEntry) :
    ledgerBytes (entries ++ [entry]) = ledgerBytes entries ++ encodeRecord entry.record := by
  rw [ledgerBytes, List.map_append, Framing.encodeAll_append]
  simp [ledgerBytes, segmentFraming]

theorem prepareAppend_bytes (ledger : LedgerState) (now : ℕ) (ptsUs : ℤ) (openFails : Bool) :
    prepareAppend ledger.bytes now ptsUs openFails =
      (prepareAppend ledger now ptsUs openFails).bytes :=
  rotateSegmentIfNeeded_mapContent ledgerBytes rfl _ _ _ _ _

/-- `writeFrame` appends to the ledger what it appends to the file. -/
theorem writeFrame_bytes (ledger : LedgerState) (now : ℕ) (h264Buffer : ByteBuffer)
    (info : BufferInfo) {fault : WriteFault} (hfault : fault.failsAfter = none) :
    (writeFrame ledger.bytes now h264Buffer info fault).2.2 =
      (ledgerWriteFrame ledger now h264Buffer info fault.openFails).bytes := by
  have hprepare := prepareAppend_bytes ledger now info.presentationTimeUs.toInt fault.openFails
  rw [prepareAppend] at hprepare
  simp only [writeFrame, hprepare, ledgerWriteFrame, hfault]
  cases hout : (prepareAppend ledger now info.presentationTimeUs.toInt
      fault.openFails).buffer.currentOut with
  | none => simp [ReplayState.bytes, hout]
  | some inode =>
    simp only [ReplayState.bytes, hout]
    cases readFrame h264Buffer info with
    | error exception => rfl
    | ok pair =>
      obtain ⟨record, restored⟩ := pair
      simp only [ReplayState.mk.injEq, true_and]
      exact FileStore.mapContent_write ledgerBytes _ inode _ _ now fun entries ↦
        (ledgerBytes_concat entries ⟨now, record⟩).symm

/-- The code's state after a call is the ledger's, written out. -/
theorem replayStep_bytes (ledger : LedgerState) {call : ReplayCall} (h : call.AppendsWhole) :
    replayStep ledger.bytes call = (ledgerStep ledger call).bytes := by
  obtain ⟨now, op⟩ := call
  cases op with
  | construct maxSeconds segmentDurationMs dirReady =>
    cases dirReady with
    | false => rfl
    | true =>
      simp only [replayStep, ledgerStep, ReplayBuffer.new, if_true, ReplayState.bytes,
        cleanupOldSegments_mapContent]
  | setMaxSeconds seconds =>
    simp only [replayStep, ledgerStep, setMaxSeconds, ReplayState.bytes,
      cleanupOldSegments_mapContent]
  | writeFrame h264Buffer info fault =>
    cases h264Buffer with
    | none => rfl
    | some h264Buffer =>
      cases info with
      | none => rfl
      | some info => exact writeFrame_bytes ledger now h264Buffer info h
  | saveLastNSeconds seconds videoFormat environment =>
    simp only [replayStep, ledgerStep, saveLastNSeconds]
    split_ifs <;> rfl
  | shutdown => rfl

/-- The refinement: when no append fails half-way, the code's state after any calls is the ledger's,
written out. -/
theorem replayRun_bytes (ledger : LedgerState) {calls : List ReplayCall}
    (h : ∀ call ∈ calls, call.AppendsWhole) :
    replayRun ledger.bytes calls = (ledgerRun ledger calls).bytes := by
  induction calls generalizing ledger with
  | nil => rfl
  | cons call rest ih =>
    rw [replayRun, run_cons, replayStep_bytes ledger (h call List.mem_cons_self)]
    exact ih _ fun other hother ↦ h other (List.mem_cons_of_mem _ hother)

/-- The ledger of a new buffer on an empty directory. -/
theorem bytes_of_new {maxSeconds segmentDurationMs : ℤ} {start : ℕ}
    {fresh : ReplayState (List UInt8)}
    (hfresh : ReplayBuffer.new maxSeconds segmentDurationMs FileStore.empty start true =
      .ok fresh) : (⟨fresh.buffer, FileStore.empty⟩ : LedgerState).bytes = fresh := by
  obtain rfl := Except.ok.inj hfresh
  rw [ReplayState.bytes, cleanupOldSegments_eq_keep]
  rfl

/-! ### The frames held -/

/-- The frames of a directory in the order of its files. -/
def heldEntries (dir : Directory (List LedgerEntry)) : List LedgerEntry :=
  dir.files.flatMap StoredFile.content

/-- Rotation loses the frames of deleted files and gains none. -/
theorem heldEntries_prepareAppend_sublist (ledger : LedgerState) (now : ℕ) (ptsUs : ℤ)
    (openFails : Bool) :
    (heldEntries (prepareAppend ledger now ptsUs openFails).dir).Sublist
      (heldEntries ledger.dir) := by
  have hopen : ∀ name, heldEntries (ledger.dir.openAppend name ∅ now).1 =
      heldEntries ledger.dir := by
    intro name
    cases h : ledger.dir.lookup name with
    | some file => rw [FileStore.openAppend_of_some _ h]
    | none =>
      rw [FileStore.openAppend_of_none _ h, heldEntries, FileStore.create, List.flatMap_append]
      exact List.append_nil _
  unfold prepareAppend rotateSegmentIfNeeded
  split_ifs
  · simp only [cleanupOldSegments_eq_keep]
    exact List.filter_sublist.flatMap _
  · rw [← hopen]
    simp only [cleanupOldSegments_eq_keep]
    exact List.filter_sublist.flatMap _
  · exact List.Sublist.refl _

/-- A write through a stream adds its frame to at most one file. -/
theorem heldEntries_write_subperm (dir : Directory (List LedgerEntry)) (inode : ℕ)
    (entry : LedgerEntry) (now : ℕ) :
    (heldEntries (dir.write inode (· ++ [entry]) now)).Subperm (heldEntries dir ++ [entry]) := by
  rw [heldEntries, heldEntries, FileStore.files_write, List.flatMap_map]
  have hnodup := dir.nodup_inode
  revert hnodup
  generalize dir.files = files
  intro hnodup
  induction files with
  | nil => exact List.nil_subperm
  | cons file files ih =>
    obtain ⟨hfresh, hrest⟩ := List.nodup_cons.mp hnodup
    rw [List.flatMap_cons, List.flatMap_cons, List.append_assoc]
    by_cases hinode : file.inode = inode
    · have hothers : files.flatMap (fun file ↦
          (FileStore.writeFile inode (· ++ [entry]) now file).content) =
            files.flatMap StoredFile.content := by
        refine List.flatMap_congr fun other hother ↦ ?_
        have hne : other.inode ≠ inode := fun heq ↦
          hfresh (List.mem_map.mpr ⟨other, hother, heq.trans hinode.symm⟩)
        rw [FileStore.writeFile, if_neg hne]
      rw [hothers, FileStore.writeFile, if_pos hinode, List.append_assoc]
      exact ((List.perm_append_comm).append_left _).subperm
    · rw [FileStore.writeFile, if_neg hinode]
      exact (List.subperm_append_left _).mpr (ih hrest)

/-! ### Reading a clip back to the ledger -/

/-- The file of the code's directory for a file of the ledger. -/
def fileBytes (file : SegmentFile (List LedgerEntry)) : SegmentFile (List UInt8) :=
  ⟨file.inode, file.name, ledgerBytes file.content, file.lastModified⟩

theorem files_bytes (ledger : LedgerState) :
    ledger.bytes.dir.files = ledger.dir.files.map fileBytes := rfl

/-- The selection depends only on the modification times. -/
theorem selectSegments_map (segmentDurationMs seconds : ℤ) (now : ℕ)
    (files : List (SegmentFile (List LedgerEntry))) :
    selectSegments segmentDurationMs seconds now (files.map fileBytes) =
      (selectSegments segmentDurationMs seconds now files).map fileBytes := by
  have hfilter : (files.map fileBytes).filter (fun file ↦ !expired (seconds * 1000) now file) =
      (files.filter fun file ↦ !expired (seconds * 1000) now file).map fileBytes := by
    rw [List.filter_map]
    rfl
  simp only [selectSegments, hfilter, List.isEmpty_map, List.length_map]
  split_ifs
  · rw [List.map_drop]
  · rfl

theorem sortByLastModified_map (files : List (SegmentFile (List LedgerEntry))) :
    sortByLastModified (files.map fileBytes) = (sortByLastModified files).map fileBytes :=
  (List.map_insertionSort _ _ fileBytes files fun _ _ _ _ ↦ Iff.rfl).symm

/-- The frames that the records of written-out ledger files stand for. -/
theorem flatMap_segmentRecords_fileBytes (files : List (SegmentFile (List LedgerEntry))) :
    (files.map fileBytes).flatMap (fun file ↦ segmentRecords file.content) =
      (files.flatMap fun file ↦ file.content).map LedgerEntry.record := by
  rw [List.flatMap_map, List.map_flatMap]
  refine List.flatMap_congr fun file _ ↦ ?_
  exact segmentRecords_encodeAll _

/-- A listing of the code's directory lists the files of the ledger, in some order. -/
theorem exists_ledger_listing (ledger : LedgerState) {listing : List (SegmentFile (List UInt8))}
    (h : listing.Perm ledger.bytes.dir.files) :
    ∃ files : List (SegmentFile (List LedgerEntry)),
      listing = files.map fileBytes ∧ files.Perm ledger.dir.files := by
  have hcomp := congrFun (congrFun (List.eq_map_comp_perm fileBytes) listing) ledger.dir.files
  exact hcomp.mpr h

/-- The samples of a clip, as frames of the ledger. Either the method returns early with none, or
they are a front part of the frames of the segments selected from some listing of the ledger, and
all of these frames when no call fails. -/
theorem saveLastNSeconds_bytes (ledger : LedgerState) (now : ℕ) (seconds : ℤ)
    (videoFormat : Option MediaFormat) (environment : SaveEnvironment) :
    (saveLastNSeconds ledger.bytes now seconds videoFormat environment).1.samples = [] ∧
        (0 < seconds → videoFormat.isSome → ledger.dir.files = []) ∨
      ∃ listing used, listing.Perm ledger.dir.files ∧
        used = selectSegments ledger.buffer.segmentDurationMs seconds now
          (sortByLastModified listing) ∧
        (saveLastNSeconds ledger.bytes now seconds videoFormat environment).1.samples <+:
          (used.flatMap fun file ↦ file.content).map (fun entry ↦ entry.record.toSample) ∧
        (environment.Faultless →
          (saveLastNSeconds ledger.bytes now seconds videoFormat environment).1.samples =
            (used.flatMap fun file ↦ file.content).map fun entry ↦ entry.record.toSample) := by
  obtain ⟨listing, hlisting, hperm⟩ :=
    exists_ledger_listing ledger (environment.perm_order ledger.bytes.dir.files)
  have hselected : selectSegments ledger.buffer.segmentDurationMs seconds now
      (sortByLastModified (environment.order ledger.bytes.dir.files)) =
        (selectSegments ledger.buffer.segmentDurationMs seconds now
          (sortByLastModified listing)).map fileBytes := by
    rw [hlisting, sortByLastModified_map, selectSegments_map]
  have hduration : (closeCurrentSegment ledger.bytes.buffer).segmentDurationMs =
      ledger.buffer.segmentDurationMs := closeCurrentSegment_segmentDurationMs _
  unfold saveLastNSeconds
  simp only [hduration, hselected]
  split_ifs with hseconds hformat hnone hunused
  · exact Or.inl ⟨rfl, fun h ↦ by omega⟩
  · refine Or.inl ⟨rfl, fun _ h ↦ ?_⟩
    rw [Option.isNone_iff_eq_none] at hformat
    rw [hformat] at h
    cases h
  · refine Or.inl ⟨rfl, fun _ _ ↦ ?_⟩
    rw [hlisting, List.isEmpty_map, List.isEmpty_iff] at hnone
    rw [hnone] at hperm
    exact hperm.symm.eq_nil
  · refine Or.inr ⟨listing, _, hperm, rfl, List.nil_prefix, fun _ ↦ ?_⟩
    rw [List.isEmpty_map, List.isEmpty_iff] at hunused
    rw [hunused]
    rfl
  · refine Or.inr ⟨listing, _, hperm, rfl, ?_, fun hfaultless ↦ ?_⟩
    · have hpart := muxClip_samples_prefix environment
        ((selectSegments ledger.buffer.segmentDurationMs seconds now
          (sortByLastModified listing)).map fileBytes)
      rwa [flatMap_segmentRecords_fileBytes, List.map_map] at hpart
    · rw [muxClip_faultless hfaultless _ (fun segment ↦ segmentRecords segment.content)]
      · rw [flatMap_segmentRecords_fileBytes, List.map_map]
        rfl
      · intro segment hsegment
        obtain ⟨file, -, rfl⟩ := List.mem_map.mp hsegment
        simp only [fileBytes, ledgerBytes, segmentRecords_encodeAll]

end UvcRtmpStream.Replay
