import UvcRtmpStream.Foundations.SortedWindow
import UvcRtmpStream.Replay.RoundTrip
import UvcRtmpStream.Replay.SaveOutcome

/-!
# The order of the segments in a clip

`saveLastNSeconds` sees the segments in the order of a directory listing, which is any order, and
sorts them by their modification times, which need not differ. Frames with increasing timestamps
leave the segments in increasing order of their starts, with the frames in order (`Ascends`). That
order reaches the clip, whatever the listing, exactly where the modification times tell it: no
segment with a frame has the time of another segment, and those with frames are in order of time
(`StampedInOrder`).
-/

set_option autoImplicit false
set_option relaxedAutoImplicit false

namespace UvcRtmpStream.Replay

open UvcRtmpStream.Foundations UvcRtmpStream.Platform

/-- A `writeFrame` whose record, if it gets that far, reaches the file whole. -/
def ReplayCall.WritesWhole (call : ReplayCall) : Prop :=
  match call.op with
  | .writeFrame _ _ fault => fault.failsAfter = none
  | _ => False

instance : (call : ReplayCall) → Decidable call.WritesWhole
  | ⟨_, .writeFrame _ _ fault⟩ => decEq fault.failsAfter none
  | ⟨_, .construct _ _ _⟩ | ⟨_, .setMaxSeconds _⟩ | ⟨_, .saveLastNSeconds _ _ _⟩
  | ⟨_, .shutdown⟩ => instDecidableFalse

/-- The clip has the same samples for any two listings of the segments, and their timestamps
strictly increase. -/
def ClipOrderFixed (s : ReplayState (List UInt8)) : Prop :=
  ∀ now seconds videoFormat (environment : SaveEnvironment) order
    (perm_order : ∀ files, (order files).Perm files),
    (∀ name, environment.unreadable name = false) →
    (saveLastNSeconds s now seconds videoFormat environment).1.samples =
        (saveLastNSeconds s now seconds videoFormat
          { environment with order := order, perm_order := perm_order }).1.samples ∧
      (saveLastNSeconds s now seconds videoFormat environment).1.samples.Pairwise
        fun a b ↦ a.info.presentationTimeUs.toInt < b.info.presentationTimeUs.toInt

/-- No segment with a frame was modified at the same time as another segment, and of two segments
with frames the one with the earlier start was not modified after the other. -/
structure StampedInOrder {κ : Type*} [EmptyCollection κ] (dir : Directory κ) : Prop where
  distinct : ∀ a ∈ dir.files, ∀ b ∈ dir.files, a ≠ b → a.lastModified = b.lastModified →
    a.content = ∅
  ordered : ∀ a ∈ dir.files, ∀ b ∈ dir.files, ∀ startUs laterUs,
    a.name = segmentNameForStart startUs → b.name = segmentNameForStart laterUs →
    startUs < laterUs → a.content ≠ ∅ → b.content ≠ ∅ → a.lastModified ≤ b.lastModified

/-! ### The segments of a recording -/

/-- The files are named after segments in increasing order, up to the segment of a timestamp. -/
structure NamesAscend {κ : Type*} (segDurUs ptsUs : ℤ) (files : List (SegmentFile κ)) : Prop where
  named : ∀ file ∈ files, ∃ startUs ≤ segmentStart segDurUs ptsUs,
    file.name = segmentNameForStart startUs
  starts : files.Pairwise fun a b ↦ ∀ startUs laterUs,
    a.name = segmentNameForStart startUs → b.name = segmentNameForStart laterUs →
    startUs < laterUs

/-- A file that the stream is open on is the last one. -/
def OpenLast {κ : Type*} (s : ReplayState κ) : Prop :=
  ∀ file ∈ s.dir.files, s.buffer.currentOut = some file.inode →
    ∃ earlier, s.dir.files = earlier ++ [file]

section Names

variable {κ : Type*} {segDurUs ptsUs : ℤ} {files : List (SegmentFile κ)}

theorem NamesAscend.sublist (h : NamesAscend segDurUs ptsUs files) {kept : List (SegmentFile κ)}
    (hkept : kept.Sublist files) : NamesAscend segDurUs ptsUs kept :=
  ⟨fun file hfile ↦ h.named file (hkept.subset hfile), h.starts.sublist hkept⟩

theorem NamesAscend.mono (h : NamesAscend segDurUs ptsUs files) (hdur : 0 < segDurUs)
    {laterUs : ℤ} (hlater : ptsUs ≤ laterUs) : NamesAscend segDurUs laterUs files := by
  refine ⟨fun file hfile ↦ ?_, h.starts⟩
  obtain ⟨startUs, hstart, hname⟩ := h.named file hfile
  exact ⟨startUs, hstart.trans (segmentStart_mono hdur hlater), hname⟩

theorem NamesAscend.of_map_name (h : NamesAscend segDurUs ptsUs files)
    {files' : List (SegmentFile κ)}
    (hsame : files'.map StoredFile.name = files.map StoredFile.name) :
    NamesAscend segDurUs ptsUs files' := by
  constructor
  · intro file hfile
    have hname : file.name ∈ files.map StoredFile.name := hsame ▸ List.mem_map_of_mem hfile
    obtain ⟨other, hother, hsame⟩ := List.mem_map.mp hname
    rw [← hsame]
    exact h.named other hother
  · have hstarts : (files.map StoredFile.name).Pairwise fun a b ↦ ∀ startUs laterUs,
        a = segmentNameForStart startUs → b = segmentNameForStart laterUs → startUs < laterUs :=
      List.pairwise_map.mpr h.starts
    rw [← hsame] at hstarts
    exact List.pairwise_map.mp hstarts

/-- A file of the segment of the timestamp is the last one. -/
theorem NamesAscend.last_of_name (h : NamesAscend segDurUs ptsUs files) {file : SegmentFile κ}
    (hfile : file ∈ files) (hname : file.name = segmentNameForStart (segmentStart segDurUs ptsUs)) :
    ∃ earlier, files = earlier ++ [file] := by
  obtain ⟨earlier, later, rfl⟩ := List.append_of_mem hfile
  cases later with
  | nil => exact ⟨earlier, rfl⟩
  | cons other later =>
    obtain ⟨startUs, hstart, hother⟩ := h.named other (by simp)
    have hpair := List.rel_of_pairwise_cons (List.pairwise_append.mp h.starts).2.1
      List.mem_cons_self
    exact absurd (hpair _ _ hname hother) (not_lt.mpr hstart)

/-- A file is added under the name of the segment of the timestamp. -/
theorem NamesAscend.concat (h : NamesAscend segDurUs ptsUs files) {file : SegmentFile κ}
    (hname : file.name = segmentNameForStart (segmentStart segDurUs ptsUs))
    (hfree : ∀ other ∈ files, other.name ≠ file.name) :
    NamesAscend segDurUs ptsUs (files ++ [file]) := by
  refine ⟨fun other hother ↦ ?_, List.pairwise_append.mpr ⟨h.starts, List.pairwise_singleton _ _,
    fun other hother last hlast startUs laterUs hstart hlater ↦ ?_⟩⟩
  · rcases List.mem_append.mp hother with hold | hnew
    · exact h.named other hold
    · rw [List.mem_singleton.mp hnew]
      exact ⟨_, le_refl _, hname⟩
  · obtain rfl := List.mem_singleton.mp hlast
    obtain rfl := segmentNameForStart_injective (hlater.symm.trans hname)
    obtain ⟨knownUs, hknown, hotherName⟩ := h.named other hother
    obtain rfl := segmentNameForStart_injective (hotherName.symm.trans hstart)
    refine lt_of_le_of_ne hknown fun hsame ↦ hfree other hother ?_
    rw [hstart, hlater, hsame]

end Names

section Rotate

variable {κ : Type*} {s : ReplayState κ} {boundUs ptsUs : ℤ}

/-- A file that is the last one stays it while files are deleted. -/
theorem OpenLast.keep {dir : Directory κ} {buffer : ReplayBuffer} (h : OpenLast ⟨buffer, dir⟩)
    (test : SegmentFile κ → Bool) : OpenLast ⟨buffer, dir.keep test⟩ := by
  intro file hfile hout
  obtain ⟨hold, hkept⟩ := List.mem_filter.mp hfile
  obtain ⟨earlier, hfiles⟩ := h file hold hout
  refine ⟨earlier.filter test, ?_⟩
  change dir.files.filter test = _
  rw [hfiles, List.filter_append, List.filter_singleton, hkept]
  rfl

variable [EmptyCollection κ]

/-- The directory and the stream with which `writeFrame` appends a frame that comes later. -/
theorem namesAscend_prepareAppend (h : NamesAscend s.buffer.segDurUs boundUs s.dir.files)
    (hopen : OpenLast s) (hlater : boundUs ≤ ptsUs) (now : ℕ) (openFails : Bool) :
    NamesAscend s.buffer.segDurUs ptsUs (prepareAppend s now ptsUs openFails).dir.files ∧
      OpenLast (prepareAppend s now ptsUs openFails) := by
  have hnames := h.mono s.buffer.segDurUs_pos hlater
  cases hneeded : rotationNeeded s.buffer ptsUs with
  | false =>
    rw [prepareAppend_of_not_needed hneeded]
    refine ⟨hnames, fun file hfile hout ↦ hopen file hfile ?_⟩
    rwa [countFrame_currentOut] at hout
  | true =>
    cases openFails with
    | true =>
      obtain ⟨hdir, hout⟩ := @prepareAppend_of_openFails _ _ s now ptsUs hneeded
      refine ⟨?_, fun file _ hheld ↦ absurd (hout.symm.trans hheld) (Option.some_ne_none _).symm⟩
      rw [hdir, cleanupOldSegments_eq_keep]
      exact hnames.sublist List.filter_sublist
    | false =>
      obtain ⟨hdir, hout, -⟩ := @prepareAppend_of_needed _ _ s now ptsUs hneeded
      rw [cleanupOldSegments_eq_keep] at hdir
      have hopened : NamesAscend s.buffer.segDurUs ptsUs
          (s.dir.openAppend (s.buffer.rotationName ptsUs) ∅ now).1.files := by
        cases hlookup : s.dir.lookup (s.buffer.rotationName ptsUs) with
        | some file =>
          rw [FileStore.openAppend_of_some _ hlookup]
          exact hnames
        | none =>
          rw [FileStore.openAppend_of_none _ hlookup]
          exact hnames.concat rfl (s.dir.lookup_eq_none_iff.mp hlookup)
      have hlast : OpenLast
          (⟨(prepareAppend s now ptsUs false).buffer, (s.dir.openAppend
            (s.buffer.rotationName ptsUs) ∅ now).1⟩ : ReplayState κ) := by
        intro file hfile hheld
        refine hopened.last_of_name hfile (s.dir.name_of_snd_openAppend hfile ?_)
        exact Option.some.inj (hheld.symm.trans hout)
      refine ⟨?_, ?_⟩
      · rw [hdir]
        exact hopened.sublist List.filter_sublist
      · unfold OpenLast
        rw [hdir]
        exact hlast.keep _

end Rotate

/-- The segments that frames in increasing order of their timestamps have left, up to some
timestamp. -/
structure Ascends (ledger : LedgerState) (boundUs : ℤ) : Prop where
  names : NamesAscend ledger.buffer.segDurUs boundUs ledger.dir.files
  open_last : OpenLast ledger
  held : (heldEntries ledger.dir).Pairwise fun a b ↦ a.ptsUs < b.ptsUs
  bounded : ∀ entry ∈ heldEntries ledger.dir, entry.ptsUs ≤ boundUs

section Ascend

variable {ledger : LedgerState} {boundUs : ℤ}

theorem Ascends.prepareAppend (h : Ascends ledger boundUs) {ptsUs : ℤ} (hlater : boundUs ≤ ptsUs)
    (now : ℕ) (openFails : Bool) : Ascends (prepareAppend ledger now ptsUs openFails) ptsUs := by
  obtain ⟨hnames, hopen⟩ := namesAscend_prepareAppend h.names h.open_last hlater now openFails
  have hdur : (Replay.prepareAppend ledger now ptsUs openFails).buffer.segDurUs =
      ledger.buffer.segDurUs := ReplayBuffer.segDurUs_congr (prepareAppend_segmentDurationMs _)
  have hheld := heldEntries_prepareAppend_sublist ledger now ptsUs openFails
  refine ⟨hdur ▸ hnames, hopen, h.held.sublist hheld, fun entry hentry ↦ ?_⟩
  exact (h.bounded entry (hheld.subset hentry)).trans hlater

/-- A frame that comes later is appended behind all others, or to a file that has been deleted. -/
theorem Ascends.write (h : Ascends ledger boundUs) {inode : ℕ}
    (hout : ledger.buffer.currentOut = some inode) {entry : LedgerEntry}
    (hlater : ∀ other ∈ heldEntries ledger.dir, other.ptsUs < entry.ptsUs)
    (hbound : entry.ptsUs ≤ boundUs) (lastUs : ℤ) (now : ℕ) :
    Ascends
      { buffer := { ledger.buffer with lastFramePtsUs := lastUs }
        dir := ledger.dir.write inode (· ++ [entry]) now } boundUs := by
  by_cases hlinked : ∃ file ∈ ledger.dir.files, file.inode = inode
  · obtain ⟨file, hfile, rfl⟩ := hlinked
    obtain ⟨earlier, hfiles⟩ := h.open_last file hfile hout
    have hwritten := ledger.dir.files_write_of_eq_concat hfiles (· ++ [entry]) now
    have hheld : heldEntries (ledger.dir.write file.inode (· ++ [entry]) now) =
        heldEntries ledger.dir ++ [entry] := by
      rw [heldEntries, heldEntries, hwritten, hfiles]
      simp
    refine ⟨h.names.of_map_name ?_, fun last hlast hheld ↦ ?_, ?_, ?_⟩
    · rw [hwritten, hfiles, List.map_append, List.map_append]
      rfl
    · obtain ⟨old, hold, rfl⟩ := List.mem_map.mp hlast
      rw [FileStore.writeFile_inode] at hheld
      obtain ⟨before, hbefore⟩ := h.open_last old hold hheld
      refine ⟨before.map (FileStore.writeFile file.inode (· ++ [entry]) now), ?_⟩
      change ledger.dir.files.map _ = _
      rw [hbefore, List.map_append, List.map_singleton]
    · rw [hheld]
      refine List.pairwise_append.mpr ⟨h.held, List.pairwise_singleton _ _, ?_⟩
      intro other hother last hlast
      exact List.mem_singleton.mp hlast ▸ hlater other hother
    · rw [hheld]
      intro other hother
      rcases List.mem_append.mp hother with hold | hnew
      · exact h.bounded other hold
      · exact List.mem_singleton.mp hnew ▸ hbound
  · have hunlinked : ∀ file ∈ ledger.dir.files, file.inode ≠ inode :=
      fun file hfile hinode ↦ hlinked ⟨file, hfile, hinode⟩
    rw [ledger.dir.write_eq_self_of_unlinked hunlinked]
    exact ⟨h.names, h.open_last, h.held, h.bounded⟩

/-- The step lemma. -/
theorem Ascends.writeFrame (h : Ascends ledger boundUs) (now : ℕ) (h264Buffer : ByteBuffer)
    {info : BufferInfo} (hlater : boundUs < info.presentationTimeUs.toInt) (openFails : Bool) :
    Ascends (ledgerWriteFrame ledger now h264Buffer info openFails)
      info.presentationTimeUs.toInt := by
  have hprepared := h.prepareAppend hlater.le now openFails
  have hheld := heldEntries_prepareAppend_sublist ledger now info.presentationTimeUs.toInt openFails
  rcases Option.eq_none_or_eq_some (Replay.prepareAppend ledger now
    info.presentationTimeUs.toInt openFails).buffer.currentOut with hout | ⟨inode, hout⟩
  · simpa only [ledgerWriteFrame, hout] using hprepared
  · cases hread : readFrame h264Buffer info with
    | error exception => simpa only [ledgerWriteFrame, hout, hread] using hprepared
    | ok pair =>
      obtain ⟨record, restored⟩ := pair
      have hpts : LedgerEntry.ptsUs ⟨now, record⟩ = info.presentationTimeUs.toInt := by
        rw [LedgerEntry.ptsUs, (readFrame_eq_ok_iff.mp hread).2.2.1]
      have hwritten := hprepared.write hout (fun other hother ↦ hpts ▸
        (h.bounded other (hheld.subset hother)).trans_lt hlater) hpts.le
        info.presentationTimeUs.toInt now
      simpa only [ledgerWriteFrame, hout, hread] using hwritten

/-- The run lemma. -/
theorem Ascends.run (h : Ascends ledger boundUs) {calls : List ReplayCall}
    (hcalls : ∀ call ∈ calls, call.WritesWhole)
    (hbound : ∀ frame ∈ writtenFrames calls, boundUs < frame.ptsUs)
    (hpts : (writtenFrames calls).Pairwise fun a b ↦ a.ptsUs < b.ptsUs) :
    ∃ lastUs, Ascends (ledgerRun ledger calls) lastUs := by
  induction calls generalizing ledger boundUs with
  | nil => exact ⟨boundUs, h⟩
  | cons call rest ih =>
    obtain ⟨hcall, hrest⟩ := List.forall_mem_cons.mp hcalls
    obtain ⟨now, op⟩ := call
    cases op with
    | writeFrame h264Buffer info fault =>
      cases h264Buffer with
      | none => exact ih h hrest hbound hpts
      | some h264Buffer =>
        cases info with
        | none => exact ih h hrest hbound hpts
        | some info =>
          obtain ⟨hfirst, -⟩ := List.forall_mem_cons.mp hbound
          obtain ⟨hnext, hpts⟩ := List.pairwise_cons.mp hpts
          exact ih (h.writeFrame now h264Buffer hfirst fault.openFails) hrest hnext hpts
    | _ => exact hcall.elim

/-- The start of one segment is before that of the other, and so are its frames. -/
def Precedes (a b : SegmentFile (List LedgerEntry)) : Prop :=
  (∃ startUs laterUs, a.name = segmentNameForStart startUs ∧
    b.name = segmentNameForStart laterUs ∧ startUs < laterUs) ∧
  ∀ entry ∈ a.content, ∀ later ∈ b.content, entry.ptsUs < later.ptsUs

theorem Precedes.ne {a b : SegmentFile (List LedgerEntry)} (h : Precedes a b) : a ≠ b := by
  rintro rfl
  obtain ⟨⟨startUs, laterUs, hstart, hlater, hlt⟩, -⟩ := h
  exact hlt.ne (segmentNameForStart_injective (hstart.symm.trans hlater))

theorem Ascends.precedes (h : Ascends ledger boundUs) {a b : SegmentFile (List LedgerEntry)}
    (ha : a ∈ ledger.dir.files) (hb : b ∈ ledger.dir.files) (hne : a ≠ b) :
    Precedes a b ∨ Precedes b a := by
  have hframes := (List.pairwise_flatMap.mp h.held).2
  refine rel_or_rel_of_pairwise ((h.names.starts.and hframes).imp_of_mem
    fun hfirst hsecond hboth ↦ ?_) ha hb hne
  obtain ⟨startUs, -, hstart⟩ := h.names.named _ hfirst
  obtain ⟨laterUs, -, hlater⟩ := h.names.named _ hsecond
  exact ⟨⟨startUs, laterUs, hstart, hlater, hboth.1 _ _ hstart hlater⟩, hboth.2⟩

/-- Of two segments with frames in order, the second does not precede the first. -/
theorem Ascends.precedes_of_lt (h : Ascends ledger boundUs) {a b : SegmentFile (List LedgerEntry)}
    (ha : a ∈ ledger.dir.files) (hb : b ∈ ledger.dir.files) {startUs laterUs : ℤ}
    (hstart : a.name = segmentNameForStart startUs) (hlater : b.name = segmentNameForStart laterUs)
    (hlt : startUs < laterUs) : Precedes a b := by
  have hne : a ≠ b := by
    rintro rfl
    exact hlt.ne (segmentNameForStart_injective (hstart.symm.trans hlater))
  rcases h.precedes ha hb hne with hbefore | ⟨⟨firstUs, secondUs, hfirst, hsecond, hless⟩, -⟩
  · exact hbefore
  · obtain rfl := segmentNameForStart_injective (hfirst.symm.trans hlater)
    obtain rfl := segmentNameForStart_injective (hsecond.symm.trans hstart)
    exact absurd hlt hless.not_gt

/-- Where the times tell the order, the frames of the sorted segments are in order. -/
theorem Ascends.pairwise_sorted (h : Ascends ledger boundUs) (hstamped : StampedInOrder ledger.dir)
    {listing : List (SegmentFile (List LedgerEntry))} (hperm : listing.Perm ledger.dir.files) :
    ((sortByLastModified listing).flatMap StoredFile.content).Pairwise
      fun a b ↦ a.ptsUs < b.ptsUs := by
  have hsorted : SortedBy StoredFile.lastModified (sortByLastModified listing) :=
    sortedBy_insertionSort StoredFile.lastModified listing
  have hfiles : (sortByLastModified listing).Perm ledger.dir.files :=
    (perm_sortByLastModified listing).trans hperm
  have hnodup : (sortByLastModified listing).Nodup :=
    hfiles.nodup_iff.mpr (List.Nodup.of_map _ ledger.dir.nodup_inode)
  refine List.pairwise_flatMap.mpr ⟨fun file hfile ↦ ?_, ?_⟩
  · exact (List.pairwise_flatMap.mp h.held).1 file (hfiles.mem_iff.mp hfile)
  · refine (List.Pairwise.and hsorted hnodup).imp_of_mem ?_
    rintro a b ha hb ⟨hle, hne⟩ entry hentry later hlater
    have ha := hfiles.mem_iff.mp ha
    have hb := hfiles.mem_iff.mp hb
    rcases h.precedes ha hb hne with hbefore | ⟨⟨startUs, laterUs, hstart, hlate, hlt⟩, -⟩
    · exact hbefore.2 entry hentry later hlater
    · have hge := hstamped.ordered b hb a ha startUs laterUs hstart hlate hlt
        (List.ne_nil_of_mem hlater) (List.ne_nil_of_mem hentry)
      have hnone := hstamped.distinct a ha b hb hne (Nat.le_antisymm hle hge)
      exact absurd hnone (List.ne_nil_of_mem hentry)

end Ascend

/-! ### The clip of a listing -/

/-- What the selection and the muxer see of a segment. -/
def stamp {κ : Type*} (file : SegmentFile κ) : ℕ × κ := (file.lastModified, file.content)

/-- The selection looks at nothing but the times and the number of the segments. -/
theorem map_stamp_selectSegments {κ : Type*} {files files' : List (SegmentFile κ)}
    (hsame : files.map stamp = files'.map stamp) (segmentDurationMs seconds : ℤ) (now : ℕ) :
    (selectSegments segmentDurationMs seconds now files).map stamp =
      (selectSegments segmentDurationMs seconds now files').map stamp := by
  have hfilter : ∀ files : List (SegmentFile κ),
      (files.filter fun file ↦ !expired (seconds * 1000) now file).map stamp =
        (files.map stamp).filter fun x ↦ !decide ((now : ℤ) - x.1 > seconds * 1000) := by
    intro files
    rw [List.filter_map]
    rfl
  have hlength : files.length = files'.length := by
    simpa using congrArg List.length hsame
  have hempty : ∀ files : List (SegmentFile κ),
      (files.filter fun file ↦ !expired (seconds * 1000) now file).isEmpty =
        ((files.map stamp).filter fun x ↦ !decide ((now : ℤ) - x.1 > seconds * 1000)).isEmpty :=
    fun files ↦ by rw [← hfilter, List.isEmpty_map]
  simp only [selectSegments, hempty, hsame, hlength]
  split_ifs
  · rw [List.map_drop, List.map_drop, hsame]
  · rw [hfilter, hfilter, hsame]

/-- Every segment is selected, or the last few of them. -/
theorem selectSegments_all {κ : Type*} (segmentDurationMs : ℤ) (files : List (SegmentFile κ)) :
    selectSegments segmentDurationMs 1 0 files = files := by
  have hall : files.filter (fun file ↦ !expired (1 * 1000) 0 file) = files :=
    List.filter_eq_self.mpr fun file _ ↦ by
      rw [Bool.not_eq_true', expired_eq_false_iff]
      omega
  simp only [selectSegments, hall]
  split_ifs with hnone
  · rw [List.isEmpty_iff.mp hnone, List.drop_nil]
  · rfl

theorem exists_selectSegments_last {κ : Type*} (segmentDurationMs : ℤ)
    (files : List (SegmentFile κ)) (count : ℕ) :
    ∃ (now : ℕ) (seconds : ℤ), 0 < seconds ∧ ∀ listing : List (SegmentFile κ),
      listing.Perm files → selectSegments segmentDurationMs seconds now listing =
        listing.drop (listing.length - (count + 1)) := by
  -- So many seconds that the count comes out, at a time when all segments are older than that.
  let unit : ℤ := max 1 (segmentDurationMs / 1000)
  have hunit : 0 < unit := lt_of_lt_of_le one_pos (le_max_left _ _)
  let seconds : ℤ := (count + 1) * unit
  let oldest : ℕ := (files.map StoredFile.lastModified).sum
  have hseconds : 0 < seconds := Int.mul_pos (by omega) hunit
  refine ⟨oldest + (seconds * 1000).toNat + 1, seconds, hseconds, fun listing hperm ↦ ?_⟩
  have hnone : listing.filter (fun file ↦
      !expired (seconds * 1000) (oldest + (seconds * 1000).toNat + 1) file) = [] := by
    refine List.filter_eq_nil_iff.mpr fun file hfile ↦ ?_
    have hle : file.lastModified ≤ oldest :=
      List.single_le_sum (fun _ _ ↦ Nat.zero_le _) _ (List.mem_map_of_mem (hperm.mem_iff.mp hfile))
    have hexpired : expired (seconds * 1000) (oldest + (seconds * 1000).toNat + 1) file = true := by
      rw [expired, decide_eq_true_eq]
      omega
    simp [hexpired]
  have hwant : max 1 (seconds / unit) = (count + 1 : ℤ) := by
    rw [Int.mul_ediv_cancel _ hunit.ne']
    omega
  simp only [selectSegments, hnone, List.isEmpty_nil, if_true]
  rw [hwant]
  rfl

section Mux

variable {environment : SaveEnvironment}
  {order : List (SegmentFile (List UInt8)) → List (SegmentFile (List UInt8))}
  {perm_order : ∀ files, (order files).Perm files}

/-- The muxer does not see the listing. -/
theorem muxSegment_order (fuel : ℕ) (input : List UInt8) (passed : List Sample) :
    muxSegment { environment with order := order, perm_order := perm_order } fuel input passed =
      muxSegment environment fuel input passed := by
  induction fuel generalizing input passed with
  | zero => rfl
  | succ fuel ih =>
    cases input with
    | nil => rfl
    | cons byte input =>
      simp only [muxSegment, ih]

/-- Segments that can be read and have the same contents give the same samples. -/
theorem muxSegments_order (hreadable : ∀ name, environment.unreadable name = false)
    {segments segments' : List (SegmentFile (List UInt8))}
    (hsame : segments'.map StoredFile.content = segments.map StoredFile.content)
    (passed : List Sample) :
    muxSegments { environment with order := order, perm_order := perm_order } segments' passed =
      muxSegments environment segments passed := by
  induction segments generalizing segments' passed with
  | nil => rw [List.map_eq_nil_iff.mp hsame]; rfl
  | cons segment segments ih =>
    obtain ⟨segment', segments', rfl, hfirst, hrest⟩ := List.map_eq_cons_iff.mp hsame
    simp only [muxSegments, hreadable, Bool.false_eq_true, if_false, muxSegment_order, hfirst]
    cases muxSegment environment segment.content.length segment.content passed with
    | mk samples ending =>
      cases ending with
      | none => exact ih hrest samples
      | some exception => rfl

theorem muxClip_order (hreadable : ∀ name, environment.unreadable name = false)
    {segments segments' : List (SegmentFile (List UInt8))}
    (hsame : segments'.map StoredFile.content = segments.map StoredFile.content) :
    muxClip { environment with order := order, perm_order := perm_order } segments' =
      muxClip environment segments := by
  simp only [muxClip, muxSegments_order hreadable hsame]

end Mux

/-- Where segments of one time have one content, the samples do not depend on the listing. -/
theorem samples_order {s : ReplayState (List UInt8)}
    (hdistinct : ∀ a ∈ s.dir.files, ∀ b ∈ s.dir.files, a.lastModified = b.lastModified →
      a.content = b.content) (now : ℕ) (seconds : ℤ) (videoFormat : Option MediaFormat)
    {environment : SaveEnvironment}
    (order : List (SegmentFile (List UInt8)) → List (SegmentFile (List UInt8)))
    (perm_order : ∀ files, (order files).Perm files)
    (hreadable : ∀ name, environment.unreadable name = false) :
    (saveLastNSeconds s now seconds videoFormat
        { environment with order := order, perm_order := perm_order }).1 =
      (saveLastNSeconds s now seconds videoFormat environment).1 := by
  have hsorted : ∀ listing : List (SegmentFile (List UInt8)), listing.Perm s.dir.files →
      (sortByLastModified listing).map stamp = (sortByLastModified s.dir.files).map stamp :=
    fun _ hperm ↦ map_insertionSort_eq_of_perm hperm hdistinct
  have hstamps := map_stamp_selectSegments ((hsorted _ (perm_order s.dir.files)).trans
    (hsorted _ (environment.perm_order s.dir.files)).symm) s.buffer.segmentDurationMs seconds now
  have hcontent := congrArg (List.map Prod.snd) hstamps
  rw [List.map_map, List.map_map] at hcontent
  rw [saveLastNSeconds_eq, saveLastNSeconds_eq, segmentsToUse, segmentsToUse]
  split_ifs
  · exact muxClip_order hreadable hcontent
  · rfl

/-- The timestamps in the clip of a listing of the ledger, if nothing goes wrong. -/
def clipPts (ledger : LedgerState) (now : ℕ) (seconds : ℤ)
    (listing : List (SegmentFile (List LedgerEntry))) : List ℤ :=
  ((selectSegments ledger.buffer.segmentDurationMs seconds now
    (sortByLastModified listing)).flatMap StoredFile.content).map LedgerEntry.ptsUs

/-- The environment that lists the files of the ledger in a given order and in which no call fails.
-/
def listingOf (ledger : LedgerState) (listing : List (SegmentFile (List LedgerEntry)))
    (hperm : listing.Perm ledger.dir.files) : SaveEnvironment :=
  SaveEnvironment.faultless
    (fun files ↦ if files = ledger.bytes.dir.files then listing.map fileBytes else files)
    fun files ↦ by
      split_ifs with hfiles
      · rw [hfiles, files_bytes]
        exact hperm.map fileBytes
      · exact List.Perm.refl _

theorem samples_listingOf (ledger : LedgerState) {listing : List (SegmentFile (List LedgerEntry))}
    (hperm : listing.Perm ledger.dir.files) (now : ℕ) {seconds : ℤ} (hseconds : 0 < seconds)
    {videoFormat : Option MediaFormat} (hformat : videoFormat.isSome = true) :
    (saveLastNSeconds ledger.bytes now seconds videoFormat
        (listingOf ledger listing hperm)).1.samples.map (·.info.presentationTimeUs.toInt) =
      clipPts ledger now seconds listing := by
  have horder : (listingOf ledger listing hperm).order ledger.bytes.dir.files =
      listing.map fileBytes := if_pos rfl
  have hselected : selectSegments ledger.buffer.segmentDurationMs seconds now
      (sortByLastModified (listing.map fileBytes)) =
        (selectSegments ledger.buffer.segmentDurationMs seconds now
          (sortByLastModified listing)).map fileBytes := by
    rw [sortByLastModified_map, selectSegments_map]
  rw [saveLastNSeconds_eq, segmentsToUse, horder]
  by_cases hfiles : ledger.dir.files = []
  · have hlisting : listing = [] := (hfiles ▸ hperm).eq_nil
    subst hlisting
    rw [if_neg fun hall ↦ hall.2.2 (by rw [files_bytes, hfiles]; rfl)]
    simp [clipPts, sortByLastModified, selectSegments]
  · have hsome : ledger.bytes.dir.files ≠ [] := by
      rw [files_bytes]
      exact fun hnil ↦ hfiles (List.map_eq_nil_iff.mp hnil)
    rw [if_pos ⟨hseconds, hformat, hsome⟩, Option.elim_some]
    change List.map _ (muxClip _ (selectSegments ledger.buffer.segmentDurationMs seconds now
      (sortByLastModified (listing.map fileBytes)))).samples = _
    have hfaultless : (listingOf ledger listing hperm).Faultless :=
      SaveEnvironment.faultless_spec _ _
    rw [hselected, muxClip_faultless hfaultless _ fun segment ↦ segmentRecords segment.content]
    · rw [flatMap_segmentRecords_fileBytes, List.map_map, List.map_map]
      rfl
    · intro segment hsegment
      obtain ⟨file, -, rfl⟩ := List.mem_map.mp hsegment
      simp only [fileBytes, ledgerBytes, segmentRecords_encodeAll]

/-- The same condition on the segments of the ledger. -/
theorem stampedInOrder_bytes_iff (ledger : LedgerState) :
    StampedInOrder ledger.bytes.dir ↔ StampedInOrder ledger.dir := by
  have hempty : ∀ entries, ledgerBytes entries = ∅ ↔ entries = ∅ := by
    intro entries
    cases entries with
    | nil => exact iff_of_true rfl rfl
    | cons entry entries =>
      refine iff_of_false (fun hnil ↦ ?_) (List.cons_ne_nil _ _)
      exact segmentFraming.encode_ne_nil entry.record (List.append_eq_nil_iff.mp hnil).1
  have hmem : ∀ {file}, file ∈ ledger.dir.files → fileBytes file ∈ ledger.bytes.dir.files :=
    fun hfile ↦ List.mem_map_of_mem hfile
  constructor
  · rintro ⟨hdistinct, hordered⟩
    refine ⟨fun a ha b hb hne htime ↦ ?_, fun a ha b hb startUs laterUs hstart hlater hlt ha' hb' ↦
      ?_⟩
    · have hfiles : fileBytes a ≠ fileBytes b := by
        intro hsame
        have hinode : (fileBytes a).inode = (fileBytes b).inode := congrArg _ hsame
        exact hne (ledger.dir.eq_of_inode_eq ha hb hinode)
      exact (hempty _).mp (hdistinct _ (hmem ha) _ (hmem hb) hfiles htime)
    · exact hordered _ (hmem ha) _ (hmem hb) startUs laterUs hstart hlater hlt
        ((hempty _).not.mpr ha') ((hempty _).not.mpr hb')
  · rintro ⟨hdistinct, hordered⟩
    constructor
    · intro _ hfirst _ hsecond hne htime
      obtain ⟨a, ha, rfl⟩ := List.mem_map.mp hfirst
      obtain ⟨b, hb, rfl⟩ := List.mem_map.mp hsecond
      exact (hempty _).mpr (hdistinct a ha b hb (fun hsame ↦ hne (congrArg fileBytes hsame)) htime)
    · intro _ hfirst _ hsecond startUs laterUs hstart hlater hlt ha' hb'
      obtain ⟨a, ha, rfl⟩ := List.mem_map.mp hfirst
      obtain ⟨b, hb, rfl⟩ := List.mem_map.mp hsecond
      exact hordered a ha b hb startUs laterUs hstart hlater hlt ((hempty _).not.mp ha')
        ((hempty _).not.mp hb')

section Exact

variable {ledger : LedgerState} {boundUs : ℤ}

/-- A clip whose order is fixed, on the ledger. -/
theorem ClipOrderFixed.clipPts (h : ClipOrderFixed ledger.bytes)
    {listing listing' : List (SegmentFile (List LedgerEntry))}
    (hperm : listing.Perm ledger.dir.files) (hperm' : listing'.Perm ledger.dir.files) (now : ℕ)
    {seconds : ℤ} (hseconds : 0 < seconds) :
    clipPts ledger now seconds listing = clipPts ledger now seconds listing' ∧
      (clipPts ledger now seconds listing).Pairwise (· < ·) := by
  let format : Option MediaFormat := some ⟨"video/avc", []⟩
  have hformat : format.isSome = true := rfl
  obtain ⟨hsame, hpairs⟩ := h now seconds format (listingOf ledger listing hperm)
    (listingOf ledger listing' hperm').order (listingOf ledger listing' hperm').perm_order
    fun _ ↦ rfl
  rw [← samples_listingOf ledger hperm now hseconds hformat,
    ← samples_listingOf ledger hperm' now hseconds hformat]
  exact ⟨congrArg (List.map _) hsame, List.pairwise_map.mpr hpairs⟩

/-- Segments of one time, of which one has a frame, can be listed in either order, and a selection
by count then takes the one or the other. -/
theorem Ascends.distinct_of_fixed (h : Ascends ledger boundUs)
    (hfixed : ClipOrderFixed ledger.bytes) {a b : SegmentFile (List LedgerEntry)}
    (ha : a ∈ ledger.dir.files) (hb : b ∈ ledger.dir.files) (hne : a ≠ b)
    (htime : a.lastModified = b.lastModified) : a.content = ∅ := by
  let rest := (ledger.dir.files.erase a).erase b
  have hmem : b ∈ ledger.dir.files.erase a := (List.mem_erase_of_ne hne.symm).mpr hb
  have hperm : (a :: b :: rest).Perm ledger.dir.files :=
    ((List.perm_cons_erase ha).trans ((List.perm_cons_erase hmem).cons a)).symm
  have hperm' : (b :: a :: rest).Perm ledger.dir.files := (List.Perm.swap a b rest).trans hperm
  obtain ⟨front, back, hsorted, hsorted'⟩ := exists_insertionSort_swap htime rest
  obtain ⟨now, seconds, hseconds, hlast⟩ := exists_selectSegments_last
    ledger.buffer.segmentDurationMs ledger.dir.files back.length
  have htake : ∀ {first second : SegmentFile (List LedgerEntry)} {listing},
      listing.Perm ledger.dir.files →
      sortByLastModified listing = front ++ first :: second :: back →
      clipPts ledger now seconds listing =
        second.content.map LedgerEntry.ptsUs ++
          (back.flatMap StoredFile.content).map LedgerEntry.ptsUs := by
    intro first second listing hlisting hsort
    rw [Replay.clipPts, hlast _ ((perm_sortByLastModified listing).trans hlisting), hsort]
    have hcount : (front ++ first :: second :: back).length - (back.length + 1) =
        (front ++ [first]).length := by
      simp only [List.length_append, List.length_cons, List.length_nil]
      omega
    rw [hcount, List.append_cons front first (second :: back), List.drop_left, List.flatMap_cons,
      List.map_append]
  have hsame := (hfixed.clipPts hperm hperm' now hseconds).1
  rw [htake hperm hsorted, htake hperm' hsorted'] at hsame
  have hpts := List.append_cancel_right hsame
  by_contra hcontent
  obtain ⟨entry, hentry⟩ := List.exists_mem_of_ne_nil _ hcontent
  have hshared : entry.ptsUs ∈ b.content.map LedgerEntry.ptsUs :=
    hpts ▸ List.mem_map_of_mem hentry
  obtain ⟨other, hother, hequal⟩ := List.mem_map.mp hshared
  rcases h.precedes ha hb hne with hbefore | hafter
  · exact absurd hequal.symm (hbefore.2 entry hentry other hother).ne
  · exact absurd hequal (hafter.2 other hother entry hentry).ne

/-- A clip of all segments shows the order of their times. -/
theorem ClipOrderFixed.le_of_precedes (h : ClipOrderFixed ledger.bytes)
    {a b : SegmentFile (List LedgerEntry)} (ha : a ∈ ledger.dir.files) (hb : b ∈ ledger.dir.files)
    (hbefore : Precedes a b) (hfirst : a.content ≠ ∅) (hsecond : b.content ≠ ∅) :
    a.lastModified ≤ b.lastModified := by
  obtain ⟨entry, hentry⟩ := List.exists_mem_of_ne_nil _ hfirst
  obtain ⟨later, hlater⟩ := List.exists_mem_of_ne_nil _ hsecond
  have hlt := hbefore.2 entry hentry later hlater
  have hpairs := (h.clipPts (List.Perm.refl _) (List.Perm.refl _) 0 one_pos).2
  rw [Replay.clipPts, selectSegments_all, List.pairwise_map, List.pairwise_flatMap] at hpairs
  have hsorted : SortedBy StoredFile.lastModified (sortByLastModified ledger.dir.files) :=
    sortedBy_insertionSort StoredFile.lastModified ledger.dir.files
  have hmem : ∀ {file}, file ∈ ledger.dir.files → file ∈ sortByLastModified ledger.dir.files :=
    fun hfile ↦ (perm_sortByLastModified _).mem_iff.mpr hfile
  rcases rel_or_rel_of_pairwise (hsorted.and hpairs.2) (hmem ha) (hmem hb) hbefore.ne with
    hab | hba
  · exact hab.1
  · exact absurd hlt (hba.2 later hlater entry hentry).not_gt

end Exact

/-- The clips of a directory that ascending frames have left. -/
theorem Ascends.clipOrderFixed_iff {ledger : LedgerState} {boundUs : ℤ}
    (h : Ascends ledger boundUs) :
    ClipOrderFixed ledger.bytes ↔ StampedInOrder ledger.bytes.dir := by
  rw [stampedInOrder_bytes_iff]
  constructor
  · intro hfixed
    refine ⟨fun a ha b hb hne htime ↦ h.distinct_of_fixed hfixed ha hb hne htime,
      fun a ha b hb startUs laterUs hstart hlater hlt hfirst hsecond ↦ ?_⟩
    exact hfixed.le_of_precedes ha hb (h.precedes_of_lt ha hb hstart hlater hlt) hfirst hsecond
  · intro hstamped now seconds videoFormat environment order perm_order hreadable
    constructor
    · have hdistinct : ∀ a ∈ ledger.bytes.dir.files, ∀ b ∈ ledger.bytes.dir.files,
          a.lastModified = b.lastModified → a.content = b.content := by
        have hbytes := (stampedInOrder_bytes_iff ledger).mpr hstamped
        intro a ha b hb htime
        by_cases hsame : a = b
        · rw [hsame]
        · rw [hbytes.distinct a ha b hb hsame htime,
            hbytes.distinct b hb a ha (Ne.symm hsame) htime.symm]
      exact congrArg SaveResult.samples
        (samples_order hdistinct now seconds videoFormat order perm_order hreadable).symm
    · rcases saveLastNSeconds_bytes ledger now seconds videoFormat environment with
        ⟨hnone, -⟩ | ⟨listing, used, hperm, hused, hpart, -⟩
      · rw [hnone]
        exact List.Pairwise.nil
      · have hsub : used.Sublist (sortByLastModified listing) := by
          rw [hused, selectSegments]
          dsimp only
          split_ifs
          · exact List.drop_sublist _ _
          · exact List.filter_sublist
        have hpairs := (h.pairwise_sorted hstamped hperm).sublist (hsub.flatMap StoredFile.content)
        have hsamples : ((used.flatMap fun file ↦ file.content).map
            fun entry ↦ entry.record.toSample).Pairwise
              fun a b ↦ a.info.presentationTimeUs.toInt < b.info.presentationTimeUs.toInt :=
          List.pairwise_map.mpr hpairs
        exact hsamples.sublist hpart.sublist

/-- The segments of a new buffer on an empty directory, after any `writeFrame` calls at any times
whose timestamps strictly increase and whose records, if any, reach the files whole. For every save,
at any time and with any listing, the clip is the same and in order, exactly when the segments are
stamped in order. -/
theorem clip_order_iff {maxSeconds segmentDurationMs : ℤ} {start : ℕ}
    {fresh : ReplayState (List UInt8)}
    (hfresh : ReplayBuffer.new maxSeconds segmentDurationMs FileStore.empty start true = .ok fresh)
    {calls : List ReplayCall} (hcalls : ∀ call ∈ calls, call.WritesWhole)
    (hpts : (writtenFrames calls).Pairwise fun a b ↦ a.ptsUs < b.ptsUs) :
    ClipOrderFixed (replayRun fresh calls) ↔ StampedInOrder (replayRun fresh calls).dir := by
  have hwhole : ∀ call ∈ calls, call.AppendsWhole := by
    intro call hcall
    obtain ⟨now, op⟩ := call
    cases op with
    | writeFrame h264Buffer info fault => exact hcalls _ hcall
    | _ => exact (hcalls _ hcall).elim
  have hout : fresh.buffer.currentOut = none := by
    obtain rfl := Except.ok.inj hfresh
    rfl
  have hempty : Ascends ⟨fresh.buffer, FileStore.empty⟩ (-2 ^ 63 - 1) :=
    ⟨⟨fun file hfile ↦ absurd hfile List.not_mem_nil, List.Pairwise.nil⟩,
      fun file hfile _ ↦ absurd hfile List.not_mem_nil, List.Pairwise.nil,
      fun entry hentry ↦ absurd hentry List.not_mem_nil⟩
  have hbound : ∀ frame ∈ writtenFrames calls, -2 ^ 63 - 1 < frame.ptsUs := by
    intro frame _
    have hle := frame.sample.info.presentationTimeUs.le_toInt
    rw [WrittenFrame.ptsUs]
    omega
  obtain ⟨lastUs, hlast⟩ := hempty.run hcalls hbound hpts
  rw [← bytes_of_new hfresh, replayRun_bytes _ hwhole]
  exact hlast.clipOrderFixed_iff

/-- A frame in each of three segments, written at different times. -/
theorem clip_order_iff_three_segments :
    ∃ fresh, ReplayBuffer.new 120 1000 FileStore.empty 0 true = .ok fresh ∧
      (ClipOrderFixed (replayRun fresh [.plainWrite 1000 0 [1], .plainWrite 2000 1000000 [2],
          .plainWrite 2500 2000000 [3]]) ↔
        StampedInOrder (replayRun fresh [.plainWrite 1000 0 [1], .plainWrite 2000 1000000 [2],
          .plainWrite 2500 2000000 [3]]).dir) :=
  ⟨_, rfl, clip_order_iff rfl (by decide) (by decide)⟩

/-- Two segments that are written in the same millisecond come in the order of the listing. -/
theorem not_clipOrderFixed_same_time :
    ∃ fresh, ReplayBuffer.new 120 1000 FileStore.empty 0 true = .ok fresh ∧
      ¬ ClipOrderFixed
        (replayRun fresh [.plainWrite 1000 0 [1], .plainWrite 1000 1000000 [2]]) := by
  refine ⟨_, rfl, fun h ↦ ?_⟩
  have hsame := (h 1000 10 (some ⟨"video/avc", []⟩)
    (SaveEnvironment.faultless id fun _ ↦ List.Perm.refl _) List.reverse List.reverse_perm
    fun _ ↦ rfl).1
  exact absurd hsame (by decide)

end UvcRtmpStream.Replay
