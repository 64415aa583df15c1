import Mathlib.Algebra.Order.Ring.Int
import Mathlib.Tactic.SplitIfs
import UvcRtmpStream.Foundations.SortedWindow
import UvcRtmpStream.Replay.ReplayBuffer

/-!
# What the methods of the replay buffer do

One description for each private method of `ReplayBuffer`, which the results about runs cite instead
of unfolding the method. `cleanupOldSegments` keeps the files that are not expired, whatever the
order of the listing. `rotateSegmentIfNeeded` either does nothing or opens the file of the
timestamp's segment and cleans up. `segmentStart` is the start of the interval of one segment
duration that contains a non-negative timestamp. The muxing loop passes on a front part of the
records of the selected segments (`muxClip_samples_prefix`), and all of them when the segments hold
complete records and no call fails (`muxClip_faultless`).
-/

set_option autoImplicit false
set_option relaxedAutoImplicit false

namespace UvcRtmpStream.Replay

open UvcRtmpStream.Foundations UvcRtmpStream.Platform

variable {κ : Type*}

/-! ### Names and starts of segments -/

theorem wrapLong_of_mem_range {value : ℤ} (hlow : -2 ^ 63 ≤ value) (hhigh : value < 2 ^ 63) :
    wrapLong value = value :=
  Int.bmod_eq_of_le (by omega) (by omega)

section SegmentStart

variable {segDurUs ptsUs : ℤ}

/-- A non-negative timestamp lies within one segment duration of its segment's start. -/
theorem segmentStart_le_and_lt (hdur : 0 < segDurUs) (hpts : 0 ≤ ptsUs) :
    segmentStart segDurUs ptsUs ≤ ptsUs ∧ ptsUs < segmentStart segDurUs ptsUs + segDurUs := by
  have hdiv := Int.tmod_add_tdiv_mul ptsUs segDurUs
  have hmod := Int.tmod_nonneg segDurUs hpts
  have hlt := Int.tmod_lt_of_pos ptsUs hdur
  unfold segmentStart
  omega

theorem segmentStart_mono (hdur : 0 < segDurUs) {later : ℤ} (h : ptsUs ≤ later) :
    segmentStart segDurUs ptsUs ≤ segmentStart segDurUs later :=
  Int.mul_le_mul_of_nonneg_right (Int.tdiv_le_tdiv hdur h) hdur.le

/-- A later timestamp less than one segment duration after the start of a segment belongs to the
same segment. -/
theorem segmentStart_eq_of_lt (hdur : 0 < segDurUs) {later : ℤ} (hpts : 0 ≤ ptsUs)
    (h : ptsUs ≤ later) (hlt : later < segmentStart segDurUs ptsUs + segDurUs) :
    segmentStart segDurUs later = segmentStart segDurUs ptsUs := by
  have hle := (segmentStart_le_and_lt hdur hpts).1
  unfold segmentStart at hle hlt ⊢
  rw [Int.tdiv_eq_ediv_of_nonneg hpts] at hle hlt ⊢
  rw [Int.tdiv_eq_ediv_of_nonneg (hpts.trans h)]
  congr 1
  apply le_antisymm
  · refine Int.lt_add_one_iff.mp (Int.ediv_lt_of_lt_mul hdur ?_)
    rw [add_mul, one_mul]
    exact hlt
  · exact Int.ediv_le_ediv hdur h

end SegmentStart

theorem ReplayBuffer.segDurUs_pos (buffer : ReplayBuffer) : 0 < buffer.segDurUs := by
  have h := buffer.le_segmentDurationMs
  unfold ReplayBuffer.segDurUs
  omega

/-! ### Cleanup -/

theorem perm_sortByLastModified (files : List (SegmentFile κ)) :
    (sortByLastModified files).Perm files := List.perm_insertionSort _ _

theorem expired_eq_false_iff {keepMs : ℤ} {now : ℕ} {file : SegmentFile κ} :
    expired keepMs now file = false ↔ (now : ℤ) ≤ file.lastModified + keepMs := by
  unfold expired
  rw [decide_eq_false_iff_not]
  omega

/-- In a list of files in order of modification, the expired ones are a front part. -/
theorem exists_append_not_expired {files : List (SegmentFile κ)}
    (hsorted : SortedBy StoredFile.lastModified files) (keepMs : ℤ) (now : ℕ) :
    ∃ cut, files = cut ++ files.filter (fun file ↦ !expired keepMs now file) ∧
      ∀ file ∈ cut, (file.lastModified : ℤ) + keepMs < now := by
  have hsortedInt : SortedBy (fun file : SegmentFile κ ↦ (file.lastModified : ℤ)) files :=
    hsorted.imp fun hle ↦ Int.ofNat_le.mpr hle
  obtain ⟨cut, hfiles, hcut⟩ := exists_append_filter_of_sorted hsortedInt ((now : ℤ) - keepMs)
  have htest : (fun file : SegmentFile κ ↦ !expired keepMs now file) =
      fun file ↦ decide ((now : ℤ) - keepMs ≤ file.lastModified) := by
    funext file
    rw [Bool.eq_iff_iff, Bool.not_eq_true', expired_eq_false_iff, decide_eq_true_eq]
    omega
  rw [htest]
  exact ⟨cut, hfiles, fun file hfile ↦ by have hlt := hcut file hfile; omega⟩

/-- The cleanup keeps exactly the files that are not expired. -/
theorem cleanupOldSegments_eq_keep (maxSeconds : ℤ) (dir : Directory κ) (now : ℕ) :
    cleanupOldSegments maxSeconds dir now =
      dir.keep fun file ↦ !expired (maxSeconds * 1000) now file := by
  unfold cleanupOldSegments
  rw [← List.foldl_filter, FileStore.foldl_delete_eq_keep]
  refine dir.keep_congr fun file hfile ↦ ?_
  by_cases hexpired : expired (maxSeconds * 1000) now file
  · rw [hexpired, Bool.not_true, decide_eq_false_iff_not]
    intro hnone
    refine hnone file (List.mem_filter.mpr ⟨?_, hexpired⟩) rfl
    exact (perm_sortByLastModified _).mem_iff.mpr hfile
  · rw [Bool.not_eq_true] at hexpired
    rw [hexpired, Bool.not_false, decide_eq_true_eq]
    intro other hother hname
    obtain ⟨hmem, hold⟩ := List.mem_filter.mp hother
    have heq := dir.eq_of_name_eq ((perm_sortByLastModified _).mem_iff.mp hmem) hfile hname
    rw [heq, hexpired] at hold
    cases hold

theorem mem_cleanupOldSegments_iff {maxSeconds : ℤ} {dir : Directory κ} {now : ℕ}
    {file : SegmentFile κ} :
    file ∈ (cleanupOldSegments maxSeconds dir now).files ↔
      file ∈ dir.files ∧ (now : ℤ) ≤ file.lastModified + maxSeconds * 1000 := by
  rw [cleanupOldSegments_eq_keep, FileStore.files_keep, List.mem_filter, Bool.not_eq_true',
    expired_eq_false_iff]

/-! ### Selecting segments for a clip -/

/-- From files in order of modification the selection is a back part, not empty when there is a
file, and the files in front of it were all modified before the last `seconds`. In the selection by
count no file was modified within them. -/
theorem exists_append_selectSegments {files : List (SegmentFile κ)}
    (hsorted : SortedBy StoredFile.lastModified files) (segmentDurationMs seconds : ℤ) (now : ℕ) :
    ∃ unused, files = unused ++ selectSegments segmentDurationMs seconds now files ∧
      (∀ file ∈ unused, (file.lastModified : ℤ) + seconds * 1000 < now) ∧
      (files ≠ [] → selectSegments segmentDurationMs seconds now files ≠ []) := by
  obtain ⟨cut, hfiles, hcut⟩ := exists_append_not_expired hsorted (seconds * 1000) now
  simp only [selectSegments]
  split_ifs with hnone
  · rw [List.isEmpty_iff] at hnone
    rw [hnone, List.append_nil] at hfiles
    refine ⟨files.take _, (List.take_append_drop _ files).symm, fun file hfile ↦ ?_, fun hne ↦ ?_⟩
    · exact hcut file (hfiles ▸ List.mem_of_mem_take hfile)
    · have hlength := List.length_pos_of_ne_nil hne
      rw [Ne, List.drop_eq_nil_iff]
      omega
  · exact ⟨cut, hfiles, hcut, fun _ hnil ↦ hnone (List.isEmpty_iff.mpr hnil)⟩

/-- With a recent file, the selection is by time. -/
theorem selectSegments_of_recent {files : List (SegmentFile κ)} {segmentDurationMs seconds : ℤ}
    {now : ℕ} (h : ∃ file ∈ files, (now : ℤ) ≤ file.lastModified + seconds * 1000) :
    selectSegments segmentDurationMs seconds now files =
      files.filter fun file ↦ !expired (seconds * 1000) now file := by
  obtain ⟨file, hfile, hrecent⟩ := h
  refine if_neg fun hnone ↦ ?_
  have hmem : file ∈ files.filter fun file ↦ !expired (seconds * 1000) now file := by
    rw [List.mem_filter, Bool.not_eq_true', expired_eq_false_iff]
    exact ⟨hfile, hrecent⟩
  rw [List.isEmpty_iff.mp hnone] at hmem
  cases hmem

/-! ### Closing and rotating -/

@[simp] theorem closeCurrentSegment_currentOut (buffer : ReplayBuffer) :
    (closeCurrentSegment buffer).currentOut = none := by
  unfold closeCurrentSegment
  split
  · rfl
  · next h => simpa using h

@[simp] theorem closeCurrentSegment_maxSeconds (buffer : ReplayBuffer) :
    (closeCurrentSegment buffer).maxSeconds = buffer.maxSeconds := by
  unfold closeCurrentSegment
  split <;> rfl

@[simp] theorem closeCurrentSegment_segmentDurationMs (buffer : ReplayBuffer) :
    (closeCurrentSegment buffer).segmentDurationMs = buffer.segmentDurationMs := by
  unfold closeCurrentSegment
  split <;> rfl

@[simp] theorem countFrame_maxSeconds (buffer : ReplayBuffer) (ptsUs : ℤ) :
    (countFrame buffer ptsUs).maxSeconds = buffer.maxSeconds := by
  unfold countFrame
  split <;> rfl

@[simp] theorem countFrame_segmentDurationMs (buffer : ReplayBuffer) (ptsUs : ℤ) :
    (countFrame buffer ptsUs).segmentDurationMs = buffer.segmentDurationMs := by
  unfold countFrame
  split <;> rfl

@[simp] theorem countFrame_currentOut (buffer : ReplayBuffer) (ptsUs : ℤ) :
    (countFrame buffer ptsUs).currentOut = buffer.currentOut := by
  unfold countFrame
  split <;> rfl

@[simp] theorem countFrame_currentSegmentStartUs (buffer : ReplayBuffer) (ptsUs : ℤ) :
    (countFrame buffer ptsUs).currentSegmentStartUs = buffer.currentSegmentStartUs := by
  unfold countFrame
  split <;> rfl

theorem ReplayBuffer.segDurUs_congr {first second : ReplayBuffer}
    (h : first.segmentDurationMs = second.segmentDurationMs) :
    first.segDurUs = second.segDurUs := by
  unfold ReplayBuffer.segDurUs
  rw [h]

section Rotate

variable [EmptyCollection κ] {s : ReplayState κ} {now : ℕ} {ptsUs : ℤ}

/-- No rotation: the open stream goes on being used. -/
theorem rotateSegmentIfNeeded_of_not_needed {openFails : Bool}
    (h : rotationNeeded s.buffer ptsUs = false) :
    rotateSegmentIfNeeded s now ptsUs openFails = s := by
  simp [rotateSegmentIfNeeded, h]

/-- A rotation whose file opens: the stream writes to the file of the timestamp's segment, and the
cleanup has run on the directory with that file in it. -/
theorem rotateSegmentIfNeeded_of_needed (h : rotationNeeded s.buffer ptsUs = true) :
    (rotateSegmentIfNeeded s now ptsUs false).dir =
        cleanupOldSegments s.buffer.maxSeconds
          (s.dir.openAppend (s.buffer.rotationName ptsUs) ∅ now).1 now ∧
      (rotateSegmentIfNeeded s now ptsUs false).buffer.currentOut =
        some (s.dir.openAppend (s.buffer.rotationName ptsUs) ∅ now).2 ∧
      (rotateSegmentIfNeeded s now ptsUs false).buffer.currentSegmentStartUs =
        segmentStart s.buffer.segDurUs ptsUs := by
  simp [rotateSegmentIfNeeded, h]

@[simp] theorem rotateSegmentIfNeeded_maxSeconds (openFails : Bool) :
    (rotateSegmentIfNeeded s now ptsUs openFails).buffer.maxSeconds = s.buffer.maxSeconds := by
  unfold rotateSegmentIfNeeded
  split_ifs <;> simp

@[simp] theorem rotateSegmentIfNeeded_segmentDurationMs (openFails : Bool) :
    (rotateSegmentIfNeeded s now ptsUs openFails).buffer.segmentDurationMs =
      s.buffer.segmentDurationMs := by
  unfold rotateSegmentIfNeeded
  split_ifs <;> simp

end Rotate

/-! ### The parts of `writeFrame` -/

/-- The state in which `writeFrame` appends its record: the frame is counted and the segment rotated
if needed. -/
def prepareAppend {κ : Type*} [EmptyCollection κ] (s : ReplayState κ) (now : ℕ) (ptsUs : ℤ)
    (openFails : Bool) : ReplayState κ :=
  rotateSegmentIfNeeded { s with buffer := countFrame s.buffer ptsUs } now ptsUs openFails

section Append

variable [EmptyCollection κ] {s : ReplayState κ} {now : ℕ} {ptsUs : ℤ}

@[simp] theorem rotationNeeded_countFrame (buffer : ReplayBuffer) (ptsUs : ℤ) :
    rotationNeeded (countFrame buffer ptsUs) ptsUs = rotationNeeded buffer ptsUs := by
  unfold rotationNeeded
  rw [countFrame_currentOut, countFrame_currentSegmentStartUs,
    ReplayBuffer.segDurUs_congr (countFrame_segmentDurationMs buffer ptsUs)]

@[simp] theorem rotationName_countFrame (buffer : ReplayBuffer) (ptsUs : ℤ) :
    (countFrame buffer ptsUs).rotationName ptsUs = buffer.rotationName ptsUs := by
  unfold ReplayBuffer.rotationName
  rw [ReplayBuffer.segDurUs_congr (countFrame_segmentDurationMs buffer ptsUs)]

@[simp] theorem prepareAppend_maxSeconds (openFails : Bool) :
    (prepareAppend s now ptsUs openFails).buffer.maxSeconds = s.buffer.maxSeconds := by
  simp [prepareAppend]

@[simp] theorem prepareAppend_segmentDurationMs (openFails : Bool) :
    (prepareAppend s now ptsUs openFails).buffer.segmentDurationMs =
      s.buffer.segmentDurationMs := by
  simp [prepareAppend]

/-- When no rotation is needed the frame is counted, and that is all. -/
theorem prepareAppend_of_not_needed {openFails : Bool} (h : rotationNeeded s.buffer ptsUs = false) :
    prepareAppend s now ptsUs openFails = { s with buffer := countFrame s.buffer ptsUs } :=
  rotateSegmentIfNeeded_of_not_needed (by simpa using h)

/-- A rotation whose file opens: the stream writes to the file of the timestamp's segment, and the
cleanup has run on the directory with that file in it. -/
theorem prepareAppend_of_needed (h : rotationNeeded s.buffer ptsUs = true) :
    (prepareAppend s now ptsUs false).dir =
        cleanupOldSegments s.buffer.maxSeconds
          (s.dir.openAppend (s.buffer.rotationName ptsUs) ∅ now).1 now ∧
      (prepareAppend s now ptsUs false).buffer.currentOut =
        some (s.dir.openAppend (s.buffer.rotationName ptsUs) ∅ now).2 ∧
      (prepareAppend s now ptsUs false).buffer.currentSegmentStartUs =
        segmentStart s.buffer.segDurUs ptsUs := by
  have hrotate := @rotateSegmentIfNeeded_of_needed _ _
    { s with buffer := countFrame s.buffer ptsUs } now ptsUs (by simpa using h)
  rw [rotationName_countFrame, countFrame_maxSeconds,
    ReplayBuffer.segDurUs_congr (countFrame_segmentDurationMs s.buffer ptsUs)] at hrotate
  exact hrotate

/-- A rotation whose file does not open: no stream is open, and the cleanup has run. -/
theorem prepareAppend_of_openFails (h : rotationNeeded s.buffer ptsUs = true) :
    (prepareAppend s now ptsUs true).dir = cleanupOldSegments s.buffer.maxSeconds s.dir now ∧
      (prepareAppend s now ptsUs true).buffer.currentOut = none := by
  simp [prepareAppend, rotateSegmentIfNeeded, h]

/-- The file of the directory that a `writeFrame` at a timestamp goes on with: the one that is open,
or, when the segment is rotated, the file of the timestamp's segment unless it is expired. -/
def IsAppendTarget (s : ReplayState κ) (now : ℕ) (ptsUs : ℤ) (file : SegmentFile κ) : Prop :=
  if rotationNeeded s.buffer ptsUs then
    file.name = s.buffer.rotationName ptsUs ∧ expired (s.buffer.maxSeconds * 1000) now file = false
  else s.buffer.currentOut = some file.inode

omit [EmptyCollection κ] in
instance (file : SegmentFile κ) : Decidable (IsAppendTarget s now ptsUs file) := by
  unfold IsAppendTarget
  infer_instance

/-- A rotation that opens makes a new file: there is none of the timestamp's segment. -/
def MakesSegment (s : ReplayState κ) (ptsUs : ℤ) : Prop :=
  rotationNeeded s.buffer ptsUs = true ∧
    ∀ file ∈ s.dir.files, file.name ≠ s.buffer.rotationName ptsUs

omit [EmptyCollection κ] in
instance : Decidable (MakesSegment s ptsUs) := by
  unfold MakesSegment
  infer_instance

/-- The files in front of which `writeFrame` appends are old ones, and perhaps a new empty one. A
file that the stream is open on is the append target, or the new one. -/
theorem mem_prepareAppend {openFails : Bool} {file : SegmentFile κ}
    (hfile : file ∈ (prepareAppend s now ptsUs openFails).dir.files) :
    (file ∈ s.dir.files ∧
      ((prepareAppend s now ptsUs openFails).buffer.currentOut = some file.inode →
        IsAppendTarget s now ptsUs file)) ∨ file.content = ∅ ∧ MakesSegment s ptsUs := by
  cases hneeded : rotationNeeded s.buffer ptsUs with
  | false =>
    rw [prepareAppend_of_not_needed hneeded] at hfile ⊢
    refine Or.inl ⟨hfile, fun hout ↦ ?_⟩
    rw [IsAppendTarget, if_neg (by simp [hneeded])]
    simpa using hout
  | true =>
    cases openFails with
    | true =>
      obtain ⟨hdir, hout⟩ := @prepareAppend_of_openFails _ _ s now ptsUs hneeded
      rw [hdir] at hfile
      rw [hout]
      exact Or.inl ⟨(mem_cleanupOldSegments_iff.mp hfile).1, fun hinode ↦ nomatch hinode⟩
    | false =>
      obtain ⟨hdir, hout, -⟩ := @prepareAppend_of_needed _ _ s now ptsUs hneeded
      rw [hdir, mem_cleanupOldSegments_iff] at hfile
      obtain ⟨hopened, hlive⟩ := hfile
      rw [hout, IsAppendTarget, if_pos hneeded]
      rcases s.dir.eq_of_mem_files_openAppend hopened with hold | ⟨rfl, hnone⟩
      · exact Or.inl ⟨hold, fun hinode ↦ ⟨s.dir.name_of_snd_openAppend hopened
          (Option.some.inj hinode).symm, expired_eq_false_iff.mpr hlive⟩⟩
      · exact Or.inr ⟨rfl, hneeded, s.dir.lookup_eq_none_iff.mp hnone⟩

/-- With a stream open afterwards, no error on opening played a part. -/
theorem prepareAppend_eq_of_currentOut {openFails : Bool} {inode : ℕ}
    (h : (prepareAppend s now ptsUs openFails).buffer.currentOut = some inode) :
    prepareAppend s now ptsUs openFails = prepareAppend s now ptsUs false := by
  cases hneeded : rotationNeeded s.buffer ptsUs with
  | false => rw [prepareAppend_of_not_needed hneeded, prepareAppend_of_not_needed hneeded]
  | true =>
    cases openFails with
    | false => rfl
    | true => simp [prepareAppend, rotateSegmentIfNeeded, hneeded] at h

end Append

/-! ### Reading a frame from the caller's buffer -/

/-- A frame is read when its size is between zero and the number of remaining bytes. The caller's
buffer is left as it was. -/
theorem readFrame_eq_ok_iff {h264Buffer restored : ByteBuffer} {info : BufferInfo}
    {record : SegmentRecord} :
    readFrame h264Buffer info = .ok (record, restored) ↔
      0 ≤ info.size.toInt ∧ info.size.toInt ≤ h264Buffer.remaining ∧
        record.ptsUs = info.presentationTimeUs ∧ record.flags = info.flags ∧
        record.data = (h264Buffer.content.drop h264Buffer.position).take info.size.toInt.toNat ∧
        restored = h264Buffer := by
  unfold readFrame
  split_ifs with hnegative
  · simp only [false_iff]
    omega
  · by_cases henough : info.size.toInt.toNat ≤ h264Buffer.remaining
    · obtain ⟨moved, hget, hset⟩ := h264Buffer.get_setPosition henough
      split
      · next hget' =>
        rw [hget] at hget'
        cases hget'
      · next hget' =>
        rw [hget] at hget'
        cases hget'
        rw [hset]
        simp only [Except.ok.injEq, Prod.mk.injEq]
        constructor
        · rintro ⟨rfl, rfl⟩
          exact ⟨by omega, by omega, rfl, rfl, rfl, rfl⟩
        · rintro ⟨-, -, hpts, hflags, hdata, rfl⟩
          refine ⟨?_, rfl⟩
          cases record
          simp_all
    · have hget : h264Buffer.get info.size.toInt.toNat = .error .bufferUnderflow := dif_neg henough
      split
      · simp only [reduceCtorEq, false_iff]
        omega
      · next hget' =>
        rw [hget] at hget'
        cases hget'

/-- Everything from the buffer's position is read when the info's size says so. -/
theorem exists_readFrame_of_size_eq {h264Buffer : ByteBuffer} {info : BufferInfo}
    (hsize : info.size.toInt = h264Buffer.remaining) :
    ∃ record, readFrame h264Buffer info = .ok (record, h264Buffer) ∧
      record.toSample =
        ⟨⟨0, info.size, info.presentationTimeUs, info.flags⟩, h264Buffer.remainingBytes⟩ := by
  have hlength : h264Buffer.remainingBytes.length < 2 ^ 31 := by
    have hlt := info.size.toInt_lt
    rw [ByteBuffer.length_remainingBytes]
    omega
  refine ⟨⟨info.presentationTimeUs, info.flags, h264Buffer.remainingBytes, hlength⟩, ?_, ?_⟩
  · refine readFrame_eq_ok_iff.mpr ⟨by omega, by omega, rfl, rfl, ?_, rfl⟩
    rw [hsize, Int.toNat_natCast]
    rfl
  · have hfield : SegmentRecord.size
        ⟨info.presentationTimeUs, info.flags, h264Buffer.remainingBytes, hlength⟩ = info.size := by
      apply Int32.toInt.inj
      rw [SegmentRecord.toInt_size, ByteBuffer.length_remainingBytes, hsize]
    rw [SegmentRecord.toSample, hfield]

/-- On every exit `writeFrame` leaves the caller's buffer as it found it. -/
theorem writeFrame_buffer (s : ReplayState (List UInt8)) (now : ℕ) (h264Buffer : ByteBuffer)
    (info : BufferInfo) (fault : WriteFault) :
    (writeFrame s now h264Buffer info fault).2.1 = h264Buffer := by
  simp only [writeFrame]
  split
  · rfl
  · split
    · rfl
    · next record restored hread =>
      obtain ⟨-, -, -, -, -, hrestored⟩ := readFrame_eq_ok_iff.mp hread
      split <;> exact hrestored

/-- A frame that was written: the stream it went to, and the state afterwards. -/
theorem writeFrame_of_written {s : ReplayState (List UInt8)} {now : ℕ} {h264Buffer : ByteBuffer}
    {info : BufferInfo} {fault : WriteFault}
    (h : (writeFrame s now h264Buffer info fault).1 = .written) {record : SegmentRecord}
    {restored : ByteBuffer} (hread : readFrame h264Buffer info = .ok (record, restored)) :
    ∃ inode,
      (prepareAppend s now info.presentationTimeUs.toInt false).buffer.currentOut = some inode ∧
      (writeFrame s now h264Buffer info fault).2.2 =
        { buffer :=
            { (prepareAppend s now info.presentationTimeUs.toInt false).buffer with
              lastFramePtsUs := info.presentationTimeUs.toInt }
          dir := (prepareAppend s now info.presentationTimeUs.toInt false).dir.write inode
            (· ++ encodeRecord record) now } := by
  cases hout : (prepareAppend s now info.presentationTimeUs.toInt fault.openFails).buffer.currentOut
    with
  | none =>
    rw [prepareAppend] at hout
    simp [writeFrame, hout] at h
  | some inode =>
    rw [← prepareAppend_eq_of_currentOut hout]
    refine ⟨inode, hout, ?_⟩
    rw [prepareAppend] at hout ⊢
    simp only [writeFrame, hout, hread] at h ⊢
    split at h <;> simp_all

/-- Whatever happens, `writeFrame` leaves the state as the rotation left it, or has appended some
bytes through the open stream, but for `lastFramePtsUs`. -/
theorem writeFrame_state (s : ReplayState (List UInt8)) (now : ℕ) (h264Buffer : ByteBuffer)
    (info : BufferInfo) (fault : WriteFault) :
    (writeFrame s now h264Buffer info fault).2.2 =
        prepareAppend s now info.presentationTimeUs.toInt fault.openFails ∨
      ∃ inode bytes last,
        (prepareAppend s now info.presentationTimeUs.toInt fault.openFails).buffer.currentOut =
          some inode ∧
        (writeFrame s now h264Buffer info fault).2.2 =
          { buffer :=
              { (prepareAppend s now info.presentationTimeUs.toInt fault.openFails).buffer with
                lastFramePtsUs := last }
            dir := (prepareAppend s now info.presentationTimeUs.toInt fault.openFails).dir.write
              inode (· ++ bytes) now } := by
  rw [prepareAppend]
  simp only [writeFrame]
  split
  · exact Or.inl rfl
  · next inode hout =>
    split
    · exact Or.inl rfl
    · split
      · exact Or.inr ⟨inode, _, _, hout, rfl⟩
      · exact Or.inl rfl
      · exact Or.inr ⟨inode, _, _, hout, rfl⟩

@[simp] theorem writeFrame_maxSeconds (s : ReplayState (List UInt8)) (now : ℕ)
    (h264Buffer : ByteBuffer) (info : BufferInfo) (fault : WriteFault) :
    (writeFrame s now h264Buffer info fault).2.2.buffer.maxSeconds = s.buffer.maxSeconds := by
  rcases writeFrame_state s now h264Buffer info fault with hstate | ⟨inode, bytes, last, -, hstate⟩
  · rw [hstate, prepareAppend_maxSeconds]
  · rw [hstate, prepareAppend_maxSeconds]

/-! ### Muxing -/

/-- The records that the reading loop delivers from the contents of a segment. -/
def segmentRecords (content : List UInt8) : List SegmentRecord :=
  (segmentFraming.readAll content.length content).1

theorem segmentRecords_encodeAll (records : List SegmentRecord) :
    segmentRecords (segmentFraming.encodeAll records) = records := by
  rw [segmentRecords, segmentFraming.readAll_encodeAll]

/-- The reading loop on one segment passes on a front part of its records, and all of them unless an
exception leaves the loop. -/
theorem muxSegment_samples (environment : SaveEnvironment) (fuel : ℕ) (input : List UInt8)
    (passed : List Sample) :
    ∃ accepted, (muxSegment environment fuel input passed).1 = passed ++ accepted ∧
      accepted <+: (segmentFraming.readAll fuel input).1.map SegmentRecord.toSample ∧
      ((muxSegment environment fuel input passed).2 = none →
        accepted = (segmentFraming.readAll fuel input).1.map SegmentRecord.toSample) := by
  induction fuel generalizing input passed with
  | zero => exact ⟨[], by simp [muxSegment], by simp, fun _ ↦ rfl⟩
  | succ fuel ih =>
    cases input with
    | nil => exact ⟨[], by simp [muxSegment], by simp, fun _ ↦ rfl⟩
    | cons byte input =>
      simp only [muxSegment, Framing.readAll, segmentFraming]
      cases hread : readRecord (byte :: input) with
      | error failure =>
        refine ⟨[], ?_, List.nil_prefix, fun _ ↦ rfl⟩
        cases failure <;> simp
      | ok pair =>
        obtain ⟨record, rest⟩ := pair
        simp only
        split_ifs with hreject
        · exact ⟨[], by simp, List.nil_prefix, fun h ↦ by cases h⟩
        · obtain ⟨accepted, hsamples, hpart, hall⟩ := ih rest (passed ++ [record.toSample])
          refine ⟨record.toSample :: accepted, ?_, ?_, fun h ↦ ?_⟩
          · rw [hsamples, List.append_assoc, List.singleton_append]
          · rw [List.map_cons]
            exact List.cons_prefix_cons.mpr ⟨rfl, hpart⟩
          · rw [hall h]
            rfl

/-- The loop over the segments passes on a front part of the records of the segments in order. -/
theorem muxSegments_samples (environment : SaveEnvironment)
    (segments : List (SegmentFile (List UInt8))) (passed : List Sample) :
    ∃ accepted, (muxSegments environment segments passed).1 = passed ++ accepted ∧
      accepted <+: (segments.flatMap fun segment ↦ segmentRecords segment.content).map
        SegmentRecord.toSample := by
  induction segments generalizing passed with
  | nil => exact ⟨[], by simp [muxSegments], List.nil_prefix⟩
  | cons segment segments ih =>
    simp only [muxSegments]
    split_ifs with hunreadable
    · exact ⟨[], by simp, List.nil_prefix⟩
    · obtain ⟨accepted, hsamples, hpart, hall⟩ :=
        muxSegment_samples environment segment.content.length segment.content passed
      rw [List.flatMap_cons, List.map_append]
      cases hmux : muxSegment environment segment.content.length segment.content passed with
      | mk samples ending =>
        rw [hmux] at hsamples hall
        cases ending with
        | some exception =>
          exact ⟨accepted, hsamples, hpart.trans (List.prefix_append _ _)⟩
        | none =>
          obtain ⟨more, hmore, hmorePart⟩ := ih samples
          refine ⟨accepted ++ more, ?_, ?_⟩
          · simp only at hsamples
            rw [hmore, hsamples, List.append_assoc]
          · rw [hall rfl]
            exact (List.prefix_append_right_inj _).mpr hmorePart

/-- Whatever the muxer does, the clip is a front part of the records of the selected segments. -/
theorem muxClip_samples_prefix (environment : SaveEnvironment)
    (toUse : List (SegmentFile (List UInt8))) :
    (muxClip environment toUse).samples <+:
      (toUse.flatMap fun segment ↦ segmentRecords segment.content).map SegmentRecord.toSample := by
  obtain ⟨accepted, hsamples, hpart⟩ := muxSegments_samples environment toUse []
  rw [List.nil_append] at hsamples
  unfold muxClip
  split_ifs
  · exact List.nil_prefix
  · exact List.nil_prefix
  · exact List.nil_prefix
  · split <;> simp_all

theorem SaveEnvironment.faultless_spec
    (order : List (SegmentFile (List UInt8)) → List (SegmentFile (List UInt8)))
    (perm_order : ∀ files, (order files).Perm files) :
    (SaveEnvironment.faultless order perm_order).Faultless :=
  ⟨fun _ ↦ rfl, rfl, rfl, rfl, fun _ ↦ rfl, rfl⟩

/-- The exception of a failed read, which leaves the method's loops. A size mismatch breaks the
inner one. -/
def ReadFailure.thrown : ReadFailure → Option JavaException
  | .endOfFile => some .ioException
  | .negativeArraySize => some .negativeArraySize
  | .sizeMismatch => none

/-- To a muxer that accepts every sample the loop passes on all records of a segment. It ends with
the exception of the read that failed, if that throws one. -/
theorem muxSegment_of_accepts {environment : SaveEnvironment}
    (haccepts : ∀ n, environment.rejectsSample n = false) (fuel : ℕ) (input : List UInt8)
    (passed : List Sample) :
    muxSegment environment fuel input passed =
      (passed ++ (segmentFraming.readAll fuel input).1.map SegmentRecord.toSample,
        (segmentFraming.readAll fuel input).2.bind ReadFailure.thrown) := by
  induction fuel generalizing input passed with
  | zero => simp [muxSegment, Framing.readAll]
  | succ fuel ih =>
    cases input with
    | nil => simp [muxSegment, Framing.readAll]
    | cons byte input =>
      simp only [muxSegment, Framing.readAll, segmentFraming]
      cases hread : readRecord (byte :: input) with
      | error failure => cases failure <;> simp [ReadFailure.thrown]
      | ok pair =>
        obtain ⟨record, rest⟩ := pair
        have hrest := ih rest (passed ++ [record.toSample])
        simp only [haccepts, Bool.false_eq_true, if_false, hrest, List.append_assoc,
          List.map_cons, List.singleton_append]
        rfl

/-- Segments of complete records and no failing call: the clip is all records of the selected
segments. -/
theorem muxClip_faultless {environment : SaveEnvironment} (h : environment.Faultless)
    (toUse : List (SegmentFile (List UInt8)))
    (records : SegmentFile (List UInt8) → List SegmentRecord)
    (hcontent : ∀ segment ∈ toUse, segment.content = segmentFraming.encodeAll (records segment)) :
    muxClip environment toUse =
      ⟨.ok true, (toUse.flatMap records).map SegmentRecord.toSample, true⟩ := by
  have hloop : ∀ passed, muxSegments environment toUse passed =
      (passed ++ (toUse.flatMap records).map SegmentRecord.toSample, none) := by
    induction toUse with
    | nil => intro passed; simp [muxSegments]
    | cons segment rest ih =>
      intro passed
      have hsegment := hcontent segment List.mem_cons_self
      have hread : segmentFraming.readAll segment.content.length segment.content =
          (records segment, none) := by
        rw [hsegment]
        exact segmentFraming.readAll_encodeAll (records segment)
      have hmux := muxSegment_of_accepts h.2.2.2.2.1 segment.content.length segment.content passed
      rw [hread, Option.bind_none] at hmux
      simp only [muxSegments, h.1, Bool.false_eq_true, if_false, hmux]
      rw [ih fun other hother ↦ hcontent other (List.mem_cons_of_mem _ hother)]
      simp
  obtain ⟨-, hcreate, hadd, hstart, -, hstop⟩ := h
  simp [muxClip, hcreate, hadd, hstart, hstop, hloop]

end UvcRtmpStream.Replay
