import UvcRtmpStream.Foundations.Grid
import UvcRtmpStream.Replay.ReplayBufferSpec

/-!
# The number of segment files

Segments are cut by the timestamps of the frames and deleted by the time of their last modification,
and only when a segment is rotated. Where the timestamps run with the wall clock (`ptsAt`), each
file bears the name of the segment that was due when it was last modified (`DiskInv.named`), so that
the files that a cleanup leaves were last modified in different segments of the retention time.
There are at most two more of these than it has whole segments (`length_le_of_distinct_cells`).

A call that does not rotate leaves the number of files as it is, whatever fails in it, and so does a
save, which closes the segment: the next frame reopens the file of its segment.
-/

set_option autoImplicit false
set_option relaxedAutoImplicit false

namespace UvcRtmpStream.Replay

open UvcRtmpStream.Foundations UvcRtmpStream.Platform

/-- The timestamp of a frame that is written at a wall-clock time, where the two clocks run `offset`
milliseconds apart. -/
def ptsAt (offset : ℤ) (now : ℕ) : ℤ := 1000 * (now - offset)

/-- The name of the segment file that is due at a wall-clock time. -/
def nameAt (segmentDurationMs offset : ℤ) (now : ℕ) : String :=
  segmentNameForStart (segmentStart (segmentDurationMs * 1000) (ptsAt offset now))

/-- How many segment files there may be. -/
def segmentBound (maxSeconds segmentDurationMs : ℤ) : ℤ :=
  maxSeconds * 1000 / segmentDurationMs + 2

/-- The time at which a call writes a frame, if it does. -/
def ReplayCall.writeTime (call : ReplayCall) : Option ℕ :=
  match call.op with
  | .writeFrame (some _) (some _) _ => some call.now
  | _ => none

/-- A call of the recording: a `writeFrame` whose timestamp runs with the wall clock, or a
`saveLastNSeconds`. -/
def ReplayCall.IsPaced (offset : ℤ) (call : ReplayCall) : Prop :=
  match call.op with
  | .writeFrame (some _) (some info) _ =>
    info.presentationTimeUs.toInt = ptsAt offset call.now ∧ offset ≤ call.now
  | .writeFrame _ _ _ => True
  | .saveLastNSeconds _ _ _ => True
  | _ => False

instance decidableIsPaced (offset : ℤ) : (call : ReplayCall) → Decidable (call.IsPaced offset)
  | ⟨now, .writeFrame (some _) (some info) _⟩ => inferInstanceAs
    (Decidable (info.presentationTimeUs.toInt = ptsAt offset now ∧ offset ≤ now))
  | ⟨_, .writeFrame none _ _⟩ | ⟨_, .writeFrame (some _) none _⟩
  | ⟨_, .saveLastNSeconds _ _ _⟩ => instDecidableTrue
  | ⟨_, .construct _ _ _⟩ | ⟨_, .setMaxSeconds _⟩ | ⟨_, .shutdown⟩ => instDecidableFalse

/-- What holds after the frames written up to a wall-clock time. -/
structure DiskInv (maxSeconds segmentDurationMs offset : ℤ) (clock : ℕ)
    (s : ReplayState (List UInt8)) : Prop where
  maxSeconds_eq : s.buffer.maxSeconds = maxSeconds
  segmentDurationMs_eq : s.buffer.segmentDurationMs = segmentDurationMs
  named : ∀ file ∈ s.dir.files, offset ≤ file.lastModified ∧ file.lastModified ≤ clock ∧
    file.name = nameAt segmentDurationMs offset file.lastModified
  opened : ∀ inode ∈ s.buffer.currentOut, ∃ start : ℕ, offset ≤ start ∧ start ≤ clock ∧
    s.buffer.currentSegmentStartUs =
      segmentStart (segmentDurationMs * 1000) (ptsAt offset start) ∧
    ∀ file ∈ s.dir.files, file.inode = inode → file.name = nameAt segmentDurationMs offset start
  count : (s.dir.files.length : ℤ) ≤ segmentBound maxSeconds segmentDurationMs

section Step

variable {maxSeconds segmentDurationMs offset : ℤ} {clock now : ℕ} {s : ReplayState (List UInt8)}

theorem ptsAt_nonneg (hoffset : offset ≤ now) : 0 ≤ ptsAt offset now := by
  unfold ptsAt
  omega

theorem ptsAt_mono {first later : ℕ} (h : first ≤ later) :
    ptsAt offset first ≤ ptsAt offset later := by
  unfold ptsAt
  omega

/-- The files that a cleanup leaves. Assumes: no file was modified after the cleanup, and each bears
the name of the segment that was due when it was last modified. -/
theorem length_cleanupOldSegments_le {dir : Directory (List UInt8)} (hmax : 1 ≤ maxSeconds)
    (hduration : 200 ≤ segmentDurationMs)
    (hnamed : ∀ file ∈ dir.files, offset ≤ file.lastModified ∧ file.lastModified ≤ now ∧
      file.name = nameAt segmentDurationMs offset file.lastModified) :
    ((cleanupOldSegments maxSeconds dir now).files.length : ℤ) ≤
      segmentBound maxSeconds segmentDurationMs := by
  let period := segmentDurationMs * 1000
  let moments := (cleanupOldSegments maxSeconds dir now).files.map fun file ↦
    ptsAt offset file.lastModified
  have hperiod : 0 < period := by
    simp only [period]
    omega
  -- The files have different names, so that they were modified in different segments.
  have hdistinct : (moments.map (· / period)).Nodup := by
    have hnames := (cleanupOldSegments maxSeconds dir now).nodup_name
    have hcells : (cleanupOldSegments maxSeconds dir now).files.map StoredFile.name =
        (moments.map (· / period)).map fun cell ↦ segmentNameForStart (cell * period) := by
      rw [List.map_map, List.map_map]
      refine List.map_congr_left fun file hfile ↦ ?_
      obtain ⟨hoffset, -, hname⟩ := hnamed file (mem_cleanupOldSegments_iff.mp hfile).1
      rw [hname, nameAt, segmentStart, Int.tdiv_eq_ediv_of_nonneg (ptsAt_nonneg hoffset)]
      rfl
    rw [hcells] at hnames
    exact hnames.of_map _
  have hwindow : ∀ moment ∈ moments,
      ptsAt offset now - maxSeconds * 1000 * 1000 ≤ moment ∧ moment ≤ ptsAt offset now := by
    intro moment hmoment
    obtain ⟨file, hfile, rfl⟩ := List.mem_map.mp hmoment
    obtain ⟨hkept, hlive⟩ := mem_cleanupOldSegments_iff.mp hfile
    obtain ⟨-, hlast, -⟩ := hnamed file hkept
    exact ⟨by unfold ptsAt; omega, ptsAt_mono hlast⟩
  have hcount := length_le_of_distinct_cells hperiod (by omega) hdistinct hwindow
  rw [List.length_map] at hcount
  have hscale : maxSeconds * 1000 * 1000 / period = maxSeconds * 1000 / segmentDurationMs :=
    Int.mul_ediv_mul_of_pos_left _ _ (by decide)
  rw [hscale] at hcount
  exact hcount

namespace DiskInv

theorem wait (h : DiskInv maxSeconds segmentDurationMs offset clock s) (hclock : clock ≤ now) :
    DiskInv maxSeconds segmentDurationMs offset now s where
  maxSeconds_eq := h.maxSeconds_eq
  segmentDurationMs_eq := h.segmentDurationMs_eq
  named := fun file hfile ↦ (h.named file hfile).imp_right fun ⟨hlast, hname⟩ ↦
    ⟨hlast.trans hclock, hname⟩
  opened := by
    intro inode hinode
    obtain ⟨start, hoffset, hstart, hsegment, hname⟩ := h.opened inode hinode
    exact ⟨start, hoffset, hstart.trans hclock, hsegment, hname⟩
  count := h.count

theorem segDurUs_eq (h : DiskInv maxSeconds segmentDurationMs offset clock s) :
    s.buffer.segDurUs = segmentDurationMs * 1000 := by
  rw [ReplayBuffer.segDurUs, h.segmentDurationMs_eq]

/-- Without a rotation the open file is the one of the segment that is due. -/
theorem nameAt_of_not_needed (h : DiskInv maxSeconds segmentDurationMs offset clock s)
    (hclock : clock ≤ now) {ptsUs : Int64} (hpts : ptsUs.toInt = ptsAt offset now)
    (hneeded : rotationNeeded s.buffer ptsUs.toInt = false) :
    ∀ inode ∈ s.buffer.currentOut, ∀ file ∈ s.dir.files, file.inode = inode →
      file.name = nameAt segmentDurationMs offset now := by
  intro inode hinode file hfile hsame
  obtain ⟨start, hoffset, hstart, hsegment, hname⟩ := h.opened inode hinode
  have hdur := s.buffer.segDurUs_pos
  simp only [rotationNeeded, Bool.or_eq_false_iff, decide_eq_false_iff_not, hsegment,
    h.segDurUs_eq] at hneeded hdur
  obtain ⟨⟨-, hnonneg⟩, hrecent⟩ := hneeded
  have hstartPts := ptsAt_nonneg hoffset
  have hle : ptsAt offset start ≤ ptsUs.toInt := hpts ▸ ptsAt_mono (hstart.trans hclock)
  have hbegin := (segmentStart_le_and_lt hdur hstartPts).1
  have hmax := ptsUs.toInt_lt
  rw [wrapLong_of_mem_range (by omega) (by omega)] at hrecent
  have hsegmentNow := segmentStart_eq_of_lt hdur hstartPts hle (by omega)
  rw [hname file hfile hsame, nameAt, nameAt, ← hpts, hsegmentNow]

/-- A rotation is to the file of the segment that is due. -/
theorem rotationName_eq (h : DiskInv maxSeconds segmentDurationMs offset clock s) {ptsUs : Int64}
    (hpts : ptsUs.toInt = ptsAt offset now) :
    s.buffer.rotationName ptsUs.toInt = nameAt segmentDurationMs offset now := by
  rw [ReplayBuffer.rotationName, h.segDurUs_eq, hpts]
  rfl

/-- A cleanup keeps the bound on the number of files. -/
theorem length_cleanup_le (h : DiskInv maxSeconds segmentDurationMs offset clock s)
    {dir : Directory (List UInt8)}
    (hnamed : ∀ file ∈ dir.files, offset ≤ file.lastModified ∧ file.lastModified ≤ now ∧
      file.name = nameAt segmentDurationMs offset file.lastModified) :
    ((cleanupOldSegments maxSeconds dir now).files.length : ℤ) ≤
      segmentBound maxSeconds segmentDurationMs :=
  length_cleanupOldSegments_le (h.maxSeconds_eq ▸ s.buffer.one_le_maxSeconds)
    (h.segmentDurationMs_eq ▸ s.buffer.le_segmentDurationMs) hnamed

/-- The open file is the one of the segment that is due. -/
def OpenIsDue (segmentDurationMs offset : ℤ) (now : ℕ) (s : ReplayState (List UInt8)) : Prop :=
  ∀ inode ∈ s.buffer.currentOut, ∀ file ∈ s.dir.files, file.inode = inode →
    file.name = nameAt segmentDurationMs offset now

/-- Without a rotation the directory is left as it is. -/
theorem prepared_open (h : DiskInv maxSeconds segmentDurationMs offset clock s)
    (hclock : clock ≤ now) {ptsUs : Int64} (hpts : ptsUs.toInt = ptsAt offset now)
    (hneeded : rotationNeeded s.buffer ptsUs.toInt = false) (openFails : Bool) :
    DiskInv maxSeconds segmentDurationMs offset now (prepareAppend s now ptsUs.toInt openFails) ∧
      OpenIsDue segmentDurationMs offset now (prepareAppend s now ptsUs.toInt openFails) := by
  rw [prepareAppend_of_not_needed hneeded]
  have hwait := h.wait hclock
  have hopen : ∀ inode ∈ (countFrame s.buffer ptsUs.toInt).currentOut,
      inode ∈ s.buffer.currentOut := by
    intro inode hinode
    rwa [countFrame_currentOut] at hinode
  refine ⟨⟨?_, ?_, hwait.named, fun inode hinode ↦ ?_, h.count⟩, fun inode hinode ↦
    h.nameAt_of_not_needed hclock hpts hneeded inode (hopen inode hinode)⟩
  · exact (countFrame_maxSeconds _ _).trans h.maxSeconds_eq
  · exact (countFrame_segmentDurationMs _ _).trans h.segmentDurationMs_eq
  · rw [countFrame_currentSegmentStartUs]
    exact hwait.opened inode (hopen inode hinode)

/-- A rotation whose file cannot be opened cleans up and leaves no file open. -/
theorem prepared_closed (h : DiskInv maxSeconds segmentDurationMs offset clock s)
    (hclock : clock ≤ now) {ptsUs : Int64}
    (hneeded : rotationNeeded s.buffer ptsUs.toInt = true) :
    DiskInv maxSeconds segmentDurationMs offset now (prepareAppend s now ptsUs.toInt true) ∧
      OpenIsDue segmentDurationMs offset now (prepareAppend s now ptsUs.toInt true) := by
  obtain ⟨hdir, hout⟩ := @prepareAppend_of_openFails _ _ s now ptsUs.toInt hneeded
  rw [h.maxSeconds_eq] at hdir
  have hnamed := (h.wait hclock).named
  have hnone : ∀ inode, inode ∉ (prepareAppend s now ptsUs.toInt true).buffer.currentOut := by
    rw [hout]
    exact Option.not_mem_none
  refine ⟨⟨(prepareAppend_maxSeconds ..).trans h.maxSeconds_eq,
    (prepareAppend_segmentDurationMs ..).trans h.segmentDurationMs_eq, fun file hfile ↦ ?_,
    fun inode hinode ↦ absurd hinode (hnone inode), ?_⟩,
    fun inode hinode ↦ absurd hinode (hnone inode)⟩
  · rw [hdir] at hfile
    exact hnamed file (mem_cleanupOldSegments_iff.mp hfile).1
  · rw [hdir]
    exact h.length_cleanup_le hnamed

/-- A rotation opens the file of the segment that is due, and cleans up. -/
theorem prepared_rotated (h : DiskInv maxSeconds segmentDurationMs offset clock s)
    (hclock : clock ≤ now) (hoffset : offset ≤ now) {ptsUs : Int64}
    (hpts : ptsUs.toInt = ptsAt offset now)
    (hneeded : rotationNeeded s.buffer ptsUs.toInt = true) :
    DiskInv maxSeconds segmentDurationMs offset now (prepareAppend s now ptsUs.toInt false) ∧
      OpenIsDue segmentDurationMs offset now (prepareAppend s now ptsUs.toInt false) := by
  obtain ⟨hdir, hout, hstart⟩ := @prepareAppend_of_needed _ _ s now ptsUs.toInt hneeded
  rw [h.maxSeconds_eq, h.rotationName_eq hpts] at hdir
  rw [h.rotationName_eq hpts] at hout
  have hsegment := hstart.trans (by rw [h.segDurUs_eq, hpts])
  have hnamed : ∀ file ∈ (s.dir.openAppend (nameAt segmentDurationMs offset now) ∅ now).1.files,
      offset ≤ file.lastModified ∧ file.lastModified ≤ now ∧
        file.name = nameAt segmentDurationMs offset file.lastModified := by
    intro file hfile
    rcases s.dir.eq_of_mem_files_openAppend hfile with hold | ⟨rfl, -⟩
    · exact (h.wait hclock).named file hold
    · exact ⟨hoffset, le_rfl, rfl⟩
  have hopen : OpenIsDue segmentDurationMs offset now
      (prepareAppend s now ptsUs.toInt false) := by
    intro inode hinode file hfile hsame
    rw [hout] at hinode
    rw [hdir] at hfile
    exact s.dir.name_of_snd_openAppend (mem_cleanupOldSegments_iff.mp hfile).1
      (hsame.trans (Option.some.inj hinode).symm)
  refine ⟨⟨(prepareAppend_maxSeconds ..).trans h.maxSeconds_eq,
    (prepareAppend_segmentDurationMs ..).trans h.segmentDurationMs_eq, fun file hfile ↦ ?_,
    fun inode hinode ↦ ⟨now, hoffset, le_rfl, hsegment, hopen inode hinode⟩, ?_⟩, hopen⟩
  · rw [hdir] at hfile
    exact hnamed file (mem_cleanupOldSegments_iff.mp hfile).1
  · rw [hdir]
    exact h.length_cleanup_le hnamed

/-- The state in which `writeFrame` appends its record. -/
theorem prepared (h : DiskInv maxSeconds segmentDurationMs offset clock s) (hclock : clock ≤ now)
    (hoffset : offset ≤ now) {ptsUs : Int64} (hpts : ptsUs.toInt = ptsAt offset now)
    (openFails : Bool) :
    DiskInv maxSeconds segmentDurationMs offset now (prepareAppend s now ptsUs.toInt openFails) ∧
      OpenIsDue segmentDurationMs offset now (prepareAppend s now ptsUs.toInt openFails) := by
  cases hneeded : rotationNeeded s.buffer ptsUs.toInt with
  | false => exact h.prepared_open hclock hpts hneeded openFails
  | true =>
    cases openFails with
    | true => exact h.prepared_closed hclock hneeded
    | false => exact h.prepared_rotated hclock hoffset hpts hneeded

/-- Bytes written to the file of the segment that is due. -/
theorem write (h : DiskInv maxSeconds segmentDurationMs offset now s) (hoffset : offset ≤ now)
    {inode : ℕ} (hname : ∀ file ∈ s.dir.files, file.inode = inode →
      file.name = nameAt segmentDurationMs offset now) (change : List UInt8 → List UInt8)
    (last : ℤ) :
    DiskInv maxSeconds segmentDurationMs offset now
      ⟨{ s.buffer with lastFramePtsUs := last }, s.dir.write inode change now⟩ where
  maxSeconds_eq := h.maxSeconds_eq
  segmentDurationMs_eq := h.segmentDurationMs_eq
  named := by
    intro file hfile
    obtain ⟨old, hold, rfl⟩ := List.mem_map.mp hfile
    unfold FileStore.writeFile
    split_ifs with hwritten
    · exact ⟨hoffset, le_rfl, hname old hold hwritten⟩
    · exact h.named old hold
  opened := by
    intro other hother
    obtain ⟨start, hstart, hbefore, hsegment, hopen⟩ := h.opened other hother
    refine ⟨start, hstart, hbefore, hsegment, fun file hfile hsame ↦ ?_⟩
    obtain ⟨old, hold, rfl⟩ := List.mem_map.mp hfile
    rw [FileStore.writeFile_inode] at hsame
    rw [FileStore.writeFile_name]
    exact hopen old hold hsame
  count := by
    rw [FileStore.files_write, List.length_map]
    exact h.count

theorem written (h : DiskInv maxSeconds segmentDurationMs offset clock s) (hclock : clock ≤ now)
    (hoffset : offset ≤ now) {info : BufferInfo}
    (hpts : info.presentationTimeUs.toInt = ptsAt offset now) (h264Buffer : ByteBuffer)
    (fault : WriteFault) :
    DiskInv maxSeconds segmentDurationMs offset now
      (writeFrame s now h264Buffer info fault).2.2 := by
  obtain ⟨hprepared, hname⟩ := h.prepared hclock hoffset hpts fault.openFails
  rcases writeFrame_state s now h264Buffer info fault with
    hstate | ⟨inode, bytes, last, hout, hstate⟩
  · rw [hstate]
    exact hprepared
  · rw [hstate]
    exact hprepared.write hoffset (hname inode hout) (· ++ bytes) last

theorem closed (h : DiskInv maxSeconds segmentDurationMs offset clock s) :
    DiskInv maxSeconds segmentDurationMs offset clock
      { s with buffer := closeCurrentSegment s.buffer } where
  maxSeconds_eq := (closeCurrentSegment_maxSeconds s.buffer).trans h.maxSeconds_eq
  segmentDurationMs_eq := (closeCurrentSegment_segmentDurationMs s.buffer).trans
    h.segmentDurationMs_eq
  named := h.named
  opened := by
    intro inode hinode
    rw [closeCurrentSegment_currentOut] at hinode
    exact absurd hinode (Option.not_mem_none inode)
  count := h.count

/-- One call, whatever fails in it. -/
theorem step (h : DiskInv maxSeconds segmentDurationMs offset clock s) {call : ReplayCall}
    (hpaced : call.IsPaced offset) (hclock : ∀ time ∈ call.writeTime, clock ≤ time) :
    DiskInv maxSeconds segmentDurationMs offset (call.writeTime.getD clock)
      (replayStep s call) := by
  obtain ⟨now, op⟩ := call
  cases op with
  | construct maxSeconds segmentDurationMs dirReady => exact hpaced.elim
  | setMaxSeconds seconds => exact hpaced.elim
  | writeFrame h264Buffer info fault =>
    cases h264Buffer with
    | none => exact h
    | some h264Buffer =>
      cases info with
      | none => exact h
      | some info => exact h.written (hclock now rfl) hpaced.2 hpaced.1 h264Buffer fault
  | saveLastNSeconds seconds videoFormat environment =>
    simp only [replayStep, saveLastNSeconds]
    split_ifs
    · exact h
    · exact h
    · exact h.closed
    · exact h.closed
    · exact h.closed
  | shutdown => exact hpaced.elim

end DiskInv

end Step

/-- The run lemma: frames in order of wall-clock time, with saves anywhere between them. -/
theorem DiskInv.run {maxSeconds segmentDurationMs offset : ℤ} {calls : List ReplayCall} {clock : ℕ}
    {s : ReplayState (List UInt8)} (h : DiskInv maxSeconds segmentDurationMs offset clock s)
    (hpaced : ∀ call ∈ calls, call.IsPaced offset)
    (hsorted : (clock :: calls.filterMap ReplayCall.writeTime).Pairwise (· ≤ ·)) :
    ∃ clock, DiskInv maxSeconds segmentDurationMs offset clock (replayRun s calls) := by
  induction calls generalizing clock s with
  | nil => exact ⟨clock, h⟩
  | cons call rest ih =>
    obtain ⟨hcall, hrest⟩ := List.forall_mem_cons.mp hpaced
    obtain ⟨hfirst, htimes⟩ := List.pairwise_cons.mp hsorted
    cases htime : call.writeTime with
    | none =>
      have hstep := h.step hcall fun time hmem ↦ by rw [htime] at hmem; cases hmem
      rw [htime] at hstep
      rw [List.filterMap_cons_none htime] at hsorted
      exact ih hstep hrest hsorted
    | some time =>
      rw [List.filterMap_cons_some htime] at hfirst htimes
      have hstep := h.step hcall fun other hmem ↦ by
        rw [htime] at hmem
        obtain rfl := Option.some.inj hmem
        exact hfirst time List.mem_cons_self
      rw [htime] at hstep
      exact ih hstep hrest htimes

/-- Along frames whose timestamps run with the wall clock, written to a new buffer in order of
wall-clock time, and saves anywhere between them, there are never more segment files than whole
segments in the retention time and two. Whatever fails, only deletes succeed. -/
theorem disk_use_bounded {maxSeconds segmentDurationMs : ℤ} {start : ℕ}
    {fresh : ReplayState (List UInt8)}
    (hfresh : ReplayBuffer.new maxSeconds segmentDurationMs FileStore.empty start true = .ok fresh)
    {offset : ℤ} {calls : List ReplayCall} (hpaced : ∀ call ∈ calls, call.IsPaced offset)
    (hsorted : (calls.filterMap ReplayCall.writeTime).Pairwise (· ≤ ·)) :
    Throughout replayStep (fun s ↦ (s.dir.files.length : ℤ) ≤
      fresh.buffer.maxSeconds * 1000 / fresh.buffer.segmentDurationMs + 2) fresh calls := by
  intro taken htaken
  have hstart : DiskInv fresh.buffer.maxSeconds fresh.buffer.segmentDurationMs offset 0 fresh := by
    have hfiles : fresh.dir.files = [] := by
      obtain rfl := Except.ok.inj hfresh
      rw [cleanupOldSegments_eq_keep]
      rfl
    have hclosed : fresh.buffer.currentOut = none := by
      obtain rfl := Except.ok.inj hfresh
      rfl
    refine ⟨rfl, rfl, fun file hfile ↦ ?_, fun inode hinode ↦ ?_, ?_⟩
    · rw [hfiles] at hfile
      exact absurd hfile List.not_mem_nil
    · rw [hclosed] at hinode
      exact absurd hinode (Option.not_mem_none inode)
    · have hquotient : 0 ≤ fresh.buffer.maxSeconds * 1000 / fresh.buffer.segmentDurationMs :=
        Int.ediv_nonneg (by have hmax := fresh.buffer.one_le_maxSeconds; omega)
          (by have hduration := fresh.buffer.le_segmentDurationMs; omega)
      rw [hfiles, segmentBound, List.length_nil]
      omega
  have htimes : (0 :: taken.filterMap ReplayCall.writeTime).Pairwise (· ≤ ·) :=
    List.pairwise_cons.mpr ⟨fun time _ ↦ Nat.zero_le time,
      hsorted.sublist (htaken.sublist.filterMap _)⟩
  obtain ⟨clock, hend⟩ := hstart.run (fun call hcall ↦ hpaced call (htaken.subset hcall)) htimes
  exact hend.count

/-- Frames with a gap of eight seconds, a save between them, segments of half a second and a
retention time of one: there are never more than four files. -/
theorem disk_use_bounded_gap :
    ∃ fresh, ReplayBuffer.new 1 500 FileStore.empty 1000 true = .ok fresh ∧
      Throughout replayStep (fun s ↦ (s.dir.files.length : ℤ) ≤ 1 * 1000 / 500 + 2) fresh
        [.plainWrite 1000 0 [1], .plainWrite 1600 600000 [2],
          ⟨1700, .saveLastNSeconds 1 (some ⟨"video/avc", []⟩)
            (SaveEnvironment.faultless id fun _ ↦ List.Perm.refl _)⟩,
          .plainWrite 1800 800000 [3], .plainWrite 10000 9000000 [4]] :=
  ⟨_, rfl, @disk_use_bounded 1 500 1000 _ rfl 1000 _ (by decide) (by decide)⟩

end UvcRtmpStream.Replay
