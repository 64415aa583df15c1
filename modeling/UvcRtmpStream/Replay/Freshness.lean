import UvcRtmpStream.Replay.Ledger

/-!
# How old the frames of a clip are

A clip of the last `N` seconds is meant to hold frames of the last `N` seconds and at most one
segment more. `saveLastNSeconds` selects whole segments by the time of their last modification, so a
frame can be older than the clip by the time between it and the last append to its file.

A segment file is named after its timestamps and opened for appending. Within one encoder session
the timestamps follow the wall clock and a file spans one segment duration, but a session that
restarts its timestamps appends to the files of an earlier one, and makes old frames look new.
`AppendsFresh` excludes this: a `writeFrame` finds in the file it goes on with only frames of the
last segment duration. Where it is met, no file spans more (`FilesFresh`), and clips are as fresh
as they should be (`clip_fresh`).
-/

set_option autoImplicit false
set_option relaxedAutoImplicit false

namespace UvcRtmpStream.Replay

open UvcRtmpStream.Foundations UvcRtmpStream.Platform

/-- A call on one replay buffer in which no append fails half-way. -/
def ReplayCall.IsSessionCall (call : ReplayCall) : Prop :=
  match call.op with
  | .construct _ _ _ => False
  | _ => call.AppendsWhole

instance : (call : ReplayCall) → Decidable call.IsSessionCall
  | ⟨_, .construct _ _ _⟩ => instDecidableFalse
  | ⟨now, .setMaxSeconds seconds⟩ =>
    inferInstanceAs (Decidable (ReplayCall.AppendsWhole ⟨now, .setMaxSeconds seconds⟩))
  | ⟨now, .writeFrame h264Buffer info fault⟩ =>
    inferInstanceAs (Decidable (ReplayCall.AppendsWhole ⟨now, .writeFrame h264Buffer info fault⟩))
  | ⟨now, .saveLastNSeconds seconds videoFormat environment⟩ =>
    inferInstanceAs (Decidable
      (ReplayCall.AppendsWhole ⟨now, .saveLastNSeconds seconds videoFormat environment⟩))
  | ⟨now, .shutdown⟩ => inferInstanceAs (Decidable (ReplayCall.AppendsWhole ⟨now, .shutdown⟩))

theorem ReplayCall.IsSessionCall.appendsWhole {call : ReplayCall} (h : call.IsSessionCall) :
    call.AppendsWhole := by
  obtain ⟨now, op⟩ := call
  cases op with
  | construct => exact h.elim
  | _ => exact h

/-- The condition on a call: in the file that a `writeFrame` goes on with there are only frames of
the last segment duration. -/
def AppendsFresh (ledger : LedgerState) (call : ReplayCall) : Prop :=
  match call.op with
  | .writeFrame (some _) (some info) _ =>
    ∀ file ∈ ledger.dir.files,
      IsAppendTarget ledger call.now info.presentationTimeUs.toInt file →
        ∀ entry ∈ file.content,
          (call.now : ℤ) ≤ entry.time + ledger.buffer.segmentDurationMs
  | _ => True

instance (ledger : LedgerState) : (call : ReplayCall) → Decidable (AppendsFresh ledger call)
  | ⟨now, .writeFrame (some _) (some info) _⟩ => inferInstanceAs (Decidable
      (∀ file ∈ ledger.dir.files, IsAppendTarget ledger now info.presentationTimeUs.toInt file →
        ∀ entry ∈ file.content, (now : ℤ) ≤ entry.time + ledger.buffer.segmentDurationMs))
  | ⟨_, .writeFrame none _ _⟩ | ⟨_, .writeFrame (some _) none _⟩ | ⟨_, .construct _ _ _⟩
  | ⟨_, .setMaxSeconds _⟩ | ⟨_, .saveLastNSeconds _ _ _⟩ | ⟨_, .shutdown⟩ => instDecidableTrue

/-- A clip of the last `seconds` is fresh: its samples are those of frames written at most the
clip's length and a segment duration before, no frame more often than it was written. -/
def FreshClip (calls : List ReplayCall) (durationMs : ℤ) (now : ℕ) (seconds : ℤ)
    (samples : List Sample) : Prop :=
  ∃ entries : List LedgerEntry, entries.Subperm (acceptedEntries calls) ∧
    samples = entries.map (fun entry ↦ entry.record.toSample) ∧
    ∀ entry ∈ entries, (now : ℤ) ≤ entry.time + seconds * 1000 + durationMs

/-- No file was modified more than a segment duration after any of its frames. -/
def FilesFresh (durationMs : ℤ) (dir : Directory (List LedgerEntry)) : Prop :=
  ∀ file ∈ dir.files, ∀ entry ∈ file.content, (file.lastModified : ℤ) ≤ entry.time + durationMs

/-- What holds of the ledger and the frames written so far. -/
structure FreshInv (durationMs : ℤ) (ledger : LedgerState) (written : List LedgerEntry) : Prop where
  duration_eq : ledger.buffer.segmentDurationMs = durationMs
  fresh : FilesFresh durationMs ledger.dir
  held : (heldEntries ledger.dir).Subperm written

section Step

variable {durationMs : ℤ} {ledger : LedgerState} {written : List LedgerEntry}

theorem FilesFresh.cleanup {dir : Directory (List LedgerEntry)} (h : FilesFresh durationMs dir)
    (maxSeconds : ℤ) (now : ℕ) : FilesFresh durationMs (cleanupOldSegments maxSeconds dir now) :=
  fun file hfile ↦ h file (mem_cleanupOldSegments_iff.mp hfile).1

theorem FreshInv.cleanup (h : FreshInv durationMs ledger written) (maxSeconds : ℤ) (now : ℕ)
    {buffer : ReplayBuffer} (hbuffer : buffer.segmentDurationMs = durationMs) :
    FreshInv durationMs ⟨buffer, cleanupOldSegments maxSeconds ledger.dir now⟩ written where
  duration_eq := hbuffer
  fresh := h.fresh.cleanup maxSeconds now
  held := by
    simp only [cleanupOldSegments_eq_keep]
    exact (List.filter_sublist.flatMap _).subperm.trans h.held

theorem FreshInv.prepareAppend (h : FreshInv durationMs ledger written) (now : ℕ) (ptsUs : ℤ)
    (openFails : Bool) :
    FreshInv durationMs (prepareAppend ledger now ptsUs openFails) written where
  duration_eq := (prepareAppend_segmentDurationMs openFails).trans h.duration_eq
  fresh := by
    intro file hfile entry hentry
    rcases mem_prepareAppend hfile with ⟨hold, -⟩ | ⟨hempty, -⟩
    · exact h.fresh file hold entry hentry
    · rw [hempty] at hentry
      cases hentry
  held := (heldEntries_prepareAppend_sublist ledger now ptsUs openFails).subperm.trans h.held

/-- A `writeFrame` that finds only recent frames keeps the invariant, and adds at most its frame. -/
theorem FreshInv.write (h : FreshInv durationMs ledger written) {now : ℕ} {h264Buffer : ByteBuffer}
    {info : BufferInfo} {openFails : Bool}
    (hrecent : ∀ file ∈ ledger.dir.files,
      IsAppendTarget ledger now info.presentationTimeUs.toInt file →
        ∀ entry ∈ file.content, (now : ℤ) ≤ entry.time + ledger.buffer.segmentDurationMs)
    {record : SegmentRecord} {restored : ByteBuffer}
    (hread : readFrame h264Buffer info = .ok (record, restored)) :
    FreshInv durationMs (ledgerWriteFrame ledger now h264Buffer info openFails)
      (written ++ [⟨now, record⟩]) := by
  have hprepared := h.prepareAppend now info.presentationTimeUs.toInt openFails
  have hdur := ledger.buffer.le_segmentDurationMs
  rw [h.duration_eq] at hrecent hdur
  unfold ledgerWriteFrame
  simp only [hread]
  cases hout : (Replay.prepareAppend ledger now info.presentationTimeUs.toInt
      openFails).buffer.currentOut with
  | none =>
    exact ⟨hprepared.duration_eq, hprepared.fresh,
      hprepared.held.trans (List.sublist_append_left _ _).subperm⟩
  | some inode =>
    refine ⟨hprepared.duration_eq, ?_, ?_⟩
    · intro file hfile entry hentry
      obtain ⟨old, hold, rfl⟩ := List.mem_map.mp hfile
      unfold FileStore.writeFile at hentry ⊢
      split_ifs at hentry ⊢ with hinode
      · simp only at hentry ⊢
        rcases List.mem_append.mp hentry with hearlier | hnew
        · rcases mem_prepareAppend hold with ⟨hmem, htarget⟩ | ⟨hempty, -⟩
          · exact hrecent old hmem (htarget (by rw [hout, hinode])) entry hearlier
          · rw [hempty] at hearlier
            cases hearlier
        · rw [List.mem_singleton.mp hnew]
          simp only
          omega
      · exact hprepared.fresh old hold entry hentry
    · exact (heldEntries_write_subperm _ inode ⟨now, record⟩ now).trans
        ((List.subperm_append_right _).mpr hprepared.held)

/-- The step lemma. -/
theorem FreshInv.step (h : FreshInv durationMs ledger written) {call : ReplayCall}
    (hcall : call.IsSessionCall) (hrecent : AppendsFresh ledger call) :
    FreshInv durationMs (ledgerStep ledger call) (written ++ acceptedEntries [call]) := by
  obtain ⟨now, op⟩ := call
  cases op with
  | construct => exact hcall.elim
  | setMaxSeconds seconds =>
    rw [acceptedEntries_of_none rfl, List.append_nil]
    exact h.cleanup _ now h.duration_eq
  | writeFrame h264Buffer info fault =>
    cases h264Buffer with
    | none =>
      rw [acceptedEntries_of_none rfl, List.append_nil]
      exact h
    | some h264Buffer =>
      cases info with
      | none =>
        rw [acceptedEntries_of_none rfl, List.append_nil]
        exact h
      | some info =>
        cases hread : readFrame h264Buffer info with
        | ok pair =>
          obtain ⟨record, restored⟩ := pair
          rw [acceptedEntries_of_read hread]
          exact h.write hrecent hread
        | error exception =>
          rw [acceptedEntries_of_none (by simp [acceptedEntry, hread]), List.append_nil]
          have hprepared := h.prepareAppend now info.presentationTimeUs.toInt fault.openFails
          simp only [ledgerStep, ledgerWriteFrame, hread]
          split
          · next hcontra => cases hcontra
          · exact hprepared
  | saveLastNSeconds seconds videoFormat environment =>
    rw [acceptedEntries_of_none rfl, List.append_nil]
    simp only [ledgerStep]
    split_ifs
    · exact h
    · exact h
    · exact ⟨(closeCurrentSegment_segmentDurationMs _).trans h.duration_eq, h.fresh, h.held⟩
  | shutdown =>
    rw [acceptedEntries_of_none rfl, List.append_nil]
    exact ⟨(closeCurrentSegment_segmentDurationMs _).trans h.duration_eq, h.fresh, h.held⟩

end Step

/-- The run lemma. -/
theorem FreshInv.run {durationMs : ℤ} {ledger : LedgerState} {written : List LedgerEntry}
    {calls : List ReplayCall} (h : FreshInv durationMs ledger written)
    (hcalls : ∀ call ∈ calls, call.IsSessionCall)
    (hrecent : Meets ledgerStep AppendsFresh ledger calls) :
    FreshInv durationMs (ledgerRun ledger calls) (written ++ acceptedEntries calls) := by
  induction calls generalizing ledger written with
  | nil => simpa [acceptedEntries] using h
  | cons call rest ih =>
    obtain ⟨hcall, hrest⟩ := List.forall_mem_cons.mp hcalls
    have hsplit : acceptedEntries (call :: rest) = acceptedEntries [call] ++ acceptedEntries rest :=
      acceptedEntries_append [call] rest
    rw [hsplit, ← List.append_assoc]
    exact ih (h.step hcall hrecent.1) hrest hrecent.2

/-- Freshness of a saved clip, where no session appends to old frames. Assumes: a buffer started on
an empty directory, calls whose appends do not fail half-way, every `writeFrame` finding only recent
frames in the file it goes on with, and a segment modified within the last `seconds`. -/
theorem clip_fresh {maxSeconds segmentDurationMs : ℤ} {start : ℕ}
    {fresh : ReplayState (List UInt8)}
    (hfresh : ReplayBuffer.new maxSeconds segmentDurationMs FileStore.empty start true =
      .ok fresh)
    {calls : List ReplayCall} (hcalls : ∀ call ∈ calls, call.IsSessionCall)
    (hrecent : Meets ledgerStep AppendsFresh ⟨fresh.buffer, FileStore.empty⟩ calls) {now : ℕ}
    {seconds : ℤ}
    (hmodified : ∃ file ∈ (replayRun fresh calls).dir.files,
      (now : ℤ) ≤ file.lastModified + seconds * 1000)
    (videoFormat : Option MediaFormat) (environment : SaveEnvironment) :
    FreshClip calls (max 200 segmentDurationMs) now seconds
      (saveLastNSeconds (replayRun fresh calls) now seconds videoFormat environment).1.samples := by
  have hstart : FreshInv (max 200 segmentDurationMs) ⟨fresh.buffer, FileStore.empty⟩ [] := by
    obtain rfl := Except.ok.inj hfresh
    exact ⟨rfl, fun file hfile ↦ (List.not_mem_nil hfile).elim, List.nil_subperm⟩
  have hinv := hstart.run hcalls hrecent
  have hbytes := replayRun_bytes ⟨fresh.buffer, FileStore.empty⟩ fun call hcall ↦
    (hcalls call hcall).appendsWhole
  rw [bytes_of_new hfresh] at hbytes
  rw [hbytes] at hmodified ⊢
  generalize ledgerRun ⟨fresh.buffer, FileStore.empty⟩ calls = ledger at hinv hmodified ⊢
  rcases saveLastNSeconds_bytes ledger now seconds videoFormat environment with
    ⟨hnil, -⟩ | ⟨listing, used, hperm, hused, hpart, -⟩
  · exact ⟨[], List.nil_subperm, hnil, by simp⟩
  · have hsorted := (perm_sortByLastModified listing).trans hperm
    have hrecentListed : ∃ file ∈ sortByLastModified listing,
        (now : ℤ) ≤ file.lastModified + seconds * 1000 := by
      obtain ⟨file, hfile, hrecentFile⟩ := hmodified
      rw [files_bytes] at hfile
      obtain ⟨source, hsource, rfl⟩ := List.mem_map.mp hfile
      exact ⟨source, hsorted.mem_iff.mpr hsource, hrecentFile⟩
    rw [selectSegments_of_recent hrecentListed] at hused
    obtain ⟨entries, hentries, hsamples⟩ := List.prefix_map_iff.mp hpart
    refine ⟨entries, ?_, hsamples, fun entry hentry ↦ ?_⟩
    · have hsub : entries.Sublist ((sortByLastModified listing).flatMap StoredFile.content) := by
        rw [hused] at hentries
        exact hentries.sublist.trans (List.filter_sublist.flatMap _)
      have hheld := (hsub.subperm.trans (hsorted.flatMap_right _).subperm).trans hinv.held
      rwa [List.nil_append] at hheld
    · obtain ⟨file, hfile, hmem⟩ := List.mem_flatMap.mp (hentries.subset hentry)
      rw [hused, List.mem_filter, Bool.not_eq_true', expired_eq_false_iff] at hfile
      have hle := hinv.fresh file (hsorted.mem_iff.mp hfile.1) entry hmem
      have hlive := hfile.2
      omega

/-- Two frames in one segment and a clip of the last second. -/
theorem clip_fresh_one_session :
    ∃ fresh, ReplayBuffer.new 120 1000 FileStore.empty 0 true = .ok fresh ∧
      FreshClip [.plainWrite 0 0 [1], .plainWrite 600 600000 [2]] (max 200 1000) 1200 1
        (saveLastNSeconds (replayRun fresh [.plainWrite 0 0 [1], .plainWrite 600 600000 [2]]) 1200 1
          (some ⟨"video/avc", []⟩)
          (SaveEnvironment.faultless id fun _ ↦ List.Perm.refl _)).1.samples :=
  ⟨_, rfl, clip_fresh rfl (by decide) (by decide) (by decide) _ _⟩

/-- Two sessions that both start at timestamp zero, 100 seconds apart: a clip of the last 30 seconds
holds the frames of the first. -/
theorem not_freshClip_two_sessions :
    ∃ fresh, ReplayBuffer.new 120 1000 FileStore.empty 0 true = .ok fresh ∧
      (∃ file ∈ (replayRun fresh [.plainWrite 0 0 [1], .plainWrite 500 500000 [2],
        .plainWrite 100000 0 [3]]).dir.files, ((100000 : ℕ) : ℤ) ≤ file.lastModified + 30 * 1000) ∧
      ¬ FreshClip [.plainWrite 0 0 [1], .plainWrite 500 500000 [2], .plainWrite 100000 0 [3]]
        (max 200 1000) 100000 30
        (saveLastNSeconds (replayRun fresh [.plainWrite 0 0 [1], .plainWrite 500 500000 [2],
          .plainWrite 100000 0 [3]]) 100000 30 (some ⟨"video/avc", []⟩)
          (SaveEnvironment.faultless id fun _ ↦ List.Perm.refl _)).1.samples := by
  refine ⟨_, rfl, by decide, ?_⟩
  rintro ⟨entries, hsub, hsamples, hrecent⟩
  have hfirst : (⟨⟨0, 1, 0, 0⟩, [1]⟩ : Sample) ∈
      entries.map fun entry ↦ entry.record.toSample := by
    rw [← hsamples]
    exact List.mem_cons_self
  obtain ⟨entry, hentry, hsample⟩ := List.mem_map.mp hfirst
  have hearly : ∀ entry ∈ acceptedEntries [.plainWrite 0 0 [1], .plainWrite 500 500000 [2],
      .plainWrite 100000 0 [3]], entry.record.toSample = ⟨⟨0, 1, 0, 0⟩, [1]⟩ → entry.time = 0 := by
    decide
  have htime := hearly entry (hsub.subset hentry) hsample
  have hlate := hrecent entry hentry
  rw [htime] at hlate
  omega

end UvcRtmpStream.Replay
