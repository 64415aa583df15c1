import UvcRtmpStream.Replay.DamagedSegments

/-!
# What `true` from `saveLastNSeconds` means

`saveLastNSeconds` returns true when the loops over the segments end without an exception, which is
decided before `stop` is called on the muxer, and whether or not a sample was passed on. This module
says exactly when the loops end so (`muxSegments_ending_iff`), when the method returns true
(`muxClip_returned_true_iff`), and when true means that there is a clip: a selected segment begins
with a complete record, and the muxer's `stop` does not fail (`successMeansClip_iff`).
-/

set_option autoImplicit false
set_option relaxedAutoImplicit false

namespace UvcRtmpStream.Replay

open UvcRtmpStream.Foundations UvcRtmpStream.Platform

/-! ### The loops -/

/-- The reading loop comes to the end of a segment without an exception: nothing is left behind the
complete records, or a record with a complete header whose data is cut short. -/
def ReadsToEnd (content : List UInt8) : Prop :=
  segmentFraming.leftover content = [] ∨
    readRecord (segmentFraming.leftover content) = .error .sizeMismatch

theorem ending_eq_none_iff (content : List UInt8) :
    (segmentFraming.readAll content.length content).2.bind ReadFailure.thrown = none ↔
      ReadsToEnd content := by
  obtain ⟨rest, hinput, hending⟩ := segmentFraming.readAll_sound content.length content le_rfl
  have hleft : segmentFraming.leftover content = rest :=
    List.append_cancel_left
      ((segmentFraming.encodeAll_decoded_append_leftover content).trans hinput)
  unfold ReadsToEnd
  rw [hleft]
  cases hstop : (segmentFraming.readAll content.length content).2 with
  | none =>
    rw [hstop] at hending
    exact iff_of_true rfl (Or.inl hending)
  | some failure =>
    rw [hstop] at hending
    have hfailure : readRecord rest = .error failure := hending
    have hne : rest ≠ [] := by
      -- Behind the last record the loop does not read.
      rintro rfl
      rw [List.append_nil] at hinput
      rw [hinput, segmentFraming.readAll_encodeAll] at hstop
      cases hstop
    rw [hfailure]
    cases failure <;> simp [ReadFailure.thrown, hne]

/-- The loop on a segment ends without an exception when the muxer takes every sample and the loop
comes to the end of the segment. -/
theorem muxSegment_ending_iff (environment : SaveEnvironment) (fuel : ℕ) (input : List UInt8)
    (passed : List Sample) :
    (muxSegment environment fuel input passed).2 = none ↔
      (∀ n < (segmentFraming.readAll fuel input).1.length,
        environment.rejectsSample (passed.length + n) = false) ∧
      (segmentFraming.readAll fuel input).2.bind ReadFailure.thrown = none := by
  induction fuel generalizing input passed with
  | zero => simp [muxSegment, Framing.readAll]
  | succ fuel ih =>
    cases input with
    | nil => simp [muxSegment]
    | cons byte input =>
      simp only [muxSegment, Framing.readAll, segmentFraming]
      cases hread : readRecord (byte :: input) with
      | error failure => cases failure <;> simp [ReadFailure.thrown]
      | ok pair =>
        obtain ⟨record, rest⟩ := pair
        have hrest := ih rest (passed ++ [record.toSample])
        simp only [segmentFraming, List.length_append, List.length_singleton] at hrest
        simp only [List.length_cons]
        by_cases hreject : environment.rejectsSample passed.length = true
        · rw [if_pos hreject]
          refine iff_of_false (fun h ↦ by cases h) fun h ↦ ?_
          have hfirst := h.1 0 (Nat.succ_pos _)
          rw [Nat.add_zero, hreject] at hfirst
          cases hfirst
        · rw [if_neg hreject, hrest]
          refine and_congr_left fun _ ↦ ⟨fun h n hn ↦ ?_, fun h n hn ↦ ?_⟩
          · cases n with
            | zero => exact Bool.eq_false_iff.mpr hreject
            | succ n =>
              have hnext := h n (Nat.lt_of_succ_lt_succ hn)
              rwa [Nat.add_assoc, Nat.add_comm 1 n] at hnext
          · have hnext := h (n + 1) (Nat.succ_lt_succ hn)
            rwa [Nat.add_comm n 1, ← Nat.add_assoc] at hnext

/-- The records that the loops find in some segments. -/
def recordsOf (segments : List (SegmentFile (List UInt8))) : List SegmentRecord :=
  segments.flatMap fun segment ↦ segmentRecords segment.content

/-- The loops end without an exception when every segment can be opened and is read to its end, and
the muxer takes every sample. Then all records are passed on. -/
theorem muxSegments_ending_iff (environment : SaveEnvironment)
    (segments : List (SegmentFile (List UInt8))) (passed : List Sample) :
    ((muxSegments environment segments passed).2 = none ↔
      (∀ segment ∈ segments,
        environment.unreadable segment.name = false ∧ ReadsToEnd segment.content) ∧
      ∀ n < (recordsOf segments).length, environment.rejectsSample (passed.length + n) = false) ∧
    ((muxSegments environment segments passed).2 = none →
      (muxSegments environment segments passed).1 =
        passed ++ (recordsOf segments).map SegmentRecord.toSample) := by
  induction segments generalizing passed with
  | nil => simp [muxSegments, recordsOf]
  | cons segment segments ih =>
    have hending := muxSegment_ending_iff environment segment.content.length segment.content passed
    rw [ending_eq_none_iff] at hending
    obtain ⟨accepted, hsamples, -, hall⟩ :=
      muxSegment_samples environment segment.content.length segment.content passed
    have hrecords : recordsOf (segment :: segments) =
        segmentRecords segment.content ++ recordsOf segments := rfl
    simp only [muxSegments, List.forall_mem_cons, hrecords, List.length_append]
    by_cases hunreadable : environment.unreadable segment.name = true
    · simp [hunreadable]
    · rw [Bool.not_eq_true] at hunreadable
      simp only [hunreadable, Bool.false_eq_true, if_false, true_and]
      cases hmux : muxSegment environment segment.content.length segment.content passed with
      | mk samples ending =>
        rw [hmux] at hending hsamples hall
        cases ending with
        | some exception =>
          refine ⟨iff_of_false (fun h ↦ by cases h) fun h ↦ ?_, fun h ↦ by cases h⟩
          have hnone := hending.mpr ⟨fun n hn ↦ h.2 n (Nat.lt_add_right _ hn), h.1.1⟩
          cases hnone
        | none =>
          obtain ⟨htakes, hend⟩ := hending.mp rfl
          have hpassed : samples =
              passed ++ (segmentRecords segment.content).map SegmentRecord.toSample := by
            rw [hall rfl] at hsamples
            exact hsamples
          have hlength : samples.length =
              passed.length + (segmentRecords segment.content).length := by
            rw [hpassed, List.length_append, List.length_map]
          obtain ⟨hiff, hrest⟩ := ih samples
          refine ⟨hiff.trans ⟨fun h ↦ ⟨⟨hend, h.1⟩, fun n hn ↦ ?_⟩, fun h ↦ ⟨h.1.2, fun n hn ↦ ?_⟩⟩,
            fun h ↦ ?_⟩
          · by_cases hfirst : n < (segmentRecords segment.content).length
            · exact htakes n hfirst
            · have hlater := h.2 (n - (segmentRecords segment.content).length) (by omega)
              rwa [hlength, Nat.add_assoc, Nat.add_sub_cancel' (by omega)] at hlater
          · have hlater := h.2 ((segmentRecords segment.content).length + n) (by omega)
            rwa [← Nat.add_assoc, ← hlength] at hlater
          · rw [hrest h, hpassed, List.map_append, List.append_assoc]

/-! ### The method -/

/-- The segments that a save goes on to mux, unless it is refused before. -/
def segmentsToUse (s : ReplayState (List UInt8)) (now : ℕ) (seconds : ℤ)
    (videoFormat : Option MediaFormat) (environment : SaveEnvironment) :
    Option (List (SegmentFile (List UInt8))) :=
  if 0 < seconds ∧ videoFormat.isSome ∧ s.dir.files ≠ [] then
    some (selectSegments s.buffer.segmentDurationMs seconds now
      (sortByLastModified (environment.order s.dir.files)))
  else none

/-- The selection from a directory with a file is not empty. -/
theorem selectSegments_ne_nil {files : List (SegmentFile (List UInt8))} (h : files ≠ [])
    (segmentDurationMs seconds : ℤ) (now : ℕ) :
    selectSegments segmentDurationMs seconds now files ≠ [] := by
  simp only [selectSegments]
  split_ifs with hnone
  · have hlength := List.length_pos_of_ne_nil h
    rw [Ne, List.drop_eq_nil_iff]
    omega
  · exact fun hnil ↦ hnone (List.isEmpty_iff.mpr hnil)

theorem saveLastNSeconds_eq (s : ReplayState (List UInt8)) (now : ℕ) (seconds : ℤ)
    (videoFormat : Option MediaFormat) (environment : SaveEnvironment) :
    (saveLastNSeconds s now seconds videoFormat environment).1 =
      (segmentsToUse s now seconds videoFormat environment).elim ⟨.ok false, [], false⟩
        (muxClip environment) := by
  have hduration : (closeCurrentSegment s.buffer).segmentDurationMs = s.buffer.segmentDurationMs :=
    closeCurrentSegment_segmentDurationMs _
  have hlisting : environment.order s.dir.files = [] ↔ s.dir.files = [] := by
    have hperm := environment.perm_order s.dir.files
    constructor
    · intro hnil
      rw [hnil] at hperm
      exact hperm.nil_eq.symm
    · intro hnil
      rw [hnil] at hperm ⊢
      exact hperm.eq_nil
  unfold saveLastNSeconds segmentsToUse
  simp only [hduration, List.isEmpty_iff, hlisting, Option.isNone_iff_eq_none]
  by_cases hall : 0 < seconds ∧ videoFormat.isSome ∧ s.dir.files ≠ []
  · obtain ⟨hseconds, hformat, hfiles⟩ := hall
    have hselected : selectSegments s.buffer.segmentDurationMs seconds now
        (sortByLastModified (environment.order s.dir.files)) ≠ [] := by
      refine selectSegments_ne_nil (fun hnil ↦ hfiles (hlisting.mp ?_)) _ _ _
      exact ((perm_sortByLastModified _).symm.trans (hnil ▸ List.Perm.refl _)).eq_nil
    rw [if_neg (by omega), if_neg (Option.isSome_iff_ne_none.mp hformat), if_neg hfiles,
      if_neg hselected, if_pos ⟨hseconds, hformat, hfiles⟩]
    rfl
  · rw [if_neg hall]
    split_ifs with hseconds hformat hfiles
    · rfl
    · rfl
    · rfl
    · exact absurd ⟨by omega, Option.isSome_iff_ne_none.mpr hformat, hfiles⟩ hall
    · exact absurd ⟨by omega, Option.isSome_iff_ne_none.mpr hformat, hfiles⟩ hall

/-- Nothing keeps a save of some segments from returning true: the muxer is made and started, every
segment can be opened and is read to its end, and the muxer takes every sample. -/
structure MuxesAll (environment : SaveEnvironment) (toUse : List (SegmentFile (List UInt8))) :
    Prop where
  creates : environment.createFails = false
  adds : environment.addTrackFails = false
  starts : environment.startFails = false
  reads : ∀ segment ∈ toUse,
    environment.unreadable segment.name = false ∧ ReadsToEnd segment.content
  takes : ∀ n < (recordsOf toUse).length, environment.rejectsSample n = false

/-- The muxing part returns true when nothing keeps it from that, and then the samples are all
records of the segments. -/
theorem muxClip_returned_true_iff (environment : SaveEnvironment)
    (toUse : List (SegmentFile (List UInt8))) :
    ((muxClip environment toUse).returned = .ok true ↔ MuxesAll environment toUse) ∧
      (MuxesAll environment toUse → muxClip environment toUse =
        ⟨.ok true, (recordsOf toUse).map SegmentRecord.toSample, !environment.stopFails⟩) := by
  obtain ⟨hiff, hsamples⟩ := muxSegments_ending_iff environment toUse []
  simp only [List.length_nil, Nat.zero_add, List.nil_append] at hiff hsamples
  have hall : MuxesAll environment toUse → muxClip environment toUse =
      ⟨.ok true, (recordsOf toUse).map SegmentRecord.toSample, !environment.stopFails⟩ := by
    intro h
    have hnone := hiff.mpr ⟨h.reads, h.takes⟩
    have hpassed := hsamples hnone
    unfold muxClip
    rw [h.creates, h.adds, h.starts]
    cases hmux : muxSegments environment toUse [] with
    | mk passed ending =>
      rw [hmux] at hnone hpassed
      cases hnone
      cases hpassed
      rfl
  refine ⟨⟨fun htrue ↦ ?_, fun h ↦ by rw [hall h]⟩, hall⟩
  cases hcreate : environment.createFails with
  | true => simp [muxClip, hcreate] at htrue
  | false =>
    cases hadd : environment.addTrackFails with
    | true => simp [muxClip, hcreate, hadd] at htrue
    | false =>
      cases hstart : environment.startFails with
      | true => simp [muxClip, hcreate, hadd, hstart] at htrue
      | false =>
        simp only [muxClip, hcreate, hadd, hstart, Bool.false_eq_true, if_false] at htrue
        cases hmux : muxSegments environment toUse [] with
        | mk passed ending =>
          rw [hmux] at htrue hiff
          cases ending with
          | none =>
            obtain ⟨hreads, htakes⟩ := hiff.mp rfl
            exact ⟨hcreate, hadd, hstart, hreads, htakes⟩
          | some exception => cases exception <;> cases htrue

/-- `true` means that at least one frame was passed to the muxer and that its `stop` succeeded. -/
def SuccessMeansClip (s : ReplayState (List UInt8)) (now : ℕ) (seconds : ℤ)
    (videoFormat : Option MediaFormat) (environment : SaveEnvironment) : Prop :=
  (saveLastNSeconds s now seconds videoFormat environment).1.returned = .ok true →
    (saveLastNSeconds s now seconds videoFormat environment).1.samples ≠ [] ∧
      (saveLastNSeconds s now seconds videoFormat environment).1.stopped = true

/-- A save that nothing keeps from returning true has a segment that begins with a complete record,
and its `stop` does not fail. -/
def YieldsClip (s : ReplayState (List UInt8)) (now : ℕ) (seconds : ℤ)
    (videoFormat : Option MediaFormat) (environment : SaveEnvironment) : Prop :=
  ∀ toUse, segmentsToUse s now seconds videoFormat environment = some toUse →
    MuxesAll environment toUse →
      (∃ segment ∈ toUse, StartsWithRecord segment.content) ∧ environment.stopFails = false

/-- There is a record in a segment exactly when one begins there. -/
theorem segmentRecords_ne_nil_iff (content : List UInt8) :
    segmentRecords content ≠ [] ↔ StartsWithRecord content := by
  constructor
  · intro hne
    have hinput := segmentFraming.encodeAll_decoded_append_leftover content
    cases hrecords : segmentFraming.decoded content with
    | nil => exact absurd hrecords hne
    | cons record rest =>
      rw [hrecords, Framing.encodeAll_cons, List.append_assoc] at hinput
      refine ⟨record.ptsUs, record.flags, record.size, record.data,
        segmentFraming.encodeAll rest ++ segmentFraming.leftover content, ?_, ?_, hinput.symm⟩
      · rw [SegmentRecord.toInt_size]
        exact Int.natCast_nonneg _
      · rw [SegmentRecord.toInt_size]
  · intro hstarts hnil
    obtain ⟨record, rest, hread⟩ := readRecord_of_startsWithRecord hstarts
    have hcontent : content = segmentFraming.encodeAll [record] ++ rest := by
      rw [encodeRecord_of_readRecord hread]
      simp [segmentFraming]
    have hdecoded := segmentFraming.decoded_encodeAll_append [record] rest
    rw [← hcontent] at hdecoded
    have hnone : segmentFraming.decoded content = [] := hnil
    rw [hnone] at hdecoded
    cases hdecoded

theorem successMeansClip_iff (s : ReplayState (List UInt8)) (now : ℕ) (seconds : ℤ)
    (videoFormat : Option MediaFormat) (environment : SaveEnvironment) :
    SuccessMeansClip s now seconds videoFormat environment ↔
      YieldsClip s now seconds videoFormat environment := by
  unfold SuccessMeansClip YieldsClip
  rw [saveLastNSeconds_eq]
  cases segmentsToUse s now seconds videoFormat environment with
  | none =>
    refine iff_of_true (fun h ↦ ?_) fun toUse h ↦ ?_
    · cases h
    · cases h
  | some toUse =>
    obtain ⟨htrue, hall⟩ := muxClip_returned_true_iff environment toUse
    simp only [Option.elim_some, Option.some.injEq, forall_eq']
    rw [htrue]
    refine forall_congr' fun hmuxes ↦ ?_
    rw [hall hmuxes]
    refine and_congr ?_ ?_
    · simp only [ne_eq, List.map_eq_nil_iff, recordsOf, List.flatMap_eq_nil_iff, not_forall,
        exists_prop]
      exact exists_congr fun segment ↦ and_congr_right fun _ ↦
        segmentRecords_ne_nil_iff segment.content
    · simp

end UvcRtmpStream.Replay
