import UvcRtmpStream.Replay.ReplayBufferSpec

/-!
# Reading damaged segments

A segment file may hold anything: a process that is killed in the middle of an append leaves the
front part of a record, and nothing checks the lengths that a record states.

On any bytes the reading loop passes on the records at the front of the file, and stops where no
complete record begins (`read_loop_arbitrary`). What that means for the rest of the clip depends on
how the read failed. In front of a torn record it is a break when the header is complete, and an
exception that ends all loops when it is not (`readRecord_torn`), so that a clip survives torn tails
if and only if none of them ends inside a header (`torn_tails_iff`).
-/

set_option autoImplicit false
set_option relaxedAutoImplicit false

namespace UvcRtmpStream.Replay

open UvcRtmpStream.Foundations UvcRtmpStream.Platform

/-! ### Arbitrary bytes -/

/-- A sample in `writeFrame`'s layout. -/
def encodeSample (sample : Sample) : List UInt8 :=
  writeLong sample.info.presentationTimeUs ++ writeInt sample.info.flags ++
    writeInt sample.info.size ++ sample.data

/-- The bytes begin with a complete record of non-negative size. -/
def StartsWithRecord (input : List UInt8) : Prop :=
  ∃ (ptsUs : Int64) (flags size : Int32) (data rest : List UInt8), 0 ≤ size.toInt ∧
    data.length = size.toInt ∧
    input = writeLong ptsUs ++ writeInt flags ++ writeInt size ++ data ++ rest

/-- A complete record at the front is read. -/
theorem readRecord_of_startsWithRecord {input : List UInt8} (h : StartsWithRecord input) :
    ∃ record rest, readRecord input = .ok (record, rest) := by
  obtain ⟨ptsUs, flags, size, data, rest, hsize, hdata, hinput⟩ := h
  have hlt := size.toInt_lt
  let record : SegmentRecord := ⟨ptsUs, flags, data, by omega⟩
  have hfield : record.size = size := by
    apply Int32.toInt.inj
    rw [SegmentRecord.toInt_size]
    exact hdata
  have hencoded : input = encodeRecord record ++ rest := by
    rw [encodeRecord, hfield]
    exact hinput
  exact ⟨record, rest, hencoded ▸ readRecord_encodeRecord record rest⟩

theorem flatMap_encodeSample (records : List SegmentRecord) :
    (records.map SegmentRecord.toSample).flatMap encodeSample = segmentFraming.encodeAll records :=
  List.flatMap_map SegmentRecord.toSample encodeSample records

/-- Each record takes at least the sixteen bytes of its header. -/
theorem length_encodeAll_ge (records : List SegmentRecord) :
    16 * records.length ≤ (segmentFraming.encodeAll records).length := by
  induction records with
  | nil => exact Nat.zero_le _
  | cons record rest ih =>
    have hrecord : 16 ≤ (segmentFraming.encode record).length := by
      change 16 ≤ (encodeRecord record).length
      simp only [encodeRecord, List.length_append, length_writeLong, length_writeInt]
      omega
    rw [Framing.encodeAll_cons, List.length_append, List.length_cons]
    omega

/-- On any bytes the reading loop, with a muxer that accepts every sample, delivers finitely many
samples however long it may run. Written out again they are a front part of the file, and the rest
is empty or does not begin with a complete record. -/
theorem read_loop_arbitrary {environment : SaveEnvironment}
    (haccepts : ∀ n, environment.rejectsSample n = false) (content : List UInt8)
    (passed : List Sample) :
    ∃ delivered rest,
      (∀ fuel, content.length ≤ fuel →
        (muxSegment environment fuel content passed).1 = passed ++ delivered) ∧
      16 * delivered.length ≤ content.length ∧
      content = delivered.flatMap encodeSample ++ rest ∧
      (rest = [] ∨ ¬ StartsWithRecord rest) := by
  have hinput := segmentFraming.encodeAll_decoded_append_leftover content
  refine ⟨(segmentFraming.decoded content).map SegmentRecord.toSample,
    segmentFraming.leftover content, fun fuel hfuel ↦ ?_, ?_, ?_, ?_⟩
  · rw [muxSegment_of_accepts haccepts, segmentFraming.readAll_congr_fuel hfuel le_rfl]
    rfl
  · have hlength := congrArg List.length hinput
    have hrecords := length_encodeAll_ge (segmentFraming.decoded content)
    rw [List.length_append] at hlength
    rw [List.length_map]
    omega
  · rw [flatMap_encodeSample]
    exact hinput.symm
  · refine (segmentFraming.parse_leftover content).imp_right fun ⟨failure, hfailure⟩ hstarts ↦ ?_
    obtain ⟨record, rest, hread⟩ := readRecord_of_startsWithRecord hstarts
    have hfailed : readRecord (segmentFraming.leftover content) = .error failure := hfailure
    rw [hread] at hfailed
    cases hfailed

/-- A record of one byte, and a header that states a length of minus one. -/
theorem read_loop_arbitrary_negative_size :
    let environment := SaveEnvironment.faultless id fun _ ↦ List.Perm.refl _
    let content :=
      encodeRecord ⟨7, 1, [42], by decide⟩ ++ writeLong 0 ++ writeInt 0 ++ writeInt (-1)
    ∃ delivered rest,
      (∀ fuel, content.length ≤ fuel →
        (muxSegment environment fuel content []).1 = [] ++ delivered) ∧
      16 * delivered.length ≤ content.length ∧
      content = delivered.flatMap encodeSample ++ rest ∧
      (rest = [] ∨ ¬ StartsWithRecord rest) :=
  read_loop_arbitrary (fun _ ↦ rfl) _ []

/-! ### Torn records -/

/-- A front part of a record, as an append leaves it that does not get to its end. -/
def IsTorn (tail : List UInt8) : Prop :=
  ∃ record, tail <+: encodeRecord record ∧ tail ≠ encodeRecord record

/-- With less than a header left, the read throws. -/
theorem readRecord_of_length_lt {input : List UInt8} (h : input.length < 16) :
    readRecord input = .error .endOfFile := by
  simp only [readRecord, readLong]
  split_ifs with hlong
  · rfl
  · have hflags : (input.drop 8).length = input.length - 8 := List.length_drop
    simp only [readInt]
    split_ifs with hint
    · rfl
    · have hsize : ((input.drop 8).drop 4).length < 4 := by
        rw [List.length_drop]
        omega
      simp only [if_pos hsize]

/-- How the read of a torn record fails: inside the header by an exception, behind it by a size
mismatch. -/
theorem readRecord_torn {tail : List UInt8} (h : IsTorn tail) :
    readRecord tail = .error (if tail.length < 16 then .endOfFile else .sizeMismatch) := by
  split_ifs with hheader
  · exact readRecord_of_length_lt hheader
  · obtain ⟨record, hpart, hne⟩ := h
    have hlength :
        (writeLong record.ptsUs ++ writeInt record.flags ++ writeInt record.size).length ≤
          tail.length := by
      simp only [List.length_append, length_writeLong, length_writeInt]
      omega
    obtain ⟨data, rfl⟩ := List.prefix_of_prefix_length_le (List.prefix_append _ record.data) hpart
      hlength
    -- The header is complete, and a front part of the data follows it.
    have hdata : data <+: record.data := (List.prefix_append_right_inj _).mp hpart
    have hshort : data.length < record.data.length := by
      refine lt_of_le_of_ne hdata.length_le fun hsame ↦ hne ?_
      rw [hdata.eq_of_length hsame]
      rfl
    have hread : readArray record.data.length data ≠ (record.data.length : ℤ) := by
      rw [Ne, readArray_eq_iff]
      omega
    simp only [readRecord, List.append_assoc, readLong_writeLong, readInt_writeInt,
      SegmentRecord.toInt_size, Int.toNat_natCast]
    rw [if_neg (by omega), if_pos hread]

/-- The torn tails at which the reading loop stops without an exception: none, and those with a
complete header. -/
def StopsQuietly (tail : List UInt8) : Prop := tail = [] ∨ 16 ≤ tail.length

instance (tail : List UInt8) : Decidable (StopsQuietly tail) :=
  inferInstanceAs (Decidable (tail = [] ∨ 16 ≤ tail.length))

/-- The loop on complete records in front of a torn one: the complete ones are passed on, and it
ends with an exception if the tail ends inside a header. -/
theorem muxSegment_torn {environment : SaveEnvironment}
    (haccepts : ∀ n, environment.rejectsSample n = false) (records : List SegmentRecord)
    {tail : List UInt8} (htail : IsTorn tail) (passed : List Sample) :
    muxSegment environment (segmentFraming.encodeAll records ++ tail).length
        (segmentFraming.encodeAll records ++ tail) passed =
      (passed ++ records.map SegmentRecord.toSample,
        if StopsQuietly tail then none else some .ioException) := by
  rw [muxSegment_of_accepts haccepts, segmentFraming.readAll_length_encodeAll_append]
  by_cases hnil : tail = []
  · have hquiet : StopsQuietly [] := Or.inl rfl
    rw [hnil, Framing.readAll_nil, List.append_nil, if_pos hquiet]
    rfl
  · rw [segmentFraming.readAll_of_parse_error hnil (readRecord_torn htail), List.append_nil]
    split_ifs with hheader hquiet hquiet
    · rcases hquiet with hquiet | hquiet
      · exact absurd hquiet hnil
      · omega
    · rfl
    · rfl
    · exact absurd (Or.inr (Nat.le_of_not_lt hheader)) hquiet

section Clips

variable {environment : SaveEnvironment} {records : SegmentFile (List UInt8) → List SegmentRecord}
  {tail : SegmentFile (List UInt8) → List UInt8}

/-- The loop over the segments passes on all complete records if no torn tail ends inside a header,
and otherwise ends with an exception. -/
theorem muxSegments_torn (haccepts : ∀ n, environment.rejectsSample n = false)
    (hreadable : ∀ name, environment.unreadable name = false)
    {segments : List (SegmentFile (List UInt8))}
    (htorn : ∀ segment ∈ segments,
      segment.content = segmentFraming.encodeAll (records segment) ++ tail segment ∧
        IsTorn (tail segment)) (passed : List Sample) :
    if ∀ segment ∈ segments, StopsQuietly (tail segment) then
      muxSegments environment segments passed =
        (passed ++ (segments.flatMap records).map SegmentRecord.toSample, none)
    else (muxSegments environment segments passed).2 = some .ioException := by
  induction segments generalizing passed with
  | nil => simp [muxSegments]
  | cons segment rest ih =>
    obtain ⟨hcontent, htail⟩ := htorn segment List.mem_cons_self
    have hsegment := muxSegment_torn haccepts (records segment) htail passed
    rw [← hcontent] at hsegment
    have hrest := ih (fun other hother ↦ htorn other (List.mem_cons_of_mem _ hother))
      (passed ++ (records segment).map SegmentRecord.toSample)
    simp only [muxSegments, hreadable, Bool.false_eq_true, if_false, hsegment]
    by_cases hquiet : StopsQuietly (tail segment)
    · rw [if_pos hquiet]
      simp only [List.forall_mem_cons, hquiet, true_and]
      rw [List.flatMap_cons, List.map_append, ← List.append_assoc]
      exact hrest
    · rw [if_neg hquiet, if_neg fun hall ↦ hquiet (hall segment List.mem_cons_self)]

/-- Segments of complete records, each followed by a torn one. The clip holds exactly the complete
records, and the method returns true, if and only if no torn tail ends inside a header. -/
theorem muxClip_torn_iff (h : environment.Faultless) {segments : List (SegmentFile (List UInt8))}
    (htorn : ∀ segment ∈ segments,
      segment.content = segmentFraming.encodeAll (records segment) ++ tail segment ∧
        IsTorn (tail segment)) :
    (muxClip environment segments).returned = .ok true ∧
        (muxClip environment segments).samples =
          (segments.flatMap records).map SegmentRecord.toSample ↔
      ∀ segment ∈ segments, StopsQuietly (tail segment) := by
  obtain ⟨hreadable, hcreate, hadd, hstart, haccepts, -⟩ := h
  have hloop := muxSegments_torn haccepts hreadable htorn []
  simp only [muxClip, hcreate, hadd, hstart, Bool.false_eq_true, if_false]
  split_ifs at hloop with hquiet
  · rw [hloop]
    exact iff_of_true ⟨rfl, rfl⟩ hquiet
  · refine iff_of_false (fun hsaved ↦ ?_) hquiet
    cases hmux : muxSegments environment segments [] with
    | mk passed ending =>
      rw [hmux] at hloop hsaved
      cases hloop
      cases hsaved.1

/-- Selected segments of complete records, each followed by a torn one, with at least one complete
record among them. If no call fails, `saveLastNSeconds` delivers exactly the complete records and
returns true if and only if no torn tail ends inside a header. -/
theorem torn_tails_iff (h : environment.Faultless) (s : ReplayState (List UInt8)) (now : ℕ)
    {seconds : ℤ} (hseconds : 0 < seconds) {videoFormat : Option MediaFormat}
    (hformat : videoFormat.isSome = true) {toUse : List (SegmentFile (List UInt8))}
    (htoUse : toUse = selectSegments s.buffer.segmentDurationMs seconds now
      (sortByLastModified (environment.order s.dir.files)))
    (htorn : ∀ segment ∈ toUse,
      segment.content = segmentFraming.encodeAll (records segment) ++ tail segment ∧
        IsTorn (tail segment)) (hrecord : ∃ segment ∈ toUse, records segment ≠ []) :
    (saveLastNSeconds s now seconds videoFormat environment).1.returned = .ok true ∧
        (saveLastNSeconds s now seconds videoFormat environment).1.samples =
          (toUse.flatMap records).map SegmentRecord.toSample ↔
      ∀ segment ∈ toUse, tail segment = [] ∨ 16 ≤ (tail segment).length := by
  obtain ⟨segment, hsegment, -⟩ := hrecord
  have hused : toUse.isEmpty = false := List.isEmpty_eq_false_iff_exists_mem.mpr ⟨segment, hsegment⟩
  have hfiles : (environment.order s.dir.files).isEmpty = false := by
    refine Bool.eq_false_iff.mpr fun hnone ↦ ?_
    rw [htoUse, List.isEmpty_iff.mp hnone] at hsegment
    simp [selectSegments, sortByLastModified] at hsegment
  have hduration : (closeCurrentSegment s.buffer).segmentDurationMs = s.buffer.segmentDurationMs :=
    closeCurrentSegment_segmentDurationMs _
  have hsave : (saveLastNSeconds s now seconds videoFormat environment).1 =
      muxClip environment toUse := by
    have hpositive : ¬ seconds ≤ 0 := by omega
    have hsome : ¬ videoFormat.isNone = true := by
      rw [Option.isNone_iff_eq_none, ← Option.not_isSome_iff_eq_none, hformat]
      exact fun h ↦ h rfl
    simp only [saveLastNSeconds, if_neg hpositive, if_neg hsome, hfiles, hduration, ← htoUse, hused,
      Bool.false_eq_true, if_false]
  rw [hsave]
  exact muxClip_torn_iff h htorn

end Clips

/-- The `writeFrame` of some bytes under a timestamp, which gets so many bytes of its record into
the file. -/
def ReplayCall.tornWrite (now : ℕ) (ptsUs : Int64) (data : List UInt8) (count : ℕ) : ReplayCall :=
  ⟨now, .writeFrame (some (ByteBuffer.wrap data)) (some ⟨0, Int32.ofNat data.length, ptsUs, 0⟩)
    ⟨false, some count⟩⟩

/-- One frame, and one whose header and first byte of data were written. -/
theorem torn_tails_iff_in_data :
    ∃ fresh, ReplayBuffer.new 120 1000 FileStore.empty 0 true = .ok fresh ∧
      let s := replayRun fresh [.plainWrite 0 0 [1], .tornWrite 100 100000 [2, 3] 17,
        ⟨200, .construct 120 1000 true⟩]
      let environment := SaveEnvironment.faultless id fun _ ↦ List.Perm.refl _
      let toUse := selectSegments s.buffer.segmentDurationMs 10 200 (sortByLastModified s.dir.files)
      let saved := saveLastNSeconds s 200 10 (some ⟨"video/avc", []⟩) environment
      saved.1.returned = .ok true ∧ saved.1.samples =
        (toUse.flatMap fun _ ↦ [(⟨0, 0, [1], by decide⟩ : SegmentRecord)]).map
          SegmentRecord.toSample := by
  refine ⟨_, rfl, ?_⟩
  refine (@torn_tails_iff _ (fun _ ↦ [⟨0, 0, [1], by decide⟩])
    (fun _ ↦ (encodeRecord ⟨100000, 0, [2, 3], by decide⟩).take 17)
    (SaveEnvironment.faultless_spec id fun _ ↦ List.Perm.refl _) _ 200 10 (by decide)
    (some ⟨"video/avc", []⟩) rfl _ rfl (fun segment hsegment ↦ ⟨?_, ?_⟩) (by decide)).mpr
    (by decide)
  · revert segment
    decide
  · exact ⟨⟨100000, 0, [2, 3], by decide⟩, List.take_prefix _ _, by decide⟩

/-- One frame, and one byte of the next: there is no clip. -/
theorem not_torn_tails_in_header :
    ∃ fresh, ReplayBuffer.new 120 1000 FileStore.empty 0 true = .ok fresh ∧
      let s := replayRun fresh [.plainWrite 0 0 [1], .tornWrite 100 100000 [2] 1,
        ⟨200, .construct 120 1000 true⟩]
      let environment := SaveEnvironment.faultless id fun _ ↦ List.Perm.refl _
      (∃ record tail, s.dir.files.map StoredFile.content = [encodeRecord record ++ tail] ∧
        IsTorn tail) ∧
      (saveLastNSeconds s 200 10 (some ⟨"video/avc", []⟩) environment).1.returned = .ok false := by
  refine ⟨_, rfl, ⟨⟨0, 0, [1], by decide⟩, [0], by decide, ⟨100000, 0, [2], by decide⟩, ?_, ?_⟩, ?_⟩
  · decide
  · decide
  · rfl

end UvcRtmpStream.Replay
