import UvcRtmpStream.Camera.Descriptors

/-!
# The descriptors that a scan comes through

The scan of a streaming interface trusts the camera. `scan_streaming_safe_iff` says which buffers it
comes through: those made of blocks each of which says its own size, not zero, with all bytes that
the parser of its kind looks at within the buffer, and each frame behind a format. Of any other
buffer a byte that is not there is read, a null pointer is followed, or the scan never ends.
-/

set_option autoImplicit false
set_option relaxedAutoImplicit false

namespace UvcRtmpStream.Camera

open UvcRtmpStream.Foundations LittleEndian

def IsFrame (block : List UInt8) : Prop :=
  block.getD 2 0 = 0x05 ∨ block.getD 2 0 = 0x07 ∨ block.getD 2 0 = 0x11

def IsFormat (block : List UInt8) : Prop :=
  block.getD 2 0 = 0x04 ∨ block.getD 2 0 = 0x06 ∨ block.getD 2 0 = 0x10

instance (block : List UInt8) : Decidable (IsFrame block) := inferInstanceAs (Decidable (_ ∨ _))

instance (block : List UInt8) : Decidable (IsFormat block) := inferInstanceAs (Decidable (_ ∨ _))

/-- The bytes that a header is looked at for. -/
def headerNeeds (block : List UInt8) : ℕ :=
  let size := block.getD 12 0
  let count := controlCount (block.getD 0 0) size
  if size = 0 ∨ count = 0 then 13 else 13 + count * size.toNat

/-- The bytes that a frame is looked at for, the number of its intervals being in a given place. -/
def frameNeeds (block : List UInt8) (place : ℕ) : ℕ :=
  let count := block.getD place 0
  if count = 0 then 38 else 26 + 4 * count.toNat

/-- The bytes that a block is looked at for. -/
def bytesNeeded (block : List UInt8) : ℕ :=
  let subtype := block.getD 2 0
  if subtype = 0x01 then headerNeeds block
  else if subtype = 0x04 then 27
  else if subtype = 0x06 then 11
  else if subtype = 0x05 ∨ subtype = 0x07 then frameNeeds block 25
  else if subtype = 0x10 then 28
  else if subtype = 0x11 then frameNeeds block 21
  else 0

/-- A buffer of which each block is as large as it says and has the bytes it is looked at for, and
each frame a format in front. `behind` is whether a format is in front already. -/
inductive Sound : Bool → List UInt8 → Prop
  | tail {behind : Bool} {buffer : List UInt8} (hshort : buffer.length < 3) : Sound behind buffer
  | block {behind : Bool} {block rest : List UInt8} (hleast : 3 ≤ (block ++ rest).length)
      (hne : block ≠ []) (hsize : ((block ++ rest).getD 0 0).toNat = block.length)
      (hneeded : bytesNeeded (block ++ rest) ≤ (block ++ rest).length)
      (hframe : IsFrame (block ++ rest) → behind = true)
      (hrest : Sound (behind || decide (IsFormat (block ++ rest))) rest) :
      Sound behind (block ++ rest)

/-! ### One block -/

theorem uvcParseVsInputHeader_ok_iff (s : StreamingInterface) (block : List UInt8) :
    (∃ t, uvcParseVsInputHeader s block = .ok t) ↔ headerNeeds block ≤ block.length := by
  simp only [uvcParseVsInputHeader, reads_eq_ok_iff, headerNeeds]
  split_ifs with hnone
  · simp
  · simp only [reads_eq_ok_iff, exists_and_left]
    constructor
    · intro h
      exact h.2.1
    · intro h
      exact ⟨by omega, h, _, rfl⟩

/-- What a header leaves as it is. -/
theorem formatDescs_of_header {s t : StreamingInterface} {block : List UInt8}
    (h : uvcParseVsInputHeader s block = .ok t) : t.formatDescs = s.formatDescs := by
  simp only [uvcParseVsInputHeader, reads_eq_ok_iff] at h
  obtain ⟨-, h⟩ := h
  split_ifs at h with hnone
  · cases h
    rfl
  · obtain ⟨-, h⟩ := reads_eq_ok_iff.mp h
    cases h
    rfl

theorem StreamingInterface.formatDescs_appendFrame (s : StreamingInterface) (frame : FrameDesc) :
    (s.appendFrame frame).formatDescs ≠ [] ↔ s.formatDescs ≠ [] := by
  rcases List.eq_nil_or_concat s.formatDescs with hnil | ⟨before, format, hconcat⟩
  · simp [StreamingInterface.appendFrame, hnil]
  · simp [StreamingInterface.appendFrame, hconcat]

/-- A frame that is looked at as far as the number of its intervals says. -/
theorem front_le_of_frameNeeds {block : List UInt8} {place : ℕ}
    (h : frameNeeds block place ≤ block.length) : 26 ≤ block.length := by
  rw [frameNeeds] at h
  split_ifs at h <;> omega

theorem uvcParseVsFrameFrame_ok_iff (s : StreamingInterface) (block : List UInt8) :
    (∃ t, uvcParseVsFrameFrame s block = .ok t) ↔
      frameNeeds block 21 ≤ block.length ∧ s.formatDescs ≠ [] := by
  rw [uvcParseVsFrameFrame, frameNeeds]
  constructor
  · rintro ⟨t, ht⟩
    split_ifs at ht with hnone
    obtain ⟨-, ht⟩ := reads_eq_ok_iff.mp ht
    simp only at ht
    split_ifs at ht with hcount
    · rw [if_pos hcount]
      exact ⟨(reads_eq_ok_iff.mp ht).1, hnone⟩
    · rw [if_neg hcount]
      exact ⟨(reads_eq_ok_iff.mp ht).1, hnone⟩
  · rintro ⟨hneeds, hsome⟩
    have hfront : 26 ≤ block.length := front_le_of_frameNeeds hneeds
    rw [if_neg hsome]
    by_cases hcount : block.getD 21 0 = 0
    · rw [if_pos hcount] at hneeds
      simp only [reads_of_le hfront, if_pos hcount]
      exact ⟨_, reads_of_le hneeds _⟩
    · rw [if_neg hcount] at hneeds
      simp only [reads_of_le hfront, if_neg hcount]
      exact ⟨_, reads_of_le hneeds _⟩

theorem uvcParseVsFrameFrame_appends {s t : StreamingInterface} {block : List UInt8}
    (h : uvcParseVsFrameFrame s block = .ok t) :
    ∃ frame, t = s.appendFrame frame ∧ frame.dwMaxVideoFrameBufferSize = 0 := by
  rw [uvcParseVsFrameFrame] at h
  split_ifs at h
  obtain ⟨-, h⟩ := reads_eq_ok_iff.mp h
  simp only at h
  split_ifs at h
  · obtain ⟨-, h⟩ := reads_eq_ok_iff.mp h
    exact ⟨_, (Except.ok.inj h).symm, rfl⟩
  · obtain ⟨-, h⟩ := reads_eq_ok_iff.mp h
    exact ⟨_, (Except.ok.inj h).symm, rfl⟩

theorem uvcParseVsFrameUncompressed_ok_iff (s : StreamingInterface) (block : List UInt8) :
    (∃ t, uvcParseVsFrameUncompressed s block = .ok t) ↔
      frameNeeds block 25 ≤ block.length ∧ s.formatDescs ≠ [] := by
  rw [uvcParseVsFrameUncompressed, frameNeeds]
  cases hlast : s.formatDescs.getLast? with
  | none => simp [List.getLast?_eq_none_iff.mp hlast]
  | some format =>
    have hsome : s.formatDescs ≠ [] := by
      intro hnil
      simp [hnil] at hlast
    simp only
    constructor
    · rintro ⟨t, ht⟩
      obtain ⟨-, ht⟩ := reads_eq_ok_iff.mp ht
      by_cases hcount : block.getD 25 0 = 0
      · simp only [if_pos hcount] at ht ⊢
        exact ⟨(reads_eq_ok_iff.mp ht).1, hsome⟩
      · simp only [if_neg hcount] at ht ⊢
        exact ⟨(reads_eq_ok_iff.mp ht).1, hsome⟩
    · rintro ⟨hneeds, -⟩
      have hfront : 26 ≤ block.length := front_le_of_frameNeeds hneeds
      by_cases hcount : block.getD 25 0 = 0
      · rw [if_pos hcount] at hneeds
        simp only [reads_of_le hfront, if_pos hcount]
        exact ⟨_, reads_of_le hneeds _⟩
      · rw [if_neg hcount] at hneeds
        simp only [reads_of_le hfront, if_neg hcount]
        exact ⟨_, reads_of_le hneeds _⟩

theorem uvcParseVsFrameUncompressed_appends {s t : StreamingInterface} {block : List UInt8}
    (h : uvcParseVsFrameUncompressed s block = .ok t) :
    ∃ frame, t = s.appendFrame frame ∧ frame.bDescriptorSubtype = block.getD 2 0 := by
  rw [uvcParseVsFrameUncompressed] at h
  split at h
  · cases h
  · obtain ⟨-, h⟩ := reads_eq_ok_iff.mp h
    by_cases hcount : block.getD 25 0 = 0
    · simp only [if_pos hcount] at h
      exact ⟨_, (Except.ok.inj (reads_eq_ok_iff.mp h).2).symm, rfl⟩
    · simp only [if_neg hcount] at h
      exact ⟨_, (Except.ok.inj (reads_eq_ok_iff.mp h).2).symm, rfl⟩

/-- Which blocks are taken in. -/
theorem uvcParseVs_ok_iff (s : StreamingInterface) (block : List UInt8) :
    (∃ t, uvcParseVs s block = .ok t) ↔
      bytesNeeded block ≤ block.length ∧ (IsFrame block → s.formatDescs ≠ []) := by
  rw [uvcParseVs, bytesNeeded, IsFrame]
  generalize hsubtype : block.getD 2 0 = subtype
  split_ifs with hheader huncompressed hmjpeg hframe hbased hframeBased
  · rw [uvcParseVsInputHeader_ok_iff, hheader]
    simp
  · rw [huncompressed, uvcParseVsFormatUncompressed]
    simp [reads_eq_ok_iff]
  · rw [hmjpeg, uvcParseVsFormatMjpeg]
    simp [reads_eq_ok_iff]
  · rw [uvcParseVsFrameUncompressed_ok_iff]
    rcases hframe with hframe | hframe <;> simp [hframe]
  · rw [hbased, uvcParseVsFrameFormat]
    simp [reads_eq_ok_iff]
  · rw [uvcParseVsFrameFrame_ok_iff, hframeBased]
    simp
  · have hnone : ¬ (subtype = 0x05 ∨ subtype = 0x07 ∨ subtype = 0x11) := fun h ↦
      h.elim (fun h ↦ hframe (Or.inl h)) fun h ↦
        h.elim (fun h ↦ hframe (Or.inr h)) fun h ↦ hframeBased h
    simp [hnone]

/-- Whether there is a format behind a block. -/
theorem formatDescs_of_uvcParseVs {s t : StreamingInterface} {block : List UInt8}
    (h : uvcParseVs s block = .ok t) :
    t.formatDescs ≠ [] ↔ s.formatDescs ≠ [] ∨ IsFormat block := by
  rw [uvcParseVs] at h
  rw [IsFormat]
  generalize hsubtype : block.getD 2 0 = subtype at h ⊢
  split_ifs at h with hheader huncompressed hmjpeg hframe hbased hframeBased
  · rw [formatDescs_of_header h, hheader]
    simp
  · obtain ⟨-, h⟩ := reads_eq_ok_iff.mp h
    cases h
    simp [huncompressed, StreamingInterface.appendFormat]
  · obtain ⟨-, h⟩ := reads_eq_ok_iff.mp h
    cases h
    simp [hmjpeg, StreamingInterface.appendFormat]
  · obtain ⟨frame, rfl, -⟩ := uvcParseVsFrameUncompressed_appends h
    rw [StreamingInterface.formatDescs_appendFrame]
    rcases hframe with hframe | hframe <;> simp [hframe]
  · obtain ⟨-, h⟩ := reads_eq_ok_iff.mp h
    cases h
    simp [hbased, StreamingInterface.appendFormat]
  · obtain ⟨frame, rfl, -⟩ := uvcParseVsFrameFrame_appends h
    rw [StreamingInterface.formatDescs_appendFrame]
    simp [hframeBased]
  · cases h
    simp [huncompressed, hmjpeg, hbased]

/-! ### The whole scan -/

theorem sound_of_blocks {s t : StreamingInterface} {buffer : List UInt8}
    (h : vsScanner.Blocks s buffer t) : Sound (decide (s.formatDescs ≠ [])) buffer := by
  induction h with
  | tail hshort => exact .tail hshort
  | @block s t u block rest hleast hne hsize hhandle hrest ih =>
    obtain ⟨hneeded, hframe⟩ := (uvcParseVs_ok_iff s (block ++ rest)).mp ⟨t, hhandle⟩
    refine .block hleast hne hsize hneeded (fun h ↦ decide_eq_true (hframe h)) ?_
    have hformats := formatDescs_of_uvcParseVs hhandle
    rw [← Bool.decide_or, ← decide_eq_decide.mpr hformats]
    exact ih

theorem blocks_of_sound {behind : Bool} {buffer : List UInt8} (h : Sound behind buffer)
    {s : StreamingInterface} (hs : s.formatDescs ≠ [] ↔ behind = true) :
    ∃ t, vsScanner.Blocks s buffer t := by
  induction h generalizing s with
  | tail hshort => exact ⟨s, .tail hshort⟩
  | @block behind block rest hleast hne hsize hneeded hframe hrest ih =>
    obtain ⟨t, ht⟩ := (uvcParseVs_ok_iff s (block ++ rest)).mpr
      ⟨hneeded, fun h ↦ hs.mpr (hframe h)⟩
    have hformats : t.formatDescs ≠ [] ↔
        (behind || decide (IsFormat (block ++ rest))) = true := by
      rw [formatDescs_of_uvcParseVs ht, hs, Bool.or_eq_true, decide_eq_true_iff]
    obtain ⟨u, hu⟩ := ih hformats
    exact ⟨u, .block hleast hne hsize ht hu⟩

/-- A scan of a streaming interface comes through exactly the buffers that are sound. -/
theorem scan_streaming_safe_iff (bInterfaceNumber : UInt8) (buffer : List UInt8) :
    (∃ t, vsScanner.scan (.blank bInterfaceNumber) buffer = .ok t) ↔ Sound false buffer := by
  constructor
  · rintro ⟨t, ht⟩
    have hleast : 0 < vsScanner.least := by decide
    exact sound_of_blocks ((BlockScanner.scan_eq_ok_iff hleast).mp ht)
  · intro h
    have hnone : (StreamingInterface.blank bInterfaceNumber).formatDescs ≠ [] ↔ false = true := by
      simp [StreamingInterface.blank]
    obtain ⟨t, ht⟩ := blocks_of_sound h hnone
    exact ⟨t, (BlockScanner.scan_eq_ok_iff (by decide)).mpr ht⟩

end UvcRtmpStream.Camera
