import UvcRtmpStream.Camera.PreviewShutdown

/-!
# The frames that are shown

What the preview window, the capture surface and the callback show are frames that arrived, in the
order in which they arrived, none twice and none mixed with another: a frame that is shown was not
written into since it was filled. Frames may be left out, wherever a queue is full or a newer frame
is there.

The frames on their way to an output form a chain, from those already shown to the one that is being
copied; a step leaves out a part of the chain, and only an arrival adds to it, at the end. So each
chain stays a sublist of the arrivals (`drawn_in_order`, `captured_in_order`). For the capture
thread that takes that one thread does not overtake another: its predecessor must have been joined.
-/

set_option autoImplicit false
set_option relaxedAutoImplicit false

namespace UvcRtmpStream.Camera

open UvcRtmpStream.Foundations

/-- The frame of the stream that is filled, and the number of the one that is being copied. -/
def StreamPhase.filled : StreamPhase → List ℕ
  | .adding frame => [frame]
  | .idle | .copying _ _ | .dropping _ => []

def StreamPhase.number : StreamPhase → List ℕ
  | .copying _ number => [number]
  | .idle | .adding _ | .dropping _ => []

/-- The frame that is on its way to the window. -/
def PreviewPhase.undrawn : PreviewPhase → List ℕ
  | .taken frame | .decoding frame _ | .drawing frame | .converting frame _ | .showing _ frame =>
    [frame]
  | _ => []

/-- The frame that is on its way to `captureQueu`. -/
def PreviewPhase.passing : PreviewPhase → List ℕ
  | .taken frame | .decoding frame _ | .drawing frame | .converting frame _ | .showing frame _
  | .adding frame => [frame]
  | _ => []

/-- The outputs of the capture thread. -/
inductive Output
  | surface
  | callback

/-- The frame that is on its way to an output. -/
def CapturePhase.pending : Output → CapturePhase → List ℕ
  | .surface, .copying _ frame | .surface, .filling _ frame | .surface, .pasting frame _ => [frame]
  | .surface, _ => []
  | .callback, .copying _ frame | .callback, .filling _ frame | .callback, .pasting _ frame
  | .callback, .calling _ frame | .callback, .converting _ frame _
  | .callback, .delivering _ frame => [frame]
  | .callback, _ => []

/-- A frame that is not in a list shows what it likes. -/
theorem map_update_of_notMem {content : ℕ → ℕ} {frame : ℕ} {frames : List ℕ} (h : frame ∉ frames)
    (number : ℕ) : frames.map (Function.update content frame number) = frames.map content := by
  refine List.map_congr_left fun other hother ↦ Function.update_of_ne ?_ _ _
  rintro rfl
  exact h hother

/-- Where only the last capture thread may live, it alone has a frame. -/
theorem flatMap_set_of_last {captures : List CapturePhase} {place : ℕ} {old : CapturePhase}
    (hold : captures[place]? = some old) (hlive : old ≠ .over)
    (hlast : ∀ other phase, captures[other]? = some phase → phase ≠ .over →
      other + 1 = captures.length)
    {hand : CapturePhase → List ℕ} (hover : hand .over = []) (phase : CapturePhase) :
    captures.flatMap hand = hand old ∧ (captures.set place phase).flatMap hand = hand phase := by
  have hplace := hlast place old hold hlive
  obtain rfl | ⟨rest, last, rfl⟩ := captures.eq_nil_or_concat
  · simp at hold
  · simp only [List.concat_eq_append, List.length_append, List.length_singleton]
      at hold hlast hplace ⊢
    obtain rfl : place = rest.length := by omega
    obtain rfl : last = old := by simpa using hold
    have hrest : rest.flatMap hand = [] := by
      refine List.flatMap_eq_nil_iff.mpr fun other hmem ↦ ?_
      obtain ⟨position, hposition⟩ := List.mem_iff_getElem?.mp hmem
      have hbound : position < rest.length := (List.getElem?_eq_some_iff.mp hposition).1
      by_contra hsome
      have hother : other ≠ .over := fun heq ↦ hsome (heq ▸ hover)
      have := hlast position other (by rwa [List.getElem?_append_left hbound]) hother
      omega
    simp [hrest]

namespace UVCPreview

/-- A chain to an output: what was shown, the numbers of the frames `ahead` of the queue, of those
in it and of the one behind it, and the number that is being copied. -/
def chain (s : UVCPreview) (shown ahead : List ℕ) : List ℕ :=
  shown ++ (ahead ++ s.previewFrames ++ s.stream.filled).map s.content ++ s.stream.number

def shownAt (s : UVCPreview) : Output → List ℕ
  | .surface => s.recorded
  | .callback => s.delivered

/-- The frames between the queue and an output. -/
def ahead (s : UVCPreview) (output : Output) : List ℕ :=
  s.captures.flatMap (CapturePhase.pending output) ++ s.captureQueu.toList ++ s.preview.passing

/-! ### A frame in one hand -/

theorem Custody.count_le {s : UVCPreview} (h : s.Custody) (id : ℕ) :
    s.previewFrames.count id + s.captureQueu.toList.count id + s.stream.held.count id +
      s.preview.held.count id + (heldByCaptures s.captures).count id ≤ 1 := by
  have hcount := h id
  rw [count_places, FramePool.born] at hcount
  split_ifs at hcount <;> omega

theorem Custody.of_stream {s : UVCPreview} (h : s.Custody) {frame : ℕ}
    (hmem : frame ∈ s.stream.held) :
    frame ∉ s.previewFrames ∧ frame ∉ s.captureQueu.toList ∧ frame ∉ s.preview.held ∧
      frame ∉ heldByCaptures s.captures := by
  have hcount := h.count_le frame
  have hheld := List.count_pos_iff.mpr hmem
  refine ⟨?_, ?_, ?_, ?_⟩ <;> exact List.count_eq_zero.mp (by omega)

theorem Custody.of_preview {s : UVCPreview} (h : s.Custody) {frame : ℕ}
    (hmem : frame ∈ s.preview.held) :
    frame ∉ s.previewFrames ∧ frame ∉ s.captureQueu.toList ∧ frame ∉ s.stream.held ∧
      frame ∉ heldByCaptures s.captures := by
  have hcount := h.count_le frame
  have hheld := List.count_pos_iff.mpr hmem
  refine ⟨?_, ?_, ?_, ?_⟩ <;> exact List.count_eq_zero.mp (by omega)

theorem Custody.of_capture {s : UVCPreview} (h : s.Custody) {frame : ℕ}
    (hmem : frame ∈ heldByCaptures s.captures) :
    frame ∉ s.previewFrames ∧ frame ∉ s.captureQueu.toList ∧ frame ∉ s.stream.held ∧
      frame ∉ s.preview.held := by
  have hcount := h.count_le frame
  have hheld := List.count_pos_iff.mpr hmem
  refine ⟨?_, ?_, ?_, ?_⟩ <;> exact List.count_eq_zero.mp (by omega)

/-- A thread holds no frame twice. -/
theorem Custody.nodup_preview {s : UVCPreview} (h : s.Custody) : s.preview.held.Nodup :=
  List.nodup_iff_count_le_one.mpr fun id ↦ by
    have hcount := h.count_le id
    omega

theorem Custody.nodup_capture {s : UVCPreview} (h : s.Custody) {place : ℕ} {phase : CapturePhase}
    (hcapture : s.captures[place]? = some phase) : phase.held.Nodup :=
  List.nodup_iff_count_le_one.mpr fun id ↦ by
    have hcount := h.count_le id
    have hset : (heldByCaptures (s.captures.set place .over)).count id + phase.held.count id =
      (heldByCaptures s.captures).count id + 0 := count_heldByCaptures_set hcapture .over id
    omega

/-! ### What a move does to a chain -/

/-- A part of the chain is left out. -/
theorem chain_sublist {s t : UVCPreview} {shown frames frames' : List ℕ}
    (hframes : frames'.Sublist frames) (hqueue : t.previewFrames.Sublist s.previewFrames)
    (hstream : t.stream = s.stream) (hcontent : t.content = s.content) :
    (t.chain shown frames').Sublist (s.chain shown frames) := by
  unfold chain
  rw [hstream, hcontent]
  exact ((List.Sublist.refl shown).append
    (((hframes.append hqueue).append (List.Sublist.refl _)).map _)).append (List.Sublist.refl _)

/-- A frame that no one in the chain holds is filled. -/
theorem chain_fill {s : UVCPreview} {frame : ℕ} {frames : List ℕ} (hframes : frame ∉ frames)
    (hqueue : frame ∉ s.previewFrames) (hstream : frame ∉ s.stream.held) (number : ℕ)
    (shown : List ℕ) : (s.fill frame number).chain shown frames = s.chain shown frames := by
  have hfilled : frame ∉ s.stream.filled := by
    intro hmem
    apply hstream
    cases hphase : s.stream <;> simp_all [StreamPhase.filled, StreamPhase.held]
  have hnone : frame ∉ frames ++ s.previewFrames ++ s.stream.filled := by simp [*]
  unfold chain
  rw [show (s.fill frame number).content = Function.update s.content frame number from rfl]
  exact congrArg (shown ++ · ++ _) (map_update_of_notMem hnone number)

/-- A frame is filled from another, whose place in the chain it takes. -/
theorem chain_fill_from {s : UVCPreview} {frame : ℕ} {before after : List ℕ}
    (hbefore : frame ∉ before) (hafter : frame ∉ after) (hqueue : frame ∉ s.previewFrames)
    (hstream : frame ∉ s.stream.held) (source : ℕ) (shown : List ℕ) :
    (s.fill frame (s.content source)).chain shown (before ++ frame :: after) =
      s.chain shown (before ++ source :: after) := by
  have hfilled : frame ∉ s.stream.filled := by
    intro hmem
    apply hstream
    cases hphase : s.stream <;> simp_all [StreamPhase.filled, StreamPhase.held]
  simp [chain, fill, map_update_of_notMem hbefore, map_update_of_notMem hafter,
    map_update_of_notMem hqueue, map_update_of_notMem hfilled]

theorem StreamMove.chain {s t : UVCPreview} (h : StreamMove s t) (hs : s.Custody)
    {shown frames : List ℕ} (hframes : ∀ frame ∈ s.stream.held, frame ∉ frames)
    (hchain : (s.chain shown frames).Sublist (List.range s.arrivals)) :
    (t.chain shown frames).Sublist (List.range t.arrivals) := by
  cases h with
  | same => exact hchain
  | arrived hidle =>
    simp only [UVCPreview.chain, hidle, StreamPhase.filled, StreamPhase.number, List.append_nil]
      at hchain ⊢
    rw [List.range_succ]
    exact hchain.append (List.Sublist.refl _)
  | lost =>
    rw [List.range_succ]
    exact hchain.trans (List.sublist_append_left _ _)
  | copied hstream =>
    rename_i frame number
    have hmem : frame ∈ s.stream.held := by simp [hstream, StreamPhase.held]
    have hnone : frame ∉ frames ++ s.previewFrames := by
      simp [hframes frame hmem, (hs.of_stream hmem).1]
    refine List.Sublist.trans ?_ hchain
    simp only [UVCPreview.chain, hstream, fill, StreamPhase.filled, StreamPhase.number,
      List.append_nil]
    rw [List.map_append, map_update_of_notMem hnone]
    simp
  | failed hstream | refused hstream | dropped hstream =>
    refine List.Sublist.trans ?_ hchain
    simp [UVCPreview.chain, hstream, recycle, StreamPhase.filled, StreamPhase.number]
  | added hstream =>
    simpa [UVCPreview.chain, hstream, StreamPhase.filled, StreamPhase.number] using hchain

/-! ### The preview window -/

/-- The chain to the preview window. -/
def ToWindow (s : UVCPreview) : Prop :=
  (s.chain s.drawn s.preview.undrawn).Sublist (List.range s.arrivals)

theorem PreviewPhase.held_of_undrawn {phase : PreviewPhase} {frame : ℕ}
    (h : frame ∈ phase.undrawn) : frame ∈ phase.held := by
  cases phase <;> simp_all [PreviewPhase.undrawn, PreviewPhase.held]

theorem PreviewMove.toWindow {s t : UVCPreview} (h : PreviewMove s t) (hs : s.Custody)
    (hchain : s.ToWindow) : t.ToWindow := by
  unfold ToWindow at hchain ⊢
  have hkept : ∀ {u : UVCPreview} {frames : List ℕ}, frames.Sublist s.preview.undrawn →
      u.previewFrames.Sublist s.previewFrames → u.stream = s.stream → u.content = s.content →
        (u.chain s.drawn frames).Sublist (List.range s.arrivals) :=
    fun hframes hqueue hstream hcontent ↦
      (chain_sublist hframes hqueue hstream hcontent).trans hchain
  cases h with
  | same => exact hchain
  | cleared hpreview hqueue =>
    refine hkept (List.Sublist.refl _) ?_ rfl rfl
    rw [hqueue]
    exact List.sublist_cons_self _ _
  | took hpreview hqueue =>
    refine List.Sublist.trans ?_ hchain
    simp only [chain, hpreview, hqueue, PreviewPhase.undrawn]
    split_ifs <;> simp
  | decoded hpreview =>
    rename_i mjpeg frame
    have hmem : frame ∈ s.preview.held := by simp [hpreview, PreviewPhase.held]
    obtain ⟨hqueue, -, hstream, -⟩ := hs.of_preview hmem
    have hnil : frame ∉ ([] : List ℕ) := List.not_mem_nil
    have hfill := chain_fill_from hnil hnil hqueue hstream mjpeg s.drawn
    rw [hpreview] at hchain
    exact hfill ▸ hchain
  | filled hpreview =>
    rename_i frame converted
    have hmem : converted ∈ s.preview.held := by simp [hpreview, PreviewPhase.held]
    obtain ⟨hqueue, -, hstream, -⟩ := hs.of_preview hmem
    have hnil : converted ∉ ([] : List ℕ) := List.not_mem_nil
    have hfill := chain_fill_from hnil hnil hqueue hstream frame s.drawn
    rw [hpreview] at hchain
    exact hfill ▸ hchain
  | shown window hpreview =>
    refine List.Sublist.trans ?_ hchain
    rw [hpreview]
    cases window <;> simp [chain, recycle, PreviewPhase.undrawn]
  | got hpreview | drew hpreview =>
    refine hkept ?_ (List.Sublist.refl _) rfl rfl
    rw [hpreview]
    exact List.Sublist.refl _
  | _ => exact hkept (List.nil_sublist _) (List.Sublist.refl _) rfl rfl

/-! ### The outputs of the capture thread -/

/-- The chain to an output of the capture thread. -/
def ToOutput (s : UVCPreview) (output : Output) : Prop :=
  (s.chain (s.shownAt output) (s.ahead output)).Sublist (List.range s.arrivals)

theorem CapturePhase.held_of_pending {output : Output} {phase : CapturePhase} {frame : ℕ}
    (h : frame ∈ phase.pending output) : frame ∈ phase.held := by
  cases output <;> cases phase <;> simp_all [CapturePhase.pending, CapturePhase.held]

theorem held_of_pending {output : Output} {captures : List CapturePhase} {frame : ℕ}
    (h : frame ∈ captures.flatMap (CapturePhase.pending output)) :
    frame ∈ heldByCaptures captures := by
  obtain ⟨phase, hphase, hmem⟩ := List.mem_flatMap.mp h
  exact List.mem_flatMap.mpr ⟨phase, hphase, CapturePhase.held_of_pending hmem⟩

theorem PreviewPhase.held_of_passing {phase : PreviewPhase} {frame : ℕ}
    (h : frame ∈ phase.passing) : frame ∈ phase.held := by
  cases phase <;> simp_all [PreviewPhase.passing, PreviewPhase.held]

theorem PreviewMove.toOutput {s t : UVCPreview} (h : PreviewMove s t) (hs : s.Custody)
    {output : Output} (hchain : s.ToOutput output) : t.ToOutput output := by
  unfold ToOutput at hchain ⊢
  have hshown : t.shownAt output = s.shownAt output := by cases output <;> cases h <;> rfl
  have harrivals : t.arrivals = s.arrivals := by cases h <;> rfl
  rw [hshown, harrivals]
  have hkept : ∀ {u : UVCPreview} {frames : List ℕ}, frames.Sublist (s.ahead output) →
      u.previewFrames.Sublist s.previewFrames → u.stream = s.stream → u.content = s.content →
        (u.chain (s.shownAt output) frames).Sublist (List.range s.arrivals) :=
    fun hframes hqueue hstream hcontent ↦
      (chain_sublist hframes hqueue hstream hcontent).trans hchain
  cases h with
  | same => exact hchain
  | created hpreview =>
    refine hkept ?_ (List.Sublist.refl _) rfl rfl
    cases output <;> simp [ahead, hpreview, PreviewPhase.passing, CapturePhase.pending]
  | cleared hpreview hqueue =>
    refine hkept (List.Sublist.refl _) ?_ rfl rfl
    rw [hqueue]
    exact List.sublist_cons_self _ _
  | took hpreview hqueue =>
    refine List.Sublist.trans ?_ hchain
    simp only [chain, ahead, hpreview, hqueue, PreviewPhase.passing]
    split_ifs <;> simp
  | decoded hpreview =>
    rename_i mjpeg frame
    have hmem : frame ∈ s.preview.held := by simp [hpreview, PreviewPhase.held]
    obtain ⟨hqueue, hslot, hstream, hcaptures⟩ := hs.of_preview hmem
    have hbefore : frame ∉ s.captures.flatMap (CapturePhase.pending output) ++
        s.captureQueu.toList := by
      simp only [List.mem_append, not_or]
      exact ⟨fun h ↦ hcaptures (held_of_pending h), hslot⟩
    have hfill := chain_fill_from hbefore List.not_mem_nil hqueue hstream mjpeg (s.shownAt output)
    rw [ahead, hpreview] at hchain
    exact hfill ▸ hchain
  | filled hpreview =>
    rename_i frame converted
    have hmem : converted ∈ s.preview.held := by simp [hpreview, PreviewPhase.held]
    obtain ⟨hqueue, hslot, hstream, hcaptures⟩ := hs.of_preview hmem
    have hother : converted ≠ frame := by
      have hnodup := hs.nodup_preview
      rw [hpreview] at hnodup
      rintro rfl
      simp [PreviewPhase.held] at hnodup
    have hnone : converted ∉ s.ahead output := by
      simp only [ahead, hpreview, PreviewPhase.passing, List.mem_append, List.mem_singleton, not_or]
      exact ⟨⟨fun h ↦ hcaptures (held_of_pending h), hslot⟩, hother⟩
    have hfill := chain_fill hnone hqueue hstream (s.content frame) (s.shownAt output)
    rw [← hfill, ahead, hpreview] at hchain
    exact hchain
  | added hpreview hqueue | replaced hpreview hqueue =>
    refine hkept ?_ (List.Sublist.refl _) rfl rfl
    simp [ahead, hpreview, hqueue, PreviewPhase.passing, recycle]
  | got hpreview | drew hpreview | skipped hpreview | unfilled hpreview | shown _ hpreview =>
    refine hkept ?_ (List.Sublist.refl _) rfl rfl
    simp [ahead, hpreview, PreviewPhase.passing, recycle]
  | _ =>
    refine hkept ?_ (List.Sublist.refl _) rfl rfl
    exact (List.Sublist.refl _).append (List.nil_sublist _)

/-- The frames ahead, where the last capture thread goes on. -/
theorem Tidy.ahead_become {s u : UVCPreview} (hs : s.Tidy) {place : ℕ} {old : CapturePhase}
    (hold : s.captures[place]? = some old) (hlive : old ≠ .over)
    (hcaptures : u.captures = s.captures) (phase : CapturePhase) (output : Output) :
    s.ahead output = old.pending output ++ s.captureQueu.toList ++ s.preview.passing ∧
      (u.become place phase).ahead output =
        phase.pending output ++ u.captureQueu.toList ++ u.preview.passing := by
  have hover : CapturePhase.over.pending output = [] := by cases output <;> rfl
  obtain ⟨hbefore, hafter⟩ := flatMap_set_of_last hold hlive hs.earlier hover phase
  simp only [ahead, become, hcaptures, hbefore, hafter, and_self]

/-- A move of the capture thread that fills no frame and shows none. -/
theorem ToOutput.become {s u : UVCPreview} {output : Output} (hchain : s.ToOutput output)
    (hs : s.Tidy) {place : ℕ} {old phase : CapturePhase} (hold : s.captures[place]? = some old)
    (hlive : old ≠ .over) (hcaptures : u.captures = s.captures)
    (hsame : u.shownAt output = s.shownAt output ∧ u.arrivals = s.arrivals ∧
      u.previewFrames = s.previewFrames ∧ u.stream = s.stream ∧ u.content = s.content ∧
        u.preview = s.preview)
    (hpending : (phase.pending output ++ u.captureQueu.toList).Sublist
      (old.pending output ++ s.captureQueu.toList)) : (u.become place phase).ToOutput output := by
  obtain ⟨hshown, harrivals, hqueue, hstream, hcontent, hpreview⟩ := hsame
  obtain ⟨hbefore, hafter⟩ := hs.ahead_become hold hlive hcaptures phase output
  have hshown' : (u.become place phase).shownAt output = s.shownAt output := by
    cases output <;> exact hshown
  unfold ToOutput at hchain ⊢
  rw [hafter, hshown', hpreview, show (u.become place phase).arrivals = s.arrivals from harrivals]
  rw [hbefore] at hchain
  have hsub : u.previewFrames.Sublist s.previewFrames := by rw [hqueue]
  exact (chain_sublist (hpending.append (List.Sublist.refl _)) hsub hstream hcontent).trans hchain

/-- A move of the capture thread that fills a frame it holds: one that is not on its way to the
output, or one that takes the place of the frame it is filled from. -/
theorem ToOutput.fill {s : UVCPreview} {output : Output} (hchain : s.ToOutput output)
    (htidy : s.Tidy) (hs : s.Custody) {place frame source : ℕ} {old phase : CapturePhase}
    (hold : s.captures[place]? = some old) (hlive : old ≠ .over) (hheld : frame ∈ old.held)
    (hpending : frame ∉ old.pending output ∧ phase.pending output = old.pending output ∨
      old.pending output = [source] ∧ phase.pending output = [frame]) :
    ((s.fill frame (s.content source)).become place phase).ToOutput output := by
  have hmem : frame ∈ heldByCaptures s.captures :=
    List.mem_flatMap.mpr ⟨old, List.mem_of_getElem? hold, hheld⟩
  obtain ⟨hqueue, hslot, hstream, hpreview⟩ := hs.of_capture hmem
  have hpassing : frame ∉ s.captureQueu.toList ++ s.preview.passing := by
    simp only [List.mem_append, not_or]
    exact ⟨hslot, fun h ↦ hpreview (PreviewPhase.held_of_passing h)⟩
  obtain ⟨hbefore, hafter⟩ := htidy.ahead_become (u := s.fill frame (s.content source)) hold hlive
    rfl phase output
  have hshown : ((s.fill frame (s.content source)).become place phase).shownAt output =
      s.shownAt output := by cases output <;> rfl
  unfold ToOutput at hchain ⊢
  rw [hafter, hshown]
  rw [hbefore] at hchain
  rcases hpending with ⟨hnot, hsame⟩ | ⟨hsource, hframe⟩
  · have hnone : frame ∉ old.pending output ++ s.captureQueu.toList ++ s.preview.passing := by
      rw [List.append_assoc]
      exact fun h ↦ (List.mem_append.mp h).elim hnot hpassing
    have hfill := chain_fill hnone hqueue hstream (s.content source) (s.shownAt output)
    rw [hsame]
    exact hfill ▸ hchain
  · have hnil : frame ∉ ([] : List ℕ) := List.not_mem_nil
    have hfill := chain_fill_from hnil hpassing hqueue hstream source (s.shownAt output)
    rw [hframe]
    rw [hsource] at hchain
    exact hfill ▸ hchain

theorem CaptureMove.toOutput {s t : UVCPreview} {place : ℕ} (h : CaptureMove s place t)
    (hs : s.Custody) (htidy : s.Tidy) {output : Output} (hchain : s.ToOutput output) :
    t.ToOutput output := by
  cases h with
  | same => exact hchain
  | clear hcapture hqueue | ended hcapture | leftSurface hcapture | dropped hcapture
  | skipped hcapture | unturned hcapture | got hcapture | ready hcapture | skippedSurface hcapture
  | unfilled hcapture | passed hcapture | gotCallback hcapture | cleared hcapture
  | left hcapture =>
    refine hchain.become htidy hcapture (by simp) rfl
      ⟨by cases output <;> rfl, rfl, rfl, rfl, rfl, rfl⟩ ?_
    cases output <;> simp [CapturePhase.pending, recycle]
  | chose window hcapture =>
    refine hchain.become htidy hcapture (by simp) rfl
      ⟨by cases output <;> rfl, rfl, rfl, rfl, rfl, rfl⟩ ?_
    cases output <;> cases window <;> simp [CapturePhase.pending]
  | took hcapture hqueue | tookForSurface hcapture hqueue =>
    refine hchain.become htidy hcapture (by simp) rfl
      ⟨by cases output <;> rfl, rfl, rfl, rfl, rfl, rfl⟩ ?_
    cases output <;> simp [CapturePhase.pending, hqueue]
  | filled hcapture =>
    rename_i converted frame
    have hother : converted ≠ frame := by
      have hnodup := hs.nodup_capture hcapture
      rintro rfl
      simp [CapturePhase.held] at hnodup
    refine hchain.fill htidy hs hcapture (by simp) (by simp [CapturePhase.held]) ?_
    cases output with
    | surface => exact Or.inr ⟨rfl, rfl⟩
    | callback => exact Or.inl ⟨by simpa [CapturePhase.pending] using hother, rfl⟩
  | turned hcapture =>
    rename_i loop frame callback
    have hfilled : ((s.fill callback (s.content frame)).become place
        (.delivering loop callback)).ToOutput output := by
      refine hchain.fill htidy hs hcapture (by simp) (by simp [CapturePhase.held]) ?_
      cases output with
      | surface => exact Or.inl ⟨List.not_mem_nil, rfl⟩
      | callback => exact Or.inr ⟨rfl, rfl⟩
    exact hfilled
  | pasted window hcapture =>
    rename_i converted frame
    obtain ⟨hbefore, hafter⟩ := htidy.ahead_become (u := { s with
      recorded := if window then s.recorded ++ [s.content converted] else s.recorded }) hcapture
        (by simp) rfl (.calling (.surface (some converted)) frame) output
    unfold ToOutput at hchain ⊢
    rw [hafter]
    rw [hbefore] at hchain
    refine List.Sublist.trans ?_ hchain
    cases output <;> cases window <;> simp [UVCPreview.chain, become, shownAt, CapturePhase.pending]
  | delivered wanted hcapture =>
    rename_i loop callback
    obtain ⟨hbefore, hafter⟩ := htidy.ahead_become (u := { s.recycle callback with
      delivered := if wanted then s.delivered ++ [s.content callback] else s.delivered }) hcapture
        (by simp) rfl (.waiting loop) output
    unfold ToOutput at hchain ⊢
    rw [hafter]
    rw [hbefore] at hchain
    refine List.Sublist.trans ?_ hchain
    cases output <;> cases wanted <;>
      simp [UVCPreview.chain, become, shownAt, recycle, CapturePhase.pending]

/-! ### Every order of the steps -/

/-- The caller only leaves frames out. -/
theorem CallerMove.chain {s t : UVCPreview} (h : CallerMove s t) (shown : List ℕ) :
    t.arrivals = s.arrivals ∧
      (t.chain shown t.preview.undrawn).Sublist (s.chain shown s.preview.undrawn) ∧
        ∀ output, (t.chain shown (t.ahead output)).Sublist (s.chain shown (s.ahead output)) := by
  have hrefl : ∀ frames : List ℕ, frames.Sublist frames := List.Sublist.refl
  cases h with
  | cleared hcaller hqueue =>
    refine ⟨rfl, chain_sublist (hrefl _) ?_ rfl rfl, fun output ↦
      chain_sublist (hrefl _) ?_ rfl rfl⟩
    · rw [hqueue]
      exact List.sublist_cons_self _ _
    · rw [hqueue]
      exact List.sublist_cons_self _ _
  | started hcaller =>
    exact ⟨rfl, chain_sublist (List.nil_sublist _) (hrefl _) rfl rfl, fun output ↦
      chain_sublist ((hrefl _).append (List.nil_sublist _)) (hrefl _) rfl rfl⟩
  | joinedPreview hcaller =>
    exact ⟨rfl, chain_sublist (List.nil_sublist _) (hrefl _) rfl rfl, fun output ↦
      chain_sublist ((hrefl _).append (List.nil_sublist _)) (hrefl _) rfl rfl⟩
  | clearedCapture hcaller hqueue =>
    refine ⟨rfl, chain_sublist (hrefl _) (hrefl _) rfl rfl, fun output ↦
      chain_sublist ?_ (hrefl _) rfl rfl⟩
    exact ((hrefl _).append (List.nil_sublist _)).append (hrefl _)
  | _ =>
    exact ⟨rfl, chain_sublist (hrefl _) (hrefl _) rfl rfl, fun output ↦
      chain_sublist (hrefl _) (hrefl _) rfl rfl⟩

/-- The capture thread fills no frame on its way to the window. -/
theorem ToWindow.fill {s : UVCPreview} (hchain : s.ToWindow) (hs : s.Custody) {place frame : ℕ}
    {phase : CapturePhase} (hcapture : s.captures[place]? = some phase) (hheld : frame ∈ phase.held)
    (number : ℕ) : (s.fill frame number).ToWindow := by
  have hmem : frame ∈ heldByCaptures s.captures :=
    List.mem_flatMap.mpr ⟨phase, List.mem_of_getElem? hcapture, hheld⟩
  obtain ⟨hqueue, -, hstream, hpreview⟩ := hs.of_capture hmem
  have hundrawn : frame ∉ s.preview.undrawn := fun h ↦ hpreview (PreviewPhase.held_of_undrawn h)
  have hfill := chain_fill hundrawn hqueue hstream number s.drawn
  unfold ToWindow at hchain ⊢
  rw [← hfill] at hchain
  exact hchain

theorem Moves.toWindow {s t : UVCPreview} (h : Moves s t) (hs : s.Custody) (hchain : s.ToWindow) :
    t.ToWindow := by
  rcases h with hmove | hmove | hmove | hmove
  · have hahead : ∀ frame ∈ s.stream.held, frame ∉ s.preview.undrawn :=
      fun frame hmem hundrawn ↦ (hs.of_stream hmem).2.2.1 (PreviewPhase.held_of_undrawn hundrawn)
    have hkept := hmove.chain hs hahead hchain
    cases hmove <;> exact hkept
  · exact hmove.toWindow hs hchain
  · cases hmove with
    | filled hcapture | turned hcapture =>
      exact hchain.fill hs hcapture (by simp [CapturePhase.held]) _
    | _ => exact hchain
  · obtain ⟨harrivals, hsub, -⟩ := hmove.chain s.drawn
    have hdrawn : t.drawn = s.drawn := by cases hmove <;> rfl
    unfold ToWindow at hchain ⊢
    rw [hdrawn, harrivals]
    exact hsub.trans hchain

theorem Moves.toOutput {s t : UVCPreview} (h : Moves s t) (hs : s.Custody) (htidy : s.Tidy)
    {output : Output} (hchain : s.ToOutput output) : t.ToOutput output := by
  rcases h with hmove | hmove | hmove | hmove
  · have hahead : ∀ frame ∈ s.stream.held, frame ∉ s.ahead output := by
      intro frame hmem hframe
      obtain ⟨-, hslot, hpreview, hcaptures⟩ := hs.of_stream hmem
      simp only [ahead, List.mem_append] at hframe
      rcases hframe with (hframe | hframe) | hframe
      · exact hcaptures (held_of_pending hframe)
      · exact hslot hframe
      · exact hpreview (PreviewPhase.held_of_passing hframe)
    have hkept := hmove.chain hs hahead hchain
    cases output <;> cases hmove <;> exact hkept
  · exact hmove.toOutput hs hchain
  · exact hmove.toOutput hs htidy hchain
  · obtain ⟨harrivals, -, hsub⟩ := hmove.chain (s.shownAt output)
    have hshown : t.shownAt output = s.shownAt output := by cases output <;> cases hmove <;> rfl
    unfold ToOutput at hchain ⊢
    rw [hshown, harrivals]
    exact (hsub output).trans hchain

def WindowKept (s : UVCPreview) : Prop := s.Kept ∧ s.ToWindow

def OutputKept (output : Output) (s : UVCPreview) : Prop :=
  s.Kept ∧ s.Tidy ∧ s.ToOutput output

/-- The frames drawn on the preview window are frames that arrived, whole, in their order and each
at most once, in every order of the steps of the threads. -/
theorem drawn_in_order (hasCaptureThread : Bool) (events : List PreviewEvent) :
    let s := run step (constructed hasCaptureThread) events
    s.drawn.Sublist (List.range s.arrivals) := by
  intro s
  have hany : Meets step (fun _ _ ↦ True) (constructed hasCaptureThread) events :=
    meets_of_forall fun _ _ ↦ trivial
  have hstep : ∀ (s : UVCPreview) (event : PreviewEvent), s.WindowKept → True →
      (s.step event).WindowKept := fun s event hinv _ ↦
    ⟨(s.moves_step event).kept hinv.1, (s.moves_step event).toWindow hinv.1.custody hinv.2⟩
  have hstart : (constructed hasCaptureThread).WindowKept :=
    ⟨kept_constructed hasCaptureThread, List.Sublist.refl _⟩
  have hs : s.WindowKept := inv_run hstep hstart hany
  refine List.Sublist.trans ?_ hs.2
  simp only [chain, List.append_assoc]
  exact List.sublist_append_left _ _

/-- The same for what is copied to the capture surface and what the callback is given, where every
stop reads `mHasCaptureThread` in time. -/
theorem captured_in_order (hasCaptureThread : Bool) (events : List PreviewEvent)
    (h : Meets step TimelyStop (constructed hasCaptureThread) events) (output : Output) :
    let s := run step (constructed hasCaptureThread) events
    (s.shownAt output).Sublist (List.range s.arrivals) := by
  intro s
  have hstep : ∀ (s : UVCPreview) (event : PreviewEvent), OutputKept output s →
      s.TimelyStop event → OutputKept output (s.step event) := fun s event hinv htimely ↦
    ⟨(s.moves_step event).kept hinv.1, tidy_step hinv.2.1 htimely,
      (s.moves_step event).toOutput hinv.1.custody hinv.2.1 hinv.2.2⟩
  have hstart : OutputKept output (constructed hasCaptureThread) := by
    refine ⟨kept_constructed hasCaptureThread, tidy_constructed hasCaptureThread, ?_⟩
    cases output <;> exact List.Sublist.refl _
  have hs : OutputKept output s := inv_run hstep hstart h
  refine List.Sublist.trans ?_ hs.2.2
  simp only [chain, List.append_assoc]
  exact List.sublist_append_left _ _

/-- One frame, up to the callback. -/
theorem captured_in_order_one_frame :
    let events : List PreviewEvent := [.start, .caller succeed] ++
      List.replicate 5 (.preview succeed) ++ List.replicate 2 (.capture 0 succeed) ++
      List.replicate 3 (.stream succeed) ++ List.replicate 7 (.preview succeed) ++
      List.replicate 7 (.capture 0 succeed)
    ((run step (constructed false) events).shownAt .callback).Sublist
      (List.range (run step (constructed false) events).arrivals) :=
  captured_in_order false _ (by decide) .callback

end UVCPreview

end UvcRtmpStream.Camera
