import UvcRtmpStream.Streaming.ReplayClips

/-!
# What becomes of a saved clip

Two results about the clips that the service saves. A path that it returns should be that of a clip
that was written: this holds of a save exactly when the save of the replay buffer yields a clip
(`success_means_clip_iff`). And a clip should stay as it was written when later ones are saved: the
clips all have one name, so calls that should use different paths never do (`clips_kept_iff`).
-/

set_option autoImplicit false
set_option relaxedAutoImplicit false

namespace UvcRtmpStream.Streaming

open UvcRtmpStream.Foundations UvcRtmpStream.Platform UvcRtmpStream.Replay

/-! ### Success and the file -/

/-- The file holds at least one frame and was finalised. -/
def IsWritten (clip : Option Clip) : Prop :=
  ∃ written, clip = some written ∧ written.samples ≠ [] ∧ written.finalised = true

instance : (clip : Option Clip) → Decidable (IsWritten clip)
  | none => .isFalse (by simp [IsWritten])
  | some written =>
    decidable_of_iff (written.samples ≠ [] ∧ written.finalised = true) (by simp [IsWritten])

/-- The replay buffer behind a holder, with its directory. -/
def ReplayHolder.state (holder : ReplayHolder) : Option (ReplayState (List UInt8)) :=
  holder.replayManager.join.map fun buffer ↦ ⟨buffer, holder.dir⟩

/-- `true` from the replay buffer means that there is a clip. -/
def SaveCall.MeansClip (call : SaveCall) (s : ReplayState (List UInt8)) : Prop :=
  SuccessMeansClip s call.now call.seconds call.videoFormat call.environment

/-- The condition on a save: if nothing keeps it from returning true, a selected segment begins with
a complete record and the muxer's `stop` does not fail. -/
def SaveCall.Yields (call : SaveCall) (s : ReplayState (List UInt8)) : Prop :=
  YieldsClip s call.now call.seconds call.videoFormat call.environment

/-- `true` from `ReplayHolder` means that the file was written. -/
def HolderMeansClip (store : ClipStore) (outPath : String) (call : SaveCall) : Prop :=
  (ReplayHolder.saveLastNSeconds store outPath call).1 = true →
    IsWritten ((ReplayHolder.saveLastNSeconds store outPath call).2.clips outPath)

/-- A path from the service is that of a file that was written. -/
def PathMeansClip (clipsDir : String) (format : ℕ → String) (store : ClipStore) (call : SaveCall) :
    Prop :=
  ∀ path, (StreamService.saveLastNSeconds clipsDir format store call).1 = (true, some path) →
    IsWritten ((StreamService.saveLastNSeconds clipsDir format store call).2.clips path)

section Save

variable {s : ReplayState (List UInt8)} {clips : Clips} {outPath : String} {call : SaveCall}

/-- A save that returns true has made its file. -/
theorem createsMuxer_of_returned (h : (saveClip s clips outPath call).1 = .ok true) :
    call.createsMuxer s = true := by
  change (Replay.saveLastNSeconds s call.now call.seconds call.videoFormat
    call.environment).1.returned = .ok true at h
  rw [saveLastNSeconds_eq] at h
  unfold SaveCall.createsMuxer SaveCall.segmentsToUse
  cases hused : Replay.segmentsToUse s call.now call.seconds call.videoFormat call.environment with
  | none =>
    rw [hused] at h
    cases h
  | some toUse =>
    rw [hused] at h
    have hmuxes := (muxClip_returned_true_iff call.environment toUse).1.mp h
    simp [hmuxes.creates]

theorem saveClip_isWritten_iff :
    ((saveClip s clips outPath call).1 = .ok true →
        IsWritten ((saveClip s clips outPath call).2.2 outPath)) ↔ call.Yields s := by
  rw [SaveCall.Yields, ← successMeansClip_iff]
  refine forall_congr' fun htrue ↦ ?_
  have hfile : (saveClip s clips outPath call).2.2 outPath =
      some ⟨(Replay.saveLastNSeconds s call.now call.seconds call.videoFormat
          call.environment).1.samples,
        (Replay.saveLastNSeconds s call.now call.seconds call.videoFormat
          call.environment).1.stopped⟩ := by
    simp [saveClip, createsMuxer_of_returned htrue]
  rw [hfile]
  simp [IsWritten]

end Save

/-- What `ReplayManager` does, by the buffer that there is. -/
theorem manager_saveLastNSeconds (store : ClipStore) (outPath : String) (call : SaveCall) :
    ReplayManager.saveLastNSeconds store outPath call =
      store.holder.state.elim (.ok false, store) fun s ↦
        ((saveClip s store.clips outPath call).1,
          ⟨⟨some (some (saveClip s store.clips outPath call).2.1.buffer),
            (saveClip s store.clips outPath call).2.1.dir⟩,
            (saveClip s store.clips outPath call).2.2⟩) := by
  obtain ⟨⟨manager, dir⟩, clips⟩ := store
  rcases manager with - | - | buffer <;> rfl

theorem manager_isWritten_iff (store : ClipStore) (outPath : String) (call : SaveCall) :
    ((ReplayManager.saveLastNSeconds store outPath call).1 = .ok true →
        IsWritten ((ReplayManager.saveLastNSeconds store outPath call).2.clips outPath)) ↔
      ∀ s, store.holder.state = some s → call.Yields s := by
  rw [manager_saveLastNSeconds]
  cases store.holder.state with
  | none =>
    refine iff_of_true (fun h ↦ ?_) fun s h ↦ ?_
    · cases h
    · cases h
  | some s =>
    simp only [Option.elim_some, Option.some.injEq, forall_eq']
    exact saveClip_isWritten_iff

/-- Success means that a clip exists. For every state of the replay buffer and every behaviour of
the platform, `true` from `ReplayBuffer.saveLastNSeconds` means that a frame was passed to the muxer
and its `stop` succeeded, and `true` from `ReplayHolder`, or a path from the service, that the file
was written, if and only if the save yields a clip. -/
theorem success_means_clip_iff (s : ReplayState (List UInt8)) (store : ClipStore)
    (outPath clipsDir : String) (format : ℕ → String) (call : SaveCall) :
    (call.MeansClip s ↔ call.Yields s) ∧
      (HolderMeansClip store outPath call ↔
        ∀ s, store.holder.state = some s → call.Yields s) ∧
      (PathMeansClip clipsDir format store call ↔
        ∀ s, (ensureReplayInitialized store.holder call.now call.dirReady).state = some s →
          call.Yields s) := by
  refine ⟨successMeansClip_iff _ _ _ _ _, ?_, ?_⟩
  · rw [← manager_isWritten_iff store outPath call]
    unfold HolderMeansClip ReplayHolder.saveLastNSeconds
    cases hreturned : (ReplayManager.saveLastNSeconds store outPath call).1 with
    | ok success => simp [hreturned]
    | error exception => simp [hreturned]
  · rw [← manager_isWritten_iff
      ⟨ensureReplayInitialized store.holder call.now call.dirReady, store.clips⟩
      (call.outFile clipsDir format) call]
    unfold PathMeansClip StreamService.saveLastNSeconds
    cases hreturned : (ReplayManager.saveLastNSeconds
        ⟨ensureReplayInitialized store.holder call.now call.dirReady, store.clips⟩
        (call.outFile clipsDir format) call).1 with
    | ok success => cases success <;> simp [hreturned]
    | error exception => simp [hreturned]

/-- A directory with one segment, which has been opened and got no frame, and a muxer whose `stop`
throws because there is no sample. -/
def emptySegmentSave : SaveCall where
  now := 100
  seconds := 10
  videoFormat := some ⟨"video/avc", []⟩
  dirReady := true
  environment :=
    { SaveEnvironment.faultless id (fun _ ↦ List.Perm.refl _) with stopFails := true }

/-- The only frame did not reach its segment: the buffer returns true, and the service the path of a
clip without a frame. -/
theorem not_success_means_clip_empty_segment :
    ∃ fresh, ReplayBuffer.new 120 1000 FileStore.empty 0 true = .ok fresh ∧
      let s := replayRun fresh [.tornWrite 0 0 [1] 0]
      ¬ emptySegmentSave.MeansClip s ∧
        ¬ PathMeansClip "Clips" (fun _ ↦ "19700101_000000")
          ⟨⟨some (some s.buffer), s.dir⟩, fun _ ↦ none⟩ emptySegmentSave := by
  refine ⟨_, rfl, fun h ↦ ?_, fun h ↦ ?_⟩
  · exact absurd (h (by decide)).1 (by decide)
  · have hwritten := h "Clips/clip_$\x7btimestamp\x7d_$\x7bseconds\x7ds.mp4" (by decide)
    exact absurd hwritten (by decide)

/-! ### Later saves -/

/-- The save that an event is. -/
def ClipEvent.save : ClipEvent → Option SaveCall
  | .saveLastNSeconds call => some call
  | .ensureReplayInitialized _ _ | .writeFrame _ _ _ _ => none

/-- The saves among some events, in order. -/
def savesOf (events : List ClipEvent) : List SaveCall := events.filterMap ClipEvent.save

/-- Two saves in one second of wall time, of equally many seconds. -/
def SameRequest (first second : SaveCall) : Prop :=
  first.now / 1000 = second.now / 1000 ∧ first.seconds = second.seconds

/-- Saves in different seconds, or of different length, use different files. -/
def DistinctPaths (clipsDir : String) (format : ℕ → String) (events : List ClipEvent) : Prop :=
  (savesOf events).Pairwise fun first second ↦ ¬ SameRequest first second →
    first.outFile clipsDir format ≠ second.outFile clipsDir format

/-- A clip whose path was returned is as its save left it after any later events, if the saves among
these are made in other seconds. -/
def ClipsKept (clipsDir : String) (format : ℕ → String) (store : ClipStore)
    (events : List ClipEvent) : Prop :=
  ∀ before call after, before ++ .saveLastNSeconds call :: after <+: events →
    ∀ path saved, StreamService.saveLastNSeconds clipsDir format
        (run (clipStep clipsDir format) store before) call = ((true, some path), saved) →
      (∀ later ∈ savesOf after, later.now / 1000 ≠ call.now / 1000) →
        (run (clipStep clipsDir format) saved after).clips path = saved.clips path

theorem savesOf_append (first second : List ClipEvent) :
    savesOf (first ++ second) = savesOf first ++ savesOf second := List.filterMap_append

theorem savesOf_cons (call : SaveCall) (rest : List ClipEvent) :
    savesOf (.saveLastNSeconds call :: rest) = call :: savesOf rest := rfl

/-- The file of every save is the same. -/
theorem outFile_eq (clipsDir : String) (format : ℕ → String) (first second : SaveCall) :
    first.outFile clipsDir format = second.outFile clipsDir format := rfl

/-- Only a save touches the clips. -/
theorem clips_run_of_no_saves (clipsDir : String) (format : ℕ → String) (store : ClipStore)
    {events : List ClipEvent} (h : savesOf events = []) :
    (run (clipStep clipsDir format) store events).clips = store.clips := by
  induction events generalizing store with
  | nil => rfl
  | cons event rest ih =>
    cases event with
    | saveLastNSeconds call => cases h
    | ensureReplayInitialized now dirReady => exact ih _ h
    | writeFrame now h264Buffer info fault => exact ih _ h

/-- Saved clips are kept. Along any events, saves in different seconds or of different length use
different files, and the clips whose paths were returned survive the later saves in other seconds,
if and only if all saves are made in one second with one length. -/
theorem clips_kept_iff (clipsDir : String) (format : ℕ → String) (store : ClipStore)
    (events : List ClipEvent) :
    DistinctPaths clipsDir format events ∧ ClipsKept clipsDir format store events ↔
      (savesOf events).Pairwise SameRequest := by
  constructor
  · rintro ⟨hpaths, -⟩
    refine hpaths.imp fun {first second} hdistinct ↦ ?_
    by_contra hother
    exact hdistinct hother (outFile_eq clipsDir format first second)
  · intro hsame
    refine ⟨hsame.imp fun h hother ↦ absurd h hother, ?_⟩
    rintro before call after ⟨rest, hevents⟩ path saved - hother
    -- A save in the same second is not made in another one, so none comes after.
    have hnone : savesOf after = [] := by
      rw [← hevents, List.append_assoc, savesOf_append, List.cons_append, savesOf_cons] at hsame
      have hafter := (List.pairwise_append.mp hsame).2.1
      refine List.eq_nil_iff_forall_not_mem.mpr fun later hlater ↦ ?_
      refine hother later hlater (List.rel_of_pairwise_cons hafter ?_).1.symm
      rw [savesOf_append]
      exact List.mem_append_left _ hlater
    exact congrFun (clips_run_of_no_saves clipsDir format saved hnone) path

/-- A frame is recorded and saved, and a longer clip is asked for a second later, for which the
muxer refuses the track. -/
def overwrittenClip : List ClipEvent :=
  [.ensureReplayInitialized 0 true,
    .writeFrame 0 (ByteBuffer.wrap [1]) ⟨0, 1, 0, 0⟩ (.io WriteFault.none),
    .saveLastNSeconds ⟨1000, 10, some ⟨"video/avc", []⟩, true,
      SaveEnvironment.faultless id fun _ ↦ List.Perm.refl _⟩,
    .saveLastNSeconds ⟨2000, 20, some ⟨"video/avc", []⟩, true,
      { SaveEnvironment.faultless id (fun _ ↦ List.Perm.refl _) with addTrackFails := true }⟩]

/-- Two saves in different seconds use one file, and the second, which fails, leaves nothing of the
clip that the first returned. -/
theorem not_clips_kept_overwritten :
    ¬ DistinctPaths "Clips" toString overwrittenClip ∧
      ¬ ClipsKept "Clips" toString ⟨⟨none, FileStore.empty⟩, fun _ ↦ none⟩ overwrittenClip := by
  constructor
  · intro h
    have hdistinct := List.rel_of_pairwise_cons h (List.mem_singleton_self _)
    exact hdistinct (fun hsame ↦ absurd hsame.1 (by decide)) rfl
  · intro h
    have hkept := h (overwrittenClip.take 2) _ (overwrittenClip.drop 3) (List.prefix_refl _) _ _
      rfl (by decide)
    exact absurd hkept (by decide)

end UvcRtmpStream.Streaming
