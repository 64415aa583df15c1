import UvcRtmpStream.Streaming.ReplayClips

/-!
# Initialising the replay classes after a failure

`ensureReplayInitialized` is called when the service is created and again by every save, so that a
segment directory that could not be made is made later (`Recovers`). It gives up for good instead.
The manager that it stores in `ReplayHolder` is not null, whether or not it has a buffer, and only a
null manager is initialised again: the first call decides (`stage_run`), and every frame after a
failure is dropped.
-/

set_option autoImplicit false
set_option relaxedAutoImplicit false

namespace UvcRtmpStream.Streaming

open UvcRtmpStream.Foundations UvcRtmpStream.Platform UvcRtmpStream.Replay

/-- How far the replay classes are initialised: whether there is a manager, and whether it has a
buffer. -/
def ReplayHolder.stage (holder : ReplayHolder) : Option Bool :=
  holder.replayManager.map Option.isSome

/-- Whether the event calls `ensureReplayInitialized`, and whether the segment directory exists or
can be made then. -/
def ClipEvent.initialises : ClipEvent → Option Bool
  | .saveLastNSeconds call => some call.dirReady
  | .ensureReplayInitialized _ dirReady => some dirReady
  | .writeFrame _ _ _ _ => none

/-- A frame that fails leaves the manager and its buffer in place, in whatever state. -/
def KeepsReferences (store : ClipStore) : ClipEvent → Prop
  | .writeFrame now h264Buffer info fault =>
    (store.holder.writeFrame now h264Buffer info fault).2.stage = store.holder.stage
  | _ => True

instance (store : ClipStore) : (event : ClipEvent) → Decidable (KeepsReferences store event)
  | .saveLastNSeconds _ => inferInstanceAs (Decidable True)
  | .ensureReplayInitialized _ _ => inferInstanceAs (Decidable True)
  | .writeFrame _ _ _ _ => inferInstanceAs (Decidable (_ = _))

/-- What is passed to `ReplayHolder.writeFrame` is passed on to `ReplayBuffer.writeFrame`. -/
def ReachesBuffer (holder : ReplayHolder) (now : ℕ) (h264Buffer : ByteBuffer) (info : BufferInfo) :
    Prop :=
  ∃ buffer, holder.replayManager = some (some buffer) ∧ ∀ fault,
    (holder.writeFrame now h264Buffer info (.io fault)).1 =
        (Replay.writeFrame ⟨buffer, holder.dir⟩ now h264Buffer info fault).2.1 ∧
      (holder.writeFrame now h264Buffer info (.io fault)).2.dir =
        (Replay.writeFrame ⟨buffer, holder.dir⟩ now h264Buffer info fault).2.2.dir

/-- After a call of `ensureReplayInitialized` for which the directory is ready the manager has a
buffer, and every frame from then on reaches it. -/
def Recovers (clipsDir : String) (format : ℕ → String) (store : ClipStore)
    (events : List ClipEvent) : Prop :=
  ∀ before event rest, events = before ++ event :: rest → event.initialises = some true →
    (run (clipStep clipsDir format) store (before ++ [event])).holder.stage = some true ∧
    ∀ between now h264Buffer info fault later,
      rest = between ++ .writeFrame now h264Buffer info fault :: later →
        ReachesBuffer (run (clipStep clipsDir format) store (before ++ event :: between)).holder
          now h264Buffer info

/-- The first call of `ensureReplayInitialized` is one for which the directory is ready, or there is
no such call. -/
def FirstIsReady (events : List ClipEvent) : Prop :=
  events.findSome? ClipEvent.initialises = some true ∨
    ∀ event ∈ events, event.initialises ≠ some true

/-! ### The stage -/

section Stage

variable {clipsDir : String} {format : ℕ → String}

/-- `ensureReplayInitialized` changes the stage only where there is no manager. -/
theorem stage_ensureReplayInitialized (holder : ReplayHolder) (now : ℕ) (dirReady : Bool) :
    (ensureReplayInitialized holder now dirReady).stage = holder.stage.or (some dirReady) := by
  obtain ⟨manager, dir⟩ := holder
  cases manager with
  | some manager => rfl
  | none => cases dirReady <;> rfl

/-- A save keeps the stage that it finds. -/
theorem stage_saveLastNSeconds (store : ClipStore) (outPath : String) (call : SaveCall) :
    (ReplayManager.saveLastNSeconds store outPath call).2.holder.stage = store.holder.stage := by
  obtain ⟨⟨manager, dir⟩, clips⟩ := store
  rcases manager with - | - | buffer <;> rfl

/-- The step lemma: an event decides the stage if it initialises and nothing did before. -/
theorem stage_clipStep {store : ClipStore} {event : ClipEvent} (h : KeepsReferences store event) :
    (clipStep clipsDir format store event).holder.stage =
      store.holder.stage.or event.initialises := by
  cases event with
  | saveLastNSeconds call =>
    have hready := stage_ensureReplayInitialized store.holder call.now call.dirReady
    have hsaved := stage_saveLastNSeconds
      ⟨ensureReplayInitialized store.holder call.now call.dirReady, store.clips⟩
      (call.outFile clipsDir format) call
    refine Eq.trans ?_ (hsaved.trans hready)
    simp only [clipStep, StreamService.saveLastNSeconds]
    split <;> rfl
  | ensureReplayInitialized now dirReady => exact stage_ensureReplayInitialized _ now dirReady
  | writeFrame now h264Buffer info fault => exact h.trans Option.or_none.symm

/-- The run lemma: the first initialisation decides. -/
theorem stage_run {store : ClipStore} {events : List ClipEvent}
    (h : Meets (clipStep clipsDir format) KeepsReferences store events) :
    (run (clipStep clipsDir format) store events).holder.stage =
      store.holder.stage.or (events.findSome? ClipEvent.initialises) :=
  @latch_run _ _ (clipStep clipsDir format) KeepsReferences _ (fun store ↦ store.holder.stage)
    ClipEvent.initialises _ _ (fun _ _ ↦ stage_clipStep) h

/-- A manager with a buffer passes every frame on. -/
theorem reachesBuffer_iff {holder : ReplayHolder} {now : ℕ} {h264Buffer : ByteBuffer}
    {info : BufferInfo} :
    ReachesBuffer holder now h264Buffer info ↔ holder.stage = some true := by
  obtain ⟨manager, dir⟩ := holder
  rcases manager with - | - | buffer
  · exact iff_of_false (fun h ↦ by simp [ReachesBuffer] at h) (by simp [ReplayHolder.stage])
  · exact iff_of_false (fun h ↦ by simp [ReachesBuffer] at h) (by simp [ReplayHolder.stage])
  · exact iff_of_true ⟨buffer, rfl, fun _ ↦ ⟨rfl, rfl⟩⟩ rfl

end Stage

/-! ### Runs -/

/-- Along any initialisations, frames and saves of a new process, over any directory, the replay
classes recover exactly if the first initialisation is one for which the directory is ready, or none
is. -/
theorem replay_recovers_iff (clipsDir : String) (format : ℕ → String)
    (dir : Directory (List UInt8)) (clips : Clips) (events : List ClipEvent)
    (hkeeps : Meets (clipStep clipsDir format) KeepsReferences ⟨⟨none, dir⟩, clips⟩ events) :
    Recovers clipsDir format ⟨⟨none, dir⟩, clips⟩ events ↔ FirstIsReady events := by
  have hstage : ∀ {taken : List ClipEvent}, taken <+: events →
      (run (clipStep clipsDir format) ⟨⟨none, dir⟩, clips⟩ taken).holder.stage =
        taken.findSome? ClipEvent.initialises := by
    intro taken hpart
    rw [stage_run (hkeeps.of_prefix hpart)]
    exact Option.none_or
  constructor
  · intro hrecovers
    by_cases hready : ∃ event ∈ events, event.initialises = some true
    · obtain ⟨event, hmem, hinit⟩ := hready
      obtain ⟨before, rest, rfl⟩ := List.append_of_mem hmem
      obtain ⟨hbuffer, -⟩ := hrecovers before event rest rfl hinit
      rw [hstage (List.prefix_append_right_inj before |>.mpr (List.prefix_append [event] rest))]
        at hbuffer
      refine Or.inl ?_
      rw [show before ++ event :: rest = (before ++ [event]) ++ rest by simp,
        List.findSome?_append, hbuffer]
      rfl
    · exact Or.inr fun event hmem hinit ↦ hready ⟨event, hmem, hinit⟩
  · rintro hfirst before event rest rfl hinit
    have hdecided : (before ++ event :: rest).findSome? ClipEvent.initialises = some true :=
      hfirst.resolve_right fun hnone ↦ hnone event (by simp) hinit
    -- What follows the event decides nothing.
    have hlater : ∀ between, (before ++ event :: between).findSome? ClipEvent.initialises =
        some true := by
      intro between
      rw [List.findSome?_append, List.findSome?_cons, hinit] at hdecided ⊢
      exact hdecided
    refine ⟨?_, ?_⟩
    · rw [hstage (List.prefix_append_right_inj before |>.mpr (List.prefix_append [event] rest))]
      exact hlater []
    · rintro between now h264Buffer info fault later rfl
      rw [reachesBuffer_iff, hstage]
      · exact hlater between
      · exact List.prefix_append_right_inj before |>.mpr
          (List.cons_prefix_cons.mpr ⟨rfl, List.prefix_append between _⟩)

/-- A frame of one byte. -/
def oneFrame : ClipEvent :=
  .writeFrame 2000 (ByteBuffer.wrap [1]) ⟨0, 1, 0, 0⟩ (.io WriteFault.none)

theorem replay_recovers_iff_ready :
    Recovers "Clips" (fun _ ↦ "19700101_000000") ⟨⟨none, FileStore.empty⟩, fun _ ↦ none⟩
      [.ensureReplayInitialized 0 true, oneFrame] :=
  (replay_recovers_iff _ _ _ _ [.ensureReplayInitialized 0 true, oneFrame]
    ⟨trivial, rfl, trivial⟩).mpr (Or.inl rfl)

/-- The directory could not be made at first: the manager stays without a buffer. -/
theorem not_recovers_second_attempt :
    ¬ Recovers "Clips" (fun _ ↦ "19700101_000000") ⟨⟨none, FileStore.empty⟩, fun _ ↦ none⟩
      [.ensureReplayInitialized 0 false, .ensureReplayInitialized 1000 true, oneFrame] := by
  intro h
  obtain ⟨hbuffer, -⟩ := h [.ensureReplayInitialized 0 false] (.ensureReplayInitialized 1000 true)
    [oneFrame] rfl rfl
  exact absurd hbuffer (by decide)

end UvcRtmpStream.Streaming
