import UvcRtmpStream.Streaming.GlTrace
import UvcRtmpStream.Streaming.PreviewFlag

/-!
# The protocol on GL interfaces

A GL interface is meant to be used in order: `init` before the first `start`, and a codec surface
added only while it is started (`GlUse.legal`). An interface that is replaced is meant to be left
stopped and not to be used after that (`GlProtocol`).

The interface is initialized by the constructors and by `replaceView` while something is on, but not
by `replaceView` while nothing is, and a recording or a stream that joins the other one takes for
granted that the interface is still started. `KeepsProtocol` is the condition under which neither
goes wrong. It is enough whatever the calls of the libraries do, and among calls that return it is
exact.
-/

set_option autoImplicit false
set_option relaxedAutoImplicit false

namespace UvcRtmpStream.Streaming

open UvcRtmpStream.Foundations UvcRtmpStream.Platform UvcRtmpStream.Replay

/-- The interface has been initialized before it is started, and it is started when it is given a
codec surface. -/
def GlUse.legal (use : GlUse) : Bool :=
  match use.call with
  | .start => use.state.any GlInterface.initialized
  | .addMediaCodecSurface => use.state.any GlInterface.started
  | _ => true

/-- The calls made so far are on the interface that was installed at first, and then on the one that
is installed now. -/
def Traced.UsesInstalled (installed : ℕ) (t : Traced) : Prop :=
  ∃ old new, t.uses = old ++ new ∧ (∀ use ∈ old, use.glInterface = installed) ∧
    ∀ use ∈ new, use.glInterface = t.usb.base.glInterface

/-- The calls made so far are legal, and the interface that was installed at first is stopped if it
has been replaced. -/
structure Traced.Legal (installed : ℕ) (t : Traced) : Prop where
  uses : ∀ use ∈ t.uses, use.legal = true
  stopped : t.usb.base.glInterface ≠ installed →
    (t.usb.devices.interfaces[installed]?).any GlInterface.started = false

/-- The protocol, for one event. -/
def GlProtocol (u : Usb) (usbCall : UsbCall) : Prop :=
  (tracedStep u usbCall).UsesInstalled u.base.glInterface ∧
    (tracedStep u usbCall).Legal u.base.glInterface

/-- The current interface. -/
def Usb.currentGl (u : Usb) : Option GlInterface := u.devices.interfaces[u.base.glInterface]?

/-- The object streams, records, or shows a preview. -/
def Usb.active (u : Usb) : Bool := u.base.streaming || u.base.recording || u.base.onPreview

/-- The event keeps the protocol. -/
def KeepsProtocol (u : Usb) (usbCall : UsbCall) : Prop :=
  match usbCall.event with
  | .startPreview _ => u.base.streaming = false → u.base.onPreview = false → u.offScreen = false →
    u.currentGl.any GlInterface.initialized = true
  | .startStream _ _ =>
    if u.base.recording then u.currentGl.any GlInterface.started = true
    else u.currentGl.any GlInterface.initialized = true
  | .startRecord _ =>
    if u.base.streaming then
      u.base.videoEncoder.running = true → u.currentGl.any GlInterface.started = true
    else u.currentGl.any GlInterface.initialized = true
  | .replaceView openGlView _ => u.active = false → openGlView ≠ some u.base.glInterface →
    u.currentGl.any GlInterface.started = false
  | .prepareVideo _ _ | .prepareAudio | .stopPreview _ | .stopStream _ | .stopRecord _
  | .callback _ => True

/-! ### What is known on the way through a method -/

/-- The part of the state that says which interface is installed and how the interfaces are. -/
def Usb.gl (u : Usb) : ℕ × List GlInterface := (u.base.glInterface, u.devices.interfaces)

/-- The time since an interface was installed: the interface, the others, and the calls made before.
`final` is what the method turns out to need. -/
structure GlPhase where
  final : Prop
  glInterface : ℕ
  others : List GlInterface
  before : List GlUse

/-- The installed interface is in state `gl`. The calls made are legal if `final` holds, and only if
`checked` does. -/
structure GlPhase.At (phase : GlPhase) (checked : Prop) (gl : GlInterface) (t : Traced) :
    Prop where
  installed : t.usb.base.glInterface = phase.glInterface
  current : t.usb.devices.interfaces[phase.glInterface]? = some gl
  others : ∀ other, other ≠ phase.glInterface →
    t.usb.devices.interfaces[other]? = phase.others[other]?
  uses : ∃ new, t.uses = phase.before ++ new ∧ ∀ use ∈ new, use.glInterface = phase.glInterface
  legal : phase.final → ∀ use ∈ t.uses, use.legal = true
  checked : (∀ use ∈ t.uses, use.legal = true) → checked

/-- The same, with the interface in any state. -/
def GlPhase.Within (phase : GlPhase) (checked : Prop) (t : Traced) : Prop :=
  ∃ gl, phase.At checked gl t

section Phase

variable {α : Type} {phase : GlPhase} {checked : Prop} {gl : GlInterface}

theorem GlPhase.At.mono {checked' : Prop} {t : Traced} (h : phase.At checked gl t)
    (himp : checked → checked') : phase.At checked' gl t :=
  ⟨h.installed, h.current, h.others, h.uses, h.legal, fun hlegal ↦ himp (h.checked hlegal)⟩

theorem GlPhase.At.of_same {t t' : Traced} (h : phase.At checked gl t)
    (hgl : t'.usb.gl = t.usb.gl) (huses : t'.uses = t.uses) : phase.At checked gl t' := by
  obtain ⟨hinstalled, hinterfaces⟩ := Prod.mk.inj hgl
  refine ⟨hinstalled.trans h.installed, ?_, ?_, ?_, ?_, ?_⟩
  · rw [hinterfaces]
    exact h.current
  · rw [hinterfaces]
    exact h.others
  · rw [huses]
    exact h.uses
  · rw [huses]
    exact h.legal
  · rw [huses]
    exact h.checked

/-- A method of the object, from one state: it puts no call down. -/
theorem triple_untraced {method : UsbM α} {t : Traced} {last : α → Usb → Prop}
    {thrown : JavaException → Usb → Prop} (h : Triple (fun u ↦ u = t.usb) method last thrown) :
    Triple (fun t' ↦ t' = t) (untraced method)
      (fun value t' ↦ last value t'.usb ∧ t'.uses = t.uses)
      fun exception t' ↦ thrown exception t'.usb ∧ t'.uses = t.uses := by
  refine triple_zoom (fun _ _ hmissing ↦ absurd hmissing (Option.some_ne_none _))
    fun t' u ht' hu ↦ ?_
  obtain rfl := Option.some.inj hu
  subst ht'
  exact h.mono (fun _ h ↦ h) (fun _ _ h ↦ ⟨h, rfl⟩) fun _ _ h ↦ ⟨h, rfl⟩

/-- What makes no call on the interface and does not change the interfaces. -/
theorem at_untraced {method : UsbM α} (h : Leaves Usb.gl method) :
    Keeps (phase.At checked gl) (untraced method) := by
  intro t ht
  have hsame := triple_untraced ((h t.usb.gl).of_state rfl)
  exact hsame.mono (fun _ h ↦ h) (fun _ _ h ↦ ht.of_same h.1 h.2)
    (fun _ _ h ↦ ht.of_same h.1 h.2) t rfl

/-- A call that is put down: it is legal if it may be made in this state. -/
theorem at_noteGl (glCall : GlCall)
    (hfinal : phase.final → (GlUse.mk phase.glInterface glCall (some gl)).legal = true) :
    Total (phase.At checked gl) (noteGl glCall) fun _ ↦
      phase.At (checked ∧ (GlUse.mk phase.glInterface glCall (some gl)).legal = true) gl := by
  refine Triple.modify fun t h ↦ ?_
  have huse : (⟨t.usb.base.glInterface, glCall,
      t.usb.devices.interfaces[t.usb.base.glInterface]?⟩ : GlUse) =
        ⟨phase.glInterface, glCall, some gl⟩ := by
    rw [h.installed, h.current]
  rw [huse]
  obtain ⟨new, hnew, hmade⟩ := h.uses
  refine ⟨h.installed, h.current, h.others, ⟨new ++ [⟨phase.glInterface, glCall, some gl⟩], ?_, ?_⟩,
    fun hneeded ↦ ?_, fun hlegal ↦ ?_⟩
  · rw [hnew, List.append_assoc]
  · simpa [or_imp, forall_and] using hmade
  · simpa [or_imp, forall_and] using ⟨h.legal hneeded, hfinal hneeded⟩
  · rw [List.forall_mem_append, List.forall_mem_singleton] at hlegal
    exact ⟨h.checked hlegal.1, hlegal.2⟩

/-- The effect of a call on the interface. -/
theorem at_onGl (effect : GlInterface → GlInterface) :
    Triple (phase.At checked gl) (untraced (onGl effect)) (fun _ ↦ phase.At checked (effect gl))
      fun _ ↦ phase.At checked gl := by
  refine triple_zoom (fun t _ hmissing ↦ absurd hmissing (Option.some_ne_none _))
    fun t u h hu ↦ ?_
  obtain rfl := Option.some.inj hu
  have hanswer : Leaves Usb.gl nextAnswer := leaves_nextAnswer fun _ _ ↦ rfl
  refine Triple.bind ((hanswer t.usb.gl).mono (fun _ h ↦ congrArg Usb.gl h) (fun _ _ h ↦ h)
    fun _ u' hsame ↦ h.of_same hsame rfl) fun _ ↦ Triple.modify fun u' hsame ↦ ?_
  obtain ⟨hinstalled, hinterfaces⟩ := Prod.mk.inj hsame
  refine ⟨hinstalled.trans h.installed, ?_, fun other hother ↦ ?_, h.uses, h.legal, h.checked⟩
  · simp only [hinstalled, hinterfaces, h.installed, List.getElem?_modify_eq, h.current,
      Option.map_eq_map, Option.map_some]
  · simp only [hinstalled, hinterfaces, h.installed]
    rw [List.getElem?_modify_ne _ _ hother.symm]
    exact h.others other hother

/-- A call on the interface that may be made in its state. -/
theorem at_useGl (glCall : GlCall)
    (hfinal : phase.final → (GlUse.mk phase.glInterface glCall (some gl)).legal = true) :
    Triple (phase.At checked gl) (useGl glCall)
      (fun _ ↦ phase.At
        (checked ∧ (GlUse.mk phase.glInterface glCall (some gl)).legal = true) (glCall.effect gl))
      fun _ ↦ phase.Within True :=
  Triple.bind (at_noteGl glCall hfinal).triple fun _ ↦ (at_onGl glCall.effect).mono
    (fun _ h ↦ h) (fun _ _ h ↦ h) fun _ _ h ↦ ⟨gl, h.mono fun _ ↦ trivial⟩

/-- The call may be made in any state of the interface. -/
def GlCall.Free (glCall : GlCall) : Prop :=
  ∀ glInterface state, (GlUse.mk glInterface glCall state).legal = true

theorem at_useFree {glCall : GlCall} (hfree : glCall.Free) :
    Triple (phase.At checked gl) (useGl glCall) (fun _ ↦ phase.At checked (glCall.effect gl))
      fun _ ↦ phase.Within True :=
  (at_useGl glCall fun _ ↦ hfree _ _).mono (fun _ h ↦ h) (fun _ _ h ↦ h.mono And.left)
    fun _ _ h ↦ h

theorem at_silent {method : UsbM α} (h : Leaves Usb.gl method) :
    Triple (phase.At checked gl) (untraced method) (fun _ ↦ phase.At checked gl)
      fun _ ↦ phase.Within True :=
  (at_untraced h).mono (fun _ h ↦ h) (fun _ _ h ↦ h) fun _ _ h ↦ ⟨gl, h.mono fun _ ↦ trivial⟩

theorem gl_call {effect : Usb → Usb} (heffect : ∀ u, (effect u).gl = u.gl) :
    Leaves Usb.gl (call effect) :=
  leaves_call (fun _ _ ↦ rfl) heffect

theorem gl_onCamera (uvcCamera : Option ℕ) (effect : UVCCamera → UVCCamera) :
    Leaves Usb.gl (onCamera uvcCamera effect) :=
  leaves_onCamera (fun _ _ ↦ rfl) fun _ _ ↦ rfl

theorem at_onCamera (uvcCamera : Option ℕ) (effect : UVCCamera → UVCCamera) :
    Triple (phase.At checked gl) (untraced (onCamera uvcCamera effect))
      (fun _ ↦ phase.At checked gl) fun _ ↦ phase.Within True :=
  at_silent (gl_onCamera uvcCamera effect)

theorem at_setPreviewTexture (uvcCamera : Option ℕ) :
    Triple (phase.At checked gl) (Traced.setPreviewTexture uvcCamera)
      (fun _ ↦ phase.At checked gl) fun _ ↦ phase.Within True :=
  Triple.bind (at_noteGl .getSurfaceTexture fun _ ↦ rfl).triple fun _ ↦
    (at_onCamera uvcCamera id).mono (fun _ h ↦ h.mono And.left) (fun _ _ h ↦ h) fun _ _ h ↦ h

/-- A triple for every state of the interface. -/
theorem within_of_at {method : TracedM α} {checked' : Prop}
    (h : ∀ gl, Triple (phase.At checked gl) method (fun _ ↦ phase.Within checked')
      fun _ ↦ phase.Within True) :
    Triple (phase.Within checked) method (fun _ ↦ phase.Within checked')
      fun _ ↦ phase.Within True :=
  fun t ht ↦ ht.elim fun gl hgl ↦ h gl t hgl

theorem within_useFree {glCall : GlCall} (hfree : glCall.Free) :
    Triple (phase.Within checked) (useGl glCall) (fun _ ↦ phase.Within checked)
      fun _ ↦ phase.Within True :=
  within_of_at fun _ ↦ (at_useFree hfree).mono (fun _ h ↦ h) (fun _ _ h ↦ ⟨_, h⟩) fun _ _ h ↦ h

theorem within_silent {method : UsbM α} (h : Leaves Usb.gl method) :
    Triple (phase.Within checked) (untraced method) (fun _ ↦ phase.Within checked)
      fun _ ↦ phase.Within True :=
  within_of_at fun _ ↦ (at_silent h).mono (fun _ h ↦ h) (fun _ _ h ↦ ⟨_, h⟩) fun _ _ h ↦ h

/-! ### The methods -/

/-- A method that first reads the object. -/
theorem triple_readUsb {pre : Traced → Prop} {next : Usb → TracedM α} {last : α → Traced → Prop}
    {thrown : JavaException → Traced → Prop}
    (h : ∀ t, pre t → Triple (fun t' ↦ t' = t) (next t.usb) last thrown) :
    Triple pre (untraced get >>= next) last thrown :=
  fun t ht ↦ h t ht t rfl

/-- A method that first sets a field of the object. -/
theorem triple_setUsb {t : Traced} {effect : Usb → Usb} {next : PUnit → TracedM α}
    {last : α → Traced → Prop} {thrown : JavaException → Traced → Prop}
    (h : Triple (fun t' ↦ t' = ⟨effect t.usb, t.uses⟩) (next ⟨⟩) last thrown) :
    Triple (fun t' ↦ t' = t) (untraced (modify effect) >>= next) last thrown := by
  rintro _ rfl
  exact h _ rfl

theorem within_startPreview {t : Traced} (h : phase.At True gl t) (uvcCamera : Option ℕ)
    (hfinal : phase.final ↔ (t.usb.base.streaming = false → t.usb.base.onPreview = false →
      t.usb.offScreen = false → gl.initialized = true)) :
    Triple (fun t' ↦ t' = t) (Traced.startPreview uvcCamera)
      (fun _ ↦ phase.Within phase.final) fun _ ↦ phase.Within True := by
  refine triple_readUsb fun _ ht ↦ ?_
  rw [ht]
  refine Triple.whenever (fun htaken ↦ ?_) fun hrefused t' ht' ↦ ?_
  · simp only [Bool.and_eq_true, Bool.not_eq_true', and_assoc] at htaken
    obtain ⟨hstreaming, honPreview, hview⟩ := htaken
    have hneeded : phase.final ↔ gl.initialized = true := by
      rw [hfinal]
      exact ⟨fun h ↦ h hstreaming honPreview hview, fun h _ _ _ ↦ h⟩
    rw [hneeded]
    refine Triple.of_state ?_ h
    refine Triple.bind (at_useFree fun _ _ ↦ rfl) fun _ ↦
      Triple.bind (at_useFree fun _ _ ↦ rfl) fun _ ↦
      Triple.bind (at_useGl .start hneeded.mp) fun _ ↦ ?_
    refine Triple.bind (at_setPreviewTexture uvcCamera) fun _ ↦
      Triple.bind (at_onCamera uvcCamera UVCCamera.startPreview) fun _ ↦ ?_
    exact Triple.mono (within_silent (.modify fun _ ↦ rfl)) (fun _ h ↦ ⟨_, h.mono And.right⟩)
      (fun _ _ h ↦ h) fun _ _ h ↦ h
  · subst ht'
    refine ⟨gl, h.mono fun _ ↦ hfinal.mpr fun hstreaming honPreview hview ↦ ?_⟩
    simp [hstreaming, honPreview, hview] at hrefused

theorem at_startEncoders (hfinal : phase.final → gl.initialized = true) (uvcCamera : Option ℕ) :
    Triple (phase.At True gl) (Traced.startEncoders uvcCamera)
      (fun _ ↦ phase.Within (gl.initialized = true)) fun _ ↦ phase.Within True := by
  refine Triple.bind (at_silent (gl_call fun _ ↦ rfl)) fun _ ↦
    Triple.bind (at_silent (gl_call fun _ ↦ rfl)) fun _ ↦
    Triple.bind (at_silent (gl_call fun _ ↦ rfl)) fun _ ↦
    Triple.bind (at_onCamera uvcCamera UVCCamera.stopPreview) fun _ ↦ ?_
  refine Triple.bind (at_useFree fun _ _ ↦ rfl) fun _ ↦
    Triple.bind (at_useFree fun _ _ ↦ rfl) fun _ ↦
    Triple.bind (at_useFree fun _ _ ↦ rfl) fun _ ↦
    Triple.bind (at_useGl .start hfinal) fun _ ↦ ?_
  refine Triple.bind (at_setPreviewTexture uvcCamera) fun _ ↦
    Triple.bind (at_onCamera uvcCamera UVCCamera.startPreview) fun _ ↦
    Triple.bind (at_silent (leaves_ask (fun _ _ ↦ rfl) fun _ ↦ rfl)) fun hasInputSurface ↦ ?_
  refine Triple.bind (Triple.whenever (fun _ ↦ ?_) fun _ _ h ↦ ⟨_, h.mono And.right⟩) fun _ ↦
    within_silent (.modify fun _ ↦ rfl)
  exact (at_useGl .addMediaCodecSurface fun _ ↦ rfl).mono (fun _ h ↦ h)
    (fun _ _ h ↦ ⟨_, h.mono fun hboth ↦ hboth.1.2⟩) fun _ _ h ↦ h

theorem at_resetVideoEncoder (hfinal : phase.final → gl.started = true) :
    Triple (phase.At True gl) Traced.resetVideoEncoder
      (fun _ ↦ phase.Within (gl.started = true)) fun _ ↦ phase.Within True := by
  refine Triple.bind (at_useFree fun _ _ ↦ rfl) fun _ ↦
    Triple.bind (at_silent (gl_call fun _ ↦ rfl)) fun _ ↦ ?_
  refine (at_useGl .addMediaCodecSurface ?_).mono (fun _ h ↦ h)
    (fun _ _ h ↦ ⟨_, h.mono And.right⟩) fun _ _ h ↦ h
  exact hfinal

theorem within_startStream {t : Traced} (h : phase.At True gl t) (uvcCamera : Option ℕ)
    (url : String) (hfinal : phase.final ↔
      if t.usb.base.recording then gl.started = true else gl.initialized = true) :
    Triple (fun t' ↦ t' = t) (Traced.startStream uvcCamera url)
      (fun _ ↦ phase.Within phase.final) fun _ ↦ phase.Within True := by
  refine triple_setUsb (triple_readUsb fun t' ht' ↦ ?_)
  have hat : phase.At True gl t' := h.of_same (by rw [ht']; rfl) (by rw [ht'])
  have hrecording : t'.usb.base.recording = t.usb.base.recording := by rw [ht']
  have hencoders : Triple (fun s ↦ s = t') (if !t'.usb.base.recording then
      Traced.startEncoders uvcCamera else Traced.resetVideoEncoder)
      (fun _ ↦ phase.Within phase.final) fun _ ↦ phase.Within True := by
    rw [hrecording]
    cases hset : t.usb.base.recording with
    | false =>
      rw [hset, if_neg Bool.false_ne_true] at hfinal
      rw [hfinal]
      exact (at_startEncoders hfinal.mp uvcCamera).of_state hat
    | true =>
      rw [hset, if_pos rfl] at hfinal
      rw [hfinal]
      exact (at_resetVideoEncoder hfinal.mp).of_state hat
  refine Triple.bind hencoders fun _ ↦ Triple.bind (within_silent ?_) fun _ ↦
    within_silent (.modify fun _ ↦ rfl)
  exact .bind .get fun _ ↦ .bind (gl_call fun _ ↦ rfl) fun _ ↦ gl_call fun _ ↦ rfl

/-- An interface that has just been put in place. -/
theorem at_install (streams : Bool) (uvcCamera : Option ℕ) :
    Triple (phase.At True gl)
      (do
        useGl .init
        useGl .setEncoderSize
        useGl .setRotation
        useGl .start
        whenever streams (useGl .addMediaCodecSurface)
        Traced.setPreviewTexture uvcCamera
        untraced (onCamera uvcCamera UVCCamera.startPreview))
      (fun _ ↦ phase.Within True) fun _ ↦ phase.Within True := by
  refine Triple.bind (at_useFree fun _ _ ↦ rfl) fun _ ↦
    Triple.bind (at_useFree fun _ _ ↦ rfl) fun _ ↦
    Triple.bind (at_useFree fun _ _ ↦ rfl) fun _ ↦
    Triple.bind (at_useGl .start fun _ ↦ rfl) fun _ ↦ ?_
  have hstarted : ∀ {checked : Prop} {gl : GlInterface}, gl.started = true →
      Triple (phase.At checked gl) (whenever streams (useGl .addMediaCodecSurface))
        (fun _ ↦ phase.Within True) fun _ ↦ phase.Within True := fun hstarted ↦
    Triple.whenever (fun _ ↦ (at_useGl .addMediaCodecSurface fun _ ↦ hstarted).mono
      (fun _ h ↦ h) (fun _ _ h ↦ ⟨_, h.mono fun _ ↦ trivial⟩) fun _ _ h ↦ h)
      fun _ _ h ↦ ⟨_, h.mono fun _ ↦ trivial⟩
  refine Triple.bind (hstarted rfl) fun _ ↦ Triple.bind (within_of_at fun _ ↦
    (at_setPreviewTexture uvcCamera).mono (fun _ h ↦ h) (fun _ _ h ↦ ⟨_, h⟩) fun _ _ h ↦ h) fun _ ↦
    within_silent (gl_onCamera uvcCamera _)

theorem within_startRecord {t : Traced} (h : phase.At True gl t) (uvcCamera : Option ℕ)
    (hfinal : phase.final ↔ if t.usb.base.streaming then
      t.usb.base.videoEncoder.running = true → gl.started = true else gl.initialized = true) :
    Triple (fun t' ↦ t' = t) (Traced.startRecord uvcCamera)
      (fun _ ↦ phase.Within phase.final) fun _ ↦ phase.Within True := by
  have hcreate : Leaves (fun u : Usb ↦ (u.gl, u.base.streaming, u.base.videoEncoder.running))
      createMuxer := leaves_call (fun _ _ ↦ rfl) fun _ ↦ rfl
  have hcreated : Triple (fun t' ↦ t' = t) (untraced createMuxer)
      (fun _ t' ↦ phase.At True gl t' ∧ t'.usb.base.streaming = t.usb.base.streaming ∧
        t'.usb.base.videoEncoder.running = t.usb.base.videoEncoder.running)
      fun _ ↦ phase.Within True := by
    refine (triple_untraced ((hcreate (t.usb.gl, t.usb.base.streaming,
      t.usb.base.videoEncoder.running)).of_state rfl)).mono (fun _ h ↦ h) (fun _ t' h' ↦ ?_)
      fun _ t' h' ↦ ?_
    · obtain ⟨hgl, hrest⟩ := Prod.mk.inj h'.1
      obtain ⟨hstreaming, hrunning⟩ := Prod.mk.inj hrest
      exact ⟨h.of_same hgl h'.2, hstreaming, hrunning⟩
    · exact ⟨gl, h.of_same (Prod.mk.inj h'.1).1 h'.2⟩
  refine Triple.bind hcreated fun _ s hs ↦ ?_
  refine (triple_setUsb (triple_readUsb fun t' ht' ↦ ?_)) s rfl
  obtain ⟨hat, hstreaming, hrunning⟩ := hs
  have hat' : phase.At True gl t' := hat.of_same (by rw [ht']; rfl) (by rw [ht'])
  have hstreaming' : t'.usb.base.streaming = t.usb.base.streaming := by rw [ht', ← hstreaming]
  have hrunning' : t'.usb.base.videoEncoder.running = t.usb.base.videoEncoder.running := by
    rw [ht', ← hrunning]
  rw [hstreaming', hrunning']
  cases hset : t.usb.base.streaming with
  | false =>
    rw [hset, if_neg Bool.false_ne_true] at hfinal
    rw [hfinal]
    exact (at_startEncoders hfinal.mp uvcCamera).of_state hat'
  | true =>
    rw [hset, if_pos rfl] at hfinal
    refine Triple.whenever (fun hon ↦ ?_) fun hoff s hs ↦ ?_
    · have hneeded : phase.final ↔ gl.started = true := by
        rw [hfinal, hon]
        exact ⟨fun h ↦ h rfl, fun h _ ↦ h⟩
      rw [hneeded]
      exact (at_resetVideoEncoder hneeded.mp).of_state hat'
    · subst hs
      refine ⟨gl, hat'.mono fun _ ↦ hfinal.mpr fun hon ↦ ?_⟩
      exact absurd (hoff.symm.trans hon) Bool.false_ne_true

/-! ### The methods that only stop the interface -/

theorem within_whenever {condition : Bool} {method : TracedM Unit}
    (h : Keeps (phase.Within True) method) :
    Keeps (phase.Within True) (whenever condition method) :=
  Triple.whenever (fun _ ↦ h) fun _ _ h ↦ h

theorem within_stopPreview (uvcCamera : Option ℕ) :
    Keeps (phase.Within True) (Traced.stopPreview uvcCamera) := by
  refine Triple.bind (within_silent .get) fun u ↦ within_whenever ?_
  exact Triple.bind (within_useFree fun _ _ ↦ rfl) fun _ ↦
    Triple.bind (within_silent (gl_onCamera uvcCamera _)) fun _ ↦
    within_silent (.modify fun _ ↦ rfl)

theorem within_prepareVideo (parameters : VideoParameters) (uvcCamera : Option ℕ) :
    Keeps (phase.Within True) (Traced.prepareVideo parameters uvcCamera) := by
  refine Triple.bind (within_silent .get) fun u ↦
    Triple.bind (within_whenever ?_) fun _ ↦ within_silent (leaves_ask (fun _ _ ↦ rfl) fun _ ↦ rfl)
  exact Triple.bind (within_stopPreview uvcCamera) fun _ ↦ within_silent (.modify fun _ ↦ rfl)

theorem within_stopStream (uvcCamera : Option ℕ) :
    Keeps (phase.Within True) (Traced.stopStream uvcCamera) := by
  refine Triple.bind (within_silent .get) fun u ↦
    Triple.bind (within_whenever ?_) fun _ ↦ within_whenever ?_
  · exact Triple.bind (within_silent (.modify fun _ ↦ rfl)) fun _ ↦
      within_silent (gl_call fun _ ↦ rfl)
  · refine Triple.bind (within_silent (gl_call fun _ ↦ rfl)) fun _ ↦
      Triple.bind (within_useFree fun _ _ ↦ rfl) fun _ ↦
      Triple.bind (within_whenever ?_) fun _ ↦ ?_
    · exact Triple.bind (within_useFree fun _ _ ↦ rfl) fun _ ↦
        within_silent (gl_onCamera uvcCamera _)
    · exact Triple.bind (within_silent (gl_call fun _ ↦ rfl)) fun _ ↦
        Triple.bind (within_silent (gl_call fun _ ↦ rfl)) fun _ ↦
        within_silent (.modify fun _ ↦ rfl)

/-- What leaves the setting alone leaves the interfaces alone. -/
theorem gl_of_setting {method : UsbM Unit} (h : Leaves Usb.setting method) : Leaves Usb.gl method :=
  h.comp Usb.gl fun _ ↦ rfl

theorem within_stopRecord (uvcCamera : Option ℕ) :
    Keeps (phase.Within True) (Traced.stopRecord uvcCamera) := by
  refine Triple.bind (within_silent (.modify fun _ ↦ rfl)) fun _ ↦
    Triple.bind (within_silent .get) fun u ↦
    Triple.bind (within_silent (gl_of_setting (setting_dropMuxer _ _))) fun _ ↦
    Triple.bind (within_silent (.modify fun _ ↦ rfl)) fun _ ↦ ?_
  exact within_whenever (within_stopStream uvcCamera)

end Phase

/-! ### What a method leaves -/

/-- A state that a method leaves: the installed interface exists, and the calls are as they should
be if what the method needs is given. -/
structure Traced.Settled (installed : ℕ) (needed : Prop) (t : Traced) : Prop where
  current : t.usb.base.glInterface < t.usb.devices.interfaces.length
  uses : t.UsesInstalled installed
  legal : needed → t.Legal installed

theorem Traced.Settled.mono {installed : ℕ} {needed needed' : Prop} {t : Traced}
    (h : t.Settled installed needed) (himp : needed' → needed) : t.Settled installed needed' :=
  ⟨h.current, h.uses, fun hneeded ↦ h.legal (himp hneeded)⟩

/-- The method leaves such a state, and where it returns the calls are as they should be only if
what it needs is given. -/
def Settles (start : Traced) (needed : Prop) (method : TracedM Unit) : Prop :=
  Triple (fun t ↦ t = start) method
    (fun _ t ↦ t.Settled start.usb.base.glInterface needed ∧
      (t.Legal start.usb.base.glInterface → needed))
    fun _ t ↦ t.Settled start.usb.base.glInterface needed

/-- The time since the start of a method. -/
def Traced.phase (start : Traced) (final : Prop) : GlPhase :=
  ⟨final, start.usb.base.glInterface, start.usb.devices.interfaces, []⟩

section Settle

variable {start : Traced} {needed : Prop} {gl : GlInterface}

theorem Traced.at_start (huses : start.uses = []) (hcurrent : start.usb.currentGl = some gl) :
    (start.phase needed).At True gl start := by
  have hnone : ∀ use ∈ start.uses, use.legal = true := by simp [huses]
  exact ⟨rfl, hcurrent, fun _ _ ↦ rfl, ⟨[], huses, by simp⟩, fun _ ↦ hnone, fun _ ↦ trivial⟩

/-- A method that replaces no interface. -/
theorem settled_of_within {checked : Prop} {t : Traced}
    (h : (start.phase needed).Within checked t) :
    t.Settled start.usb.base.glInterface needed ∧
      (t.Legal start.usb.base.glInterface → checked) := by
  obtain ⟨gl, hgl⟩ := h
  have hinstalled : t.usb.base.glInterface = start.usb.base.glInterface := hgl.installed
  obtain ⟨new, hnew, hmade⟩ := hgl.uses
  refine ⟨⟨?_, ⟨t.uses, [], (List.append_nil _).symm, ?_, by simp⟩, fun hneeded ↦ ?_⟩,
    fun hlegal ↦ hgl.checked hlegal.uses⟩
  · rw [hinstalled]
    exact (List.getElem?_eq_some_iff.mp hgl.current).1
  · rw [show t.uses = new from hnew]
    exact hmade
  · exact ⟨hgl.legal hneeded, fun hreplaced ↦ absurd hinstalled hreplaced⟩

theorem settles_of_within {method : TracedM Unit}
    (h : Triple (fun t ↦ t = start) method (fun _ ↦ (start.phase needed).Within needed)
      fun _ ↦ (start.phase needed).Within True) : Settles start needed method :=
  h.mono (fun _ h ↦ h) (fun _ _ h ↦ settled_of_within h) fun _ _ h ↦ (settled_of_within h).1

/-- A method that only stops the interface. -/
theorem settles_of_keeps {method : TracedM Unit} (huses : start.uses = [])
    (hcurrent : start.usb.currentGl = some gl)
    (h : Keeps ((start.phase True).Within True) method) : Settles start True method :=
  settles_of_within (h.of_state ⟨gl, Traced.at_start huses hcurrent⟩)

/-- An interface that has been put in place of one that was left stopped. -/
theorem settled_of_replaced {moved t : Traced} {next : ℕ}
    (h : (start.phase True).At True gl moved) (hstopped : gl.started = false)
    (ht : (GlPhase.mk True next moved.usb.devices.interfaces moved.uses).Within True t) :
    t.Settled start.usb.base.glInterface needed := by
  obtain ⟨gl', hgl'⟩ := ht
  obtain ⟨new, hnew, hmade⟩ := hgl'.uses
  obtain ⟨old, hold, hbefore⟩ := h.uses
  have hinstalled : t.usb.base.glInterface = next := hgl'.installed
  refine ⟨?_, ⟨moved.uses, new, hnew, ?_, ?_⟩, fun _ ↦ ⟨hgl'.legal trivial, fun hreplaced ↦ ?_⟩⟩
  · rw [hinstalled]
    exact (List.getElem?_eq_some_iff.mp hgl'.current).1
  · rw [show moved.uses = old from hold]
    exact hbefore
  · rw [hinstalled]
    exact hmade
  · rw [hinstalled] at hreplaced
    have hold : t.usb.devices.interfaces[start.usb.base.glInterface]? = some gl :=
      (hgl'.others _ hreplaced.symm).trans h.current
    rw [hold]
    exact hstopped

/-- The next interface is put in place, with the old one stopped where something is on. -/
theorem settles_replaceGlInterface (huses : start.uses = [])
    (hcurrent : start.usb.currentGl = some gl) {next : ℕ}
    (hnext : next < start.usb.devices.interfaces.length) (uvcCamera : Option ℕ) :
    Settles start (start.usb.active = false → next ≠ start.usb.base.glInterface →
      gl.started = false) (Traced.replaceGlInterface next uvcCamera) := by
  have hstart : (start.phase True).At True gl start := Traced.at_start huses hcurrent
  have hthrown : ∀ {t : Traced} {needed : Prop}, (start.phase True).Within True t →
      t.Settled start.usb.base.glInterface needed := fun h ↦
    (settled_of_within h).1.mono fun _ ↦ trivial
  refine triple_readUsb fun t ht ↦ ?_
  rw [ht]
  refine Triple.ite (fun hactive ↦ ?_) fun hidle ↦ ?_
  · refine Triple.of_state ?_ hstart
    refine Triple.bind ((at_onCamera uvcCamera UVCCamera.stopPreview).mono (fun _ h ↦ h)
      (fun _ _ h ↦ h) fun _ _ ↦ hthrown) fun _ ↦ ?_
    refine Triple.bind ((at_useFree fun _ _ ↦ rfl).mono (fun _ h ↦ h)
      (fun _ _ h ↦ h) fun _ _ ↦ hthrown) fun _ ↦ ?_
    refine Triple.bind ((at_useFree fun _ _ ↦ rfl).mono (fun _ h ↦ h)
      (fun _ _ h ↦ h) fun _ _ ↦ hthrown) fun _ moved hmoved ↦ ?_
    -- From here on the next interface is used, and the other one is stopped.
    obtain ⟨state, hstate⟩ : ∃ state, moved.usb.devices.interfaces[next]? = some state := by
      by_cases hsame : next = start.usb.base.glInterface
      · rw [hsame]
        exact ⟨_, hmoved.current⟩
      · exact ⟨_, (hmoved.others next hsame).trans (List.getElem?_eq_getElem hnext)⟩
    have hat : (GlPhase.mk True next moved.usb.devices.interfaces moved.uses).At True state
        ⟨{ moved.usb with base.glInterface := next }, moved.uses⟩ :=
      ⟨rfl, hstate, fun _ _ ↦ rfl, ⟨[], (List.append_nil _).symm, by simp⟩, hmoved.legal,
        fun _ ↦ trivial⟩
    refine triple_setUsb (Triple.of_state ?_ hat) moved rfl
    refine (at_install (start.usb.base.streaming || start.usb.base.recording) uvcCamera).mono
      (fun _ h ↦ h) (fun _ _ h ↦ ?_) fun _ _ h ↦ settled_of_replaced hmoved rfl h
    refine ⟨settled_of_replaced hmoved rfl h, fun _ hidle ↦ ?_⟩
    exact absurd (hidle.symm.trans hactive) Bool.false_ne_true
  · intro t ht
    obtain rfl := ht.symm
    have hold : start.usb.devices.interfaces[start.usb.base.glInterface]? = some gl := hcurrent
    refine ⟨⟨hnext, ⟨[], [], huses, by simp, by simp⟩, fun hstopped ↦
      ⟨hstart.legal trivial, fun hreplaced ↦ ?_⟩⟩, fun hlegal _ hreplaced ↦ ?_⟩
    · have hkept := hstopped (Bool.eq_false_iff.mpr hidle) hreplaced
      exact (congrArg (Option.any GlInterface.started) hold).trans hkept
    · have hleft := hlegal.stopped hreplaced
      exact (congrArg (Option.any GlInterface.started) hold).symm.trans hleft

/-- The interface that is made where no view is passed: none of its calls is put down yet. -/
theorem triple_makeOffScreen (huses : start.uses = []) (hcurrent : start.usb.currentGl = some gl) :
    Triple (fun t ↦ t = start) (untraced (call fun u ↦ { u with
      devices.interfaces := u.devices.interfaces ++ [⟨true, false, false, false⟩] }))
      (fun _ t ↦ t.usb.base = start.usb.base ∧ t.usb.devices.interfaces =
        start.usb.devices.interfaces ++ [⟨true, false, false, false⟩] ∧ t.uses = [])
      fun _ ↦ (start.phase True).Within True := by
  have hanswer : Leaves (fun u : Usb ↦ (u.base, u.devices.interfaces)) nextAnswer :=
    leaves_nextAnswer fun _ _ ↦ rfl
  have hcall : Triple (fun u ↦ u = start.usb) (call fun u ↦ { u with
      devices.interfaces := u.devices.interfaces ++ [⟨true, false, false, false⟩] })
      (fun _ u ↦ u.base = start.usb.base ∧ u.devices.interfaces =
        start.usb.devices.interfaces ++ [⟨true, false, false, false⟩])
      fun _ u ↦ u.gl = start.usb.gl := by
    refine Triple.bind (((hanswer (start.usb.base, start.usb.devices.interfaces)).of_state
      rfl).mono (fun _ h ↦ h) (fun _ _ h ↦ h) fun _ u h ↦ ?_) fun _ ↦ Triple.modify fun u h ↦ ?_
    · obtain ⟨hbase, hinterfaces⟩ := Prod.mk.inj h
      exact Prod.ext (congrArg USBBase.glInterface hbase) hinterfaces
    · obtain ⟨hbase, hinterfaces⟩ := Prod.mk.inj h
      exact ⟨hbase, congrArg (· ++ [⟨true, false, false, false⟩]) hinterfaces⟩
  exact (triple_untraced hcall).mono (fun _ h ↦ h) (fun _ _ h ↦ ⟨h.1.1, h.1.2, h.2.trans huses⟩)
    fun _ _ h ↦ ⟨gl, (Traced.at_start huses hcurrent).of_same h.1 h.2⟩

theorem settles_replaceView (huses : start.uses = []) (hcurrent : start.usb.currentGl = some gl)
    (openGlView uvcCamera : Option ℕ)
    (hview : ∀ view ∈ openGlView, view < start.usb.devices.interfaces.length) :
    Settles start (start.usb.active = false → openGlView ≠ some start.usb.base.glInterface →
      gl.started = false) (Traced.replaceView openGlView uvcCamera) := by
  cases openGlView with
  | some view =>
    simp only [ne_eq, Option.some.injEq]
    exact settles_replaceGlInterface huses hcurrent (hview view rfl) uvcCamera
  | none =>
    have hlt : start.usb.base.glInterface < start.usb.devices.interfaces.length :=
      (List.getElem?_eq_some_iff.mp hcurrent).1
    refine triple_readUsb fun t ht ↦ ?_
    rw [ht]
    refine Triple.bind ((triple_makeOffScreen huses hcurrent).mono (fun _ h ↦ h) (fun _ _ h ↦ h)
      fun _ _ h ↦ (settled_of_within h).1.mono fun _ ↦ trivial) fun _ made hafter ↦ ?_
    obtain ⟨hbase, hinterfaces, hnone⟩ := hafter
    have hcurrent' : made.usb.currentGl = some gl := by
      rw [Usb.currentGl, hbase, hinterfaces]
      exact (List.getElem?_append_left hlt).trans hcurrent
    have hnext : start.usb.devices.interfaces.length < made.usb.devices.interfaces.length := by
      rw [hinterfaces, List.length_append]
      exact Nat.lt_succ_self _
    have hreplace := settles_replaceGlInterface hnone hcurrent' hnext uvcCamera
    have hactive : made.usb.active = start.usb.active := by
      simp only [Usb.active, hbase]
    have hne : (start.usb.devices.interfaces.length ≠ start.usb.base.glInterface) ↔
        none ≠ some start.usb.base.glInterface :=
      iff_of_true (Nat.ne_of_gt hlt) (Option.some_ne_none _).symm
    unfold Settles at hreplace
    rw [hbase, hactive, hne] at hreplace
    exact hreplace made rfl

/-- The step lemma: every event settles as `KeepsProtocol` says. -/
theorem settles_event {u : Usb} (hcurrent : u.currentGl = some gl) (usbCall : UsbCall)
    (hview : ∀ view ∈ usbCall.event.openGlView, view < u.devices.interfaces.length) :
    Settles ⟨{ u with devices.outcomes := usbCall.outcomes }, []⟩ (KeepsProtocol u usbCall)
      usbCall.event.traced := by
  obtain ⟨event, outcomes⟩ := usbCall
  have hstart : ∀ {needed : Prop}, (Traced.phase ⟨{ u with devices.outcomes := outcomes }, []⟩
      needed).At True gl ⟨{ u with devices.outcomes := outcomes }, []⟩ :=
    Traced.at_start rfl hcurrent
  have hkeeps : ∀ {method : TracedM Unit},
      (∀ phase : GlPhase, Keeps (phase.Within True) method) →
      Settles ⟨{ u with devices.outcomes := outcomes }, []⟩ True method :=
    fun h ↦ settles_of_keeps rfl hcurrent (h _)
  cases event with
  | prepareVideo parameters uvcCamera =>
    exact hkeeps fun _ ↦ Triple.bind (within_prepareVideo parameters uvcCamera) fun _ ↦
      Triple.pure fun _ h ↦ h
  | prepareAudio =>
    refine hkeeps fun _ ↦ within_silent (.bind (.bind (gl_call fun _ ↦ rfl) fun _ ↦
      .bind (gl_call fun _ ↦ rfl) fun _ ↦ leaves_ask (fun _ _ ↦ rfl) fun _ ↦ rfl) fun _ ↦ .pure _)
  | startPreview uvcCamera =>
    refine settles_of_within (within_startPreview hstart uvcCamera ?_)
    simp only [Traced.phase, KeepsProtocol, hcurrent, Option.any_some]
    exact Iff.rfl
  | stopPreview uvcCamera => exact hkeeps fun _ ↦ within_stopPreview uvcCamera
  | startStream uvcCamera url =>
    refine settles_of_within (within_startStream hstart uvcCamera url ?_)
    simp only [Traced.phase, KeepsProtocol, hcurrent, Option.any_some]
  | stopStream uvcCamera => exact hkeeps fun _ ↦ within_stopStream uvcCamera
  | startRecord uvcCamera =>
    refine settles_of_within (within_startRecord hstart uvcCamera ?_)
    simp only [Traced.phase, KeepsProtocol, hcurrent, Option.any_some]
  | stopRecord uvcCamera => exact hkeeps fun _ ↦ within_stopRecord uvcCamera
  | replaceView openGlView uvcCamera =>
    have hreplace := @settles_replaceView ⟨{ u with devices.outcomes := outcomes }, []⟩ gl rfl
      hcurrent openGlView uvcCamera hview
    have hneeded : KeepsProtocol u ⟨.replaceView openGlView uvcCamera, outcomes⟩ ↔
        (u.active = false → openGlView ≠ some u.base.glInterface → gl.started = false) := by
      simp only [KeepsProtocol, hcurrent, Option.any_some]
    rw [hneeded]
    exact hreplace
  | callback encoderCallback =>
    exact hkeeps fun _ ↦ within_silent (gl_of_setting (setting_callback encoderCallback))

end Settle

/-! ### Runs -/

/-- The installed interface exists. -/
def Usb.Installed (u : Usb) : Prop := u.base.glInterface < u.devices.interfaces.length

/-- The view that the event is given exists. -/
def ViewExists (u : Usb) (usbCall : UsbCall) : Prop :=
  ∀ view ∈ usbCall.event.openGlView, view < u.devices.interfaces.length

instance (u : Usb) (usbCall : UsbCall) : Decidable (ViewExists u usbCall) :=
  inferInstanceAs (Decidable (∀ _ ∈ _, _))

/-- The event returns. -/
def EventReturns (u : Usb) (usbCall : UsbCall) : Prop :=
  Returns usbCall.event.method { u with devices.outcomes := usbCall.outcomes }

instance (u : Usb) (usbCall : UsbCall) : Decidable (EventReturns u usbCall) :=
  inferInstanceAs (Decidable (Returns _ _))

theorem settled_tracedStep {u : Usb} {usbCall : UsbCall} (h : u.Installed)
    (hview : ViewExists u usbCall) :
    (tracedStep u usbCall).Settled u.base.glInterface (KeepsProtocol u usbCall) :=
  Triple.after ((settles_event (List.getElem?_eq_getElem h) usbCall hview).mono (fun _ h ↦ h)
    (fun _ _ h ↦ h.1) fun _ _ h ↦ h) rfl

theorem installed_usbStep {u : Usb} {usbCall : UsbCall} (h : u.Installed)
    (hview : ViewExists u usbCall) : (usbStep u usbCall).Installed := by
  have hcurrent := (settled_tracedStep h hview).current
  rw [usb_tracedStep] at hcurrent
  exact hcurrent

theorem glProtocol_of_keeps {u : Usb} {usbCall : UsbCall} (h : u.Installed)
    (hview : ViewExists u usbCall) (hkeeps : KeepsProtocol u usbCall) : GlProtocol u usbCall :=
  ⟨(settled_tracedStep h hview).uses, (settled_tracedStep h hview).legal hkeeps⟩

theorem glProtocol_iff_keeps {u : Usb} {usbCall : UsbCall} (h : u.Installed)
    (hview : ViewExists u usbCall) (hreturns : EventReturns u usbCall) :
    GlProtocol u usbCall ↔ KeepsProtocol u usbCall := by
  refine ⟨fun hprotocol ↦ ?_, glProtocol_of_keeps h hview⟩
  have hsettles : Gives (fun t ↦ t = ⟨{ u with devices.outcomes := usbCall.outcomes }, []⟩)
      usbCall.event.traced fun _ t ↦ t.Legal u.base.glInterface → KeepsProtocol u usbCall :=
    (settles_event (List.getElem?_eq_getElem h) usbCall hview).mono (fun _ h ↦ h)
      (fun _ _ h ↦ h.2) fun _ _ _ ↦ trivial
  have hreturned : Returns usbCall.event.traced
      ⟨{ u with devices.outcomes := usbCall.outcomes }, []⟩ :=
    (projects_event usbCall.event).returns hreturns
  exact hsettles.after rfl hreturned hprotocol.2

/-- An interface that is not installed is not used. -/
theorem ne_of_mem_runUses {glInterface : ℕ} {u : Usb} {calls : List UsbCall} (h : u.Installed)
    (hviews : Meets usbStep ViewExists u calls)
    (hnever : Throughout usbStep (fun u ↦ u.base.glInterface ≠ glInterface) u calls) :
    ∀ use ∈ runUses u calls, use.glInterface ≠ glInterface := by
  induction calls generalizing u with
  | nil => simp [runUses]
  | cons usbCall rest ih =>
    obtain ⟨hview, hviews⟩ := hviews
    obtain ⟨hnow, hlater⟩ := throughout_cons.mp hnever
    obtain ⟨old, new, huses, hold, hnew⟩ := (settled_tracedStep h hview).uses
    rw [usb_tracedStep] at hnew
    have hnext : (usbStep u usbCall).base.glInterface ≠ glInterface :=
      (throughout_cons.mp hnever).2 [] List.nil_prefix
    intro use huse
    rw [runUses, List.mem_append, glUses, huses, List.mem_append] at huse
    rcases huse with (hmade | hmade) | hmade
    · exact hold use hmade ▸ hnow
    · exact hnew use hmade ▸ hnext
    · exact ih (installed_usbStep h hview) hviews hlater use hmade

/-- A constructor: `init` on the view, or on a new `OffScreenGlThread`. -/
def Usb.constructed (openGlView : Option ℕ) (devices : Devices) : Usb :=
  match openGlView with
  | some view =>
    .initial view
      { devices with interfaces := devices.interfaces.modify view GlCall.init.effect }
  | none =>
    .initial devices.interfaces.length
      { devices with
        interfaces := devices.interfaces ++ [GlCall.init.effect ⟨true, false, false, false⟩] }

theorem installed_constructed (openGlView : Option ℕ) (devices : Devices)
    (hview : ∀ view ∈ openGlView, view < devices.interfaces.length) :
    (Usb.constructed openGlView devices).Installed := by
  cases openGlView with
  | some view =>
    have hlt := hview view rfl
    rw [← List.length_modify GlCall.init.effect devices.interfaces view] at hlt
    exact hlt
  | none =>
    change devices.interfaces.length <
      (devices.interfaces ++ [GlCall.init.effect ⟨true, false, false, false⟩]).length
    rw [List.length_append]
    exact Nat.lt_succ_self _

/-- A new object, and calls and callbacks on it, with views that exist. If every event meets
`KeepsProtocol`, every event keeps the protocol, whichever calls throw; if all of them return, only
then. And an interface is not used once it has been replaced, until it is installed again. -/
theorem gl_protocol_iff (openGlView : Option ℕ) (devices : Devices) (calls : List UsbCall)
    (hview : ∀ view ∈ openGlView, view < devices.interfaces.length)
    (hviews : Meets usbStep ViewExists (Usb.constructed openGlView devices) calls) :
    (Meets usbStep KeepsProtocol (Usb.constructed openGlView devices) calls →
      Meets usbStep GlProtocol (Usb.constructed openGlView devices) calls) ∧
    (Meets usbStep EventReturns (Usb.constructed openGlView devices) calls →
      (Meets usbStep GlProtocol (Usb.constructed openGlView devices) calls ↔
        Meets usbStep KeepsProtocol (Usb.constructed openGlView devices) calls)) ∧
    ∀ first last glInterface, first ++ last = calls →
      Throughout usbStep (fun u ↦ u.base.glInterface ≠ glInterface)
        (run usbStep (Usb.constructed openGlView devices) first) last →
      ∀ use ∈ runUses (run usbStep (Usb.constructed openGlView devices) first) last,
        use.glInterface ≠ glInterface := by
  have hinit := installed_constructed openGlView devices hview
  refine ⟨fun hkeeps ↦ ?_, fun hreturns ↦ ?_, ?_⟩
  · exact meets_of_inv (fun u usbCall h hboth ↦ installed_usbStep h hboth.1)
      (fun u usbCall h hboth ↦ glProtocol_of_keeps h hboth.1 hboth.2) hinit (hviews.and hkeeps)
  · exact meets_iff_of_inv (fun u usbCall h hboth _ ↦ installed_usbStep h hboth.1)
      (fun u usbCall h hboth ↦ glProtocol_iff_keeps h hboth.1 hboth.2) hinit (hviews.and hreturns)
  · rintro first last glInterface rfl hnever
    obtain ⟨hfirst, hlast⟩ := meets_append.mp hviews
    have hreached : (run usbStep (Usb.constructed openGlView devices) first).Installed :=
      inv_run (fun u usbCall h hview ↦ installed_usbStep h hview) hinit hfirst
    exact ne_of_mem_runUses hreached hlast hnever

/-- One camera and two views, neither of them in use. -/
def twoViews : Devices :=
  { oneCamera with interfaces := [⟨false, false, false, false⟩, ⟨false, false, false, false⟩] }

/-- A preview whose view is replaced, a stream, and a recording that is started during it. -/
def replacedPreviewCalls : List UsbCall :=
  [(UsbEvent.startPreview (some 0)).plain, (UsbEvent.replaceView (some 1) (some 0)).plain,
    (UsbEvent.startStream (some 0) "rtmp://host/a").plain, (UsbEvent.startRecord (some 0)).plain,
    (UsbEvent.replaceView none (some 0)).plain, (UsbEvent.stopStream (some 0)).plain,
    (UsbEvent.stopRecord (some 0)).plain]

theorem gl_protocol_iff_replaced :
    (Meets usbStep KeepsProtocol (Usb.constructed (some 0) twoViews) replacedPreviewCalls →
      Meets usbStep GlProtocol (Usb.constructed (some 0) twoViews) replacedPreviewCalls) ∧
    (Meets usbStep EventReturns (Usb.constructed (some 0) twoViews) replacedPreviewCalls →
      (Meets usbStep GlProtocol (Usb.constructed (some 0) twoViews) replacedPreviewCalls ↔
        Meets usbStep KeepsProtocol (Usb.constructed (some 0) twoViews) replacedPreviewCalls)) ∧
    ∀ first last glInterface, first ++ last = replacedPreviewCalls →
      Throughout usbStep (fun u ↦ u.base.glInterface ≠ glInterface)
        (run usbStep (Usb.constructed (some 0) twoViews) first) last →
      ∀ use ∈ runUses (run usbStep (Usb.constructed (some 0) twoViews) first) last,
        use.glInterface ≠ glInterface :=
  gl_protocol_iff (some 0) twoViews replacedPreviewCalls (by decide) (by decide)

/-- A view that is put in place while nothing is on is started without having been initialized. -/
theorem not_glProtocol_idle_replace :
    ¬ Meets usbStep GlProtocol (Usb.constructed (some 0) twoViews)
      [(UsbEvent.replaceView (some 1) (some 0)).plain, (UsbEvent.startPreview (some 0)).plain] := by
  intro h
  have huse := h.2.1.2.uses ⟨1, .start, some ⟨false, false, false, false⟩⟩ (by decide)
  exact absurd huse (by decide)

end UvcRtmpStream.Streaming
