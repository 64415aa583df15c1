import Mathlib.Logic.Basic

/-!
# Programs with a state and exceptions

An imperative method that may throw is an `EStateM` program: it changes the state as it goes, and
leaves a state whether it returns or throws (`after`). What it does is said by a triple with two
postconditions, one for each exit (`Triple`). `Keeps` is the case of an invariant, and `Leaves` the
case of a part of the state that is not touched. There is a rule for each way of putting programs
together, so that a method's property follows the shape of its body.

`zoom` runs a program on a part of the state, such as one object of several.
-/

set_option autoImplicit false
set_option relaxedAutoImplicit false

namespace UvcRtmpStream.Foundations

variable {ε σ τ α β ν : Type}

/-- The state that a program leaves, whether it returns or throws. -/
def after (program : EStateM ε σ α) (s : σ) : σ :=
  match program s with
  | .ok _ s' => s'
  | .error _ s' => s'

/-- An `if` without an `else`. -/
def whenever (condition : Bool) (program : EStateM ε σ Unit) : EStateM ε σ Unit :=
  if condition then program else pure ()

/-- A program on a part of the state. Where the part is missing, it throws. -/
def zoom (part : σ → Option τ) (put : τ → σ → σ) (missing : ε) (program : EStateM ε τ α) :
    EStateM ε σ α := fun s ↦
  match part s with
  | none => .error missing s
  | some t =>
    match program t with
    | .ok value t' => .ok value (put t' s)
    | .error exception t' => .error exception (put t' s)

/-- From a state with `pre` the program returns with `post` or throws with `thrown`. -/
def Triple (pre : σ → Prop) (program : EStateM ε σ α) (post : α → σ → Prop)
    (thrown : ε → σ → Prop) : Prop :=
  ∀ s, pre s →
    match program s with
    | .ok value s' => post value s'
    | .error exception s' => thrown exception s'

/-- The program keeps the invariant, whether it returns or throws. -/
abbrev Keeps (inv : σ → Prop) (program : EStateM ε σ α) : Prop :=
  Triple inv program (fun _ ↦ inv) (fun _ ↦ inv)

/-- From a state with `pre` the program has `post` where it returns; nothing is said where it
throws. -/
abbrev Gives (pre : σ → Prop) (program : EStateM ε σ α) (post : α → σ → Prop) : Prop :=
  Triple pre program post fun _ _ ↦ True

/-- From a state with `pre` the program returns with `post`. -/
abbrev Total (pre : σ → Prop) (program : EStateM ε σ α) (post : α → σ → Prop) : Prop :=
  Triple pre program post fun _ _ ↦ False

/-- The program returns. -/
def Returns (program : EStateM ε σ α) (s : σ) : Prop := ∃ value s', program s = .ok value s'

instance decidableReturns (program : EStateM ε σ α) (s : σ) : Decidable (Returns program s) :=
  match h : program s with
  | .ok value s' => .isTrue ⟨value, s', h⟩
  | .error _ _ => .isFalse fun hreturns ↦
    hreturns.elim fun _ hvalue ↦ hvalue.elim fun _ hok ↦
      EStateM.Result.noConfusion rfl rfl rfl (heq_of_eq (h.symm.trans hok))

/-- The program does not touch a part of the state. -/
def Leaves (view : σ → ν) (program : EStateM ε σ α) : Prop :=
  ∀ value, Keeps (fun s ↦ view s = value) program

/-! ### Rules for triples -/

section Triple

variable {pre pre' : σ → Prop} {program : EStateM ε σ α} {next : α → EStateM ε σ β}
  {post post' : α → σ → Prop} {last : β → σ → Prop} {thrown thrown' : ε → σ → Prop}

theorem Triple.mono (h : Triple pre program post thrown) (hpre : ∀ s, pre' s → pre s)
    (hpost : ∀ value s, post value s → post' value s)
    (hthrown : ∀ exception s, thrown exception s → thrown' exception s) :
    Triple pre' program post' thrown' := by
  intro s hs
  have hexit := h s (hpre s hs)
  cases hrun : program s with
  | ok value s' =>
    rw [hrun] at hexit
    exact hpost value s' hexit
  | error exception s' =>
    rw [hrun] at hexit
    exact hthrown exception s' hexit

/-- Two triples of one program. -/
theorem Triple.and (h : Triple pre program post thrown) (h' : Triple pre program post' thrown') :
    Triple pre program (fun value s ↦ post value s ∧ post' value s)
      (fun exception s ↦ thrown exception s ∧ thrown' exception s) := by
  intro s hs
  have hexit := h s hs
  have hexit' := h' s hs
  cases hrun : program s with
  | ok value s' =>
    rw [hrun] at hexit hexit'
    exact ⟨hexit, hexit'⟩
  | error exception s' =>
    rw [hrun] at hexit hexit'
    exact ⟨hexit, hexit'⟩

theorem Triple.pure {value : α} (h : ∀ s, pre s → post value s) :
    Triple pre (pure value : EStateM ε σ α) post thrown := h

theorem Triple.throw {exception : ε} (h : ∀ s, pre s → thrown exception s) :
    Triple pre (throw exception : EStateM ε σ α) post thrown := h

theorem Triple.get {post : σ → σ → Prop} (h : ∀ s, pre s → post s s) :
    Triple pre (get : EStateM ε σ σ) post thrown := h

theorem Triple.modify {effect : σ → σ} {post : PUnit → σ → Prop}
    (h : ∀ s, pre s → post ⟨⟩ (effect s)) :
    Triple pre (modify effect : EStateM ε σ PUnit) post thrown := h

theorem Triple.bind (h : Triple pre program post thrown)
    (hnext : ∀ value, Triple (post value) (next value) last thrown) :
    Triple pre (program >>= next) last thrown := by
  intro s hs
  have hexit := h s hs
  change match EStateM.bind program next s with
    | .ok value s' => last value s'
    | .error exception s' => thrown exception s'
  unfold EStateM.bind
  cases hrun : program s with
  | ok value s' =>
    rw [hrun] at hexit
    exact hnext value s' hexit
  | error exception s' =>
    rw [hrun] at hexit
    exact hexit

/-- What would come after a program that throws. -/
theorem Triple.bind_throws (h : Triple pre program (fun _ _ ↦ False) thrown) :
    Triple pre (program >>= next) last thrown :=
  h.bind fun _ _ hfalse ↦ False.elim hfalse

/-- A program that first reads the state. -/
theorem triple_read {next : σ → EStateM ε σ β} (h : ∀ s, pre s → Triple pre (next s) last thrown) :
    Triple pre (get >>= next) last thrown :=
  fun s hs ↦ h s hs s hs

/-- A program that first reads the state, which is known from then on. -/
theorem triple_read_eq {next : σ → EStateM ε σ β}
    (h : ∀ s, pre s → Triple (fun t ↦ t = s) (next s) last thrown) :
    Triple pre (get >>= next) last thrown :=
  fun s hs ↦ h s hs s rfl

/-- A triple applied in one state. -/
theorem Triple.of_state (h : Triple pre program post thrown) {s : σ} (hs : pre s) :
    Triple (fun t ↦ t = s) program post thrown := by
  rintro _ rfl
  exact h _ hs

/-- A program that first changes the state. -/
theorem triple_update {effect : σ → σ} {mid : σ → Prop} {next : PUnit → EStateM ε σ β}
    (heffect : ∀ s, pre s → mid (effect s)) (h : Triple mid (next ⟨⟩) last thrown) :
    Triple pre (modify effect >>= next) last thrown :=
  fun s hs ↦ h (effect s) (heffect s hs)

/-- A program that first changes a part of the state in a known way. -/
theorem triple_change {view : σ → ν} {value : ν} (change : ν → ν) {effect : σ → σ}
    {next : PUnit → EStateM ε σ β} (heffect : ∀ s, view (effect s) = change (view s))
    (h : Triple (fun s ↦ view s = change value) (next ⟨⟩) last thrown) :
    Triple (fun s ↦ view s = value) (modify effect >>= next) last thrown :=
  triple_update (fun s hs ↦ (heffect s).trans (congrArg change hs)) h

theorem Triple.whenever {condition : Bool} {program : EStateM ε σ Unit} {post : Unit → σ → Prop}
    (h : condition = true → Triple pre program post thrown)
    (hskip : condition = false → ∀ s, pre s → post () s) :
    Triple pre (whenever condition program) post thrown := by
  cases condition with
  | false => exact Triple.pure (hskip rfl)
  | true => exact h rfl

theorem Triple.ite {condition : Prop} [Decidable condition] {other : EStateM ε σ α}
    (h : condition → Triple pre program post thrown)
    (hother : ¬ condition → Triple pre other post thrown) :
    Triple pre (if condition then program else other) post thrown := by
  by_cases hcondition : condition
  · rw [if_pos hcondition]
    exact h hcondition
  · rw [if_neg hcondition]
    exact hother hcondition

theorem Triple.tryCatch {handle : ε → EStateM ε σ α} (h : Triple pre program post thrown)
    (hhandle : ∀ exception, Triple (thrown exception) (handle exception) post thrown') :
    Triple pre (tryCatch program handle) post thrown' := by
  intro s hs
  have hexit := h s hs
  change match EStateM.tryCatch program handle s with
    | .ok value s' => post value s'
    | .error exception s' => thrown' exception s'
  unfold EStateM.tryCatch
  dsimp only [EStateM.Backtrackable.save, EStateM.Backtrackable.restore, EStateM.dummyRestore]
  cases hrun : program s with
  | ok value s' =>
    rw [hrun] at hexit
    exact hexit
  | error exception s' =>
    rw [hrun] at hexit
    exact hhandle exception s' hexit

/-- A fact about the state before the program may be used to prove its triple. -/
theorem Triple.assume {fact : Prop} (h : fact → Triple pre program post thrown) :
    Triple (fun s ↦ fact ∧ pre s) program post thrown :=
  fun s hs ↦ h hs.1 s hs.2

theorem Triple.exists {ι : Type} {pre : ι → σ → Prop}
    (h : ∀ i, Triple (pre i) program post thrown) :
    Triple (fun s ↦ ∃ i, pre i s) program post thrown :=
  fun s hs ↦ hs.elim fun i hi ↦ h i s hi

/-- The state left by a program whose exits have the same postcondition. -/
theorem Triple.after {post : σ → Prop}
    (h : Triple pre program (fun _ ↦ post) (fun _ ↦ post)) {s : σ} (hs : pre s) :
    post (after program s) := by
  have hexit := h s hs
  unfold Foundations.after
  cases hrun : program s with
  | ok value s' =>
    rw [hrun] at hexit
    exact hexit
  | error exception s' =>
    rw [hrun] at hexit
    exact hexit

/-- What a run that returned has given. -/
theorem Triple.of_ok (h : Triple pre program post thrown) {s s' : σ} {value : α} (hs : pre s)
    (hrun : program s = .ok value s') : post value s' := by
  have hexit := h s hs
  rw [hrun] at hexit
  exact hexit

/-- What comes after a program that returned. -/
theorem bind_of_ok {s s' : σ} {value : α} (hrun : program s = .ok value s') :
    (program >>= next) s = next value s' := by
  change EStateM.bind program next s = next value s'
  unfold EStateM.bind
  rw [hrun]

/-- What would come after a program that threw does not run. -/
theorem bind_of_error {s s' : σ} {exception : ε} (hrun : program s = .error exception s') :
    (program >>= next) s = .error exception s' := by
  change EStateM.bind program next s = .error exception s'
  unfold EStateM.bind
  rw [hrun]

/-- The handler of a program that threw. -/
theorem tryCatch_of_error {handle : ε → EStateM ε σ α} {s s' : σ} {exception : ε}
    (hrun : program s = .error exception s') :
    tryCatch program handle s = handle exception s' := by
  change EStateM.tryCatch program handle s = handle exception s'
  unfold EStateM.tryCatch
  dsimp only [EStateM.Backtrackable.save, EStateM.Backtrackable.restore, EStateM.dummyRestore]
  rw [hrun]

/-- The state left by a program that returns. -/
theorem Gives.after {post : σ → Prop} (h : Gives pre program fun _ ↦ post) {s : σ} (hs : pre s)
    (hreturns : Returns program s) : post (Foundations.after program s) := by
  obtain ⟨value, s', hrun⟩ := hreturns
  have hexit := h s hs
  unfold Foundations.after
  rw [hrun] at hexit ⊢
  exact hexit

/-- The state left by a program that returns. -/
theorem Total.after {post : σ → Prop} (h : Total pre program fun _ ↦ post) {s : σ} (hs : pre s) :
    post (Foundations.after program s) :=
  Triple.after (h.mono (fun _ h ↦ h) (fun _ _ h ↦ h) fun _ _ h ↦ h.elim) hs

/-- How a program that returns does so. -/
theorem Total.exit (h : Total pre program post) {s : σ} (hs : pre s) :
    ∃ value s', program s = .ok value s' ∧ post value s' := by
  have hexit := h s hs
  cases hrun : program s with
  | ok value s' =>
    rw [hrun] at hexit
    exact ⟨value, s', rfl, hexit⟩
  | error exception s' =>
    rw [hrun] at hexit
    exact hexit.elim

/-- A program that returns, whatever is asked where it throws. -/
theorem Total.triple (h : Total pre program post) : Triple pre program post thrown :=
  Triple.mono h (fun _ h ↦ h) (fun _ _ h ↦ h) fun _ _ h ↦ h.elim

/-- A triple whose exits have the same postcondition is about the state left. -/
theorem Triple.of_after {post : σ → Prop} (h : ∀ s, pre s → post (Foundations.after program s)) :
    Triple pre program (fun _ ↦ post) (fun _ ↦ post) := by
  intro s hs
  have hleft := h s hs
  unfold Foundations.after at hleft
  cases hrun : program s with
  | ok value s' =>
    rw [hrun] at hleft
    exact hleft
  | error exception s' =>
    rw [hrun] at hleft
    exact hleft

end Triple

/-! ### Rules for parts that are not touched -/

section Leaves

variable {view : σ → ν} {program : EStateM ε σ α} {next : α → EStateM ε σ β}

theorem Leaves.pure (value : α) : Leaves view (pure value : EStateM ε σ α) :=
  fun _ ↦ Triple.pure fun _ h ↦ h

theorem Leaves.throw (exception : ε) : Leaves view (throw exception : EStateM ε σ α) :=
  fun _ ↦ Triple.throw fun _ h ↦ h

theorem Leaves.get : Leaves view (get : EStateM ε σ σ) := fun _ ↦ Triple.get fun _ h ↦ h

theorem Leaves.modify {effect : σ → σ} (h : ∀ s, view (effect s) = view s) :
    Leaves view (modify effect : EStateM ε σ PUnit) :=
  fun _ ↦ Triple.modify fun s hs ↦ (h s).trans hs

theorem Leaves.bind (h : Leaves view program) (hnext : ∀ value, Leaves view (next value)) :
    Leaves view (program >>= next) :=
  fun value ↦ (h value).bind fun result ↦ hnext result value

theorem Leaves.whenever {condition : Bool} {program : EStateM ε σ Unit} (h : Leaves view program) :
    Leaves view (whenever condition program) :=
  fun value ↦ Triple.whenever (fun _ ↦ h value) fun _ _ hs ↦ hs

theorem Leaves.ite {condition : Prop} [Decidable condition] {other : EStateM ε σ α}
    (h : Leaves view program) (hother : Leaves view other) :
    Leaves view (if condition then program else other) := by
  by_cases hcondition : condition
  · rw [if_pos hcondition]
    exact h
  · rw [if_neg hcondition]
    exact hother

theorem Leaves.tryCatch {handle : ε → EStateM ε σ α} (h : Leaves view program)
    (hhandle : ∀ exception, Leaves view (handle exception)) :
    Leaves view (tryCatch program handle) :=
  fun value ↦ (h value).tryCatch fun exception ↦ hhandle exception value

/-- An invariant of the part is kept. -/
theorem Leaves.keeps (h : Leaves view program) (inv : ν → Prop) :
    Keeps (fun s ↦ inv (view s)) program :=
  fun s hs ↦ (h (view s)).mono (fun _ h ↦ h) (fun _ _ h ↦ h ▸ hs) (fun _ _ h ↦ h ▸ hs) s rfl

/-- The part is as before where the program returns. -/
theorem Leaves.gives (h : Leaves view program) (value : ν) :
    Gives (fun s ↦ view s = value) program fun _ s ↦ view s = value :=
  (h value).mono (fun _ h ↦ h) (fun _ _ h ↦ h) fun _ _ _ ↦ trivial

theorem Leaves.after (h : Leaves view program) (s : σ) : view (after program s) = view s :=
  Triple.after (h (view s)) rfl

/-- What is a function of a part that is not touched is not touched either. -/
theorem Leaves.comp {ν' : Type} {view' : σ → ν'} (h : Leaves view program) (f : ν → ν')
    (hview : ∀ s, view' s = f (view s)) : Leaves view' program := by
  rintro value s rfl
  rw [hview]
  exact (h (view s)).mono (fun _ h ↦ h) (fun _ s' h ↦ (hview s').trans (congrArg f h))
    (fun _ s' h ↦ (hview s').trans (congrArg f h)) s rfl

end Leaves

/-! ### Rules for parts that are ignored -/

/-- An exit with its state changed. -/
def mapExit (change : σ → σ) : EStateM.Result ε σ α → EStateM.Result ε σ α
  | .ok value s => .ok value (change s)
  | .error exception s => .error exception (change s)

theorem mapExit_mapExit (change change' : σ → σ) (exit : EStateM.Result ε σ α) :
    mapExit change (mapExit change' exit) = mapExit (change ∘ change') exit := by
  cases exit with
  | ok value s => rfl
  | error exception s => rfl

/-- The program neither looks at what a change is about nor sets it: from the changed state it does
the same. -/
def Ignores (change : σ → σ) (program : EStateM ε σ α) : Prop :=
  ∀ s, program (change s) = mapExit change (program s)

section Ignores

variable {change : σ → σ} {program : EStateM ε σ α}

theorem Ignores.pure (value : α) : Ignores change (pure value : EStateM ε σ α) := fun _ ↦ rfl

theorem Ignores.throw (exception : ε) : Ignores change (throw exception : EStateM ε σ α) :=
  fun _ ↦ rfl

theorem Ignores.modify {effect : σ → σ} (h : ∀ s, effect (change s) = change (effect s)) :
    Ignores change (modify effect : EStateM ε σ PUnit) :=
  fun s ↦ congrArg (EStateM.Result.ok PUnit.unit) (h s)

theorem Ignores.bind {next : α → EStateM ε σ β} (h : Ignores change program)
    (hnext : ∀ value, Ignores change (next value)) : Ignores change (program >>= next) := by
  intro s
  change EStateM.bind program next (change s) = mapExit change (EStateM.bind program next s)
  unfold EStateM.bind
  rw [h s]
  cases program s with
  | ok value s' => exact hnext value s'
  | error exception s' => rfl

/-- A program that first reads the state, but not what the change is about. -/
theorem Ignores.read {next : σ → EStateM ε σ β} (h : ∀ s, Ignores change (next s))
    (hsame : ∀ s, next (change s) = next s) : Ignores change (get >>= next) := by
  intro s
  change next (change s) (change s) = mapExit change (next s s)
  rw [hsame s]
  exact h s s

theorem Ignores.whenever {condition : Bool} {program : EStateM ε σ Unit}
    (h : Ignores change program) : Ignores change (whenever condition program) := by
  cases condition with
  | false => exact .pure ()
  | true => exact h

end Ignores

/-! ### Programs on a part of the state -/

section Zoom

variable {part : σ → Option τ} {put : τ → σ → σ} {missing : ε} {program : EStateM ε τ α}

/-- What a program on a part does to the whole, in each state of it. -/
theorem triple_zoom {pre : σ → Prop} {post : α → σ → Prop} {thrown : ε → σ → Prop}
    (hmissing : ∀ s, pre s → part s = none → thrown missing s)
    (h : ∀ s t, pre s → part s = some t →
      Triple (fun t' ↦ t' = t) program (fun value t' ↦ post value (put t' s))
        (fun exception t' ↦ thrown exception (put t' s))) :
    Triple pre (zoom part put missing program) post thrown := by
  intro s hs
  unfold zoom
  cases hpart : part s with
  | none => exact hmissing s hs hpart
  | some t =>
    have hexit := h s t hs hpart t rfl
    dsimp only
    cases hrun : program t with
    | ok result t' =>
      rw [hrun] at hexit
      exact hexit
    | error exception t' =>
      rw [hrun] at hexit
      exact hexit

/-- A part that the inner program leaves alone carries over. -/
theorem Leaves.zoom {inner : τ → ν} {view : σ → β} (h : Leaves inner program)
    (hput : ∀ s t t', part s = some t → inner t' = inner t → view (put t' s) = view s) :
    Leaves view (zoom part put missing program) := by
  rintro value
  refine triple_zoom (fun s hs _ ↦ hs) fun s t hs hpart ↦ ?_
  have hinner : ∀ t', inner t' = inner t → view (put t' s) = value :=
    fun t' hsame ↦ (hput s t t' hpart hsame).trans hs
  exact ((h (inner t)).of_state rfl).mono (fun _ h ↦ h) (fun _ t' h ↦ hinner t' h)
    fun _ t' h ↦ hinner t' h

theorem zoom_of_ok {s : σ} {t t' : τ} {value : α} (ht : part s = some t)
    (hrun : program t = .ok value t') :
    zoom part put missing program s = .ok value (put t' s) := by
  simp only [zoom, ht, hrun]

theorem zoom_of_error {s : σ} {t t' : τ} {exception : ε} (ht : part s = some t)
    (hrun : program t = .error exception t') :
    zoom part put missing program s = .error exception (put t' s) := by
  simp only [zoom, ht, hrun]

theorem zoom_of_missing {s : σ} (ht : part s = none) :
    zoom part put missing program s = .error missing s := by
  simp only [zoom, ht]

/-- Two programs on a part, one after the other, are one program on it, where a part that is put
back is found again. -/
theorem zoom_bind {next : α → EStateM ε τ β} {rest : α → EStateM ε σ β}
    (hpart : ∀ s t t', part s = some t → part (put t' s) = some t')
    (hput : ∀ s t' t'', put t'' (put t' s) = put t'' s)
    (hrest : ∀ value s t, part s = some t → rest value s = zoom part put missing (next value) s) :
    zoom part put missing program >>= rest = zoom part put missing (program >>= next) := by
  funext s
  cases ht : part s with
  | none => rw [bind_of_error (zoom_of_missing ht), zoom_of_missing ht]
  | some t =>
    cases hrun : program t with
    | error exception t' =>
      rw [bind_of_error (zoom_of_error ht hrun), zoom_of_error ht (bind_of_error hrun)]
    | ok value t' =>
      have hback := hpart s t t' ht
      rw [bind_of_ok (zoom_of_ok ht hrun), hrest value _ t' hback]
      cases hnext : next value t' with
      | ok result t'' =>
        have hboth : (program >>= next) t = .ok result t'' := (bind_of_ok hrun).trans hnext
        rw [zoom_of_ok hback hnext, zoom_of_ok ht hboth, hput]
      | error exception t'' =>
        have hboth : (program >>= next) t = .error exception t'' := (bind_of_ok hrun).trans hnext
        rw [zoom_of_error hback hnext, zoom_of_error ht hboth, hput]

end Zoom

/-! ### Programs that carry more than another -/

/-- On a part of its state, the program does what the method does. The rest of the state may be
used up by the program, but the method knows nothing of it. -/
def Projects (view : σ → τ) (program : EStateM ε σ α) (method : EStateM ε τ α) : Prop :=
  ∀ s, Triple (fun t ↦ t = s) program (fun value s' ↦ method (view s) = .ok value (view s'))
    fun exception s' ↦ method (view s) = .error exception (view s')

section Projects

variable {view : σ → τ} {program : EStateM ε σ α} {method : EStateM ε τ α}

theorem Projects.pure (value : α) :
    Projects view (pure value : EStateM ε σ α) (pure value : EStateM ε τ α) :=
  fun _ ↦ Triple.pure fun _ hs ↦ hs ▸ rfl

theorem Projects.modify {effect : σ → σ} {effect' : τ → τ}
    (h : ∀ s, view (effect s) = effect' (view s)) :
    Projects view (modify effect : EStateM ε σ PUnit) (modify effect' : EStateM ε τ PUnit) :=
  fun _ ↦ Triple.modify fun t hs ↦ hs ▸ congrArg (EStateM.Result.ok PUnit.unit) (h t).symm

theorem Projects.bind {next : α → EStateM ε σ β} {next' : α → EStateM ε τ β}
    (h : Projects view program method) (hnext : ∀ value, Projects view (next value) (next' value)) :
    Projects view (program >>= next) (method >>= next') := by
  intro s
  have hthrows : ∀ {exception s'}, method (view s) = .error exception (view s') →
      (method >>= next') (view s) = .error exception (view s') := by
    intro exception s' hrun
    change EStateM.bind method next' (view s) = _
    unfold EStateM.bind
    rw [hrun]
  refine Triple.bind ((h s).mono (fun _ hs ↦ hs) (fun _ _ hrun ↦ hrun) fun _ _ ↦ hthrows)
    fun value s' hrun ↦ ?_
  have hrest := hnext value s' s' rfl
  have hbind : (method >>= next') (view s) = next' value (view s') := bind_of_ok hrun
  rwa [← hbind] at hrest

/-- A step that only the program takes. -/
theorem projects_before {effect : σ → σ} {next : PUnit → EStateM ε σ α}
    (heffect : ∀ s, view (effect s) = view s) (h : Projects view (next ⟨⟩) method) :
    Projects view (modify effect >>= next) method := by
  rintro _ s rfl
  have hnext := h (effect s) (effect s) rfl
  rwa [heffect] at hnext

theorem Projects.whenever {condition : Bool} {program : EStateM ε σ Unit}
    {method : EStateM ε τ Unit} (h : Projects view program method) :
    Projects view (whenever condition program) (whenever condition method) := by
  cases condition with
  | false => exact .pure ()
  | true => exact h

theorem Projects.ite {condition : Prop} [Decidable condition] {other : EStateM ε σ α}
    {other' : EStateM ε τ α} (h : Projects view program method)
    (hother : Projects view other other') :
    Projects view (if condition then program else other)
      (if condition then method else other') := by
  by_cases hcondition : condition
  · rw [if_pos hcondition, if_pos hcondition]
    exact h
  · rw [if_neg hcondition, if_neg hcondition]
    exact hother

/-- A method of the part. -/
theorem projects_zoom {put : τ → σ → σ} {missing : ε} (hput : ∀ t s, view (put t s) = t) :
    Projects view (zoom (fun s ↦ some (view s)) put missing method) method := by
  refine fun s ↦ triple_zoom (fun _ _ hmissing ↦ absurd hmissing (Option.some_ne_none _))
    fun s' t hs hpart ↦ ?_
  obtain rfl := Option.some.inj hpart
  subst hs
  rintro _ rfl
  cases hrun : method (view s') with
  | ok value t => exact congrArg (EStateM.Result.ok value) (hput t s').symm
  | error exception t => exact congrArg (EStateM.Result.error exception) (hput t s').symm

/-- The part of the state that the program leaves is what the method leaves. -/
theorem Projects.after (h : Projects view program method) (s : σ) :
    view (after program s) = after method (view s) := by
  have hexit := h s s rfl
  unfold Foundations.after
  cases hrun : program s with
  | ok value s' =>
    rw [hrun] at hexit
    rw [hexit]
  | error exception s' =>
    rw [hrun] at hexit
    rw [hexit]

/-- The program returns where the method does. -/
theorem Projects.returns (h : Projects view program method) {s : σ}
    (hreturns : Returns method (view s)) : Returns program s := by
  obtain ⟨value, t, hmethod⟩ := hreturns
  have hexit := h s s rfl
  cases hrun : program s with
  | ok value' s' => exact ⟨value', s', hrun⟩
  | error exception s' =>
    rw [hrun, hmethod] at hexit
    cases hexit

end Projects

end UvcRtmpStream.Foundations
