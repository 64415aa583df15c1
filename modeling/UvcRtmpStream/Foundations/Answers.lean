import Mathlib.Data.List.Basic
import UvcRtmpStream.Foundations.Programs

/-!
# Programs whose calls are answered from a list

The calls that a program makes are answered from a list in its state, its tape: a call takes the
next answer, returns where that is good or none is left, and throws otherwise. Such a program
returns exactly where all the calls that it makes are answered well, and has then used up that many
answers (`Makes`). How many they are may depend on the answers, since a program may branch on what a
call returned.

There is a rule for each way of putting programs together, so that the number of calls follows the
shape of a body. `Makes.zoom` is about a program on a part of the state that holds the tape.
-/

set_option autoImplicit false
set_option relaxedAutoImplicit false

namespace UvcRtmpStream.Foundations

variable {ε σ τ α β ω : Type} {tape : σ → List ω} {good : ω → Bool}

/-- The first answers are good, as many as there are. -/
def Answered (good : ω → Bool) (count : ℕ) (answers : List ω) : Prop :=
  (answers.take count).all good = true

instance (good : ω → Bool) (count : ℕ) (answers : List ω) :
    Decidable (Answered good count answers) :=
  inferInstanceAs (Decidable (_ = true))

@[simp] theorem answered_zero (good : ω → Bool) (answers : List ω) : Answered good 0 answers := rfl

/-- The answers of some calls and of those that come after them. -/
theorem answered_add (good : ω → Bool) (count later : ℕ) (answers : List ω) :
    Answered good (count + later) answers ↔
      Answered good count answers ∧ Answered good later (answers.drop count) := by
  rw [Answered, List.take_add, List.all_append, Bool.and_eq_true, Answered, Answered]

/-- The program makes as many calls as `count` says, returns exactly where they are answered well,
and has then taken their answers. -/
def Makes (tape : σ → List ω) (good : ω → Bool) (count : List ω → ℕ)
    (program : EStateM ε σ α) : Prop :=
  ∀ answers, Triple (fun s ↦ tape s = answers) program
    (fun _ s ↦ Answered good (count answers) answers ∧
      tape s = answers.drop (count answers))
    fun _ _ ↦ ¬ Answered good (count answers) answers

section Makes

variable {count later : List ω → ℕ} {program : EStateM ε σ α} {next : α → EStateM ε σ β}

theorem Makes.congr (h : Makes tape good count program)
    (hcount : ∀ answers, count answers = later answers) : Makes tape good later program :=
  funext hcount ▸ h

/-- The answers that are left where the program returns. -/
theorem Makes.gives (h : Makes tape good count program) (answers : List ω) :
    Gives (fun s ↦ tape s = answers) program fun _ s ↦ tape s = answers.drop (count answers) :=
  (h answers).mono (fun _ h ↦ h) (fun _ _ h ↦ h.2) fun _ _ _ ↦ trivial

theorem Makes.pure (value : α) : Makes tape good (fun _ ↦ 0) (pure value : EStateM ε σ α) :=
  fun _ ↦ Triple.pure fun _ hs ↦ ⟨answered_zero _ _, hs⟩

theorem Makes.modify {effect : σ → σ} (heffect : ∀ s, tape (effect s) = tape s) :
    Makes tape good (fun _ ↦ 0) (modify effect : EStateM ε σ PUnit) :=
  fun _ ↦ Triple.modify fun s hs ↦ ⟨answered_zero _ _, (heffect s).trans hs⟩

/-- The calls that come after some that were answered well. -/
theorem Makes.rest {program : EStateM ε σ β} (h : Makes tape good later program)
    {answers : List ω} {taken : ℕ} (htaken : Answered good taken answers) :
    Triple (fun s ↦ tape s = answers.drop taken) program
      (fun _ s ↦ Answered good (taken + later (answers.drop taken)) answers ∧
        tape s = answers.drop (taken + later (answers.drop taken)))
      fun _ _ ↦ ¬ Answered good (taken + later (answers.drop taken)) answers := by
  refine (h _).mono (fun _ h ↦ h) ?_ ?_
  · rintro value s ⟨hanswered, htape⟩
    exact ⟨(answered_add _ _ _ _).mpr ⟨htaken, hanswered⟩, htape.trans List.drop_drop⟩
  · intro exception s hbroken hall
    exact hbroken ((answered_add _ _ _ _).mp hall).2

/-- The calls of a program and of what comes after it. -/
theorem Makes.bind (h : Makes tape good count program)
    (hnext : ∀ result, Makes tape good later (next result)) :
    Makes tape good (fun answers ↦ count answers + later (answers.drop (count answers)))
      (program >>= next) := by
  intro answers
  refine Triple.bind ((h answers).mono (fun _ h ↦ h) (fun _ _ h ↦ h) ?_) fun result s hs ↦ ?_
  · intro exception s hbroken hall
    exact hbroken ((answered_add _ _ _ _).mp hall).1
  · exact (hnext result).rest hs.1 s hs.2

/-- The same where the number of the later calls depends on what the program returned, which is
decided by the answers. -/
theorem Makes.bind_value {value : List ω → α} {later : α → List ω → ℕ}
    (h : Makes tape good count program)
    (hvalue : ∀ answers, Gives (fun s ↦ tape s = answers) program fun result _ ↦
      result = value answers)
    (hnext : ∀ result, Makes tape good (later result) (next result)) :
    Makes tape good
      (fun answers ↦ count answers + later (value answers) (answers.drop (count answers)))
      (program >>= next) := by
  intro answers
  refine Triple.bind (((h answers).and (hvalue answers)).mono (fun _ h ↦ h) (fun _ _ h ↦ h) ?_)
    fun result s hs ↦ ?_
  · rintro exception s ⟨hbroken, -⟩ hall
    exact hbroken ((answered_add _ _ _ _).mp hall).1
  · obtain ⟨⟨hanswered, htape⟩, rfl⟩ := hs
    exact (hnext _).rest hanswered s htape

theorem Makes.whenever {condition : Bool} {program : EStateM ε σ Unit}
    (h : Makes tape good count program) :
    Makes tape good (fun answers ↦ if condition then count answers else 0)
      (whenever condition program) := by
  cases condition with
  | false => exact .pure ()
  | true => exact h

/-- A program on a part of the state that holds the tape. -/
theorem Makes.zoom {tape' : τ → List ω} {part : σ → Option τ} {put : τ → σ → σ} {missing : ε}
    {program : EStateM ε τ α} (h : Makes tape' good count program)
    (hpart : ∀ s, ∃ t, part s = some t ∧ tape' t = tape s)
    (hput : ∀ s t, tape (put t s) = tape' t) :
    Makes tape good count (zoom part put missing program) := by
  intro answers
  refine triple_zoom (fun s _ hnone ↦ ?_) fun s t hs ht ↦ ?_
  · obtain ⟨t, ht, -⟩ := hpart s
    exact absurd (hnone.symm.trans ht) (Option.some_ne_none t).symm
  · obtain ⟨t', ht', htape⟩ := hpart s
    obtain rfl := Option.some.inj (ht.symm.trans ht')
    exact ((h answers).of_state (htape.trans hs)).mono (fun _ h ↦ h)
      (fun _ t' h ↦ ⟨h.1, (hput s t').trans h.2⟩) fun _ _ h ↦ h

end Makes

end UvcRtmpStream.Foundations
