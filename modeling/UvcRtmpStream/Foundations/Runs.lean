import Mathlib.Data.List.Infix
import Mathlib.Order.Basic

/-!
# Runs of a machine, and conditions met along them

A machine is a step function on an arbitrary state type, driven by a list of inputs; everything
that is nondeterministic in the modelled program (an external call that fails, the order of a
directory listing, the moment a callback arrives) is part of the input. `run` is the state after a
list of inputs, and `Throughout` says that a property holds in every state the run passes through.

Most results about a program hold only along runs whose inputs respect the environment, or whose
steps avoid one branch. `Meets` states such a condition of every step, in the state the step is
taken in. `throughout_of_meets` is the invariant rule, and `throughout_iff_meets` the exact rule:
where a step that breaks the condition also breaks the property, the property holds along a run if
and only if every step meets the condition.
-/

set_option autoImplicit false
set_option relaxedAutoImplicit false

namespace UvcRtmpStream.Foundations

variable {σ ι : Type*}

/-- The state a machine is in after taking a list of inputs in order. -/
def run (step : σ → ι → σ) (s : σ) (inputs : List ι) : σ := inputs.foldl step s

/-- Every input of the list meets `condition` in the state it is taken in. -/
def Meets (step : σ → ι → σ) (condition : σ → ι → Prop) : σ → List ι → Prop
  | _, [] => True
  | s, input :: rest => condition s input ∧ Meets step condition (step s input) rest

/-- A property holds in every state a run passes through, the first and the last included. -/
def Throughout (step : σ → ι → σ) (property : σ → Prop) (s : σ) (inputs : List ι) : Prop :=
  ∀ taken, taken <+: inputs → property (run step s taken)

/-- Every input that breaks something is followed by an input that mends it. -/
def Mended (step : σ → ι → σ) (breaks : σ → ι → Prop) (mends : ι → Prop) : σ → List ι → Prop
  | _, [] => True
  | s, input :: rest =>
    (breaks s input → ∃ later ∈ rest, mends later) ∧ Mended step breaks mends (step s input) rest

variable {step : σ → ι → σ} {condition other : σ → ι → Prop} {property inv : σ → Prop}

instance decidableMeets [∀ s input, Decidable (condition s input)] :
    ∀ (s : σ) (inputs : List ι), Decidable (Meets step condition s inputs)
  | _, [] => .isTrue trivial
  | s, input :: rest =>
    haveI : Decidable (Meets step condition (step s input) rest) :=
      decidableMeets (step s input) rest
    inferInstanceAs (Decidable (condition s input ∧ Meets step condition (step s input) rest))

@[simp] theorem run_nil (s : σ) : run step s [] = s := rfl

@[simp] theorem run_cons (s : σ) (input : ι) (rest : List ι) :
    run step s (input :: rest) = run step (step s input) rest := rfl

theorem run_append (s : σ) (first second : List ι) :
    run step s (first ++ second) = run step (run step s first) second :=
  List.foldl_append

@[simp] theorem meets_nil (s : σ) : Meets step condition s [] := trivial

@[simp] theorem meets_cons {s : σ} {input : ι} {rest : List ι} :
    Meets step condition s (input :: rest) ↔
      condition s input ∧ Meets step condition (step s input) rest := Iff.rfl

theorem meets_of_forall (h : ∀ s input, condition s input) {s : σ} {inputs : List ι} :
    Meets step condition s inputs := by
  induction inputs generalizing s with
  | nil => trivial
  | cons input rest ih => exact ⟨h s input, ih⟩

/-- A condition on the inputs alone. -/
theorem meets_of_mem {condition : ι → Prop} {s : σ} {inputs : List ι}
    (h : ∀ input ∈ inputs, condition input) : Meets step (fun _ ↦ condition) s inputs := by
  induction inputs generalizing s with
  | nil => trivial
  | cons input rest ih =>
    exact ⟨h input List.mem_cons_self,
      ih fun later hlater ↦ h later (List.mem_cons_of_mem _ hlater)⟩

/-- A condition met along a run is met along both of its parts. -/
theorem meets_append {s : σ} {first second : List ι} :
    Meets step condition s (first ++ second) ↔
      Meets step condition s first ∧ Meets step condition (run step s first) second := by
  induction first generalizing s with
  | nil => simp
  | cons input rest ih => simp [ih, and_assoc]

/-- A condition is met along a run exactly when every input of it meets the condition in the state
that the inputs before it lead to. -/
theorem meets_iff_forall_split {s : σ} {inputs : List ι} :
    Meets step condition s inputs ↔
      ∀ before input later, inputs = before ++ input :: later →
        condition (run step s before) input := by
  constructor
  · rintro h before input later rfl
    exact (meets_append.mp h).2.1
  · intro h
    induction inputs generalizing s with
    | nil => trivial
    | cons input rest ih =>
      refine ⟨h [] input rest rfl, ih fun before later after hsplit ↦ ?_⟩
      exact h (input :: before) later after (congrArg (input :: ·) hsplit)

theorem Meets.of_prefix {s : σ} {taken inputs : List ι} (h : Meets step condition s inputs)
    (hpart : taken <+: inputs) : Meets step condition s taken := by
  obtain ⟨rest, rfl⟩ := hpart
  exact (meets_append.mp h).1

theorem Meets.mono {s : σ} {inputs : List ι} (himp : ∀ s input, condition s input → other s input)
    (h : Meets step condition s inputs) : Meets step other s inputs := by
  induction inputs generalizing s with
  | nil => trivial
  | cons input rest ih => exact ⟨himp _ _ h.1, ih h.2⟩

theorem Meets.and {s : σ} {inputs : List ι} (h : Meets step condition s inputs)
    (hother : Meets step other s inputs) :
    Meets step (fun s input ↦ condition s input ∧ other s input) s inputs := by
  induction inputs generalizing s with
  | nil => trivial
  | cons input rest ih => exact ⟨⟨h.1, hother.1⟩, ih h.2 hother.2⟩

/-- The invariant rule at the end of a run: an invariant that every step meeting the condition
preserves holds after every run whose steps meet it. -/
theorem inv_run {s : σ} {inputs : List ι}
    (hstep : ∀ s input, inv s → condition s input → inv (step s input)) (hinit : inv s)
    (h : Meets step condition s inputs) : inv (run step s inputs) := by
  induction inputs generalizing s with
  | nil => exact hinit
  | cons input rest ih => exact ih (hstep s input hinit h.1) h.2

/-- The invariant rule for a property of steps: where the invariant holds and the condition is met,
so is the property. -/
theorem meets_of_inv {s : σ} {inputs : List ι}
    (hstep : ∀ s input, inv s → condition s input → inv (step s input))
    (hgives : ∀ s input, inv s → condition s input → other s input) (hinit : inv s)
    (h : Meets step condition s inputs) : Meets step other s inputs := by
  induction inputs generalizing s with
  | nil => trivial
  | cons input rest ih =>
    exact ⟨hgives s input hinit h.1, ih (hstep s input hinit h.1) h.2⟩

/-- The invariant rule along a run. -/
theorem throughout_of_meets {s : σ} {inputs : List ι}
    (hstep : ∀ s input, inv s → condition s input → inv (step s input)) (hinit : inv s)
    (h : Meets step condition s inputs) : Throughout step inv s inputs :=
  fun _ hpart ↦ inv_run hstep hinit (h.of_prefix hpart)

/-- The exact rule for a property of steps: where, under the invariant, a step that is possible has
the property if and only if it meets the condition. -/
theorem meets_iff_of_inv {law : σ → ι → Prop} {s : σ} {inputs : List ι}
    (hstep : ∀ s input, inv s → other s input → condition s input → inv (step s input))
    (hiff : ∀ s input, inv s → other s input → (law s input ↔ condition s input)) (hinit : inv s)
    (hother : Meets step other s inputs) :
    Meets step law s inputs ↔ Meets step condition s inputs := by
  induction inputs generalizing s with
  | nil => exact Iff.rfl
  | cons input rest ih =>
    rw [meets_cons, meets_cons, hiff s input hinit hother.1]
    exact and_congr_right fun hcondition ↦
      ih (hstep s input hinit hother.1 hcondition) hother.2

/-- The exact rule for the state at the end of a run: where, under the invariant, a step leads to
the property if and only if it starts from it and meets the condition, the property holds after a
run if and only if it did before and every step meets the condition. -/
theorem property_run_iff {s : σ} {inputs : List ι} (hstep : ∀ s input, inv s → inv (step s input))
    (hiff : ∀ s input, inv s → (property (step s input) ↔ property s ∧ condition s input))
    (hinit : inv s) :
    property (run step s inputs) ↔ property s ∧ Meets step condition s inputs := by
  induction inputs generalizing s with
  | nil => simp
  | cons input rest ih =>
    rw [run_cons, ih (hstep s input hinit), hiff s input hinit, and_assoc, meets_cons]

/-- The exact rule for a property that some inputs break and others mend: where, under the
invariant, an input that does neither leaves the property as it is, the property holds after a run
if and only if the last word was not a break. -/
theorem property_run_iff_mended {breaks : σ → ι → Prop} {mends : ι → Prop} {s : σ}
    {inputs : List ι} (hstep : ∀ s input, inv s → inv (step s input))
    (hbreaks : ∀ s input, inv s → breaks s input → ¬ property (step s input))
    (hmends : ∀ s input, inv s → mends input → property (step s input))
    (hother : ∀ s input, inv s → ¬ breaks s input → ¬ mends input →
      (property (step s input) ↔ property s)) (hinit : inv s) :
    property (run step s inputs) ↔
      Mended step breaks mends s inputs ∧ (property s ∨ ∃ input ∈ inputs, mends input) := by
  induction inputs generalizing s with
  | nil => simp [Mended]
  | cons input rest ih =>
    rw [run_cons, ih (hstep s input hinit), Mended, List.exists_mem_cons_iff]
    by_cases hbreak : breaks s input
    · have hbroken := hbreaks s input hinit hbreak
      have hnot : ¬ mends input := fun hmend ↦ hbroken (hmends s input hinit hmend)
      simp only [hbreak, hbroken, hnot, true_imp_iff, false_or]
      exact ⟨fun h ↦ ⟨⟨h.2, h.1⟩, Or.inr h.2⟩, fun h ↦ ⟨h.1.2, h.1.1⟩⟩
    · by_cases hmend : mends input
      · simp [hbreak, hmend, hmends s input hinit hmend]
      · simp [hbreak, hmend, hother s input hinit hbreak hmend]

/-- The latch rule: where an input that decides a value does so for good, the value at the end of a
run is the one there was, or that of the first input that decides one. -/
theorem latch_run {β : Type*} {value : σ → Option β} {decided : ι → Option β} {s : σ}
    {inputs : List ι}
    (hstep : ∀ s input, other s input → value (step s input) = (value s).or (decided input))
    (hother : Meets step other s inputs) :
    value (run step s inputs) = (value s).or (inputs.findSome? decided) := by
  induction inputs generalizing s with
  | nil => rw [run_nil, List.findSome?_nil, Option.or_none]
  | cons input rest ih =>
    rw [run_cons, ih hother.2, hstep s input hother.1, Option.or_assoc, List.findSome?_cons]
    cases decided input with
    | none => rfl
    | some decision => rfl

theorem Throughout.mono {s : σ} {inputs : List ι} (himp : ∀ s, inv s → property s)
    (h : Throughout step inv s inputs) : Throughout step property s inputs :=
  fun taken hpart ↦ himp _ (h taken hpart)

theorem throughout_cons {s : σ} {input : ι} {rest : List ι} :
    Throughout step property s (input :: rest) ↔
      property s ∧ Throughout step property (step s input) rest := by
  constructor
  · intro h
    exact ⟨h [] (List.nil_prefix), fun taken hpart ↦
      h (input :: taken) (List.cons_prefix_cons.mpr ⟨rfl, hpart⟩)⟩
  · rintro ⟨hfirst, hrest⟩ taken hpart
    cases taken with
    | nil => exact hfirst
    | cons next taken =>
      obtain ⟨rfl, htaken⟩ := List.cons_prefix_cons.mp hpart
      exact hrest taken htaken

/-- The exact rule. Assumes: the invariant implies the property; a step that meets the condition
keeps the invariant; and a step that breaks the condition leads to a state without the property.
Along runs whose steps are all possible in the environment (`other`), the property holds in every
state if and only if every step meets the condition. -/
theorem throughout_iff_meets {s : σ} {inputs : List ι} (hinv : ∀ s, inv s → property s)
    (hgood : ∀ s input, inv s → other s input → condition s input → inv (step s input))
    (hbad : ∀ s input, inv s → other s input → ¬ condition s input → ¬ property (step s input))
    (hinit : inv s) (hother : Meets step other s inputs) :
    Throughout step property s inputs ↔ Meets step condition s inputs := by
  constructor
  · induction inputs generalizing s with
    | nil => exact fun _ ↦ trivial
    | cons input rest ih =>
      intro h
      obtain ⟨-, hrest⟩ := throughout_cons.mp h
      have hcond : condition s input := by
        by_contra hbroken
        exact hbad s input hinit hother.1 hbroken (hrest [] List.nil_prefix)
      exact ⟨hcond, ih (hgood s input hinit hother.1 hcond) hother.2 hrest⟩
  · intro h
    have hkept : Throughout step inv s inputs :=
      throughout_of_meets (fun s input hs hboth ↦ hgood s input hs hboth.1 hboth.2) hinit
        (hother.and h)
    exact hkept.mono hinv

end UvcRtmpStream.Foundations
