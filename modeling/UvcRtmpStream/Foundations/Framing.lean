import Mathlib.Data.List.Basic

/-!
# Streams of self-delimiting records

A file format that appends records one after another and reads them back in a loop. A `Framing` is
a writer of one record and a reader of one record that may fail: a record is never empty, what was
written is read back with the rest of the input untouched, and what was read is what a writer would
have written. `readAll` is the reading loop. It delivers records until the input is used up or the
reader fails, and says how it ended.

`readAll_encodeAll` is the round trip, `readAll_encodeAll_append` the same in front of a tail that
is not a record, and `readAll_sound` says that on any input whatever was delivered is the decoding
of a prefix, and the loop stopped where no further record could be read. The length of the input is
fuel enough (`readAll_congr_fuel`). `decoded` is what the loop delivers with it, and `leftover` what
it leaves.
-/

set_option autoImplicit false
set_option relaxedAutoImplicit false

namespace UvcRtmpStream.Foundations

/-- A record format over an alphabet `β`: writing one record of type `ρ`, and reading one record
off the front of an input, which fails with an error of type `ε`. -/
structure Framing (β ρ ε : Type*) where
  encode : ρ → List β
  parse : List β → Except ε (ρ × List β)
  encode_ne_nil : ∀ record, encode record ≠ []
  parse_encode : ∀ record rest, parse (encode record ++ rest) = .ok (record, rest)
  encode_of_parse : ∀ input record rest,
    parse input = .ok (record, rest) → input = encode record ++ rest

namespace Framing

variable {β ρ ε : Type*} (framing : Framing β ρ ε)

/-- The records written one after another. -/
def encodeAll (records : List ρ) : List β := records.flatMap framing.encode

/-- The reading loop, bounded by `fuel` records: the records delivered, and the error that ended the
loop, if one did. -/
def readAll : ℕ → List β → List ρ × Option ε
  | 0, _ => ([], none)
  | _ + 1, [] => ([], none)
  | fuel + 1, symbol :: input =>
    match framing.parse (symbol :: input) with
    | .error error => ([], some error)
    | .ok (record, rest) =>
      let (records, ending) := readAll fuel rest
      (record :: records, ending)

@[simp] theorem encodeAll_nil : framing.encodeAll [] = [] := rfl

@[simp] theorem encodeAll_cons (record : ρ) (records : List ρ) :
    framing.encodeAll (record :: records) = framing.encode record ++ framing.encodeAll records :=
  rfl

theorem encodeAll_append (first second : List ρ) :
    framing.encodeAll (first ++ second) = framing.encodeAll first ++ framing.encodeAll second := by
  simp [encodeAll]

/-- One turn of the loop on an input that starts with a record. -/
theorem readAll_encode_append (fuel : ℕ) (record : ρ) (rest : List β) :
    framing.readAll (fuel + 1) (framing.encode record ++ rest) =
      (record :: (framing.readAll fuel rest).1, (framing.readAll fuel rest).2) := by
  have hparse := framing.parse_encode record rest
  cases hinput : framing.encode record ++ rest with
  | nil => exact absurd (List.append_eq_nil_iff.mp hinput).1 (framing.encode_ne_nil record)
  | cons symbol input =>
    rw [hinput] at hparse
    simp only [readAll, hparse]

/-- Records in front of a tail: the loop delivers them and then reads the tail. -/
theorem readAll_encodeAll_append (fuel : ℕ) (records : List ρ) (tail : List β) :
    framing.readAll (records.length + fuel) (framing.encodeAll records ++ tail) =
      (records ++ (framing.readAll fuel tail).1, (framing.readAll fuel tail).2) := by
  induction records with
  | nil => simp
  | cons record records ih =>
    have hfuel : (record :: records).length + fuel = records.length + fuel + 1 := by
      simp only [List.length_cons]
      omega
    rw [hfuel, encodeAll_cons, List.append_assoc, readAll_encode_append, ih]
    rfl

theorem length_le_length_encodeAll (records : List ρ) :
    records.length ≤ (framing.encodeAll records).length := by
  induction records with
  | nil => simp
  | cons record records ih =>
    have hpos := List.length_pos_of_ne_nil (framing.encode_ne_nil record)
    simp only [encodeAll_cons, List.length_append, List.length_cons]
    omega

/-- With no symbol left the loop ends without an error, whatever the fuel. -/
@[simp] theorem readAll_nil (fuel : ℕ) : framing.readAll fuel [] = ([], none) := by
  cases fuel <;> rfl

/-- The round trip: the loop delivers exactly the records that were written and reaches the end of
the input. The length of the input is fuel enough. -/
theorem readAll_encodeAll (records : List ρ) :
    framing.readAll (framing.encodeAll records).length (framing.encodeAll records) =
      (records, none) := by
  obtain ⟨fuel, hfuel⟩ := Nat.exists_eq_add_of_le (framing.length_le_length_encodeAll records)
  have h := framing.readAll_encodeAll_append fuel records []
  simpa [hfuel] using h

/-- Reading a record uses up at least one symbol. -/
theorem length_lt_of_parse {input rest : List β} {record : ρ}
    (h : framing.parse input = .ok (record, rest)) : rest.length < input.length := by
  have hpos := List.length_pos_of_ne_nil (framing.encode_ne_nil record)
  rw [framing.encode_of_parse input record rest h, List.length_append]
  omega

/-- On any input, what the loop delivers is the decoding of a prefix. It stops at the end of the
input or where no record can be read. Assumes: fuel for the whole input. -/
theorem readAll_sound (fuel : ℕ) (input : List β) (hfuel : input.length ≤ fuel) :
    ∃ rest, input = framing.encodeAll (framing.readAll fuel input).1 ++ rest ∧
      match (framing.readAll fuel input).2 with
      | none => rest = []
      | some error => framing.parse rest = .error error := by
  induction fuel generalizing input with
  | zero =>
    have hnil : input = [] := List.eq_nil_of_length_eq_zero (by omega)
    exact ⟨[], by simp [hnil], by simp [hnil]⟩
  | succ fuel ih =>
    cases input with
    | nil => exact ⟨[], by simp, by simp⟩
    | cons symbol input =>
      cases hparse : framing.parse (symbol :: input) with
      | error error => exact ⟨symbol :: input, by simp [readAll, hparse], by simp [readAll, hparse]⟩
      | ok pair =>
        obtain ⟨record, rest⟩ := pair
        have hinput := framing.encode_of_parse _ _ _ hparse
        have hlength : rest.length ≤ fuel :=
          Nat.le_of_lt_succ (Nat.lt_of_lt_of_le (framing.length_lt_of_parse hparse) hfuel)
        obtain ⟨tail, hrest, hending⟩ := ih rest hlength
        refine ⟨tail, ?_, ?_⟩
        · simp only [readAll, hparse, encodeAll_cons, List.append_assoc]
          rw [← hrest]
          exact hinput
        · simpa only [readAll, hparse] using hending

/-- The length of the input is fuel enough: more of it makes no difference. -/
theorem readAll_congr_fuel {fuel fuel' : ℕ} {input : List β} (hfuel : input.length ≤ fuel)
    (hfuel' : input.length ≤ fuel') : framing.readAll fuel input = framing.readAll fuel' input := by
  induction fuel generalizing fuel' input with
  | zero => rw [List.eq_nil_of_length_eq_zero (Nat.le_zero.mp hfuel), readAll_nil, readAll_nil]
  | succ fuel ih =>
    cases input with
    | nil => rw [readAll_nil, readAll_nil]
    | cons symbol input =>
      cases fuel' with
      | zero => exact absurd hfuel' (Nat.not_succ_le_zero _)
      | succ fuel' =>
        simp only [readAll]
        cases hparse : framing.parse (symbol :: input) with
        | error error => rfl
        | ok pair =>
          obtain ⟨record, rest⟩ := pair
          have hshorter := framing.length_lt_of_parse hparse
          have hrest := @ih fuel' rest (by omega) (by omega)
          simp only [hrest]

/-- Records in front of a tail, with fuel for both. -/
theorem readAll_length_encodeAll_append (records : List ρ) (tail : List β) :
    framing.readAll (framing.encodeAll records ++ tail).length (framing.encodeAll records ++ tail) =
      (records ++ (framing.readAll tail.length tail).1, (framing.readAll tail.length tail).2) := by
  have hfuel : (framing.encodeAll records ++ tail).length ≤ records.length +
      (framing.encodeAll records ++ tail).length := Nat.le_add_left _ _
  have htail : tail.length ≤ (framing.encodeAll records ++ tail).length := by
    rw [List.length_append]
    exact Nat.le_add_left _ _
  rw [framing.readAll_congr_fuel (Nat.le_refl _) hfuel, readAll_encodeAll_append,
    framing.readAll_congr_fuel htail (Nat.le_refl _)]

/-- A failed read ends the loop. -/
theorem readAll_of_parse_error {input : List β} (hne : input ≠ []) {error : ε}
    (h : framing.parse input = .error error) :
    framing.readAll input.length input = ([], some error) := by
  cases input with
  | nil => exact absurd rfl hne
  | cons symbol input => simp only [List.length_cons, readAll, h]

/-! ### What is delivered and what is left -/

/-- The records that the loop delivers from an input. -/
def decoded (input : List β) : List ρ := (framing.readAll input.length input).1

/-- What the loop leaves of an input. -/
def leftover (input : List β) : List β :=
  input.drop (framing.encodeAll (framing.decoded input)).length

/-- An input is its records written out, and what is left. -/
theorem encodeAll_decoded_append_leftover (input : List β) :
    framing.encodeAll (framing.decoded input) ++ framing.leftover input = input := by
  obtain ⟨rest, hinput, -⟩ := framing.readAll_sound input.length input (Nat.le_refl _)
  have hleft : framing.leftover input = rest :=
    (congrArg (List.drop _) hinput).trans List.drop_left
  rw [hleft]
  exact hinput.symm

/-- No record can be read from what is left. -/
theorem parse_leftover (input : List β) :
    framing.leftover input = [] ∨
      ∃ error, framing.parse (framing.leftover input) = .error error := by
  obtain ⟨rest, hinput, hending⟩ := framing.readAll_sound input.length input (Nat.le_refl _)
  have hleft : framing.leftover input = rest :=
    List.append_cancel_left ((framing.encodeAll_decoded_append_leftover input).trans hinput)
  rw [hleft]
  cases hstop : (framing.readAll input.length input).2 with
  | none =>
    rw [hstop] at hending
    exact Or.inl hending
  | some error =>
    rw [hstop] at hending
    exact Or.inr ⟨error, hending⟩

/-- Records in front of a tail are delivered, and then those of the tail. -/
theorem decoded_encodeAll_append (records : List ρ) (tail : List β) :
    framing.decoded (framing.encodeAll records ++ tail) = records ++ framing.decoded tail :=
  congrArg Prod.fst (framing.readAll_length_encodeAll_append records tail)

end Framing

end UvcRtmpStream.Foundations
