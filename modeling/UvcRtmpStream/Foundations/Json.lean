import Mathlib.Data.List.Basic
import Mathlib.Tactic.IntervalCases

/-!
# Compact JSON texts

Values made of natural numbers, strings, arrays and objects, the text of a value without white space
(`Json.print`), and a reader of such texts (`readJson`). A writer puts a text together piece by
piece, and has to know for each piece whether a comma or a colon goes in front of it: it keeps a
stack of levels, each with the number of pieces it has (`Writer`). `Writer.put_eq` says that the
pieces of a value make its text, and `readJson_print` that the text is read back.

A string is between quotation marks. Within it, quotation marks, backslashes and control characters
are escaped.
-/

set_option autoImplicit false
set_option relaxedAutoImplicit false

namespace UvcRtmpStream.Foundations

/-- A JSON value. The names of the members of an object are in the order of the text. -/
inductive Json
  | number (value : ℕ)
  | text (value : List Char)
  | array (values : List Json)
  | object (members : List (List Char × Json))

namespace Json

/-! ### Strings -/

/-- The digits of a character number. -/
def hexDigits : List Char :=
  ['0', '1', '2', '3', '4', '5', '6', '7', '8', '9', 'A', 'B', 'C', 'D', 'E', 'F']

/-- The characters with an escape of two characters, each with the second one. -/
def shortEscapes : List (Char × Char) :=
  [('"', '"'), ('\\', '\\'), (Char.ofNat 8, 'b'), (Char.ofNat 9, 't'), (Char.ofNat 10, 'n'),
    (Char.ofNat 12, 'f'), (Char.ofNat 13, 'r')]

/-- A character within a string. -/
def escape (c : Char) : List Char :=
  match shortEscapes.lookup c with
  | some short => ['\\', short]
  | none =>
    if c.toNat < 32 then
      ['\\', 'u', '0', '0', hexDigits.getD (c.toNat / 16) '0', hexDigits.getD (c.toNat % 16) '0']
    else [c]

/-- A string in quotation marks. -/
def quoted (value : List Char) : List Char := '"' :: value.flatMap escape ++ ['"']

/-- The character that an escape of two characters stands for. -/
def unescape (short : Char) : Option Char :=
  (shortEscapes.find? fun escaped ↦ escaped.2 = short).map Prod.fst

/-- A string from behind its first quotation mark to its last, and what follows it. -/
def readString : List Char → Option (List Char × List Char)
  | [] => none
  | '"' :: rest => some ([], rest)
  | '\\' :: 'u' :: first :: second :: third :: fourth :: rest =>
    let digits := [first, second, third, fourth].map fun digit ↦ hexDigits.idxOf digit
    if ∀ digit ∈ digits, digit < 16 then
      (readString rest).map fun read ↦
        (Char.ofNat (digits.foldl (16 * · + ·) 0) :: read.1, read.2)
    else none
  | '\\' :: short :: rest =>
    match unescape short with
    | some c => (readString rest).map fun read ↦ (c :: read.1, read.2)
    | none => none
  | c :: rest => (readString rest).map fun read ↦ (c :: read.1, read.2)

theorem readString_escape (c : Char) (input : List Char) :
    readString (escape c ++ input) =
      (readString input).map fun read ↦ (c :: read.1, read.2) := by
  by_cases hcontrol : c.toNat < 32
  · -- the control characters, one by one
    have hc : c = Char.ofNat c.toNat := (Char.ofNat_toNat c).symm
    generalize c.toNat = code at hc hcontrol
    subst hc
    interval_cases code <;> rfl
  · by_cases hquote : c = '"'
    · subst hquote
      rfl
    · by_cases hbackslash : c = '\\'
      · subst hbackslash
        rfl
      · have hplain : escape c = [c] := by
          have hlookup : shortEscapes.lookup c = none := by
            rw [List.lookup_eq_none_iff]
            intro escaped hescaped
            simp only [shortEscapes, List.mem_cons, List.not_mem_nil, or_false] at hescaped
            rw [bne_iff_ne]
            rintro rfl
            rcases hescaped with rfl | rfl | rfl | rfl | rfl | rfl | rfl <;>
              first
                | exact hquote rfl
                | exact hbackslash rfl
                | exact hcontrol (by decide)
          simp [escape, hlookup, hcontrol]
        rw [hplain, List.singleton_append, readString]
        · exact hquote
        · rintro _ _ _ _ _ rfl
          exact absurd rfl hbackslash
        · rintro _ _ rfl
          exact absurd rfl hbackslash

/-- A string is read back. -/
theorem readString_flatMap (value rest : List Char) :
    readString (value.flatMap escape ++ '"' :: rest) = some (value, rest) := by
  induction value with
  | nil => rfl
  | cons c value ih =>
    rw [List.flatMap_cons, List.append_assoc, readString_escape, ih, Option.map_some]

/-! ### Texts -/

mutual

/-- The text of a value. -/
def print : Json → List Char
  | .number value => Nat.toDigits 10 value
  | .text value => quoted value
  | .array values => '[' :: printValues values ++ [']']
  | .object members => '{' :: printMembers members ++ ['}']

def printValues : List Json → List Char
  | [] => []
  | [value] => value.print
  | value :: values => value.print ++ ',' :: printValues values

def printMembers : List (List Char × Json) → List Char
  | [] => []
  | [(name, value)] => quoted name ++ ':' :: value.print
  | (name, value) :: members => quoted name ++ ':' :: value.print ++ ',' :: printMembers members

end

/-- The member of that name, the last one of them. -/
def get (name : List Char) : Json → Option Json
  | .object members => members.reverse.lookup name
  | .number _ | .text _ | .array _ => none

mutual

/-- A value at the front of a text, and what follows it. Each call of the three functions takes a
unit of fuel. -/
def readValue : ℕ → List Char → Option (Json × List Char)
  | 0, _ => none
  | _ + 1, '"' :: rest => (readString rest).map fun read ↦ (.text read.1, read.2)
  | _ + 1, '[' :: ']' :: rest => some (.array [], rest)
  | fuel + 1, '[' :: rest => (readValues fuel rest).map fun read ↦ (.array read.1, read.2)
  | _ + 1, '{' :: '}' :: rest => some (.object [], rest)
  | fuel + 1, '{' :: rest => (readMembers fuel rest).map fun read ↦ (.object read.1, read.2)
  | _ + 1, input =>
    if input.head?.any Char.isDigit then
      some (.number (Nat.ofDigitChars 10 (input.takeWhile Char.isDigit) 0),
        input.dropWhile Char.isDigit)
    else none

def readValues : ℕ → List Char → Option (List Json × List Char)
  | 0, _ => none
  | fuel + 1, input =>
    match readValue fuel input with
    | some (value, ',' :: rest) =>
      (readValues fuel rest).map fun read ↦ (value :: read.1, read.2)
    | some (value, ']' :: rest) => some ([value], rest)
    | _ => none

def readMembers : ℕ → List Char → Option (List (List Char × Json) × List Char)
  | fuel + 1, '"' :: input =>
    match readString input with
    | some (name, ':' :: rest) =>
      match readValue fuel rest with
      | some (value, ',' :: rest) =>
        (readMembers fuel rest).map fun read ↦ ((name, value) :: read.1, read.2)
      | some (value, '}' :: rest) => some ([(name, value)], rest)
      | _ => none
    | _ => none
  | _, _ => none

end

/-- The value of a whole text. -/
def readJson (input : List Char) : Option Json :=
  match readValue (2 * input.length) input with
  | some (value, []) => some value
  | _ => none

/-! ### Reading back -/

/-- No text of a value starts with a closing bracket, a comma or a colon. -/
def StartsValue (c : Char) : Prop := c = '"' ∨ c = '[' ∨ c = '{' ∨ c.isDigit = true

theorem print_eq_cons (value : Json) :
    ∃ c later, value.print = c :: later ∧ StartsValue c := by
  cases value with
  | number value =>
    cases hdigits : Nat.toDigits 10 value with
    | nil => exact absurd hdigits Nat.toDigits_ne_nil
    | cons c later =>
      have hmem : c ∈ Nat.toDigits 10 value := by rw [hdigits]; exact List.mem_cons_self
      exact ⟨c, later, by rw [print, hdigits],
        Or.inr (Or.inr (Or.inr (Nat.isDigit_of_mem_toDigits (by decide) (by decide) hmem)))⟩
  | text value => exact ⟨_, _, by rw [print, quoted, List.cons_append], Or.inl rfl⟩
  | array values => exact ⟨_, _, by rw [print, List.cons_append], Or.inr (Or.inl rfl)⟩
  | object members =>
    exact ⟨_, _, by rw [print, List.cons_append], Or.inr (Or.inr (Or.inl rfl))⟩

theorem readValue_number (fuel value : ℕ) {rest : List Char}
    (hrest : rest.head?.all fun c ↦ !c.isDigit) :
    readValue (fuel + 1) (Nat.toDigits 10 value ++ rest) = some (.number value, rest) := by
  have hdigits : ∀ c ∈ Nat.toDigits 10 value, c.isDigit = true :=
    fun c hc ↦ Nat.isDigit_of_mem_toDigits (by decide) (by decide) hc
  have htake : (Nat.toDigits 10 value ++ rest).takeWhile Char.isDigit = Nat.toDigits 10 value := by
    rw [List.takeWhile_append_of_pos hdigits]
    cases rest with
    | nil => simp
    | cons c rest => simp_all
  have hdrop : (Nat.toDigits 10 value ++ rest).dropWhile Char.isDigit = rest := by
    rw [List.dropWhile_append_of_pos hdigits]
    cases rest with
    | nil => rfl
    | cons c rest => simp_all
  cases hdigits' : Nat.toDigits 10 value with
  | nil => exact absurd hdigits' Nat.toDigits_ne_nil
  | cons c later =>
    have hc : c.isDigit = true := hdigits c (by rw [hdigits']; exact List.mem_cons_self)
    rw [hdigits'] at htake hdrop
    rw [List.cons_append] at htake hdrop ⊢
    rw [readValue]
    · rw [htake, hdrop, ← hdigits', Nat.ofDigitChars_ten_toDigits]
      simp [hc]
    all_goals
      intro _ hinput
      obtain ⟨rfl, -⟩ := List.cons.inj hinput
      exact absurd hc (by decide)

/-- What follows a value does not go on with it. -/
def Ends (rest : List Char) : Prop := rest.head?.all fun c ↦ !c.isDigit

theorem ends_cons {c : Char} (hc : c.isDigit = false) (rest : List Char) : Ends (c :: rest) := by
  simp [Ends, hc]

theorem printValues_cons (value : Json) {values : List Json} (hne : values ≠ []) :
    printValues (value :: values) = value.print ++ ',' :: printValues values := by
  cases values with
  | nil => exact absurd rfl hne
  | cons next values => rfl

theorem printMembers_cons (name : List Char) (value : Json)
    {members : List (List Char × Json)} (hne : members ≠ []) :
    printMembers ((name, value) :: members) =
      quoted name ++ ':' :: value.print ++ ',' :: printMembers members := by
  cases members with
  | nil => exact absurd rfl hne
  | cons next members => rfl

theorem readValue_array (fuel : ℕ) (value : Json) (values : List Json) (rest : List Char) :
    readValue (fuel + 1) ('[' :: (printValues (value :: values) ++ rest)) =
      (readValues fuel (printValues (value :: values) ++ rest)).map fun read ↦
        (.array read.1, read.2) := by
  obtain ⟨c, later, hprint, hc⟩ := print_eq_cons value
  rw [readValue]
  intro bracket hinput
  have hfront : ∃ more, printValues (value :: values) = c :: more := by
    cases values with
    | nil => exact ⟨later, hprint⟩
    | cons next values =>
      have hvalues := printValues_cons value (List.cons_ne_nil next values)
      exact ⟨later ++ ',' :: printValues (next :: values), by rw [hvalues, hprint]; rfl⟩
  obtain ⟨more, hmore⟩ := hfront
  rw [hmore] at hinput
  obtain ⟨rfl, -⟩ := List.cons.inj hinput
  rcases hc with h | h | h | h <;> exact absurd h (by decide)

theorem readValue_object (fuel : ℕ) (member : List Char × Json)
    (members : List (List Char × Json)) (rest : List Char) :
    readValue (fuel + 1) ('{' :: (printMembers (member :: members) ++ rest)) =
      (readMembers fuel (printMembers (member :: members) ++ rest)).map fun read ↦
        (.object read.1, read.2) := by
  rw [readValue]
  intro bracket hinput
  have hfront : ∃ more, printMembers (member :: members) = '"' :: more := by
    obtain ⟨name, value⟩ := member
    cases members with
    | nil => exact ⟨_, rfl⟩
    | cons next members => exact ⟨_, rfl⟩
  obtain ⟨more, hmore⟩ := hfront
  rw [hmore] at hinput
  obtain ⟨hc, -⟩ := List.cons.inj hinput
  exact absurd hc (by decide)

/-- One step of `readMembers`, on a text that starts with a name. -/
theorem readMembers_name (fuel : ℕ) (name : List Char) (input : List Char) :
    readMembers (fuel + 1) (quoted name ++ ':' :: input) =
      match readValue fuel input with
      | some (value, ',' :: rest) =>
        (readMembers fuel rest).map fun read ↦ ((name, value) :: read.1, read.2)
      | some (value, '}' :: rest) => some ([(name, value)], rest)
      | _ => none := by
  rw [quoted, List.append_assoc, List.cons_append, List.singleton_append, readMembers,
    readString_flatMap]
  rfl

mutual

theorem readValue_print (value : Json) (fuel : ℕ) {rest : List Char} (hrest : Ends rest)
    (hfuel : 2 * value.print.length ≤ fuel) :
    readValue fuel (value.print ++ rest) = some (value, rest) := by
  obtain ⟨c, later, hprint, -⟩ := print_eq_cons value
  obtain ⟨fuel, rfl⟩ : ∃ less, fuel = less + 1 := by
    rw [hprint, List.length_cons] at hfuel
    exact ⟨fuel - 1, by omega⟩
  match value with
  | .number value => exact readValue_number fuel value hrest
  | .text value =>
    rw [print, quoted, List.append_assoc, List.cons_append, readValue, List.singleton_append,
      readString_flatMap]
    rfl
  | .array [] => rfl
  | .array (value :: values) =>
    rw [print, List.length_append, List.length_cons, List.length_singleton] at hfuel
    have hread := readValues_print (value :: values) (List.cons_ne_nil _ _) fuel rest (by omega)
    rw [print, List.append_assoc, List.cons_append, List.singleton_append, readValue_array, hread]
    rfl
  | .object [] => rfl
  | .object (member :: members) =>
    rw [print, List.length_append, List.length_cons, List.length_singleton] at hfuel
    have hread := readMembers_print (member :: members) (List.cons_ne_nil _ _) fuel rest (by omega)
    rw [print, List.append_assoc, List.cons_append, List.singleton_append, readValue_object, hread]
    rfl

theorem readValues_print (values : List Json) (hne : values ≠ []) (fuel : ℕ) (rest : List Char)
    (hfuel : 2 * (printValues values).length + 1 ≤ fuel) :
    readValues fuel (printValues values ++ ']' :: rest) = some (values, rest) := by
  obtain ⟨fuel, rfl⟩ : ∃ less, fuel = less + 1 := ⟨fuel - 1, by omega⟩
  match values, hne with
  | [value], _ =>
    have hread := readValue_print value fuel (ends_cons (c := ']') rfl rest) (by
      rw [printValues] at hfuel
      omega)
    rw [printValues, readValues, hread]
    rfl
  | value :: next :: values, _ =>
    have hnext := List.cons_ne_nil next values
    rw [printValues_cons value hnext, List.length_append, List.length_cons] at hfuel
    have hread := readValue_print value fuel
      (ends_cons (c := ',') rfl (printValues (next :: values) ++ ']' :: rest)) (by omega)
    have hmore := readValues_print (next :: values) hnext fuel rest (by omega)
    rw [printValues_cons value hnext, List.append_assoc, List.cons_append, readValues, hread]
    simp only [hmore, Option.map_some]

theorem readMembers_print (members : List (List Char × Json)) (hne : members ≠ []) (fuel : ℕ)
    (rest : List Char) (hfuel : 2 * (printMembers members).length + 1 ≤ fuel) :
    readMembers fuel (printMembers members ++ '}' :: rest) = some (members, rest) := by
  obtain ⟨fuel, rfl⟩ : ∃ less, fuel = less + 1 := ⟨fuel - 1, by omega⟩
  match members, hne with
  | [(name, value)], _ =>
    have hread := readValue_print value fuel (ends_cons (c := '}') rfl rest) (by
      rw [printMembers, List.length_append, List.length_cons] at hfuel
      omega)
    rw [printMembers, List.append_assoc, List.cons_append, readMembers_name, hread]
    rfl
  | (name, value) :: next :: members, _ =>
    have hnext := List.cons_ne_nil next members
    rw [printMembers_cons name value hnext, List.length_append, List.length_append,
      List.length_cons, List.length_cons] at hfuel
    have hread := readValue_print value fuel
      (ends_cons (c := ',') rfl (printMembers (next :: members) ++ '}' :: rest)) (by omega)
    have hmore := readMembers_print (next :: members) hnext fuel rest (by omega)
    rw [printMembers_cons name value hnext, List.append_assoc, List.append_assoc,
      List.cons_append, List.cons_append, readMembers_name, hread]
    simp only [hmore, Option.map_some]

end

/-- The text of a value is read back. -/
theorem readJson_print (value : Json) : readJson value.print = some value := by
  have hread := readValue_print value (2 * value.print.length) (show Ends [] from rfl) le_rfl
  rw [List.append_nil] at hread
  rw [readJson, hread]

end Json

/-! ### The writer -/

/-- A level: an array or an object, and the number of its pieces so far, in an object the names and
the values. -/
structure Level where
  inArray : Bool
  valueCount : ℕ

/-- What was written, and the levels that are open, the innermost first. -/
structure Writer where
  output : List Char
  levels : List Level

namespace Writer

/-- A writer that has written nothing. -/
def new : Writer := ⟨[], []⟩

/-- What goes in front of the next piece of a level. -/
def separator (level : Level) : List Char :=
  if level.valueCount = 0 then []
  else if level.inArray ∨ level.valueCount % 2 = 0 then [','] else [':']

/-- A piece is counted, and gets its separator. -/
def startPiece (writer : Writer) : Writer :=
  match writer.levels with
  | [] => writer
  | level :: levels =>
    ⟨writer.output ++ separator level, { level with valueCount := level.valueCount + 1 } :: levels⟩

def append (writer : Writer) (piece : List Char) : Writer :=
  { writer with output := writer.output ++ piece }

def number (writer : Writer) (value : ℕ) : Writer :=
  writer.startPiece.append (Nat.toDigits 10 value)

def text (writer : Writer) (value : List Char) : Writer :=
  writer.startPiece.append (Json.quoted value)

def start (writer : Writer) (inArray : Bool) (bracket : Char) : Writer :=
  let writer := writer.startPiece.append [bracket]
  { writer with levels := ⟨inArray, 0⟩ :: writer.levels }

def finish (writer : Writer) (bracket : Char) : Writer :=
  { writer with levels := writer.levels.tail }.append [bracket]

def startObject (writer : Writer) : Writer := writer.start false '{'

def endObject (writer : Writer) : Writer := writer.finish '}'

def startArray (writer : Writer) : Writer := writer.start true '['

def endArray (writer : Writer) : Writer := writer.finish ']'

mutual

/-- The pieces of a value. -/
def put (writer : Writer) : Json → Writer
  | .number value => writer.number value
  | .text value => writer.text value
  | .array values => (putValues writer.startArray values).endArray
  | .object members => (putMembers writer.startObject members).endObject

def putValues (writer : Writer) : List Json → Writer
  | [] => writer
  | value :: values => putValues (writer.put value) values

def putMembers (writer : Writer) : List (List Char × Json) → Writer
  | [] => writer
  | (name, value) :: members => putMembers ((writer.text name).put value) members

end

theorem start_eq (writer : Writer) (inArray : Bool) (bracket : Char) :
    writer.start inArray bracket =
      ⟨writer.startPiece.output ++ [bracket], ⟨inArray, 0⟩ :: writer.startPiece.levels⟩ := rfl

mutual

theorem put_eq (writer : Writer) (value : Json) :
    writer.put value = writer.startPiece.append value.print := by
  match value with
  | .number value => rfl
  | .text value => rfl
  | .array values =>
    have hvalues := putValues_eq (writer.startPiece.output ++ ['[']) 0 writer.startPiece.levels
      values
    rw [put, startArray, start_eq, hvalues]
    by_cases hnil : values = []
    · subst hnil
      simp [endArray, finish, append, Json.print, Json.printValues]
    · simp [endArray, finish, append, Json.print, separator, hnil]
  | .object members =>
    have hmembers := putMembers_eq (writer.startPiece.output ++ ['{']) 0 writer.startPiece.levels
      members
    rw [put, startObject, start_eq, hmembers]
    by_cases hnil : members = []
    · subst hnil
      simp [endObject, finish, append, Json.print, Json.printMembers]
    · simp [endObject, finish, append, Json.print, separator, hnil]

theorem putValues_eq (output : List Char) (count : ℕ) (levels : List Level)
    (values : List Json) :
    putValues ⟨output, ⟨true, count⟩ :: levels⟩ values =
      ⟨output ++ if values = [] then [] else separator ⟨true, count⟩ ++ Json.printValues values,
        ⟨true, count + values.length⟩ :: levels⟩ := by
  match values with
  | [] => simp [putValues]
  | [value] =>
    rw [putValues, put_eq, putValues]
    simp [startPiece, append, Json.printValues]
  | value :: next :: values =>
    have hmore := putValues_eq (output ++ separator ⟨true, count⟩ ++ value.print) (count + 1) levels
      (next :: values)
    have hcomma : separator ⟨true, count + 1⟩ = [','] := by simp [separator]
    rw [putValues, put_eq]
    simp only [startPiece, append]
    rw [hmore, Json.printValues_cons value (List.cons_ne_nil next values), hcomma]
    simp [add_assoc, add_comm]

theorem putMembers_eq (output : List Char) (count : ℕ) (levels : List Level)
    (members : List (List Char × Json)) :
    putMembers ⟨output, ⟨false, 2 * count⟩ :: levels⟩ members =
      ⟨output ++ if members = [] then [] else
          separator ⟨false, 2 * count⟩ ++ Json.printMembers members,
        ⟨false, 2 * (count + members.length)⟩ :: levels⟩ := by
  have hcolon : separator ⟨false, 2 * count + 1⟩ = [':'] := by simp [separator]
  match members with
  | [] => simp [putMembers]
  | [(name, value)] =>
    rw [putMembers, put_eq, putMembers]
    simp [startPiece, append, text, Json.printMembers, hcolon, mul_add]
  | (name, value) :: next :: members =>
    have hmore := putMembers_eq
      (output ++ separator ⟨false, 2 * count⟩ ++ Json.quoted name ++ [':'] ++ value.print)
      (count + 1) levels (next :: members)
    have hcomma : separator ⟨false, 2 * (count + 1)⟩ = [','] := by
      simp [separator]
    rw [putMembers, put_eq]
    simp only [startPiece, append, text, hcolon]
    rw [mul_add, mul_one] at hmore hcomma
    rw [hmore, Json.printMembers_cons name value (List.cons_ne_nil next members), hcomma]
    simp [mul_add, add_assoc, add_comm]

end

/-- The pieces of a value, of a writer that has written nothing, make the text of the value. -/
theorem output_put (value : Json) : (new.put value).output = value.print := by
  rw [put_eq]
  rfl

end Writer

end UvcRtmpStream.Foundations
