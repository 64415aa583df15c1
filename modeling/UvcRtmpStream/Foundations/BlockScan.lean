import Mathlib.Data.List.Basic

/-!
# Scanning blocks that start with their own size

A buffer holds blocks one behind the other, each with its size in front. A scan reads the size of
the block at hand, lets a handler work on what is left of the buffer, and goes on behind the block.
The scan does not look whether the block fits, and the handler is not held to the block: the size
says only where the next one starts.

Two sizes end badly. A size of zero leaves the scan where it is, so that it never ends; a size
beyond what is left takes it out of the buffer. `scan_eq_ok_iff` says which buffers a scan comes
through, and with what result: those that are blocks of the size they say (`Blocks`), each of which
the handler accepts. `scan_encodeAll` is the round trip.
-/

set_option autoImplicit false
set_option relaxedAutoImplicit false

namespace UvcRtmpStream.Foundations

/-- A scanner: the least number of symbols it looks at, the size of the block in front of a buffer,
what it does with a buffer, and how it ends where the scan leaves the buffer or never ends. -/
structure BlockScanner (β σ ε : Type*) where
  least : ℕ
  size : List β → ℕ
  handle : σ → List β → Except ε σ
  overrun : ε
  hangs : ε

namespace BlockScanner

variable {β σ ε : Type*} (scanner : BlockScanner β σ ε)

/-- The loop, with fuel for the blocks that are left. -/
def scanWith : ℕ → σ → List β → Except ε σ
  | 0, s, _ => .ok s
  | fuel + 1, s, buffer =>
    if buffer.length < scanner.least then .ok s
    else
      match scanner.handle s buffer with
      | .error error => .error error
      | .ok next =>
        if scanner.size buffer = 0 then .error scanner.hangs
        else if buffer.length < scanner.size buffer then .error scanner.overrun
        else scanWith fuel next (buffer.drop (scanner.size buffer))

/-- The loop. Each block it goes past has a symbol at least. -/
def scan (s : σ) (buffer : List β) : Except ε σ := scanner.scanWith buffer.length s buffer

/-- A buffer whose blocks the handler accepts one after the other, ending in a given state. -/
inductive Blocks : σ → List β → σ → Prop
  | tail {s : σ} {buffer : List β} (hshort : buffer.length < scanner.least) : Blocks s buffer s
  | block {s t u : σ} {block rest : List β} (hleast : scanner.least ≤ (block ++ rest).length)
      (hne : block ≠ []) (hsize : scanner.size (block ++ rest) = block.length)
      (hhandle : scanner.handle s (block ++ rest) = .ok t) (hrest : Blocks t rest u) :
      Blocks s (block ++ rest) u

variable {scanner}

/-- One turn of the loop. -/
theorem scanWith_block {fuel : ℕ} {s t : σ} {block rest : List β}
    (hleast : scanner.least ≤ (block ++ rest).length) (hne : block ≠ [])
    (hsize : scanner.size (block ++ rest) = block.length)
    (hhandle : scanner.handle s (block ++ rest) = .ok t) :
    scanner.scanWith (fuel + 1) s (block ++ rest) = scanner.scanWith fuel t rest := by
  have hpos : block.length ≠ 0 := fun hzero ↦ hne (List.eq_nil_of_length_eq_zero hzero)
  have hfits : ¬ (block ++ rest).length < block.length := by
    rw [List.length_append]
    omega
  rw [scanWith, if_neg (Nat.not_lt.mpr hleast), hhandle]
  simp only [hsize]
  rw [if_neg hpos, if_neg hfits, List.drop_left]

/-- The fuel of the loop is enough, whatever it is beyond the length of the buffer. -/
theorem scanWith_eq_ok_iff (hleast : 0 < scanner.least) {fuel : ℕ} {s u : σ} {buffer : List β}
    (hfuel : buffer.length ≤ fuel) :
    scanner.scanWith fuel s buffer = .ok u ↔ scanner.Blocks s buffer u := by
  constructor
  · intro h
    induction fuel generalizing s buffer with
    | zero =>
      have hnil : buffer = [] := List.eq_nil_of_length_eq_zero (Nat.le_zero.mp hfuel)
      obtain rfl : s = u := by simpa [scanWith] using h
      exact .tail (by simpa [hnil] using hleast)
    | succ fuel ih =>
      rw [scanWith] at h
      by_cases hshort : buffer.length < scanner.least
      · obtain rfl : s = u := by simpa [hshort] using h
        exact .tail hshort
      · rw [if_neg hshort] at h
        cases hhandle : scanner.handle s buffer with
        | error error => simp [hhandle] at h
        | ok t =>
          simp only [hhandle] at h
          split_ifs at h with hzero hover
          have hsplit := List.take_append_drop (scanner.size buffer) buffer
          have hlength : (buffer.take (scanner.size buffer)).length = scanner.size buffer := by
            rw [List.length_take]
            omega
          have hshorter : (buffer.drop (scanner.size buffer)).length ≤ fuel := by
            rw [List.length_drop]
            omega
          have hrest := ih hshorter h
          rw [← hsplit]
          refine .block ?_ ?_ ?_ ?_ hrest
          · rw [hsplit]
            exact Nat.not_lt.mp hshort
          · intro hnil
            rw [hnil] at hlength
            exact hzero hlength.symm
          · rw [hsplit, hlength]
          · rw [hsplit]
            exact hhandle
  · intro h
    induction h generalizing fuel with
    | @tail s buffer hshort =>
      cases fuel with
      | zero => rfl
      | succ fuel => rw [scanWith, if_pos hshort]
    | @block s t u block rest hleast hne hsize hhandle hrest ih =>
      have hpos := List.length_pos_of_ne_nil hne
      rw [List.length_append] at hfuel
      obtain ⟨fuel, rfl⟩ : ∃ more, fuel = more + 1 := ⟨fuel - 1, by omega⟩
      rw [scanWith_block hleast hne hsize hhandle]
      exact ih (by omega)

/-- A scan comes through a buffer exactly where it is made of blocks of the size they say, each of
which the handler accepts. -/
theorem scan_eq_ok_iff (hleast : 0 < scanner.least) {s u : σ} {buffer : List β} :
    scanner.scan s buffer = .ok u ↔ scanner.Blocks s buffer u :=
  scanWith_eq_ok_iff hleast (Nat.le_refl _)

/-! ### The round trip -/

section RoundTrip

variable {ρ : Type*} {encode : ρ → List β} {apply : σ → ρ → σ} {accepts : σ → ρ → Prop}

/-- The records are accepted one after the other. -/
def AcceptedAll (apply : σ → ρ → σ) (accepts : σ → ρ → Prop) : σ → List ρ → Prop
  | _, [] => True
  | s, record :: records => accepts s record ∧ AcceptedAll apply accepts (apply s record) records

theorem acceptedAll_append {s : σ} {first second : List ρ} :
    AcceptedAll apply accepts s (first ++ second) ↔
      AcceptedAll apply accepts s first ∧
        AcceptedAll apply accepts (first.foldl apply s) second := by
  induction first generalizing s with
  | nil => exact (and_iff_right trivial).symm
  | cons record records ih => rw [List.cons_append, AcceptedAll, ih, AcceptedAll, and_assoc,
      List.foldl_cons]

/-- Blocks in front of a rest. -/
theorem blocks_encodeAll {s u : σ} {records : List ρ} {rest : List β}
    (hencode : ∀ s record later, accepts s record →
      scanner.least ≤ (encode record ++ later).length ∧ encode record ≠ [] ∧
        scanner.size (encode record ++ later) = (encode record).length ∧
          scanner.handle s (encode record ++ later) = .ok (apply s record))
    (haccepted : AcceptedAll apply accepts s records)
    (hrest : scanner.Blocks (records.foldl apply s) rest u) :
    scanner.Blocks s (records.flatMap encode ++ rest) u := by
  induction records generalizing s with
  | nil => exact hrest
  | cons record records ih =>
    obtain ⟨hleast, hne, hsize, hhandle⟩ :=
      hencode s record (records.flatMap encode ++ rest) haccepted.1
    rw [List.flatMap_cons, List.append_assoc]
    exact .block hleast hne hsize hhandle (ih haccepted.2 hrest)

/-- The scan of records written one behind the other does to the state what each of them says. -/
theorem scan_encodeAll (hleast : 0 < scanner.least) {s : σ} {records : List ρ}
    (hencode : ∀ s record later, accepts s record →
      scanner.least ≤ (encode record ++ later).length ∧ encode record ≠ [] ∧
        scanner.size (encode record ++ later) = (encode record).length ∧
          scanner.handle s (encode record ++ later) = .ok (apply s record))
    (haccepted : AcceptedAll apply accepts s records) :
    scanner.scan s (records.flatMap encode) = .ok (records.foldl apply s) := by
  have hend : scanner.Blocks (records.foldl apply s) [] (records.foldl apply s) := .tail hleast
  have hblocks := blocks_encodeAll hencode haccepted hend
  rw [List.append_nil] at hblocks
  exact (scan_eq_ok_iff hleast).mpr hblocks

end RoundTrip

end BlockScanner

end UvcRtmpStream.Foundations
