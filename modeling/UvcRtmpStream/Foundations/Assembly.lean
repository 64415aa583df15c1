import Mathlib.Data.List.Basic
import Mathlib.Data.List.Infix

/-!
# Records put together from a stream of pieces

A sender cuts each record into pieces, and a receiver puts the records together again. A piece may
carry the tag of its record, data, a note about the record, and a mark that it is the last one; it
may also arrive damaged. `Assembler` collects data until the tag changes or the mark arrives. A
record never grows to `room` elements: a piece that would make it do so is dropped and the record
counted as damaged.

`took_run` holds for any stream: the pieces fall into consecutive windows, one for each record
delivered and one still open, every record is what `gather` makes of its window alone, and a window
ends where the stream says so and nowhere else, at a mark or at a change of the tag behind data. So
the data of an undamaged record comes from pieces of one tag. `flushed_run` is the round trip: the
records of a sender that changes the tag or sets the mark come out in order, in whatever way each
was cut.
-/

set_option autoImplicit false
set_option relaxedAutoImplicit false

namespace UvcRtmpStream.Foundations

/-- One piece of a stream. `note` updates what is noted about the record the piece belongs to. -/
structure Piece (τ β ν : Type*) where
  tag : Option τ
  data : List β
  note : ν → ν
  damaged : Bool
  last : Bool

/-- A record: its data, what is noted about it, and whether something of it is missing. -/
@[ext] structure Gathered (β ν : Type*) where
  data : List β
  note : ν
  damaged : Bool
  deriving DecidableEq

variable {τ β ν : Type*}

/-- Nothing gathered yet. -/
def Gathered.empty (blank : ν) : Gathered β ν := ⟨[], blank, false⟩

/-- One more piece of the record. -/
def Gathered.put (room : ℕ) (record : Gathered β ν) (piece : Piece τ β ν) : Gathered β ν :=
  if piece.data = [] then
    ⟨record.data, piece.note record.note, record.damaged || piece.damaged⟩
  else if record.data.length + piece.data.length < room then
    ⟨record.data ++ piece.data, piece.note record.note, record.damaged || piece.damaged⟩
  else ⟨record.data, piece.note record.note, true⟩

/-- The record a window of the stream stands for. -/
def gather (room : ℕ) (blank : ν) (window : List (Piece τ β ν)) : Gathered β ν :=
  window.foldl (Gathered.put room) (Gathered.empty blank)

/-- The receiver: the tag seen last, the open record and the records delivered. -/
structure Assembler (τ β ν : Type*) where
  tag : τ
  current : Gathered β ν
  records : List (Gathered β ν)

namespace Assembler

/-- The receiver before the stream starts. -/
def start (tag : τ) (blank : ν) : Assembler τ β ν := ⟨tag, Gathered.empty blank, []⟩

/-- The open record is delivered. -/
def cut (blank : ν) (a : Assembler τ β ν) : Assembler τ β ν :=
  ⟨a.tag, Gathered.empty blank, a.records ++ [a.current]⟩

/-- A piece joins the open record, and closes it if it is the last one. -/
def take (room : ℕ) (blank : ν) (a : Assembler τ β ν) (piece : Piece τ β ν) : Assembler τ β ν :=
  let taken := { a with current := a.current.put room piece }
  if piece.last then taken.cut blank else taken

section Step

variable [DecidableEq τ]

/-- A change of the tag delivers the open record, if it has data. -/
def retag (blank : ν) (a : Assembler τ β ν) : Option τ → Assembler τ β ν
  | none => a
  | some tag =>
    if tag ≠ a.tag ∧ a.current.data ≠ [] then { a.cut blank with tag := tag }
    else { a with tag := tag }

theorem retag_some (blank : ν) (a : Assembler τ β ν) (tag : τ) :
    a.retag blank (some tag) =
      if tag ≠ a.tag ∧ a.current.data ≠ [] then
        ⟨tag, Gathered.empty blank, a.records ++ [a.current]⟩
      else { a with tag := tag } := rfl

/-- One piece arrives. -/
def step (room : ℕ) (blank : ν) (a : Assembler τ β ν) (piece : Piece τ β ν) : Assembler τ β ν :=
  (a.retag blank piece.tag).take room blank piece

end Step

end Assembler

/-! ### Gathering -/

theorem gather_concat (room : ℕ) (blank : ν) (window : List (Piece τ β ν)) (piece : Piece τ β ν) :
    gather room blank (window ++ [piece]) = (gather room blank window).put room piece := by
  simp [gather, List.foldl_append]

/-- The note of a piece may be taken first. -/
theorem Gathered.put_note (room : ℕ) (record : Gathered β ν) (piece : Piece τ β ν) :
    (⟨record.data, piece.note record.note, record.damaged⟩ : Gathered β ν).put room
      { piece with note := id } = record.put room piece := by
  simp [Gathered.put]

theorem Assembler.take_note (room : ℕ) (blank : ν) (a : Assembler τ β ν) (piece : Piece τ β ν) :
    ({ a with
        current := ⟨a.current.data, piece.note a.current.note, a.current.damaged⟩ } :
      Assembler τ β ν).take room blank { piece with note := id } = a.take room blank piece := by
  simp only [take, Gathered.put_note]

/-- The tag that counts after some pieces: that of the last of them that has one. -/
def lastTag (tag : τ) (pieces : List (Piece τ β ν)) : τ :=
  pieces.foldl (fun tag piece ↦ piece.tag.getD tag) tag

theorem lastTag_append (tag : τ) (first second : List (Piece τ β ν)) :
    lastTag tag (first ++ second) = lastTag (lastTag tag first) second := List.foldl_append

/-- Behind data no piece of a window changes the tag. -/
def Steady (room : ℕ) (blank : ν) (tag : τ) (window : List (Piece τ β ν)) : Prop :=
  ∀ first piece rest, window = first ++ piece :: rest → (gather room blank first).data ≠ [] →
    ∀ other ∈ piece.tag, other = lastTag tag first

/-- A window ends where its last piece says so, or where there is data and the next piece of the
stream has another tag than the one that counts. -/
def EndsBefore (room : ℕ) (blank : ν) (tag : τ) (window rest : List (Piece τ β ν)) : Prop :=
  (∃ piece ∈ window.getLast?, piece.last = true) ∨
    (gather room blank window).data ≠ [] ∧
      ∃ next ∈ rest.head?, ∃ other ∈ next.tag, other ≠ lastTag tag window

theorem EndsBefore.append {room : ℕ} {blank : ν} {tag : τ} {window rest : List (Piece τ β ν)}
    (h : EndsBefore room blank tag window rest) (later : List (Piece τ β ν)) :
    EndsBefore room blank tag window (rest ++ later) := by
  rcases h with hlast | ⟨hdata, next, hnext, htag⟩
  · exact Or.inl hlast
  · refine Or.inr ⟨hdata, next, ?_, htag⟩
    cases rest with
    | nil => exact absurd hnext (by simp)
    | cons first rest => simpa using hnext

/-- A list that ends with an element, split anywhere: at that element, or before it. -/
theorem forall_split_concat {α : Type*} {init : List α} {final : α}
    {property : List α → α → List α → Prop} :
    (∀ before x after, init ++ [final] = before ++ x :: after → property before x after) ↔
      property init final [] ∧
        ∀ before x after, init = before ++ x :: after → property before x (after ++ [final]) := by
  constructor
  · intro h
    refine ⟨h init final [] rfl, fun before x after hsplit ↦ h before x (after ++ [final]) ?_⟩
    rw [hsplit, List.append_assoc, List.cons_append]
  · rintro ⟨hfinal, hinit⟩ before x after hsplit
    rcases List.eq_nil_or_concat after with rfl | ⟨between, last, rfl⟩
    · obtain ⟨rfl, hx⟩ := List.append_inj' hsplit rfl
      obtain rfl := List.singleton_inj.mp hx
      exact hfinal
    · have hparts : init ++ [final] = (before ++ x :: between) ++ [last] := by simpa using hsplit
      obtain ⟨hrest, hlast⟩ := List.append_inj' hparts rfl
      obtain rfl := List.singleton_inj.mp hlast
      rw [List.concat_eq_append]
      exact hinit before x between hrest

theorem Steady.nil (room : ℕ) (blank : ν) (tag : τ) :
    Steady room blank tag ([] : List (Piece τ β ν)) := fun _ _ _ hsplit ↦ absurd hsplit (by simp)

/-- One more piece, which changes no tag behind data. -/
theorem Steady.concat {room : ℕ} {blank : ν} {tag : τ} {window : List (Piece τ β ν)}
    {piece : Piece τ β ν} (h : Steady room blank tag window)
    (hpiece : (gather room blank window).data ≠ [] → ∀ other ∈ piece.tag,
      other = lastTag tag window) :
    Steady room blank tag (window ++ [piece]) :=
  forall_split_concat.mpr ⟨hpiece, fun first earlier rest hsplit ↦ h first earlier rest hsplit⟩

/-- How a stream falls into windows: one for each record delivered, and one for the open record. -/
structure Splits (room : ℕ) (blank : ν) (tag : τ) (pieces : List (Piece τ β ν))
    (windows : List (List (Piece τ β ν))) (pending : List (Piece τ β ν)) : Prop where
  covers : windows.flatten ++ pending = pieces
  nonempty : ∀ window ∈ windows, window ≠ []
  whole : ∀ window ∈ pending :: windows, ∀ piece ∈ window.dropLast, piece.last = false
  steady : ∀ before window after, windows ++ [pending] = before ++ window :: after →
    Steady room blank (lastTag tag before.flatten) window
  ends : ∀ before window after, windows = before ++ window :: after →
    EndsBefore room blank (lastTag tag before.flatten) window (after.flatten ++ pending)

namespace Splits

variable {room : ℕ} {blank : ν} {tag : τ} {pieces : List (Piece τ β ν)}
  {windows : List (List (Piece τ β ν))} {pending : List (Piece τ β ν)}

theorem nil : Splits room blank tag ([] : List (Piece τ β ν)) [] [] where
  covers := rfl
  nonempty := by simp
  whole := by simp
  steady := forall_split_concat.mpr ⟨.nil room blank tag, by simp⟩
  ends := by simp

/-- The tag that counts after the stream. -/
theorem lastTag_pending (h : Splits room blank tag pieces windows pending) :
    lastTag (lastTag tag windows.flatten) pending = lastTag tag pieces := by
  rw [← lastTag_append, h.covers]

/-- A further piece joins the open window. -/
theorem join (h : Splits room blank tag pieces windows pending)
    (hrunning : ∀ piece ∈ pending, piece.last = false) {piece : Piece τ β ν}
    (hpiece : (gather room blank pending).data ≠ [] → ∀ other ∈ piece.tag,
      other = lastTag tag pieces) :
    Splits room blank tag (pieces ++ [piece]) windows (pending ++ [piece]) where
  covers := by rw [← List.append_assoc, h.covers]
  nonempty := h.nonempty
  whole := by
    intro window hwindow
    rcases List.mem_cons.mp hwindow with rfl | hold
    · rw [List.dropLast_concat]
      exact hrunning
    · exact h.whole window (List.mem_cons_of_mem _ hold)
  steady := by
    obtain ⟨hopen, hclosed⟩ := forall_split_concat.mp h.steady
    rw [← h.lastTag_pending] at hpiece
    exact forall_split_concat.mpr ⟨hopen.concat hpiece, hclosed⟩
  ends := by
    intro before window after hsplit
    rw [← List.append_assoc]
    exact (h.ends before window after hsplit).append [piece]

/-- The open window is closed. What follows it in the stream says why. -/
theorem close (h : Splits room blank tag pieces windows pending) (hpending : pending ≠ [])
    {rest : List (Piece τ β ν)} (hrest : ∀ piece ∈ rest.dropLast, piece.last = false)
    (hsteady : Steady room blank (lastTag tag pieces) rest)
    (hends : EndsBefore room blank (lastTag tag windows.flatten) pending rest) :
    Splits room blank tag (pieces ++ rest) (windows ++ [pending]) rest where
  covers := by rw [List.flatten_append, List.flatten_singleton, h.covers]
  nonempty := by
    intro window hwindow
    rcases List.mem_append.mp hwindow with hold | hclosed
    · exact h.nonempty window hold
    · rwa [List.mem_singleton.mp hclosed]
  whole := by
    intro window hwindow
    rcases List.mem_cons.mp hwindow with rfl | hclosed
    · exact hrest
    · rcases List.mem_append.mp hclosed with hold | hnew
      · exact h.whole window (List.mem_cons_of_mem _ hold)
      · rw [List.mem_singleton.mp hnew]
        exact h.whole pending List.mem_cons_self
  steady := by
    have hopen : Steady room blank (lastTag tag (windows ++ [pending]).flatten) rest := by
      rw [List.flatten_append, List.flatten_singleton, h.covers]
      exact hsteady
    refine forall_split_concat.mpr ⟨hopen, fun before window after hsplit ↦ ?_⟩
    exact h.steady before window after hsplit
  ends := by
    have hlast : EndsBefore room blank (lastTag tag windows.flatten) pending
        (([] : List (List (Piece τ β ν))).flatten ++ rest) := hends
    refine forall_split_concat.mpr ⟨hlast, fun before window after hsplit ↦ ?_⟩
    have hlater := (h.ends before window after hsplit).append rest
    rw [List.flatten_append, List.flatten_singleton]
    exact hlater

end Splits

/-! ### The run of the receiver -/

namespace Assembler

variable {room : ℕ} {blank : ν} {tag : τ} {pieces : List (Piece τ β ν)} {a : Assembler τ β ν}
  {windows : List (List (Piece τ β ν))} {pending : List (Piece τ β ν)} {piece : Piece τ β ν}

/-- A receiver that has taken a stream: its records are those of the windows of the stream. -/
structure Took (room : ℕ) (blank : ν) (tag : τ) (pieces : List (Piece τ β ν))
    (a : Assembler τ β ν) (windows : List (List (Piece τ β ν))) (pending : List (Piece τ β ν)) :
    Prop where
  splits : Splits room blank tag pieces windows pending
  running : ∀ piece ∈ pending, piece.last = false
  tag_eq : a.tag = lastTag tag pieces
  records : a.records = windows.map (gather room blank)
  current : a.current = gather room blank pending

/-- A piece that closes its record, or leaves it open. -/
theorem Took.take (hsplits : Splits room blank tag pieces windows (pending ++ [piece]))
    (hrunning : ∀ other ∈ pending, other.last = false) (htag : a.tag = lastTag tag pieces)
    (hrecords : a.records = windows.map (gather room blank))
    (hcurrent : a.current = gather room blank pending) :
    ∃ windows' pending',
      Took room blank tag pieces (a.take room blank piece) windows' pending' := by
  have hput : a.current.put room piece = gather room blank (pending ++ [piece]) := by
    rw [gather_concat, hcurrent]
  unfold Assembler.take
  rw [hput]
  cases hlast : piece.last with
  | false =>
    refine ⟨windows, pending ++ [piece], ⟨hsplits, ?_, htag, hrecords, rfl⟩⟩
    intro other hother
    rcases List.mem_append.mp hother with hold | hnew
    · exact hrunning other hold
    · rw [List.mem_singleton.mp hnew, hlast]
  | true =>
    have hends : EndsBefore room blank (lastTag tag windows.flatten) (pending ++ [piece]) [] :=
      Or.inl ⟨piece, by simp, hlast⟩
    have hclosed := hsplits.close (by simp) (by simp) (.nil room blank _) hends
    rw [List.append_nil] at hclosed
    refine ⟨windows ++ [pending ++ [piece]], [], ⟨hclosed, by simp, htag, ?_, rfl⟩⟩
    simp [cut, hrecords]

variable [DecidableEq τ]

/-- One piece more. -/
theorem Took.step (h : Took room blank tag pieces a windows pending) (piece : Piece τ β ν) :
    ∃ windows' pending',
      Took room blank tag (pieces ++ [piece]) (a.step room blank piece) windows' pending' := by
  have htag : ∀ {other : τ}, other = piece.tag.getD a.tag →
      other = lastTag tag (pieces ++ [piece]) := by
    intro other hother
    rw [hother, h.tag_eq, lastTag_append]
    rfl
  by_cases hflip : ∃ other ∈ piece.tag, other ≠ a.tag ∧ a.current.data ≠ []
  · -- the open record ends here, and the piece is the first of the next one
    obtain ⟨other, hnew, hne, hdata⟩ := hflip
    have hpending : pending ≠ [] := by
      rintro rfl
      exact hdata (by rw [h.current]; rfl)
    have hends : EndsBefore room blank (lastTag tag windows.flatten) pending [piece] := by
      refine Or.inr ⟨h.current ▸ hdata, piece, by simp, other, hnew, ?_⟩
      rw [h.splits.lastTag_pending, ← h.tag_eq]
      exact hne
    have hsteady : Steady room blank (lastTag tag pieces) [piece] :=
      @Steady.concat _ _ _ room blank _ [] piece (.nil room blank _) fun hgathered ↦
        absurd rfl hgathered
    have hclosed := h.splits.close hpending (by simp) hsteady hends
    have hretag : a.retag blank piece.tag = { a.cut blank with tag := other } := by
      rw [Option.mem_def.mp hnew]
      exact if_pos ⟨hne, hdata⟩
    unfold Assembler.step
    rw [hretag]
    refine Took.take (List.nil_append [piece] ▸ hclosed) (by simp) (htag ?_) ?_ rfl
    · rw [Option.mem_def.mp hnew]
      rfl
    · simp [cut, h.records, h.current]
  · -- the piece belongs to the open record
    have hretag : a.retag blank piece.tag = { a with tag := piece.tag.getD a.tag } := by
      cases htag : piece.tag with
      | none => rfl
      | some other => exact if_neg fun hcut ↦ hflip ⟨other, htag, hcut⟩
    have hsame : (gather room blank pending).data ≠ [] → ∀ other ∈ piece.tag,
        other = lastTag tag pieces := by
      intro hdata other hother
      rw [← h.tag_eq]
      exact by_contra fun hne ↦ hflip ⟨other, hother, hne, h.current ▸ hdata⟩
    unfold Assembler.step
    rw [hretag]
    exact Took.take (h.splits.join h.running hsame) h.running (htag rfl) h.records h.current

end Assembler

/-! ### The round trip -/

/-- A record as a sender cuts it: the pieces before the last one, and the last one. -/
structure Sent (τ β ν : Type*) where
  tag : τ
  early : List (Piece τ β ν)
  final : Piece τ β ν

namespace Sent

def pieces (s : Sent τ β ν) : List (Piece τ β ν) := s.early ++ [s.final]

def data (s : Sent τ β ν) : List β := s.pieces.flatMap Piece.data

/-- The notes of all the pieces, the first one first. -/
def note (blank : ν) (s : Sent τ β ν) : ν :=
  s.pieces.foldl (fun noted piece ↦ piece.note noted) blank

/-- A record a receiver with `room` can put together: its first piece has the tag, no piece has
another one, only the last piece may say that it is the last, and there is room for the data. -/
structure Proper (room : ℕ) (s : Sent τ β ν) : Prop where
  first : ∃ piece ∈ s.pieces.head?, piece.tag = some s.tag
  tagged : ∀ piece ∈ s.pieces, ∀ other ∈ piece.tag, other = s.tag
  sound : ∀ piece ∈ s.pieces, piece.damaged = false
  unmarked : ∀ piece ∈ s.early, piece.last = false
  data_ne_nil : s.data ≠ []
  fits : s.data.length < room

/-- A sender may follow `first` with `second`: it said that the first record is over, or the second
has another tag. -/
def Separate (first second : Sent τ β ν) : Prop := first.final.last = true ∨ second.tag ≠ first.tag

end Sent

/-- Undamaged pieces that fit are gathered whole. -/
theorem foldl_put {room : ℕ} {pieces : List (Piece τ β ν)} {record : Gathered β ν}
    (hsound : ∀ piece ∈ pieces, piece.damaged = false)
    (hfits : (record.data ++ pieces.flatMap Piece.data).length < room) :
    pieces.foldl (Gathered.put room) record =
      ⟨record.data ++ pieces.flatMap Piece.data,
        pieces.foldl (fun noted piece ↦ piece.note noted) record.note, record.damaged⟩ := by
  induction pieces generalizing record with
  | nil => simp
  | cons piece pieces ih =>
    have hput : record.put room piece =
        ⟨record.data ++ piece.data, piece.note record.note, record.damaged⟩ := by
      unfold Gathered.put
      rw [hsound piece List.mem_cons_self, Bool.or_false]
      by_cases hempty : piece.data = []
      · rw [if_pos hempty, hempty, List.append_nil]
      · rw [if_neg hempty, if_pos]
        rw [List.flatMap_cons, List.length_append, List.length_append] at hfits
        omega
    have hrest : ∀ other ∈ pieces, other.damaged = false :=
      fun other hother ↦ hsound other (List.mem_cons_of_mem _ hother)
    rw [List.foldl_cons, hput, ih hrest]
    · simp
    · simpa using hfits

theorem Sent.Proper.gather_pieces {room : ℕ} {s : Sent τ β ν} (h : s.Proper room) (blank : ν) :
    gather room blank s.pieces = ⟨s.data, s.note blank, false⟩ :=
  foldl_put h.sound h.fits

namespace Assembler

/-- The records delivered, and the open one if it has data. -/
def flushed (a : Assembler τ β ν) : List (Gathered β ν) :=
  if a.current.data = [] then a.records else a.records ++ [a.current]

variable [DecidableEq τ] {room : ℕ} {blank : ν}

theorem retag_eq_self {a : Assembler τ β ν} {tag : Option τ} (h : ∀ other ∈ tag, other = a.tag) :
    a.retag blank tag = a := by
  cases tag with
  | none => rfl
  | some tag =>
    obtain rfl : tag = a.tag := h tag rfl
    simp [retag]

/-- Pieces of the open record that do not close it. -/
theorem foldl_step_open {pieces : List (Piece τ β ν)} {a : Assembler τ β ν}
    (htag : ∀ piece ∈ pieces, ∀ other ∈ piece.tag, other = a.tag)
    (hopen : ∀ piece ∈ pieces, piece.last = false) :
    pieces.foldl (step room blank) a =
      { a with current := pieces.foldl (Gathered.put room) a.current } := by
  induction pieces generalizing a with
  | nil => rfl
  | cons piece pieces ih =>
    have hstep : a.step room blank piece = { a with current := a.current.put room piece } := by
      simp [step, take, retag_eq_self (htag piece List.mem_cons_self),
        hopen piece List.mem_cons_self]
    rw [List.foldl_cons, hstep, ih]
    · rfl
    · exact fun other hother ↦ htag other (List.mem_cons_of_mem _ hother)
    · exact fun other hother ↦ hopen other (List.mem_cons_of_mem _ hother)

/-- A piece may be taken as if its tag had been seen already. -/
theorem step_retag (a : Assembler τ β ν) (piece : Piece τ β ν) :
    (a.retag blank piece.tag).step room blank piece = a.step room blank piece := by
  have hagain : (a.retag blank piece.tag).retag blank piece.tag = a.retag blank piece.tag := by
    cases piece.tag with
    | none => rfl
    | some tag => by_cases hflip : tag ≠ a.tag ∧ a.current.data ≠ [] <;> simp [retag, hflip]
  simp only [step, hagain]

/-- The receiver is where a new record may start. -/
def Ready (blank : ν) (a : Assembler τ β ν) (tag : τ) : Prop :=
  a.current = Gathered.empty blank ∨ tag ≠ a.tag ∧ a.current.data ≠ []

theorem Ready.retag {a : Assembler τ β ν} {tag : τ} (h : a.Ready blank tag) :
    a.retag blank (some tag) = ⟨tag, Gathered.empty blank, a.flushed⟩ := by
  rcases h with hempty | hflip
  · simp [Assembler.retag, flushed, hempty, Gathered.empty]
  · simp [Assembler.retag, flushed, hflip, cut]

/-- One record of a sender. -/
theorem foldl_step_sent {s : Sent τ β ν} (hproper : s.Proper room) {a : Assembler τ β ν}
    (hready : a.Ready blank s.tag) :
    s.pieces.foldl (step room blank) a =
      if s.final.last then ⟨s.tag, Gathered.empty blank, a.flushed ++ [gather room blank s.pieces]⟩
      else ⟨s.tag, gather room blank s.pieces, a.flushed⟩ := by
  obtain ⟨first, hfirst, hfirstTag⟩ := hproper.first
  obtain ⟨rest, hpieces⟩ := List.head?_eq_some_iff.mp hfirst
  have hstart : s.pieces.foldl (step room blank) a =
      s.pieces.foldl (step room blank) ⟨s.tag, Gathered.empty blank, a.flushed⟩ := by
    rw [hpieces, List.foldl_cons, List.foldl_cons, ← hready.retag, ← hfirstTag, step_retag]
  have hearly : ∀ piece ∈ s.early, ∀ other ∈ piece.tag, other = s.tag :=
    fun piece hpiece ↦ hproper.tagged piece (List.mem_append_left _ hpiece)
  have hfinal : ∀ other ∈ s.final.tag, other = s.tag :=
    hproper.tagged s.final (List.mem_append_right _ (List.mem_singleton.mpr rfl))
  rw [hstart, Sent.pieces, List.foldl_append,
    foldl_step_open (a := ⟨s.tag, Gathered.empty blank, a.flushed⟩) hearly hproper.unmarked,
    gather_concat]
  simp only [List.foldl_cons, List.foldl_nil, step]
  rw [retag_eq_self hfinal]
  rfl

/-- The round trip: the receiver delivers the records of a sender in order, apart from a last one
that is still open. -/
theorem flushed_run {sent : List (Sent τ β ν)} (hproper : ∀ s ∈ sent, s.Proper room)
    (hchain : sent.IsChain Sent.Separate) {a : Assembler τ β ν}
    (hready : ∀ s ∈ sent.head?, a.Ready blank s.tag) :
    ((sent.flatMap Sent.pieces).foldl (step room blank) a).flushed =
      a.flushed ++ sent.map (fun s ↦ ⟨s.data, s.note blank, false⟩) := by
  induction sent generalizing a with
  | nil => simp
  | cons s sent ih =>
    have hs : s.Proper room := hproper s List.mem_cons_self
    have hrest : ∀ other ∈ sent, other.Proper room :=
      fun other hother ↦ hproper other (List.mem_cons_of_mem _ hother)
    have hlater : sent.IsChain Sent.Separate := hchain.of_cons
    rw [List.flatMap_cons, List.foldl_append, foldl_step_sent hs (hready s (by simp)),
      hs.gather_pieces]
    cases hlast : s.final.last with
    | true =>
      rw [if_pos rfl, ih hrest hlater]
      · simp [flushed, Gathered.empty]
      · exact fun _ _ ↦ Or.inl rfl
    | false =>
      rw [if_neg Bool.false_ne_true, ih hrest hlater]
      · simp [flushed, hs.data_ne_nil]
      · intro next hnext
        obtain ⟨later, rfl⟩ := List.head?_eq_some_iff.mp hnext
        have hseparate := (List.isChain_cons_cons.mp hchain).1
        rcases hseparate with hmarked | hne
        · exact absurd hmarked (by simp [hlast])
        · exact Or.inr ⟨hne, hs.data_ne_nil⟩

end Assembler

end UvcRtmpStream.Foundations
