import Mathlib.Data.List.Pairwise
import Mathlib.Data.List.Sort
import Mathlib.Data.List.TakeWhile
import Mathlib.Order.Lattice

/-!
# Windows of a list sorted by a key

A log kept in the order of a key, such as a time, of which only what is recent is wanted. On such a
list, dropping from the front while the key is too small and filtering by the key are the same
(`dropWhile_eq_filter_of_sorted`), and both cut off a front part
(`exists_append_filter_of_sorted`). Sorting a rearrangement of a list whose keys strictly increase
restores the list (`insertionSort_eq_of_perm`).

Where keys repeat, the order in which a stable sort leaves the elements depends on the order it
found them in (`exists_insertionSort_swap`), but nothing else about them does: what elements of one
key have in common comes out in one order (`map_insertionSort_eq_of_perm`).
-/

set_option autoImplicit false
set_option relaxedAutoImplicit false

namespace UvcRtmpStream.Foundations

variable {α κ : Type*} [LinearOrder κ]

/-- The list is in nondecreasing order of the key. -/
def SortedBy (key : α → κ) (l : List α) : Prop := l.Pairwise fun a b ↦ key a ≤ key b

variable {key : α → κ} {l : List α}

theorem SortedBy.sublist {l' : List α} (h : SortedBy key l) (hsub : l'.Sublist l) :
    SortedBy key l' := List.Pairwise.sublist hsub h

theorem sortedBy_cons {a : α} :
    SortedBy key (a :: l) ↔ (∀ b ∈ l, key a ≤ key b) ∧ SortedBy key l := List.pairwise_cons

theorem sortedBy_append {first second : List α} :
    SortedBy key (first ++ second) ↔
      SortedBy key first ∧ SortedBy key second ∧ ∀ a ∈ first, ∀ b ∈ second, key a ≤ key b :=
  List.pairwise_append

/-- The last element has the largest key. -/
theorem SortedBy.le_getLast {last : α} (h : SortedBy key l) (hlast : l.getLast? = some last) :
    ∀ a ∈ l, key a ≤ key last := by
  obtain ⟨front, rfl⟩ := List.getLast?_eq_some_iff.mp hlast
  intro a ha
  rcases List.mem_append.mp ha with hfront | hend
  · exact (sortedBy_append.mp h).2.2 a hfront last (List.mem_singleton_self _)
  · rw [List.mem_singleton.mp hend]

/-- Tests that agree on the list drop the same front part. -/
theorem dropWhile_congr_of_mem {α : Type*} {l : List α} {test test' : α → Bool}
    (h : ∀ a ∈ l, test a = test' a) : l.dropWhile test = l.dropWhile test' := by
  induction l with
  | nil => rfl
  | cons a l ih =>
    obtain ⟨hfirst, hrest⟩ := List.forall_mem_cons.mp h
    rw [List.dropWhile_cons, List.dropWhile_cons, hfirst, ih hrest]

/-- On a sorted list, dropping from the front below a bound leaves exactly the elements that reach
it. -/
theorem dropWhile_eq_filter_of_sorted (h : SortedBy key l) (bound : κ) :
    l.dropWhile (fun a ↦ decide (key a < bound)) = l.filter (fun a ↦ decide (bound ≤ key a)) := by
  induction l with
  | nil => rfl
  | cons a l ih =>
    obtain ⟨hfirst, hrest⟩ := sortedBy_cons.mp h
    by_cases ha : key a < bound
    · rw [List.dropWhile_cons_of_pos (by simpa using ha), ih hrest,
        List.filter_cons_of_neg (by simpa using ha)]
    · have hall : ∀ b ∈ a :: l, bound ≤ key b := by
        intro b hb
        rcases List.mem_cons.mp hb with rfl | hb
        · exact not_lt.mp ha
        · exact (not_lt.mp ha).trans (hfirst b hb)
      rw [List.dropWhile_cons_of_neg (by simpa using ha)]
      exact (List.filter_eq_self.mpr fun b hb ↦ by simpa using hall b hb).symm

/-- Filtering a sorted list by a lower bound cuts off a front part, all of it below the bound. -/
theorem exists_append_filter_of_sorted (h : SortedBy key l) (bound : κ) :
    ∃ cut, l = cut ++ l.filter (fun a ↦ decide (bound ≤ key a)) ∧ ∀ a ∈ cut, key a < bound := by
  refine ⟨l.takeWhile fun a ↦ decide (key a < bound), ?_, ?_⟩
  · rw [← dropWhile_eq_filter_of_sorted h, List.takeWhile_append_dropWhile]
  · intro a ha
    simpa using List.mem_takeWhile_imp ha

/-- Sorting by a key restores a list with strictly increasing keys from any rearrangement. -/
theorem insertionSort_eq_of_perm {listing : List α} (hperm : listing.Perm l)
    (hsorted : l.Pairwise fun a b ↦ key a < key b) :
    listing.insertionSort (fun a b ↦ key a ≤ key b) = l := by
  have htotal : Std.Total fun a b : α ↦ key a ≤ key b := ⟨fun a b ↦ le_total (key a) (key b)⟩
  have htrans : IsTrans α fun a b ↦ key a ≤ key b := ⟨fun _ _ _ ↦ le_trans⟩
  have hnodup : (l.map key).Nodup :=
    List.pairwise_map.mpr (hsorted.imp fun hlt ↦ hlt.ne)
  have hlisting := List.perm_insertionSort (fun a b ↦ key a ≤ key b) listing
  refine (hlisting.trans hperm).eq_of_pairwise (fun a b ha hb hab hba ↦ ?_)
    (List.pairwise_insertionSort _ listing) (hsorted.imp fun hlt ↦ hlt.le)
  have ha' : a ∈ l := (hlisting.trans hperm).mem_iff.mp ha
  exact List.inj_on_of_nodup_map hnodup ha' hb (le_antisymm hab hba)

/-- Two elements of a list whose elements are related in order. -/
theorem rel_or_rel_of_pairwise {α : Type*} {r : α → α → Prop} {l : List α} (h : l.Pairwise r)
    {a b : α} (ha : a ∈ l) (hb : b ∈ l) (hne : a ≠ b) : r a b ∨ r b a := by
  have hsymm : Std.Symm fun a b ↦ r a b ∨ r b a := ⟨fun _ _ ↦ Or.symm⟩
  have hpairs : l.Pairwise fun a b ↦ r a b ∨ r b a := h.imp Or.inl
  exact hpairs.forall ha hb hne

theorem sortedBy_insertionSort (key : α → κ) (l : List α) :
    SortedBy key (l.insertionSort fun a b ↦ key a ≤ key b) := by
  have htotal : Std.Total fun a b : α ↦ key a ≤ key b := ⟨fun a b ↦ le_total (key a) (key b)⟩
  have htrans : IsTrans α fun a b ↦ key a ≤ key b := ⟨fun _ _ _ ↦ le_trans⟩
  exact List.pairwise_insertionSort _ l

/-- The keys and the values of a sorted list do not depend on the order that the list was in, if
elements of one key have one value. -/
theorem map_insertionSort_eq_of_perm {β : Type*} {value : α → β} {listing : List α}
    (hperm : listing.Perm l) (hsame : ∀ a ∈ l, ∀ b ∈ l, key a = key b → value a = value b) :
    (listing.insertionSort fun a b ↦ key a ≤ key b).map (fun a ↦ (key a, value a)) =
      (l.insertionSort fun a b ↦ key a ≤ key b).map fun a ↦ (key a, value a) := by
  have hsorted : ∀ l : List α, ((l.insertionSort fun a b ↦ key a ≤ key b).map
      fun a ↦ (key a, value a)).Pairwise fun x y ↦ x.1 ≤ y.1 :=
    fun l ↦ List.pairwise_map.mpr (sortedBy_insertionSort key l)
  have hlisting := ((List.perm_insertionSort (fun a b ↦ key a ≤ key b) listing).trans hperm).trans
    (List.perm_insertionSort (fun a b ↦ key a ≤ key b) l).symm
  refine (hlisting.map _).eq_of_pairwise (fun x y hx hy hxy hyx ↦ ?_) (hsorted listing) (hsorted l)
  have hmem : ∀ {x : κ × β}, x ∈ (l.insertionSort fun a b ↦ key a ≤ key b).map
      (fun a ↦ (key a, value a)) → ∃ a ∈ l, (key a, value a) = x := by
    intro x hx
    obtain ⟨a, ha, hax⟩ := List.mem_map.mp hx
    exact ⟨a, (List.perm_insertionSort _ l).mem_iff.mp ha, hax⟩
  obtain ⟨a, ha, rfl⟩ := hmem ((hlisting.map _).mem_iff.mp hx)
  obtain ⟨b, hb, rfl⟩ := hmem hy
  have hkey : key a = key b := le_antisymm hxy hyx
  exact Prod.ext hkey (hsame a ha b hb hkey)

/-- An element goes in front of the first element that it is not above. -/
theorem orderedInsert_append_cons {a b : α} {front back : List α}
    (hfront : ∀ c ∈ front, key c < key a) (hab : key a ≤ key b) :
    (front ++ b :: back).orderedInsert (fun a b ↦ key a ≤ key b) a = front ++ a :: b :: back := by
  induction front with
  | nil => exact List.orderedInsert_cons_of_le _ _ hab
  | cons c front ih =>
    obtain ⟨hfirst, hrest⟩ := List.forall_mem_cons.mp hfront
    rw [List.cons_append, List.orderedInsert_cons, if_neg (not_le.mpr hfirst), ih hrest,
      List.cons_append]

/-- Two elements of one key come out in the order they were in. -/
theorem exists_insertionSort_swap {a b : α} (h : key a = key b) (l : List α) :
    ∃ front back,
      (a :: b :: l).insertionSort (fun a b ↦ key a ≤ key b) = front ++ a :: b :: back ∧
      (b :: a :: l).insertionSort (fun a b ↦ key a ≤ key b) = front ++ b :: a :: back := by
  let sorted := l.insertionSort fun a b ↦ key a ≤ key b
  let front := sorted.takeWhile fun c ↦ ¬ key a ≤ key c
  let back := sorted.dropWhile fun c ↦ ¬ key a ≤ key c
  have hfront : ∀ c ∈ front, key c < key a := fun c hc ↦ by
    simpa using List.mem_takeWhile_imp hc
  have hinsert : ∀ c, key c = key a →
      (c :: l).insertionSort (fun a b ↦ key a ≤ key b) = front ++ c :: back := by
    intro c hc
    rw [List.insertionSort_cons_eq_take_drop, hc]
  refine ⟨front, back, ?_, ?_⟩
  · rw [List.insertionSort_cons, hinsert b h.symm]
    exact orderedInsert_append_cons hfront h.le
  · rw [List.insertionSort_cons, hinsert a rfl]
    exact orderedInsert_append_cons (h ▸ hfront) h.ge

end UvcRtmpStream.Foundations
