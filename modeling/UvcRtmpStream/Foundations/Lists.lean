import Mathlib.Data.List.Basic

/-!
# Lists of objects that are changed in place

Objects are numbered by their place in a list, and a call on one of them is `List.modify`. A view of
the objects is a `List.map`: these lemmas say what a call does to it.
-/

set_option autoImplicit false
set_option relaxedAutoImplicit false

namespace UvcRtmpStream.Foundations

variable {α β : Type}

/-- A change of one object, as it is seen through a view. -/
theorem map_modify {view : α → β} {change : α → α} (change' : β → β)
    (h : ∀ object, view (change object) = change' (view object)) (objects : List α) (index : ℕ) :
    (objects.modify index change).map view = (objects.map view).modify index change' := by
  refine List.ext_getElem? fun place ↦ ?_
  rw [List.getElem?_map, List.getElem?_modify, List.getElem?_modify, List.getElem?_map]
  cases objects[place]? with
  | none => rfl
  | some object => by_cases hplace : index = place <;> simp [hplace, h]

/-- A change of one object that the view does not see. -/
theorem map_modify_of_eq {view : α → β} {change : α → α}
    (h : ∀ object, view (change object) = view object) (objects : List α) (index : ℕ) :
    (objects.modify index change).map view = objects.map view := by
  rw [map_modify id h]
  exact List.modify_id index (objects.map view)

/-- A change of the last object. -/
theorem modify_append_last (objects : List α) (object : α) (change : α → α) :
    (objects ++ [object]).modify objects.length change = objects ++ [change object] := by
  induction objects with
  | nil => rfl
  | cons first rest ih => exact congrArg (List.cons first) ih

end UvcRtmpStream.Foundations
