import Rulebook.Json
import Mathlib

/-!
# Values that can be sent

A value can be sent if all its numbers are finite and all its texts can be encoded. An array can be
sent if its items can, and what can be sent is its own finite part.
-/

set_option autoImplicit false

namespace Rulebook.Json

section Leaves

variable {number : Binary64 → Bool} {text : Text → Bool}

/-- A condition holds of the leaves of an array exactly if it holds of those of all its items. -/
theorem allLeaves_arr {items : List Json} :
    (arr items).allLeaves number text = true ↔ ∀ item ∈ items, item.allLeaves number text = true := by
  rw [allLeaves]
  induction items with
  | nil => simp [allLeavesItems]
  | cons item rest ih => rw [allLeavesItems, Bool.and_eq_true, ih, List.forall_mem_cons]

/-- A condition holds of the leaves of an object exactly if it holds of its keys and of the leaves of
all its values. -/
theorem allLeaves_obj {members : Members} :
    (obj members).allLeaves number text = true ↔
      ∀ member ∈ members, text member.1 = true ∧ member.2.allLeaves number text = true := by
  rw [allLeaves]
  induction members with
  | nil => simp [allLeavesMembers]
  | cons member rest ih =>
    obtain ⟨key, value⟩ := member
    rw [allLeavesMembers, Bool.and_eq_true, Bool.and_eq_true, ih, List.forall_mem_cons]

end Leaves

/-- A text can be sent exactly if it can be encoded. -/
theorem isTransmissible_str {t : Text} : (str t).isTransmissible = t.isEncodable := rfl

/-- An array can be sent exactly if all its items can. -/
theorem isTransmissible_arr {items : List Json} :
    (arr items).isTransmissible = true ↔ ∀ item ∈ items, item.isTransmissible = true :=
  allLeaves_arr

/-- An object can be sent exactly if all its keys and values can. -/
theorem isTransmissible_obj {members : Members} :
    (obj members).isTransmissible = true ↔
      ∀ member ∈ members, member.1.isEncodable = true ∧ member.2.isTransmissible = true :=
  allLeaves_obj

mutual

/-- A value whose numbers are all finite is its own finite part. -/
theorem finitePart_eq_self {text : Text → Bool} :
    {v : Json} → v.allLeaves Binary64.isFinite text = true → v.finitePart = v
  | .float _, h => if_pos h
  | .arr _, h => congrArg arr (finitePartItems_eq_self h)
  | .obj _, h => congrArg obj (finitePartMembers_eq_self h)
  | .null, _ | .bool _, _ | .int _, _ | .str _, _ => rfl

/-- Items whose numbers are finite are their own finite part. -/
theorem finitePartItems_eq_self {text : Text → Bool} : {items : List Json} →
    allLeavesItems Binary64.isFinite text items = true → finitePartItems items = items
  | [], _ => rfl
  | item :: rest, h => by
    rw [allLeavesItems, Bool.and_eq_true] at h
    rw [finitePartItems, finitePart_eq_self h.1, finitePartItems_eq_self h.2]

/-- Members whose numbers are finite are their own finite part. -/
theorem finitePartMembers_eq_self {text : Text → Bool} : {members : Members} →
    allLeavesMembers Binary64.isFinite text members = true → finitePartMembers members = members
  | [], _ => rfl
  | (key, value) :: rest, h => by
    rw [allLeavesMembers, Bool.and_eq_true, Bool.and_eq_true] at h
    rw [finitePartMembers, finitePart_eq_self h.1.2, finitePartMembers_eq_self h.2]

end

end Rulebook.Json
