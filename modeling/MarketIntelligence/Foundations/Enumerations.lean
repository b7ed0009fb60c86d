import Mathlib.Data.List.Basic

namespace MarketIntelligence
namespace Foundations

/-!
# Enumerations with string values

Every member of the enumeration has a string value of its own, and a text is
looked up among the values of the members.
-/

universe u

class StrEnum (α : Type u) where
  members : List α
  value : α -> String
  mem_members : forall member, member ∈ members
  value_injective : Function.Injective value

/-- What a conversion or a check raises: the text that names no member, or a message. -/
inductive ValueError where
  | unknown (text : String)
  | refused (message : String)
  deriving DecidableEq, Repr

namespace StrEnum

variable {α : Type u} [StrEnum α]

def find (text : String) : Option α :=
  members.find? fun member => value member = text

def ofValue (text : String) : Except ValueError α :=
  (find text).elim (.error (.unknown text)) .ok

@[simp]
theorem find_value (member : α) : find (value member) = some member := by
  unfold find
  cases found : members.find? fun other : α => decide (value other = value member) with
  | none =>
      have differs := List.find?_eq_none.mp found member (mem_members member)
      simp at differs
  | some other =>
      have same := List.find?_some found
      rw [value_injective (of_decide_eq_true same)]

theorem find_eq_some {text : String} {member : α} :
    find text = some member <-> text = value member := by
  constructor
  · intro found
    have same := List.find?_some found
    exact (of_decide_eq_true same).symm
  · intro same
    rw [same, find_value]

theorem ofValue_eq_ok {text : String} {member : α} :
    ofValue text = .ok member <-> text = value member := by
  rw [← find_eq_some]
  unfold ofValue
  cases (find text : Option α) with
  | none => simp
  | some other => simp

@[simp]
theorem ofValue_value (member : α) :
    (ofValue (value member) : Except ValueError α) = .ok member :=
  ofValue_eq_ok.mpr rfl

end StrEnum
end Foundations
end MarketIntelligence
