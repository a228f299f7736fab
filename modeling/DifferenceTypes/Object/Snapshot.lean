import DifferenceTypes.Text.CodePoint

/-!
# Snapshots

What can be seen of a value at one moment: a tree without references, which later changes do not
reach.
-/

namespace DifferenceTypes

/-- A value as it is seen. -/
inductive Snapshot where
  | none
  | truth (value : Bool)
  | integer (value : Int)
  | text (value : Text)
  /-- A floating-point number by its shortest decimal. -/
  | real (decimal : Text)
  | list (items : List Snapshot)
  | dictionary (entries : List (Snapshot × Snapshot))
  /-- A class by its qualified name. -/
  | ofClass (name : Text)
  /-- A type expression by its description. -/
  | form (description : Text)
  /-- An object by the name of its class, the items or the plain value that it is made of, and its
  attributes. -/
  | object (className : Text) (items : Option (List Snapshot)) (base : Option Snapshot)
      (attributes : Option (List (String × Snapshot)))
  deriving Repr, Inhabited

end DifferenceTypes
