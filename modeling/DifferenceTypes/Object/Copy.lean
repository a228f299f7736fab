import DifferenceTypes.Object.World

/-!
# Deep copies

A deep copy shares no object with the value it was made from, and two places that hold one object
hold one copy of it. An object is noted as copied before what it holds is copied, so that a copy may
hold itself. Classes and functions are not copied.
-/

namespace DifferenceTypes.Copy

variable {κ : Type}

/-- The copies that were made, by the objects that they were made from. -/
abbrev Made := List (Ref × Ref)

mutual

/-- A copy of a value, nested no deeper than the count allows. -/
def copy : Nat → Made → Value → Run κ (Value × Made)
  | 0, _, _ => throw .tooDeep
  | depth + 1, made, value => do
    match value with
    | .tuple items =>
      let (copied, made) ← copyAll depth made items
      return (.tuple copied, made)
    | .object ref =>
      match made.lookup ref with
      | some done => return (.object done, made)
      | none =>
        let object ← Run.object ref
        match object.content with
        | .function _ | .fieldDraft _ => return (value, made)
        | content =>
          let fresh ← Run.create ⟨object.classId, .plain, []⟩
          let place := match fresh with
            | .object place => place
            | _ => ref
          let (attributes, made) ← copyAttributes depth ((ref, place) :: made) object.attributes
          let (content, made) ← copyContent depth made content
          Run.changeObject place fun copied =>
            { copied with content := content, attributes := attributes }
          return (.object place, made)
    | _ => return (value, made)

/-- Copies of values, one after the other. -/
def copyAll : Nat → Made → List Value → Run κ (List Value × Made)
  | 0, _, _ => throw .tooDeep
  | _ + 1, made, [] => return ([], made)
  | depth + 1, made, first :: rest => do
    let (value, made) ← copy depth made first
    let (values, made) ← copyAll (depth + 1) made rest
    return (value :: values, made)

/-- Copies of attributes. -/
def copyAttributes : Nat → Made → Attributes → Run κ (Attributes × Made)
  | 0, _, _ => throw .tooDeep
  | _ + 1, made, [] => return ([], made)
  | depth + 1, made, (name, first) :: rest => do
    let (value, made) ← copy depth made first
    let (values, made) ← copyAttributes (depth + 1) made rest
    return ((name, value) :: values, made)

/-- Copies of the entries of a dictionary. -/
def copyEntries : Nat → Made → List (Value × Value) → Run κ (List (Value × Value) × Made)
  | 0, _, _ => throw .tooDeep
  | _ + 1, made, [] => return ([], made)
  | depth + 1, made, (key, first) :: rest => do
    let (key, made) ← copy depth made key
    let (value, made) ← copy depth made first
    let (values, made) ← copyEntries (depth + 1) made rest
    return ((key, value) :: values, made)

/-- A copy of what an object is made of. -/
def copyContent : Nat → Made → Content → Run κ (Content × Made)
  | 0, _, _ => throw .tooDeep
  | depth + 1, made, content => do
    match content with
    | .items items =>
      let (copied, made) ← copyAll depth made items
      return (.items copied, made)
    | .entries entries =>
      let (copied, made) ← copyEntries depth made entries
      return (.entries copied, made)
    | .scalar plain =>
      let (copied, made) ← copy depth made plain
      return (.scalar copied, made)
    | other => return (other, made)

end

end DifferenceTypes.Copy
