import DifferenceTypes.Object.Library
import DifferenceTypes.Template.Scope

/-!
# Frames

Where the statements of a body put their names and where its expressions find them. The body of a
module works on the names of the world. The body of a class has names of its own and sees those of
the module; the body of a function has names of its own too, and a name that it sets anywhere is its
own everywhere. Behind all of them stand the names that every module finds.

A name with two underscores in front and not behind is private to the class in whose body it is
written, and carries the name of that class.
-/

namespace DifferenceTypes

/-- The body that a frame belongs to. -/
inductive Place where
  | module
  | classBody
  /-- A function's body, with the names that it sets. -/
  | function (names : List String)
  /-- A type kept as text, which sees the module first and the attributes of a class behind it. -/
  | reference
  /-- A type kept as text of which it is not known where it comes from, so that it sees no
  module. -/
  | detached
  deriving DecidableEq, Repr, Inhabited

/-- The names of a body and what has to be known to run it. -/
structure Frame where
  place : Place
  bindings : Attributes
  /-- The types declared in the body. -/
  annotations : Attributes
  /-- The class whose private names the body uses. -/
  owner : Option String
  /-- What stands in front of the qualified names of classes and functions that the body defines. -/
  qualifier : String
  /-- Whether declared types are kept as text. -/
  postponed : Bool
  /-- Names that the body leaves to the module. -/
  shared : List String
  deriving Inhabited

namespace Frame

/-- The frame of a module's body. -/
def ofModule : Frame :=
  ⟨.module, [], [], none, "", false, []⟩

/-- The frame of a class's body. -/
def ofClass (name qualifiedName : String) (postponed : Bool) : Frame :=
  ⟨.classBody, [], [], some name, qualifiedName ++ ".", postponed, []⟩

/-- A name without underscores at its start. -/
def withoutUnderscores (name : String) : List Char :=
  name.toList.dropWhile (· == '_')

/-- Whether a name is private to the class in whose body it is written. -/
def isPrivate (name : String) : Bool :=
  ['_', '_'].isPrefixOf name.toList && !(['_', '_'].isSuffixOf name.toList) && !name.toList.elem '.'

/-- A name as it is kept: with the name of the class that it is private to. -/
def keptName (owner : Option String) (name : String) : String :=
  match owner with
  | some className =>
    let bare := withoutUnderscores className
    if isPrivate name && !bare.isEmpty then "_" ++ String.ofList bare ++ name else name
  | none => name

end Frame

/-- A computation in a frame. -/
abbrev Evaluation (κ : Type) := StateT Frame (Run κ)

namespace Evaluation

variable {κ : Type}

/-- A computation in the world alone. -/
def inWorld {α : Type} (computation : Run κ α) : Evaluation κ α :=
  liftM computation

/-- The world. -/
def world : Evaluation κ (World κ) :=
  getThe (World κ)

/-- The value that the module or, behind it, every module has under a name. -/
def sharedName? (world : World κ) (name : String) : Option Value :=
  (world.module.get? name).orElse fun _ =>
    if name == "__name__" then some (.text World.moduleName) else Library.everywhere? name

/-- The value of a name. -/
def lookUp (world : World κ) (frame : Frame) (name : String) : Except Failure Value :=
  let orUnknown : Option Value → Except Failure Value
    | some value => .ok value
    | none => .error .unknownName
  if frame.shared.elem name then orUnknown (sharedName? world name)
  else
    match frame.place with
    | .module => orUnknown (sharedName? world name)
    | .classBody => orUnknown ((frame.bindings.get? name).orElse fun _ => sharedName? world name)
    | .function names =>
      match frame.bindings.get? name with
      | some value => .ok value
      | none =>
        if names.elem name then .error .unassignedName else orUnknown (sharedName? world name)
    | .reference =>
      orUnknown (((world.module.get? name).orElse fun _ => frame.bindings.get? name).orElse fun _ =>
        sharedName? world name)
    | .detached => orUnknown (Library.everywhere? name)

/-- The value of a name as it is written. -/
def getName (written : String) : Evaluation κ Value := do
  let frame ← get
  let world ← Evaluation.world
  match lookUp world frame (Frame.keptName frame.owner written) with
  | .ok value => return value
  | .error failure => throw failure

/-- Sets a name as it is written. -/
def setName (written : String) (value : Value) : Evaluation κ Unit := do
  let frame ← get
  let name := Frame.keptName frame.owner written
  if frame.place == .module || frame.shared.elem name then
    modifyThe (World κ) fun world => { world with module := world.module.set name value }
  else modify fun frame => { frame with bindings := frame.bindings.set name value }

/-- Removes a name as it is written. -/
def removeName (written : String) : Evaluation κ Unit := do
  let frame ← get
  let name := Frame.keptName frame.owner written
  if frame.place == .module || frame.shared.elem name then
    let world ← Evaluation.world
    if (world.module.get? name).isNone then throw .unknownName
    modifyThe (World κ) fun world => { world with module := world.module.remove name }
  else if (frame.bindings.get? name).isNone then
    throw (match frame.place with | .function _ => .unassignedName | _ => .unknownName)
  else modify fun frame => { frame with bindings := frame.bindings.remove name }

/-- Notes the declared type of a name. -/
def declareName (written : String) (type : Value) : Evaluation κ Unit := do
  let frame ← get
  let name := Frame.keptName frame.owner written
  if frame.place == .module then
    modifyThe (World κ) fun world => { world with annotations := world.annotations.set name type }
  else modify fun frame => { frame with annotations := frame.annotations.set name type }

end Evaluation

end DifferenceTypes
