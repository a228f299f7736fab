import DifferenceTypes.Object.Library

/-!
# Reading and setting attributes

A type expression hands questions for attributes on to what it subscribes: one with a class in front
of the brackets hands on all names but its own, every other one only names that do not both begin
and end with two underscores.

Attributes can be set on classes that a module defined and on their instances. Whether an instance
takes a new value is up to its class: a frozen record refuses.
-/

namespace DifferenceTypes.Access

variable {κ : Type}

/-- The names that a subscripted class keeps to itself. -/
def ownNames : List String :=
  ["__class__", "__bases__", "__origin__", "__args__", "__parameters__", "__mro_entries__"]

/-- The value of an attribute if there is one. -/
def get? (world : World κ) : Value → String → Option Value
  | .ofClass identity, name => world.attributeOfClass? identity name
  | .subscribed origin arguments, name =>
    let form : Value := .subscribed origin arguments
    if ownNames.elem name then
      if name == "__parameters__" then some (.tuple (TypeForm.typeVariables form))
      else (World.propertyOfForm? form name).orElse fun _ =>
        if name == "__bases__" then none else world.attributeByClass? form name
    else world.attributeOfClass? origin name
  | .parameterized origin label arguments, name =>
    let form : Value := .parameterized origin label arguments
    if name == "__parameters__" then some (.tuple (TypeForm.typeVariables form))
    else (World.propertyOfForm? form name).orElse fun _ =>
      if name == "__name__" || name == "__qualname__" then get? world origin "__name__"
      else if isDunder name then world.attributeByClass? form name
      else get? world origin name
  | .annotated origin metadata, name =>
    let form : Value := .annotated origin metadata
    (World.propertyOfForm? form name).orElse fun _ =>
      if isDunder name then world.attributeByClass? form name else get? world origin name
  | .union arguments, name =>
    (World.propertyOfForm? (.union arguments) name).orElse fun _ =>
      if name == "__name__" || name == "__qualname__" then
        let optional := arguments.length == 2 && arguments.any (·.same (.builtin .noneType))
        some (.text (if optional then "Optional" else "Union"))
      else if isDunder name then world.attributeByClass? (.union arguments) name
      else none
  | .literal arguments, name =>
    (World.propertyOfForm? (.literal arguments) name).orElse fun _ =>
      if name == "__name__" || name == "__qualname__" then some (.text "Literal")
      else if isDunder name then world.attributeByClass? (.literal arguments) name
      else none
  | .collectionForm label, name =>
    (World.propertyOfForm? (.collectionForm label) name).orElse fun _ =>
      if name == "__origin__" then some (.builtin (TypeForm.collectionClass label))
      else if isDunder name then world.attributeByClass? (.collectionForm label) name
      else world.attributeOfClass? (.builtin (TypeForm.collectionClass label)) name
  | .library library, name => library.attribute? name
  | .method receiver function, name =>
    match name with
    | "__self__" => some receiver
    | "__func__" => some function
    | "__class__" => some (.builtin .method)
    | _ => get? world function name
  | .object ref, name =>
    match world.objects[ref]? with
    | none => none
    | some object =>
      (object.attributes.get? name).orElse fun _ =>
        match object.content, name with
        | .function function, "__name__" => some (.text function.name)
        | .function function, "__qualname__" => some (.text function.qualifiedName)
        | _, _ => world.attributeByClass? (.object ref) name
  | other, name =>
    (World.propertyOfForm? other name).orElse fun _ => world.attributeByClass? other name

/-- The value of an attribute. -/
def get (value : Value) (name : String) : Run κ Value := do
  let world ← MonadState.get
  match value, name with
  | .object ref, "__dict__" =>
    let object ← Run.object ref
    Run.createDictionary (object.attributes.map fun (key, kept) => (.text key, kept))
  | .ofClass (.defined index), "__dict__" =>
    let record ← Run.classRecord index
    Run.createDictionary (record.attributes.map fun (key, kept) => (.text key, kept))
  | .ofClass (.defined index), "__annotations__" =>
    let record ← Run.classRecord index
    Run.createDictionary (record.annotations.map fun (key, kept) => (.text key, kept))
  | _, _ =>
    match get? world value name with
    | some found => return found
    | none => throw .missingAttribute

/-- Whether instances of a class have attributes of their own. -/
def hasAttributes : ClassId → Bool
  | .defined _ => true
  | .builtin .positional | .builtin .representation | .builtin .function
  | .builtin (.exception _) => true
  | .builtin _ => false

/-- Sets an attribute of an object, whatever its class has to say. -/
def assign (value : Value) (name : String) (new : Value) : Run κ Unit := do
  match value with
  | .object ref =>
    let object ← Run.object ref
    if hasAttributes object.classId then
      Run.changeObject ref (·.setAttribute name new)
    else throw .missingAttribute
  | _ => throw .missingAttribute

/-- Sets an attribute of a class. -/
def assignToClass (identity : ClassId) (name : String) (new : Value) : Run κ Unit := do
  match identity with
  | .builtin kind =>
    if kind.isOpen then
      modify fun world =>
        let extended := (world.extension kind).set name new
        { world with extensions := (kind, extended) :: world.extensions.filter (·.1 != kind) }
    else throw .wrongType
  | .defined index =>
    Run.changeClass index (·.assign name new)

/-- Sets an attribute. -/
def set (call : Caller κ) (target : Value) (name : String) (new : Value) : Run κ Unit := do
  match target with
  | .ofClass identity => assignToClass identity name new
  | .parameterized (.ofClass identity) _ _ | .annotated (.ofClass identity) _ =>
    if isDunder name then return () else assignToClass identity name new
  | .collectionForm label =>
    if isDunder name then return ()
    else assignToClass (.builtin (TypeForm.collectionClass label)) name new
  | _ =>
    let world ← MonadState.get
    match world.classAttribute? (world.classOf target) "__setattr__" with
    | some (.primitive .assign) => assign target name new
    | some (.primitive operation) =>
      discard (call (.primitive operation) ⟨[target, .text name, new], []⟩)
    | some found => discard (call (world.boundToInstance target found) ⟨[.text name, new], []⟩)
    | none => throw .missingAttribute

/-- Removes an attribute of an object or a class. -/
def remove (target : Value) (name : String) : Run κ Unit := do
  match target with
  | .ofClass (.defined index) =>
    let record ← Run.classRecord index
    if (record.attributes.get? name).isSome then
      Run.changeClass index (·.removeAttribute name)
    else throw .missingAttribute
  | .ofClass (.builtin _) => throw .wrongType
  | .object ref =>
    let object ← Run.object ref
    if (object.attributes.get? name).isSome then
      Run.changeObject ref (·.removeAttribute name)
    else throw .missingAttribute
  | _ => throw .missingAttribute

/-- The name that a value spells. -/
def name (value : Value) : Run κ String := do
  match ← Run.view value with
  | .scalar (.text text) =>
    match text.string? with
    | some found => return found
    | none => throw .missingAttribute
  | _ => throw .wrongType

end DifferenceTypes.Access
