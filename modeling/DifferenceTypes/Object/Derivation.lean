import DifferenceTypes.Contract.Positional
import DifferenceTypes.Object.Ancestors

/-!
# Deriving classes

How a class comes out of its bases. A base written as a type expression stands for the class that it
subscribes, and a collection type also makes the class generic. The lines of ancestors of the bases
must fit together, and so must the layouts of their instances; a closed class is no base.

A generic class takes its type variables from its bases, and from the one that lists them if there
is one. A positional class takes the number of its fields from its own bases.
-/

namespace DifferenceTypes.Derivation

variable {κ : Type}

/-- Whether a base is a type expression that makes classes generic. -/
def makesGeneric : Value → Bool
  | .parameterized _ _ _ | .collectionForm _ | .union _ | .annotated _ _ | .literal _ => true
  | _ => false

/-- Whether some bases make a class generic without help, or fail to be bases at all. -/
def isGeneric (world : World κ) : List Value → Except Failure Bool
  | [] => .ok false
  | base :: rest =>
    if makesGeneric base then .ok true
    else
      match base with
      | .ofClass identity =>
        if world.isSubclass identity (.builtin .generic) then .ok true else isGeneric world rest
      | _ => .error .wrongType

/-- The classes that stand for a collection type among the written bases. -/
def collectionBases (world : World κ) (written later : List Value) (origin : Value) :
    Except Failure (List Value) := do
  let generic ← isGeneric world later
  return (if written.any (·.same origin) then [] else [origin]) ++
    (if generic then [] else [.builtin .generic])

/-- The values that stand for one written base, given all of them and the ones behind it. -/
def basesOf (world : World κ) (written later : List Value) : Value → Except Failure (List Value)
  | .ofClass identity => .ok [.ofClass identity]
  | .subscribed origin _ => .ok [.ofClass origin]
  | .collectionForm name =>
    collectionBases world written later (.builtin (TypeForm.collectionClass name))
  | .parameterized origin (some _) _ => collectionBases world written later origin
  | .parameterized origin none _ =>
    if origin.same (.builtin .generic) then
      if later.any makesGeneric then .ok [] else .ok [origin]
    else .ok [origin]
  | .annotated origin _ => .ok [origin]
  | _ => .error .wrongType

/-- The values that stand for the written bases. -/
def resolve (world : World κ) (written : List Value) : List Value → Except Failure (List Value)
  | [] => .ok []
  | base :: later => do
    let first ← basesOf world written later base
    return first ++ (← resolve world written later)

/-- A value that is a class and may be a base. -/
def asBase (value : Value) : Except Failure ClassId :=
  match value with
  | .ofClass (.builtin kind) => if kind.isClosed then .error .wrongType else .ok (.builtin kind)
  | .ofClass identity => .ok identity
  | _ => .error .wrongType

/-- Whether a list holds an element twice. -/
def hasRepetition {α : Type} [BEq α] : List α → Bool
  | [] => false
  | first :: rest => rest.elem first || hasRepetition rest

/-- Whether instances of the classes have layouts that fit together. -/
def layoutsFit (world : World κ) (bases : List ClassId) : Bool :=
  let layouts := (bases.map world.layout).filter (· != .object)
  layouts.all fun layout => layouts.all (· == layout)

/-- The list of type variables that a base gives, if it gives one. -/
def variableList? : Value → Option (List Value)
  | .parameterized origin none arguments =>
    if origin.same (.builtin .generic) then some arguments else none
  | _ => none

/-- The type variables of a class with the given bases, written and resolved. -/
def parametersOf (bases : List ClassId) (written : Option (List Value)) :
    Except Failure (List Value) :=
  match written with
  | none => if bases.elem (.builtin .generic) then .error .wrongType else .ok []
  | some values =>
    if values.any (·.same (.builtin .generic)) then .error .wrongType
    else
      let free := TypeForm.typeVariablesOfAll values
      match values.filterMap variableList? with
      | [] => .ok free
      | [listed] =>
        if free.all fun name => listed.any name.same then .ok listed else .error .wrongType
      | _ => .error .wrongType

/-- The attributes of a class: whose instances are compared in a way of their own are not hashed,
unless they are in a way of their own too. -/
def settled (attributes : Attributes) : Attributes :=
  if (attributes.get? "__eq__").isSome && (attributes.get? "__hash__").isNone then
    attributes.set "__hash__" .none
  else attributes

/-- The line of ancestors of a class with the given bases, if they fit together. -/
def lineOf (world : World κ) (next : ClassId) (bases : List ClassId) :
    Except Failure (List ClassId) :=
  if hasRepetition bases || !layoutsFit world bases then .error .wrongType
  else
    match Ancestors.line? next bases (bases.map world.ancestors) with
    | some line => .ok line
    | none => .error .wrongType

/-- The bases of a class that are classes themselves. A class without any is derived from the class
of all objects. -/
def basesOrObject (classes : List ClassId) : List ClassId :=
  if classes.isEmpty then [ClassId.builtin .object] else classes

/-- The bases as they were written, if some of them are no classes. -/
def writtenBases? (written : List Value) : Option (List Value) :=
  let isPlain := written.all fun value => match value with
    | .ofClass _ => true
    | _ => false
  if isPlain then none else some written

/-- The attributes of a class of a line, with the number of its fields if it is a positional class
that fixes it. -/
def countedAttributes (line : List ClassId) (written : Option (List Value))
    (attributes : Attributes) : Attributes :=
  let own := settled attributes
  let arity :=
    if line.elem (.builtin .positional) then Positional.arity? (written.getD []) else none
  match arity with
  | some count => own.set Positional.arityName (.integer count)
  | none => own

/-- What a class derived from the written bases is. -/
def record (world : World κ) (next : ClassId) (name qualifiedName : String) (written : List Value)
    (attributes annotations : Attributes) : Except Failure ClassRecord := do
  let resolved ← resolve world written written
  let bases := basesOrObject (← resolved.mapM asBase)
  let line ← lineOf world next bases
  let kept := writtenBases? written
  let parameters ← if line.elem (.builtin .generic) then parametersOf bases kept else .ok []
  return ⟨name, qualifiedName, bases, kept, line, countedAttributes line kept attributes,
    annotations, parameters, none⟩

/-- Derives a class. -/
def derive (name qualifiedName : String) (written : List Value)
    (attributes annotations : Attributes) : Run κ ClassId := do
  let world ← get
  match record world (.defined world.classes.size) name qualifiedName written attributes
    annotations with
  | .ok record => Run.createClass record
  | .error failure => throw failure

end DifferenceTypes.Derivation
