import DifferenceTypes.Number.Shortest
import DifferenceTypes.Object.View
import DifferenceTypes.Object.Comparison
import DifferenceTypes.Text.Quoted

/-!
# Descriptions

The text that stands for a value. Plain values and collections of them are described as they are
written in a module. A class inside a type expression is described by its module and name, the
module being left out for the classes that every module finds under their names.
-/

namespace DifferenceTypes.Description

variable {κ : Type}

/-- The description of a value, by the method that its class has for it. -/
def describe (call : Caller κ) (value : Value) : Run κ Text := do
  let answer ← call (.primitive .describe) ⟨[value], []⟩
  match ← Run.view answer with
  | .scalar (.text text) => return text
  | _ => throw .wrongType

/-- The descriptions of values, in their order. -/
def describeAll (call : Caller κ) : List Value → Run κ (List Text)
  | [] => return []
  | first :: rest => do
    let text ← describe call first
    return text :: (← describeAll call rest)

/-- The description of a plain value. -/
def ofScalar : Value → Text
  | .none => "None"
  | .ellipsis => "Ellipsis"
  | .undecided => "NotImplemented"
  | .truth true => "True"
  | .truth false => "False"
  | .integer value => Text.ofString (toString value)
  | .real value => Text.ofCharacters value.shortest
  | .text value => Text.ofCharacters (Quoted.ofText value)
  | .bytes value => Text.ofCharacters (Quoted.ofBytes value)
  | _ => []

/-- The name of a class together with that of its module, if it is not one of those that every
module finds. -/
def className (world : World κ) (identity : ClassId) : Text :=
  if World.homeName identity == "builtins" then Text.ofString (world.qualifiedName identity)
  else
    Text.ofString (World.homeName identity) ++ "." ++ Text.ofString (world.qualifiedName identity)

/-- The function that a value is, if a module defined it. -/
def function? (world : World κ) : Value → Option Function
  | .object ref =>
    match world.objects[ref]? with
    | some ⟨_, .function function, _⟩ => some function
    | _ => none
  | _ => none

/-- A part of a subscripted class. -/
def partOfSubscribed (call : Caller κ) (value : Value) : Run κ Text := do
  let world ← get
  match value with
  | .ellipsis => return "..."
  | .ofClass identity => return className world identity
  | other =>
    match function? world other with
    | some function =>
      return Text.ofString World.moduleName ++ "." ++ Text.ofString function.qualifiedName
    | none => describe call other

/-- Parts of a subscripted class, in their order. -/
def partsOfSubscribed (call : Caller κ) : List Value → Run κ (List Text)
  | [] => return []
  | first :: rest => do
    let text ← partOfSubscribed call first
    return text :: (← partsOfSubscribed call rest)

/-- A part of any other type expression. -/
def part (call : Caller κ) (value : Value) : Run κ Text := do
  let world ← get
  match value with
  | .ellipsis => return "..."
  | .ofClass identity => return className world identity
  | other =>
    match function? world other with
    | some function => return Text.ofString function.name
    | none => describe call other

/-- Parts of a type expression, in their order. -/
def parts (call : Caller κ) : List Value → Run κ (List Text)
  | [] => return []
  | first :: rest => do
    let text ← part call first
    return text :: (← parts call rest)

/-- A part of a union written with bars. -/
def partOfAlternatives (call : Caller κ) (value : Value) : Run κ Text :=
  if value.same (.builtin .noneType) then return "None" else partOfSubscribed call value

/-- Parts of a union written with bars, in their order. -/
def partsOfAlternatives (call : Caller κ) : List Value → Run κ (List Text)
  | [] => return []
  | first :: rest => do
    let text ← partOfAlternatives call first
    return text :: (← partsOfAlternatives call rest)

/-- A name with parts in brackets behind it. -/
def bracketed (name : Text) (texts : List Text) : Text :=
  name ++ "[" ++ (if texts.isEmpty then ("()" : Text) else Text.join ", " texts) ++ "]"

/-- The description of a union: one of two types, the other being that of nothing, is an option. -/
def ofUnion (call : Caller κ) (arguments : List Value) : Run κ Text := do
  match arguments with
  | [first, second] =>
    if first.same (.builtin .noneType) then return bracketed "typing.Optional" [← part call second]
    else if second.same (.builtin .noneType) then
      return bracketed "typing.Optional" [← part call first]
    else return bracketed "typing.Union" (← parts call arguments)
  | _ => return bracketed "typing.Union" (← parts call arguments)

/-- The description of a function type, whose last part is the type of what it gives. -/
def ofCallable (call : Caller κ) (arguments : List Value) : Run κ Text := do
  match arguments with
  | [.ellipsis, result] => return bracketed "typing.Callable" ["...", ← part call result]
  | _ =>
    let inner ← parts call arguments.dropLast
    let result ← parts call (arguments.drop (arguments.length - 1))
    return bracketed "typing.Callable" (("[" ++ Text.join ", " inner ++ "]") :: result)

/-- The description of a value that is no plain value and no collection. -/
def ofOther (call : Caller κ) (value : Value) : Run κ Text := do
  let world ← get
  match value with
  | .ofClass (.builtin .any) => return "typing.Any"
  | .ofClass identity => return ("<class '" : Text) ++ className world identity ++ "'>"
  | .specialForm name | .collectionForm name => return "typing." ++ Text.ofString name
  | .subscribed origin arguments =>
    return bracketed (← partOfSubscribed call origin) (← partsOfSubscribed call arguments)
  | .parameterized origin name arguments =>
    match name with
    | some "Callable" => ofCallable call arguments
    | some name => return bracketed ("typing." ++ Text.ofString name) (← parts call arguments)
    | none => return bracketed (← part call origin) (← parts call arguments)
  | .union arguments => ofUnion call arguments
  | .alternatives arguments => return Text.join " | " (← partsOfAlternatives call arguments)
  | .annotated origin metadata =>
    let first ← part call origin
    return bracketed "typing.Annotated" (first :: (← describeAll call metadata))
  | .literal arguments => return bracketed "typing.Literal" (← parts call arguments)
  | .typeVariable _ name => return "~" ++ name
  | .forwardReference text => return "ForwardRef(" ++ Text.ofCharacters (Quoted.ofText text) ++ ")"
  | .initializer type =>
    match type with
    | .ofClass identity =>
      return bracketed "dataclasses.InitVar" [Text.ofString (world.className identity)]
    | other => return bracketed "dataclasses.InitVar" [← describe call other]
  | other => return "<" ++ Text.ofString (world.className (world.classOf other)) ++ ">"

/-- The entries of a dictionary, in their order. -/
def entries (call : Caller κ) : List (Value × Value) → Run κ (List Text)
  | [] => return []
  | (key, value) :: rest => do
    let first ← describe call key
    let second ← describe call value
    return (first ++ ": " ++ second) :: (← entries call rest)

/-- The description of a list or a dictionary, which may hold itself. -/
def ofHolder (value : Value) (mark : Text) (description : Run κ Text) : Run κ Text :=
  match value with
  | .object ref => Run.describing ref mark description
  | _ => description

/-- The description of a value by what it is made of. -/
def ofContent (call : Caller κ) (value : Value) : Run κ Text := do
  match ← Run.view value with
  | .scalar plain => return ofScalar plain
  | .list items =>
    ofHolder value "[...]" (do return "[" ++ Text.join ", " (← describeAll call items) ++ "]")
  | .tuple [single] => return "(" ++ (← describe call single) ++ ",)"
  | .tuple items => return "(" ++ Text.join ", " (← describeAll call items) ++ ")"
  | .dictionary pairs =>
    ofHolder value "\x7b...\x7d"
      (do return "\x7b" ++ Text.join ", " (← entries call pairs) ++ "\x7d")
  | .other => ofOther call value

/-- The description of an object that has none of its own: the name of its class. -/
def ofObject (value : Value) : Run κ Text := do
  let world ← get
  return "<" ++ Text.ofString (World.homeName (world.classOf value)) ++ "." ++
    Text.ofString (world.qualifiedName (world.classOf value)) ++ " object>"

/-- The text of a value inside another text: a text as it is, everything else by its description. -/
def plain (call : Caller κ) (value : Value) : Run κ Text := do
  match ← Run.view value with
  | .scalar (.text text) => return text
  | _ => describe call value

/-- The description of a type: the qualified name if it has one that says anything, or else its
description. -/
def ofType (call : Caller κ) (name : Option Value) (value : Value) : Run κ Text := do
  match name with
  | some found => if (← get).isTrue found then plain call found else describe call value
  | none => describe call value

end DifferenceTypes.Description
