import DifferenceTypes.Evaluation.Statement

/-!
# Applying functions

A function that a module defines takes its arguments by position or by name. Every parameter gets
the argument that stands for it or else its default; arguments that are left over go to the
parameters that collect them, and a function that does not collect them refuses the call. Then the
body is run on the parameters' names.
-/

namespace DifferenceTypes.Evaluation

variable {κ : Type}

/-- The values of parameters that are found so far, and the arguments that are left. -/
structure Binding where
  bound : Attributes
  positional : List Value
  named : Attributes

/-- Binds a parameter: to the next argument if it takes any by position, to the one of its name if
it takes any by name, and to its default if there is neither. -/
def bindParameter (byPosition byName : Bool) (defaults : Attributes) (binding : Binding)
    (name : String) : Except Failure Binding :=
  let given := if byName then binding.named.get? name else none
  match byPosition, binding.positional with
  | true, first :: rest =>
    if given.isSome then .error .wrongType
    else .ok { binding with bound := binding.bound ++ [(name, first)], positional := rest }
  | _, _ =>
    match given with
    | some value =>
      .ok { binding with
        bound := binding.bound ++ [(name, value)], named := binding.named.remove name }
    | none =>
      match defaults.get? name with
      | some value => .ok { binding with bound := binding.bound ++ [(name, value)] }
      | none => .error .wrongType

/-- Binds the parameters of a function that take one argument each, first those that take it by
position only, last those that take it by name only. -/
def bindParameters (function : Function) (arguments : Arguments) : Except Failure Binding :=
  match function.parameters with
  | .parameters positionalOnly positional _ keywordOnly _ => do
    let kept := List.map fun parameter => Frame.keptName function.owner parameter.identifier
    let first ← (kept positionalOnly).foldlM (bindParameter true false function.defaults)
      ⟨[], arguments.positional, arguments.named⟩
    let second ← (kept positional).foldlM (bindParameter true true function.defaults) first
    (kept keywordOnly).foldlM (bindParameter false true function.defaults) second

/-- The arguments by position that are left over, for the parameter that collects them. -/
def collectPositional (name : Option String) (values : List Value) : Run κ Attributes :=
  match name with
  | some found => return [(found, .tuple values)]
  | none => if values.isEmpty then return [] else throw .wrongType

/-- The arguments by name that are left over, for the parameter that collects them. -/
def collectNamed (name : Option String) (values : Attributes) : Run κ Attributes := do
  match name with
  | some found =>
    let entries := values.map fun (name, value) => (Value.text (Text.ofString name), value)
    return [(found, ← Run.createDictionary entries)]
  | none => if values.isEmpty then return [] else throw .wrongType

/-- The values of the parameters of a function that is called with arguments. -/
def bindArguments (function : Function) (arguments : Arguments) : Run κ Attributes := do
  match bindParameters function arguments, function.parameters with
  | .error failure, _ => throw failure
  | .ok binding, .parameters _ _ rest _ keywordRest =>
    let kept (parameter : Parameter Unit) : String :=
      Frame.keptName function.owner parameter.identifier
    let collected ← collectPositional (rest.map kept) binding.positional
    return binding.bound ++ collected ++ (← collectNamed (keywordRest.map kept) binding.named)

/-- The frame of a function's body. -/
def frameOf (function : Function) (bindings : Attributes) : Frame :=
  { place := .function (ownNames function), bindings := bindings, annotations := [],
    owner := function.owner, qualifier := function.qualifiedName ++ ".<locals>.",
    postponed := function.postponed, shared := [] }

/-- Applies a function to arguments. A body that does not return gives nothing. -/
def applyFunction (call : Caller κ) (function : Function) (arguments : Arguments) :
    Run κ Value := do
  let bindings ← bindArguments function arguments
  match ← (runAll call function.body).run' (frameOf function bindings) with
  | .next => return .none
  | .returned value => return value

end DifferenceTypes.Evaluation
