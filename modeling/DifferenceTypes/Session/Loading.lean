import DifferenceTypes.Evaluation.Application
import DifferenceTypes.Evaluation.Placement
import DifferenceTypes.Generation.Output

/-!
# Loading a template

A template is loaded by running what is generated from it, in the module that all templates of a
session share. The names that an earlier template left are still there, and a template that fails
leaves the names that it set before.
-/

namespace DifferenceTypes.Loading

variable {κ : Type}

/-- The label of the templates of a session. -/
def label : Text := "m.py.diff"

/-- The module's text that is generated from a template. -/
def generate (source : Text) : Except TemplateError Text := do
  let template ← Template.read source
  match Utf8.encode? source with
  | some bytes => .ok (Output.render label bytes template)
  | none => .error .unencodable

/-- Why a text that should be a module is none. -/
def failureOf : TemplateError → Failure
  | .nullCharacter => .badValue
  | .unencodable => .unencodable
  | _ => .invalidCode

/-- The statements of a text, each of them where it may stand. -/
def statements (text : Text) : Except Failure (List (Stmt Unit)) :=
  match Module.ofText text with
  | .ok module =>
    let statements := Stmt.contents module
    if Placement.isValid statements then .ok statements else .error .invalidCode
  | .error error => .error (failureOf error)

/-- The names that stand for a class of the module and did not stand for that class before. -/
def newClasses (before after : Attributes) : List String :=
  after.filterMap fun (name, value) =>
    match value with
    | .ofClass (.defined index) =>
      if ((before.get? name).map (·.same (.ofClass (.defined index)))).getD false then none
      else some name
    | _ => none

/-- Runs a text as a module, and gives the names of the classes that it defined. -/
def execute (call : Caller κ) (text : Text) : Run κ (List String) := do
  match statements text with
  | .error failure => throw failure
  | .ok module =>
    let before := (← get).module
    discard ((Evaluation.runAll call module).run' Frame.ofModule)
    return newClasses before (← get).module

end DifferenceTypes.Loading
