import DifferenceTypes.Evaluation.TypeHint
import DifferenceTypes.Object.Copy
import DifferenceTypes.Session.Contract
import DifferenceTypes.Session.Loading
import DifferenceTypes.Session.Term

/-!
# Steps of a session

A session works on one module, on leaf contracts and on variables, step by step. A step answers with
what is seen of its result, or with the reason why it has none; a step that fails leaves what it
changed before.

A result may be kept in a variable. The variable then holds the result itself and not a copy of it,
so later steps see what becomes of it.
-/

namespace DifferenceTypes

/-- What a class implementing a contract is made of in a session. -/
structure ImplementationTerm where
  target : TypeTerm
  /-- How the target is called in what the members answer. -/
  label : Text
  representation : Option TypeTerm
  /-- The members that the class has of its own. -/
  provided : List String
  name : String
  base : Option TypeTerm

/-- What a session can be asked to do. -/
inductive Step where
  | register (type : TypeTerm) (manner : Manner) (label : Text) (start : Option ValueTerm)
      (representation : Option TypeTerm)
  | unregister (type : TypeTerm)
  | deriveClass (name : String) (bases : List TypeTerm)
  | load (source : Text)
  | implement (term : ImplementationTerm)
  | value (term : ValueTerm)
  | diff (first second : ValueTerm)
  | apply (value delta : ValueTerm)
  | identity (type : TypeTerm)
  | representation (type : TypeTerm)
  /-- The representation, asked for in brackets. -/
  | representationForm (type : TypeTerm)
  | isGenerated (type : TypeTerm)
  | lookup (type : TypeTerm)
  | callMethod (target : ValueTerm) (name : String) (arguments : List ValueTerm)
  | getAttribute (target : ValueTerm) (name : String)
  | setAttribute (target : ValueTerm) (name : String) (value : ValueTerm)
  | getItem (target index : ValueTerm)
  | setItem (target index value : ValueTerm)
  /-- Whether two values are equal, and whether they differ. -/
  | compare (first second : ValueTerm)
  | same (first second : ValueTerm)
  | describe (value : ValueTerm)
  | hash (value : ValueTerm)
  | copy (value : ValueTerm)
  | typeHints (type : TypeTerm)
  | fields (type : TypeTerm)
  /-- The calls that were written down, which are then forgotten. -/
  | takeLog

/-- Why a step has no result. -/
inductive StepError where
  | template (error : TemplateError)
  | failure (cause : Failure)

/-- The answer to a step. -/
inductive Answer where
  | seen (result : Snapshot)
  | log (observations : List Observation)

/-- The state of a session. -/
structure Session where
  world : World SessionContract
  bindings : Attributes

namespace Session

/-- A session before its first step. -/
def start : Session :=
  ⟨World.empty, []⟩

/-- A computation in a session. -/
abbrev Task := Run SessionContract

/-- The value that a term for a type stands for. -/
def typeOf (bindings : Attributes) (term : TypeTerm) : Task Value :=
  Term.type SessionContract.call bindings term

/-- The value that a term stands for. -/
def valueOf (bindings : Attributes) (term : ValueTerm) : Task Value :=
  Term.value SessionContract.call bindings term

/-- The value that a term for a type stands for, if there is a term. -/
def typeOf? (bindings : Attributes) : Option TypeTerm → Task (Option Value)
  | some term => return some (← typeOf bindings term)
  | none => return none

/-- Sets a name of the module. -/
def setName (name : String) (value : Value) : Task Unit :=
  modify fun world => { world with module := world.module.set name value }

/-- A list of texts. -/
def textList (texts : List String) : Task Value :=
  Run.createList (texts.map fun text => .text (Text.ofString text))

/-- Registers a leaf contract. -/
def register (bindings : Attributes) (type : TypeTerm) (manner : Manner) (label : Text)
    (start : Option ValueTerm) (representation : Option TypeTerm) : Task Value := do
  let type ← typeOf bindings type
  let start ← match start with
    | some term => pure (some (← valueOf bindings term))
    | none => pure none
  let representation ← typeOf? bindings representation
  Contract.register SessionContract.call type ⟨manner, type, label, start⟩
    (representation.getD .none)
  return .none

/-- Makes a class without members in the module. -/
def deriveClass (name : String) (bases : List Value) (members : Attributes) : Task Value := do
  let identity ← Derivation.derive name name bases members []
  setName name identity
  return identity

/-- The members of a contract that a session makes: each tells how it was called. -/
def contractMembers (label : Text) (representation : Value) (provided : List String) : Attributes :=
  ([("Repr", representation), ("diff", .primitive (.echo "impl.diff" label)),
    ("apply", .primitive (.echo "impl.apply" label)),
    ("identity", .classMethod (.primitive (.echoClass "impl.identity" label)))] : Attributes).filter
      fun (name, _) => provided.elem name

/-- Makes a class that implements a contract, and installs it. -/
def implement (bindings : Attributes) (term : ImplementationTerm) : Task Value := do
  let target ← typeOf bindings term.target
  let representation ← typeOf? bindings term.representation
  let base ← typeOf? bindings term.base
  let members := contractMembers term.label (representation.getD .none) term.provided
  let implementation ← deriveClass term.name base.toList members
  discard (SessionContract.call (.installer target) ⟨[implementation], []⟩)
  return .truth true

/-- The names for which types are declared, each with its type. -/
def typeHints (type : Value) : Task Value := do
  let hints ← TypeHint.all SessionContract.call type
  let pairs ← hints.mapM fun (name, hint) => Run.createList [.text (Text.ofString name), hint]
  Run.createList pairs

/-- Calls what a value has under a name. -/
def callMethod (target : Value) (name : String) (arguments : List Value) : Task Value := do
  let method ← Access.get target name
  SessionContract.call method ⟨arguments, []⟩

/-- The result of a step that works on values alone. -/
def runOnValues (bindings : Attributes) : Step → Task Value
  | .value term => valueOf bindings term
  | .diff first second => do
    let left ← valueOf bindings first
    let right ← valueOf bindings second
    Contract.diff SessionContract.behaviour SessionContract.call left right
  | .apply value delta => do
    let changed ← valueOf bindings value
    let difference ← valueOf bindings delta
    Contract.apply SessionContract.behaviour SessionContract.call changed difference
  | .callMethod target name arguments => do
    let receiver ← valueOf bindings target
    callMethod receiver name (← Term.values SessionContract.call bindings arguments)
  | .getAttribute target name => do Access.get (← valueOf bindings target) name
  | .setAttribute target name value => do
    let changed ← valueOf bindings target
    Access.set SessionContract.call changed name (← valueOf bindings value)
    return .none
  | .getItem target index => do
    let collection ← valueOf bindings target
    Operator.subscript SessionContract.call collection (← valueOf bindings index)
  | .setItem target index value => do
    let collection ← valueOf bindings target
    let place ← valueOf bindings index
    Operator.assignSubscript SessionContract.call collection place (← valueOf bindings value)
    return .none
  | .compare first second => do
    let left ← valueOf bindings first
    let right ← valueOf bindings second
    let equal ← Comparison.equal SessionContract.call left right
    Run.createList [equal, ← Comparison.different SessionContract.call left right]
  | .same first second => do
    let left ← valueOf bindings first
    return .truth (left.same (← valueOf bindings second))
  | .describe value =>
    do return .text (← Description.describe SessionContract.call (← valueOf bindings value))
  | .hash value => do
    Comparison.checkHashable SessionContract.call (← valueOf bindings value)
    return .truth true
  | .copy value => do return (← Copy.copy Evaluation.depthLimit [] (← valueOf bindings value)).1
  | _ => throw .unsupported

/-- The result of a step, except for those that load templates and take the log. -/
def run (bindings : Attributes) : Step → Task Value
  | .register type manner label start representation =>
    register bindings type manner label start representation
  | .unregister type => do
    Contract.unregister SessionContract.call (← typeOf bindings type)
    return .none
  | .deriveClass name bases => do
    let derived ← deriveClass name (← Term.types SessionContract.call bindings bases) []
    return (Access.get? (← get) derived Positional.arityName).getD .none
  | .implement term => implement bindings term
  | .identity type => do
    Contract.identity SessionContract.behaviour SessionContract.call (← typeOf bindings type)
  | .representation type => do Contract.representation SessionContract.call (← typeOf bindings type)
  | .representationForm type => do
    Operator.subscript SessionContract.call (.builtin .representation) (← typeOf bindings type)
  | .isGenerated type => do
    let type ← typeOf bindings type
    return .truth (Contract.isGenerated (← get) type)
  | .lookup type =>
    do return (← Contract.lookup SessionContract.call (← typeOf bindings type)).representation
  | .typeHints type => do typeHints (← typeOf bindings type)
  | .fields type => do textList (← Record.fieldNames (← typeOf bindings type))
  | step => runOnValues bindings step

/-- The result of a step, or the reason why there is none. -/
def result (bindings : Attributes) : Step → Task (Except StepError Value)
  | .load source =>
    match Loading.generate source with
    | .ok text => do return .ok (← textList (← Loading.execute SessionContract.call text))
    | .error error => return .error (.template error)
  | step => do return .ok (← run bindings step)

/-- The session after a step whose result may be kept in a variable, and the answer. -/
def step (session : Session) (asked : Step) (variableName : Option String) :
    Except StepError Answer × Session :=
  match asked with
  | .takeLog =>
    (.ok (.log session.world.log), { session with world := { session.world with log := [] } })
  | asked =>
    let observed : Task (Except StepError (Value × Snapshot)) := do
      match ← result session.bindings asked with
      | .error error => return .error error
      | .ok value =>
        return .ok (value, ← Snapshot.take SessionContract.call Evaluation.depthLimit value)
    match observed.run.run session.world with
    | (.ok (.ok (value, seen)), world) =>
      let bindings := match variableName with
        | some name => session.bindings.set name value
        | none => session.bindings
      (.ok (.seen seen), ⟨world, bindings⟩)
    | (.ok (.error error), world) => (.error error, { session with world := world })
    | (.error failure, world) => (.error (.failure failure), { session with world := world })

/-- The answers to steps, one after the other. -/
def answers (session : Session) : List (Step × Option String) → List (Except StepError Answer)
  | [] => []
  | (asked, name) :: rest =>
    let (answer, next) := session.step asked name
    answer :: answers next rest

end Session

end DifferenceTypes
