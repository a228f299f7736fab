import DifferenceTypes.Evaluation.Frame
import DifferenceTypes.Object.Access
import DifferenceTypes.Object.Description
import DifferenceTypes.Object.Operator

/-!
# Evaluating expressions

The value of an expression in a frame. Operands are evaluated from left to right, and what is called
is handed to a caller, so that an expression is evaluated by recursion on the expression alone.

The expressions of templates and of what is generated from them are covered; slices, comprehensions,
and what only makes sense inside generators and coroutines are not.
-/

namespace DifferenceTypes.Evaluation

variable {κ : Type}

/-- The value of a literal. -/
def ofConstant : Constant → Except Failure Value
  | .none => .ok .none
  | .truth value => .ok (.truth value)
  | .ellipsis => .ok .ellipsis
  | .text value _ => .ok (.text value)
  | .bytes value => .ok (.bytes value)
  | .integer value => .ok (.integer value)
  | .real value => .ok (.real value)
  | .imaginary _ => .error .unsupported

/-- The answer of a comparison. -/
def compare (call : Caller κ) (operator : ComparisonOperator) (first second : Value) :
    Run κ Value := do
  match operator with
  | .equal => Comparison.equal call first second
  | .notEqual => Comparison.different call first second
  | .is => return .truth (first.same second)
  | .isNot => return .truth (!first.same second)
  | .isIn => return .truth (← Comparison.contains call first (← Run.elements second))
  | .isNotIn => return .truth (!(← Comparison.contains call first (← Run.elements second)))
  | operator =>
    match first.integer?, second.integer? with
    | some left, some right =>
      return .truth (match operator with
        | .less => left < right
        | .lessEqual => left ≤ right
        | .greater => left > right
        | _ => left ≥ right)
    | _, _ => throw .unsupported

/-- The arguments with more of them behind, where no keyword may be given twice. -/
def withKeywords (arguments : Arguments) (named : Attributes) : Except Failure Arguments :=
  if named.any fun (name, _) => (arguments.named.get? name).isSome then .error .wrongType
  else .ok { arguments with named := arguments.named ++ named }

/-- The entries of a dictionary as keywords. -/
def asKeywords (entries : List (Value × Value)) : Except Failure Attributes :=
  entries.mapM fun (key, value) =>
    match key with
    | .text text =>
      match text.string? with
      | some name => .ok (name, value)
      | none => .error .wrongType
    | _ => .error .wrongType

/-- A result as a computation. -/
def ofExcept {α : Type} : Except Failure α → Evaluation κ α
  | .ok value => return value
  | .error failure => throw failure

mutual

/-- The value of an expression. -/
def eval (call : Caller κ) : Expr Unit → Evaluation κ Value
  | .name _ identifier => getName identifier
  | .constant _ value => ofExcept (ofConstant value)
  | .formatted _ parts => return .text (← evalParts call parts)
  | .attribute _ value identifier => do
    let object ← eval call value
    let name := Frame.keptName (← get).owner identifier
    inWorld (Access.get object name)
  | .subscript _ value index => do
    let object ← eval call value
    let place ← eval call index
    inWorld (Operator.subscript call object place)
  | .call _ callee arguments keywords => do
    let function ← eval call callee
    let positional ← evalAll call arguments
    let given ← evalKeywords call ⟨positional, []⟩ keywords
    inWorld (call function given)
  | .starred _ _ => throw .invalidCode
  | .tuple _ elements => return .tuple (← evalAll call elements)
  | .list _ elements => do
    let items ← evalAll call elements
    inWorld (Run.createList items)
  | .dictionary _ entries => do
    let pairs ← evalEntries call [] entries
    inWorld (Run.createDictionary pairs)
  | .unary _ operator operand => do
    let value ← eval call operand
    inWorld (Operator.applyUnary operator value)
  | .binary _ left operator right => do
    let first ← eval call left
    let second ← eval call right
    inWorld (Operator.apply call operator first second)
  | .boolean _ operator operands => evalUntil call operator operands
  | .comparison _ first rest => do
    let value ← eval call first
    evalComparisons call value rest
  | .conditional _ test whenTrue whenFalse => do
    let condition ← eval call test
    if (← Evaluation.world).isTrue condition then eval call whenTrue else eval call whenFalse
  | .lambda _ parameters body => do
    let defaults ← evalDefaults call parameters
    let frame ← get
    let function : Function := ⟨"<lambda>", frame.qualifier ++ "<lambda>", parameters, defaults,
      [.returns () (some body)], frame.owner, frame.postponed⟩
    inWorld (Run.create ⟨.builtin .function, .function function, []⟩)
  | .assignment _ target value => do
    let result ← eval call value
    match target with
    | .name _ identifier =>
      setName identifier result
      return result
    | _ => throw .invalidCode
  | _ => throw .unsupported

/-- The values of expressions, those with a star in front standing for all their elements. -/
def evalAll (call : Caller κ) : List (Expr Unit) → Evaluation κ (List Value)
  | [] => return []
  | .starred _ value :: rest => do
    let collection ← eval call value
    let items ← inWorld (Run.elements collection)
    return items ++ (← evalAll call rest)
  | first :: rest => do
    let value ← eval call first
    return value :: (← evalAll call rest)

/-- The arguments of a call with those given by keyword. -/
def evalKeywords (call : Caller κ) (arguments : Arguments) : List (Keyword Unit) → Evaluation κ Arguments
  | [] => return arguments
  | .named _ identifier value :: rest => do
    let result ← eval call value
    let name := Frame.keptName (← get).owner identifier
    evalKeywords call (← ofExcept (withKeywords arguments [(name, result)])) rest
  | .unpacked _ value :: rest => do
    let mapping ← eval call value
    match ← inWorld (Run.view mapping) with
    | .dictionary entries =>
      let named ← ofExcept (asKeywords entries)
      evalKeywords call (← ofExcept (withKeywords arguments named)) rest
    | _ => throw .wrongType

/-- The entries of a dictionary, given those before them. -/
def evalEntries (call : Caller κ) (found : List (Value × Value)) :
    List (Entry Unit) → Evaluation κ (List (Value × Value))
  | [] => return found
  | .pair key value :: rest => do
    let name ← eval call key
    let result ← eval call value
    inWorld (Comparison.checkHashable call name)
    evalEntries call (← inWorld (Operator.putEntry call name result found)) rest
  | .unpacked value :: rest => do
    let mapping ← eval call value
    match ← inWorld (Run.view mapping) with
    | .dictionary entries =>
      let put := fun found (key, value) => Operator.putEntry call key value found
      let merged ← inWorld (entries.foldlM put found)
      evalEntries call merged rest
    | _ => throw .wrongType

/-- The value of the operand that decides, or else of the last one. -/
def evalUntil (call : Caller κ) (operator : BooleanOperator) : List (Expr Unit) → Evaluation κ Value
  | [] => throw .invalidCode
  | [last] => eval call last
  | first :: rest => do
    let value ← eval call first
    if (← Evaluation.world).isTrue value == (operator == .or) then return value
    else evalUntil call operator rest

/-- The answer of a chain of comparisons that starts with a value. -/
def evalComparisons (call : Caller κ) (value : Value) : List (Comparison Unit) → Evaluation κ Value
  | [] => return value
  | [.step operator operand] => do
    let next ← eval call operand
    inWorld (compare call operator value next)
  | .step operator operand :: rest => do
    let next ← eval call operand
    let answer ← inWorld (compare call operator value next)
    if (← Evaluation.world).isTrue answer then evalComparisons call next rest else return answer

/-- The text of the parts of a text with interpolations. -/
def evalParts (call : Caller κ) : List (Expr Unit) → Evaluation κ Text
  | [] => return []
  | .interpolation _ value conversion none :: rest => do
    let result ← eval call value
    let text ← match conversion with
      | none | some 's' => inWorld (Description.plain call result)
      | some 'r' => inWorld (Description.describe call result)
      | some _ => throw .unsupported
    return text ++ (← evalParts call rest)
  | .constant _ (.text text _) :: rest => return text ++ (← evalParts call rest)
  | _ :: _ => throw .unsupported

/-- The defaults of parameters under the parameters' names: first of those that may be given by
position. -/
def evalDefaults (call : Caller κ) : Parameters Unit → Evaluation κ Attributes
  | .parameters positionalOnly positional _ keywordOnly _ => do
    let first ← evalDefaultsOf call positionalOnly
    let second ← evalDefaultsOf call positional
    let third ← evalDefaultsOf call keywordOnly
    return first ++ second ++ third

/-- The defaults of a list of parameters. -/
def evalDefaultsOf (call : Caller κ) : List (Parameter Unit) → Evaluation κ Attributes
  | [] => return []
  | .parameter identifier _ (some value) :: rest => do
    let result ← eval call value
    let name := Frame.keptName (← get).owner identifier
    return (name, result) :: (← evalDefaultsOf call rest)
  | .parameter _ _ none :: rest => evalDefaultsOf call rest

end

end DifferenceTypes.Evaluation
