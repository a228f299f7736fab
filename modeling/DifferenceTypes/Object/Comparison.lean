import DifferenceTypes.Object.View

/-!
# Equality and hashing

Two values are compared by the methods that their classes have for it. The left operand decides,
unless the class of the right one is derived from that of the left one: then the right one is asked
first. Who cannot decide leaves it to the other, and if neither can, a value is equal only to
itself.

Collections compare their elements one by one, and an element is equal to itself whatever its method
says. Numbers are compared by value across their classes. Unions are compared without regard to
order.
-/

namespace DifferenceTypes.Comparison

variable {κ : Type}

/-- What the class of a value has under a name, called with the value and the other arguments. -/
def ask (call : Caller κ) (name : String) (value : Value) (arguments : List Value) :
    Run κ Value := do
  let world ← get
  match world.classAttribute? (world.classOf value) name with
  | some (.primitive operation) => call (.primitive operation) ⟨value :: arguments, []⟩
  | some found => call (world.boundToInstance value found) ⟨arguments, []⟩
  | none => return .undecided

/-- The answer of the equality operator. -/
def equal (call : Caller κ) (first second : Value) : Run κ Value := do
  let world ← get
  let left := world.classOf first
  let right := world.classOf second
  let (early, late) := if left != right && world.isSubclass right left
    then ((second, first), (first, second)) else ((first, second), (second, first))
  match ← ask call "__eq__" early.1 [early.2] with
  | .undecided =>
    match ← ask call "__eq__" late.1 [late.2] with
    | .undecided => return .truth (first.same second)
    | answer => return answer
  | answer => return answer

/-- The answer of the inequality operator. -/
def different (call : Caller κ) (first second : Value) : Run κ Value := do
  let world ← get
  let left := world.classOf first
  let right := world.classOf second
  let (early, late) := if left != right && world.isSubclass right left
    then ((second, first), (first, second)) else ((first, second), (second, first))
  match ← ask call "__ne__" early.1 [early.2] with
  | .undecided =>
    match ← ask call "__ne__" late.1 [late.2] with
    | .undecided => return .truth (!first.same second)
    | answer => return answer
  | answer => return answer

/-- Whether two values are equal, where a value is equal to itself in any case. -/
def isEqual (call : Caller κ) (first second : Value) : Run κ Bool := do
  if first.same second then return true
  let answer ← call (.primitive .equals) ⟨[first, second], []⟩
  return (← get).isTrue answer

/-- Whether two lists are equal element by element. -/
def areEqual (call : Caller κ) : List Value → List Value → Run κ Bool
  | [], [] => return true
  | first :: firsts, second :: seconds => do
    if ← isEqual call first second then areEqual call firsts seconds else return false
  | _, _ => return false

/-- Whether a value is equal to one of the elements. -/
def contains (call : Caller κ) (value : Value) : List Value → Run κ Bool
  | [] => return false
  | first :: rest => do
    if ← isEqual call first value then return true else contains call value rest

/-- Whether all values are equal to one of the elements each. -/
def containsAll (call : Caller κ) (elements : List Value) : List Value → Run κ Bool
  | [] => return true
  | first :: rest => do
    if ← contains call first elements then containsAll call elements rest else return false

/-- Whether two lists have equal elements, in whatever order and number. -/
def sameElements (call : Caller κ) (first second : List Value) : Run κ Bool := do
  if ← containsAll call second first then containsAll call first second else return false

/-- The value under a key. -/
def find? (call : Caller κ) (key : Value) : List (Value × Value) → Run κ (Option Value)
  | [] => return none
  | (candidate, value) :: rest => do
    if ← isEqual call candidate key then return some value else find? call key rest

/-- Whether every entry of the one dictionary stands in the other. -/
def holdsEntries (call : Caller κ) (entries : List (Value × Value)) :
    List (Value × Value) → Run κ Bool
  | [] => return true
  | (key, value) :: rest => do
    match ← find? call key entries with
    | some found =>
      if ← isEqual call value found then holdsEntries call entries rest else return false
    | none => return false

/-- Whether two plain values are equal, if they can be compared at all. -/
def equalScalars : Value → Value → Option Bool
  | .real first, .real second => some (first.equals second)
  | .text first, .text second => some (first == second)
  | .bytes first, .bytes second => some (first == second)
  | first, second =>
    match first.integer?, second.integer? with
    | some left, some right => some (left == right)
    | some left, none => match second with
      | .real right => some (right.equalsInt left)
      | _ => none
    | none, some right => match first with
      | .real left => some (left.equalsInt right)
      | _ => none
    | none, none => if first.same second then some true else none

/-- An answer of the two that are not undecided. -/
def decided (call : Run κ Bool) : Run κ Value :=
  return .truth (← call)

/-- The literal's values each with its class. -/
def withClasses (world : World κ) (values : List Value) : List Value :=
  values.map fun value => .tuple [value, world.classOf value]

/-- Whether two type expressions are equal. -/
def equalForms (call : Caller κ) : Value → Value → Run κ Value
  | .subscribed origin arguments, .subscribed other others =>
    if origin == other then decided (areEqual call arguments others) else return .truth false
  | .parameterized origin _ arguments, .parameterized other _ others => do
    if origin.same other then decided (areEqual call arguments others) else return .truth false
  | .union arguments, .union others => decided (sameElements call arguments others)
  | .union arguments, .alternatives others => decided (sameElements call arguments others)
  | .alternatives arguments, .alternatives others => decided (sameElements call arguments others)
  | .annotated origin metadata, .annotated other others => do
    if ← isEqual call origin other then decided (areEqual call metadata others)
    else return .truth false
  | .literal arguments, .literal others => do
    let world ← get
    decided (sameElements call (withClasses world arguments) (withClasses world others))
  | .forwardReference text, .forwardReference other => return .truth (text == other)
  | first, second => return if first.same second then .truth true else .undecided

/-- Whether two values are equal by what they are made of. -/
def equalContent (call : Caller κ) (first second : Value) : Run κ Value := do
  match ← Run.view first, ← Run.view second with
  | .scalar left, .scalar right =>
    match equalScalars left right with
    | some answer => return .truth answer
    | none => return .undecided
  | .list left, .list right => decided (areEqual call left right)
  | .tuple left, .tuple right => decided (areEqual call left right)
  | .dictionary left, .dictionary right =>
    if left.length == right.length then decided (holdsEntries call right left)
    else return .truth false
  | .other, .other => equalForms call first second
  | _, _ => return .undecided

/-- The other answer, if there is one. -/
def negated : Value → Run κ Value
  | .undecided => return .undecided
  | answer => return .truth (!(← get).isTrue answer)

/-- Fails unless a value can be hashed. -/
def checkHashable (call : Caller κ) (value : Value) : Run κ Unit := do
  let world ← get
  match world.classAttribute? (world.classOf value) "__hash__" with
  | some (.primitive operation) => discard (call (.primitive operation) ⟨[value], []⟩)
  | some .none | none => throw .wrongType
  | some found =>
    match (← call (world.boundToInstance value found) ⟨[], []⟩).integer? with
    | some _ => return ()
    | none => throw .wrongType

/-- Fails unless all values can be hashed. -/
def checkAllHashable (call : Caller κ) (values : List Value) : Run κ Unit :=
  values.forM fun value => discard (call (.primitive .hash) ⟨[value], []⟩)

/-- Fails unless what a value is made of can be hashed. -/
def checkContentHashable (call : Caller κ) (value : Value) : Run κ Unit := do
  match ← Run.view value with
  | .tuple items => checkAllHashable call items
  | .list _ | .dictionary _ => throw .wrongType
  | .scalar _ => return ()
  | .other =>
    match value with
    | .subscribed _ arguments | .union arguments | .alternatives arguments | .literal arguments =>
      checkAllHashable call arguments
    | .parameterized origin _ arguments => checkAllHashable call (origin :: arguments)
    | .annotated origin metadata => checkAllHashable call (origin :: metadata)
    | .method receiver _ => checkAllHashable call [receiver]
    | _ => return ()

end DifferenceTypes.Comparison
