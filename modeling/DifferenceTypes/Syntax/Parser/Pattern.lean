import DifferenceTypes.Syntax.Parser.Expression

/-!
# Parsing patterns

Patterns are the heads of `case` blocks. They nest in brackets only, and what is inside is read by a
parser that is passed along, one level of nesting less deep. Which pattern a name starts is decided
by what follows it: a dot makes it a value, a parenthesis a class, and otherwise it captures, the
underscore alone capturing nothing.
-/

namespace DifferenceTypes.PatternGrammar

open DifferenceTypes.Parser

/-- Whether the next token is the name with this spelling. -/
def seesSpelling (spelling : String) : Parser Bool := do
  return (← peek) == .name spelling

/-- A name that captures: not the underscore, and nothing behind it that would make it more than a
name. -/
def captureName : Parser String := do
  if ← seesSpelling "_" then failure
  else
    let name ← identifier
    match ← peek with
    | .symbol .dot | .symbol .leftParenthesis | .symbol .equal => failure
    | _ => return name

/-- A number, with a sign or not. -/
def signedNumber : Parser (Expr Extent × Bool) := do
  let start ← left
  let negative ← symbol? .minus
  let numberStart ← left
  match ← take with
  | .number value =>
    let number := Expr.constant (← extentFrom numberStart) value
    let isImaginary := match value with
      | .imaginary _ => true
      | _ => false
    if negative then return (.unary (← extentFrom start) .minus number, isImaginary)
    else return (number, isImaginary)
  | _ => failure

/-- A number or the sum or difference of a real and an imaginary number. -/
def numberValue : Parser (Expr Extent) := do
  let start ← left
  let (first, isImaginary) ← signedNumber
  let operator? : Option BinaryOperator := match ← peek with
    | .symbol .plus => some .add
    | .symbol .minus => some .subtract
    | _ => none
  match operator? with
  | none => return first
  | some operator =>
    if isImaginary then failure
    else
      discard take
      if ← sees .minus then failure
      else
        let (second, isImaginary) ← signedNumber
        if isImaginary then return .binary (← extentFrom start) first operator second else failure

/-- Attributes behind an expression that starts at the position. -/
def attributes (start : Nat) (first : Expr Extent) : Parser (Expr Extent) :=
  repeated (fun value => do
    if ← symbol? .dot then
      let name ← identifier
      return some (.attribute (← extentFrom start) value name)
    else return none) first

/-- A name with attributes or without, and whether it has any. -/
def dottedValue : Parser (Expr Extent × Bool) := do
  let start ← left
  let name ← identifier
  let first := Expr.name (← extentFrom start) name
  let hasDot ← sees .dot
  return (← attributes start first, hasDot)

/-- A literal as a pattern, if the next token starts one. -/
def literal? (expressions : NestedGrammar) : Parser (Option (Pattern Extent)) := do
  let single (value : Constant) : Parser (Option (Pattern Extent)) := do
    discard take
    return some (.constant value)
  match ← peek with
  | .number _ | .symbol .minus => return some (.value (← numberValue))
  | .string _ => return some (.value (← ExpressionGrammar.strings expressions))
  | .word .noneWord => single .none
  | .word .trueWord => single (.truth true)
  | .word .falseWord => single (.truth false)
  | _ => return none

/-- A pattern, or a star with a name. -/
def maybeStar (inner : Parser (Pattern Extent)) : Parser (Pattern Extent × Bool) := do
  if ← symbol? .star then
    if ← seesSpelling "_" then
      discard take
      return (.star none, true)
    else return (.star (some (← captureName)), true)
  else return (← inner, false)

/-- What parentheses hold: a sequence, or a pattern that they only group. -/
def parenthesized (inner : Parser (Pattern Extent)) : Parser (Pattern Extent) := do
  symbol .leftParenthesis
  if ← symbol? .rightParenthesis then return .sequence []
  else
    let (first, isStar) ← maybeStar inner
    if ← symbol? .comma then
      let (others, _) ← listUntil (maybeStar inner) .rightParenthesis
      return .sequence (first :: others.map (·.1))
    else
      symbol .rightParenthesis
      if isStar then failure else return first

/-- What brackets hold. -/
def bracketed (inner : Parser (Pattern Extent)) : Parser (Pattern Extent) := do
  symbol .leftBracket
  let (found, _) ← listUntil (maybeStar inner) .rightBracket
  return .sequence (found.map (·.1))

/-- A key of a mapping pattern. -/
def mappingKey (expressions : NestedGrammar) : Parser (Expr Extent) := do
  let start ← left
  match ← peek with
  | .name _ =>
    let (value, hasDot) ← dottedValue
    if hasDot then return value else failure
  | _ =>
    match ← literal? expressions with
    | some (.value value) => return value
    | some (.constant value) => return .constant (← extentFrom start) value
    | _ => failure

/-- An entry of a mapping pattern, or the rest of the mapping. -/
inductive MappingItem where
  | entry (key : Expr Extent) (pattern : Pattern Extent)
  | rest (identifier : String)

/-- What braces hold; the rest of the mapping comes last. -/
def braced (expressions : NestedGrammar) (inner : Parser (Pattern Extent)) : Parser (Pattern Extent) := do
  symbol .leftBrace
  let item : Parser MappingItem := do
    if ← symbol? .doubleStar then return .rest (← captureName)
    else
      let key ← mappingKey expressions
      symbol .colon
      return .entry key (← inner)
  let (items, _) ← listUntil item .rightBrace
  let keys := items.filterMap fun item => match item with
    | .entry key pattern => some (key, pattern)
    | .rest _ => none
  match items.drop keys.length with
  | [] => return .mapping (keys.map (·.1)) (keys.map (·.2)) none
  | [.rest name] => return .mapping (keys.map (·.1)) (keys.map (·.2)) (some name)
  | _ => failure

/-- The patterns of a class, those with a keyword behind the others. -/
def classArguments (className : Expr Extent) (inner : Parser (Pattern Extent)) : Parser (Pattern Extent) := do
  symbol .leftParenthesis
  let item : Parser (Option String × Pattern Extent) := do
    match ← peek, ← peekSecond with
    | .name _, .symbol .equal =>
      let name ← identifier
      symbol .equal
      return (some name, ← inner)
    | _, _ => return (none, ← inner)
  let (items, _) ← listUntil item .rightParenthesis
  let positional := items.takeWhile (·.1.isNone)
  let named := items.drop positional.length
  if named.any (·.1.isNone) then failure
  else
    return .classPattern className (positional.map (·.2)) (named.filterMap (·.1)) (named.map (·.2))

/-- A pattern that starts with a name. -/
def named (inner : Parser (Pattern Extent)) : Parser (Pattern Extent) := do
  match ← peekSecond with
  | .symbol .dot | .symbol .leftParenthesis =>
    let (value, _) ← dottedValue
    if ← sees .leftParenthesis then classArguments value inner
    else if ← sees .equal then failure
    else return .value value
  | _ =>
    if ← seesSpelling "_" then
      discard take
      return .capture none none
    else return .capture none (some (← captureName))

/-- A pattern without alternatives. -/
def closed (expressions : NestedGrammar) (inner : Parser (Pattern Extent)) : Parser (Pattern Extent) := do
  match ← literal? expressions with
  | some found => return found
  | none =>
    match ← peek with
    | .name _ => named inner
    | .symbol .leftParenthesis => parenthesized inner
    | .symbol .leftBracket => bracketed inner
    | .symbol .leftBrace => braced expressions inner
    | _ => failure

/-- Alternatives, perhaps captured under a name. -/
def patternOf (expressions : NestedGrammar) (inner : Parser (Pattern Extent)) : Parser (Pattern Extent) := do
  let first ← closed expressions inner
  let others ← many do
    if ← symbol? .bar then return some (← closed expressions inner) else return none
  let found := if others.isEmpty then first else .alternatives (first :: others)
  if ← word? .asWord then return .capture (some found) (some (← captureName)) else return found

/-- Patterns that nest up to a depth. -/
def ofDepth (expressions : NestedGrammar) : Nat → Parser (Pattern Extent)
  | 0 => failure
  | depth + 1 => patternOf expressions (ofDepth expressions depth)

/-- The head of a `case`: a pattern, or a sequence without brackets. -/
def head (inner : Parser (Pattern Extent)) : Parser (Pattern Extent) := do
  let (first, isStar) ← maybeStar inner
  if ← sees .comma then
    let others ← many do
      if ← symbol? .comma then
        if (← sees .colon) || (← seesWord .ifWord) then return none
        else return some (← maybeStar inner).1
      else return none
    return .sequence (first :: others)
  else if isStar then failure
  else return first

end DifferenceTypes.PatternGrammar
