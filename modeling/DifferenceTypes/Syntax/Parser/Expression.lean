import DifferenceTypes.Syntax.Content
import DifferenceTypes.Syntax.Layout
import DifferenceTypes.Syntax.Parser.Basic
import DifferenceTypes.Syntax.StringLiteral

/-!
# Parsing expressions

Expressions nest, so their parser refers to itself. `ExpressionGrammar` is the record of those
parsers that others reach for behind operators and behind words; `deepen` builds the record for one
more level of nesting from the record for what is inside. Everything reached through the record
stands behind a token already taken, so as many levels as a piece has tokens are enough.

What a bracket holds is a piece of its own. Its grammar depends on its weight alone, not on where it
stands: `upTo` has the grammars of all pieces below a weight, and the grammar of a piece reaches for
them where it meets a bracket. An f-string weighs more than its expressions, so it is opened in the
same way.

Each level of binding strength is a parser over the next stronger one, from atoms up to
`starExpressions`. No parser tries an alternative twice: what a bracket opens is decided by what
follows its first element.
-/

namespace DifferenceTypes

/-- The parsers of nested expressions. -/
structure ExpressionGrammar where
  /-- A tuple without parentheses, whose elements may be starred, or one expression. -/
  starExpressions : Parser (Expr Extent)
  /-- An expression, perhaps named with `:=`. -/
  namedExpression : Parser (Expr Extent)
  /-- An expression. -/
  expression : Parser (Expr Extent)
  /-- An expression that binds stronger than the conditional. -/
  disjunction : Parser (Expr Extent)
  /-- An operand of `not`. -/
  inversion : Parser (Expr Extent)
  /-- An operand of a comparison. -/
  bitwiseOr : Parser (Expr Extent)
  /-- An operand of a sign. -/
  factor : Parser (Expr Extent)
  /-- An atom with attributes, calls and subscripts. -/
  primary : Parser (Expr Extent)

/-- The parsers of nested expressions together with those for the pieces inside, by their weight. -/
structure NestedGrammar extends ExpressionGrammar where
  within : Nat → ExpressionGrammar

/-- The grammar of a piece inside. -/
def NestedGrammar.piece (grammar : NestedGrammar) (kinds : List TokenKind) : NestedGrammar :=
  ⟨grammar.within (Parser.weight kinds), grammar.within⟩

namespace ExpressionGrammar

open DifferenceTypes.Parser

/-- The grammar that knows no expression. -/
def nothing : ExpressionGrammar :=
  ⟨failure, failure, failure, failure, failure, failure, failure, failure⟩

instance : Inhabited ExpressionGrammar := ⟨nothing⟩

/-- Whether the next token can start an expression or a star. -/
def seesExpression : Parser Bool := do
  match ← peek with
  | .name _ | .number _ | .string _ => return true
  | .word found =>
    let starting : List ReservedWord :=
      [.falseWord, .noneWord, .trueWord, .awaitWord, .lambdaWord, .notWord]
    return starting.elem found
  | .symbol found =>
    let starting : List Symbol :=
      [.leftParenthesis, .leftBracket, .leftBrace, .plus, .minus, .tilde, .star, .ellipsis]
    return starting.elem found
  | _ => return false

/-! ### Targets -/

mutual

/-- Whether an expression may stand on the left of an assignment. -/
def isTarget {σ : Type} : Expr σ → Bool
  | .name .. | .attribute .. | .subscript .. => true
  | .starred _ (.starred ..) => false
  | .starred _ value => isTarget value
  | .tuple _ elements => areTargets elements
  | .list _ elements => areTargets elements
  | _ => false

/-- Whether all expressions may stand on the left of an assignment. -/
def areTargets {σ : Type} : List (Expr σ) → Bool
  | [] => true
  | first :: rest => isTarget first && areTargets rest

end

/-- Whether an expression may be declared or augmented: a name, an attribute or a subscript. -/
def isSingleTarget {σ : Type} : Expr σ → Bool
  | .name .. | .attribute .. | .subscript .. => true
  | _ => false

/-- One target of a loop or a context. -/
def target (inner : ExpressionGrammar) : Parser (Expr Extent) := do
  let start ← left
  if ← symbol? .star then
    let value ← inner.primary
    let found := Expr.starred (← extentFrom start) value
    if isTarget found then return found else failure
  else
    let found ← inner.primary
    if isTarget found then return found else failure

/-- The targets of a loop, up to the word `in`, which is not taken. -/
def targets (inner : ExpressionGrammar) : Parser (Expr Extent) := do
  let start ← left
  let first ← target inner
  if ← sees .comma then
    let others ← many do
      if ← symbol? .comma then
        if ← seesWord .inWord then return none else return some (← target inner)
      else return none
    return .tuple (← extentFrom start) (first :: others)
  else return first

/-! ### Comprehensions -/

/-- Whether a comprehension's `for` is next. -/
def seesClause : Parser Bool := do
  match ← peek with
  | .word .forWord => return true
  | .word .asyncWord => return (← peekSecond) == .word .forWord
  | _ => return false

/-- One `for` with its conditions. -/
def clause (inner : ExpressionGrammar) : Parser (Clause Extent) := do
  let isAsync ← word? .asyncWord
  word .forWord
  let found ← targets inner
  word .inWord
  let source ← inner.disjunction
  let conditions ← many do
    if ← word? .ifWord then return some (← inner.disjunction) else return none
  return .clause isAsync found source conditions

/-- All `for`s of a comprehension. -/
def clauses (inner : ExpressionGrammar) : Parser (List (Clause Extent)) := do
  many do
    if ← seesClause then return some (← clause inner) else return none

/-! ### Contents of brackets -/

/-- What a bracket holds. -/
inductive Contents (σ : Type) where
  /-- One expression, perhaps starred, without a comma. -/
  | single (value : Expr σ) (isStarred : Bool)
  /-- Expressions with commas, or none. -/
  | elements (values : List (Expr σ))
  | comprehension (element : Expr σ) (clauses : List (Clause σ))
  | entries (values : List (Entry σ))
  | entryComprehension (key value : Expr σ) (clauses : List (Clause σ))

/-- Other spans in the contents of a bracket. -/
def Contents.map {σ τ : Type} (change : σ → τ) : Contents σ → Contents τ
  | .single value isStarred => .single (value.map change) isStarred
  | .elements values => .elements (Expr.mapAll change values)
  | .comprehension element clauses =>
    .comprehension (element.map change) (Clause.mapAll change clauses)
  | .entries values => .entries (Entry.mapAll change values)
  | .entryComprehension key value clauses =>
    .entryComprehension (key.map change) (value.map change) (Clause.mapAll change clauses)

/-- Whether the piece has ended. -/
def isFinished : Parser Bool := do
  return (← peek) == .endOfText

/-- An expression of a bracket, and whether it is starred. -/
def element (inner : ExpressionGrammar) : Parser (Expr Extent × Bool) := do
  let start ← left
  if ← symbol? .star then
    let value ← inner.bitwiseOr
    return (.starred (← extentFrom start) value, true)
  else return (← inner.namedExpression, false)

/-- What follows the first element of a bracket. -/
def contentsFrom (inner : ExpressionGrammar) (first : Expr Extent) (isStarred : Bool) :
    Parser (Contents Extent) := do
  if !isStarred && (← seesClause) then return .comprehension first (← clauses inner)
  else if ← sees .comma then
    let others ← many do
      if ← symbol? .comma then
        if ← isFinished then return none else return some (← element inner).1
      else return none
    return .elements (first :: others)
  else return .single first isStarred

/-- What yields give, the word not yet taken. -/
def yieldExpression (inner : ExpressionGrammar) : Parser (Expr Extent) := do
  let start ← left
  word .yieldWord
  if ← word? .fromWord then
    let value ← inner.expression
    return .yieldFrom (← extentFrom start) value
  else if ← seesExpression then
    let value ← inner.starExpressions
    return .yield (← extentFrom start) (some value)
  else return .yield (← extentFrom start) none

/-- The contents of brackets. -/
def contents (inner : ExpressionGrammar) : Parser (Contents Extent) := do
  if ← isFinished then return .elements []
  else
    let (first, isStarred) ← element inner
    contentsFrom inner first isStarred

/-- The contents of parentheses. -/
def groupContents (inner : ExpressionGrammar) : Parser (Contents Extent) := do
  if ← seesWord .yieldWord then return .single (← yieldExpression inner) false else contents inner

/-- An entry of a dictionary. -/
def entry (inner : ExpressionGrammar) : Parser (Entry Extent) := do
  if ← symbol? .doubleStar then return .unpacked (← inner.bitwiseOr)
  else
    let key ← inner.expression
    symbol .colon
    return .pair key (← inner.expression)

/-- The entries of a dictionary from the first one on. -/
def entriesFrom (inner : ExpressionGrammar) (first : Entry Extent) : Parser (Contents Extent) := do
  let others ← many do
    if ← symbol? .comma then
      if ← isFinished then return none else return some (← entry inner)
    else return none
  return .entries (first :: others)

/-- Whether a name with `:=` behind it is next. -/
def seesNaming : Parser Bool := do
  match ← peek with
  | .name _ => return (← peekSecond) == .symbol .walrus
  | _ => return false

/-- The contents of braces. -/
def braceContents (inner : ExpressionGrammar) : Parser (Contents Extent) := do
  if ← isFinished then return .entries []
  else if ← sees .doubleStar then entriesFrom inner (← entry inner)
  else
    let isNaming ← seesNaming
    let (first, isStarred) ← element inner
    if !isNaming && !isStarred && (← symbol? .colon) then
      let value ← inner.expression
      if ← seesClause then return .entryComprehension first value (← clauses inner)
      else entriesFrom inner (.pair first value)
    else contentsFrom inner first isStarred

/-- The contents of a bracket, parsed alone. -/
def inBrackets (inner : NestedGrammar) (opening : Symbol)
    (parser : ExpressionGrammar → Parser (Contents Extent)) : Parser (Contents Extent) := do
  let (piece, behind) ← enclosed opening
  alone Contents.map (parser (inner.piece piece).toExpressionGrammar) piece behind

/-- Parentheses: a tuple, a generator, or an expression that they only group. -/
def parenthesized (inner : NestedGrammar) : Parser (Expr Extent) := do
  let start ← left
  match ← inBrackets inner .leftParenthesis groupContents with
  | .single value isStarred => if isStarred then failure else return value
  | .elements values => return .tuple (← extentFrom start) values
  | .comprehension first found => return .generator (← extentFrom start) first found
  | _ => failure

/-- Brackets: a list or a list comprehension. -/
def bracketed (inner : NestedGrammar) : Parser (Expr Extent) := do
  let start ← left
  match ← inBrackets inner .leftBracket contents with
  | .single value _ => return .list (← extentFrom start) [value]
  | .elements values => return .list (← extentFrom start) values
  | .comprehension first found => return .listComprehension (← extentFrom start) first found
  | _ => failure

/-- Braces: a dictionary, a set or a comprehension of either. -/
def braced (inner : NestedGrammar) : Parser (Expr Extent) := do
  let start ← left
  match ← inBrackets inner .leftBrace braceContents with
  | .single value _ => return .set (← extentFrom start) [value]
  | .elements values => return .set (← extentFrom start) values
  | .comprehension first found => return .setComprehension (← extentFrom start) first found
  | .entries values => return .dictionary (← extentFrom start) values
  | .entryComprehension key value found =>
    return .dictionaryComprehension (← extentFrom start) key value found

/-! ### Atoms -/

/-- An expression of an f-string, read as if it stood in parentheses. All of it is said to be where
the string is. -/
def interpolated (inner : NestedGrammar) (extent : Extent) (source : List Char) :
    Option (Expr Extent) :=
  match Lexer.line? ('(' :: source ++ [')', '\n']) with
  | some (line, []) =>
    let kinds := line.tokens.map (·.kind)
    (alone Expr.map (inner.piece kinds).starExpressions kinds 0).map (Expr.map fun _ => extent)
  | _ => none

/-- Strings one after the other. -/
def strings (inner : NestedGrammar) : Parser (Expr Extent) := do
  let start ← left
  let literals ← many do
    match ← peek with
    | .string literal =>
      discard take
      return some literal
    | _ => return none
  let extent ← extentFrom start
  StringLiteral.combine? (interpolated inner extent) extent literals

/-- A name, a literal or a bracket. -/
def atom (inner : NestedGrammar) : Parser (Expr Extent) := do
  let start ← left
  let literal (value : Constant) : Parser (Expr Extent) := do
    discard take
    return .constant (← extentFrom start) value
  match ← peek with
  | .name spelling =>
    discard take
    return .name (← extentFrom start) (normalized spelling)
  | .word .trueWord => literal (.truth true)
  | .word .falseWord => literal (.truth false)
  | .word .noneWord => literal .none
  | .symbol .ellipsis => literal .ellipsis
  | .number value => literal value
  | .string _ => strings inner
  | .symbol .leftParenthesis => parenthesized inner
  | .symbol .leftBracket => bracketed inner
  | .symbol .leftBrace => braced inner
  | _ => failure

/-! ### Calls and subscripts -/

/-- One argument of a call. A generator may be the only argument without parentheses of its own. -/
inductive Argument (σ : Type) where
  | positional (value : Expr σ)
  | keyword (value : Keyword σ)
  | generated (element : Expr σ) (clauses : List (Clause σ))

/-- Other spans in an argument. -/
def Argument.map {σ τ : Type} (change : σ → τ) : Argument σ → Argument τ
  | .positional value => .positional (value.map change)
  | .keyword value => .keyword (value.map change)
  | .generated element clauses => .generated (element.map change) (Clause.mapAll change clauses)

/-- Whether a name with an equals sign behind it is next. -/
def seesKeyword : Parser Bool := do
  match ← peek with
  | .name _ => return (← peekSecond) == .symbol .equal
  | _ => return false

/-- An argument. -/
def argument (inner : ExpressionGrammar) : Parser (Argument Extent) := do
  let start ← left
  if ← seesKeyword then
    let name ← identifier
    symbol .equal
    let value ← inner.expression
    return .keyword (.named (← extentFrom start) name value)
  else if ← symbol? .doubleStar then
    let value ← inner.expression
    return .keyword (.unpacked (← extentFrom start) value)
  else if ← symbol? .star then
    let value ← inner.expression
    return .positional (.starred (← extentFrom start) value)
  else
    let value ← inner.namedExpression
    if ← seesClause then return .generated value (← clauses inner) else return .positional value

/-- Positional arguments and keywords apart. Behind a keyword only stars and keywords may follow,
behind an unpacked mapping only keywords and mappings. -/
def sortArguments? {σ : Type} : Bool → Bool → List (Argument σ) →
    Option (List (Expr σ) × List (Keyword σ))
  | _, _, [] => some ([], [])
  | keywordSeen, mappingSeen, .positional value :: rest =>
    let mayFollow := match value with
      | .starred .. => !mappingSeen
      | _ => !keywordSeen
    if mayFollow then
      (sortArguments? keywordSeen mappingSeen rest).map fun (positional, keywords) =>
        (value :: positional, keywords)
    else none
  | _, mappingSeen, .keyword value :: rest =>
    let isMapping := match value with
      | .unpacked .. => true
      | .named .. => false
    (sortArguments? true (mappingSeen || isMapping) rest).map fun (positional, keywords) =>
      (positional, value :: keywords)
  | _, _, .generated .. :: _ => none

/-- Arguments in parentheses. The span of a generator without parentheses of its own takes those of
the call. -/
def arguments (inner : NestedGrammar) (mayGenerate : Bool) :
    Parser (List (Expr Extent) × List (Keyword Extent)) := do
  let start ← left
  let (piece, behind) ← enclosed .leftParenthesis
  let found ← eachAlone Argument.map
    (fun kinds => argument (inner.piece kinds).toExpressionGrammar) (elementsOf piece) behind
  match found with
  | [.generated element generated] =>
    if mayGenerate && (splitCommas .outside piece).length == 1 then
      return ([.generator (← extentFrom start) element generated], [])
    else failure
  | _ => sortArguments? false false found

/-- A subscript or one element of several, and whether it is starred. -/
def sliceElement (inner : ExpressionGrammar) : Parser (Expr Extent) := do
  let start ← left
  let bound : Parser (Option (Expr Extent)) := do
    match ← peek with
    | .symbol .colon | .endOfText => return none
    | _ => return some (← inner.expression)
  let sliceFrom (lower : Option (Expr Extent)) : Parser (Expr Extent) := do
    symbol .colon
    let upper ← bound
    let step ← if ← symbol? .colon then bound else pure none
    return .slice (← extentFrom start) lower upper step
  if ← symbol? .star then
    let value ← inner.expression
    return .starred (← extentFrom start) value
  else if ← sees .colon then sliceFrom none
  else if ← seesNaming then inner.namedExpression
  else
    let first ← inner.expression
    if ← sees .colon then sliceFrom (some first) else return first

/-- What stands in the brackets of a subscript. Several elements, a comma or a star make a tuple,
which ends before the bracket. -/
def subscriptIndex (inner : NestedGrammar) : Parser (Expr Extent) := do
  let (piece, behind) ← enclosed .leftBracket
  let found ← eachAlone Expr.map
    (fun kinds => sliceElement (inner.piece kinds).toExpressionGrammar) (elementsOf piece) behind
  match found, (splitCommas .outside piece).length with
  | [], _ => failure
  | [.starred extent value], 1 =>
    return .tuple ⟨behind + piece.length, behind⟩ [.starred extent value]
  | [single], 1 => return single
  | several, _ => return .tuple ⟨behind + piece.length, behind⟩ several

/-- One attribute, call or subscript behind an expression that starts at the position. -/
def trailer? (inner : NestedGrammar) (start : Nat) (value : Expr Extent) :
    Parser (Option (Expr Extent)) := do
  match ← peek with
  | .symbol .dot =>
    discard take
    let name ← identifier
    return some (.attribute (← extentFrom start) value name)
  | .symbol .leftParenthesis =>
    let (positional, keywords) ← arguments inner true
    return some (.call (← extentFrom start) value positional keywords)
  | .symbol .leftBracket =>
    let index ← subscriptIndex inner
    return some (.subscript (← extentFrom start) value index)
  | _ => return none

/-- An atom with attributes, calls and subscripts behind it. -/
def primaryOf (inner : NestedGrammar) : Parser (Expr Extent) := do
  let start ← left
  let first ← atom inner
  repeated (trailer? inner start) first

/-- A primary, perhaps behind `await`. -/
def awaitPrimary (inner : NestedGrammar) : Parser (Expr Extent) := do
  let start ← left
  if ← word? .awaitWord then
    let value ← primaryOf inner
    return .await (← extentFrom start) value
  else primaryOf inner

/-! ### Operators -/

/-- Operands of one binding strength, grouped to the left. -/
def leftGrouped (operand : Parser (Expr Extent)) (operator? : Symbol → Option BinaryOperator) :
    Parser (Expr Extent) := do
  let start ← left
  let first ← operand
  repeated (fun left => do
    match ← peek with
    | .symbol found =>
      match operator? found with
      | some operator =>
        discard take
        let right ← operand
        return some (.binary (← extentFrom start) left operator right)
      | none => return none
    | _ => return none) first

/-- A power, grouped to the right; the exponent may have a sign. -/
def power (inner : NestedGrammar) : Parser (Expr Extent) := do
  let start ← left
  let base ← awaitPrimary inner
  if ← symbol? .doubleStar then
    let exponent ← inner.factor
    return .binary (← extentFrom start) base .power exponent
  else return base

/-- The operator of a sign. -/
def sign? : Symbol → Option UnaryOperator
  | .plus => some .plus
  | .minus => some .minus
  | .tilde => some .invert
  | _ => none

/-- A power behind signs. -/
def factorOf (inner : NestedGrammar) : Parser (Expr Extent) := do
  let start ← left
  match ← peek with
  | .symbol found =>
    match sign? found with
    | some operator =>
      discard take
      let operand ← inner.factor
      return .unary (← extentFrom start) operator operand
    | none => power inner
  | _ => power inner

/-- The operators between factors. -/
def termOperator? : Symbol → Option BinaryOperator
  | .star => some .multiply
  | .slash => some .divide
  | .doubleSlash => some .floorDivide
  | .percent => some .remainder
  | .at => some .matrixMultiply
  | _ => none

/-- The operators between terms. -/
def sumOperator? : Symbol → Option BinaryOperator
  | .plus => some .add
  | .minus => some .subtract
  | _ => none

/-- The operators between sums. -/
def shiftOperator? : Symbol → Option BinaryOperator
  | .shiftLeft => some .shiftLeft
  | .shiftRight => some .shiftRight
  | _ => none

/-- The one operator of a level. -/
def only (wanted : Symbol) (operator : BinaryOperator) (found : Symbol) : Option BinaryOperator :=
  if found == wanted then some operator else none

/-- Operands of a comparison. -/
def bitwiseOrOf (inner : NestedGrammar) : Parser (Expr Extent) :=
  let term := leftGrouped (factorOf inner) termOperator?
  let sum := leftGrouped term sumOperator?
  let shift := leftGrouped sum shiftOperator?
  let bitAnd := leftGrouped shift (only .ampersand .bitAnd)
  let bitXor := leftGrouped bitAnd (only .caret .bitXor)
  leftGrouped bitXor (only .bar .bitOr)

/-- Takes a comparison operator if one is next. -/
def comparisonOperator? : Parser (Option ComparisonOperator) := do
  let one (operator : ComparisonOperator) : Parser (Option ComparisonOperator) := do
    discard take
    return some operator
  match ← peek with
  | .symbol .doubleEqual => one .equal
  | .symbol .notEqual => one .notEqual
  | .symbol .less => one .less
  | .symbol .lessEqual => one .lessEqual
  | .symbol .greater => one .greater
  | .symbol .greaterEqual => one .greaterEqual
  | .word .inWord => one .isIn
  | .word .notWord =>
    if (← peekSecond) == .word .inWord then
      discard take
      one .isNotIn
    else return none
  | .word .isWord =>
    discard take
    if ← word? .notWord then return some .isNot else return some .is
  | _ => return none

/-- A comparison chain. -/
def comparison (inner : NestedGrammar) : Parser (Expr Extent) := do
  let start ← left
  let first ← bitwiseOrOf inner
  let steps ← many do
    match ← comparisonOperator? with
    | some operator => return some (Comparison.step operator (← bitwiseOrOf inner))
    | none => return none
  if steps.isEmpty then return first else return .comparison (← extentFrom start) first steps

/-- A comparison behind `not`s. -/
def inversionOf (inner : NestedGrammar) : Parser (Expr Extent) := do
  let start ← left
  if ← word? .notWord then
    let operand ← inner.inversion
    return .unary (← extentFrom start) .not operand
  else comparison inner

/-- Operands joined by one word. -/
def joinedBy (operand : Parser (Expr Extent)) (joining : ReservedWord) (operator : BooleanOperator) :
    Parser (Expr Extent) := do
  let start ← left
  let first ← operand
  let others ← many do
    if ← word? joining then return some (← operand) else return none
  if others.isEmpty then return first
  else return .boolean (← extentFrom start) operator (first :: others)

/-- Operands of a conditional. -/
def disjunctionOf (inner : NestedGrammar) : Parser (Expr Extent) :=
  joinedBy (joinedBy (inversionOf inner) .andWord .and) .orWord .or

/-! ### Parameters -/

/-- The parameters found so far, latest first in each list. A bare star waits for a parameter behind
it. -/
structure FoundParameters where
  positionalOnly : List (Parameter Extent)
  positional : List (Parameter Extent)
  rest : Option (Parameter Extent)
  keywordOnly : List (Parameter Extent)
  keywordRest : Option (Parameter Extent)
  slashSeen : Bool
  starSeen : Bool
  bareStar : Bool
  defaultSeen : Bool

/-- The type behind a parameter's colon, if types may be declared here. -/
def declaredType? (typed : Bool) (type : Parser (Expr Extent)) : Parser (Option (Expr Extent)) := do
  if typed then
    if ← symbol? .colon then return some (← type) else return none
  else return none

/-- One expression, perhaps starred. -/
def starExpression (inner : ExpressionGrammar) : Parser (Expr Extent) := do
  let start ← left
  if ← symbol? .star then
    let value ← inner.bitwiseOr
    return .starred (← extentFrom start) value
  else inner.expression

/-- One more item of a parameter list. -/
def parameterItem (inner : ExpressionGrammar) (typed : Bool) (found : FoundParameters) :
    Parser FoundParameters := do
  if found.keywordRest.isSome then failure
  else if ← symbol? .slash then
    if found.slashSeen || found.starSeen || found.positional.isEmpty then failure
    else
      return { found with positionalOnly := found.positional, positional := [], slashSeen := true }
  else if ← symbol? .star then
    if found.starSeen then failure
    else if ← sees .comma then return { found with starSeen := true, bareStar := true }
    else
      let name ← identifier
      let type ← declaredType? typed (starExpression inner)
      return { found with starSeen := true, rest := some (.parameter name type none) }
  else if ← symbol? .doubleStar then
    if found.bareStar then failure
    else
      let name ← identifier
      let type ← declaredType? typed inner.expression
      return { found with keywordRest := some (.parameter name type none) }
  else
    let name ← identifier
    let type ← declaredType? typed inner.expression
    let default ← if ← symbol? .equal then some <$> inner.expression else pure none
    let parameter := Parameter.parameter name type default
    if found.starSeen then
      return { found with keywordOnly := parameter :: found.keywordOnly, bareStar := false }
    else if default.isNone && found.defaultSeen then failure
    else return { found with
      positional := parameter :: found.positional, defaultSeen := found.defaultSeen ||
        default.isSome }

/-- The parameters up to a closing symbol, which is taken. -/
def parameters (inner : ExpressionGrammar) (typed : Bool) (closing : Symbol) :
    Parser (Parameters Extent) := do
  let (found, _) ← repeated (fun (state : FoundParameters × Bool) => do
    let (found, finished) := state
    if finished then return none
    else if ← symbol? closing then return some (found, true)
    else
      let found ← parameterItem inner typed found
      if ← symbol? .comma then return some (found, false)
      else
        symbol closing
        return some (found, true))
    (⟨[], [], none, [], none, false, false, false, false⟩, false)
  if found.bareStar then failure
  else
    return .parameters found.positionalOnly.reverse found.positional.reverse found.rest
      found.keywordOnly.reverse
      found.keywordRest

/-! ### Whole expressions -/

/-- A conditional, a lambda, or an expression that binds stronger. -/
def expressionOf (inner : NestedGrammar) : Parser (Expr Extent) := do
  let start ← left
  if ← word? .lambdaWord then
    let found ← parameters inner.toExpressionGrammar false .colon
    let body ← inner.expression
    return .lambda (← extentFrom start) found body
  else
    let first ← disjunctionOf inner
    if ← word? .ifWord then
      let test ← inner.disjunction
      word .elseWord
      let whenFalse ← inner.expression
      return .conditional (← extentFrom start) test first whenFalse
    else return first

/-- An expression, perhaps behind a name and `:=`. -/
def namedExpressionOf (inner : NestedGrammar) : Parser (Expr Extent) := do
  let start ← left
  if ← seesNaming then
    let name ← identifier
    let span ← extentFrom start
    symbol .walrus
    let value ← inner.expression
    return .assignment (← extentFrom start) (.name span name) value
  else expressionOf inner

/-- One expression of a tuple without parentheses. -/
def starExpressionOf (inner : NestedGrammar) : Parser (Expr Extent) := do
  let start ← left
  if ← symbol? .star then
    let value ← bitwiseOrOf inner
    return .starred (← extentFrom start) value
  else expressionOf inner

/-- A tuple without parentheses, or one expression. -/
def starExpressionsOf (inner : NestedGrammar) : Parser (Expr Extent) := do
  let start ← left
  let first ← starExpressionOf inner
  if ← sees .comma then
    let others ← many do
      if ← symbol? .comma then
        if ← seesExpression then return some (← starExpressionOf inner) else return none
      else return none
    return .tuple (← extentFrom start) (first :: others)
  else return first

/-- The grammar with one more level of nesting. -/
def deepen (inner : NestedGrammar) : ExpressionGrammar where
  starExpressions := starExpressionsOf inner
  namedExpression := namedExpressionOf inner
  expression := expressionOf inner
  disjunction := disjunctionOf inner
  inversion := inversionOf inner
  bitwiseOr := bitwiseOrOf inner
  factor := factorOf inner
  primary := primaryOf inner

/-- The grammar of expressions that nest up to a depth besides their brackets. -/
def ofDepth (within : Nat → ExpressionGrammar) : Nat → ExpressionGrammar
  | 0 => nothing
  | depth + 1 => deepen ⟨ofDepth within depth, within⟩

/-- The grammars of pieces by their weight, which is below a bound. -/
def upTo : Nat → Nat → ExpressionGrammar
  | 0, _ => nothing
  | bound + 1, weight =>
    if weight < bound then upTo bound weight else ofDepth (upTo bound) (bound + 1)

end ExpressionGrammar

/-- The grammar of a piece of a weight, with those of the pieces inside. -/
def NestedGrammar.ofWeight (weight : Nat) : NestedGrammar :=
  ⟨ExpressionGrammar.upTo (weight + 1) weight, ExpressionGrammar.upTo weight⟩

namespace ExpressionGrammar

open DifferenceTypes.Parser

/-- Expressions without stars as all there is, with a comma making a tuple. -/
def wholeExpression? (kinds : List TokenKind) : Option (Expr Extent) := do
  let found ← eachAlone Expr.map (fun piece => (NestedGrammar.ofWeight (weight piece)).expression)
    (elementsOf kinds) 0
  match found, (splitCommas .outside kinds).length with
  | [], _ => none
  | [single], 1 => some single
  | several, _ => some (.tuple ⟨kinds.length, 0⟩ several)

end ExpressionGrammar

/-- The span of an extent in a piece of source text, from the start of its first token to behind the
last visible one. -/
def Extent.toSpan (tokens : List Token) (extent : Extent) : Span :=
  let first := (tokens.drop (tokens.length - extent.start)).head?
  let taken := tokens.take (tokens.length - extent.stop)
  let last := taken.reverse.find? (·.kind.isVisible)
  ⟨(first.map (·.span.start)).getD default, (last.map (·.span.stop)).getD default⟩

/-- Source characters with a line end behind the last line. -/
def withFinalLineEnd (source : List Char) : List Char :=
  match source.getLast? with
  | none => source
  | some last => if last == '\n' then source else source ++ ['\n']

/-- A text as one expression, on a line without indentation. The text may end without a line end. -/
def Expr.parse? (source : List Char) : Option Expr := do
  let lines ← Lexer.lines? (withFinalLineEnd source)
  match (Layout.place 0 lines).filter (!·.isBlank) with
  | [line] =>
    if line.indentation.columns > 0 then none
    else
      let found ← ExpressionGrammar.wholeExpression? (line.tokens.map (·.kind))
      some (found.map (Extent.toSpan line.tokens))
  | _ => none

end DifferenceTypes
