import DifferenceTypes.Syntax.Parser.Pattern

/-!
# Parsing statements

A module is a list of statements. Compound statements hold blocks, and a block is read by a parser
that is passed along, one level of nesting less deep. The words `match` and `case` are names
everywhere but where a `match` block can be read, and there the block is tried first.

Whether a statement assigns, declares or only evaluates is decided behind its first expression: what
stands there then has to be a target. This agrees with trying the forms one after the other, as
every target is an expression.
-/

namespace DifferenceTypes.StatementGrammar

open DifferenceTypes.Parser ExpressionGrammar

/-! ### Simple statements -/

/-- The operator of an augmented assignment. -/
def augmentedOperator? : Symbol → Option BinaryOperator
  | .plusEqual => some .add
  | .minusEqual => some .subtract
  | .starEqual => some .multiply
  | .atEqual => some .matrixMultiply
  | .slashEqual => some .divide
  | .doubleSlashEqual => some .floorDivide
  | .percentEqual => some .remainder
  | .doubleStarEqual => some .power
  | .shiftLeftEqual => some .shiftLeft
  | .shiftRightEqual => some .shiftRight
  | .barEqual => some .bitOr
  | .caretEqual => some .bitXor
  | .ampersandEqual => some .bitAnd
  | _ => none

/-- A value on the right of an assignment. -/
def assigned (expressions : NestedGrammar) : Parser (Expr Extent) := do
  if ← seesWord .yieldWord then yieldExpression expressions.toExpressionGrammar else expressions.starExpressions

/-- The values of an assignment, each but the last a target. -/
def assignment (expressions : NestedGrammar) (start : Nat) (first : Expr Extent) :
    Parser (Stmt Extent) := do
  let others ← many do
    if ← symbol? .equal then return some (← assigned expressions) else return none
  let values := first :: others
  let targets := values.dropLast
  match values.getLast? with
  | some value =>
    if areTargets targets then return .assign (← extentFrom start) targets value else failure
  | none => failure

/-- A declaration whose target is read already. The declared type is a piece of its own. -/
def declaration (expressions : NestedGrammar) (start : Nat) (target : Expr Extent)
    (simple : Bool) : Parser (Stmt Extent) := do
  symbol .colon
  let (piece, behind) ← takeBefore fun kind => kind == .symbol .equal || kind == .symbol .semicolon
  let type ← alone Expr.map (expressions.piece piece).expression piece behind
  let value ← if ← symbol? .equal then some <$> assigned expressions else pure none
  return .declare (← extentFrom start) target type value simple

/-- A statement that starts with an expression. -/
def expressionStatement (expressions : NestedGrammar) : Parser (Stmt Extent) := do
  let start ← left
  let startsWithName := match ← peek with
    | .name _ => true
    | _ => false
  let first ← assigned expressions
  let isName := match first with
    | .name .. => true
    | _ => false
  match ← peek with
  | .symbol .equal => assignment expressions start first
  | .symbol .colon =>
    if isSingleTarget first then declaration expressions start first (startsWithName && isName)
    else failure
  | .symbol found =>
    match augmentedOperator? found with
    | some operator =>
      if isSingleTarget first then
        discard take
        let value ← assigned expressions
        return .augment (← extentFrom start) first operator value
      else failure
    | none => return .expression (← extentFrom start) first
  | _ => return .expression (← extentFrom start) first

mutual

/-- Whether an expression may be deleted: a target without stars. -/
def isDeletable {σ : Type} : Expr σ → Bool
  | .name .. | .attribute .. | .subscript .. => true
  | .tuple _ elements => areDeletable elements
  | .list _ elements => areDeletable elements
  | _ => false

/-- Whether all expressions may be deleted. -/
def areDeletable {σ : Type} : List (Expr σ) → Bool
  | [] => true
  | first :: rest => isDeletable first && areDeletable rest

end

/-- A `del` statement behind its word. -/
def deletion (expressions : NestedGrammar) (start : Nat) : Parser (Stmt Extent) := do
  let first ← expressions.primary
  let others ← many do
    if ← symbol? .comma then
      if ← seesExpression then return some (← expressions.primary) else return none
    else return none
  let targets := first :: others
  if areDeletable targets then return .delete (← extentFrom start) targets else failure

/-- A name with dots between its parts. -/
def dottedName : Parser String := do
  let first ← identifier
  let others ← many do
    if ← symbol? .dot then return some (← identifier) else return none
  return ".".intercalate (first :: others)

/-- The name behind `as`, if there is one. -/
def aliasName : Parser (Option String) := do
  if ← word? .asWord then return some (← identifier) else return none

/-- A module and the name it is bound to. -/
def importedModule : Parser ImportedName := do
  let path ← dottedName
  return ⟨path, ← aliasName⟩

/-- A name of a module and the name it is bound to. -/
def importedMember : Parser ImportedName := do
  let name ← identifier
  return ⟨name, ← aliasName⟩

/-- The dots in front of a module's name. -/
def dots : Parser Nat := do
  let counts ← many do
    if ← symbol? .dot then return some 1
    else if ← symbol? .ellipsis then return some 3
    else return none
  return counts.foldl (· + ·) 0

/-- A `from` statement behind its word. -/
def importFrom (start : Nat) : Parser (Stmt Extent) := do
  let level ← dots
  let path ← match ← peek with
    | .name _ => some <$> dottedName
    | _ => pure none
  if level == 0 && path.isNone then failure
  else
    word .importWord
    if ← symbol? .star then return .importsFrom (← extentFrom start) level path [⟨"*", none⟩]
    else if ← symbol? .leftParenthesis then
      let (names, _) ← listUntil importedMember .rightParenthesis
      if names.isEmpty then failure else return .importsFrom (← extentFrom start) level path names
    else
      let names ← separated importedMember
      return .importsFrom (← extentFrom start) level path names

/-- One statement of a line. -/
def simple (expressions : NestedGrammar) : Parser (Stmt Extent) := do
  let start ← left
  let optional : Parser (Option (Expr Extent)) := do
    if ← seesExpression then return some (← expressions.starExpressions) else return none
  match ← peek with
  | .word .returnWord =>
    discard take
    let value ← optional
    return .returns (← extentFrom start) value
  | .word .importWord =>
    discard take
    let names ← separated importedModule
    return .imports (← extentFrom start) names
  | .word .fromWord =>
    discard take
    importFrom start
  | .word .raiseWord =>
    discard take
    if ← seesExpression then
      let exception ← expressions.expression
      let cause ← if ← word? .fromWord then some <$> expressions.expression else pure none
      return .raises (← extentFrom start) (some exception) cause
    else return .raises (← extentFrom start) none none
  | .word .passWord =>
    discard take
    return .pass (← extentFrom start)
  | .word .delWord =>
    discard take
    deletion expressions start
  | .word .assertWord =>
    discard take
    let test ← expressions.expression
    let message ← if ← symbol? .comma then some <$> expressions.expression else pure none
    return .asserts (← extentFrom start) test message
  | .word .breakWord =>
    discard take
    return .breaks (← extentFrom start)
  | .word .continueWord =>
    discard take
    return .continues (← extentFrom start)
  | .word .globalWord =>
    discard take
    let names ← separated identifier
    return .globals (← extentFrom start) names
  | .word .nonlocalWord =>
    discard take
    let names ← separated identifier
    return .nonlocals (← extentFrom start) names
  | _ => expressionStatement expressions

/-- Statements with semicolons between them. -/
def simples (expressions : NestedGrammar) : Parser (List (Stmt Extent)) := do
  let first ← simple expressions
  let others ← many do
    if ← symbol? .semicolon then
      if ← isFinished then return none else return some (← simple expressions)
    else return none
  return first :: others

/-- The rest of the line, parsed alone, and its end. -/
def restOfLine {α : Type} (change : (Extent → Extent) → α → α) (expressions : NestedGrammar)
    (parser : NestedGrammar → Parser α) : Parser α := do
  let piece := (← get).takeWhile (· != .newline)
  let rest := (← get).drop piece.length
  set rest
  let found ← alone change (parser (expressions.piece piece)) piece rest.length
  expect .newline
  return found

/-- A line of statements. -/
def simpleLine (expressions : NestedGrammar) : Parser (List (Stmt Extent)) :=
  restOfLine Stmt.mapAll expressions simples

/-! ### Compound statements -/

/-- The block behind `else`, if there is one. -/
def elseBlock (block : Parser (List (Stmt Extent))) : Parser (List (Stmt Extent)) := do
  if ← word? .elseWord then
    symbol .colon
    block
  else return []

/-- An `if` with its `elif`s; every `elif` is an `if` in the `else` of the one before. -/
def conditional (expressions : NestedGrammar) (block : Parser (List (Stmt Extent))) : Parser (Stmt Extent) := do
  let branch (opening : ReservedWord) :
      Parser (Option (Nat × Expr Extent × List (Stmt Extent))) := do
    let start ← left
    if ← word? opening then
      let test ← expressions.namedExpression
      symbol .colon
      return some (start, test, ← block)
    else return none
  match ← branch .ifWord with
  | none => failure
  | some first =>
    let others ← many (branch .elifWord)
    let last ← elseBlock block
    let stop ← left
    let nest := fun (start, test, body) otherwise =>
      [Stmt.conditional ⟨start, stop⟩ test body otherwise]
    match (first :: others).foldr nest last with
    | [found] => return found
    | _ => failure

/-- A `while` loop. -/
def whileLoop (expressions : NestedGrammar) (block : Parser (List (Stmt Extent))) : Parser (Stmt Extent) := do
  let start ← left
  word .whileWord
  let test ← expressions.namedExpression
  symbol .colon
  let body ← block
  let otherwise ← elseBlock block
  return .whileLoop (← extentFrom start) test body otherwise

/-- A `for` loop whose span starts at the position. -/
def forLoop (expressions : NestedGrammar) (block : Parser (List (Stmt Extent))) (start : Nat)
    (isAsync : Bool) : Parser (Stmt Extent) := do
  word .forWord
  let found ← targets expressions.toExpressionGrammar
  word .inWord
  let source ← expressions.starExpressions
  symbol .colon
  let body ← block
  let otherwise ← elseBlock block
  return .forLoop (← extentFrom start) isAsync found source body otherwise

/-- One context of a `with` statement. -/
def context (expressions : NestedGrammar) : Parser (Context Extent) := do
  let value ← expressions.expression
  if ← word? .asWord then
    let found ← target expressions.toExpressionGrammar
    match ← peek with
    | .symbol .comma | .symbol .rightParenthesis | .symbol .colon => return ⟨value, some found⟩
    | _ => failure
  else return ⟨value, none⟩

/-- The contexts in parentheses, with the colon behind them. -/
def contextsInParentheses (expressions : NestedGrammar) : Parser (List (Context Extent)) := do
  symbol .leftParenthesis
  let (contexts, _) ← listUntil (context expressions) .rightParenthesis
  symbol .colon
  if contexts.isEmpty then failure else return contexts

/-- The contexts without parentheses, with the colon behind them. -/
def contextsInLine (expressions : NestedGrammar) : Parser (List (Context Extent)) := do
  let contexts ← separated (context expressions)
  symbol .colon
  return contexts

/-- A `with` statement whose span starts at the position. -/
def withBlock (expressions : NestedGrammar) (block : Parser (List (Stmt Extent))) (start : Nat)
    (isAsync : Bool) : Parser (Stmt Extent) := do
  word .withWord
  let contexts ← contextsInParentheses expressions <|> contextsInLine expressions
  let body ← block
  return .withBlock (← extentFrom start) isAsync contexts body

/-- One handler, if the next word is `except`, and whether it is written with a star. -/
def handler? (expressions : NestedGrammar) (block : Parser (List (Stmt Extent))) :
    Parser (Option (Handler Extent × Bool)) := do
  if ← word? .exceptWord then
    let isGroup ← symbol? .star
    if !isGroup && (← symbol? .colon) then return some (.handler none none (← block), false)
    else
      let type ← expressions.expression
      let name ← aliasName
      symbol .colon
      return some (.handler (some type) name (← block), isGroup)
  else return none

/-- A `try` statement. Its handlers are either all written with a star or none of them. -/
def tryBlock (expressions : NestedGrammar) (block : Parser (List (Stmt Extent))) : Parser (Stmt Extent) := do
  let start ← left
  word .tryWord
  symbol .colon
  let body ← block
  let handlers ← many (handler? expressions block)
  let isGroup := handlers.any (·.2)
  if isGroup && !handlers.all (·.2) then failure
  else
    let otherwise ← if handlers.isEmpty then pure [] else elseBlock block
    let cleanup ← if ← word? .finallyWord then do
        symbol .colon
        block
      else pure []
    if handlers.isEmpty && cleanup.isEmpty then failure
    else return .tryBlock (← extentFrom start) isGroup body (handlers.map (·.1)) otherwise cleanup

/-- A class without its decorators. -/
def classDefinition (expressions : NestedGrammar) (block : Parser (List (Stmt Extent))) :
    Parser (Stmt Extent) := do
  let start ← left
  word .classWord
  let name ← identifier
  let (bases, keywords) ←
    if ← sees .leftParenthesis then arguments expressions false else pure ([], [])
  symbol .colon
  let body ← block
  return .classDefinition (← extentFrom start) name bases keywords body []

/-- A function without its decorators, whose extent starts where told. -/
def function (expressions : NestedGrammar) (block : Parser (List (Stmt Extent))) (start : Nat)
    (isAsync : Bool) : Parser (Stmt Extent) := do
  word .defWord
  let name ← identifier
  symbol .leftParenthesis
  let found ← parameters expressions.toExpressionGrammar true .rightParenthesis
  let result ← if ← symbol? .arrow then some <$> expressions.expression else pure none
  symbol .colon
  let body ← block
  return .function (← extentFrom start) isAsync name found body [] result

/-- What `async` starts. -/
def asynchronous (expressions : NestedGrammar) (block : Parser (List (Stmt Extent))) :
    Parser (Stmt Extent) := do
  let start ← left
  word .asyncWord
  if ← seesWord .defWord then function expressions block start true
  else if ← seesWord .forWord then forLoop expressions block start true
  else withBlock expressions block start true

/-- A decorator with the line that it stands on. -/
def decorator (expressions : NestedGrammar) : Parser (Expr Extent) := do
  symbol .at
  restOfLine Expr.map expressions (·.namedExpression)

/-- A definition behind decorators. -/
def decorated (expressions : NestedGrammar) (block : Parser (List (Stmt Extent))) :
    Parser (Stmt Extent) := do
  let found ← many do
    if ← sees .at then return some (← decorator expressions) else return none
  let start ← left
  let definition ← match ← peek with
    | .word .classWord => classDefinition expressions block
    | .word .defWord => function expressions block start false
    | .word .asyncWord => asynchronous expressions block
    | _ => failure
  definition.decorate? found

/-- What a `match` statement matches. -/
def subject (expressions : NestedGrammar) : Parser (Expr Extent) := do
  let start ← left
  let (first, isStarred) ← element expressions.toExpressionGrammar
  if ← sees .comma then
    let others ← many do
      if ← symbol? .comma then
        if ← sees .colon then return none else return some (← element expressions.toExpressionGrammar).1
      else return none
    return .tuple (← extentFrom start) (first :: others)
  else if isStarred then failure
  else return first

/-- One `case`. -/
def case? (expressions : NestedGrammar) (patterns : Parser (Pattern Extent))
    (block : Parser (List (Stmt Extent))) : Parser (Option (Case Extent)) := do
  if ← PatternGrammar.seesSpelling "case" then
    discard take
    let pattern ← PatternGrammar.head patterns
    let guard ← if ← word? .ifWord then some <$> expressions.namedExpression else pure none
    symbol .colon
    return some (.case pattern guard (← block))
  else return none

/-- A `match` statement. -/
def matchBlock (expressions : NestedGrammar) (patterns : Parser (Pattern Extent))
    (block : Parser (List (Stmt Extent))) : Parser (Stmt Extent) := do
  let start ← left
  discard take
  let found ← subject expressions
  symbol .colon
  expect .newline
  expect .indent
  let cases ← many (case? expressions patterns block)
  expect .dedent
  if cases.isEmpty then failure else return .matchBlock (← extentFrom start) found cases

/-- A compound statement, or the statements of a line. -/
def statement (expressions : NestedGrammar) (patterns : Parser (Pattern Extent))
    (block : Parser (List (Stmt Extent))) : Parser (List (Stmt Extent)) := do
  let one (found : Parser (Stmt Extent)) : Parser (List (Stmt Extent)) := do return [← found]
  let start ← left
  match ← peek with
  | .word .defWord => one (function expressions block start false)
  | .symbol .at => one (decorated expressions block)
  | .word .asyncWord => one (asynchronous expressions block)
  | .word .ifWord => one (conditional expressions block)
  | .word .classWord => one (classDefinition expressions block)
  | .word .withWord => one (withBlock expressions block start false)
  | .word .forWord => one (forLoop expressions block start false)
  | .word .tryWord => one (tryBlock expressions block)
  | .word .whileWord => one (whileLoop expressions block)
  | .name "match" => one (matchBlock expressions patterns block) <|> simpleLine expressions
  | _ => simpleLine expressions

/-- Statements up to a token of the kind, which is taken. -/
def statementsUntil (closing : TokenKind) (expressions : NestedGrammar)
    (patterns : Parser (Pattern Extent)) (block : Parser (List (Stmt Extent))) : Parser (List (Stmt Extent)) := do
  let groups ← many do
    if ← accept? closing then return none else return some (← statement expressions patterns block)
  return groups.flatten

/-- A block: an indented one on lines of its own, or the rest of the line. -/
def blockOf (expressions : NestedGrammar) (patterns : Parser (Pattern Extent))
    (block : Parser (List (Stmt Extent))) : Parser (List (Stmt Extent)) := do
  if ← accept? .newline then
    expect .indent
    let found ← statementsUntil .dedent expressions patterns block
    if found.isEmpty then failure else return found
  else simpleLine expressions

/-- Blocks that nest up to a depth. -/
def ofDepth (expressions : NestedGrammar) (patterns : Parser (Pattern Extent)) :
    Nat → Parser (List (Stmt Extent))
  | 0 => failure
  | depth + 1 => blockOf expressions patterns (ofDepth expressions patterns depth)

/-- A group of tokens as one statement or the statements of a line. -/
def wholeStatement? (kinds : List TokenKind) : Option (List (Stmt Extent)) :=
  let depth := weight kinds
  let expressions := NestedGrammar.ofWeight depth
  let patterns := PatternGrammar.ofDepth expressions depth
  alone Stmt.mapAll (statement expressions patterns (ofDepth expressions patterns depth)) kinds 0

/-- A group of tokens as a decorator. -/
def wholeDecorator? (kinds : List TokenKind) : Option (Expr Extent) :=
  alone Expr.map (decorator (NestedGrammar.ofWeight (weight kinds))) kinds 0

end StatementGrammar

namespace Module

/-- The statements of a group behind decorators: the decorators go to its definition. -/
def decorate? {σ : Type} (decorators : List (Expr σ)) (statements : List (Stmt σ)) :
    Option (List (Stmt σ)) :=
  if decorators.isEmpty then some statements
  else match statements with
    | [definition] => (definition.decorate? decorators).map ([·])
    | _ => none

/-- The statements of groups of tokens, each of which says what an extent in it stands for, behind
decorators. -/
def ofGroups? {σ : Type} : List (Expr σ) → List (List TokenKind × (Extent → σ)) →
    Option (List (Stmt σ))
  | decorators, [] => if decorators.isEmpty then some [] else none
  | decorators, (kinds, span) :: rest =>
    if kinds.head? == some (.symbol .at) then do
      let found ← StatementGrammar.wholeDecorator? kinds
      ofGroups? (decorators ++ [found.map span]) rest
    else do
      let found ← StatementGrammar.wholeStatement? kinds
      let statements ← decorate? decorators (Stmt.mapAll span found)
      return statements ++ (← ofGroups? [] rest)

/-- A source text as a module. Its line ends have to be line feeds. -/
def parse? (source : List Char) : Option Module := do
  let lines ← Lexer.lines? (withFinalLineEnd source)
  let groups := Layout.groups ((Layout.place 0 lines).filter (!·.isBlank))
  let tokens ← groups.mapM (Layout.tokens? [])
  ofGroups? [] (tokens.map fun found => (found.map (·.kind), Extent.toSpan found))

end Module

end DifferenceTypes
