import DifferenceTypes.Syntax.Token
import DifferenceTypes.Text.Composition

/-!
# Parsing tokens

A parser takes tokens from the front of its input and either fails or gives a result with the input
that is left. It does not say why it fails: a template that is not valid syntax is reported without
a reason. An alternative that fails leaves the input as it was.

What a bracket holds, and other pieces whose end is known beforehand, are cut out and parsed alone;
then what is in a piece decides how it is parsed, whatever stands around it. So a parser does not
see where its tokens are in the source. It says where a construct is by the number of tokens that
are left in the piece, and when the piece is put back the tokens behind it are added.
-/

namespace DifferenceTypes

/-- Where a construct is in a piece: the tokens left from its start on, and those left behind it. -/
structure Extent where
  start : Nat
  stop : Nat
  deriving DecidableEq, Repr, Inhabited

/-- The same construct in a piece with more tokens behind it. -/
def Extent.before (behind : Nat) (extent : Extent) : Extent :=
  ⟨extent.start + behind, extent.stop + behind⟩

/-- A parser of tokens. -/
abbrev Parser := StateT (List TokenKind) Option

namespace Parser

/-- The kind of the next token; behind the last token the text has ended. -/
def peek : Parser TokenKind := do
  match ← get with
  | kind :: _ => return kind
  | [] => return .endOfText

/-- The kind of the token after the next one. -/
def peekSecond : Parser TokenKind := do
  match ← get with
  | _ :: kind :: _ => return kind
  | _ => return .endOfText

/-- Takes the next token. -/
def take : Parser TokenKind := do
  match ← get with
  | kind :: rest =>
    set rest
    return kind
  | [] => failure

/-- How many tokens are left. -/
def left : Parser Nat := do
  return (← get).length

/-- The extent of a construct that started with so many tokens left and ends here. -/
def extentFrom (start : Nat) : Parser Extent := do
  return ⟨start, (← get).length⟩

/-- Takes the next token if it is of the kind. -/
def accept? (kind : TokenKind) : Parser Bool := do
  if (← peek) == kind then
    discard take
    return true
  else return false

/-- Takes the next token, which has to be of the kind. -/
def expect (kind : TokenKind) : Parser Unit := do
  if !(← accept? kind) then failure

/-- Takes the symbol if it is next. -/
def symbol? (symbol : Symbol) : Parser Bool :=
  accept? (.symbol symbol)

/-- Takes the symbol, which has to be next. -/
def symbol (symbol : Symbol) : Parser Unit :=
  expect (.symbol symbol)

/-- Takes the reserved word if it is next. -/
def word? (word : ReservedWord) : Parser Bool :=
  accept? (.word word)

/-- Takes the reserved word, which has to be next. -/
def word (word : ReservedWord) : Parser Unit :=
  expect (.word word)

/-- Whether the symbol is next. -/
def sees (symbol : Symbol) : Parser Bool := do
  return (← peek) == .symbol symbol

/-- Whether the reserved word is next. -/
def seesWord (word : ReservedWord) : Parser Bool := do
  return (← peek) == .word word

/-- A spelling in compatibility composition. -/
def normalized (spelling : String) : String :=
  String.ofList (Composition.ofIdentifier spelling.toList)

/-- Takes a name. -/
def identifier : Parser String := do
  match ← take with
  | .name spelling => return normalized spelling
  | _ => failure

/-- Goes on from a value as long as the step gives a next one, in at most the given number of
steps. -/
def iterate {α : Type} (step : α → Parser (Option α)) : Nat → α → Parser α
  | 0, value => return value
  | fuel + 1, value => do
    match ← step value with
    | some next => iterate step fuel next
    | none => return value

/-- Goes on from a value as long as the step gives a next one. A step that does takes a token at
least, so the number of tokens bounds the steps. -/
def repeated {α : Type} (step : α → Parser (Option α)) (first : α) : Parser α := do
  iterate step ((← get).length + 1) first

/-- Items as long as there is one, in order. -/
def many {α : Type} (item? : Parser (Option α)) : Parser (List α) := do
  let latestFirst ← repeated (fun found => do return (← item?).map (· :: found)) []
  return latestFirst.reverse

/-- One item and more behind commas. -/
def separated {α : Type} (item : Parser α) : Parser (List α) := do
  let first ← item
  let others ← many do
    if ← symbol? .comma then return some (← item) else return none
  return first :: others

/-- Items with commas between them and perhaps one behind the last, up to a symbol that closes the
list, which is taken. Tells whether a comma was taken. -/
def listUntil {α : Type} (item : Parser α) (closing : Symbol) : Parser (List α × Bool) := do
  let (latestFirst, comma, _) ← repeated (fun (state : List α × Bool × Bool) => do
    let (found, comma, finished) := state
    if finished then return none
    else if ← symbol? closing then return some (found, comma, true)
    else
      let next ← item
      if ← symbol? .comma then return some (next :: found, true, false)
      else
        symbol closing
        return some (next :: found, comma, true)) ([], false, false)
  return (latestFirst.reverse, comma)

/-! ### Pieces -/

/-- How much there is to parse in a token: a string may hold expressions. -/
def weightOf : TokenKind → Nat
  | .string literal => literal.body.length + 1
  | _ => 1

/-- How much there is to parse in tokens. -/
def weight : List TokenKind → Nat
  | [] => 0
  | kind :: rest => weightOf kind + weight rest

@[simp]
theorem weight_append (front behind : List TokenKind) :
    weight (front ++ behind) = weight front + weight behind := by
  induction front with
  | nil => exact (Nat.zero_add _).symm
  | cons kind rest inductionHypothesis => simp only [List.cons_append, weight, inductionHypothesis, Nat.add_assoc]

/-- Runs a parser on a piece alone, all of which it has to take. So many tokens stand behind the
piece; `change` changes the extents of a result. -/
def alone {α : Type} (change : (Extent → Extent) → α → α) (parser : Parser α)
    (piece : List TokenKind) (behind : Nat) : Option α :=
  match parser.run piece with
  | some (found, []) => some (change (Extent.before behind) found)
  | _ => none

/-- Where one is in a piece: how many brackets are open, and the words that end the heads one is in,
innermost first. The parameters of a `lambda` are such a head, ended by its colon, and the targets
of a `for`, ended by `in`. -/
structure Nesting where
  depth : Nat
  heads : List TokenKind
  deriving DecidableEq, Repr

namespace Nesting

/-- At the start of a piece. -/
def outside : Nesting :=
  ⟨0, []⟩

/-- Whether no bracket and no head is open. -/
def isOutside (nesting : Nesting) : Bool :=
  nesting.depth == 0 && nesting.heads.isEmpty

/-- Behind a token. -/
def behind (nesting : Nesting) (kind : TokenKind) : Nesting :=
  if kind.opens then { nesting with depth := nesting.depth + 1 }
  else if kind.closes then { nesting with depth := nesting.depth - 1 }
  else if nesting.depth > 0 then nesting
  else if nesting.heads.head? == some kind then { nesting with heads := nesting.heads.tail }
  else match kind with
    | .word .lambdaWord => { nesting with heads := .symbol .colon :: nesting.heads }
    | .word .forWord => { nesting with heads := .word .inWord :: nesting.heads }
    | _ => nesting

end Nesting

/-- The tokens up to the bracket that closes what is open, and those behind it. -/
def splitClosing? : Nat → List TokenKind → Option (List TokenKind × List TokenKind)
  | _, [] => none
  | depth, kind :: rest =>
    if kind.closes && depth == 0 then some ([], rest)
    else
      let inner := if kind.opens then depth + 1 else if kind.closes then depth - 1 else depth
      (splitClosing? inner rest).map fun (contents, after) => (kind :: contents, after)

/-- The tokens before the first one wanted that stands outside, and the others. -/
def splitBefore (wanted : TokenKind → Bool) : Nesting → List TokenKind →
    List TokenKind × List TokenKind
  | _, [] => ([], [])
  | nesting, kind :: rest =>
    if nesting.isOutside && wanted kind then ([], kind :: rest)
    else
      let (piece, after) := splitBefore wanted (nesting.behind kind) rest
      (kind :: piece, after)

/-- The pieces between the commas that stand outside. -/
def splitCommas : Nesting → List TokenKind → List (List TokenKind)
  | _, [] => [[]]
  | nesting, kind :: rest =>
    if nesting.isOutside && kind == .symbol .comma then [] :: splitCommas .outside rest
    else match splitCommas (nesting.behind kind) rest with
      | piece :: others => (kind :: piece) :: others
      | [] => [[kind]]

/-- Each piece with the number of tokens behind it, commas included. -/
def withTokensBehind : List (List TokenKind) → List (List TokenKind × Nat)
  | [] => []
  | piece :: rest => (piece, rest.flatten.length + rest.length) :: withTokensBehind rest

/-- The pieces between commas with the number of tokens behind each. Behind the last one there may be
another comma. -/
def elementsOf (kinds : List TokenKind) : List (List TokenKind × Nat) :=
  let pieces := withTokensBehind (splitCommas .outside kinds)
  if pieces.getLast?.any (·.1.isEmpty) then pieces.dropLast else pieces

/-- Parses each piece alone, when so many tokens stand behind them all. -/
def eachAlone {α : Type} (change : (Extent → Extent) → α → α)
    (parser : List TokenKind → Parser α) (pieces : List (List TokenKind × Nat)) (behind : Nat) :
    Option (List α) :=
  pieces.mapM fun (piece, after) => alone change (parser piece) piece (after + behind)

/-- Takes a bracket with what it holds: the tokens inside, and how many are left behind them, the
closing bracket among them. -/
def enclosed (opening : Symbol) : Parser (List TokenKind × Nat) := do
  symbol opening
  match splitClosing? 0 (← get) with
  | some (contents, rest) =>
    set rest
    return (contents, rest.length + 1)
  | none => failure

/-- Takes the tokens before the first one wanted that stands outside: these tokens, and how many are
left behind them. -/
def takeBefore (wanted : TokenKind → Bool) : Parser (List TokenKind × Nat) := do
  let (piece, rest) := splitBefore wanted .outside (← get)
  set rest
  return (piece, rest.length)

end Parser

end DifferenceTypes
