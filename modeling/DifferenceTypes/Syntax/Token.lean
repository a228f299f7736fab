import DifferenceTypes.Syntax.Tree

/-!
# Tokens

A token is what the lexer cuts out of the source text, with its span. Names are kept as they are
written: whether a word is reserved depends on its spelling alone, and the parser brings names into
compatibility composition. A string token holds what stands between its quotes untouched, since what
an escape means depends on the token's flags.
-/

namespace DifferenceTypes

/-- Words that cannot be names. -/
inductive ReservedWord where
  | falseWord | noneWord | trueWord | andWord | asWord | assertWord | asyncWord | awaitWord
  | breakWord | classWord | continueWord | defWord | delWord | elifWord | elseWord | exceptWord
  | finallyWord | forWord | fromWord | globalWord | ifWord | importWord | inWord | isWord
  | lambdaWord | nonlocalWord | notWord | orWord | passWord | raiseWord | returnWord | tryWord
  | whileWord | withWord | yieldWord
  deriving DecidableEq, Repr, Inhabited

/-- The spelling of every reserved word. -/
def ReservedWord.spellings : List (String × ReservedWord) :=
  [("False", .falseWord), ("None", .noneWord), ("True", .trueWord), ("and", .andWord),
    ("as", .asWord), ("assert", .assertWord), ("async", .asyncWord), ("await", .awaitWord),
    ("break", .breakWord), ("class", .classWord), ("continue", .continueWord), ("def", .defWord),
    ("del", .delWord), ("elif", .elifWord), ("else", .elseWord), ("except", .exceptWord),
    ("finally", .finallyWord), ("for", .forWord), ("from", .fromWord), ("global", .globalWord),
    ("if", .ifWord), ("import", .importWord), ("in", .inWord), ("is", .isWord),
    ("lambda", .lambdaWord), ("nonlocal", .nonlocalWord), ("not", .notWord), ("or", .orWord),
    ("pass", .passWord), ("raise", .raiseWord), ("return", .returnWord), ("try", .tryWord),
    ("while", .whileWord), ("with", .withWord), ("yield", .yieldWord)]

/-- The reserved word with this spelling. -/
def ReservedWord.ofString? (spelling : String) : Option ReservedWord :=
  (spellings.find? (·.1 == spelling)).map (·.2)

/-- Operators and punctuation. -/
inductive Symbol where
  | leftParenthesis | rightParenthesis | leftBracket | rightBracket | leftBrace | rightBrace | colon
  | comma | semicolon | dot | ellipsis | arrow | at | equal | walrus | plus | minus | star
  | doubleStar | slash | doubleSlash | percent | bar | ampersand | caret | tilde | shiftLeft
  | shiftRight | less | lessEqual | greater | greaterEqual | doubleEqual | notEqual | plusEqual
  | minusEqual | starEqual | doubleStarEqual | slashEqual | doubleSlashEqual | percentEqual
  | barEqual | ampersandEqual | caretEqual | shiftLeftEqual | shiftRightEqual | atEqual
  deriving DecidableEq, Repr, Inhabited

/-- The spelling of every symbol, longer ones first. -/
def Symbol.spellings : List (List Char × Symbol) :=
  [(['*', '*', '='], .doubleStarEqual), (['/', '/', '='], .doubleSlashEqual),
    (['<', '<', '='], .shiftLeftEqual), (['>', '>', '='], .shiftRightEqual),
    (['.', '.', '.'], .ellipsis), (['*', '*'], .doubleStar), (['*', '='], .starEqual),
    (['/', '/'], .doubleSlash), (['/', '='], .slashEqual), (['<', '<'], .shiftLeft),
    (['<', '='], .lessEqual), (['>', '>'], .shiftRight), (['>', '='], .greaterEqual),
    (['=', '='], .doubleEqual), (['!', '='], .notEqual), (['+', '='], .plusEqual),
    (['-', '='], .minusEqual), (['-', '>'], .arrow), (['%', '='], .percentEqual),
    (['|', '='], .barEqual), (['&', '='], .ampersandEqual), (['^', '='], .caretEqual),
    (['@', '='], .atEqual), ([':', '='], .walrus), (['*'], .star), (['/'], .slash),
    (['<'], .less), (['>'], .greater), (['='], .equal), (['+'], .plus), (['-'], .minus),
    (['%'], .percent), (['|'], .bar), (['&'], .ampersand), (['^'], .caret), (['@'], .at),
    ([':'], .colon), (['.'], .dot), (['~'], .tilde), ([','], .comma), ([';'], .semicolon),
    (['('], .leftParenthesis), ([')'], .rightParenthesis), (['['], .leftBracket),
    ([']'], .rightBracket), (['\x7b'], .leftBrace), (['\x7d'], .rightBrace)]

/-- No symbol is spelled with nothing. -/
theorem Symbol.ne_nil_of_mem_spellings {spelling : List Char} {symbol : Symbol}
    (member : (spelling, symbol) ∈ spellings) : spelling ≠ [] := by
  have all : ∀ entry ∈ spellings, entry.1 ≠ [] := by decide
  exact all _ member

/-- The longest symbol at the start of the characters, and what follows it. The old sign for not
equal is none. -/
def Symbol.read? (characters : List Char) : Option (Symbol × List Char) :=
  if ['<', '>'].isPrefixOf characters then none
  else spellings.findSome? fun (spelling, symbol) =>
    if spelling.isPrefixOf characters then some (symbol, characters.drop spelling.length) else none

/-- The bracket that closes this one. -/
def Symbol.closing? : Symbol → Option Symbol
  | .leftParenthesis => some .rightParenthesis
  | .leftBracket => some .rightBracket
  | .leftBrace => some .rightBrace
  | _ => none

/-- Whether the symbol closes a bracket. -/
def Symbol.closes (symbol : Symbol) : Bool :=
  symbol == .rightParenthesis || symbol == .rightBracket || symbol == .rightBrace

/-- A string as it is written: its flags and what stands between its quotes. -/
structure StringToken where
  raw : Bool
  bytes : Bool
  formatted : Bool
  marked : Bool
  body : List Char
  deriving DecidableEq, Repr, Inhabited

/-- The kinds of tokens. -/
inductive TokenKind where
  | name (spelling : String)
  | word (word : ReservedWord)
  | number (value : Constant)
  | string (literal : StringToken)
  | symbol (symbol : Symbol)
  | newline
  | indent
  | dedent
  | endOfText
  deriving DecidableEq, Repr, Inhabited

/-- A token with its span. -/
structure Token where
  kind : TokenKind
  span : Span
  deriving DecidableEq, Repr, Inhabited

/-- Whether tokens of the kind stand for text, not for layout. -/
def TokenKind.isVisible : TokenKind → Bool
  | .newline | .indent | .dedent | .endOfText => false
  | _ => true

/-- Whether the token opens a bracket. -/
def TokenKind.opens : TokenKind → Bool
  | .symbol found => found.closing?.isSome
  | _ => false

/-- Whether the token closes a bracket. -/
def TokenKind.closes : TokenKind → Bool
  | .symbol found => found.closes
  | _ => false

/-- The token with its span some lines further down. -/
def Token.moveDown (lines : Nat) (token : Token) : Token :=
  ⟨token.kind, token.span.moveDown lines⟩

end DifferenceTypes
