import DifferenceTypes.Syntax.Number
import DifferenceTypes.Syntax.Token
import DifferenceTypes.Text.Identifier
import DifferenceTypes.Text.Utf8

/-!
# From characters to tokens

The lexer reads source characters whose line ends are all line feeds, one logical line after the
other. A logical line goes on behind a line end that stands inside brackets or inside a string or
that has a backslash before it; so it takes one source line or several. What it holds depends on its
own characters only, and the positions of its tokens count from its first source line. Lines that
hold only blanks and a comment have no tokens.

Indentation is measured twice, with tabs to every eighth column and with tabs as one column. How it
makes blocks is the matter of `DifferenceTypes.Syntax.Layout`.

The lexer fails on a character that starts no token, an unclosed or unmatched bracket and an
unterminated string. It does not say which of these it met.
-/

namespace DifferenceTypes

/-- An indentation in both measures. -/
structure Indentation where
  columns : Nat
  characters : Nat
  deriving DecidableEq, Repr, Inhabited

/-- A logical line: its indentation, its tokens, how many source lines it takes, and whether it is
nothing but a continuation, behind which another line has to come. -/
structure Line where
  indentation : Indentation
  tokens : List Token
  height : Nat
  isContinuation : Bool
  deriving Repr, Inhabited

/-- Whether nothing but blanks and a comment is on the line. -/
def Line.isBlank (line : Line) : Bool :=
  line.tokens.isEmpty

/-- The line some source lines further down. -/
def Line.moveDown (lines : Nat) (line : Line) : Line :=
  { line with tokens := line.tokens.map (Token.moveDown lines) }

namespace Lexer

/-- The most brackets that may be open at once. -/
def maximalDepth : Nat := 200

/-- The position behind a character. -/
def advance (position : Position) (character : Char) : Position :=
  if character == '\n' then ⟨position.line + 1, 0⟩
  else ⟨position.line, position.column + Utf8.width character⟩

/-- The position behind some characters. -/
def advanceAll (position : Position) (characters : List Char) : Position :=
  characters.foldl advance position

/-- What stands behind the blanks at the start of a line. -/
inductive Opening where
  /-- Nothing but perhaps a comment, or a continuation; the line takes this many source lines. -/
  | blank (height : Nat) (isContinuation : Bool) (rest : List Char)
  /-- The first token. -/
  | token (indentation : Indentation) (position : Position) (rest : List Char)

/-- The indentation that counts: where the line is continued, the one before the first
continuation. -/
def counted (found : Indentation) (continued : Option Nat) : Indentation :=
  match continued with
  | some columns => ⟨columns, columns⟩
  | none => found

/-- Goes over the blanks at the start of a line, given the indentation found so far and the one
before the first continuation if the line is continued. A continuation that nothing stands before
leaves a blank line. -/
def opening? : List Char → Position → Indentation → Option Nat → Option Opening
  | ' ' :: rest, position, found, continued =>
    opening? rest (advance position ' ') ⟨found.columns + 1, found.characters + 1⟩ continued
  | '\t' :: rest, position, found, continued =>
    let next : Indentation := ⟨(found.columns / 8 + 1) * 8, found.characters + 1⟩
    opening? rest (advance position '\t') next continued
  | '\x0c' :: rest, position, _, continued =>
    opening? rest (advance position '\x0c') ⟨0, 0⟩ continued
  | '\\' :: '\n' :: rest, position, found, continued =>
    if continued.isNone && found.columns == 0 then some (.blank position.line true rest)
    else opening? rest ⟨position.line + 1, 0⟩ found (some (continued.getD found.columns))
  | '\\' :: _, _, _, _ => none
  | '#' :: rest, position, _, _ =>
    match rest.dropWhile (· != '\n') with
    | _ :: after => some (.blank position.line false after)
    | [] => none
  | '\n' :: rest, position, _, _ => some (.blank position.line false rest)
  | rest, position, found, continued => some (.token (counted found continued) position rest)

/-- Whether a character is a part of names, or might be. -/
def isNamePart (character : Char) : Bool :=
  character.isAlphanum || character == '_' || character.toNat ≥ 0x80

/-- The flags that letters before a quote stand for. -/
def flags? (letters : List Char) : Option StringToken :=
  match letters with
  | [] => some ⟨false, false, false, false, []⟩
  | ['r'] | ['R'] => some ⟨true, false, false, false, []⟩
  | ['b'] | ['B'] => some ⟨false, true, false, false, []⟩
  | ['f'] | ['F'] => some ⟨false, false, true, false, []⟩
  | ['u'] => some ⟨false, false, false, true, []⟩
  | ['U'] => some ⟨false, false, false, false, []⟩
  | [first, second] =>
    match first.toLower, second.toLower with
    | 'b', 'r' | 'r', 'b' => some ⟨true, true, false, false, []⟩
    | 'f', 'r' | 'r', 'f' => some ⟨true, false, true, false, []⟩
    | _, _ => none
  | _ => none

/-- The flags of the string that starts here, and the characters from its opening quote on. -/
def stringStart? (characters : List Char) : Option (StringToken × List Char) :=
  let letters := characters.takeWhile Char.isAlpha
  let after := characters.drop letters.length
  if letters.length ≤ 2 && (after.head? == some '\'' || after.head? == some '"') then
    (flags? letters).map fun flags => (flags, after)
  else none

/-- What stands before the closing quotes, and what follows them. A backslash keeps the next
character from closing the string; a string between single quotes does not go past its line. -/
def stringBody? (quote : Char) (triple : Bool) : List Char → Option (List Char × List Char)
  | [] => none
  | '\\' :: next :: rest =>
    (stringBody? quote triple rest).map fun (body, after) => ('\\' :: next :: body, after)
  | first :: rest =>
    if first == quote && !triple then some ([], rest)
    else if first == quote && [quote, quote].isPrefixOf rest then some ([], rest.drop 2)
    else if first == '\n' && !triple then none
    else (stringBody? quote triple rest).map fun (body, after) => (first :: body, after)

/-- The string whose opening quote comes first. -/
def string? (flags : StringToken) (characters : List Char) : Option (StringToken × List Char) :=
  match characters with
  | quote :: rest =>
    let triple := [quote, quote].isPrefixOf rest
    (stringBody? quote triple (if triple then rest.drop 2 else rest)).map fun (body, after) =>
      ({ flags with body := body }, after)
  | [] => none

/-- The kind of a name: a reserved word, or a name whose characters form an identifier. -/
def nameKind? (spelling : List Char) : Option TokenKind :=
  match ReservedWord.ofString? (String.ofList spelling) with
  | some word => some (.word word)
  | none => if isIdentifier spelling then some (.name (String.ofList spelling)) else none

/-- How far a number may reach: over letters, digits, underscores and points, and over a sign behind
the letter of an exponent. -/
def numberExtent (behindExponent : Bool) : List Char → List Char
  | [] => []
  | first :: rest =>
    if isNamePart first || first == '.' || (behindExponent && (first == '+' || first == '-')) then
      first :: numberExtent (first == 'e' || first == 'E') rest
    else []

/-- The kind of the token at the start of the characters, which do not start with a blank, and what
follows it. -/
def visible? (characters : List Char) : Option (TokenKind × List Char) :=
  match characters with
  | [] => none
  | first :: rest =>
    match stringStart? characters with
    | some (flags, quoted) =>
      (string? flags quoted).map fun (literal, after) => (.string literal, after)
    | none =>
      if first.isAlpha || first == '_' || first.toNat ≥ 0x80 then
        (nameKind? (characters.takeWhile isNamePart)).map fun kind =>
          (kind, characters.dropWhile isNamePart)
      else if first.isDigit || (first == '.' && (rest.head?.map Char.isDigit).getD false) then
        let reached := numberExtent false characters
        (NumberLiteral.read? reached).bind fun (value, left) =>
          let taken := reached.length - left.length
          if taken == 0 then none else some (.number value, characters.drop taken)
      else (Symbol.read? characters).map fun (symbol, after) => (.symbol symbol, after)

/-- The brackets that wait after a token: an opening one waits for its closing one, a closing one
has to be the one that is waited for. -/
def matchBracket (kind : TokenKind) (brackets : List Symbol) : Option (List Symbol) :=
  match kind with
  | .symbol symbol =>
    match symbol.closing? with
    | some closing => if brackets.length ≥ maximalDepth then none else some (closing :: brackets)
    | none =>
      if symbol.closes then
        match brackets with
        | awaited :: outer => if awaited == symbol then some outer else none
        | [] => none
      else some brackets
  | _ => some brackets

/-- Whether a character separates tokens within a line. -/
def isSpace (character : Char) : Bool :=
  character == ' ' || character == '\t' || character == '\x0c'

/-- The tokens up to the end of the line, the source line on which it ends and what follows it, given
the brackets that are open. Every step takes a character at least, so their number bounds the
steps. -/
def tokensWithin? : Nat → Position → List Symbol → List Char → Option (List Token × Nat × List Char)
  | 0, _, _, _ => none
  | fuel + 1, position, brackets, characters =>
    match characters with
    | [] => none
    | '\n' :: rest =>
      if brackets.isEmpty then some ([], position.line, rest)
      else tokensWithin? fuel ⟨position.line + 1, 0⟩ brackets rest
    | '\\' :: '\n' :: rest => tokensWithin? fuel ⟨position.line + 1, 0⟩ brackets rest
    | '#' :: rest =>
      let comment := rest.takeWhile (· != '\n')
      tokensWithin? fuel (advanceAll position ('#' :: comment)) brackets (rest.drop comment.length)
    | first :: rest =>
      if isSpace first then tokensWithin? fuel (advance position first) brackets rest
      else do
        let (kind, after) ← visible? characters
        let brackets ← matchBracket kind brackets
        let stop := advanceAll position (characters.take (characters.length - after.length))
        let (tokens, last, remaining) ← tokensWithin? fuel stop brackets after
        return (⟨kind, ⟨position, stop⟩⟩ :: tokens, last, remaining)

/-- The logical line at the start of the characters, and what follows it. -/
def line? (characters : List Char) : Option (Line × List Char) := do
  match ← opening? characters ⟨1, 0⟩ ⟨0, 0⟩ none with
  | .blank height isContinuation rest => return (⟨⟨0, 0⟩, [], height, isContinuation⟩, rest)
  | .token indentation position rest =>
    let (tokens, last, remaining) ← tokensWithin? rest.length position [] rest
    return (⟨indentation, tokens, last, false⟩, remaining)

/-- The logical lines of characters, at most the given number. -/
def linesWithin? : Nat → List Char → Option (List Line)
  | _, [] => some []
  | 0, _ :: _ => none
  | fuel + 1, first :: rest => do
    let (line, remaining) ← line? (first :: rest)
    return line :: (← linesWithin? fuel remaining)

/-- The logical lines of characters. The last one has to have a line end and may not be nothing but a
continuation. -/
def lines? (characters : List Char) : Option (List Line) := do
  let lines ← linesWithin? characters.length characters
  if lines.getLast?.any (·.isContinuation) then none else return lines

end Lexer

end DifferenceTypes
