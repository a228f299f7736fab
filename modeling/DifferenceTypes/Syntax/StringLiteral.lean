import DifferenceTypes.Syntax.Number
import DifferenceTypes.Syntax.Token
import DifferenceTypes.Text.CharacterName

/-!
# String literals

What stands between the quotes of a string becomes text or bytes. Raw strings stand for themselves.
In others a backslash starts an escape: a control character by its letter, a character by two, four
or eight hexadecimal digits or up to three octal ones or by its name, a quote or a backslash by
itself, and a line end that is left out. A backslash before anything else stands for itself.

In an f-string, braces hold expressions. `pieces` cuts the body into texts and expressions; how an
expression is read is a parameter, since that is the parser's work. Doubled braces are braces of the
text. Inside an expression there is no backslash and no comment; after it may come an equals sign,
which makes the expression's own text part of the string, a conversion letter behind an exclamation
mark, and a format behind a colon. A format may hold expressions with formats of their own, but
those hold no expression. The braces around a name of a character are none of these.
-/

namespace DifferenceTypes.StringLiteral

/-- The number that the given many hexadecimal digits spell, and what follows them. -/
def hexadecimal? : Nat → Nat → List Char → Option (Nat × List Char)
  | 0, value, rest => some (value, rest)
  | count + 1, value, digit :: rest =>
    if NumberLiteral.isDigitOf 16 digit then
      hexadecimal? count (value * 16 + NumberLiteral.digitValue digit) rest
    else none
  | _ + 1, _, [] => none

/-- The octal digits at the start, up to the given many, with the number that they spell. -/
def octal : Nat → Nat → List Char → Nat × List Char
  | 0, value, rest => (value, rest)
  | _ + 1, value, [] => (value, [])
  | count + 1, value, digit :: rest =>
    if NumberLiteral.isDigitOf 8 digit then
      octal count (value * 8 + NumberLiteral.digitValue digit) rest
    else (value, digit :: rest)

/-- The character that a letter or sign stands for behind a backslash. -/
def simpleEscape? : Char → Option Char
  | '\\' => some '\\'
  | '\'' => some '\''
  | '"' => some '"'
  | 'a' => some '\x07'
  | 'b' => some '\x08'
  | 'f' => some '\x0c'
  | 'n' => some '\n'
  | 'r' => some '\r'
  | 't' => some '\t'
  | 'v' => some '\x0b'
  | _ => none

/-- The name of a character in braces, and what follows them. -/
def bracedName? : List Char → Option (List Char × List Char)
  | '\x7b' :: rest =>
    let name := rest.takeWhile (· != '\x7d')
    match rest.drop name.length with
    | _ :: after => some (name, after)
    | [] => none
  | _ => none

/-- The code point of an escape in a text, given what follows the backslash, and the rest. No code
point is meant where a line end is left out. -/
def textEscape? (letter : Char) (rest : List Char) : Option (Option CodePoint × List Char) :=
  let byDigits (count : Nat) : Option (Option CodePoint × List Char) := do
    let (number, after) ← hexadecimal? count 0 rest
    let point ← CodePoint.ofNat? number
    return (some point, after)
  if letter == '\n' then some (none, rest)
  else if letter == 'x' then byDigits 2
  else if letter == 'u' then byDigits 4
  else if letter == 'U' then byDigits 8
  else if letter == 'N' then do
    let (name, after) ← bracedName? rest
    let character ← CharacterName.find? name
    return (some (.scalar character), after)
  else if NumberLiteral.isDigitOf 8 letter then
    let (number, after) := octal 3 0 (letter :: rest)
    (CodePoint.ofNat? number).map fun point => (some point, after)
  else (simpleEscape? letter).map fun character => (some (.scalar character), rest)

/-- Whether a letter behind a backslash starts an escape of a text. -/
def startsTextEscape (letter : Char) : Bool :=
  letter == '\n' || letter == 'x' || letter == 'u' || letter == 'U' || letter == 'N' ||
    NumberLiteral.isDigitOf 8 letter || (simpleEscape? letter).isSome

/-- The text that a body with escapes stands for, in at most the given number of steps. -/
def textFrom : Nat → List Char → Option Text
  | 0, _ => none
  | _ + 1, [] => some []
  | fuel + 1, '\\' :: letter :: rest =>
    if startsTextEscape letter then do
      let (point, after) ← textEscape? letter rest
      let text ← textFrom fuel after
      return point.toList ++ text
    else do
      let text ← textFrom fuel rest
      return .scalar '\\' :: .scalar letter :: text
  | fuel + 1, character :: rest => (textFrom fuel rest).map (.scalar character :: ·)

/-- The text that a body stands for. -/
def text? (raw : Bool) (body : List Char) : Option Text :=
  if raw then some (Text.ofCharacters body) else textFrom (body.length + 1) body

/-- The bytes that a body with escapes stands for, in at most the given number of steps. -/
def bytesFrom : Nat → List Char → Option (List UInt8)
  | 0, _ => none
  | _ + 1, [] => some []
  | fuel + 1, '\\' :: letter :: rest =>
    if letter == '\n' then bytesFrom fuel rest
    else if letter == 'x' then do
      let (number, after) ← hexadecimal? 2 0 rest
      return number.toUInt8 :: (← bytesFrom fuel after)
    else if NumberLiteral.isDigitOf 8 letter then
      let (number, after) := octal 3 0 (letter :: rest)
      (bytesFrom fuel after).map (number.toUInt8 :: ·)
    else match simpleEscape? letter with
      | some character => (bytesFrom fuel rest).map (character.toNat.toUInt8 :: ·)
      | none => (bytesFrom fuel rest).map fun bytes => 0x5C :: letter.toNat.toUInt8 :: bytes
  | fuel + 1, character :: rest => (bytesFrom fuel rest).map (character.toNat.toUInt8 :: ·)

/-- The bytes that a body stands for; it has to be ASCII. -/
def bytes? (raw : Bool) (body : List Char) : Option (List UInt8) :=
  if !body.all (·.toNat < 0x80) then none
  else if raw then some (body.map fun character => character.toNat.toUInt8)
  else bytesFrom (body.length + 1) body

/-! ### Expressions in f-strings -/

/-- A text of an f-string, or an expression in it. -/
inductive Piece (σ : Type) where
  | text (value : Text)
  | value (expression : Expr σ)

/-- Why a text of an f-string ends: at a doubled brace, whose first half belongs to it, at a brace,
or with the string. -/
inductive TextEnd where
  | doubledBrace
  | brace
  | endOfString
  deriving DecidableEq, Repr

/-- The text up to the next brace, why it ends and what follows. Doubled braces count only outside
formats, where a lone closing brace is an error. Up to the end of a character's name, braces are no
braces. -/
def textPart? (raw inFormat : Bool) : Bool → List Char → Option (List Char × TextEnd × List Char)
  | _, [] => some ([], .endOfString, [])
  | true, first :: rest =>
    (textPart? raw inFormat (first != '\x7d') rest).map fun (text, stop, after) =>
      (first :: text, stop, after)
  | false, '\\' :: next :: rest =>
    if raw || next == '\x7b' || next == '\x7d' then
      (textPart? raw inFormat false (next :: rest)).map fun (text, stop, after) =>
        ('\\' :: text, stop, after)
    else if next == 'N' && rest.head? != some '\x7b' then none
    else
      (textPart? raw inFormat (next == 'N') rest).map fun (text, stop, after) =>
        ('\\' :: next :: text, stop, after)
  | false, first :: rest =>
    if first == '\x7b' || first == '\x7d' then
      if !inFormat && rest.head? == some first then some ([first], .doubledBrace, rest.drop 1)
      else if !inFormat && first == '\x7d' then none
      else some ([], .brace, first :: rest)
    else
      (textPart? raw inFormat false rest).map fun (text, stop, after) =>
        (first :: text, stop, after)

/-- The characters of an expression up to the sign that ends it, given the quotes of the string that
the scan is inside of (and whether there are three) and the brackets that wait to be closed. -/
def expressionPart? (quote : Option (Char × Bool)) (brackets : List Char) :
    List Char → Option (List Char × List Char)
  | [] => none
  | first :: rest =>
    let continue_ (quote : Option (Char × Bool)) (brackets : List Char) :=
      (expressionPart? quote brackets rest).map fun (taken, after) => (first :: taken, after)
    if first == '\\' then none
    else match quote with
      | some (mark, triple) =>
        if first == mark && !triple then continue_ none brackets
        else if first == mark && [mark, mark].isPrefixOf rest then
          match rest with
          | second :: third :: after =>
            (expressionPart? none brackets after).map fun (taken, after) =>
              (first :: second :: third :: taken, after)
          | _ => none
        else continue_ quote brackets
      | none =>
        if first == '\'' || first == '"' then
          if [first, first].isPrefixOf rest then
            match rest with
            | second :: third :: after =>
              (expressionPart? (some (first, true)) brackets after).map fun (taken, after) =>
                (first :: second :: third :: taken, after)
            | _ => none
          else continue_ (some (first, false)) brackets
        else if first == '[' then continue_ none (']' :: brackets)
        else if first == '\x7b' then continue_ none ('\x7d' :: brackets)
        else if first == '(' then continue_ none (')' :: brackets)
        else if first == '#' then none
        else
          match brackets with
          | awaited :: outer =>
            if first == ']' || first == '\x7d' || first == ')' then
              if first == awaited then continue_ none outer else none
            else continue_ none brackets
          | [] =>
            if first == '!' || first == '=' || first == '<' || first == '>' then
              match rest with
              | '=' :: after =>
                (expressionPart? none [] after).map fun (taken, after) =>
                  (first :: '=' :: taken, after)
              | _ =>
                if first == '<' || first == '>' then continue_ none [] else some ([], first :: rest)
            else if first == ':' || first == '\x7d' then some ([], first :: rest)
            else if first == ']' || first == ')' then none
            else continue_ none []

/-- Blank inside an expression of an f-string. -/
def isExpressionBlank (character : Char) : Bool :=
  character == ' ' || character == '\t' || character == '\n' || character == '\x0c'

/-- ASCII white space, as it may follow the equals sign. -/
def isAsciiSpace (character : Char) : Bool :=
  character == ' ' || (9 ≤ character.toNat && character.toNat ≤ 13)

/-- An equals sign behind an expression with the blanks after it, and the rest. -/
def selfDocumentation : List Char → List Char × List Char
  | '=' :: rest => ('=' :: rest.takeWhile isAsciiSpace, rest.dropWhile isAsciiSpace)
  | rest => ([], rest)

/-- A conversion letter behind an exclamation mark, and the rest. -/
def conversion? : List Char → Option (Option Char × List Char)
  | '!' :: letter :: rest =>
    if letter == 's' || letter == 'r' || letter == 'a' then some (some letter, rest) else none
  | ['!'] => none
  | rest => some (none, rest)

/-- Texts next to each other joined, empty ones left out, texts as constants. -/
def parts {σ : Type} (span : σ) (marked : Bool) : List (Piece σ) → List (Expr σ)
  | [] => []
  | .value expression :: rest => expression :: parts span marked rest
  | .text value :: rest =>
    match parts span marked rest with
    | .constant _ (.text following _) :: others =>
      .constant span (.text (value ++ following) marked) :: others
    | others => if value.isEmpty then others else .constant span (.text value marked) :: others

/-- The pieces of an f-string, or of a format up to its closing brace, and what follows them, in at
most the given number of steps. `depth` counts the formats around. -/
def pieces {σ : Type} (parse : List Char → Option (Expr σ)) (span : σ) (raw : Bool) :
    Nat → Nat → List Char → Option (List (Piece σ) × List Char)
  | 0, _, _ => none
  | fuel + 1, depth, characters => do
    let (written, stop, rest) ← textPart? raw (depth > 0) false characters
    let text ← text? raw written
    match stop, rest with
    | .endOfString, _ => return ([.text text], [])
    | .doubledBrace, _ =>
      let (others, after) ← pieces parse span raw fuel depth rest
      return (.text text :: others, after)
    | .brace, '\x7b' :: inner =>
      if depth ≥ 2 then none
      else
        let (source, after) ← expressionPart? none [] inner
        if source.all isExpressionBlank then none
        else
          let value ← parse source
          let (documentation, after) := selfDocumentation after
          let (conversion, after) ← conversion? after
          let (format, after) ← match after with
            | ':' :: specification => do
              let (inside, after) ← pieces parse span raw fuel (depth + 1) specification
              some (some (Expr.formatted span (parts span false inside)), after)
            | _ => some (none, after)
          match after with
          | '\x7d' :: after =>
            let shown :=
              if documentation.isEmpty then [] else Text.ofCharacters (source ++ documentation)
            let conversion :=
              if !documentation.isEmpty && conversion.isNone && format.isNone then some 'r'
              else conversion
            let (others, rest) ← pieces parse span raw fuel depth after
            return (.text text :: .text shown ::
              .value (.interpolation span value conversion format) :: others, rest)
          | _ => none
    | .brace, rest => return ([.text text], rest)

/-- The pieces of a whole string. -/
def piecesOf? {σ : Type} (parse : List Char → Option (Expr σ)) (span : σ) (literal : StringToken) :
    Option (List (Piece σ)) :=
  if literal.formatted then
    match pieces parse span literal.raw (2 * literal.body.length + 2) 0 literal.body with
    | some (found, []) => some found
    | _ => none
  else (text? literal.raw literal.body).map fun text => [.text text]

/-- The expression for strings written one after the other: bytes if all are, an f-string if one is,
else a text. -/
def combine? {σ : Type} (parse : List Char → Option (Expr σ)) (span : σ)
    (literals : List StringToken) : Option (Expr σ) :=
  let marked := (literals.head?.map (·.marked)).getD false
  if literals.any (·.bytes) then
    if literals.all (·.bytes) then do
      let bytes ← literals.mapM fun literal => bytes? literal.raw literal.body
      return .constant span (.bytes bytes.flatten)
    else none
  else do
    let found ← literals.mapM (piecesOf? parse span)
    if literals.any (·.formatted) then return .formatted span (parts span marked found.flatten)
    else
      let text := found.flatten.flatMap fun piece =>
        match piece with
        | .text value => value
        | .value _ => []
      return .constant span (.text text marked)

end DifferenceTypes.StringLiteral
