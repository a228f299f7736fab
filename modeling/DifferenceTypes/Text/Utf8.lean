import DifferenceTypes.Text.CodePoint

/-!
# UTF-8

Templates and generated modules are stored as UTF-8, and columns of syntax are counted in bytes of
it. `encode?` fails on a text with a lone surrogate. `decode?` accepts exactly the shortest forms:
no surrogates, nothing beyond U+10FFFF, no overlong sequence. `Text.between`, `Text.upToColumn` and
`Text.fromColumn` cut a line at byte columns and fail where a cut falls inside a character.
-/

namespace DifferenceTypes

namespace Utf8

/-- The bytes of one character, one to four of them. -/
def encodeCharacter (character : Char) : List UInt8 :=
  let number := character.toNat
  if number < 0x80 then [number.toUInt8]
  else if number < 0x800 then [(0xC0 + number / 64).toUInt8, (0x80 + number % 64).toUInt8]
  else if number < 0x10000 then
    [(0xE0 + number / 4096).toUInt8, (0x80 + number / 64 % 64).toUInt8,
      (0x80 + number % 64).toUInt8]
  else
    [(0xF0 + number / 262144).toUInt8, (0x80 + number / 4096 % 64).toUInt8,
      (0x80 + number / 64 % 64).toUInt8, (0x80 + number % 64).toUInt8]

/-- How many bytes the character takes. -/
def width (character : Char) : Nat :=
  (encodeCharacter character).length

/-- The bytes of a list of characters. -/
def encodeCharacters (characters : List Char) : List UInt8 :=
  characters.flatMap encodeCharacter

/-- The bytes of a text, unless it holds a lone surrogate. -/
def encode? (text : Text) : Option (List UInt8) :=
  text.characters?.map encodeCharacters

/-- The low six bits of a continuation byte. -/
def continuation? (byte : UInt8) : Option Nat :=
  if 0x80 ≤ byte.toNat ∧ byte.toNat < 0xC0 then some (byte.toNat - 0x80) else none

/-- The character with this number, provided that it needs at least the given number's length. -/
def characterFrom? (least number : Nat) : Option Char :=
  if valid : least ≤ number ∧ number.isValidChar then some (Char.ofNatAux number valid.2) else none

/-- The characters of a byte sequence, if it is well-formed. -/
def decodeCharacters? : List UInt8 → Option (List Char)
  | [] => some []
  | first :: rest =>
    let lead := first.toNat
    if lead < 0x80 then do
      let character ← characterFrom? 0 lead
      return character :: (← decodeCharacters? rest)
    else if lead < 0xC2 then none
    else if lead < 0xE0 then
      match rest with
      | second :: rest => do
        let character ← characterFrom? 0x80 ((lead - 0xC0) * 64 + (← continuation? second))
        return character :: (← decodeCharacters? rest)
      | [] => none
    else if lead < 0xF0 then
      match rest with
      | second :: third :: rest => do
        let character ← characterFrom? 0x800
          ((lead - 0xE0) * 4096 + (← continuation? second) * 64 + (← continuation? third))
        return character :: (← decodeCharacters? rest)
      | _ => none
    else if lead < 0xF5 then
      match rest with
      | second :: third :: fourth :: rest => do
        let character ← characterFrom? 0x10000
          ((lead - 0xF0) * 262144 + (← continuation? second) * 4096 + (← continuation? third) * 64 +
            (← continuation? fourth))
        return character :: (← decodeCharacters? rest)
      | _ => none
    else none

/-- The text of a byte sequence, if it is well-formed. -/
def decode? (bytes : List UInt8) : Option Text :=
  (decodeCharacters? bytes).map Text.ofCharacters

end Utf8

namespace Text

/-- Why a text cannot be cut at a byte column. -/
inductive CutError where
  /-- The text holds a lone surrogate and so has no bytes. -/
  | unencodable
  /-- The column is in the middle of a character. -/
  | insideCharacter
  deriving DecidableEq, Repr

/-- The place of a byte column in a line of the given length: a negative column counts from the end,
and columns beyond either end stand for that end. -/
def boundary (length : Nat) (column : Int) : Nat :=
  if column < 0 then (length + column).toNat else min column.toNat length

/-- The part of a line between two byte columns. -/
def between (first last : Int) (line : Text) : Except CutError Text :=
  match Utf8.encode? line with
  | none => .error .unencodable
  | some bytes =>
    let taken := bytes.take (boundary bytes.length last)
    match Utf8.decode? (taken.drop (boundary bytes.length first)) with
    | none => .error .insideCharacter
    | some part => .ok part

/-- The part of a line before a byte column. -/
def upToColumn (last : Int) (line : Text) : Except CutError Text :=
  match Utf8.encode? line with
  | none => .error .unencodable
  | some bytes =>
    match Utf8.decode? (bytes.take (boundary bytes.length last)) with
    | none => .error .insideCharacter
    | some part => .ok part

/-- The part of a line from a byte column on. -/
def fromColumn (first : Int) (line : Text) : Except CutError Text :=
  match Utf8.encode? line with
  | none => .error .unencodable
  | some bytes =>
    match Utf8.decode? (bytes.drop (boundary bytes.length first)) with
    | none => .error .insideCharacter
    | some part => .ok part

end Text

end DifferenceTypes
