import DifferenceTypes.Text.CodePoint

/-!
# Blanks

Field types are written on one line of generated text, whatever line ends, comments or indentation
the template had inside them. `collapseBlanks` makes that line: it cuts the text at runs of blanks
and joins the pieces with single spaces. The blanks are the white space of Unicode together with the
four information separators U+001C to U+001F, so every character that ends a line in either of the
two conventions of `DifferenceTypes.Text.Lines` is a blank.
-/

namespace DifferenceTypes

/-- White space of Unicode, and the information separators. -/
def isBlankCharacter (character : Char) : Bool :=
  let number := character.toNat
  (9 ≤ number && number ≤ 13) || (28 ≤ number && number ≤ 32) || number == 0x85 || number == 0xA0 ||
    number == 0x1680 || (0x2000 ≤ number && number ≤ 0x200A) || number == 0x2028 ||
      number == 0x2029 ||
    number == 0x202F || number == 0x205F || number == 0x3000

/-- A lone surrogate is not a blank. -/
def CodePoint.isBlank : CodePoint → Bool
  | .scalar character => isBlankCharacter character
  | .surrogate _ => false

namespace Text

/-- The text without the blanks at its start. -/
def stripStart (text : Text) : Text :=
  text.dropWhile CodePoint.isBlank

/-- The text without the blanks at its two ends. -/
def strip (text : Text) : Text :=
  (stripStart (stripStart text).reverse).reverse

/-- The maximal runs of code points that are not blank, in order. -/
def words : Text → List Text
  | [] => []
  | point :: rest =>
    if point.isBlank then words rest
    else match rest with
      | [] => [[point]]
      | next :: _ =>
        if next.isBlank then [point] :: words rest
        else match words rest with
          | [] => [[point]]
          | word :: others => (point :: word) :: others

/-- The words of the text with one space between neighbours. -/
def collapseBlanks (text : Text) : Text :=
  join (ofString " ") text.words

end Text

end DifferenceTypes
