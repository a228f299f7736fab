/-!
# Text as a list of code points

A template is read as Unicode text, but a string literal inside it may name half of a surrogate
pair, and such a half can travel through a field's type into the generated text. `Char` has no room
for it, so text here is a list of code points: characters and lone surrogates.

Everything that only passes text along (cutting into lines, joining, quoting) works on `Text`.
Reading the template's syntax asks first for characters with `Text.characters?`, since text that
holds a lone surrogate has no encoding and cannot be read at all.
-/

namespace DifferenceTypes

/-- A code point is a character or one half of a surrogate pair, counted from U+D800. -/
inductive CodePoint where
  | scalar (character : Char)
  | surrogate (offset : Fin 2048)
  deriving DecidableEq, Repr, Inhabited

namespace CodePoint

instance : Coe Char CodePoint := ⟨CodePoint.scalar⟩

/-- The number that Unicode gives the code point. -/
def value : CodePoint → Nat
  | .scalar character => character.toNat
  | .surrogate offset => 0xD800 + offset.val

/-- The character with this number, or else the lone surrogate; numbers beyond Unicode have none. -/
def ofNat? (number : Nat) : Option CodePoint :=
  if valid : number.isValidChar then some (.scalar (Char.ofNatAux number valid))
  else if low : 0xD800 ≤ number ∧ number - 0xD800 < 2048 then
    some (.surrogate ⟨number - 0xD800, low.2⟩)
  else none

end CodePoint

/-- Text is a list of code points. -/
abbrev Text := List CodePoint

namespace Text

/-- The text of a list of characters. -/
def ofCharacters (characters : List Char) : Text :=
  characters.map CodePoint.scalar

/-- The text of a string. -/
def ofString (string : String) : Text :=
  ofCharacters string.toList

instance : Coe String Text := ⟨ofString⟩

/-- The characters of a text, if none of its code points is a lone surrogate. -/
def characters? : Text → Option (List Char)
  | [] => some []
  | .scalar character :: rest => (characters? rest).map (character :: ·)
  | .surrogate _ :: _ => none

/-- The string that a text spells, if none of its code points is a lone surrogate. -/
def string? (text : Text) : Option String :=
  text.characters?.map String.ofList

@[simp]
theorem characters?_ofCharacters (characters : List Char) :
    (ofCharacters characters).characters? = some characters := by
  induction characters with
  | nil => rfl
  | cons character rest inductionHypothesis =>
    simp only [ofCharacters, List.map_cons, characters?] at inductionHypothesis ⊢
    simp [inductionHypothesis]

/-- A text has characters if its parts have. -/
theorem characters?_append (first second : Text) :
    (first ++ second).characters? =
      first.characters?.bind fun start => second.characters?.map (start ++ ·) := by
  induction first with
  | nil => simp [characters?]
  | cons point rest inductionHypothesis =>
    cases point with
    | scalar character =>
      simp only [List.cons_append, characters?, inductionHypothesis]
      cases characters? rest <;> cases characters? second <;> simp
    | surrogate offset => rfl

@[simp]
theorem ofString_append (first second : String) :
    ofString (first ++ second) = ofString first ++ ofString second := by
  simp [ofString, ofCharacters]

/-- The texts one after the other, with a separator between neighbours. -/
def join (separator : Text) (texts : List Text) : Text :=
  separator.intercalate texts

/-- Whether the text contains the wanted piece. -/
def contains (wanted : Text) : Text → Bool
  | [] => wanted.isEmpty
  | point :: rest => wanted.isPrefixOf (point :: rest) || contains wanted rest

end Text

end DifferenceTypes
