import DifferenceTypes.Text.Composition.Table

/-!
# Compatibility composition

Two spellings of an identifier count as one when their compatibility compositions (the normal form
KC of Unicode) are equal, so names are kept in that form. A character is replaced by its full
compatibility decomposition, marks are sorted by combining class within each run, and then every
mark or vowel that composes with the starter before it is absorbed.

The composition is meant for identifiers: a character that may not stand in one is left as it is.
-/

namespace DifferenceTypes.Composition

/-- Every character with a decomposition, and the decomposition. -/
def decompositions : List (List Nat) :=
  entries decompositionTable

/-- Ranges with their combining class. -/
def combiningClasses : List (List Nat) :=
  entries combiningClassTable

/-- Pairs with what they compose to. -/
def compositions : List (List Nat) :=
  entries compositionTable

/-- A Hangul syllable as its two or three jamo. -/
def hangulParts? (point : Nat) : Option (List Nat) :=
  if 0xAC00 ≤ point ∧ point < 0xAC00 + 11172 then
    let index := point - 0xAC00
    let leading := 0x1100 + index / 588
    let vowel := 0x1161 + index % 588 / 28
    some (if index % 28 = 0 then [leading, vowel] else [leading, vowel, 0x11A7 + index % 28])
  else none

/-- The full compatibility decomposition of a code point. -/
def decompose (point : Nat) : List Nat :=
  if point < 0x80 then [point]
  else match hangulParts? point with
    | some parts => parts
    | none =>
      match decompositions.find? (fun entry => entry.head? == some point) with
      | some entry => entry.tail
      | none => [point]

/-- The combining class; zero for a starter. -/
def combiningClass (point : Nat) : Nat :=
  if point < 0x300 then 0
  else
    let covers (entry : List Nat) : Bool := entry.getD 0 0 ≤ point && point ≤ entry.getD 1 0
    match combiningClasses.find? covers with
    | some entry => entry.getD 2 0
    | none => 0

/-- Puts a code point behind those of a reversed list, before marks of a higher class. -/
def insertMark (point : Nat) : List Nat → List Nat
  | [] => [point]
  | latest :: earlier =>
    if combiningClass point != 0 && combiningClass point < combiningClass latest then
      latest :: insertMark point earlier
    else point :: latest :: earlier

/-- The code points with the marks of every run in ascending combining class, equal classes in their
order. -/
def sortMarks (points : List Nat) : List Nat :=
  (points.foldl (fun sorted point => insertMark point sorted) []).reverse

/-- What two code points compose to. -/
def compose? (first second : Nat) : Option Nat :=
  if 0x1100 ≤ first ∧ first < 0x1113 ∧ 0x1161 ≤ second ∧ second < 0x1176 then
    some (0xAC00 + ((first - 0x1100) * 21 + (second - 0x1161)) * 28)
  else
    if 0xAC00 ≤ first ∧ first < 0xAC00 + 11172 ∧ (first - 0xAC00) % 28 = 0 ∧ 0x11A7 < second ∧
      second < 0x11C3 then
    some (first + (second - 0x11A7))
  else (compositions.find? (fun entry => entry.take 2 == [first, second])).bind (·[2]?)

/-- Absorbs what composes with the starter. `passed` holds what stands between the starter and the
rest, latest first, and a code point is blocked when the latest of these has a class that is not
lower. -/
def absorb (starter : Nat) (passed : List Nat) : List Nat → List Nat
  | [] => starter :: passed.reverse
  | point :: rest =>
    let blocked := match passed with
      | [] => false
      | latest :: _ => combiningClass point ≤ combiningClass latest
    match if blocked then none else compose? starter point with
    | some composed => absorb composed passed rest
    | none =>
      if combiningClass point == 0 then starter :: passed.reverse ++ absorb point [] rest
      else absorb starter (point :: passed) rest

/-- Marks before the first starter stand as they are; from there on composition starts. -/
def composeFromStarter : List Nat → List Nat
  | [] => []
  | point :: rest =>
    if combiningClass point == 0 then absorb point [] rest else point :: composeFromStarter rest

/-- The compatibility composition of an identifier's characters. -/
def ofIdentifier (characters : List Char) : List Char :=
  if characters.all (·.toNat < 0x80) then characters
  else
    (composeFromStarter (sortMarks
      (characters.flatMap fun character => decompose character.toNat))).map Char.ofNat

end DifferenceTypes.Composition
