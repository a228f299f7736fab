import DifferenceTypes.Text.Utf8

/-!
# Reading back what was encoded

Every character takes one to four bytes, and the first byte tells how many. So the bytes of a
character are decoded to that character whatever follows them, and the bytes of a text are decoded to
the text. No condition on the text is needed besides that it has an encoding at all.
-/

namespace DifferenceTypes

namespace Utf8

/-- Characters are numbers below U+110000 that are not surrogates. -/
theorem character_bounds (character : Char) :
    character.toNat < 0xD800 ∨ 0xDFFF < character.toNat ∧ character.toNat < 0x110000 := by
  have valid : character.toNat.isValidChar := character.valid
  simpa only [Nat.isValidChar] using valid

/-- The number of a character gives the character back, if its length is the right one. -/
theorem characterFrom?_toNat (character : Char) {least number : Nat}
    (same : number = character.toNat) (long : least ≤ number) :
    characterFrom? least number = some character := by
  subst same
  have valid : least ≤ character.toNat ∧ character.toNat.isValidChar := ⟨long, character.valid⟩
  rw [characterFrom?, dif_pos valid]
  rfl

/-- A byte made from a small number is that number. -/
theorem toNat_toUInt8_of_lt {number : Nat} (small : number < 256) :
    number.toUInt8.toNat = number := by
  simp [Nat.toUInt8, Nat.mod_eq_of_lt small]

/-- A continuation byte gives its six bits back. -/
theorem continuation?_toUInt8 {bits : Nat} (few : bits < 64) :
    continuation? (0x80 + bits).toUInt8 = some bits := by
  have value : (0x80 + bits).toUInt8.toNat = 0x80 + bits := toNat_toUInt8_of_lt (by omega)
  simp only [continuation?, value]
  rw [if_pos (by omega)]
  simp

/-! ### The four lengths

Each is stated for any bytes whose numbers put together are the character's, so that the bytes
themselves are never computed. -/

variable {first second third fourth : UInt8} {rest : List UInt8} {character : Char}

theorem decodeCharacters?_one (lead : first.toNat < 0x80) (same : first.toNat = character.toNat) :
    decodeCharacters? (first :: rest) = (decodeCharacters? rest).map (character :: ·) := by
  rw [decodeCharacters?.eq_def]
  simp only [if_pos lead, characterFrom?_toNat character same (Nat.zero_le _)]
  cases decodeCharacters? rest <;> rfl

theorem decodeCharacters?_two {low : Nat} (least : 0xC2 ≤ first.toNat) (most : first.toNat < 0xE0)
    (continued : continuation? second = some low)
    (same : (first.toNat - 0xC0) * 64 + low = character.toNat) (long : 0x80 ≤ character.toNat) :
    decodeCharacters? (first :: second :: rest) =
      (decodeCharacters? rest).map (character :: ·) := by
  rw [decodeCharacters?.eq_def]
  simp only
  rw [if_neg (by omega), if_neg (by omega), if_pos most, continued, Option.bind_eq_bind,
    Option.bind_some, characterFrom?_toNat character same (by omega)]
  cases decodeCharacters? rest <;> rfl

theorem decodeCharacters?_three {middle low : Nat} (least : 0xE0 ≤ first.toNat)
    (most : first.toNat < 0xF0) (next : continuation? second = some middle)
    (last : continuation? third = some low)
    (same : (first.toNat - 0xE0) * 4096 + middle * 64 + low = character.toNat)
    (long : 0x800 ≤ character.toNat) :
    decodeCharacters? (first :: second :: third :: rest) =
      (decodeCharacters? rest).map (character :: ·) := by
  rw [decodeCharacters?.eq_def]
  simp only
  rw [if_neg (by omega), if_neg (by omega), if_neg (by omega), if_pos most, next,
    Option.bind_eq_bind, Option.bind_some, last, Option.bind_eq_bind, Option.bind_some,
    characterFrom?_toNat character same (by omega)]
  cases decodeCharacters? rest <;> rfl

theorem decodeCharacters?_four {high middle low : Nat} (least : 0xF0 ≤ first.toNat)
    (most : first.toNat < 0xF5) (next : continuation? second = some high)
    (later : continuation? third = some middle) (last : continuation? fourth = some low)
    (same : (first.toNat - 0xF0) * 262144 + high * 4096 + middle * 64 + low = character.toNat)
    (long : 0x10000 ≤ character.toNat) :
    decodeCharacters? (first :: second :: third :: fourth :: rest) =
      (decodeCharacters? rest).map (character :: ·) := by
  rw [decodeCharacters?.eq_def]
  simp only
  rw [if_neg (by omega), if_neg (by omega), if_neg (by omega), if_neg (by omega), if_pos most, next,
    Option.bind_eq_bind, Option.bind_some, later, Option.bind_eq_bind, Option.bind_some, last,
    Option.bind_eq_bind, Option.bind_some, characterFrom?_toNat character same (by omega)]
  cases decodeCharacters? rest <;> rfl

/-- The bytes of a character are decoded to it, whatever follows. -/
theorem decodeCharacters?_encodeCharacter (character : Char) (rest : List UInt8) :
    decodeCharacters? (encodeCharacter character ++ rest) =
      (decodeCharacters? rest).map (character :: ·) := by
  have bounds := character_bounds character
  have lead {number : Nat} (small : number < 256) : number.toUInt8.toNat = number :=
    toNat_toUInt8_of_lt small
  have bits (number : Nat) : continuation? (0x80 + number % 64).toUInt8 = some (number % 64) :=
    continuation?_toUInt8 (Nat.mod_lt _ (by decide))
  simp only [encodeCharacter]
  split
  · rename_i one
    exact decodeCharacters?_one (by rw [lead (by omega)]; exact one) (lead (by omega))
  · split
    · rename_i notOne two
      have value := lead (show 0xC0 + character.toNat / 64 < 256 by omega)
      exact decodeCharacters?_two (by omega) (by omega) (bits _) (by omega) (by omega)
    · split
      · rename_i notOne notTwo three
        have value := lead (show 0xE0 + character.toNat / 4096 < 256 by omega)
        exact decodeCharacters?_three (by omega) (by omega) (bits _) (bits _) (by omega) (by omega)
      · rename_i notOne notTwo notThree
        have value := lead (show 0xF0 + character.toNat / 262144 < 256 by omega)
        exact decodeCharacters?_four (by omega) (by omega) (bits _) (bits _) (bits _) (by omega)
          (by omega)

/-- Encoded characters are decoded to themselves. -/
theorem decodeCharacters?_encodeCharacters (characters : List Char) :
    decodeCharacters? (encodeCharacters characters) = some characters := by
  induction characters with
  | nil => rfl
  | cons character rest inductionHypothesis =>
    have bytes : encodeCharacters (character :: rest) =
        encodeCharacter character ++ encodeCharacters rest := rfl
    rw [bytes, decodeCharacters?_encodeCharacter, inductionHypothesis]
    rfl

end Utf8

/-- A text that has characters is the text of these characters. -/
theorem Text.ofCharacters_of_characters? {text : Text} {characters : List Char}
    (found : text.characters? = some characters) : Text.ofCharacters characters = text := by
  induction text generalizing characters with
  | nil =>
    cases Option.some.inj found
    rfl
  | cons point rest inductionHypothesis =>
    cases point with
    | scalar character =>
      obtain ⟨others, remaining, rfl⟩ := Option.map_eq_some_iff.1 found
      exact congrArg (CodePoint.scalar character :: ·) (inductionHypothesis remaining)
    | surrogate offset => simp [Text.characters?] at found

/-- The bytes of a text are decoded to the text. -/
theorem Utf8.decode?_of_encode? {text : Text} {bytes : List UInt8}
    (encoded : Utf8.encode? text = some bytes) : Utf8.decode? bytes = some text := by
  obtain ⟨characters, found, rfl⟩ := Option.map_eq_some_iff.1 encoded
  rw [decode?, decodeCharacters?_encodeCharacters]
  exact congrArg some (Text.ofCharacters_of_characters? found)

/-! ### Cuts between characters -/

namespace Text

theorem encode?_ofCharacters (characters : List Char) :
    Utf8.encode? (ofCharacters characters) = some (Utf8.encodeCharacters characters) := by
  rw [Utf8.encode?, characters?_ofCharacters]
  rfl

theorem decode?_encodeCharacters (characters : List Char) :
    Utf8.decode? (Utf8.encodeCharacters characters) = some (ofCharacters characters) :=
  Utf8.decode?_of_encode? (encode?_ofCharacters characters)

theorem boundary_of_le {length column : Nat} (inside : column ≤ length) :
    boundary length column = column := by
  rw [boundary, if_neg (by omega), Int.toNat_natCast, Nat.min_eq_left inside]

theorem encodeCharacters_append (before after : List Char) :
    Utf8.encodeCharacters (before ++ after) =
      Utf8.encodeCharacters before ++ Utf8.encodeCharacters after :=
  List.flatMap_append

theorem boundary_encodeCharacters (before after : List Char) :
    boundary (Utf8.encodeCharacters (before ++ after)).length (Utf8.encodeCharacters before).length =
      (Utf8.encodeCharacters before).length := by
  refine boundary_of_le ?_
  rw [encodeCharacters_append, List.length_append]
  exact Nat.le_add_right _ _

theorem take_encodeCharacters (before after : List Char) :
    (Utf8.encodeCharacters (before ++ after)).take (Utf8.encodeCharacters before).length =
      Utf8.encodeCharacters before := by
  rw [encodeCharacters_append]
  exact List.take_left

theorem drop_encodeCharacters (before after : List Char) :
    (Utf8.encodeCharacters (before ++ after)).drop (Utf8.encodeCharacters before).length =
      Utf8.encodeCharacters after := by
  rw [encodeCharacters_append]
  exact List.drop_left

/-- What stands before a column between two characters. -/
theorem upToColumn_ofCharacters (before after : List Char) :
    (ofCharacters (before ++ after)).upToColumn (Utf8.encodeCharacters before).length =
      .ok (ofCharacters before) := by
  simp only [upToColumn, encode?_ofCharacters, boundary_encodeCharacters, take_encodeCharacters,
    decode?_encodeCharacters]

/-- What stands behind a column between two characters. -/
theorem fromColumn_ofCharacters (before after : List Char) :
    (ofCharacters (before ++ after)).fromColumn (Utf8.encodeCharacters before).length =
      .ok (ofCharacters after) := by
  simp only [fromColumn, encode?_ofCharacters, boundary_encodeCharacters, drop_encodeCharacters,
    decode?_encodeCharacters]

/-- What stands between two such columns. -/
theorem between_ofCharacters (before middle after : List Char) :
    (ofCharacters (before ++ middle ++ after)).between (Utf8.encodeCharacters before).length
      (Utf8.encodeCharacters (before ++ middle)).length = .ok (ofCharacters middle) := by
  have low := boundary_encodeCharacters before (middle ++ after)
  have high := boundary_encodeCharacters (before ++ middle) after
  rw [← List.append_assoc] at low
  simp only [between, encode?_ofCharacters, low, high, take_encodeCharacters, drop_encodeCharacters,
    decode?_encodeCharacters]

/-- Something stands between any two such columns; nothing if they are the other way round. -/
theorem exists_between_ofCharacters {line first second after behind : List Char}
    (isFirst : line = first ++ after) (isSecond : line = second ++ behind) :
    ∃ part, (ofCharacters line).between (Utf8.encodeCharacters first).length
      (Utf8.encodeCharacters second).length = .ok part := by
  rcases List.append_eq_append_iff.1 (isFirst.symm.trans isSecond) with ⟨middle, rfl, -⟩ | ⟨middle, rfl, -⟩
  · exact ⟨_, isSecond ▸ between_ofCharacters first middle behind⟩
  · have low := boundary_encodeCharacters (second ++ middle) after
    have high := boundary_encodeCharacters second behind
    have taken := take_encodeCharacters second behind
    rw [← isFirst] at low
    rw [← isSecond] at high taken
    simp only [between, encode?_ofCharacters, low, high, taken]
    rw [List.drop_eq_nil_of_le]
    · exact ⟨[], rfl⟩
    · rw [encodeCharacters_append, List.length_append]
      exact Nat.le_add_right _ _

end Text

end DifferenceTypes
