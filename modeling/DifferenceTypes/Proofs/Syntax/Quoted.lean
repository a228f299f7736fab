import DifferenceTypes.Proofs.Syntax.Tokens
import DifferenceTypes.Syntax.StringLiteral
import DifferenceTypes.Text.Quoted

/-!
# Quoted texts are read back

A quoted text is one string to the lexer, whatever follows it, and the string stands for the text. Each
code point is written in a way that is read back by itself: as a plain character, as a character behind
a backslash, or by its number with as many digits as the escape takes.

The empty text is left out: its two quotes may be the start of three.
-/

namespace DifferenceTypes

/-- A code point is found by its number. -/
theorem CodePoint.ofNat?_value (point : CodePoint) : ofNat? point.value = some point := by
  cases point with
  | scalar character =>
    have valid : character.toNat.isValidChar := character.valid
    unfold ofNat? value
    rw [dif_pos valid]
    rfl
  | surrogate offset =>
    have low : 0xD800 ≤ 0xD800 + offset.val ∧ 0xD800 + offset.val - 0xD800 < 2048 := by omega
    have invalid : ¬ (0xD800 + offset.val).isValidChar := by
      unfold Nat.isValidChar
      omega
    unfold ofNat? value
    rw [dif_neg invalid, dif_pos low]
    simp

theorem CodePoint.value_lt (point : CodePoint) : point.value < Nat.pow 16 8 := by
  cases point with
  | scalar character =>
    have valid : character.toNat.isValidChar := character.valid
    unfold Nat.isValidChar at valid
    show character.toNat < 4294967296
    omega
  | surrogate offset =>
    show 0xD800 + offset.val < 4294967296
    omega

/-! ### Numbers in base sixteen -/

/-- Each of the sixteen digits is one, stands for its number, and ends no string. -/
theorem hexadecimalDigit_reads {number : Nat} (small : number < 16) :
    NumberLiteral.isDigitOf 16 (hexadecimalDigit number) = true ∧
      NumberLiteral.digitValue (hexadecimalDigit number) = number ∧
      hexadecimalDigit number ∉ ['\\', '\'', '"', '\n'] := by
  have all : ∀ digit : Fin 16, NumberLiteral.isDigitOf 16 (hexadecimalDigit digit) = true ∧
      NumberLiteral.digitValue (hexadecimalDigit digit) = digit.val ∧
      hexadecimalDigit digit ∉ ['\\', '\'', '"', '\n'] := by decide
  exact all ⟨number, small⟩

theorem not_mem_hexadecimal {count number : Nat} {character : Char}
    (member : character ∈ hexadecimal count number) : character ∉ ['\\', '\'', '"', '\n'] := by
  induction count generalizing number with
  | zero => exact nomatch member
  | succ count inductionHypothesis =>
    rcases List.mem_append.1 member with before | last
    · exact inductionHypothesis before
    · rw [List.mem_singleton.1 last]
      exact (hexadecimalDigit_reads (Nat.mod_lt _ (by decide))).2.2

namespace StringLiteral

/-- Digits are read some first and then the others. -/
theorem hexadecimal?_add (first second value : Nat) (characters : List Char) :
    hexadecimal? (first + second) value characters =
      (hexadecimal? first value characters).bind fun (number, rest) =>
        hexadecimal? second number rest := by
  induction first generalizing value characters with
  | zero => rw [Nat.zero_add, hexadecimal?, Option.bind_some]
  | succ first inductionHypothesis =>
    rw [Nat.succ_add]
    cases characters with
    | nil => rfl
    | cons digit rest =>
      rw [hexadecimal?, hexadecimal?]
      split
      · exact inductionHypothesis _ _
      · rfl

/-- A number that has no more digits than are written is read back, behind those read before it. -/
theorem hexadecimal?_hexadecimal {count number : Nat} (fits : number < Nat.pow 16 count) (value : Nat)
    (rest : List Char) :
    hexadecimal? count value (hexadecimal count number ++ rest) =
      some (value * Nat.pow 16 count + number, rest) := by
  induction count generalizing number rest with
  | zero =>
    have zero : number = 0 := Nat.lt_one_iff.1 fits
    simp [hexadecimal?, hexadecimal, zero]
  | succ count inductionHypothesis =>
    have more : Nat.pow 16 (count + 1) = Nat.pow 16 count * 16 := rfl
    rw [more] at fits
    have front : number / 16 < Nat.pow 16 count := by omega
    obtain ⟨isDigit, stands, -⟩ := hexadecimalDigit_reads (Nat.mod_lt number (show 0 < 16 by decide))
    rw [hexadecimal?_add, hexadecimal, List.append_assoc, inductionHypothesis front, Option.bind_some,
      List.singleton_append]
    simp only [hexadecimal?, isDigit, if_true, stands, Option.some.injEq, Prod.mk.injEq, and_true]
    rw [more, ← Nat.mul_assoc]
    omega

end StringLiteral

/-! ### One code point -/

namespace Quoted

open StringLiteral (textFrom textEscape? hexadecimal?)
open Lexer (stringBody?)

/-- The quotes that a quoted text may stand between. -/
def IsQuote (quote : Char) : Prop :=
  quote = '\'' ∨ quote = '"'

theorem isQuote_quoteFor (text : Text) : IsQuote (quoteFor text) := by
  unfold quoteFor
  split
  · exact .inr rfl
  · exact .inl rfl

/-- An escape in front stands for its code point. -/
theorem textFrom_escape {letter : Char} {characters rest : List Char} {point : CodePoint}
    (starts : StringLiteral.startsTextEscape letter = true)
    (reads : textEscape? letter characters = some (some point, rest)) (fuel : Nat) :
    textFrom (fuel + 1) ('\\' :: letter :: characters) = (textFrom fuel rest).map (point :: ·) := by
  rw [textFrom, if_pos starts, reads, Option.bind_eq_bind, Option.bind_some]
  dsimp only
  cases textFrom fuel rest <;> rfl

/-- An escape by the number of a code point stands for it. -/
theorem textFrom_byNumber (point : CodePoint) (fuel : Nat) (rest : List Char) :
    textFrom (fuel + 1) (byNumber point.value ++ rest) =
      (textFrom fuel rest).map (point :: ·) := by
  have reads (letter : Char) (count : Nat) (fits : point.value < Nat.pow 16 count)
      (byDigits : ∀ characters, textEscape? letter characters =
        (hexadecimal? count 0 characters).bind fun (number, after) =>
          (CodePoint.ofNat? number).bind fun point => some (some point, after)) :
      textEscape? letter (hexadecimal count point.value ++ rest) = some (some point, rest) := by
    rw [byDigits, StringLiteral.hexadecimal?_hexadecimal fits, Option.bind_some]
    dsimp only
    rw [Nat.zero_mul, Nat.zero_add, CodePoint.ofNat?_value, Option.bind_some]
  unfold byNumber
  split
  · next small => exact textFrom_escape (by decide) (reads 'x' 2 small fun _ => rfl) fuel
  · split
    · next small => exact textFrom_escape (by decide) (reads 'u' 4 small fun _ => rfl) fuel
    · exact textFrom_escape (by decide) (reads 'U' 8 point.value_lt fun _ => rfl) fuel

/-- What is written for a code point stands for it, whatever follows. -/
theorem textFrom_write {quote : Char} (isQuote : IsQuote quote) (point : CodePoint) (fuel : Nat)
    (rest : List Char) :
    textFrom (fuel + 1) (write quote point ++ rest) = (textFrom fuel rest).map (point :: ·) := by
  have escaped : textFrom (fuel + 1) (escape point ++ rest) =
      (textFrom fuel rest).map (point :: ·) := by
    unfold escape
    split
    · next same => rw [eq_of_beq same]; exact textFrom_escape (by decide) rfl fuel
    · split
      · next same => rw [eq_of_beq same]; exact textFrom_escape (by decide) rfl fuel
      · split
        · next same => rw [eq_of_beq same]; exact textFrom_escape (by decide) rfl fuel
        · exact textFrom_byNumber point fuel rest
  cases point with
  | surrogate offset => exact escaped
  | scalar character =>
    unfold write
    dsimp only
    split
    · next kept =>
      simp only [Bool.or_eq_true, beq_iff_eq] at kept
      rcases kept with rfl | rfl
      · rcases isQuote with rfl | rfl
        · exact textFrom_escape (by decide) rfl fuel
        · exact textFrom_escape (by decide) rfl fuel
      · exact textFrom_escape (by decide) rfl fuel
    · next plain =>
      simp only [Bool.or_eq_true, beq_iff_eq, not_or] at plain
      split
      · rw [List.singleton_append, textFrom]
        exact fun _ _ same => absurd same plain.2
      · exact escaped

/-- Characters that are no backslash, no quote and no line end belong to the body of a string. -/
theorem stringBody?_plain {quote : Char} (characters : List Char)
    (plain : ∀ character ∈ characters, character ∉ ['\\', quote, '\n']) (rest : List Char) :
    stringBody? quote false (characters ++ rest) =
      (stringBody? quote false rest).map fun (body, after) => (characters ++ body, after) := by
  induction characters with
  | nil => simp
  | cons first others inductionHypothesis =>
    have ends := plain first List.mem_cons_self
    simp only [List.mem_cons, List.not_mem_nil, or_false, not_or] at ends
    rw [List.cons_append, Lexer.stringBody?_cons _ ends.1,
      inductionHypothesis fun character member => plain character (List.mem_cons_of_mem _ member)]
    simp [ends.2.1, ends.2.2, Function.comp_def]

/-- A backslash keeps the character behind it in the body. -/
theorem stringBody?_escape {quote : Char} (letter : Char) (rest : List Char) :
    stringBody? quote false ('\\' :: letter :: rest) =
      (stringBody? quote false rest).map fun (body, after) => ('\\' :: letter :: body, after) := by
  rw [stringBody?]

/-- What is written for a code point belongs to the body of the string. -/
theorem stringBody?_write {quote : Char} (isQuote : IsQuote quote) (point : CodePoint)
    (rest : List Char) :
    stringBody? quote false (write quote point ++ rest) =
      (stringBody? quote false rest).map fun (body, after) => (write quote point ++ body, after) := by
  have digits (letter : Char) (count number : Nat) :
      stringBody? quote false ('\\' :: letter :: (hexadecimal count number ++ rest)) =
        (stringBody? quote false rest).map fun (body, after) =>
          ('\\' :: letter :: (hexadecimal count number ++ body), after) := by
    have plain : ∀ character ∈ hexadecimal count number, character ∉ ['\\', quote, '\n'] := by
      intro character member
      have kept := not_mem_hexadecimal member
      simp only [List.mem_cons, List.not_mem_nil, or_false, not_or] at kept ⊢
      rcases isQuote with rfl | rfl
      · exact ⟨kept.1, kept.2.1, kept.2.2.2⟩
      · exact ⟨kept.1, kept.2.2.1, kept.2.2.2⟩
    rw [stringBody?_escape, stringBody?_plain _ plain, Option.map_map]
    rfl
  have escaped : stringBody? quote false (escape point ++ rest) =
      (stringBody? quote false rest).map fun (body, after) => (escape point ++ body, after) := by
    unfold escape
    split
    · exact stringBody?_escape 't' rest
    · split
      · exact stringBody?_escape 'n' rest
      · split
        · exact stringBody?_escape 'r' rest
        · unfold byNumber
          split
          · exact digits 'x' 2 _
          · split
            · exact digits 'u' 4 _
            · exact digits 'U' 8 _
  cases point with
  | surrogate offset => exact escaped
  | scalar character =>
    unfold write
    dsimp only
    split
    · exact stringBody?_escape character rest
    · next plain =>
      simp only [Bool.or_eq_true, beq_iff_eq, not_or] at plain
      split
      · next printable =>
        refine stringBody?_plain [character] (fun other member => ?_) rest
        rw [List.mem_singleton.1 member]
        have noLineEnd : character ≠ '\n' := by
          rintro rfl
          exact absurd printable (by decide)
        simp [plain, noLineEnd]
      · exact escaped

/-! ### Whole texts -/

/-- What stands between the quotes of a quoted text. -/
def body (text : Text) : List Char :=
  text.flatMap (write (quoteFor text))

theorem write_ne_nil (quote : Char) (point : CodePoint) : write quote point ≠ [] := by
  have escaped : escape point ≠ [] := by
    unfold escape byNumber
    split
    · simp
    · split
      · simp
      · split
        · simp
        · split
          · simp
          · split <;> simp
  cases point with
  | surrogate offset => exact escaped
  | scalar character =>
    unfold write
    dsimp only
    split
    · simp
    · split
      · simp
      · exact escaped

/-- The body of a quoted text stands for the text. -/
theorem text?_body (text : Text) : StringLiteral.text? false (body text) = some text := by
  have isQuote := isQuote_quoteFor text
  unfold body
  generalize quoteFor text = quote at isQuote
  have steps (fuel : Nat) (enough : (text.flatMap (write quote)).length < fuel) :
      textFrom fuel (text.flatMap (write quote)) = some text := by
    induction text generalizing fuel with
    | nil =>
      obtain ⟨fuel, rfl⟩ := Nat.exists_eq_add_of_lt enough
      rfl
    | cons point rest inductionHypothesis =>
      obtain ⟨fuel, rfl⟩ := Nat.exists_eq_add_of_le' (Nat.le_trans (Nat.succ_pos _) enough)
      have positive := List.length_pos_iff.2 (write_ne_nil quote point)
      rw [List.flatMap_cons, List.length_append] at enough
      rw [List.flatMap_cons, textFrom_write isQuote, inductionHypothesis fuel (by omega)]
      rfl
  exact steps _ (Nat.lt_succ_self _)

/-- The body of a quoted text ends at the closing quote. -/
theorem stringBody?_body (text : Text) (rest : List Char) :
    stringBody? (quoteFor text) false (body text ++ quoteFor text :: rest) =
      some (body text, rest) := by
  have isQuote := isQuote_quoteFor text
  unfold body
  generalize quoteFor text = quote at isQuote
  induction text with
  | nil =>
    rw [List.flatMap_nil, List.nil_append, Lexer.stringBody?_cons]
    · simp
    · rcases isQuote with rfl | rfl <;> decide
  | cons point others inductionHypothesis =>
    rw [List.flatMap_cons, List.append_assoc, stringBody?_write isQuote, inductionHypothesis]
    rfl

/-- Nothing is written with the quote itself in front. -/
theorem head?_write {quote : Char} (isQuote : IsQuote quote) (point : CodePoint) :
    (write quote point).head? ≠ some quote := by
  have noBackslash : '\\' ≠ quote := by
    rcases isQuote with rfl | rfl <;> decide
  have escaped : (escape point).head? = some '\\' := by
    unfold escape byNumber
    split
    · rfl
    · split
      · rfl
      · split
        · rfl
        · split
          · rfl
          · split <;> rfl
  cases point with
  | surrogate offset =>
    unfold write
    rw [escaped]
    simpa using noBackslash
  | scalar character =>
    unfold write
    dsimp only
    split
    · simpa using noBackslash
    · next plain =>
      simp only [Bool.or_eq_true, beq_iff_eq, not_or] at plain
      split
      · simpa using plain.1
      · rw [escaped]
        simpa using noBackslash

/-- The token of a quoted text. -/
def token (text : Text) : StringToken :=
  ⟨false, false, false, false, body text⟩

/-- The token of a quoted text tells the text. -/
theorem token_injective : Function.Injective token := by
  intro first second same
  have bodies : body first = body second := congrArg StringToken.body same
  exact Option.some.inj ((text?_body first).symm.trans (bodies ▸ text?_body second))

/-- A quoted text that is not empty is read as one string, whatever follows it. -/
theorem visible?_ofText {text : Text} (nonempty : text ≠ []) (rest : List Char) :
    Lexer.visible? (ofText text ++ rest) = some (.string (token text), rest) := by
  have isQuote := isQuote_quoteFor text
  have whole : ofText text ++ rest = quoteFor text :: (body text ++ quoteFor text :: rest) := by
    simp [ofText, body]
  have starts : Lexer.stringStart? (ofText text ++ rest) =
      some (⟨false, false, false, false, []⟩, ofText text ++ rest) := by
    rw [whole]
    rcases isQuote with same | same <;> rw [same] <;> rfl
  have single : [quoteFor text, quoteFor text].isPrefixOf (body text ++ quoteFor text :: rest) =
      false := by
    obtain ⟨point, others, split⟩ := List.exists_cons_of_ne_nil nonempty
    have differs := head?_write isQuote point
    have written (quote : Char) : text.flatMap (write quote) =
        write quote point ++ others.flatMap (write quote) := by
      rw [split, List.flatMap_cons]
    obtain ⟨first, behind, same⟩ := List.exists_cons_of_ne_nil (write_ne_nil (quoteFor text) point)
    rw [same] at differs
    have other : (quoteFor text == first) = false := by
      simpa using fun equal => differs (congrArg some equal.symm)
    rw [body, written, same]
    simp [List.isPrefixOf, other]
  have read : Lexer.string? ⟨false, false, false, false, []⟩ (ofText text ++ rest) =
      some (token text, rest) := by
    rw [whole]
    unfold Lexer.string?
    simp only [single, Bool.false_eq_true, if_false, stringBody?_body, Option.map_some]
    rfl
  rw [whole] at starts read ⊢
  unfold Lexer.visible?
  simp only [starts, read, Option.map_some]

end Quoted

end DifferenceTypes
