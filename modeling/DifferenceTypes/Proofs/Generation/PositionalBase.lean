import DifferenceTypes.Generation.Code
import DifferenceTypes.Proofs.Syntax.Primaries
import DifferenceTypes.Proofs.Template.TypeMeaning
import DifferenceTypes.Proofs.Text.SourceLines

/-!
# The base of a positional difference class

The difference class of a positional class has one base, the runtime's positional class with a subscript
that has one quoted text for each field. Whatever these texts are, the base reads as this subscript: a
quoted text is one token of printable characters, and between quoted texts there are only commas.
-/

namespace DifferenceTypes

open ExpressionGrammar (IsSubscriptBy quotedTokens)

/-! ### Quoted texts are printable -/

namespace Quoted

/-- Whatever is written for a code point is printable. -/
theorem isPrintable_of_mem_write {quote character : Char} (isQuote : IsQuote quote) (point : CodePoint)
    (member : character ∈ write quote point) : isPrintableCharacter character = true := by
  have digits {count number : Nat} (inside : character ∈ hexadecimal count number) :
      isPrintableCharacter character = true := by
    induction count generalizing number with
    | zero => exact nomatch inside
    | succ count inductionHypothesis =>
      rcases List.mem_append.1 inside with before | last
      · exact inductionHypothesis before
      · have all : ∀ digit : Fin 16, isPrintableCharacter (hexadecimalDigit digit) = true := by decide
        rw [List.mem_singleton.1 last]
        exact all ⟨number % 16, Nat.mod_lt _ (by decide)⟩
  have letters {letter : Char} {behind : List Char} (printable : isPrintableCharacter letter = true)
      (later : character ∈ behind → isPrintableCharacter character = true)
      (inside : character ∈ '\\' :: letter :: behind) : isPrintableCharacter character = true := by
    rcases List.mem_cons.1 inside with rfl | inside
    · decide
    · rcases List.mem_cons.1 inside with rfl | inside
      · exact printable
      · exact later inside
  have none (inside : character ∈ ([] : List Char)) : isPrintableCharacter character = true :=
    absurd inside List.not_mem_nil
  have escaped (inside : character ∈ escape point) : isPrintableCharacter character = true := by
    unfold escape byNumber at inside
    split at inside
    · exact letters (by decide) none inside
    · split at inside
      · exact letters (by decide) none inside
      · split at inside
        · exact letters (by decide) none inside
        · split at inside
          · exact letters (by decide) digits inside
          · split at inside
            · exact letters (by decide) digits inside
            · exact letters (by decide) digits inside
  cases point with
  | surrogate offset => exact escaped member
  | scalar other =>
    unfold write at member
    dsimp only at member
    split at member
    · next kept =>
      simp only [Bool.or_eq_true, beq_iff_eq] at kept
      refine letters ?_ none member
      rcases kept with rfl | rfl
      · rcases isQuote with rfl | rfl <;> decide
      · decide
    · split at member
      · next printable => exact List.mem_singleton.1 member ▸ printable
      · exact escaped member

/-- A quoted text is printable. -/
theorem isPrintable_of_mem_ofText {text : Text} {character : Char} (member : character ∈ ofText text) :
    isPrintableCharacter character = true := by
  have isQuote := isQuote_quoteFor text
  have quotes : isPrintableCharacter (quoteFor text) = true := by
    rcases isQuote with same | same <;> rw [same] <;> decide
  have split : ofText text = quoteFor text :: (body text ++ [quoteFor text]) := by
    simp [ofText, body]
  rw [split] at member
  rcases List.mem_cons.1 member with rfl | inside
  · exact quotes
  · rcases List.mem_append.1 inside with written | last
    · obtain ⟨point, -, inside⟩ := List.mem_flatMap.1 written
      exact isPrintable_of_mem_write isQuote point inside
    · exact List.mem_singleton.1 last ▸ quotes

end Quoted

/-! ### The tokens of quoted texts -/

/-- Quoted texts with commas and blanks between them. -/
def quotedTexts (texts : List Text) : List Char :=
  [',', ' '].intercalate (texts.map Quoted.ofText)

theorem quotedTexts_cons (first second : Text) (rest : List Text) :
    quotedTexts (first :: second :: rest) =
      Quoted.ofText first ++ ',' :: ' ' :: quotedTexts (second :: rest) := by
  simp [quotedTexts, List.intercalate_cons_cons]

open Lexer (Scans Piece visible?)

/-- Quoted texts up to the bracket behind them are read as these texts. -/
theorem exists_scans_quotedTexts {texts : List Text} (some_ : texts ≠ [])
    (nonempty : ∀ text ∈ texts, text ≠ []) :
    ∃ pieces, Scans [.rightBracket] (quotedTexts texts ++ [']', '\n']) pieces ∧
      pieces.map (·.kind) = quotedTokens texts ++ [.symbol .rightBracket] := by
  have closing : Scans [.rightBracket] ([']'] ++ ['\n']) [⟨[], [']'], .symbol .rightBracket⟩] :=
    .token (fun _ => rfl) rfl .finish
  match texts with
  | [] => exact absurd rfl some_
  | [text] =>
    have whole : quotedTexts [text] = Quoted.ofText text := by simp [quotedTexts]
    rw [whole]
    exact ⟨_, .token (fun rest => Quoted.visible?_ofText (nonempty text List.mem_cons_self) _) rfl closing,
      rfl⟩
  | first :: second :: others =>
    obtain ⟨pieces, scans, kinds⟩ := exists_scans_quotedTexts (List.cons_ne_nil second others)
      fun text member => nonempty text (List.mem_cons_of_mem _ member)
    have spaced : Scans [.rightBracket] (' ' :: (quotedTexts (second :: others) ++ [']', '\n']))
        (Lexer.widen [' '] pieces) := .space rfl scans
    have separated : Scans [.rightBracket] ([','] ++ (' ' :: (quotedTexts (second :: others) ++ [']', '\n'])))
        (⟨[], [','], .symbol .comma⟩ :: Lexer.widen [' '] pieces) := .token (fun _ => rfl) rfl spaced
    have whole := separated.token (fun rest => Quoted.visible?_ofText
      (nonempty first List.mem_cons_self) _) rfl
    have kept : (Lexer.widen [' '] pieces).map (·.kind) = pieces.map (·.kind) := by
      cases pieces <;> rfl
    rw [quotedTexts_cons, List.append_assoc]
    refine ⟨_, whole, ?_⟩
    simp only [List.map_cons, kept, kinds]
    rfl

/-! ### The base as an expression -/

/-- The base of a difference class as it is written. -/
def writtenBase (texts : List Text) : List Char :=
  ['_', 'd', 'i', 'f', 'f'] ++ '.' :: (['P', 'o', 's', 'i', 't', 'i', 'o', 'n', 'a', 'l'] ++
    '[' :: (quotedTexts texts ++ [']']))

/-- The tokens of the base. -/
def baseTokens (texts : List Text) : List TokenKind :=
  .name "_diff" :: .symbol .dot :: .name "Positional" :: .symbol .leftBracket ::
    (quotedTokens texts ++ [.symbol .rightBracket])

/-- A piece weighs at least what one of its tokens weighs. -/
theorem weightOf_le_weight {kind : TokenKind} {kinds : List TokenKind} (member : kind ∈ kinds) :
    Parser.weightOf kind ≤ Parser.weight kinds := by
  induction kinds with
  | nil => exact nomatch member
  | cons first rest inductionHypothesis =>
    have whole : Parser.weight (first :: rest) = Parser.weightOf first + Parser.weight rest := rfl
    rcases List.mem_cons.1 member with rfl | behind
    · omega
    · have later := inductionHypothesis behind
      omega

theorem mem_quotedTokens {texts : List Text} {text : Text} (member : text ∈ texts) :
    TokenKind.string (Quoted.token text) ∈ quotedTokens texts := by
  match texts with
  | [] => exact nomatch member
  | [_] =>
    rw [List.mem_singleton.1 member]
    exact List.mem_singleton_self _
  | first :: second :: others =>
    rw [ExpressionGrammar.quotedTokens_cons]
    rcases List.mem_cons.1 member with rfl | behind
    · exact List.mem_cons_self
    · exact List.mem_cons_of_mem _ (List.mem_cons_of_mem _ (mem_quotedTokens behind))

/-- The base is parsed as a subscript by the texts. -/
theorem exists_wholeExpression?_baseTokens {texts : List Text} (some_ : texts ≠ []) :
    ∃ outer middle first index, ExpressionGrammar.wholeExpression? (baseTokens texts) =
        some (.subscript outer (.attribute middle (.name first "_diff") "Positional") index) ∧
      IsSubscriptBy texts index := by
  have lighter : ∀ text ∈ texts, Parser.weight [.string (Quoted.token text)] <
      Parser.weight (baseTokens texts) := by
    intro text member
    have part := weightOf_le_weight (mem_quotedTokens member)
    have first : Parser.weightOf (.name "_diff") = 1 := rfl
    simp only [baseTokens, Parser.weight, Parser.weight_append, first] at part ⊢
    omega
  obtain ⟨index, indexed, by_⟩ := @ExpressionGrammar.run_subscriptIndex_quoted texts some_
    (Parser.weight (baseTokens texts)) (Parser.weight (baseTokens texts)) lighter
  obtain ⟨outer, middle, first, primary⟩ :=
    @ExpressionGrammar.run_primaryOf_subscript _ "_diff" "Positional" _ _ indexed
  have single : Parser.splitCommas .outside (baseTokens texts) = [baseTokens texts] := by
    have inside := ExpressionGrammar.splitCommas_bracket texts
    exact ExpressionGrammar.splitCommas_cons rfl rfl (ExpressionGrammar.splitCommas_cons rfl rfl
      (ExpressionGrammar.splitCommas_cons rfl rfl (ExpressionGrammar.splitCommas_cons rfl rfl inside)))
  have names : Parser.normalized "_diff" = "_diff" ∧ Parser.normalized "Positional" = "Positional" := by
    decide
  rw [names.1, names.2] at primary
  have whole := ExpressionGrammar.wholeExpression?_of_run single
    (ExpressionGrammar.run_expressionOf rfl primary .nil)
  exact ⟨_, _, _, _, whole, ExpressionGrammar.isSubscriptBy_map by_ _⟩

/-- The texts that the base of a difference class quotes. -/
def quotedTypes (fields : List Field) : List Text :=
  fields.map fun field => "_diff.Repr[" ++ field.typeText ++ "]"

theorem join_representation (fields : List Field) :
    Text.join ", " (fields.map Code.representation) =
      Text.ofCharacters (quotedTexts (quotedTypes fields)) := by
  match fields with
  | [] => rfl
  | [field] => simp [Text.join, quotedTypes, quotedTexts, Code.representation]
  | first :: second :: others =>
    have later := join_representation (second :: others)
    have cut : quotedTexts (quotedTypes (first :: second :: others)) =
        Quoted.ofText ("_diff.Repr[" ++ first.typeText ++ "]") ++
          ',' :: ' ' :: quotedTexts (quotedTypes (second :: others)) := quotedTexts_cons _ _ _
    rw [Text.join] at later ⊢
    rw [List.map_cons, List.map_cons, List.intercalate_cons_cons, ← List.map_cons, later, cut]
    simp [Text.ofCharacters, Text.ofString, Code.representation]

/-- Quoted texts with commas between them are printable. -/
theorem isPrintable_of_mem_quotedTexts {texts : List Text} {character : Char}
    (member : character ∈ quotedTexts texts) : isPrintableCharacter character = true := by
  match texts with
  | [] => exact nomatch member
  | [text] =>
    have whole : quotedTexts [text] = Quoted.ofText text := by simp [quotedTexts]
    exact Quoted.isPrintable_of_mem_ofText (whole ▸ member)
  | first :: second :: others =>
    rw [quotedTexts_cons] at member
    rcases List.mem_append.1 member with here | behind
    · exact Quoted.isPrintable_of_mem_ofText here
    · rcases List.mem_cons.1 behind with rfl | behind
      · decide
      · rcases List.mem_cons.1 behind with rfl | later
        · decide
        · exact isPrintable_of_mem_quotedTexts later

/-- The base is printable, so it is all on one line. -/
theorem isPrintable_of_mem_writtenBase {texts : List Text} {character : Char}
    (member : character ∈ writtenBase texts) : isPrintableCharacter character = true := by
  have inName (name : List Char) (all : name.all isPrintableCharacter = true)
      (inside : character ∈ name) : isPrintableCharacter character = true :=
    List.all_eq_true.1 all _ inside
  rcases List.mem_append.1 member with owner | behind
  · exact inName _ (by decide) owner
  · rcases List.mem_cons.1 behind with rfl | behind
    · decide
    · rcases List.mem_append.1 behind with identifier | behind
      · exact inName _ (by decide) identifier
      · rcases List.mem_cons.1 behind with rfl | behind
        · decide
        · rcases List.mem_append.1 behind with quoted | last
          · exact isPrintable_of_mem_quotedTexts quoted
          · exact List.mem_singleton.1 last ▸ (by decide)

theorem text_positionalBase {fields : List Field} (some_ : fields ≠ []) :
    ("_diff.Positional[" ++ Code.positionalTypes fields ++ "]" : Text) =
      Text.ofCharacters (writtenBase (quotedTypes fields)) := by
  have types : Code.positionalTypes fields =
      Text.ofCharacters (quotedTexts (quotedTypes fields)) := by
    unfold Code.positionalTypes
    rw [if_neg (by simpa using some_), join_representation]
  have opening : Text.ofString "_diff.Positional[" = Text.ofCharacters
      ['_', 'd', 'i', 'f', 'f', '.', 'P', 'o', 's', 'i', 't', 'i', 'o', 'n', 'a', 'l', '['] := by
    decide +kernel
  have closing : Text.ofString "]" = Text.ofCharacters [']'] := by decide +kernel
  rw [types, opening, closing]
  simp only [writtenBase, Text.ofCharacters, List.map_append, List.map_cons, List.map_nil,
    List.cons_append, List.nil_append]

/-- The base is read from its tokens. -/
theorem exists_scans_writtenBase {texts : List Text} (some_ : texts ≠ [])
    (nonempty : ∀ text ∈ texts, text ≠ []) :
    ∃ pieces, Scans [] (writtenBase texts ++ ['\n']) pieces ∧
      pieces.map (·.kind) = baseTokens texts := by
  obtain ⟨pieces, scans, kinds⟩ := exists_scans_quotedTexts some_ nonempty
  have bracket := @Scans.token [] [.rightBracket] (.symbol .leftBracket) ['[']
    (quotedTexts texts ++ [']', '\n']) pieces (fun _ => rfl) rfl scans
  have member := @Scans.token [] [] (.name "Positional")
    ['P', 'o', 's', 'i', 't', 'i', 'o', 'n', 'a', 'l']
    ('[' :: (quotedTexts texts ++ [']', '\n'])) _ (fun _ => rfl) rfl bracket
  have dot := @Scans.token [] [] (.symbol .dot) ['.'] (['P', 'o', 's', 'i', 't', 'i', 'o', 'n', 'a', 'l'] ++
    '[' :: (quotedTexts texts ++ [']', '\n'])) _ (fun _ => rfl) rfl member
  have owner := @Scans.token [] [] (.name "_diff") ['_', 'd', 'i', 'f', 'f']
    ('.' :: (['P', 'o', 's', 'i', 't', 'i', 'o', 'n', 'a', 'l'] ++
      '[' :: (quotedTexts texts ++ [']', '\n']))) _ (fun _ => rfl) rfl dot
  have same : writtenBase texts ++ ['\n'] = ['_', 'd', 'i', 'f', 'f'] ++
      ('.' :: (['P', 'o', 's', 'i', 't', 'i', 'o', 'n', 'a', 'l'] ++
        '[' :: (quotedTexts texts ++ [']', '\n']))) := by
    simp only [writtenBase, List.append_assoc, List.cons_append, List.nil_append]
  rw [same]
  refine ⟨_, owner, ?_⟩
  simp only [List.map_cons, kinds, baseTokens]

/-- Whether an expression is the runtime's positional class with an empty subscript. -/
def isEmptyBase : Expr Unit → Bool
  | .subscript _ (.attribute _ (.name _ "_diff") "Positional") (.tuple _ []) => true
  | _ => false

/-- The base of the difference class of a positional class says that it is the runtime's positional
class with a subscript that has one text for each field. -/
theorem meaning?_positionalBase (fields : List Field) :
    ∃ index, ("_diff.Positional[" ++ Code.positionalTypes fields ++ "]" : Text).meaning? =
        some (.subscript () (runtimeAttribute "Positional") index) ∧
      IsSubscriptBy (quotedTypes fields) index := by
  by_cases none : fields = []
  · subst none
    have empty : ("_diff.Positional[" ++ Code.positionalTypes [] ++ "]" : Text) =
        Text.ofString "_diff.Positional[()]" := rfl
    rw [empty]
    have closed : ("_diff.Positional[()]" : Text).meaning?.any isEmptyBase = true := by decide +kernel
    obtain ⟨base, reads, isEmpty⟩ := (Option.any_eq_true _ _).1 closed
    unfold isEmptyBase at isEmpty
    split at isEmpty
    · exact ⟨_, reads, (), [], rfl, .nil⟩
    · cases isEmpty
  · have some_ : quotedTypes fields ≠ [] := by simpa [quotedTypes] using none
    have nonempty : ∀ text ∈ quotedTypes fields, text ≠ [] := by
      intro text member
      obtain ⟨field, -, rfl⟩ := List.mem_map.1 member
      simp [Text.ofString, Text.ofCharacters]
    obtain ⟨outer, middle, first, index, parsed, isSubscript⟩ := exists_wholeExpression?_baseTokens some_
    obtain ⟨pieces, scans, kinds⟩ := exists_scans_writtenBase some_ nonempty
    have clean : CodePoint.scalar '\r' ∉ Text.ofCharacters (writtenBase (quotedTypes fields)) := by
      intro member
      obtain ⟨character, inside, same⟩ := List.mem_map.1 member
      cases same
      exact absurd (isPrintable_of_mem_writtenBase inside) (by decide)
    have closed : (writtenBase (quotedTypes fields)).getLast? ≠ some '\n' := by
      intro last
      exact absurd (isPrintable_of_mem_writtenBase (List.mem_of_getLast? last)) (by decide)
    have someKind : pieces ≠ [] := by
      rintro rfl
      cases kinds
    obtain ⟨tokens, reads⟩ := Expr.parse?_of_scans (by decide) scans closed someKind
    rw [kinds, parsed] at reads
    rw [text_positionalBase none]
    unfold Text.meaning?
    rw [Text.unifyLineEnds_eq_self clean, Text.characters?_ofCharacters, Option.bind_some]
    rw [show Expr.parse? (writtenBase (quotedTypes fields)) = _ from reads]
    exact ⟨_, rfl, ExpressionGrammar.isSubscriptBy_map (ExpressionGrammar.isSubscriptBy_map isSubscript _) _⟩

end DifferenceTypes
