import DifferenceTypes.Proofs.Generation.PositionalBase
import DifferenceTypes.Proofs.Text.JoinedLines

/-!
# Texts of representations

The declared type of a difference is a quoted text that is made from the text of a field's type, and that
text may hold any code points. What is written for it stays on its line, by the rules of source lines and
by those of display lines, since quoted texts are printable and no line end is. And it is read back: by the
lexer as one string, whatever follows it, and as an expression that is the text and nothing else
(`Code.parse?_representation`). The span of that expression reaches from the first quote to the last.
-/

namespace DifferenceTypes

/-- No printable character ends a line of either kind. -/
theorem endsDisplayLine_of_isPrintable {character : Char} (printable : isPrintableCharacter character = true) :
    (CodePoint.scalar character).endsDisplayLine = false :=
  endsDisplayLine_of_kind _ (by decide +kernel) printable

/-! ### Where a line of characters ends -/

/-- Characters without a line feed move a position on by their bytes. -/
theorem Lexer.advanceAll_of_oneLine {characters : List Char} (oneLine : '\n' ∉ characters) (position : Position) :
    advanceAll position characters =
      ⟨position.line, position.column + (Utf8.encodeCharacters characters).length⟩ := by
  induction characters generalizing position with
  | nil => rfl
  | cons first rest inductionHypothesis =>
    have other : first ≠ '\n' := fun same => oneLine (same ▸ List.mem_cons_self)
    have later : '\n' ∉ rest := fun member => oneLine (List.mem_cons_of_mem _ member)
    have step : advance position first = ⟨position.line, position.column + Utf8.width first⟩ := by
      unfold advance
      rw [if_neg (by simpa using other)]
    have moved : advanceAll position (first :: rest) = advanceAll (advance position first) rest := rfl
    rw [moved, step, inductionHypothesis later]
    simp [Utf8.encodeCharacters, Utf8.width, Nat.add_assoc]

/-! ### A quoted text as an expression -/

namespace Quoted

theorem getLast?_ofText (text : Text) : (ofText text).getLast? = some (quoteFor text) := by
  unfold ofText
  exact List.getLast?_concat

theorem lineFeed_not_mem_ofText (text : Text) : '\n' ∉ ofText text := by
  intro member
  exact absurd (isPrintable_of_mem_ofText member) (by decide)

/-- The single token of a line that holds a quoted text. -/
def lineToken (text : Text) : Token :=
  ⟨.string (token text), ⟨⟨1, 0⟩, ⟨1, (Utf8.encodeCharacters (ofText text)).length⟩⟩⟩

/-- A quoted text that is not empty is a line with one token, which takes all of it. -/
theorem lines?_ofText {text : Text} (nonempty : text ≠ []) :
    Lexer.lines? (withFinalLineEnd (ofText text)) = some [⟨⟨0, 0⟩, [lineToken text], 1, false⟩] := by
  have ended : withFinalLineEnd (ofText text) = ofText text ++ ['\n'] := by
    have other : (quoteFor text == '\n') = false := by
      rcases isQuote_quoteFor text with same | same <;> rw [same] <;> rfl
    unfold withFinalLineEnd
    rw [getLast?_ofText]
    simp [other]
  have scans : Lexer.Scans [] (ofText text ++ ['\n']) [⟨[], ofText text, .string (token text)⟩] :=
    .token (fun _ => visible?_ofText nonempty _) rfl .finish
  have starts : ∃ first rest, ofText text ++ ['\n'] = first :: rest ∧ Lexer.startsToken first = true := by
    refine ⟨quoteFor text, text.flatMap (write (quoteFor text)) ++ [quoteFor text] ++ ['\n'], by simp [ofText], ?_⟩
    rcases isQuote_quoteFor text with same | same <;> rw [same] <;> decide
  have writes := Lexer.Writes.code Lexer.indents_nil scans starts
  have height : ([] ++ (ofText text ++ ['\n'])).count '\n' = 1 := by
    rw [List.nil_append, List.count_append, List.count_eq_zero_of_not_mem (lineFeed_not_mem_ofText text)]
    rfl
  have place := Lexer.advanceAll_of_oneLine (lineFeed_not_mem_ofText text) ⟨1, 0⟩
  have tokens : Lexer.locate (Lexer.advanceAll ⟨1, 0⟩ []) [⟨[], ofText text, .string (token text)⟩] =
      [lineToken text] := by
    have located : Lexer.locate ⟨1, 0⟩ [⟨[], ofText text, .string (token text)⟩] =
        [⟨.string (token text), ⟨⟨1, 0⟩, Lexer.advanceAll ⟨1, 0⟩ (ofText text)⟩⟩] := rfl
    refine located.trans ?_
    rw [place, Nat.zero_add]
    rfl
  rw [height, tokens] at writes
  rw [ended]
  exact Lexer.lines?_eq_some_iff.2 ⟨[ofText text ++ ['\n']], List.flatten_singleton.symm, .cons writes .nil, rfl⟩

/-- A quoted text that is not empty is an expression, the text, from its first quote to its last. -/
theorem parse?_ofText {text : Text} (nonempty : text ≠ []) :
    Expr.parse? (ofText text) =
      some (.constant ⟨⟨1, 0⟩, ⟨1, (Utf8.encodeCharacters (ofText text)).length⟩⟩ (.text text false)) := by
  have whole : ExpressionGrammar.wholeExpression? [.string (token text)] =
      some ((Expr.constant ⟨1, 0⟩ (.text text false)).map (Extent.before 0)) :=
    ExpressionGrammar.wholeExpression?_of_run rfl (ExpressionGrammar.run_expressionOf_quoted _ text)
  rw [Expr.parse?_of_line (lines?_ofText nonempty) rfl rfl]
  have kinds : [lineToken text].map (·.kind) = [.string (token text)] := rfl
  rw [kinds, whole]
  rfl

end Quoted

/-! ### Representations -/

namespace Code

/-- What a difference declares for a field: the runtime's representation, subscripted by the field's type. -/
def representedType (field : Field) : Text :=
  "_diff.Repr[" ++ field.typeText ++ "]"

/-- The declared type of a difference is written without any line end, of source lines or of display lines;
it is one string to the lexer, whatever follows it, which stands for the represented type; and alone it is
an expression, this text, from its first character to its last. -/
theorem parse?_representation (field : Field) :
    (∀ point ∈ representation field, point.endsSourceLine = false ∧ point.endsDisplayLine = false) ∧
    ∃ characters, representation field = Text.ofCharacters characters ∧
      (∃ body, StringLiteral.text? false body = some (representedType field) ∧ ∀ rest,
        Lexer.visible? (characters ++ rest) = some (.string ⟨false, false, false, false, body⟩, rest)) ∧
      Expr.parse? characters =
        some (.constant ⟨⟨1, 0⟩, ⟨1, (Utf8.encodeCharacters characters).length⟩⟩
          (.text (representedType field) false)) := by
  have nonempty : representedType field ≠ [] := by
    simp [representedType, Text.ofString, Text.ofCharacters]
  constructor
  · intro point among
    obtain ⟨character, inside, rfl⟩ := List.mem_map.1 among
    have display := endsDisplayLine_of_isPrintable (Quoted.isPrintable_of_mem_ofText inside)
    refine ⟨Bool.eq_false_iff.2 fun ends => ?_, display⟩
    exact absurd (CodePoint.endsDisplayLine_of_endsSourceLine ends) (by simp [display])
  · refine ⟨Quoted.ofText (representedType field), rfl, ⟨Quoted.body (representedType field), ?_, ?_⟩, ?_⟩
    · exact Quoted.text?_body _
    · exact fun rest => Quoted.visible?_ofText nonempty rest
    · exact Quoted.parse?_ofText nonempty

/-- A type text with both quotes, a backslash before a digit, a line end and half of a surrogate pair. -/
example : representation ⟨[], 0, Text.ofString "'\"\\7\u2028\t" ++ [.surrogate 0]⟩ =
    Text.ofString "'_diff.Repr[\\'\"\\\\7\\u2028\\t\\ud800]'" := by decide +kernel

end Code

end DifferenceTypes
