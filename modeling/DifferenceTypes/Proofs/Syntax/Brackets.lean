import DifferenceTypes.Proofs.Syntax.Spacing
import DifferenceTypes.Proofs.Syntax.Taking

/-!
# Tokens in other brackets

Which brackets are open where tokens stand matters in two ways only: a line end does not end the line
while one is open, and there may not be too many. So tokens that are closed in themselves are read in
the same way where other brackets are open, if these are no more (`scans_of_spells`).
-/

namespace DifferenceTypes.Lexer

open DifferenceTypes.Parser

/-! ### Brackets that wait -/

/-- The brackets that wait behind tokens. -/
def matchBrackets : List TokenKind → List Symbol → Option (List Symbol)
  | [], brackets => some brackets
  | kind :: rest, brackets => (matchBracket kind brackets).bind (matchBrackets rest)

theorem matchBrackets_append (front behind : List TokenKind) (brackets : List Symbol) :
    matchBrackets (front ++ behind) brackets = (matchBrackets front brackets).bind (matchBrackets behind) := by
  induction front generalizing brackets with
  | nil => rfl
  | cons kind rest inductionHypothesis =>
    rw [List.cons_append, matchBrackets, matchBrackets, Option.bind_assoc]
    exact congrArg _ (funext inductionHypothesis)

/-- Where no bracket is open none is closed. -/
theorem matchBracket_nil {kind : TokenKind} (closes : kind.closes = true) : matchBracket kind [] = none := by
  cases kind with
  | symbol symbol => cases symbol <;> first | rfl | exact absurd closes (by decide)
  | _ => exact nomatch closes

/-- A token that closes none of the outer brackets leaves them, whichever they are. -/
theorem exists_of_matchBracket {kind : TokenKind} {rest : List TokenKind} {own base inner : List Symbol}
    {depth : Nat} (matched : matchBracket kind (own ++ base) = some inner)
    (stays : depthBehind? own.length (kind :: rest) = some depth) :
    ∃ next, inner = next ++ base ∧ depthBehind? next.length rest = some depth ∧
      ∀ other, other.length ≤ base.length → matchBracket kind (own ++ other) = some (next ++ other) := by
  cases kind with
  | symbol symbol =>
    unfold depthBehind? at stays
    unfold matchBracket at matched ⊢
    cases closing : symbol.closing? with
    | some closing' =>
      have opens : (TokenKind.symbol symbol).opens = true := by simp [TokenKind.opens, closing]
      rw [if_pos opens] at stays
      simp only [closing] at matched ⊢
      split at matched
      · cases matched
      · next below =>
        cases matched
        refine ⟨closing' :: own, rfl, stays, fun other fewer => if_neg ?_⟩
        simp only [List.length_append] at below ⊢
        omega
    | none =>
      have plain : (TokenKind.symbol symbol).opens = false := by simp [TokenKind.opens, closing]
      simp only [closing] at matched ⊢
      rw [plain, if_neg Bool.false_ne_true] at stays
      cases closes : symbol.closes with
      | true =>
        have closesOne : (TokenKind.symbol symbol).closes = true := closes
        rw [if_pos closesOne] at stays
        cases own with
        | nil => cases stays
        | cons awaited own =>
          rw [if_neg (by simp), List.length_cons, Nat.add_sub_cancel] at stays
          simp only [closes, if_true, List.cons_append] at matched ⊢
          split at matched
          · next same =>
            cases matched
            exact ⟨own, rfl, stays, fun other _ => if_pos same⟩
          · cases matched
      | false =>
        have closesNone : (TokenKind.symbol symbol).closes = false := closes
        rw [closesNone, if_neg Bool.false_ne_true] at stays
        simp only [closes, Bool.false_eq_true, if_false] at matched ⊢
        cases matched
        exact ⟨own, rfl, stays, fun _ _ => rfl⟩
  | _ =>
    cases matched
    exact ⟨own, rfl, stays, fun _ _ => rfl⟩

/-- Tokens that close none of the outer brackets leave them, whichever they are. -/
theorem exists_of_matchBrackets {kinds : List TokenKind} {own base inner : List Symbol} {depth : Nat}
    (matched : matchBrackets kinds (own ++ base) = some inner)
    (stays : depthBehind? own.length kinds = some depth) :
    ∃ next, inner = next ++ base ∧ next.length = depth ∧
      ∀ other, other.length ≤ base.length → matchBrackets kinds (own ++ other) = some (next ++ other) := by
  induction kinds generalizing own with
  | nil =>
    cases matched
    cases stays
    exact ⟨own, rfl, rfl, fun _ _ => rfl⟩
  | cons kind rest inductionHypothesis =>
    obtain ⟨_, first, later⟩ := Option.bind_eq_some_iff.1 matched
    obtain ⟨next, rfl, staysBehind, always⟩ := exists_of_matchBracket first stays
    obtain ⟨last, rfl, length, alwaysLater⟩ := inductionHypothesis later staysBehind
    refine ⟨last, rfl, length, fun other fewer => ?_⟩
    rw [matchBrackets, always other fewer]
    exact alwaysLater other fewer

/-- Tokens that are closed in themselves leave the brackets around them as they are. -/
theorem matchBrackets_of_isBalanced {kinds : List TokenKind} {brackets inner : List Symbol}
    (matched : matchBrackets kinds brackets = some inner) (balanced : IsBalanced kinds) :
    inner = brackets ∧ ∀ other, other.length ≤ brackets.length → matchBrackets kinds other = some other := by
  obtain ⟨next, rfl, none, always⟩ := @exists_of_matchBrackets _ [] _ _ _ matched (balanced 0)
  obtain rfl := List.length_eq_zero_iff.1 none
  exact ⟨rfl, always⟩

/-- A scan opens and closes brackets as its tokens do. -/
theorem Scans.matchBrackets {brackets : List Symbol} {text : List Char} {pieces : List Piece}
    (scans : Scans brackets text pieces) : Lexer.matchBrackets (pieces.map (·.kind)) brackets = some [] := by
  induction pieces generalizing brackets text with
  | nil => rw [scans.brackets_eq_nil]; rfl
  | cons piece rest inductionHypothesis =>
    obtain ⟨inner, behind, -, -, -, matched, later⟩ := scans.cons
    rw [List.map_cons, Lexer.matchBrackets, matched]
    exact inductionHypothesis later

/-- The first pieces of a scan. -/
theorem Scans.exists_spells {brackets : List Symbol} {text : List Char} {front behind : List Piece}
    (scans : Scans brackets text (front ++ behind)) :
    ∃ inner after, text = spelled front ++ after ∧ Spells after front ∧
      Lexer.matchBrackets (front.map (·.kind)) brackets = some inner ∧ Scans inner after behind := by
  induction front generalizing brackets text with
  | nil => exact ⟨brackets, text, rfl, trivial, rfl, scans⟩
  | cons piece front inductionHypothesis =>
    obtain ⟨inner, remaining, rfl, gap, read, matched, later⟩ := scans.cons
    obtain ⟨innermost, after, rfl, spells, matchedRest, rest⟩ := inductionHypothesis later
    refine ⟨innermost, after, by simp [spelled_cons], ⟨gap, fun other => by simpa using read other, spells⟩, ?_,
      rest⟩
    rw [List.map_cons, Lexer.matchBrackets, matched]
    exact matchedRest

/-! ### Pieces in other brackets -/

/-- A gap may be read where brackets are open, or where it has no line end. -/
theorem scans_of_isGap {brackets : List Symbol} {gap text : List Char} {piece : Piece} {others : List Piece}
    (isGap : IsGap gap) (goesOn : brackets ≠ [] ∨ '\n' ∉ gap) (scans : Scans brackets text (piece :: others)) :
    Scans brackets (gap ++ text) ({ piece with gap := gap ++ piece.gap } :: others) := by
  induction isGap with
  | nil => exact scans
  | lineEnd later inductionHypothesis =>
    rcases goesOn with inside | oneLine
    · exact .newline inside (inductionHypothesis (.inl inside))
    · exact absurd List.mem_cons_self oneLine
  | continuation later inductionHypothesis =>
    rcases goesOn with inside | oneLine
    · exact .continuation (inductionHypothesis (.inl inside))
    · exact absurd (by simp) oneLine
  | @comment comment gap own later inductionHypothesis =>
    rcases goesOn with inside | oneLine
    · have goesOn := Scans.comment own (inductionHypothesis (.inl inside))
      rw [List.append_assoc, List.cons_append]
      simpa [widen] using goesOn
    · exact absurd (by simp) oneLine
  | @space first gap blank later inductionHypothesis =>
    exact .space blank (inductionHypothesis (goesOn.imp id fun oneLine among => oneLine (List.mem_cons_of_mem _ among)))

/-- Tokens are read in front of other text, where these brackets are open. -/
theorem scans_of_spells {own base inner : List Symbol} {depth : Nat} {pieces after : List Piece} {text : List Char}
    (spells : Spells text pieces) (matched : Lexer.matchBrackets (pieces.map (·.kind)) (own ++ base) = some inner)
    (stays : depthBehind? own.length (pieces.map (·.kind)) = some depth)
    (goesOn : base ≠ [] ∨ '\n' ∉ spelled pieces) (scans : Scans inner text after) :
    Scans (own ++ base) (spelled pieces ++ text) (pieces ++ after) := by
  induction pieces generalizing own with
  | nil =>
    cases matched
    exact scans
  | cons piece rest inductionHypothesis =>
    obtain ⟨isGap, read, spellsRest⟩ := spells
    obtain ⟨_, first, later⟩ := Option.bind_eq_some_iff.1 matched
    obtain ⟨next, rfl, staysBehind, -⟩ := exists_of_matchBracket first stays
    rw [spelled_cons] at goesOn
    have behind := inductionHypothesis spellsRest later staysBehind
      (goesOn.imp id fun oneLine among => oneLine (by simp [among]))
    have token := Scans.token (fun other => by simpa using read other) first behind
    have whole := scans_of_isGap isGap (goesOn.imp (fun inside none => inside (List.append_eq_nil_iff.1 none).2)
      fun oneLine among => oneLine (by simp [among])) token
    simpa [spelled_cons] using whole

end DifferenceTypes.Lexer
