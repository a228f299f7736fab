import DifferenceTypes.Proofs.Syntax.Lines
import DifferenceTypes.Proofs.Syntax.Quoted
import DifferenceTypes.Syntax.Parser.Expression
import Mathlib.Data.List.Forall2

/-!
# Expressions without operators

A piece that starts with a name or a string, and that is taken whole as an atom with what is behind it,
is an expression by itself: every level of operators passes it on. So what a piece without operators
says can be read off its tokens.

The grammar of a piece is the same wherever the piece stands, as it depends on its weight alone.
-/

namespace DifferenceTypes

/-! ### Runs of small parsers -/

namespace Parser

variable {α : Type} {kind : TokenKind} {kinds rest : List TokenKind}

@[simp]
theorem run_peek_cons : peek.run (kind :: rest) = some (kind, kind :: rest) := rfl

@[simp]
theorem run_peek_nil : peek.run [] = some (.endOfText, []) := rfl

@[simp]
theorem run_discard_take : (discard take).run (kind :: rest) = some ((), rest) := rfl

@[simp]
theorem run_left : left.run kinds = some (kinds.length, kinds) := rfl

@[simp]
theorem run_extentFrom (start : Nat) :
    (extentFrom start).run kinds = some (⟨start, kinds.length⟩, kinds) := rfl

theorem run_accept?_nil {wanted : TokenKind} (visible : wanted.isVisible = true) :
    (accept? wanted).run [] = some (false, []) := by
  have other : (.endOfText == wanted) = false := by
    rw [beq_eq_false_iff_ne]
    rintro rfl
    exact nomatch visible
  unfold accept?
  simp only [StateT.run_bind, run_peek_nil, Option.bind_eq_bind, Option.bind_some, other,
    Bool.false_eq_true, if_false]
  rfl

@[simp]
theorem run_symbol?_nil (wanted : Symbol) : (symbol? wanted).run [] = some (false, []) :=
  run_accept?_nil rfl

@[simp]
theorem run_word?_nil (wanted : ReservedWord) : (word? wanted).run [] = some (false, []) :=
  run_accept?_nil rfl

theorem run_accept?_of_ne {wanted : TokenKind} (other : kind ≠ wanted) :
    (accept? wanted).run (kind :: rest) = some (false, kind :: rest) := by
  unfold accept?
  simp [other]

theorem run_symbol?_of_ne {wanted : Symbol} (other : kind ≠ .symbol wanted) :
    (symbol? wanted).run (kind :: rest) = some (false, kind :: rest) :=
  run_accept?_of_ne other

theorem run_word?_of_ne {wanted : ReservedWord} (other : kind ≠ .word wanted) :
    (word? wanted).run (kind :: rest) = some (false, kind :: rest) :=
  run_accept?_of_ne other

/-- A step that gives a next value is one of those that are repeated. -/
theorem run_iterate_succ {step : α → Parser (Option α)} {value next : α}
    (taken : (step value).run kinds = some (some next, rest)) (fuel : Nat) :
    (iterate step (fuel + 1) value).run kinds = (iterate step fuel next).run rest := by
  rw [iterate, StateT.run_bind, taken]
  rfl

/-- A step that gives none ends the repetition. -/
theorem run_iterate_of_none {step : α → Parser (Option α)} {value : α}
    (ends : (step value).run kinds = some (none, rest)) (fuel : Nat) :
    (iterate step (fuel + 1) value).run kinds = some (value, rest) := by
  rw [iterate, StateT.run_bind, ends]
  rfl

theorem run_repeated {step : α → Parser (Option α)} {first : α} :
    (repeated step first).run kinds = (iterate step (kinds.length + 1) first).run kinds :=
  rfl

theorem run_repeated_of_none {step : α → Parser (Option α)} {first : α}
    (ends : (step first).run kinds = some (none, rest)) :
    (repeated step first).run kinds = some (first, rest) :=
  run_iterate_of_none ends kinds.length

theorem run_many_of_none {item? : Parser (Option α)} (ends : item?.run kinds = some (none, rest)) :
    (many item?).run kinds = some ([], rest) := by
  have repeats : (repeated (fun found => do return (← item?).map (· :: found)) ([] : List α)).run kinds =
      some ([], rest) := run_repeated_of_none (by simp [ends])
  unfold many
  rw [StateT.run_bind, repeats]
  rfl

/-- Pieces that can be parsed alone are parsed one by one. -/
theorem eachAlone_of_each (change : (Extent → Extent) → α → α) (parser : List TokenKind → Parser α)
    (reads : α → List TokenKind → Prop) {pieces : List (List TokenKind × Nat)} (behind : Nat)
    (each : ∀ piece ∈ pieces, ∃ found, alone change (parser piece.1) piece.1 (piece.2 + behind) =
      some found ∧ reads found piece.1) :
    ∃ found, eachAlone change parser pieces behind = some found ∧
      List.Forall₂ reads found (pieces.map (·.1)) := by
  induction pieces with
  | nil => exact ⟨[], rfl, .nil⟩
  | cons piece others inductionHypothesis =>
    obtain ⟨first, parsed, readsFirst⟩ := each piece List.mem_cons_self
    obtain ⟨later, parsedLater, readsLater⟩ :=
      inductionHypothesis fun other member => each other (List.mem_cons_of_mem _ member)
    refine ⟨first :: later, ?_, .cons readsFirst readsLater⟩
    unfold eachAlone at parsedLater ⊢
    simp only [List.mapM_cons, parsed, parsedLater]
    rfl

theorem map_fst_withTokensBehind (pieces : List (List TokenKind)) :
    (withTokensBehind pieces).map (·.1) = pieces := by
  induction pieces with
  | nil => rfl
  | cons piece others inductionHypothesis =>
    rw [withTokensBehind, List.map_cons, inductionHypothesis]

/-- Pieces none of which is empty are all elements. -/
theorem map_fst_elementsOf (nonempty : ∀ piece ∈ splitCommas .outside kinds, piece ≠ []) :
    (elementsOf kinds).map (·.1) = splitCommas .outside kinds := by
  have kept := map_fst_withTokensBehind (splitCommas .outside kinds)
  have last : ((withTokensBehind (splitCommas .outside kinds)).getLast?.any (·.1.isEmpty)) = false := by
    cases found : (withTokensBehind (splitCommas .outside kinds)).getLast? with
    | none => rfl
    | some piece =>
      have among : piece.1 ∈ splitCommas .outside kinds := by
        rw [← kept]
        exact List.mem_map_of_mem (List.mem_of_getLast? found)
      simpa using nonempty _ among
  unfold elementsOf
  simp only [last, Bool.false_eq_true, if_false, kept]

end Parser

/-! ### Grammars by weight -/

namespace ExpressionGrammar

open DifferenceTypes.Parser

variable {bound depth : Nat}

/-- The grammar of a piece below a bound does not depend on the bound. -/
theorem upTo_of_lt {piece : Nat} (below : piece < bound) :
    upTo bound piece = ofDepth (upTo piece) (piece + 1) := by
  induction bound with
  | zero => exact absurd below (Nat.not_lt_zero _)
  | succ bound inductionHypothesis =>
    rw [upTo]
    by_cases smaller : piece < bound
    · rw [if_pos smaller]
      exact inductionHypothesis smaller
    · rw [if_neg smaller, Nat.le_antisymm (Nat.le_of_lt_succ below) (Nat.le_of_not_lt smaller)]

/-- The grammar inside a piece, below the level of its own operators. -/
def within (weight depth : Nat) : NestedGrammar :=
  ⟨ofDepth (upTo weight) depth, upTo weight⟩

/-- An expression in a lighter piece inside. -/
theorem expression_piece {kinds : List TokenKind} (lighter : weight kinds < bound) :
    ((within bound depth).piece kinds).expression =
      expressionOf (within (weight kinds) (weight kinds)) := by
  have same : ((within bound depth).piece kinds).expression = (upTo bound (weight kinds)).expression :=
    rfl
  rw [same, upTo_of_lt lighter]
  rfl

/-- An expression that is a whole piece. -/
theorem expression_ofWeight (weight : Nat) :
    (NestedGrammar.ofWeight weight).expression = expressionOf (within weight weight) := by
  unfold NestedGrammar.ofWeight
  rw [upTo_of_lt (Nat.lt_succ_self weight)]
  rfl

/-! ### Levels of operators -/

variable {inner : NestedGrammar} {operand : Parser (Expr Extent)} {kind : TokenKind}
  {kinds rest behind : List TokenKind} {found : Expr Extent}

/-- Tokens none of which goes on with an expression in front of them: there are none, or the first is
`:=`, `=` or `:`. -/
inductive EndsExpression : List TokenKind → Prop
  | nil : EndsExpression []
  | naming (rest : List TokenKind) : EndsExpression (.symbol .walrus :: rest)
  | assigning (rest : List TokenKind) : EndsExpression (.symbol .equal :: rest)
  | declaring (rest : List TokenKind) : EndsExpression (.symbol .colon :: rest)

theorem run_word?_of_ends (ends : EndsExpression behind) (wanted : ReservedWord) :
    (word? wanted).run behind = some (false, behind) := by
  cases ends with
  | nil => exact run_word?_nil wanted
  | naming | assigning | declaring => exact run_word?_of_ne nofun

theorem run_leftGrouped (whole : operand.run kinds = some (found, behind)) (ends : EndsExpression behind)
    (operator? : Symbol → Option BinaryOperator)
    (other : ∀ symbol ∈ [Symbol.walrus, .equal, .colon], operator? symbol = none) :
    (leftGrouped operand operator?).run kinds = some (found, behind) := by
  unfold leftGrouped
  simp only [StateT.run_bind, run_left, Option.bind_eq_bind, Option.bind_some, whole]
  refine run_repeated_of_none ?_
  cases ends <;> simp [other]

theorem run_joinedBy (whole : operand.run kinds = some (found, behind)) (ends : EndsExpression behind)
    (joining : ReservedWord) (operator : BooleanOperator) :
    (joinedBy operand joining operator).run kinds = some (found, behind) := by
  have none : (many (do
      if ← word? joining then return some (← operand) else return none)).run behind =
        some ([], behind) := run_many_of_none (by simp [run_word?_of_ends ends])
  unfold joinedBy
  simp only [StateT.run_bind, run_left, Option.bind_eq_bind, Option.bind_some, whole, none]
  rfl

/-- Whether a token is a name, a number, a string or a parenthesis, which no operator starts with. -/
def startsPlain : TokenKind → Bool
  | .name _ | .number _ | .string _ | .symbol .leftParenthesis => true
  | _ => false

theorem ne_word_of_startsPlain (starts : startsPlain kind = true) (word : ReservedWord) :
    kind ≠ .word word := by
  rintro rfl
  exact nomatch starts

/-- An atom with nothing behind it that goes on with it is one primary. -/
theorem run_primaryOf_of_atom (whole : (atom inner).run kinds = some (found, behind))
    (ends : EndsExpression behind) : (primaryOf inner).run kinds = some (found, behind) := by
  have none : (trailer? inner kinds.length found).run behind = some (none, behind) := by
    cases ends <;> rfl
  unfold primaryOf
  simp only [StateT.run_bind, run_left, Option.bind_eq_bind, Option.bind_some, whole]
  exact run_repeated_of_none none

/-- Operators between operands of a comparison pass on what is one primary. -/
theorem run_bitwiseOrOf (starts : startsPlain kind = true)
    (whole : (primaryOf inner).run (kind :: rest) = some (found, behind)) (ends : EndsExpression behind) :
    (bitwiseOrOf inner).run (kind :: rest) = some (found, behind) := by
  have awaited : (awaitPrimary inner).run (kind :: rest) = some (found, behind) := by
    unfold awaitPrimary
    simp [run_word?_of_ne (ne_word_of_startsPlain starts _), whole]
  have powered : (power inner).run (kind :: rest) = some (found, behind) := by
    unfold power
    cases ends <;> simp [awaited, run_symbol?_of_ne]
  have signed : (factorOf inner).run (kind :: rest) = some (found, behind) := by
    unfold factorOf
    cases kind with
    | symbol symbol =>
      cases symbol with
      | leftParenthesis => simp [powered, sign?]
      | _ => exact nomatch starts
    | _ => simp [powered]
  have term := run_leftGrouped signed ends termOperator? (by decide)
  have sum := run_leftGrouped term ends sumOperator? (by decide)
  have shift := run_leftGrouped sum ends shiftOperator? (by decide)
  have bitAnd := run_leftGrouped shift ends (only .ampersand .bitAnd) (by decide)
  have bitXor := run_leftGrouped bitAnd ends (only .caret .bitXor) (by decide)
  exact run_leftGrouped bitXor ends (only .bar .bitOr) (by decide)

/-- A primary with nothing behind it that goes on with it is an expression. -/
theorem run_expressionOf (starts : startsPlain kind = true)
    (whole : (primaryOf inner).run (kind :: rest) = some (found, behind)) (ends : EndsExpression behind) :
    (expressionOf inner).run (kind :: rest) = some (found, behind) := by
  have compared : (comparison inner).run (kind :: rest) = some (found, behind) := by
    unfold comparison
    simp only [StateT.run_bind, run_left, Option.bind_eq_bind, Option.bind_some,
      run_bitwiseOrOf starts whole ends]
    cases ends <;> rfl
  have inverted : (inversionOf inner).run (kind :: rest) = some (found, behind) := by
    unfold inversionOf
    simp [run_word?_of_ne (ne_word_of_startsPlain starts _), compared]
  have joined : (disjunctionOf inner).run (kind :: rest) = some (found, behind) :=
    run_joinedBy (run_joinedBy inverted ends _ _) ends _ _
  unfold expressionOf
  simp [run_word?_of_ne (ne_word_of_startsPlain starts _), joined, run_word?_of_ends ends]

/-! ### Texts -/

/-- An expression that is a text constant, wherever it stands. -/
def IsText {σ : Type} (text : Text) (expression : Expr σ) : Prop :=
  ∃ span, expression = .constant span (.text text false)

theorem IsText.map {σ τ : Type} {text : Text} {expression : Expr σ} (isText : IsText text expression)
    (change : σ → τ) : IsText text (expression.map change) := by
  obtain ⟨span, rfl⟩ := isText
  exact ⟨change span, rfl⟩

/-- A quoted text is an expression, the text. -/
theorem run_expressionOf_quoted (inner : NestedGrammar) (text : Text) :
    (expressionOf inner).run [.string (Quoted.token text)] =
      some (.constant ⟨1, 0⟩ (.text text false), []) := by
  have combined : StringLiteral.combine? (interpolated inner ⟨1, 0⟩) ⟨1, 0⟩ [Quoted.token text] =
      some (.constant ⟨1, 0⟩ (.text text false)) := by
    simp [StringLiteral.combine?, StringLiteral.piecesOf?, Quoted.token, Quoted.text?_body]
  have strung : (strings inner).run [.string (Quoted.token text)] =
      (StringLiteral.combine? (interpolated inner ⟨1, 0⟩) ⟨1, 0⟩ [Quoted.token text]).bind
        fun found => some (found, []) := rfl
  rw [combined, Option.bind_some] at strung
  exact run_expressionOf rfl (run_primaryOf_of_atom strung .nil) .nil

/-- A quoted text is an element of a subscript. -/
theorem run_sliceElement_quoted {text : Text} {grammar : ExpressionGrammar} {inner : NestedGrammar}
    (isExpression : grammar.expression = expressionOf inner) :
    (sliceElement grammar).run [.string (Quoted.token text)] =
      some (.constant ⟨1, 0⟩ (.text text false), []) := by
  have taken := run_expressionOf_quoted inner text
  rw [← isExpression] at taken
  unfold sliceElement
  simp [run_symbol?_of_ne, sees, seesNaming, taken]

/-! ### Texts between commas -/

/-- The tokens of quoted texts with commas between them. -/
def quotedTokens (texts : List Text) : List TokenKind :=
  (texts.map fun text => TokenKind.string (Quoted.token text)).intersperse (.symbol .comma)

theorem quotedTokens_cons (first second : Text) (rest : List Text) :
    quotedTokens (first :: second :: rest) =
      .string (Quoted.token first) :: .symbol .comma :: quotedTokens (second :: rest) :=
  rfl

/-- No bracket stands between quoted texts, so a bracket around them ends behind them. -/
theorem splitClosing?_quotedTokens (texts : List Text) (rest : List TokenKind) :
    splitClosing? 0 (quotedTokens texts ++ .symbol .rightBracket :: rest) =
      some (quotedTokens texts, rest) := by
  match texts with
  | [] => rfl
  | [_] => rfl
  | first :: second :: others =>
    have later := splitClosing?_quotedTokens (second :: others) rest
    have skips (kind : TokenKind) (kinds : List TokenKind) (plain : kind.opens = false)
        (goesOn : kind.closes = false) : splitClosing? 0 (kind :: kinds) =
          (splitClosing? 0 kinds).map fun found => (kind :: found.1, found.2) := by
      simp only [splitClosing?, plain, goesOn, Bool.false_and, Bool.false_eq_true, if_false]
    rw [quotedTokens_cons, List.cons_append, List.cons_append, skips _ _ rfl rfl, skips _ _ rfl rfl,
      later]
    rfl

/-- Each text is a piece of its own between the commas. -/
theorem splitCommas_quotedTokens {texts : List Text} (nonempty : texts ≠ []) :
    splitCommas .outside (quotedTokens texts) =
      texts.map fun text => [TokenKind.string (Quoted.token text)] := by
  match texts with
  | [] => exact absurd rfl nonempty
  | [_] => rfl
  | first :: second :: others =>
    have later := splitCommas_quotedTokens (List.cons_ne_nil second others)
    rw [List.map_cons, ← later]
    rfl

/-- A token in front of a piece without commas of its own belongs to it. -/
theorem splitCommas_cons {nesting next : Nesting} {kind : TokenKind} {kinds : List TokenKind}
    (joins : (nesting.isOutside && kind == .symbol .comma) = false) (moves : nesting.behind kind = next)
    (single : splitCommas next kinds = [kinds]) :
    splitCommas nesting (kind :: kinds) = [kind :: kinds] := by
  rw [splitCommas, moves, single]
  simp [joins]

/-- Inside a bracket commas do not count. -/
theorem splitCommas_bracket (texts : List Text) :
    splitCommas ⟨1, []⟩ (quotedTokens texts ++ [TokenKind.symbol .rightBracket]) =
      [quotedTokens texts ++ [TokenKind.symbol .rightBracket]] := by
  match texts with
  | [] => rfl
  | [_] => rfl
  | first :: second :: others =>
    have later := splitCommas_bracket (second :: others)
    exact splitCommas_cons rfl rfl (splitCommas_cons rfl rfl later)

/-- A subscript by texts: a single one, or a tuple of several. -/
def IsSubscriptBy {σ : Type} : List Text → Expr σ → Prop
  | [text], index => IsText text index
  | texts, index => ∃ span elements, index = .tuple span elements ∧
    List.Forall₂ (fun element text => IsText text element) elements texts

theorem isSubscriptBy_map {σ τ : Type} {texts : List Text} {index : Expr σ}
    (by_ : IsSubscriptBy texts index) (change : σ → τ) : IsSubscriptBy texts (index.map change) := by
  have elements {others : List Text} {elements : List (Expr σ)}
      (all : List.Forall₂ (fun element text => IsText text element) elements others) :
      List.Forall₂ (fun element text => IsText text element) (Expr.mapAll change elements) others := by
    induction all with
    | nil => exact .nil
    | cons isText _ inductionHypothesis => exact .cons (isText.map change) inductionHypothesis
  match texts with
  | [_] => exact IsText.map by_ change
  | [] =>
    obtain ⟨span, found, rfl, all⟩ := by_
    exact ⟨change span, _, rfl, elements all⟩
  | _ :: _ :: _ =>
    obtain ⟨span, found, rfl, all⟩ := by_
    exact ⟨change span, _, rfl, elements all⟩

theorem run_enclosed_quotedTokens (texts : List Text) :
    (enclosed .leftBracket).run
        (.symbol .leftBracket :: (quotedTokens texts ++ [TokenKind.symbol .rightBracket])) =
      some ((quotedTokens texts, 1), []) := by
  have opened : (symbol .leftBracket).run
      (.symbol .leftBracket :: (quotedTokens texts ++ [TokenKind.symbol .rightBracket])) =
      some ((), quotedTokens texts ++ [TokenKind.symbol .rightBracket]) := rfl
  unfold enclosed
  rw [StateT.run_bind, opened]
  simp only [Option.bind_eq_bind, Option.bind_some, StateT.run_bind, StateT.run_get, Option.pure_def, splitClosing?_quotedTokens]
  rfl

/-- Quoted texts in the brackets of a subscript. -/
theorem run_subscriptIndex_quoted {texts : List Text} (nonempty : texts ≠ []) {bound depth : Nat}
    (lighter : ∀ text ∈ texts, weight [.string (Quoted.token text)] < bound) :
    ∃ index, (subscriptIndex (within bound depth)).run
        (.symbol .leftBracket :: (quotedTokens texts ++ [TokenKind.symbol .rightBracket])) = some (index, []) ∧
      IsSubscriptBy texts index := by
  have pieces := splitCommas_quotedTokens nonempty
  have elements : (elementsOf (quotedTokens texts)).map (·.1) =
      texts.map fun text => [TokenKind.string (Quoted.token text)] := by
    rw [← pieces]
    refine map_fst_elementsOf fun piece among => ?_
    rw [pieces] at among
    obtain ⟨text, -, rfl⟩ := List.mem_map.1 among
    exact List.cons_ne_nil _ _
  have each : ∀ piece ∈ elementsOf (quotedTokens texts), ∃ found, alone Expr.map
      (sliceElement ((within bound depth).piece piece.1).toExpressionGrammar) piece.1 (piece.2 + 1) =
        some found ∧ ∃ text, piece.1 = [.string (Quoted.token text)] ∧ IsText text found := by
    intro piece among
    have member := List.mem_map_of_mem (f := (·.1)) among
    rw [elements] at member
    obtain ⟨text, inside, same⟩ := List.mem_map.1 member
    refine ⟨.constant (Extent.before (piece.2 + 1) ⟨1, 0⟩) (.text text false), ?_, text, same.symm, _,
      rfl⟩
    unfold alone
    rw [← same, run_sliceElement_quoted (expression_piece (lighter text inside))]
    rfl
  obtain ⟨found, parsed, all⟩ := eachAlone_of_each Expr.map
    (fun kinds => sliceElement ((within bound depth).piece kinds).toExpressionGrammar)
    (fun expression piece => ∃ text, piece = [.string (Quoted.token text)] ∧ IsText text expression) 1
    each
  rw [elements] at all
  have read : List.Forall₂ (fun element text => IsText text element) found texts := by
    rw [List.forall₂_map_right_iff] at all
    refine all.imp fun element text ⟨other, same, isText⟩ => ?_
    obtain ⟨literal, -⟩ := List.cons.inj same
    rw [Quoted.token_injective (TokenKind.string.inj literal)]
    exact isText
  have lifted : (liftM (some found) : Parser (List (Expr Extent))).run [] = some (found, []) := rfl
  unfold subscriptIndex
  simp only [StateT.run_bind, run_enclosed_quotedTokens, Option.bind_eq_bind, Option.bind_some, pieces,
    List.length_map, parsed, lifted]
  cases read with
  | nil => exact absurd rfl nonempty
  | @cons element text elements others isText later =>
    obtain ⟨span, rfl⟩ := isText
    cases later with
    | nil => exact ⟨_, rfl, span, rfl⟩
    | cons second behind => exact ⟨_, rfl, _, _, rfl, .cons ⟨span, rfl⟩ (.cons second behind)⟩

/-- An attribute of a name with a subscript behind it is one primary. -/
theorem run_primaryOf_subscript {owner member : String} {kinds : List TokenKind}
    {index : Expr Extent}
    (indexed : (subscriptIndex inner).run (.symbol .leftBracket :: kinds) = some (index, [])) :
    ∃ outer middle first, (primaryOf inner).run
        (.name owner :: .symbol .dot :: .name member :: .symbol .leftBracket :: kinds) =
      some (.subscript outer (.attribute middle (.name first (normalized owner))
        (normalized member)) index, []) := by
  have subscripted (start : Nat) (value : Expr Extent) :
      (trailer? inner start value).run (.symbol .leftBracket :: kinds) =
        some (some (.subscript ⟨start, 0⟩ value index), []) := by
    have opened : (trailer? inner start value).run (.symbol .leftBracket :: kinds) =
        ((subscriptIndex inner).run (.symbol .leftBracket :: kinds)).bind fun found =>
          some (some (.subscript ⟨start, found.2.length⟩ value found.1), found.2) := rfl
    rw [opened, indexed]
    rfl
  have ends (start : Nat) (value : Expr Extent) :
      (trailer? inner start value).run [] = some (none, []) := rfl
  refine ⟨⟨kinds.length + 4, 0⟩, ⟨kinds.length + 4, kinds.length + 1⟩,
    ⟨kinds.length + 4, kinds.length + 3⟩, ?_⟩
  have opened : (primaryOf inner).run
      (.name owner :: .symbol .dot :: .name member :: .symbol .leftBracket :: kinds) =
        (iterate (trailer? inner (kinds.length + 4)) (kinds.length + 3)
          (.attribute ⟨kinds.length + 4, kinds.length + 1⟩
            (.name ⟨kinds.length + 4, kinds.length + 3⟩ (normalized owner))
            (normalized member))).run (.symbol .leftBracket :: kinds) := rfl
  rw [opened, run_iterate_succ (subscripted _ _), run_iterate_of_none (ends _ _)]

/-- A piece without commas of its own is one expression. -/
theorem wholeExpression?_of_run {kind : TokenKind} {rest : List TokenKind} {found : Expr Extent}
    (single : splitCommas .outside (kind :: rest) = [kind :: rest])
    (whole : (expressionOf (within (weight (kind :: rest)) (weight (kind :: rest)))).run
      (kind :: rest) = some (found, [])) :
    wholeExpression? (kind :: rest) = some (found.map (Extent.before 0)) := by
  have elements : elementsOf (kind :: rest) = [(kind :: rest, 0)] := by
    unfold elementsOf
    rw [single]
    rfl
  have parsed : alone Expr.map (NestedGrammar.ofWeight (weight (kind :: rest))).expression
      (kind :: rest) (0 + 0) = some (found.map (Extent.before 0)) := by
    unfold alone
    rw [expression_ofWeight, whole]
  unfold wholeExpression? eachAlone
  rw [elements, single]
  simp only [List.mapM_cons, parsed]
  rfl

end ExpressionGrammar

/-! ### Texts as expressions -/

namespace Lexer

theorem indents_nil : Indents [] ⟨0, 0⟩ := by
  intro first rest starts
  simp only [startsToken, List.elem_eq_mem, List.mem_cons, List.not_mem_nil, or_false,
    Bool.not_eq_true', decide_eq_false_iff_not, not_or] at starts
  rw [List.nil_append, opening?.eq_8]
  all_goals simp_all [counted, advanceAll]

theorem kinds_locate (position : Position) (pieces : List Piece) :
    (locate position pieces).map (·.kind) = pieces.map (·.kind) := by
  induction pieces generalizing position with
  | nil => rfl
  | cons piece rest inductionHypothesis =>
    rw [locate, List.map_cons, List.map_cons, inductionHypothesis]

end Lexer

/-- A text of one line without indentation is parsed from the line's tokens. -/
theorem Expr.parse?_of_line {source : List Char} {line : Line}
    (lines : Lexer.lines? (withFinalLineEnd source) = some [line])
    (outermost : line.indentation.columns = 0) (visible : line.isBlank = false) :
    Expr.parse? source = (ExpressionGrammar.wholeExpression? (line.tokens.map (·.kind))).map
      (Expr.map (Extent.toSpan (line.moveDown 0).tokens)) := by
  have kinds : (line.moveDown 0).tokens.map (·.kind) = line.tokens.map (·.kind) := by
    simp [Line.moveDown, Token.moveDown]
  have single : (Layout.place 0 [line]).filter (!·.isBlank) = [line.moveDown 0] := by
    have below : (line.moveDown 0).isBlank = false := by
      simpa [Line.isBlank, Line.moveDown] using visible
    simp [Layout.place, below]
  have notIndented : ¬ (line.moveDown 0).indentation.columns > 0 := Nat.not_lt.2 (Nat.le_of_eq outermost)
  unfold Expr.parse?
  simp only [lines, Option.bind_eq_bind, Option.bind_some, single, if_neg notIndented, kinds]
  cases ExpressionGrammar.wholeExpression? (line.tokens.map (·.kind)) <;> rfl

/-- What is written on one line without indentation is parsed from its tokens. -/
theorem Expr.parse?_of_scans {first : Char} {rest : List Char} {pieces : List Lexer.Piece}
    (starts : Lexer.startsToken first = true)
    (scans : Lexer.Scans [] (first :: rest ++ ['\n']) pieces)
    (closed : (first :: rest).getLast? ≠ some '\n') (nonempty : pieces ≠ []) :
    ∃ tokens, Expr.parse? (first :: rest) =
      (ExpressionGrammar.wholeExpression? (pieces.map (·.kind))).map (Expr.map (Extent.toSpan tokens)) := by
  have ended : withFinalLineEnd (first :: rest) = first :: rest ++ ['\n'] := by
    unfold withFinalLineEnd
    cases last : (first :: rest).getLast? with
    | none => simp at last
    | some character =>
      have other : character ≠ '\n' := fun same => closed (same ▸ last)
      simp [other]
  have writes := Lexer.Writes.code Lexer.indents_nil scans ⟨first, rest ++ ['\n'], rfl, starts⟩
  have lines := Lexer.lines?_eq_some_iff.2 ⟨[first :: rest ++ ['\n']], List.flatten_singleton.symm,
    .cons writes .nil, rfl⟩
  have kinds := Lexer.kinds_locate ⟨1, 0⟩ pieces
  have visible : (Lexer.locate ⟨1, 0⟩ pieces).isEmpty = false := by
    cases pieces with
    | nil => exact absurd rfl nonempty
    | cons => rfl
  rw [← ended] at lines
  rw [← kinds]
  exact ⟨_, Expr.parse?_of_line lines rfl visible⟩

end DifferenceTypes
