import DifferenceTypes.Proofs.Syntax.Grouping
import DifferenceTypes.Proofs.Syntax.Primaries

/-!
# Expressions in parentheses

Tokens that are read as an expression are read as it in parentheses, too (`isSingle_of_run_namedExpressionOf`).
Parentheses may stand around parentheses; the expression takes all tokens in the innermost of them
(`IsSingle.exists_core`), and put into parentheses of their own these say the same
(`IsSingle.wholeExpression?`).
-/

namespace DifferenceTypes

namespace ExpressionGrammar

open DifferenceTypes.Parser

variable {inner : NestedGrammar}

/-- Tokens that no expression starts with: none, one of layout, a `yield`, a star or an equals sign. -/
inductive StartsNothing : List TokenKind → Prop
  | nil : StartsNothing []
  | hidden {kind : TokenKind} (isHidden : kind.isVisible = false) (rest : List TokenKind) :
    StartsNothing (kind :: rest)
  | yield (rest : List TokenKind) : StartsNothing (.word .yieldWord :: rest)
  | star (rest : List TokenKind) : StartsNothing (.symbol .star :: rest)
  | equal (rest : List TokenKind) : StartsNothing (.symbol .equal :: rest)
  | doubleEqual (rest : List TokenKind) : StartsNothing (.symbol .doubleEqual :: rest)

section StartsNothing

variable {kinds : List TokenKind} (starts : StartsNothing kinds)
include starts

theorem run_word?_of_startsNothing {wanted : ReservedWord} (other : wanted ≠ .yieldWord) :
    (word? wanted).run kinds = some (false, kinds) := by
  cases starts with
  | nil => exact run_word?_nil wanted
  | hidden isHidden =>
    refine run_word?_of_ne ?_
    rintro rfl
    exact nomatch isHidden
  | yield => exact run_word?_of_ne fun same => other (TokenKind.word.inj same).symm
  | star | equal | doubleEqual => exact run_word?_of_ne nofun

theorem run_factorOf_of_startsNothing : (factorOf inner).run kinds = none := by
  have atomic : (atom inner).run kinds = none := by
    cases starts with
    | @hidden kind isHidden =>
      cases kind <;> first | rfl | cases isHidden
    | _ => rfl
  have primary : (primaryOf inner).run kinds = none := by
    unfold primaryOf
    simp [atomic]
  have awaited : (awaitPrimary inner).run kinds = none := by
    unfold awaitPrimary
    simp [run_word?_of_startsNothing starts, primary]
  have powered : (power inner).run kinds = none := by
    unfold power
    simp [awaited]
  unfold factorOf
  cases starts with
  | @hidden kind isHidden =>
    cases kind with
    | symbol => exact nomatch isHidden
    | _ => simp [powered]
  | _ => simp [powered, sign?]

omit starts in
theorem run_leftGrouped_of_none {operand : Parser (Expr Extent)} (none : operand.run kinds = none)
    (operator? : Symbol → Option BinaryOperator) : (leftGrouped operand operator?).run kinds = .none := by
  unfold leftGrouped
  simp [none]

omit starts in
theorem run_joinedBy_of_none {operand : Parser (Expr Extent)} (none : operand.run kinds = none)
    (joining : ReservedWord) (operator : BooleanOperator) :
    (joinedBy operand joining operator).run kinds = .none := by
  unfold joinedBy
  simp [none]

theorem run_expressionOf_of_startsNothing : (expressionOf inner).run kinds = none := by
  have operand : (bitwiseOrOf inner).run kinds = none :=
    run_leftGrouped_of_none (run_leftGrouped_of_none (run_leftGrouped_of_none (run_leftGrouped_of_none
      (run_leftGrouped_of_none (run_leftGrouped_of_none (run_factorOf_of_startsNothing starts) _) _) _) _) _) _
  have compared : (comparison inner).run kinds = none := by
    unfold comparison
    simp [operand]
  have inverted : (inversionOf inner).run kinds = none := by
    unfold inversionOf
    simp [run_word?_of_startsNothing starts, compared]
  have joined : (disjunctionOf inner).run kinds = none :=
    run_joinedBy_of_none (run_joinedBy_of_none inverted _ _) _ _
  unfold expressionOf
  simp [run_word?_of_startsNothing starts, joined]

end StartsNothing

/-- The grammar of a piece, which is the same wherever the piece stands. -/
def pieceGrammar (kinds : List TokenKind) : ExpressionGrammar :=
  deepen (within (weight kinds) (weight kinds))

theorem upTo_weight {kinds : List TokenKind} {bound : Nat} (lighter : weight kinds < bound) :
    upTo bound (weight kinds) = pieceGrammar kinds :=
  upTo_of_lt lighter

/-- In parentheses some tokens are read as this expression. -/
def IsSingle (kinds : List TokenKind) (found : Expr Extent) : Prop :=
  (groupContents (pieceGrammar kinds)).run kinds = some (.single found false, [])

/-- Behind a name that is given a value no expression goes on. -/
theorem run_expressionOf_naming (spelling : String) (rest : List TokenKind) :
    (expressionOf inner).run (.name spelling :: .symbol .walrus :: rest) =
      some (.name ⟨rest.length + 2, rest.length + 1⟩ (normalized spelling), .symbol .walrus :: rest) :=
  run_expressionOf rfl (run_primaryOf_of_atom rfl (.naming rest)) (.naming rest)

theorem run_namedExpressionOf_of_startsNothing {kinds : List TokenKind} (starts : StartsNothing kinds) :
    (namedExpressionOf inner).run kinds = none := by
  have unnamed : seesNaming.run kinds = some (false, kinds) := by
    cases starts with
    | @hidden kind isHidden => cases kind <;> first | rfl | cases isHidden
    | _ => rfl
  unfold namedExpressionOf
  simp [unnamed, run_expressionOf_of_startsNothing starts]

/-- Where an expression takes all tokens, no name is given a value. -/
theorem run_namedExpressionOf_of_expressionOf {kinds : List TokenKind} {found : Expr Extent}
    (whole : (expressionOf inner).run kinds = some (found, [])) :
    (namedExpressionOf inner).run kinds = some (found, []) := by
  have unnamed : seesNaming.run kinds = some (false, kinds) := by
    match kinds, whole with
    | [], _ => rfl
    | kind :: rest, whole =>
      cases kind with
      | name spelling =>
        cases rest with
        | nil => rfl
        | cons second others =>
          have other : second ≠ .symbol .walrus := by
            rintro rfl
            exact nomatch (run_expressionOf_naming spelling others).symm.trans whole
          have sees : seesNaming.run (.name spelling :: second :: others) =
              some (second == .symbol .walrus, .name spelling :: second :: others) := rfl
          rw [sees, beq_eq_false_iff_ne.2 other]
      | _ => rfl
  unfold namedExpressionOf
  simp [unnamed, whole]

/-- In parentheses an expression comes first, whatever follows it. -/
theorem run_groupContents_of_namedExpressionOf {kinds rest : List TokenKind} {found : Expr Extent}
    (first : (namedExpressionOf (within (weight kinds) (weight kinds))).run kinds = some (found, rest)) :
    (groupContents (pieceGrammar kinds)).run kinds = (contentsFrom (pieceGrammar kinds) found false).run rest := by
  have starts : ¬ StartsNothing kinds := fun none =>
    nomatch (run_namedExpressionOf_of_startsNothing none).symm.trans first
  cases kinds with
  | nil => exact absurd .nil starts
  | cons kind others =>
    have visible : kind ≠ .endOfText := fun same => starts (.hidden (same ▸ rfl) others)
    have noYield : kind ≠ .word .yieldWord := fun same => starts (same ▸ .yield others)
    have noStar : kind ≠ .symbol .star := fun same => starts (same ▸ .star others)
    have own : (element (pieceGrammar (kind :: others))).run (kind :: others) =
        some ((found, false), rest) := by
      have same : (pieceGrammar (kind :: others)).namedExpression =
          namedExpressionOf (within (weight (kind :: others)) (weight (kind :: others))) := rfl
      unfold element
      simp [run_symbol?_of_ne noStar, same, first]
    unfold groupContents contents
    simp [seesWord, isFinished, noYield, visible, own]

/-- An expression that takes all tokens is read from them in parentheses, too. -/
theorem isSingle_of_run_namedExpressionOf {kinds : List TokenKind} {found : Expr Extent}
    (whole : (namedExpressionOf (within (weight kinds) (weight kinds))).run kinds = some (found, [])) :
    IsSingle kinds found :=
  run_groupContents_of_namedExpressionOf whole

theorem eq_of_run_seesClause {kinds rest : List TokenKind} {sees : Bool}
    (ran : seesClause.run kinds = some (sees, rest)) : rest = kinds := by
  obtain ⟨kind, left, peeked, ran⟩ := exists_of_run_bind ran
  obtain ⟨rfl, -⟩ := eq_of_run_peek peeked
  split at ran
  · cases ran
    rfl
  · obtain ⟨second, behind, peeked, gives⟩ := exists_of_run_bind ran
    cases gives
    exact eq_of_run_peekSecond peeked
  · cases ran
    rfl

/-- Nothing is taken behind the first element of a bracket that holds only that. -/
theorem eq_of_run_contentsFrom {grammar : ExpressionGrammar} {first found : Expr Extent}
    {isStarred : Bool} {kinds rest : List TokenKind}
    (ran : (contentsFrom grammar first isStarred).run kinds = some (.single found false, rest)) :
    first = found ∧ isStarred = false ∧ kinds = rest := by
  unfold contentsFrom at ran
  obtain ⟨sees, left, asked, behind⟩ := exists_of_run_bind ran
  obtain rfl := eq_of_run_seesClause asked
  split at behind
  · obtain ⟨found, _, -, gives⟩ := exists_of_run_bind behind
    exact nomatch gives
  · obtain ⟨comma, left, looked, gives⟩ := exists_of_run_bind behind
    obtain ⟨next, _, peeked, looked⟩ := exists_of_run_bind looked
    obtain ⟨rfl, -⟩ := eq_of_run_peek peeked
    cases looked
    split at gives
    · obtain ⟨found, _, -, gives⟩ := exists_of_run_bind gives
      exact nomatch gives
    · cases gives
      exact ⟨rfl, rfl, rfl⟩

theorem span_of_run_yieldExpression {grammar : ExpressionGrammar} {within : Nat → ExpressionGrammar}
    {kinds rest : List TokenKind} {found : Expr Extent}
    (ran : (yieldExpression grammar).run kinds = some (found, rest)) :
    found.span = ⟨kinds.length, rest.length⟩ ∧ EndsInArguments within kinds rest found := by
  obtain ⟨_, _, got, ran⟩ := exists_of_run_bind ran
  cases got
  obtain ⟨_, left, -, ran⟩ := exists_of_run_bind ran
  obtain ⟨isFrom, _, -, ran⟩ := exists_of_run_bind ran
  split at ran
  · obtain ⟨value, _, -, gives⟩ := exists_of_run_bind ran
    cases gives
    exact ⟨rfl, trivial⟩
  · obtain ⟨sees, _, -, gives⟩ := exists_of_run_bind ran
    split at gives
    · obtain ⟨value, _, -, gives⟩ := exists_of_run_bind gives
      cases gives
      exact ⟨rfl, trivial⟩
    · cases gives
      exact ⟨rfl, trivial⟩

/-- What is read in parentheses is a `yield` or an expression that takes all tokens. -/
theorem IsSingle.isWhole {kinds : List TokenKind} {found : Expr Extent} (single : IsSingle kinds found) :
    (yieldExpression (pieceGrammar kinds)).run kinds = some (found, []) ∨
      (namedExpressionOf (within (weight kinds) (weight kinds))).run kinds = some (found, []) := by
  unfold IsSingle groupContents contents at single
  obtain ⟨yields, left, asked, ran⟩ := exists_of_run_bind single
  obtain ⟨next, _, peeked, asked⟩ := exists_of_run_bind asked
  obtain ⟨rfl, -⟩ := eq_of_run_peek peeked
  cases asked
  split at ran
  · obtain ⟨value, left, taken, gives⟩ := exists_of_run_bind ran
    obtain ⟨same, rfl⟩ : Contents.single value false = .single found false ∧ left = [] :=
      Prod.mk.inj (Option.some.inj gives)
    cases same
    exact .inl taken
  · obtain ⟨finished, left, looked, behind⟩ := exists_of_run_bind ran
    obtain ⟨next, _, peeked, looked⟩ := exists_of_run_bind looked
    obtain ⟨rfl, -⟩ := eq_of_run_peek peeked
    cases looked
    split at behind
    · exact nomatch behind
    · obtain ⟨⟨first, isStarred⟩, left, taken, closed⟩ := exists_of_run_bind behind
      obtain ⟨rfl, rfl, rfl⟩ := eq_of_run_contentsFrom closed
      obtain ⟨start, _, got, took⟩ := exists_of_run_bind taken
      cases got
      obtain ⟨starred, left, accepted, took⟩ := exists_of_run_bind took
      have ⟨_, split⟩ := eq_of_run_accept? accepted
      cases starred with
      | true =>
        obtain ⟨value, _, -, gives⟩ := exists_of_run_bind took
        exact nomatch gives
      | false =>
        obtain rfl := split rfl
        obtain ⟨value, _, named, gives⟩ := exists_of_run_bind took
        cases gives
        exact .inr named

/-- What is read in parentheses takes all tokens in them, or it is in parentheses again. -/
theorem IsSingle.covers {kinds : List TokenKind} {found : Expr Extent} (single : IsSingle kinds found) :
    Covers (upTo (weight kinds)) kinds [] found := by
  rcases single.isWhole with yields | named
  · exact .inl (span_of_run_yieldExpression yields)
  · exact @readsWhole_namedExpressionOf (within (weight kinds) (weight kinds)) _ _ _ named

/-- Tokens that are read in parentheses start with one that stands for text. -/
theorem IsSingle.exists_cons {kinds : List TokenKind} {found : Expr Extent} (single : IsSingle kinds found) :
    ∃ kind rest, kinds = kind :: rest ∧ kind.isVisible = true := by
  rcases single.isWhole with yields | named
  · obtain ⟨_, _, got, ran⟩ := exists_of_run_bind yields
    cases got
    obtain ⟨_, behind, word, -⟩ := exists_of_run_bind ran
    exact ⟨.word .yieldWord, behind, eq_of_run_expect word, rfl⟩
  · have starts : ¬ StartsNothing kinds := fun none =>
      nomatch (run_namedExpressionOf_of_startsNothing none).symm.trans named
    cases kinds with
    | nil => exact absurd .nil starts
    | cons kind rest =>
      exact ⟨kind, rest, rfl, Bool.of_not_eq_false fun isHidden => starts (.hidden isHidden rest)⟩

/-- An expression that takes all of some tokens, which are read as it in parentheses, too. -/
structure IsWhole (core : List TokenKind) (found : Expr Extent) : Prop where
  single : IsSingle core found
  balanced : IsBalanced core
  span : found.span = ⟨core.length, 0⟩
  arguments : EndsInArguments (upTo (weight core)) core [] found

/-- The expression that parentheses hold takes all the tokens in the innermost of them. -/
theorem IsSingle.exists_core {kinds : List TokenKind} {found : Expr Extent}
    (single : IsSingle kinds found) (balanced : IsBalanced kinds) :
    ∃ front core behind inside depth, kinds = front ++ (core ++ behind) ∧
      (∀ kind ∈ behind.head?, kind.closes = true) ∧
      (∀ outer, depthBehind? outer front = some (outer + depth)) ∧ IsWhole core inside ∧
      ∀ (σ : Type) (change : Extent → σ), found.map change =
        inside.map (change ∘ Extent.before behind.length) := by
  generalize size : kinds.length = length
  induction length using Nat.strongRecOn generalizing kinds found with
  | ind length inductionHypothesis =>
    rcases single.covers with ⟨span, ends⟩ | ⟨contents, closing, inner, rfl, closes, inside, read, rfl⟩
    · exact ⟨[], kinds, [], found, 0, by simp, nofun, fun _ => rfl, ⟨single, balanced, span, ends⟩,
        fun _ _ => rfl⟩
    · have lighter : weight contents < weight
          (.symbol .leftParenthesis :: (contents ++ closing :: [])) := by
        simp [weight, weightOf]
        omega
      rw [upTo_weight lighter] at read
      obtain ⟨front, core, behind, value, depth, rfl, ends, opens, whole, moved⟩ :=
        inductionHypothesis contents.length (by simp at size; omega) read inside rfl
      refine ⟨.symbol .leftParenthesis :: front, core, behind ++ [closing], value, depth + 1, by simp, ?_,
        fun outer => ?_, whole, fun σ change => ?_⟩
      · cases behind with
        | nil => simpa using closes
        | cons first others => simpa using ends
      · have opensOne : (TokenKind.symbol .leftParenthesis).opens = true := rfl
        rw [depthBehind?, if_pos opensOne, opens, Nat.add_right_comm, Nat.add_assoc]
      · rw [Expr.map_map, moved]
        congr 1
        funext extent
        simp [Extent.before, Nat.add_assoc]

/-- A bracket around tokens that are closed in themselves ends behind them. -/
theorem splitClosing?_of_closed {depth : Nat} {contents : List TokenKind}
    (closed : depthBehind? depth contents = some 0) {closing : TokenKind} (closes : closing.closes = true)
    (rest : List TokenKind) :
    splitClosing? depth (contents ++ closing :: rest) = some (contents, rest) := by
  induction contents generalizing depth with
  | nil =>
    cases closed
    simp [splitClosing?, closes]
  | cons kind others inductionHypothesis =>
    unfold depthBehind? at closed
    rw [List.cons_append, splitClosing?]
    split at closed
    · next opens =>
      have stays : kind.closes = false := by
        cases closes : kind.closes with
        | false => rfl
        | true => exact absurd opens (by simp [TokenKind.opens_eq_false_of_closes closes])
      simp [stays, opens, inductionHypothesis closed]
    · next plain =>
      split at closed
      · next closesOne =>
        split at closed
        · cases closed
        · next positive => simp [closesOne, plain, positive, inductionHypothesis closed]
      · next stays => simp [stays, plain, inductionHypothesis closed]

/-- Inside of a bracket commas do not count. -/
theorem splitCommas_of_closed {depth : Nat} {contents : List TokenKind}
    (closed : depthBehind? depth contents = some 0) (closing : TokenKind) :
    splitCommas ⟨depth + 1, []⟩ (contents ++ [closing]) = [contents ++ [closing]] := by
  have inside (depth : Nat) (kind : TokenKind) :
      ((⟨depth + 1, []⟩ : Nesting).isOutside && kind == .symbol .comma) = false := by
    simp [Nesting.isOutside]
  induction contents generalizing depth with
  | nil => exact splitCommas_cons (inside depth closing) rfl rfl
  | cons kind others inductionHypothesis =>
    unfold depthBehind? at closed
    split at closed
    · next opens =>
      refine splitCommas_cons (inside depth kind) ?_ (inductionHypothesis closed)
      simp [Nesting.behind, opens]
    · next plain =>
      split at closed
      · next closesOne =>
        split at closed
        · cases closed
        · next positive =>
          obtain ⟨outer, rfl⟩ := Nat.exists_eq_succ_of_ne_zero positive
          refine splitCommas_cons (inside _ kind) ?_ (inductionHypothesis closed)
          simp [Nesting.behind, plain, closesOne]
      · next stays =>
        refine splitCommas_cons (inside depth kind) ?_ (inductionHypothesis closed)
        simp [Nesting.behind, plain, stays]

/-- Tokens that are closed in themselves in parentheses. Which bracket closes them plays no part here. -/
def grouped (contents : List TokenKind) (closing : TokenKind) : List TokenKind :=
  .symbol .leftParenthesis :: (contents ++ [closing])

theorem length_grouped (contents : List TokenKind) (closing : TokenKind) :
    (grouped contents closing).length = contents.length + 2 := by
  simp [grouped]

theorem weight_lt_grouped (contents : List TokenKind) (closing : TokenKind) :
    weight contents < weight (grouped contents closing) := by
  simp only [grouped, weight, weight_append, weightOf]
  omega

section Grouped

variable {contents : List TokenKind} {closing : TokenKind}

theorem isBalanced_grouped (balanced : IsBalanced contents) (closes : closing.closes = true) :
    IsBalanced (grouped contents closing) := by
  intro depth
  have opens : (TokenKind.symbol .leftParenthesis).opens = true := rfl
  rw [grouped, depthBehind?, if_pos opens, depthBehind?_append, balanced (depth + 1)]
  simp [depthBehind?, closes, TokenKind.opens_eq_false_of_closes closes]

variable (balanced : IsBalanced contents) (closes : closing.closes = true) {bound : Nat}
  (lighter : weight contents < bound)
include balanced closes

theorem run_enclosed_grouped :
    (enclosed .leftParenthesis).run (grouped contents closing) = some ((contents, 1), []) := by
  have opened : (symbol .leftParenthesis).run (grouped contents closing) = some ((), contents ++ [closing]) :=
    rfl
  have closed := splitClosing?_of_closed (balanced 0) closes []
  unfold enclosed
  rw [StateT.run_bind, opened]
  simp only [Option.bind_eq_bind, Option.bind_some, StateT.run_bind, StateT.run_get, Option.pure_def, closed]
  rfl

include lighter

/-- What parentheses hold is parsed alone, wherever they stand. -/
theorem run_inBrackets_grouped {found : Contents Extent}
    (read : (groupContents (pieceGrammar contents)).run contents = some (found, [])) :
    (inBrackets (within bound bound) .leftParenthesis groupContents).run (grouped contents closing) =
      some (found.map (Extent.before 1), []) := by
  have parsed : alone Contents.map (groupContents ((within bound bound).piece contents).toExpressionGrammar)
      contents 1 = some (found.map (Extent.before 1)) := by
    have same : ((within bound bound).piece contents).toExpressionGrammar = pieceGrammar contents :=
      upTo_weight lighter
    unfold alone
    rw [same, read]
  unfold inBrackets
  rw [StateT.run_bind, run_enclosed_grouped balanced closes]
  simp only [Option.bind_eq_bind, Option.bind_some, parsed]
  rfl

omit balanced closes lighter in
/-- Parentheses with nothing behind them are an expression. -/
theorem run_expressionOf_of_parenthesized {found : Expr Extent}
    (read : (parenthesized inner).run (grouped contents closing) = some (found, [])) :
    (expressionOf inner).run (grouped contents closing) = some (found, []) := by
  have atomic : (atom inner).run (grouped contents closing) = some (found, []) := read
  exact run_expressionOf rfl (run_primaryOf_of_atom atomic .nil) .nil

/-- Tokens that are read as an expression in parentheses are this expression in parentheses of their
own. -/
theorem IsSingle.run_expressionOf {found : Expr Extent} (single : IsSingle contents found) :
    (expressionOf (within bound bound)).run (grouped contents closing) =
      some (found.map (Extent.before 1), []) := by
  have inside := run_inBrackets_grouped balanced closes lighter single
  refine run_expressionOf_of_parenthesized ?_
  unfold parenthesized
  simp only [StateT.run_bind, run_left, Option.bind_eq_bind, Option.bind_some, inside]
  rfl

/-- Parentheses around a comprehension make a generator. -/
theorem run_expressionOf_generator {element : Expr Extent} {clauses : List (Clause Extent)}
    (read : (groupContents (pieceGrammar contents)).run contents =
      some (.comprehension element clauses, [])) :
    (expressionOf (within bound bound)).run (grouped contents closing) =
      some (.generator ⟨contents.length + 2, 0⟩ (element.map (Extent.before 1))
        (Clause.mapAll (Extent.before 1) clauses), []) := by
  have inside := run_inBrackets_grouped balanced closes lighter read
  refine run_expressionOf_of_parenthesized ?_
  unfold parenthesized
  simp only [StateT.run_bind, run_left, Option.bind_eq_bind, Option.bind_some, inside, length_grouped]
  rfl

end Grouped

/-- Tokens that are read as an expression in parentheses say the same in parentheses of their own. -/
theorem IsSingle.wholeExpression? {core : List TokenKind} {found : Expr Extent}
    (single : IsSingle core found) (balanced : IsBalanced core) :
    ∃ whole, ExpressionGrammar.wholeExpression? (grouped core (.symbol .rightParenthesis)) = some whole ∧
      whole.content = found.content := by
  have pieces : splitCommas .outside (grouped core (.symbol .rightParenthesis)) =
      [grouped core (.symbol .rightParenthesis)] :=
    splitCommas_cons rfl rfl (splitCommas_of_closed (balanced 0) _)
  have closes : (TokenKind.symbol .rightParenthesis).closes = true := rfl
  have whole := single.run_expressionOf balanced closes (weight_lt_grouped core (.symbol .rightParenthesis))
  exact ⟨_, wholeExpression?_of_run pieces whole, by rw [Expr.content_map, Expr.content_map]⟩

end ExpressionGrammar

end DifferenceTypes
