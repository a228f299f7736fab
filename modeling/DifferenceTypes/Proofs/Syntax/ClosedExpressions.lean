import DifferenceTypes.Proofs.Syntax.Taking

/-!
# Expressions are closed in themselves

Whatever a parser of expressions takes is closed in itself, since a bracket is taken with all that
stands in it. What stands in brackets plays no part here: it is parsed alone.
-/

namespace DifferenceTypes

open DifferenceTypes.Parser

/-- All parsers of nested expressions take what is allowed. -/
class ExpressionGrammar.Takes (allowed : List TokenKind → Prop) (grammar : ExpressionGrammar) :
    Prop where
  starExpressions : Parser.Takes allowed grammar.starExpressions
  namedExpression : Parser.Takes allowed grammar.namedExpression
  expression : Parser.Takes allowed grammar.expression
  disjunction : Parser.Takes allowed grammar.disjunction
  inversion : Parser.Takes allowed grammar.inversion
  bitwiseOr : Parser.Takes allowed grammar.bitwiseOr
  factor : Parser.Takes allowed grammar.factor
  primary : Parser.Takes allowed grammar.primary

attribute [instance] ExpressionGrammar.Takes.starExpressions ExpressionGrammar.Takes.namedExpression
  ExpressionGrammar.Takes.expression ExpressionGrammar.Takes.disjunction
  ExpressionGrammar.Takes.inversion ExpressionGrammar.Takes.bitwiseOr ExpressionGrammar.Takes.factor
  ExpressionGrammar.Takes.primary

namespace ExpressionGrammar

variable {allowed : List TokenKind → Prop} [stepwise : IsStepwise allowed]

/-! ### Symbols -/

/-- A token that is no bracket is closed in itself. -/
theorem isAllowed_plain {kind : TokenKind} (opens : kind.opens = false) (closes : kind.closes = false) :
    IsAllowed allowed kind where
  isAllowed := stepwise.closed (isBalanced_singleton opens closes)

instance : IsAllowed allowed (.symbol .comma) := isAllowed_plain rfl rfl

instance : IsAllowed allowed (.symbol .colon) := isAllowed_plain rfl rfl

instance : IsAllowed allowed (.symbol .equal) := isAllowed_plain rfl rfl

instance : IsAllowed allowed (.symbol .walrus) := isAllowed_plain rfl rfl

instance : IsAllowed allowed (.symbol .slash) := isAllowed_plain rfl rfl

instance : IsAllowed allowed (.symbol .star) := isAllowed_plain rfl rfl

instance : IsAllowed allowed (.symbol .doubleStar) := isAllowed_plain rfl rfl

/-! ### Looks ahead -/

instance : Parser.Takes allowed seesExpression := by
  refine takes_behind fun kind => ?_
  split <;> infer_instance

instance : Parser.Takes allowed seesClause := by
  refine takes_behind fun kind => ?_
  split <;> infer_instance

instance : Parser.Takes allowed isFinished :=
  takes_bind

instance : Parser.Takes allowed seesNaming := by
  refine takes_behind fun kind => ?_
  split <;> infer_instance

instance : Parser.Takes allowed seesKeyword := by
  refine takes_behind fun kind => ?_
  split <;> infer_instance

/-! ### Parts of expressions -/

-- The instance for a parser has a part for every step of it.
set_option synthInstance.maxSize 10000

section Parts

variable (inner : ExpressionGrammar) [inner.Takes allowed]

instance : Parser.Takes allowed (target inner) :=
  takes_bind

instance : Parser.Takes allowed (targets inner) :=
  takes_bind

instance : Parser.Takes allowed (clause inner) :=
  takes_bind

instance : Parser.Takes allowed (clauses inner) :=
  takes_many

instance : Parser.Takes allowed (element inner) :=
  takes_bind

instance (first : Expr Extent) (isStarred : Bool) :
    Parser.Takes allowed (contentsFrom inner first isStarred) := by
  unfold contentsFrom
  infer_instance

instance : Parser.Takes allowed (yieldExpression inner) :=
  takes_bind

instance (type : Parser (Expr Extent)) (typed : Bool) [Parser.Takes allowed type] :
    Parser.Takes allowed (declaredType? typed type) :=
  takes_ite

instance : Parser.Takes allowed (starExpression inner) :=
  takes_bind

instance (typed : Bool) (found : FoundParameters) :
    Parser.Takes allowed (parameterItem inner typed found) := by
  unfold parameterItem
  dsimp only
  infer_instance

instance (typed : Bool) (closing : Symbol) [IsAllowed allowed (.symbol closing)] :
    Parser.Takes allowed (parameters inner typed closing) :=
  takes_bind

end Parts

/-! ### Operators -/

/-- What is done behind a token that is taken after a look at it. -/
theorem takesAt_behind_plain {α : Type} {next : Unit → Parser α} {kind : TokenKind}
    {rest : List TokenKind} (opens : kind.opens = false) (closes : kind.closes = false)
    [behind : ∀ value, Parser.Takes allowed (next value)] :
    TakesAt allowed (discard take >>= next) (kind :: rest) :=
  have : IsAllowed allowed kind := isAllowed_plain opens closes
  takesAt_discard_take.bind behind

/-- Operands with operators between them. -/
theorem takes_leftGrouped {operand : Parser (Expr Extent)} {operator? : Symbol → Option BinaryOperator}
    (operands : Parser.Takes allowed operand)
    (plain : ∀ symbol, operator? symbol ≠ none →
      (TokenKind.symbol symbol).opens = false ∧ (TokenKind.symbol symbol).closes = false) :
    Parser.Takes allowed (leftGrouped operand operator?) := by
  refine takes_behind fun start => takes_behind fun _ => @takes_repeated _ _ _ _ _ fun first => ?_
  refine takes_behind_peek (fun kind rest => ?_) ((takes_pure _).takesAt _)
  split
  · next symbol =>
    split
    · next operator found =>
      have ⟨opens, closes⟩ := plain symbol (by simp [found])
      exact takesAt_behind_plain opens closes
    · exact (takes_pure _).takesAt _
  · exact (takes_pure _).takesAt _

instance : Parser.Takes allowed comparisonOperator? := by
  refine takes_behind_peek (fun kind rest => ?_) ((takes_pure _).takesAt _)
  split
  case h_8 =>
    -- Both words are taken behind one look.
    cases rest with
    | nil => exact (takes_pure _).takesAt _
    | cons second rest =>
      intro found left ran
      refine (?_ : TakesAt allowed (if (second == .word .inWord) = true then _ else _) _) found left ran
      split
      · next isIn =>
        obtain rfl := eq_of_beq isIn
        intro found left ran
        cases ran
        exact ⟨[.word .notWord, .word .inWord], rfl,
          stepwise.append (isAllowed_word .notWord).isAllowed (isAllowed_word .inWord).isAllowed⟩
      · exact (takes_pure _).takesAt _
  all_goals first
    | exact takesAt_behind_plain rfl rfl
    | exact Takes.takesAt _

instance (operand : Parser (Expr Extent)) (joining : ReservedWord) (operator : BooleanOperator)
    [Parser.Takes allowed operand] : Parser.Takes allowed (joinedBy operand joining operator) :=
  takes_bind

/-! ### Expressions -/

section Nested

variable (inner : NestedGrammar)

instance : Parser.Takes allowed (enclosed .leftParenthesis) := takes_enclosed rfl

instance : Parser.Takes allowed (enclosed .leftBracket) := takes_enclosed rfl

instance : Parser.Takes allowed (enclosed .leftBrace) := takes_enclosed rfl

instance (opening : Symbol) (parser : ExpressionGrammar → Parser (Contents Extent))
    [Parser.Takes allowed (enclosed opening)] : Parser.Takes allowed (inBrackets inner opening parser) :=
  takes_bind

instance : Parser.Takes allowed (parenthesized inner) := by
  refine takes_behind fun start => takes_behind fun found => ?_
  split <;> infer_instance

instance : Parser.Takes allowed (bracketed inner) := by
  refine takes_behind fun start => takes_behind fun found => ?_
  split <;> infer_instance

instance : Parser.Takes allowed (braced inner) := by
  refine takes_behind fun start => takes_behind fun found => ?_
  split <;> infer_instance

instance : Parser.Takes allowed (strings inner) := by
  have item : Parser.Takes allowed (do
      match ← peek with
      | .string literal =>
        discard take
        return some literal
      | _ => return none) := by
    refine takes_behind_peek (fun kind rest => ?_) ((takes_pure _).takesAt _)
    split
    · exact takesAt_behind_plain rfl rfl
    · exact (takes_pure _).takesAt _
  unfold strings
  infer_instance

instance : Parser.Takes allowed (atom inner) := by
  refine takes_behind fun start => takes_behind_peek (fun kind rest => ?_) (takes_failure.takesAt _)
  split
  all_goals first
    | exact Takes.takesAt _
    | exact takesAt_behind_plain rfl rfl

instance (mayGenerate : Bool) : Parser.Takes allowed (arguments inner mayGenerate) := by
  refine takes_behind fun start => takes_behind fun found => takes_behind fun arguments => ?_
  split <;> infer_instance

instance : Parser.Takes allowed (subscriptIndex inner) := by
  refine takes_behind fun found => takes_behind fun elements => ?_
  split <;> infer_instance

instance (start : Nat) (value : Expr Extent) : Parser.Takes allowed (trailer? inner start value) := by
  refine takes_behind_peek (fun kind rest => ?_) ((takes_pure _).takesAt _)
  split
  · exact takesAt_behind_plain rfl rfl
  all_goals exact Takes.takesAt _

instance : Parser.Takes allowed (primaryOf inner) :=
  takes_bind

instance : Parser.Takes allowed (awaitPrimary inner) :=
  takes_bind

variable [inner.Takes allowed]

instance : Parser.Takes allowed (power inner) :=
  takes_bind

instance : Parser.Takes allowed (factorOf inner) := by
  refine takes_behind fun start => takes_behind_peek (fun kind rest => ?_) (Takes.takesAt _)
  split
  · next symbol =>
    split
    · next operator found =>
      have ⟨opens, closes⟩ : (TokenKind.symbol symbol).opens = false ∧
          (TokenKind.symbol symbol).closes = false := by
        cases symbol <;> first | exact ⟨rfl, rfl⟩ | exact nomatch found
      exact takesAt_behind_plain opens closes
    · exact Takes.takesAt _
  · exact Takes.takesAt _

instance : Parser.Takes allowed (bitwiseOrOf inner) := by
  refine takes_leftGrouped (takes_leftGrouped (takes_leftGrouped (takes_leftGrouped (takes_leftGrouped
    (takes_leftGrouped inferInstance ?_) ?_) ?_) ?_) ?_) ?_
  all_goals
    intro symbol found
    cases symbol <;> first | exact ⟨rfl, rfl⟩ | exact absurd rfl found

instance : Parser.Takes allowed (comparison inner) := by
  have steps : Parser.Takes allowed (do
      match ← comparisonOperator? with
      | some operator => return some (Comparison.step operator (← bitwiseOrOf inner))
      | none => return none) := by
    refine takes_behind fun operator => ?_
    split <;> infer_instance
  unfold comparison
  infer_instance

instance : Parser.Takes allowed (inversionOf inner) :=
  takes_bind

instance : Parser.Takes allowed (disjunctionOf inner) :=
  inferInstanceAs (Parser.Takes allowed (joinedBy (joinedBy (inversionOf inner) .andWord .and) .orWord .or))

instance : Parser.Takes allowed (expressionOf inner) :=
  takes_bind

instance : Parser.Takes allowed (namedExpressionOf inner) :=
  takes_bind

instance : Parser.Takes allowed (starExpressionOf inner) :=
  takes_bind

instance : Parser.Takes allowed (starExpressionsOf inner) :=
  takes_bind

instance : (deepen inner).Takes allowed where
  starExpressions := inferInstanceAs (Parser.Takes allowed (starExpressionsOf inner))
  namedExpression := inferInstanceAs (Parser.Takes allowed (namedExpressionOf inner))
  expression := inferInstanceAs (Parser.Takes allowed (expressionOf inner))
  disjunction := inferInstanceAs (Parser.Takes allowed (disjunctionOf inner))
  inversion := inferInstanceAs (Parser.Takes allowed (inversionOf inner))
  bitwiseOr := inferInstanceAs (Parser.Takes allowed (bitwiseOrOf inner))
  factor := inferInstanceAs (Parser.Takes allowed (factorOf inner))
  primary := inferInstanceAs (Parser.Takes allowed (primaryOf inner))

end Nested

instance takes_nothing : nothing.Takes allowed := by
  constructor <;> exact takes_failure

/-- Expressions of any depth take what is allowed. -/
instance takes_ofDepth (within : Nat → ExpressionGrammar) (depth : Nat) :
    (ofDepth within depth).Takes allowed := by
  induction depth with
  | zero => exact takes_nothing
  | succ depth inductionHypothesis =>
    have : (NestedGrammar.mk (ofDepth within depth) within).Takes allowed := inductionHypothesis
    exact inferInstanceAs ((deepen ⟨ofDepth within depth, within⟩).Takes allowed)

instance takes_upTo (bound weight : Nat) : (upTo bound weight).Takes allowed := by
  induction bound with
  | zero => exact takes_nothing
  | succ bound inductionHypothesis =>
    rw [upTo]
    split
    · exact inductionHypothesis
    · exact takes_ofDepth _ _

/-- An element of a subscript. -/
instance takes_sliceElement (inner : ExpressionGrammar) [inner.Takes allowed] :
    Parser.Takes allowed (sliceElement inner) := by
  have bound : Parser.Takes allowed (do
      match ← peek with
      | .symbol .colon | .endOfText => return none
      | _ => return some (← inner.expression)) := by
    refine takes_behind fun kind => ?_
    split <;> infer_instance
  unfold sliceElement
  dsimp only
  infer_instance

end ExpressionGrammar

end DifferenceTypes
