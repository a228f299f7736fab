import DifferenceTypes.Proofs.Syntax.ClosedExpressions
import DifferenceTypes.Proofs.Syntax.Primaries

/-!
# Expressions and their tokens

An expression takes the tokens that it is read from, from the first to the last, unless parentheses
stand around it: these leave no trace in the tree, so the expression takes only what is inside.
-/

namespace DifferenceTypes

namespace ExpressionGrammar

open DifferenceTypes.Parser

variable {inner : NestedGrammar}

/-! ### What an expression takes -/

/-- An expression that parentheses around it only group. -/
def IsGrouped (within : Nat → ExpressionGrammar) (kinds rest : List TokenKind) (found : Expr Extent) :
    Prop :=
  ∃ contents closing single, kinds = .symbol .leftParenthesis :: (contents ++ closing :: rest) ∧
    closing.closes = true ∧ IsBalanced contents ∧
    (groupContents (within (weight contents))).run contents = some (.single single false, []) ∧
    found = single.map (Extent.before (rest.length + 1))

/-- A call ends with the brackets that its arguments are read from. -/
def EndsInArguments (within : Nat → ExpressionGrammar) (kinds rest : List TokenKind) : Expr Extent → Prop
  | .call _ _ positional keywords => ∃ front left, kinds = front ++ left ∧ IsBalanced front ∧
      (arguments ⟨nothing, within⟩ true).run left = some ((positional, keywords), rest)
  | _ => True

/-- An expression takes all tokens up to those that are left, if it is not grouped. -/
def Covers (within : Nat → ExpressionGrammar) (kinds rest : List TokenKind) (found : Expr Extent) :
    Prop :=
  found.span = ⟨kinds.length, rest.length⟩ ∧ EndsInArguments within kinds rest found ∨
    IsGrouped within kinds rest found

/-- All expressions of a parser cover what it takes. -/
def ReadsWhole (within : Nat → ExpressionGrammar) (parser : Parser (Expr Extent)) : Prop :=
  ∀ {kinds found rest}, parser.run kinds = some (found, rest) → Covers within kinds rest found

theorem covers_of_extentFrom {within : Nat → ExpressionGrammar} {kinds left rest : List TokenKind}
    {make : Extent → Expr Extent} {found : Expr Extent}
    (ran : (do return make (← extentFrom kinds.length) : Parser (Expr Extent)).run left =
      some (found, rest))
    (own : ∀ extent, (make extent).span = extent ∧ EndsInArguments within kinds rest (make extent)) :
    Covers within kinds rest found := by
  cases ran
  exact .inl (own _)

theorem readsWhole_parenthesized : ReadsWhole inner.within (parenthesized inner) := by
  intro kinds found rest ran
  obtain ⟨_, _, got, ran⟩ := exists_of_run_bind ran
  cases got
  obtain ⟨contents, left, taken, ran⟩ := exists_of_run_bind ran
  obtain ⟨⟨piece, behind⟩, between, opened, parsed⟩ := exists_of_run_bind taken
  obtain ⟨read, rfl⟩ := eq_of_run_lift parsed
  obtain ⟨closing, closes, rfl, closed, rfl⟩ := exists_of_run_enclosed opened
  obtain ⟨contents, inside, rfl⟩ := exists_of_alone read
  cases contents with
  | single single isStarred =>
    cases isStarred with
    | true => exact nomatch ran
    | false =>
      cases ran
      exact .inr ⟨piece, closing, single, rfl, closes, closed, inside, rfl⟩
  | elements => exact covers_of_extentFrom ran fun _ => ⟨rfl, trivial⟩
  | comprehension => exact covers_of_extentFrom ran fun _ => ⟨rfl, trivial⟩
  | entries => exact nomatch ran
  | entryComprehension => exact nomatch ran

theorem readsWhole_bracketed {within : Nat → ExpressionGrammar} :
    ReadsWhole within (bracketed inner) := by
  intro kinds found rest ran
  obtain ⟨_, _, got, ran⟩ := exists_of_run_bind ran
  cases got
  obtain ⟨contents, left, taken, ran⟩ := exists_of_run_bind ran
  cases contents <;> first
    | exact covers_of_extentFrom ran fun _ => ⟨rfl, trivial⟩
    | exact nomatch ran

theorem readsWhole_braced {within : Nat → ExpressionGrammar} : ReadsWhole within (braced inner) := by
  intro kinds found rest ran
  obtain ⟨_, _, got, ran⟩ := exists_of_run_bind ran
  cases got
  obtain ⟨contents, left, taken, ran⟩ := exists_of_run_bind ran
  cases contents <;> exact covers_of_extentFrom ran fun _ => ⟨rfl, trivial⟩

/-- Strings one after the other are one expression that is where they are. -/
theorem span_of_combine? {within : Nat → ExpressionGrammar} {kinds rest : List TokenKind}
    {parse : List Char → Option (Expr Extent)} {span : Extent} {literals : List StringToken}
    {found : Expr Extent} (combined : StringLiteral.combine? parse span literals = some found) :
    found.span = span ∧ EndsInArguments within kinds rest found := by
  unfold StringLiteral.combine? at combined
  dsimp only at combined
  split at combined
  · split at combined
    · obtain ⟨_, -, same⟩ := Option.bind_eq_some_iff.1 combined
      cases same
      exact ⟨rfl, trivial⟩
    · exact nomatch combined
  · obtain ⟨_, -, combined⟩ := Option.bind_eq_some_iff.1 combined
    split at combined <;> cases combined <;> exact ⟨rfl, trivial⟩

theorem readsWhole_strings {within : Nat → ExpressionGrammar} : ReadsWhole within (strings inner) := by
  intro kinds found rest ran
  obtain ⟨_, _, got, ran⟩ := exists_of_run_bind ran
  cases got
  obtain ⟨literals, left, -, ran⟩ := exists_of_run_bind ran
  obtain ⟨extent, between, got, ran⟩ := exists_of_run_bind ran
  cases got
  obtain ⟨combined, rfl⟩ := eq_of_run_lift ran
  exact .inl (span_of_combine? combined)

theorem readsWhole_atom : ReadsWhole inner.within (atom inner) := by
  intro kinds found rest ran
  obtain ⟨_, _, got, ran⟩ := exists_of_run_bind ran
  cases got
  obtain ⟨kind, left, peeked, ran⟩ := exists_of_run_bind ran
  obtain ⟨rfl, -⟩ := eq_of_run_peek peeked
  have plain {make : Extent → Expr Extent}
      (ran : (do discard take; return make (← extentFrom kinds.length)).run kinds = some (found, rest))
      (own : ∀ extent, (make extent).span = extent ∧ EndsInArguments inner.within kinds rest (make extent)) :
      Covers inner.within kinds rest found := by
    obtain ⟨_, _, -, ran⟩ := exists_of_run_bind ran
    exact covers_of_extentFrom ran own
  split at ran
  all_goals first
    | exact plain ran fun _ => ⟨rfl, trivial⟩
    | exact readsWhole_strings ran
    | exact readsWhole_parenthesized ran
    | exact readsWhole_bracketed ran
    | exact readsWhole_braced ran
    | cases ran

/-! ### Levels of operators -/

/-- A trailer makes an expression from the start on, and where there is none nothing is taken. -/
theorem of_run_trailer? {start : Nat} {value : Expr Extent} {next : Option (Expr Extent)}
    {kinds rest front : List TokenKind} (balanced : IsBalanced front)
    (ran : (trailer? inner start value).run kinds = some (next, rest)) :
    (∀ found, next = some found → found.span = ⟨start, rest.length⟩ ∧
      EndsInArguments inner.within (front ++ kinds) rest found) ∧ (next = none → rest = kinds) := by
  obtain ⟨kind, left, peeked, ran⟩ := exists_of_run_bind ran
  obtain ⟨rfl, -⟩ := eq_of_run_peek peeked
  split at ran
  · obtain ⟨_, _, -, ran⟩ := exists_of_run_bind ran
    obtain ⟨_, _, -, ran⟩ := exists_of_run_bind ran
    cases ran
    refine ⟨fun _ same => ?_, fun none => by cases none⟩
    cases same
    exact ⟨rfl, trivial⟩
  · obtain ⟨_, _, called, ran⟩ := exists_of_run_bind ran
    cases ran
    refine ⟨fun _ same => ?_, fun none => by cases none⟩
    cases same
    exact ⟨rfl, front, kinds, rfl, balanced, called⟩
  · obtain ⟨_, _, -, ran⟩ := exists_of_run_bind ran
    cases ran
    refine ⟨fun _ same => ?_, fun none => by cases none⟩
    cases same
    exact ⟨rfl, trivial⟩
  · cases ran
    exact ⟨fun _ same => (by cases same), fun _ => rfl⟩

theorem readsWhole_primaryOf : ReadsWhole inner.within (primaryOf inner) := by
  intro kinds found rest ran
  obtain ⟨_, _, got, ran⟩ := exists_of_run_bind ran
  cases got
  obtain ⟨first, left, taken, ran⟩ := exists_of_run_bind ran
  have takesAtom : Parser.Takes IsBalanced (atom inner) := inferInstance
  obtain ⟨front, split, balanced⟩ := takesAtom.takesAt _ _ _ taken
  refine (@holds_of_run_repeated _ _ _ _ (fun value left => (∃ front, kinds = front ++ left ∧ IsBalanced front) ∧
    Covers inner.within kinds left value) _ ?_ ?_ _ ⟨⟨front, split, balanced⟩, readsWhole_atom taken⟩ ran).2
  · rintro value between next behind ⟨⟨front, split, balanced⟩, -⟩ stepped
    have takesTrailer : Parser.Takes IsBalanced (trailer? inner kinds.length value) := inferInstance
    obtain ⟨taken, isTaken, takenBalanced⟩ := takesTrailer.takesAt _ _ _ stepped
    refine ⟨⟨front ++ taken, by rw [split, isTaken, List.append_assoc],
      IsStepwise.append balanced takenBalanced⟩, .inl ?_⟩
    subst split
    exact (of_run_trailer? balanced stepped).1 _ rfl
  · rintro value between behind ⟨⟨front, split, balanced⟩, covers⟩ stepped
    obtain rfl := (of_run_trailer? balanced stepped).2 rfl
    exact ⟨⟨front, split, balanced⟩, covers⟩

theorem readsWhole_awaitPrimary : ReadsWhole inner.within (awaitPrimary inner) := by
  intro kinds found rest ran
  obtain ⟨_, _, got, ran⟩ := exists_of_run_bind ran
  cases got
  obtain ⟨awaits, left, asked, ran⟩ := exists_of_run_bind ran
  have ⟨_, split⟩ := eq_of_run_accept? asked
  cases awaits with
  | true =>
    obtain ⟨value, between, -, ran⟩ := exists_of_run_bind ran
    exact covers_of_extentFrom ran fun _ => ⟨rfl, trivial⟩
  | false =>
    obtain rfl := split rfl
    exact readsWhole_primaryOf ran

theorem readsWhole_power : ReadsWhole inner.within (power inner) := by
  intro kinds found rest ran
  obtain ⟨_, _, got, ran⟩ := exists_of_run_bind ran
  cases got
  obtain ⟨base, left, taken, ran⟩ := exists_of_run_bind ran
  obtain ⟨raised, between, asked, ran⟩ := exists_of_run_bind ran
  have ⟨_, split⟩ := eq_of_run_accept? asked
  cases raised with
  | true =>
    obtain ⟨exponent, _, -, ran⟩ := exists_of_run_bind ran
    exact covers_of_extentFrom ran fun _ => ⟨rfl, trivial⟩
  | false =>
    obtain rfl := split rfl
    cases ran
    exact readsWhole_awaitPrimary taken

theorem readsWhole_factorOf : ReadsWhole inner.within (factorOf inner) := by
  intro kinds found rest ran
  obtain ⟨_, _, got, ran⟩ := exists_of_run_bind ran
  cases got
  obtain ⟨kind, left, peeked, ran⟩ := exists_of_run_bind ran
  obtain ⟨rfl, -⟩ := eq_of_run_peek peeked
  split at ran
  · split at ran
    · obtain ⟨_, _, -, ran⟩ := exists_of_run_bind ran
      obtain ⟨operand, _, -, ran⟩ := exists_of_run_bind ran
      exact covers_of_extentFrom ran fun _ => ⟨rfl, trivial⟩
    · exact readsWhole_power ran
  · exact readsWhole_power ran

theorem readsWhole_leftGrouped {within : Nat → ExpressionGrammar} {operand : Parser (Expr Extent)}
    (operator? : Symbol → Option BinaryOperator) (operands : ReadsWhole within operand) :
    ReadsWhole within (leftGrouped operand operator?) := by
  intro kinds found rest ran
  obtain ⟨_, _, got, ran⟩ := exists_of_run_bind ran
  cases got
  obtain ⟨first, left, taken, ran⟩ := exists_of_run_bind ran
  refine @holds_of_run_repeated _ _ _ _ (fun value left => Covers within kinds left value) _
    (fun _ stepped => ?_) (fun holds stepped => ?_) _ (operands taken) ran
  · obtain ⟨kind, left, peeked, stepped⟩ := exists_of_run_bind stepped
    split at stepped
    · split at stepped
      · obtain ⟨_, _, -, stepped⟩ := exists_of_run_bind stepped
        obtain ⟨right, _, -, stepped⟩ := exists_of_run_bind stepped
        cases stepped
        exact .inl ⟨rfl, trivial⟩
      · cases stepped
    · cases stepped
  · obtain ⟨kind, left, peeked, stepped⟩ := exists_of_run_bind stepped
    obtain ⟨rfl, -⟩ := eq_of_run_peek peeked
    split at stepped
    · split at stepped
      · obtain ⟨_, _, -, stepped⟩ := exists_of_run_bind stepped
        obtain ⟨right, _, -, stepped⟩ := exists_of_run_bind stepped
        cases stepped
      · cases stepped
        exact holds
    · cases stepped
      exact holds

theorem readsWhole_bitwiseOrOf : ReadsWhole inner.within (bitwiseOrOf inner) :=
  readsWhole_leftGrouped _ <| readsWhole_leftGrouped _ <| readsWhole_leftGrouped _ <|
    readsWhole_leftGrouped _ <| readsWhole_leftGrouped _ <| readsWhole_leftGrouped _ readsWhole_factorOf

/-- Where no comparison operator is next nothing is taken. -/
theorem eq_of_run_comparisonOperator? {kinds rest : List TokenKind}
    (ran : comparisonOperator?.run kinds = some (none, rest)) : rest = kinds := by
  obtain ⟨kind, left, peeked, ran⟩ := exists_of_run_bind ran
  obtain ⟨rfl, -⟩ := eq_of_run_peek peeked
  split at ran
  case h_8 =>
    obtain ⟨second, behind, peeked, gives⟩ := exists_of_run_bind ran
    obtain rfl := eq_of_run_peekSecond peeked
    split at gives
    · obtain ⟨_, _, -, gives⟩ := exists_of_run_bind gives
      obtain ⟨_, _, -, gives⟩ := exists_of_run_bind gives
      cases gives
    · cases gives
      rfl
  case h_9 =>
    obtain ⟨_, _, -, ran⟩ := exists_of_run_bind ran
    obtain ⟨_, _, -, ran⟩ := exists_of_run_bind ran
    split at ran <;> cases ran
  case h_10 =>
    cases ran
    rfl
  all_goals
    obtain ⟨_, _, -, ran⟩ := exists_of_run_bind ran
    cases ran

theorem readsWhole_comparison : ReadsWhole inner.within (comparison inner) := by
  intro kinds found rest ran
  obtain ⟨_, _, got, ran⟩ := exists_of_run_bind ran
  cases got
  obtain ⟨first, left, taken, ran⟩ := exists_of_run_bind ran
  obtain ⟨steps, between, compared, gives⟩ := exists_of_run_bind ran
  cases steps with
  | nil =>
    have same : between = left := by
      refine eq_of_run_many_nil (fun stepped => ?_) compared
      obtain ⟨operator, _, asked, stepped⟩ := exists_of_run_bind stepped
      cases operator with
      | none =>
        cases stepped
        exact eq_of_run_comparisonOperator? asked
      | some operator =>
        obtain ⟨right, _, -, stepped⟩ := exists_of_run_bind stepped
        exact nomatch stepped
    subst same
    obtain ⟨rfl, rfl⟩ := Prod.mk.inj (Option.some.inj gives)
    exact readsWhole_bitwiseOrOf taken
  | cons first others => exact covers_of_extentFrom gives fun _ => ⟨rfl, trivial⟩

theorem readsWhole_inversionOf : ReadsWhole inner.within (inversionOf inner) := by
  intro kinds found rest ran
  obtain ⟨_, _, got, ran⟩ := exists_of_run_bind ran
  cases got
  obtain ⟨inverts, left, asked, ran⟩ := exists_of_run_bind ran
  have ⟨_, split⟩ := eq_of_run_accept? asked
  cases inverts with
  | true =>
    obtain ⟨operand, between, -, ran⟩ := exists_of_run_bind ran
    exact covers_of_extentFrom ran fun _ => ⟨rfl, trivial⟩
  | false =>
    obtain rfl := split rfl
    exact readsWhole_comparison ran

theorem readsWhole_joinedBy {within : Nat → ExpressionGrammar} {operand : Parser (Expr Extent)}
    (joining : ReservedWord) (operator : BooleanOperator) (operands : ReadsWhole within operand) :
    ReadsWhole within (joinedBy operand joining operator) := by
  intro kinds found rest ran
  obtain ⟨_, _, got, ran⟩ := exists_of_run_bind ran
  cases got
  obtain ⟨first, left, taken, ran⟩ := exists_of_run_bind ran
  obtain ⟨others, between, joined, gives⟩ := exists_of_run_bind ran
  cases others with
  | nil =>
    have same : between = left := by
      refine eq_of_run_many_nil (fun stepped => ?_) joined
      obtain ⟨joins, _, asked, stepped⟩ := exists_of_run_bind stepped
      have ⟨_, split⟩ := eq_of_run_accept? asked
      cases joins with
      | false =>
        cases stepped
        exact (split rfl).symm
      | true =>
        obtain ⟨right, _, -, stepped⟩ := exists_of_run_bind stepped
        exact nomatch stepped
    subst same
    obtain ⟨rfl, rfl⟩ := Prod.mk.inj (Option.some.inj gives)
    exact operands taken
  | cons first others => exact covers_of_extentFrom gives fun _ => ⟨rfl, trivial⟩

/-! ### Whole expressions -/

theorem readsWhole_expressionOf : ReadsWhole inner.within (expressionOf inner) := by
  intro kinds found rest ran
  obtain ⟨_, _, got, ran⟩ := exists_of_run_bind ran
  cases got
  obtain ⟨isLambda, left, asked, ran⟩ := exists_of_run_bind ran
  have ⟨_, split⟩ := eq_of_run_accept? asked
  cases isLambda with
  | true =>
    obtain ⟨parameters, _, -, ran⟩ := exists_of_run_bind ran
    obtain ⟨body, _, -, ran⟩ := exists_of_run_bind ran
    exact covers_of_extentFrom ran fun _ => ⟨rfl, trivial⟩
  | false =>
    obtain rfl := split rfl
    obtain ⟨first, between, taken, ran⟩ := exists_of_run_bind ran
    obtain ⟨isConditional, behind, asked, ran⟩ := exists_of_run_bind ran
    have ⟨_, split⟩ := eq_of_run_accept? asked
    cases isConditional with
    | true =>
      obtain ⟨test, _, -, ran⟩ := exists_of_run_bind ran
      obtain ⟨_, _, -, ran⟩ := exists_of_run_bind ran
      obtain ⟨whenFalse, _, -, ran⟩ := exists_of_run_bind ran
      exact covers_of_extentFrom ran fun _ => ⟨rfl, trivial⟩
    | false =>
      obtain rfl := split rfl
      cases ran
      exact readsWhole_joinedBy _ _ (readsWhole_joinedBy _ _ readsWhole_inversionOf) taken

theorem eq_of_run_seesNaming {kinds rest : List TokenKind} {sees : Bool}
    (ran : seesNaming.run kinds = some (sees, rest)) : rest = kinds := by
  obtain ⟨kind, left, peeked, ran⟩ := exists_of_run_bind ran
  obtain ⟨rfl, -⟩ := eq_of_run_peek peeked
  split at ran
  · obtain ⟨second, behind, peeked, gives⟩ := exists_of_run_bind ran
    cases gives
    exact eq_of_run_peekSecond peeked
  · cases ran
    rfl

theorem readsWhole_namedExpressionOf : ReadsWhole inner.within (namedExpressionOf inner) := by
  intro kinds found rest ran
  obtain ⟨_, _, got, ran⟩ := exists_of_run_bind ran
  cases got
  obtain ⟨sees, left, asked, ran⟩ := exists_of_run_bind ran
  obtain rfl := eq_of_run_seesNaming asked
  cases sees with
  | true =>
    obtain ⟨name, _, -, ran⟩ := exists_of_run_bind ran
    obtain ⟨span, _, -, ran⟩ := exists_of_run_bind ran
    obtain ⟨_, _, -, ran⟩ := exists_of_run_bind ran
    obtain ⟨value, _, -, ran⟩ := exists_of_run_bind ran
    exact @covers_of_extentFrom _ _ _ _ (.assignment · (.name span name) value) _ ran
      fun _ => ⟨rfl, trivial⟩
  | false => exact readsWhole_expressionOf ran

end ExpressionGrammar

end DifferenceTypes
