import DifferenceTypes.Proofs.Syntax.ClosedExpressions

/-!
# Statements take tokens from the front

What a parser of statements leaves is what stands behind the tokens that it took.
-/

namespace DifferenceTypes

open DifferenceTypes.Parser

namespace Parser

/-- A parser takes tokens from the front, whichever they are. -/
abbrev TakesFront {α : Type} (parser : Parser α) : Prop :=
  Takes (fun _ => True) parser

instance takesFront_take : TakesFront take where
  takesAt kinds _ _ ran := by
    cases kinds with
    | nil => exact nomatch ran
    | cons kind rest => exact takesAt_take _ _ ran

instance takesFront_discard_take : TakesFront (discard take) :=
  takes_map _

/-- The rest of a line is taken. -/
instance takesFront_restOfLine {α : Type} (change : (Extent → Extent) → α → α) (expressions : NestedGrammar)
    (parser : NestedGrammar → Parser α) :
    TakesFront (StatementGrammar.restOfLine change expressions parser) where
  takesAt _ _ _ ran := by
    obtain ⟨piece, rfl, -⟩ := StatementGrammar.exists_of_run_restOfLine ran
    exact ⟨piece ++ [.newline], by simp, trivial⟩

/-- A step of a parser that takes tokens from the front, and what is done behind it. -/
theorem exists_taken_of_run_bind {α β : Type} {parser : Parser α} [takes : TakesFront parser]
    {next : α → Parser β} {kinds rest : List TokenKind} {found : β}
    (ran : (parser >>= next).run kinds = some (found, rest)) :
    ∃ value front left, kinds = front ++ left ∧ parser.run kinds = some (value, left) ∧
      (next value).run left = some (found, rest) := by
  obtain ⟨value, left, first, second⟩ := exists_of_run_bind ran
  obtain ⟨front, split, -⟩ := takes.takesAt _ _ _ first
  exact ⟨value, front, left, split, first, second⟩

/-- Each of many items is read from what is left where it starts. -/
theorem forall_of_run_many {α : Type} {valid : α → Prop} {item? : Parser (Option α)}
    [takes : TakesFront item?] {kinds rest : List TokenKind} {items : List α}
    (each : ∀ {front left item rest}, kinds = front ++ left → item?.run left = some (some item, rest) →
      valid item)
    (ran : (many item?).run kinds = some (items, rest)) : ∀ item ∈ items, valid item := by
  have shorter {front left after : List TokenKind} {found : Option α} (split : kinds = front ++ left)
      (taken : item?.run left = some (found, after)) : ∃ front, kinds = front ++ after := by
    obtain ⟨others, rfl, -⟩ := takes.takesAt _ _ _ taken
    exact ⟨front ++ others, by simp [split]⟩
  have all := @holds_of_run_many _ kinds _ (fun items left => (∃ front, kinds = front ++ left) ∧
    ∀ item ∈ items, valid item) _ ?_ ?_ ⟨⟨[], rfl⟩, nofun⟩ _ ran
  · exact fun item among => all.2 item (List.mem_reverse.2 among)
  · rintro items left item rest ⟨⟨front, split⟩, valids⟩ taken
    refine ⟨shorter split taken, fun other among => ?_⟩
    rcases List.mem_cons.1 among with rfl | before
    · exact each split taken
    · exact valids other before
  · rintro items left rest ⟨⟨front, split⟩, valids⟩ taken
    exact ⟨shorter split taken, valids⟩

theorem splitBefore_append (wanted : TokenKind → Bool) (nesting : Nesting) (kinds : List TokenKind) :
    (splitBefore wanted nesting kinds).1 ++ (splitBefore wanted nesting kinds).2 = kinds := by
  induction kinds generalizing nesting with
  | nil => rfl
  | cons kind rest inductionHypothesis =>
    unfold splitBefore
    split
    · rfl
    · simp [inductionHypothesis]

instance takesFront_takeBefore (wanted : TokenKind → Bool) : TakesFront (takeBefore wanted) where
  takesAt kinds _ _ ran := by
    cases ran
    exact ⟨_, (splitBefore_append wanted .outside kinds).symm, trivial⟩

end Parser

/-! ### Patterns -/

namespace PatternGrammar

set_option synthInstance.maxSize 10000

instance (spelling : String) : TakesFront (seesSpelling spelling) :=
  takes_bind

instance : TakesFront captureName := by
  unfold captureName
  refine takes_behind fun isUnderscore => ?_
  split
  · infer_instance
  · refine takes_behind fun name => takes_behind fun kind => ?_
    split <;> infer_instance

instance : TakesFront signedNumber := by
  refine takes_behind fun start => takes_behind fun negative => takes_behind fun number => takes_behind fun kind => ?_
  split <;> infer_instance

instance : TakesFront numberValue := by
  refine takes_behind fun start => takes_behind fun first => takes_behind fun kind => ?_
  split <;> infer_instance

instance (start : Nat) (first : Expr Extent) : TakesFront (attributes start first) :=
  takes_repeated first

instance : TakesFront dottedValue :=
  takes_bind

variable (expressions : NestedGrammar) (inner : Parser (Pattern Extent))

instance : TakesFront (literal? expressions) := by
  refine takes_behind fun kind => ?_
  split <;> infer_instance

instance : TakesFront (mappingKey expressions) := by
  refine takes_behind fun start => takes_behind fun kind => ?_
  split
  · infer_instance
  · refine takes_behind fun literal => ?_
    split <;> infer_instance

variable [TakesFront inner]

instance : TakesFront (maybeStar inner) :=
  takes_bind

instance : TakesFront (parenthesized inner) :=
  takes_bind

instance : TakesFront (bracketed inner) :=
  takes_bind

instance : TakesFront (braced expressions inner) := by
  unfold braced
  dsimp only
  refine takes_behind fun _ => takes_behind fun items => ?_
  split <;> infer_instance

instance (className : Expr Extent) : TakesFront (classArguments className inner) := by
  have item : TakesFront (do
      match ← peek, ← peekSecond with
      | .name _, .symbol .equal =>
        let name ← identifier
        symbol .equal
        return (some name, ← inner)
      | _, _ => return ((none : Option String), ← inner)) := by
    refine takes_behind fun first => takes_behind fun second => ?_
    split <;> infer_instance
  unfold classArguments
  dsimp only
  infer_instance

instance : TakesFront (named inner) := by
  refine takes_behind fun second => ?_
  split <;> infer_instance

instance : TakesFront (closed expressions inner) := by
  refine takes_behind fun literal => ?_
  split
  · infer_instance
  · refine takes_behind fun kind => ?_
    split <;> infer_instance

instance : TakesFront (patternOf expressions inner) :=
  takes_bind

instance takesFront_ofDepth (depth : Nat) : TakesFront (ofDepth expressions depth) := by
  induction depth with
  | zero => exact takes_failure
  | succ depth inductionHypothesis => exact inferInstanceAs (TakesFront (patternOf expressions _))

instance : TakesFront (head inner) :=
  takes_bind

end PatternGrammar

/-! ### Simple statements -/

namespace StatementGrammar

set_option synthInstance.maxSize 10000

instance : TakesFront dottedName :=
  takes_bind

instance : TakesFront aliasName :=
  takes_bind

instance : TakesFront importedModule :=
  takes_bind

instance : TakesFront importedMember :=
  takes_bind

instance : TakesFront dots :=
  takes_bind

instance (start : Nat) : TakesFront (importFrom start) := by
  refine takes_behind fun level => takes_behind fun kind => ?_
  dsimp only
  split <;> infer_instance

section Simple

variable (expressions : NestedGrammar) [expressions.toExpressionGrammar.Takes fun _ => True]

instance : TakesFront (assigned expressions) :=
  takes_bind

instance (start : Nat) (first : Expr Extent) : TakesFront (assignment expressions start first) := by
  refine takes_behind fun others => ?_
  dsimp only
  split <;> infer_instance

instance (start : Nat) (target : Expr Extent) (isSimple : Bool) :
    TakesFront (declaration expressions start target isSimple) :=
  takes_bind

instance : TakesFront (expressionStatement expressions) := by
  refine takes_behind fun start => takes_behind fun kind => takes_behind fun first => takes_behind fun next => ?_
  split
  case h_3 =>
    split <;> infer_instance
  all_goals infer_instance

instance (start : Nat) : TakesFront (deletion expressions start) :=
  takes_bind

instance : TakesFront (simple expressions) := by
  refine takes_behind fun start => takes_behind fun kind => ?_
  split <;> infer_instance

instance : TakesFront (simples expressions) :=
  takes_bind

end Simple

/-! ### Statements with blocks -/

instance (expressions : NestedGrammar) : TakesFront (simpleLine expressions) :=
  takesFront_restOfLine _ _ _

instance (expressions : NestedGrammar) : TakesFront (decorator expressions) :=
  takes_bind

section Blocks

variable (expressions : NestedGrammar) [expressions.toExpressionGrammar.Takes fun _ => True]
  (patterns : Parser (Pattern Extent)) [TakesFront patterns]
  (block : Parser (List (Stmt Extent))) [TakesFront block]

instance : TakesFront (elseBlock block) :=
  takes_bind

instance : TakesFront (conditional expressions block) := by
  refine takes_behind fun first => ?_
  split
  · infer_instance
  · refine takes_behind fun others => takes_behind fun last => takes_behind fun stop => ?_
    dsimp only
    split <;> infer_instance

instance : TakesFront (whileLoop expressions block) :=
  takes_bind

instance (start : Nat) (isAsync : Bool) : TakesFront (forLoop expressions block start isAsync) :=
  takes_bind

instance : TakesFront (context expressions) := by
  refine takes_behind fun value => takes_behind fun named => ?_
  split
  · refine takes_behind fun found => takes_behind fun kind => ?_
    split <;> infer_instance
  · infer_instance

instance : TakesFront (contextsInParentheses expressions) :=
  takes_bind

instance : TakesFront (contextsInLine expressions) :=
  takes_bind

instance (start : Nat) (isAsync : Bool) : TakesFront (withBlock expressions block start isAsync) :=
  takes_bind

instance : TakesFront (handler? expressions block) :=
  takes_bind

instance : TakesFront (tryBlock expressions block) :=
  takes_bind

instance : TakesFront (classDefinition expressions block) :=
  takes_bind

omit [TakesFront block] [expressions.toExpressionGrammar.Takes fun _ => True] in
/-- A class goes from its word to the end of its block. -/
theorem exists_of_run_classDefinition {kinds rest : List TokenKind} {found : Stmt Extent}
    (ran : (classDefinition expressions block).run kinds = some (found, rest)) :
    ∃ name bases keywords body front left, kinds = front ++ left ∧ block.run left = some (body, rest) ∧
      found = .classDefinition ⟨kinds.length, rest.length⟩ name bases keywords body [] := by
  unfold classDefinition at ran
  obtain ⟨start, _, counted, ran⟩ := exists_of_run_bind ran
  cases counted
  obtain ⟨_, word, behindWord, isWord, -, ran⟩ := exists_taken_of_run_bind ran
  obtain ⟨name, named, behindName, isName, -, ran⟩ := exists_taken_of_run_bind ran
  obtain ⟨sees, looked, behindLook, isLooked, -, ran⟩ := exists_taken_of_run_bind ran
  split at ran
  all_goals
    obtain ⟨given, arguments, behindArguments, areArguments, -, ran⟩ := exists_taken_of_run_bind ran
    obtain ⟨_, colon, left, isColon, -, ran⟩ := exists_taken_of_run_bind ran
    obtain ⟨body, _, ranBlock, ran⟩ := exists_of_run_bind ran
    cases ran
    exact ⟨name, given.1, given.2, body, word ++ named ++ looked ++ arguments ++ colon, left,
      by simp only [isWord, isName, isLooked, areArguments, isColon, List.append_assoc], ranBlock, rfl⟩

instance (start : Nat) (isAsync : Bool) : TakesFront (function expressions block start isAsync) :=
  takes_bind

instance : TakesFront (asynchronous expressions block) :=
  takes_bind

instance : TakesFront (decorated expressions block) := by
  refine takes_behind fun found => takes_behind fun start => takes_behind fun kind => ?_
  split <;> infer_instance

instance : TakesFront (subject expressions) := by
  refine takes_behind fun start => takes_behind fun first => ?_
  split
  infer_instance

instance : TakesFront (case? expressions patterns block) :=
  takes_bind

instance : TakesFront (matchBlock expressions patterns block) :=
  takes_bind

instance : TakesFront (statement expressions patterns block) := by
  refine takes_behind fun start => takes_behind fun kind => ?_
  dsimp only
  split <;> infer_instance

instance (closing : TokenKind) : TakesFront (statementsUntil closing expressions patterns block) :=
  takes_bind

instance : TakesFront (blockOf expressions patterns block) :=
  takes_bind

instance takesFront_ofDepth (depth : Nat) : TakesFront (ofDepth expressions patterns depth) := by
  induction depth with
  | zero => exact takes_failure
  | succ depth inductionHypothesis => exact inferInstanceAs (TakesFront (blockOf expressions patterns _))

end Blocks

end StatementGrammar

end DifferenceTypes
