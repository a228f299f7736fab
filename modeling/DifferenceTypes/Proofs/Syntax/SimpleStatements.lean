import DifferenceTypes.Proofs.Syntax.Content
import DifferenceTypes.Syntax.Parser.Statement

/-!
# Simple statements

A statement is simple or it holds blocks. Simple statements are written on a line, several of them with
semicolons between them; a line of simple statements goes up to the end of the line, so nothing goes on
with it on another line. A statement with blocks is all that is read.
-/

namespace DifferenceTypes

variable {α β : Type}

namespace Stmt

/-- Whether a statement holds no blocks. -/
def isSimple {σ : Type} : Stmt σ → Bool
  | .function .. | .classDefinition .. | .conditional .. | .whileLoop .. | .forLoop .. | .withBlock ..
  | .matchBlock .. | .tryBlock .. => false
  | _ => true

theorem isSimple_map {σ τ : Type} (change : σ → τ) (statement : Stmt σ) :
    (statement.map change).isSimple = statement.isSimple := by
  cases statement <;> rfl

/-- Whether a statement holds blocks and makes no class. -/
def holdsBlocks {σ : Type} : Stmt σ → Bool
  | .function .. | .conditional .. | .whileLoop .. | .forLoop .. | .withBlock .. | .matchBlock .. |
    .tryBlock .. => true
  | _ => false

theorem isSimple_of_holdsBlocks {σ : Type} {statement : Stmt σ} (holds : statement.holdsBlocks = true) :
    statement.isSimple = false := by
  cases statement <;> first | rfl | exact nomatch holds

/-- The type that a statement declares. -/
def declaredType? {σ : Type} : Stmt σ → Option (Expr σ)
  | .declare _ _ type _ _ => some type
  | _ => none

theorem isSimple_of_declaredType? {σ : Type} {statement : Stmt σ} {type : Expr σ}
    (declares : statement.declaredType? = some type) : statement.isSimple = true := by
  cases statement <;> first | rfl | exact nomatch declares

theorem declaredType?_map {σ τ : Type} (change : σ → τ) (statement : Stmt σ) :
    (statement.map change).declaredType? = statement.declaredType?.map (Expr.map change) := by
  cases statement <;> rfl

/-- Whether a statement is simple and declares no type. -/
def isUntyped {σ : Type} (statement : Stmt σ) : Bool :=
  statement.isSimple && statement.declaredType?.isNone

end Stmt

namespace Parser

/-! ### Results of parsers -/

theorem exists_of_run_bind {parser : Parser α} {next : α → Parser β} {kinds rest : List TokenKind}
    {found : β} (ran : (parser >>= next).run kinds = some (found, rest)) :
    ∃ value left, parser.run kinds = some (value, left) ∧ (next value).run left = some (found, rest) := by
  rw [StateT.run_bind] at ran
  obtain ⟨⟨value, left⟩, first, second⟩ := Option.bind_eq_some_iff.1 ran
  exact ⟨value, left, first, second⟩

/-- Of two alternatives one was taken. -/
theorem run_orElse_eq_some {first second : Parser α} {kinds rest : List TokenKind} {found : α}
    (ran : (first <|> second).run kinds = some (found, rest)) :
    first.run kinds = some (found, rest) ∨ second.run kinds = some (found, rest) := by
  have opened : (first <|> second).run kinds = (first.run kinds <|> second.run kinds) := rfl
  rw [opened] at ran
  cases result : first.run kinds with
  | none => exact .inr (by simpa [result] using ran)
  | some pair =>
    rw [result] at ran
    cases ran
    exact .inl rfl

/-- Looking at the next token takes nothing. -/
theorem eq_of_run_peek {kinds rest : List TokenKind} {kind : TokenKind}
    (ran : peek.run kinds = some (kind, rest)) :
    kinds = rest ∧ kind = kinds.head?.getD .endOfText := by
  cases kinds <;> cases ran <;> exact ⟨rfl, rfl⟩

theorem eq_of_run_lift {result : Option α} {kinds rest : List TokenKind} {found : α}
    (ran : (liftM result : Parser α).run kinds = some (found, rest)) :
    result = some found ∧ rest = kinds := by
  cases result with
  | none => exact nomatch ran
  | some value =>
    cases ran
    exact ⟨rfl, rfl⟩

/-- A token that is expected is the next one. -/
theorem eq_of_run_expect {kind : TokenKind} {kinds rest : List TokenKind}
    (ran : (expect kind).run kinds = some ((), rest)) : kinds = kind :: rest := by
  unfold expect at ran
  obtain ⟨accepted, left, asked, ran⟩ := exists_of_run_bind ran
  cases accepted with
  | false => exact nomatch ran
  | true =>
    cases ran
    unfold accept? at asked
    obtain ⟨next, between, peeked, asked⟩ := exists_of_run_bind asked
    cases kinds with
    | nil =>
      cases peeked
      split at asked <;> exact nomatch asked
    | cons first others =>
      cases peeked
      split at asked
      · next same =>
        cases asked
        rw [eq_of_beq same]
      · exact nomatch asked

/-- Whatever a parser finds is as it should be. -/
def Gives (valid : α → Prop) (parser : Parser α) : Prop :=
  ∀ kinds found rest, parser.run kinds = some (found, rest) → valid found

theorem gives_pure {valid : α → Prop} {found : α} (holds : valid found) :
    Gives valid (pure found : Parser α) := by
  intro kinds value rest ran
  cases ran
  exact holds

theorem gives_failure {valid : α → Prop} : Gives valid (failure : Parser α) :=
  fun _ _ _ ran => nomatch ran

theorem Gives.bind {first : α → Prop} {valid : β → Prop} {parser : Parser α} {next : α → Parser β}
    (before : Gives first parser) (behind : ∀ value, first value → Gives valid (next value)) :
    Gives valid (parser >>= next) := by
  intro kinds found rest ran
  obtain ⟨value, left, one, other⟩ := exists_of_run_bind ran
  exact behind value (before _ _ _ one) _ _ _ other

theorem Gives.imp {valid weaker : α → Prop} {parser : Parser α} (gives : Gives valid parser)
    (implies : ∀ {found}, valid found → weaker found) : Gives weaker parser :=
  fun _ _ _ ran => implies (gives _ _ _ ran)

theorem gives_bind {valid : β → Prop} {parser : Parser α} {next : α → Parser β}
    (behind : ∀ value, Gives valid (next value)) : Gives valid (parser >>= next) :=
  have before : Gives (fun _ => True) parser := fun _ _ _ _ => trivial
  before.bind fun value _ => behind value

theorem gives_iterate {valid : α → Prop} {step : α → Parser (Option α)}
    (steps : ∀ value, valid value → Gives (fun next => ∀ value, next = some value → valid value) (step value))
    (count : Nat) {first : α} (holds : valid first) : Gives valid (iterate step count first) := by
  induction count generalizing first with
  | zero => exact gives_pure holds
  | succ count inductionHypothesis =>
    unfold iterate
    refine (steps first holds).bind fun next valid => ?_
    split
    · exact inductionHypothesis (valid _ rfl)
    · exact gives_pure holds

theorem gives_many {valid : α → Prop} {item? : Parser (Option α)}
    (items : Gives (fun found => ∀ value, found = some value → valid value) item?) :
    Gives (fun found => ∀ value ∈ found, valid value) (many item?) := by
  have goesOn (found : List α) (holds : ∀ value ∈ found, valid value) :
      Gives (fun next => ∀ values, next = some values → ∀ value ∈ values, valid value)
        (do return (← item?).map (· :: found) : Parser (Option (List α))) := by
    refine items.bind fun item isItem => gives_pure fun values same => ?_
    obtain ⟨value, rfl, rfl⟩ := Option.map_eq_some_iff.1 same
    intro other among
    rcases List.mem_cons.1 among with rfl | behind
    · exact isItem _ rfl
    · exact holds other behind
  have repeats : Gives (fun found => ∀ value ∈ found, valid value)
      (repeated (fun found => do return (← item?).map (· :: found)) []) := by
    unfold repeated
    exact gives_bind fun kinds => gives_iterate goesOn _ nofun
  unfold many
  exact repeats.bind fun found holds => gives_pure fun value among =>
    holds value (List.mem_reverse.1 among)

end Parser

namespace StatementGrammar

open DifferenceTypes.Parser

/-! ### Simple statements -/

/-- A parser that ends with such a statement, wherever it stands. -/
theorem gives_placed {valid : Stmt Extent → Prop} {next : Extent → Stmt Extent} (start : Nat)
    (holds : ∀ extent, valid (next extent)) : Gives valid (do return next (← extentFrom start)) :=
  gives_bind fun extent => gives_pure (holds extent)

theorem gives_assignment (expressions : NestedGrammar) (start : Nat) (first : Expr Extent) :
    Gives (fun found : Stmt Extent => found.isUntyped = true) (assignment expressions start first) := by
  unfold assignment
  refine gives_bind fun others => ?_
  dsimp only
  split
  · split
    · exact gives_placed start fun _ => rfl
    · exact gives_failure
  · exact gives_failure

theorem gives_declaration (expressions : NestedGrammar) (start : Nat) (target : Expr Extent)
    (simple : Bool) : Gives (fun found : Stmt Extent => found.isSimple = true)
      (declaration expressions start target simple) := by
  unfold declaration
  refine gives_bind fun _ => gives_bind fun piece => gives_bind fun type => gives_bind fun hasValue => ?_
  dsimp only
  split
  all_goals exact gives_bind fun value => gives_placed start fun _ => rfl

/-- What is read of a statement: one that declares no type, or a target with a declaration behind it. -/
def IsUntypedOrDeclares (expressions : NestedGrammar) (kinds rest : List TokenKind) (found : Stmt Extent) :
    Prop :=
  found.isUntyped = true ∨ ∃ start first isName left,
    (assigned expressions).run kinds = some (first, left) ∧
      (declaration expressions start first isName).run left = some (found, rest)

theorem isUntypedOrDeclares_of_run_expressionStatement {expressions : NestedGrammar}
    {kinds rest : List TokenKind} {found : Stmt Extent}
    (ran : (expressionStatement expressions).run kinds = some (found, rest)) :
    IsUntypedOrDeclares expressions kinds rest found := by
  unfold expressionStatement at ran
  obtain ⟨start, _, counted, ran⟩ := exists_of_run_bind ran
  cases counted
  obtain ⟨kind, _, peeked, ran⟩ := exists_of_run_bind ran
  obtain ⟨rfl, -⟩ := eq_of_run_peek peeked
  obtain ⟨first, left, taken, ran⟩ := exists_of_run_bind ran
  obtain ⟨next, _, peeked, ran⟩ := exists_of_run_bind ran
  obtain ⟨rfl, -⟩ := eq_of_run_peek peeked
  have plain {parser : Parser (Stmt Extent)} (gives : Gives (fun found : Stmt Extent => found.isUntyped = true) parser)
      (ran : parser.run left = some (found, rest)) : IsUntypedOrDeclares expressions kinds rest found :=
    .inl (gives _ _ _ ran)
  split at ran
  · exact plain (gives_assignment expressions _ first) ran
  · split at ran
    · exact .inr ⟨_, first, _, left, taken, ran⟩
    · exact nomatch ran
  · split at ran
    · split at ran
      · exact plain (gives_bind fun _ => gives_bind fun value => gives_placed _ fun _ => rfl) ran
      · exact nomatch ran
    · exact plain (gives_placed _ fun _ => rfl) ran
  · exact plain (gives_placed _ fun _ => rfl) ran

theorem gives_deletion (expressions : NestedGrammar) (start : Nat) :
    Gives (fun found : Stmt Extent => found.isUntyped = true) (deletion expressions start) := by
  unfold deletion
  refine gives_bind fun first => gives_bind fun others => ?_
  dsimp only
  split
  · exact gives_placed start fun _ => rfl
  · exact gives_failure

theorem gives_importFrom (start : Nat) :
    Gives (fun found : Stmt Extent => found.isUntyped = true) (importFrom start) := by
  unfold importFrom
  refine gives_bind fun level => gives_bind fun kind => ?_
  dsimp only
  split
  all_goals
    refine gives_bind fun path => ?_
    split
    · exact gives_failure
    · refine gives_bind fun _ => gives_bind fun star => ?_
      split
      · exact gives_placed start fun _ => rfl
      · refine gives_bind fun parenthesis => ?_
        split
        · refine gives_bind fun names => ?_
          split
          · exact gives_failure
          · exact gives_placed start fun _ => rfl
        · exact gives_bind fun names => gives_placed start fun _ => rfl

/-- A statement of a line that declares a type starts with what it is declared for. -/
theorem isUntypedOrDeclares_of_run_simple {expressions : NestedGrammar} {kinds rest : List TokenKind}
    {found : Stmt Extent} (ran : (simple expressions).run kinds = some (found, rest)) :
    IsUntypedOrDeclares expressions kinds rest found := by
  unfold simple at ran
  obtain ⟨start, _, counted, ran⟩ := exists_of_run_bind ran
  cases counted
  dsimp only at ran
  obtain ⟨kind, _, peeked, ran⟩ := exists_of_run_bind ran
  obtain ⟨rfl, -⟩ := eq_of_run_peek peeked
  have plain {parser : Parser (Stmt Extent)} (gives : Gives (fun found : Stmt Extent => found.isUntyped = true) parser)
      (ran : parser.run kinds = some (found, rest)) : IsUntypedOrDeclares expressions kinds rest found :=
    .inl (gives _ _ _ ran)
  split at ran
  · exact plain (gives_bind fun _ => gives_bind fun value => gives_placed _ fun _ => rfl) ran
  · exact plain (gives_bind fun _ => gives_bind fun names => gives_placed _ fun _ => rfl) ran
  · exact plain (gives_bind fun _ => gives_importFrom _) ran
  · refine plain (gives_bind fun _ => gives_bind fun sees => ?_) ran
    split
    · refine gives_bind fun exception => gives_bind fun hasCause => ?_
      split
      all_goals exact gives_bind fun cause => gives_placed _ fun _ => rfl
    · exact gives_placed _ fun _ => rfl
  · exact plain (gives_bind fun _ => gives_placed _ fun _ => rfl) ran
  · exact plain (gives_bind fun _ => gives_deletion expressions _) ran
  · refine plain (gives_bind fun _ => gives_bind fun test => gives_bind fun comma => ?_) ran
    split
    all_goals exact gives_bind fun message => gives_placed _ fun _ => rfl
  · exact plain (gives_bind fun _ => gives_placed _ fun _ => rfl) ran
  · exact plain (gives_bind fun _ => gives_placed _ fun _ => rfl) ran
  · exact plain (gives_bind fun _ => gives_bind fun names => gives_placed _ fun _ => rfl) ran
  · exact plain (gives_bind fun _ => gives_bind fun names => gives_placed _ fun _ => rfl) ran
  · exact isUntypedOrDeclares_of_run_expressionStatement ran

theorem gives_simple (expressions : NestedGrammar) :
    Gives (fun found : Stmt Extent => found.isSimple = true) (simple expressions) := by
  intro kinds found rest ran
  rcases isUntypedOrDeclares_of_run_simple ran with plain | ⟨start, first, isName, left, -, declares⟩
  · exact (Bool.and_eq_true_iff.1 plain).1
  · exact gives_declaration _ _ _ _ _ _ _ declares

/-- A line holds nothing but simple statements. -/
theorem gives_simples (expressions : NestedGrammar) :
    Gives (fun found : List (Stmt Extent) => ∀ statement ∈ found, statement.isSimple = true)
      (simples expressions) := by
  unfold simples
  refine (gives_simple expressions).bind fun first isSimple => ?_
  refine (@gives_many _ (fun statement : Stmt Extent => statement.isSimple = true) _ ?_).bind
    fun others areSimple => gives_pure ?_
  · refine gives_bind fun semicolon => ?_
    split
    · refine gives_bind fun finished => ?_
      split
      · exact gives_pure nofun
      · exact (gives_simple expressions).bind fun next holds => gives_pure fun statement same =>
          Option.some.inj same ▸ holds
    · exact gives_pure nofun
  · intro statement among
    rcases List.mem_cons.1 among with rfl | behind
    · exact isSimple
    · exact areSimple statement behind

/-- The rest of a line is parsed alone, and what stands behind the line is left. -/
theorem exists_of_run_restOfLine {change : (Extent → Extent) → α → α} {expressions : NestedGrammar}
    {parser : NestedGrammar → Parser α} {kinds rest : List TokenKind} {found : α}
    (ran : (restOfLine change expressions parser).run kinds = some (found, rest)) :
    ∃ piece, kinds = piece ++ .newline :: rest ∧ TokenKind.newline ∉ piece ∧
      alone change (parser (expressions.piece piece)) piece (rest.length + 1) = some found := by
  unfold restOfLine at ran
  obtain ⟨_, _, got, ran⟩ := exists_of_run_bind ran
  cases got
  obtain ⟨_, _, got, ran⟩ := exists_of_run_bind ran
  cases got
  obtain ⟨_, _, put, ran⟩ := exists_of_run_bind ran
  cases put
  obtain ⟨value, left, taken, ran⟩ := exists_of_run_bind ran
  obtain ⟨_, behind, ended, ran⟩ := exists_of_run_bind ran
  cases ran
  obtain ⟨alone_, rfl⟩ := eq_of_run_lift taken
  have split := eq_of_run_expect ended
  rw [split] at alone_
  have length := List.prefix_iff_eq_append.1
    (List.takeWhile_prefix (l := kinds) (fun kind : TokenKind => kind != .newline))
  refine ⟨kinds.takeWhile (· != .newline), ?_, fun among => ?_, alone_⟩
  · rw [← split]
    exact length.symm
  · exact absurd (List.all_eq_true.1 List.all_takeWhile _ among) (by simp)

/-- A line of statements holds simple ones, and what stands behind the line is left. -/
theorem exists_of_run_simpleLine {expressions : NestedGrammar} {kinds rest : List TokenKind}
    {found : List (Stmt Extent)} (ran : (simpleLine expressions).run kinds = some (found, rest)) :
    (∃ piece, kinds = piece ++ .newline :: rest ∧ TokenKind.newline ∉ piece) ∧
      ∀ statement ∈ found, statement.isSimple = true := by
  obtain ⟨piece, split, oneLine, read⟩ := exists_of_run_restOfLine ran
  refine ⟨⟨piece, split, oneLine⟩, fun statement among => ?_⟩
  unfold alone at read
  split at read
  · next inside ranInside =>
    cases read
    rw [Stmt.mapAll_eq_map] at among
    obtain ⟨written, there, rfl⟩ := List.mem_map.1 among
    exact (written.isSimple_map _).trans (gives_simples _ _ _ _ ranInside written there)
  · exact nomatch read

/-! ### Statements with blocks -/

theorem gives_conditional (expressions : NestedGrammar) (block : Parser (List (Stmt Extent))) :
    Gives (fun found : Stmt Extent => found.holdsBlocks = true) (conditional expressions block) := by
  unfold conditional
  dsimp only
  refine gives_bind fun first => ?_
  split
  · exact gives_failure
  · refine gives_bind fun others => gives_bind fun last => gives_bind fun stop => ?_
    split
    · next found nested =>
      rw [List.foldr_cons] at nested
      cases nested
      exact gives_pure rfl
    · exact gives_failure

theorem gives_whileLoop (expressions : NestedGrammar) (block : Parser (List (Stmt Extent))) :
    Gives (fun found : Stmt Extent => found.holdsBlocks = true) (whileLoop expressions block) := by
  unfold whileLoop
  refine gives_bind fun start => gives_bind fun _ => gives_bind fun test => gives_bind fun _ => ?_
  exact gives_bind fun body => gives_bind fun otherwise => gives_bind fun extent => gives_pure rfl

theorem gives_forLoop (expressions : NestedGrammar) (block : Parser (List (Stmt Extent))) (start : Nat)
    (isAsync : Bool) :
    Gives (fun found : Stmt Extent => found.holdsBlocks = true) (forLoop expressions block start isAsync) := by
  unfold forLoop
  refine gives_bind fun _ => gives_bind fun found => gives_bind fun _ => gives_bind fun source => ?_
  refine gives_bind fun _ => gives_bind fun body => gives_bind fun otherwise => ?_
  exact gives_bind fun extent => gives_pure rfl

theorem gives_withBlock (expressions : NestedGrammar) (block : Parser (List (Stmt Extent))) (start : Nat)
    (isAsync : Bool) :
    Gives (fun found : Stmt Extent => found.holdsBlocks = true)
      (withBlock expressions block start isAsync) := by
  unfold withBlock
  refine gives_bind fun _ => gives_bind fun contexts => gives_bind fun body => ?_
  exact gives_bind fun extent => gives_pure rfl

theorem gives_tryBlock (expressions : NestedGrammar) (block : Parser (List (Stmt Extent))) :
    Gives (fun found : Stmt Extent => found.holdsBlocks = true) (tryBlock expressions block) := by
  unfold tryBlock
  refine gives_bind fun start => gives_bind fun _ => gives_bind fun _ => gives_bind fun body => ?_
  refine gives_bind fun handlers => ?_
  dsimp only
  split
  · exact gives_failure
  split
  all_goals
    refine gives_bind fun otherwise => gives_bind fun final => ?_
    have closes (cleanup : List (Stmt Extent)) : Gives (fun found : Stmt Extent => found.holdsBlocks = true)
        (if handlers.isEmpty && cleanup.isEmpty then failure
        else do
          return .tryBlock (← extentFrom start) (handlers.any (·.2)) body (handlers.map (·.1)) otherwise
            cleanup) := by
      split
      · exact gives_failure
      · exact gives_bind fun extent => gives_pure rfl
    split
    · exact gives_bind fun _ => gives_bind fun cleanup => closes cleanup
    · exact gives_bind fun cleanup => closes cleanup

theorem gives_classDefinition (expressions : NestedGrammar) (block : Parser (List (Stmt Extent))) :
    Gives (fun found : Stmt Extent => found.isSimple = false) (classDefinition expressions block) := by
  unfold classDefinition
  refine gives_bind fun start => gives_bind fun _ => gives_bind fun name => gives_bind fun sees => ?_
  split
  all_goals
    refine gives_bind fun arguments => gives_bind fun _ => gives_bind fun body => ?_
    exact gives_bind fun extent => gives_pure rfl

theorem gives_function (expressions : NestedGrammar) (block : Parser (List (Stmt Extent))) (start : Nat)
    (isAsync : Bool) :
    Gives (fun found : Stmt Extent => found.holdsBlocks = true)
      (function expressions block start isAsync) := by
  unfold function
  refine gives_bind fun _ => gives_bind fun name => gives_bind fun _ => gives_bind fun found => ?_
  refine gives_bind fun arrow => ?_
  split
  all_goals
    refine gives_bind fun result => gives_bind fun _ => gives_bind fun body => ?_
    exact gives_bind fun extent => gives_pure rfl

theorem gives_asynchronous (expressions : NestedGrammar) (block : Parser (List (Stmt Extent))) :
    Gives (fun found : Stmt Extent => found.holdsBlocks = true) (asynchronous expressions block) := by
  unfold asynchronous
  refine gives_bind fun start => gives_bind fun _ => gives_bind fun isFunction => ?_
  split
  · exact gives_function expressions block start true
  · refine gives_bind fun isLoop => ?_
    split
    · exact gives_forLoop expressions block start true
    · exact gives_withBlock expressions block start true

theorem gives_decorated (expressions : NestedGrammar) (block : Parser (List (Stmt Extent))) :
    Gives (fun found : Stmt Extent => found.isSimple = false) (decorated expressions block) := by
  unfold decorated
  refine gives_bind fun found => gives_bind fun start => gives_bind fun kind => ?_
  have decorates (definition : Stmt Extent) :
      Gives (fun found : Stmt Extent => found.isSimple = false)
        (liftM (definition.decorate? found) : Parser (Stmt Extent)) := by
    intro kinds decorated rest ran
    obtain ⟨same, -⟩ := eq_of_run_lift ran
    cases definition with
    | function | classDefinition =>
      cases same
      rfl
    | _ => exact nomatch same
  split
  all_goals exact gives_bind fun definition => decorates definition

theorem gives_matchBlock (expressions : NestedGrammar) (patterns : Parser (Pattern Extent))
    (block : Parser (List (Stmt Extent))) :
    Gives (fun found : Stmt Extent => found.holdsBlocks = true) (matchBlock expressions patterns block) := by
  unfold matchBlock
  refine gives_bind fun start => gives_bind fun _ => gives_bind fun found => gives_bind fun _ => ?_
  refine gives_bind fun _ => gives_bind fun _ => gives_bind fun cases => gives_bind fun _ => ?_
  split
  · exact gives_failure
  · exact gives_bind fun extent => gives_pure rfl

/-- Whether a token starts a statement that holds blocks, wherever it stands. -/
def startsBlocks : TokenKind → Bool
  | .word .defWord | .symbol .at | .word .asyncWord | .word .ifWord | .word .classWord
  | .word .withWord | .word .forWord | .word .tryWord | .word .whileWord => true
  | _ => false

/-- What is read of a statement: a line of simple ones, a statement with blocks that makes no class, a
class, or a definition behind decorators. -/
inductive IsStatement (expressions : NestedGrammar) (block : Parser (List (Stmt Extent)))
    (kinds rest : List TokenKind) (found : List (Stmt Extent)) : Prop
  | line (ran : (simpleLine expressions).run kinds = some (found, rest))
    (starts : startsBlocks (kinds.head?.getD .endOfText) = false)
  | blocks (statement : Stmt Extent) (only : found = [statement]) (holds : statement.holdsBlocks = true)
    (starts : startsBlocks (kinds.head?.getD .endOfText) = true ∨ kinds.head? = some (.name "match"))
  | ofClass (statement : Stmt Extent) (only : found = [statement])
    (ran : (classDefinition expressions block).run kinds = some (statement, rest))
    (starts : startsBlocks (kinds.head?.getD .endOfText) = true)
  | decorated (statement : Stmt Extent) (only : found = [statement])
    (ran : (decorated expressions block).run kinds = some (statement, rest))
    (starts : kinds.head?.getD .endOfText = .symbol .at)

theorem exists_of_run_single {parser : Parser (Stmt Extent)} {kinds rest : List TokenKind}
    {found : List (Stmt Extent)}
    (ran : (do return [← parser] : Parser (List (Stmt Extent))).run kinds = some (found, rest)) :
    ∃ statement, found = [statement] ∧ parser.run kinds = some (statement, rest) := by
  obtain ⟨statement, left, ranParser, ended⟩ := exists_of_run_bind ran
  cases ended
  exact ⟨statement, rfl, ranParser⟩

theorem isStatement_of_run_statement {expressions : NestedGrammar} {patterns : Parser (Pattern Extent)}
    {block : Parser (List (Stmt Extent))} {kinds rest : List TokenKind} {found : List (Stmt Extent)}
    (ran : (statement expressions patterns block).run kinds = some (found, rest)) :
    IsStatement expressions block kinds rest found := by
  unfold statement at ran
  obtain ⟨start, _, counted, ran⟩ := exists_of_run_bind ran
  cases counted
  obtain ⟨kind, _, peeked, ran⟩ := exists_of_run_bind ran
  obtain ⟨rfl, first⟩ := eq_of_run_peek peeked
  dsimp only at ran
  have holds {parser : Parser (Stmt Extent)}
      (gives : Gives (fun statement : Stmt Extent => statement.holdsBlocks = true) parser)
      (starts : startsBlocks (kinds.head?.getD .endOfText) = true ∨ kinds.head? = some (.name "match"))
      (ran : (do return [← parser] : Parser (List (Stmt Extent))).run kinds = some (found, rest)) :
      IsStatement expressions block kinds rest found := by
    obtain ⟨statement, only, ranParser⟩ := exists_of_run_single ran
    exact .blocks statement only (gives _ _ _ ranParser) starts
  split at ran
  · exact holds (gives_function _ _ _ _) (.inl (first ▸ rfl)) ran
  · obtain ⟨statement, only, ranParser⟩ := exists_of_run_single ran
    exact .decorated statement only ranParser first.symm
  · exact holds (gives_asynchronous _ _) (.inl (first ▸ rfl)) ran
  · exact holds (gives_conditional _ _) (.inl (first ▸ rfl)) ran
  · obtain ⟨statement, only, ranParser⟩ := exists_of_run_single ran
    exact .ofClass statement only ranParser (first ▸ rfl)
  · exact holds (gives_withBlock _ _ _ _) (.inl (first ▸ rfl)) ran
  · exact holds (gives_forLoop _ _ _ _) (.inl (first ▸ rfl)) ran
  · exact holds (gives_tryBlock _ _) (.inl (first ▸ rfl)) ran
  · exact holds (gives_whileLoop _ _) (.inl (first ▸ rfl)) ran
  · have named : kinds.head? = some (.name "match") := by
      cases kinds with
      | nil => exact nomatch first
      | cons head rest => exact congrArg some first.symm
    rcases run_orElse_eq_some ran with isMatch | isLine
    · exact holds (gives_matchBlock _ _ _) (.inr named) isMatch
    · exact .line isLine (first ▸ rfl)
  · next other =>
    refine .line ran ?_
    rw [← first]
    unfold startsBlocks
    split
    all_goals simp_all

/-- What is read from tokens: a line of simple statements, or a single statement that holds blocks. Its
first token tells which, unless it is the name `match`. -/
inductive IsRead (kinds rest : List TokenKind) (found : List (Stmt Extent)) : Prop
  | line (single : ∃ piece, kinds = piece ++ .newline :: rest ∧ TokenKind.newline ∉ piece)
    (simple : ∀ statement ∈ found, statement.isSimple = true)
    (starts : startsBlocks (kinds.head?.getD .endOfText) = false)
  | blocks (statement : Stmt Extent) (only : found = [statement]) (holds : statement.isSimple = false)
    (starts : startsBlocks (kinds.head?.getD .endOfText) = true ∨ kinds.head? = some (.name "match"))

theorem isRead_of_run_statement {expressions : NestedGrammar} {patterns : Parser (Pattern Extent)}
    {block : Parser (List (Stmt Extent))} {kinds rest : List TokenKind} {found : List (Stmt Extent)}
    (ran : (statement expressions patterns block).run kinds = some (found, rest)) :
    IsRead kinds rest found := by
  cases isStatement_of_run_statement ran with
  | line ran starts =>
    obtain ⟨single, simple⟩ := exists_of_run_simpleLine ran
    exact .line single simple starts
  | blocks statement only holds starts =>
    exact .blocks statement only (Stmt.isSimple_of_holdsBlocks holds) starts
  | ofClass statement only ran starts =>
    exact .blocks statement only (gives_classDefinition _ _ _ _ _ ran) (.inl starts)
  | decorated statement only ran starts =>
    exact .blocks statement only (gives_decorated _ _ _ _ _ ran) (.inl (by rw [starts]; rfl))

/-- What a group of tokens says is read from all of it. -/
theorem isRead_of_wholeStatement? {kinds : List TokenKind} {found : List (Stmt Extent)}
    (read : wholeStatement? kinds = some found) : IsRead kinds [] found := by
  unfold wholeStatement? alone at read
  dsimp only at read
  split at read
  · next inside ran =>
    cases read
    cases isRead_of_run_statement ran with
    | line single simple starts =>
      refine .line single (fun statement among => ?_) starts
      rw [Stmt.mapAll_eq_map] at among
      obtain ⟨written, there, rfl⟩ := List.mem_map.1 among
      exact (written.isSimple_map _).trans (simple written there)
    | blocks statement only holds starts =>
      subst only
      exact .blocks _ rfl ((statement.isSimple_map _).trans holds) starts
  · exact nomatch read

/-- Nothing goes on with a line of simple statements on other lines. -/
theorem not_isRead_append {line others : List TokenKind} {found other : List (Stmt Extent)}
    (alone : IsRead (line ++ [.newline]) [] found) (simple : ∀ statement ∈ found, statement.isSimple = true)
    (unnamed : line.head? ≠ some (.name "match")) (more : others ≠ []) :
    ¬ IsRead (line ++ .newline :: others) [] other := by
  intro together
  have sameHead : (line ++ .newline :: others).head? = (line ++ [TokenKind.newline]).head? := by
    cases line <;> rfl
  have starts : startsBlocks ((line ++ [TokenKind.newline]).head?.getD .endOfText) = false := by
    cases alone with
    | line _ _ starts => exact starts
    | blocks statement only holds _ =>
      subst only
      exact nomatch (simple statement List.mem_cons_self).symm.trans holds
  cases together with
  | line single _ _ =>
    obtain ⟨piece, split, oneLine⟩ := single
    have cut := congrArg List.dropLast split
    rw [List.dropLast_append_of_ne_nil (List.cons_ne_nil _ _), List.dropLast_cons_of_ne_nil more,
      List.dropLast_concat] at cut
    exact oneLine (by simp [← cut])
  | blocks _ _ _ begins =>
    rcases begins with begins | named
    · rw [sameHead, starts] at begins
      exact nomatch begins
    · rw [sameHead] at named
      cases line with
      | nil => exact nomatch named
      | cons first rest => exact unnamed named

end StatementGrammar

end DifferenceTypes
