import DifferenceTypes.Proofs.Syntax.Parts

/-!
# Declared types and their tokens

The type of a declaration is read from tokens of its own in its line: those behind the colon, up to an
equals sign, a semicolon or the end of the line. Parentheses around all of them leave no trace, so the
type takes the tokens in the innermost of them; put into parentheses again, wherever these stand, they
say what the type says (`StandsAlone`).

Every type that a class of a module declares in its body is read in this way
(`Module.exists_standsAlone`).
-/

namespace DifferenceTypes

open DifferenceTypes.Parser ExpressionGrammar

/-- An expression takes all of some tokens of a line. -/
def StandsAlone (kinds : List TokenKind) (found : Expr Extent) : Prop :=
  ∃ behind, StandsBefore behind kinds found

namespace StandsAlone

variable {kinds : List TokenKind} {type : Expr Extent}

theorem prepend (alone : StandsAlone kinds type) (before : List TokenKind) :
    StandsAlone (before ++ kinds) type :=
  alone.imp fun _ stands => stands.prepend before

theorem append (alone : StandsAlone kinds type) {after : List TokenKind}
    (ends : ∀ kind ∈ after.head?, kind.endsPart = true) :
    StandsAlone (kinds ++ after) (type.map (Extent.before after.length)) := by
  obtain ⟨behind, stands⟩ := alone
  exact ⟨behind ++ after, stands.append_map ends⟩

end StandsAlone

namespace Parser

/-- What is cut off before a token starts with a token that was wanted. -/
theorem wanted_of_splitBefore {wanted : TokenKind → Bool} {nesting : Nesting} {kinds : List TokenKind} :
    ∀ kind ∈ (splitBefore wanted nesting kinds).2.head?, wanted kind = true := by
  induction kinds generalizing nesting with
  | nil => exact nofun
  | cons first rest inductionHypothesis =>
    unfold splitBefore
    split
    · next here =>
      intro kind among
      cases Option.mem_some_iff.1 among
      exact (Bool.and_eq_true_iff.1 here).2
    · exact inductionHypothesis

end Parser

namespace StatementGrammar

variable {bound depth : Nat} {kinds rest : List TokenKind}

/-- The type of a declaration. -/
theorem standsAlone_of_run_declaration {start : Nat} {target : Expr Extent} {isName : Bool}
    {found : Stmt Extent} (lighter : weight kinds ≤ bound) (oneLine : TokenKind.newline ∉ kinds)
    (ran : (declaration ⟨upTo bound depth, upTo bound⟩ start target isName).run kinds = some (found, rest)) :
    ∀ type, found.declaredType? = some type → StandsAlone kinds type := by
  unfold declaration at ran
  obtain ⟨_, left, colon, ranPiece⟩ := exists_of_run_bind ran
  obtain rfl := eq_of_run_expect colon
  obtain ⟨⟨piece, count⟩, _, cut, ranType⟩ := exists_of_run_bind ranPiece
  obtain ⟨type, others, lifted, ranValue⟩ := exists_of_run_bind ranType
  obtain ⟨read, rfl⟩ := eq_of_run_lift lifted
  have isType : ∀ declared, found.declaredType? = some declared → declared = type := by
    obtain ⟨hasValue, _, -, gives⟩ := exists_of_run_bind ranValue
    split at gives
    all_goals
      obtain ⟨value, _, -, placed⟩ := exists_of_run_bind gives
      cases placed
      exact fun _ same => (Option.some.inj same).symm
  intro declared declares
  obtain rfl := isType declared declares
  have split : piece ++ others = left ∧ count = others.length ∧ ∀ kind ∈ others.head?, kind.endsPart = true := by
    have parts := splitBefore_append
      (fun kind => kind == .symbol .equal || kind == .symbol .semicolon) .outside left
    have stops := @wanted_of_splitBefore
      (fun kind => kind == .symbol .equal || kind == .symbol .semicolon) .outside left
    cases cut
    refine ⟨parts, rfl, fun kind among => ?_⟩
    have wanted := stops kind among
    simp only [TokenKind.endsPart, Bool.or_eq_true] at wanted ⊢
    tauto
  obtain ⟨rfl, rfl, ends⟩ := split
  obtain ⟨value, whole, rfl⟩ := exists_of_alone read
  have below : weight piece < bound := by
    simp [weight, weightOf] at lighter ⊢
    omega
  have grammar : ((⟨upTo bound depth, upTo bound⟩ : NestedGrammar).piece piece).expression =
      expressionOf (within (weight piece) (weight piece)) :=
    congrArg ExpressionGrammar.expression (upTo_weight below)
  rw [grammar] at whole
  obtain ⟨-, behind, -, stands⟩ := standsBefore_of_run_namedExpressionOf (fun among => oneLine (by simp [among]))
    (run_namedExpressionOf_of_expressionOf whole)
  exact (StandsAlone.append ⟨behind, stands⟩ ends).prepend [.symbol .colon]

/-- All types that statements declare stand alone. -/
def AllStandAlone (kinds : List TokenKind) (statements : List (Stmt Extent)) : Prop :=
  ∀ statement ∈ statements, ∀ type, statement.declaredType? = some type → StandsAlone kinds type

theorem AllStandAlone.prepend {statements : List (Stmt Extent)} (alone : AllStandAlone kinds statements)
    (before : List TokenKind) : AllStandAlone (before ++ kinds) statements :=
  fun statement among type declares => (alone statement among type declares).prepend before

theorem standsAlone_of_run_simple {found : Stmt Extent} (lighter : weight kinds ≤ bound)
    (oneLine : TokenKind.newline ∉ kinds)
    (ran : (simple ⟨upTo bound depth, upTo bound⟩).run kinds = some (found, rest)) :
    ∀ type, found.declaredType? = some type → StandsAlone kinds type := by
  rcases isUntypedOrDeclares_of_run_simple ran with untyped | ⟨start, first, isName, left, taken, declares⟩
  · intro type declares
    simp [Stmt.isUntyped, declares] at untyped
  · have takes : TakesFront (assigned ⟨upTo bound depth, upTo bound⟩) := inferInstance
    obtain ⟨front, rfl, -⟩ := takes.takesAt _ _ _ taken
    rw [weight_append] at lighter
    intro type declared
    exact (standsAlone_of_run_declaration (by omega) (fun among => oneLine (by simp [among])) declares type
      declared).prepend front

/-- The statements of a line. -/
theorem allStandAlone_of_run_simples {found : List (Stmt Extent)} (lighter : weight kinds ≤ bound)
    (oneLine : TokenKind.newline ∉ kinds)
    (ran : (simples ⟨upTo bound depth, upTo bound⟩).run kinds = some (found, rest)) :
    AllStandAlone kinds found := by
  -- Each statement is one of the tokens that are left where it starts.
  have here {front left after : List TokenKind} {found : Stmt Extent} (split : kinds = front ++ left)
      (ranHere : (simple ⟨upTo bound depth, upTo bound⟩).run left = some (found, after)) :
      ∀ type, found.declaredType? = some type → StandsAlone kinds type := by
    subst split
    rw [weight_append] at lighter
    intro type declares
    exact (standsAlone_of_run_simple (by omega) (fun among => oneLine (by simp [among])) ranHere type
      declares).prepend front
  unfold simples at ran
  obtain ⟨first, front, left, split, ranFirst, ran⟩ := exists_taken_of_run_bind ran
  obtain ⟨others, _, ranOthers, ended⟩ := exists_of_run_bind ran
  cases ended
  intro statement among
  rcases List.mem_cons.1 among with rfl | behind
  · exact here (List.nil_append kinds).symm ranFirst
  refine @forall_of_run_many _ (fun statement : Stmt Extent => ∀ type, statement.declaredType? = some type →
    StandsAlone kinds type) _ _ _ _ _ (fun {before after next rest} isLeft ranItem => ?_) ranOthers statement
    behind
  obtain ⟨semicolon, one, behindOne, isOne, -, ranItem⟩ := exists_taken_of_run_bind ranItem
  cases semicolon with
  | false => exact nomatch ranItem
  | true =>
    obtain ⟨finished, two, behindTwo, isTwo, -, ranItem⟩ := exists_taken_of_run_bind ranItem
    cases finished with
    | true => exact nomatch ranItem
    | false =>
      obtain ⟨found, _, ranNext, ended⟩ := exists_of_run_bind ranItem
      cases ended
      exact here (show kinds = (front ++ before ++ one ++ two) ++ behindTwo by
        simp [split, isLeft, isOne, isTwo]) ranNext

/-! ### Blocks -/

variable {grammar : ExpressionGrammar} {patterns : Parser (Pattern Extent)}
  {block : Parser (List (Stmt Extent))} {found : List (Stmt Extent)}

theorem allStandAlone_of_run_simpleLine (lighter : weight kinds ≤ bound)
    (ran : (simpleLine ⟨grammar, upTo bound⟩).run kinds = some (found, rest)) :
    AllStandAlone kinds found := by
  obtain ⟨piece, rfl, oneLine, read⟩ := exists_of_run_restOfLine ran
  obtain ⟨inside, ranInside, rfl⟩ := exists_of_alone read
  rw [weight_append] at lighter
  have alone := allStandAlone_of_run_simples (by omega) oneLine ranInside
  rw [Stmt.mapAll_eq_map]
  intro statement among type declares
  obtain ⟨written, there, rfl⟩ := List.mem_map.1 among
  rw [Stmt.declaredType?_map] at declares
  obtain ⟨own, isOwn, rfl⟩ := Option.map_eq_some_iff.1 declares
  have ends : ∀ kind ∈ (TokenKind.newline :: rest).head?, kind.endsPart = true := by
    intro kind isNext
    cases Option.mem_some_iff.1 isNext
    rfl
  exact (alone written there own isOwn).append ends

/-- Statements with blocks declare no type by themselves. -/
theorem allStandAlone_of_run_statement (lighter : weight kinds ≤ bound)
    (ran : (statement ⟨grammar, upTo bound⟩ patterns block).run kinds = some (found, rest)) :
    AllStandAlone kinds found := by
  have none {statement : Stmt Extent} (only : found = [statement]) (holds : statement.isSimple = false) :
      AllStandAlone kinds found := by
    subst only
    intro other among type declares
    cases List.mem_singleton.1 among
    exact nomatch holds.symm.trans (Stmt.isSimple_of_declaredType? declares)
  cases isStatement_of_run_statement ran with
  | line ran => exact allStandAlone_of_run_simpleLine lighter ran
  | blocks statement only holds => exact none only (Stmt.isSimple_of_holdsBlocks holds)
  | ofClass statement only ran => exact none only (gives_classDefinition _ _ _ _ _ ran)
  | decorated statement only ran => exact none only (gives_decorated _ _ _ _ _ ran)

variable [grammar.Takes fun _ => True] [TakesFront patterns] [TakesFront block]

theorem allStandAlone_of_run_blockOf (lighter : weight kinds ≤ bound)
    (ran : (blockOf ⟨grammar, upTo bound⟩ patterns block).run kinds = some (found, rest)) :
    AllStandAlone kinds found := by
  unfold blockOf at ran
  obtain ⟨indented, left, asked, ranBlock⟩ := exists_of_run_bind ran
  have ⟨opened, stays⟩ := eq_of_run_accept? asked
  cases indented with
  | false =>
    obtain rfl := stays rfl
    exact allStandAlone_of_run_simpleLine lighter ranBlock
  | true =>
    obtain rfl := opened rfl
    obtain ⟨_, behind, indent, ranInside⟩ := exists_of_run_bind ranBlock
    obtain rfl := eq_of_run_expect indent
    obtain ⟨statements, _, ranStatements, ended⟩ := exists_of_run_bind ranInside
    have same : found = statements := by
      split at ended
      · exact nomatch ended
      · cases ended
        rfl
    subst same
    obtain ⟨groups, _, ranGroups, flat⟩ := exists_of_run_bind ranStatements
    cases flat
    have each : ∀ group ∈ groups, AllStandAlone behind group := by
      refine forall_of_run_many (fun {front left group rest} split ranItem => ?_) ranGroups
      obtain ⟨closed, taken, after, isTaken, -, ranItem⟩ := exists_taken_of_run_bind ranItem
      cases closed with
      | true => exact nomatch ranItem
      | false =>
        obtain ⟨group, _, ranStatement, ended⟩ := exists_of_run_bind ranItem
        cases ended
        have whole : behind = (front ++ taken) ++ after := by simp [split, isTaken]
        have bounded : weight after ≤ bound := by
          rw [whole] at lighter
          have parts := weight_append ([.newline, .indent] ++ (front ++ taken)) after
          exact Nat.le_trans (Nat.le_add_left _ _) (parts ▸ lighter)
        rw [whole]
        exact (allStandAlone_of_run_statement bounded ranStatement).prepend _
    intro statement among
    obtain ⟨group, isGroup, inside⟩ := List.mem_flatten.1 among
    exact fun type declares =>
      ((each group isGroup).prepend [.newline, .indent]) statement inside type declares

theorem allStandAlone_of_run_ofDepth {levels : Nat} (lighter : weight kinds ≤ bound)
    (ran : (ofDepth ⟨grammar, upTo bound⟩ patterns levels).run kinds = some (found, rest)) :
    AllStandAlone kinds found := by
  cases levels with
  | zero => exact nomatch ran
  | succ levels => exact allStandAlone_of_run_blockOf lighter ran

end StatementGrammar

namespace Stmt

variable {σ τ : Type}

/-- The statements in the body of a class. -/
def classBody : Stmt σ → List (Stmt σ)
  | .classDefinition _ _ _ _ body _ => body
  | _ => []

theorem classBody_map (change : σ → τ) (statement : Stmt σ) :
    (statement.map change).classBody = statement.classBody.map (Stmt.map change) := by
  cases statement with
  | classDefinition => exact Stmt.mapAll_eq_map change _
  | _ => rfl

theorem classBody_of_isSimple {statement : Stmt σ} (simple : statement.isSimple = true) :
    statement.classBody = [] := by
  cases statement <;> first | rfl | exact nomatch simple

theorem classBody_of_holdsBlocks {statement : Stmt σ} (holds : statement.holdsBlocks = true) :
    statement.classBody = [] := by
  cases statement <;> first | rfl | exact nomatch holds

/-- Decorators leave the body of a class as it is. -/
theorem classBody_of_decorate? {decorators : List (Expr σ)} {statement decorated : Stmt σ}
    (decorates : statement.decorate? decorators = some decorated) :
    decorated.classBody = statement.classBody := by
  cases statement with
  | function | classDefinition =>
    cases decorates
    rfl
  | _ => exact nomatch decorates

end Stmt

namespace StatementGrammar

/-- Every type that a class declares in its body stands alone in the group of tokens of the class. -/
theorem allStandAlone_of_wholeStatement? {kinds : List TokenKind} {found : List (Stmt Extent)}
    (read : wholeStatement? kinds = some found) (plain : kinds.head? ≠ some (.symbol .at)) :
    ∀ statement ∈ found, AllStandAlone kinds statement.classBody := by
  obtain ⟨inside, ran, rfl⟩ := exists_of_alone read
  rw [Stmt.mapAll_eq_map]
  intro moved isMoved
  obtain ⟨statement, among, rfl⟩ := List.mem_map.1 isMoved
  have alone : AllStandAlone kinds statement.classBody := by
    have none (empty : statement.classBody = []) : AllStandAlone kinds statement.classBody := by
      rw [empty]
      exact nofun
    cases isStatement_of_run_statement ran with
    | line isLine => exact none (Stmt.classBody_of_isSimple ((exists_of_run_simpleLine isLine).2 _ among))
    | blocks only is holds =>
      subst is
      cases List.mem_singleton.1 among
      exact none (Stmt.classBody_of_holdsBlocks holds)
    | ofClass only is isClass =>
      subst is
      cases List.mem_singleton.1 among
      obtain ⟨name, bases, keywords, body, front, left, split, ranBody, rfl⟩ :=
        exists_of_run_classDefinition _ _ isClass
      have bounded : weight left ≤ weight kinds := by
        rw [split, weight_append]
        exact Nat.le_add_left _ _
      have inBody := allStandAlone_of_run_ofDepth bounded ranBody
      rw [split]
      exact inBody.prepend front
    | decorated only is isDecorated starts =>
      cases kinds with
      | nil => exact nomatch starts
      | cons head others => exact absurd (congrArg some starts) plain
  rw [Stmt.classBody_map]
  intro own isOwn type declares
  obtain ⟨written, there, rfl⟩ := List.mem_map.1 isOwn
  rw [Stmt.declaredType?_map] at declares
  obtain ⟨found, isFound, rfl⟩ := Option.map_eq_some_iff.1 declares
  have ends : ∀ kind ∈ ([] : List TokenKind).head?, kind.endsPart = true := nofun
  simpa using (alone written there found isFound).append ends

end StatementGrammar

namespace Module

/-- Every type that a class of a module declares in its body stands alone in a group of tokens. -/
theorem exists_standsAlone {σ : Type} {decorators : List (Expr σ)}
    {groups : List (List TokenKind × (Extent → σ))} {statements : List (Stmt σ)}
    (read : ofGroups? decorators groups = some statements) :
    ∀ statement ∈ statements, ∀ own ∈ statement.classBody, ∀ type, own.declaredType? = some type →
      ∃ group ∈ groups, ∃ found, StandsAlone group.1 found ∧ type = found.map group.2 := by
  induction groups generalizing decorators statements with
  | nil =>
    unfold ofGroups? at read
    split at read
    · cases read
      exact nofun
    · exact nomatch read
  | cons group rest inductionHypothesis =>
    obtain ⟨kinds, span⟩ := group
    rw [ofGroups?] at read
    split at read
    · obtain ⟨found, -, read⟩ := Option.bind_eq_some_iff.1 read
      intro statement among own isOwn type declares
      obtain ⟨group, isGroup, holds⟩ := inductionHypothesis read statement among own isOwn type declares
      exact ⟨group, List.mem_cons_of_mem _ isGroup, holds⟩
    · next plain =>
      obtain ⟨found, isFound, read⟩ := Option.bind_eq_some_iff.1 read
      obtain ⟨decorated, decorates, read⟩ := Option.bind_eq_some_iff.1 read
      obtain ⟨others, readRest, read⟩ := Option.bind_eq_some_iff.1 read
      cases read
      intro statement among own isOwn type declares
      rcases List.mem_append.1 among with first | behind
      · obtain ⟨written, isWritten, same⟩ : ∃ written ∈ found, statement.classBody =
            (written.map span).classBody := by
          rw [Stmt.mapAll_eq_map] at decorates
          unfold decorate? at decorates
          split at decorates
          · cases decorates
            obtain ⟨written, isWritten, rfl⟩ := List.mem_map.1 first
            exact ⟨written, isWritten, rfl⟩
          · split at decorates
            · next definition only =>
              obtain ⟨result, made, rfl⟩ := Option.map_eq_some_iff.1 decorates
              obtain ⟨written, rfl, rfl⟩ := List.map_eq_singleton_iff.1 only
              cases List.mem_singleton.1 first
              exact ⟨written, List.mem_singleton_self _, Stmt.classBody_of_decorate? made⟩
            · exact nomatch decorates
        rw [same, Stmt.classBody_map] at isOwn
        obtain ⟨inside, isInside, rfl⟩ := List.mem_map.1 isOwn
        rw [Stmt.declaredType?_map] at declares
        obtain ⟨extent, isExtent, rfl⟩ := Option.map_eq_some_iff.1 declares
        exact ⟨_, List.mem_cons_self, extent, StatementGrammar.allStandAlone_of_wholeStatement? isFound
          (by simpa using plain) written isWritten inside isInside extent isExtent, rfl⟩
      · obtain ⟨group, isGroup, holds⟩ := inductionHypothesis readRest statement behind own isOwn type declares
        exact ⟨group, List.mem_cons_of_mem _ isGroup, holds⟩

end Module

end DifferenceTypes
