import DifferenceTypes.Proofs.Syntax.Positions
import DifferenceTypes.Proofs.Syntax.TakenStatements
import DifferenceTypes.Template.Definition

/-!
# Classes one below the other

A class statement takes the last lines of its group and its decorators take lines above it, each a
group of its own. So the classes of a module stand one below the other, each with its decorators
above it and below the class before (`ClassDefinition.AreBelow`).
-/

namespace DifferenceTypes

open DifferenceTypes.Parser Lexer

namespace Stmt

theorem class?_of_isSimple {statement : Stmt} (simple : statement.isSimple = true) :
    statement.class? = none := by
  cases statement <;> first | rfl | exact nomatch simple

theorem class?_of_holdsBlocks {statement : Stmt} (holds : statement.holdsBlocks = true) :
    statement.class? = none := by
  cases statement <;> first | rfl | exact nomatch holds

/-- A class has the span and the decorators of its statement. -/
theorem span_of_class? {statement : Stmt} {definition : ClassDefinition}
    (isClass : statement.class? = some definition) :
    definition.span = statement.span ∧ definition.decorators = statement.decorators := by
  cases statement with
  | classDefinition =>
    cases isClass
    exact ⟨rfl, rfl⟩
  | _ => exact nomatch isClass

theorem holdsBlocks_map {σ τ : Type} (change : σ → τ) (statement : Stmt σ) :
    (statement.map change).holdsBlocks = statement.holdsBlocks := by
  cases statement <;> rfl

end Stmt

namespace StatementGrammar

/-- What a group reads that starts with no decorator: simple statements, a statement with blocks that is
no class, or a class that takes all tokens. -/
theorem cases_of_wholeStatement? {kinds : List TokenKind} {found : List (Stmt Extent)}
    (read : wholeStatement? kinds = some found) (plain : kinds.head? ≠ some (.symbol .at)) :
    (∀ statement ∈ found, statement.isSimple = true) ∨
      ∃ statement, found = [statement] ∧
        (statement.holdsBlocks = true ∨ statement.span.stop = 0 ∧ statement.decorators = []) := by
  obtain ⟨inside, ran, rfl⟩ := exists_of_alone read
  rw [Stmt.mapAll_eq_map]
  cases isStatement_of_run_statement ran with
  | line ran starts =>
    refine .inl fun changed among => ?_
    obtain ⟨written, there, rfl⟩ := List.mem_map.1 among
    exact (written.isSimple_map _).trans ((exists_of_run_simpleLine ran).2 written there)
  | blocks statement only holds starts =>
    subst only
    exact .inr ⟨_, rfl, .inl ((statement.holdsBlocks_map _).trans holds)⟩
  | ofClass statement only isClass starts =>
    subst only
    obtain ⟨name, bases, keywords, body, front, left, -, -, rfl⟩ := exists_of_run_classDefinition _ _ isClass
    exact .inr ⟨_, rfl, .inr ⟨rfl, rfl⟩⟩
  | decorated statement only ran starts =>
    cases kinds with
    | nil => exact nomatch starts
    | cons head others => exact absurd (congrArg some starts) plain

end StatementGrammar

namespace ClassDefinition

/-- Each class stands below the line and the one before it, and below its own decorators. -/
def AreBelow : Nat → List ClassDefinition → Prop
  | _, [] => True
  | low, definition :: rest =>
    (∃ middle, (∀ decorator ∈ definition.decorators, decorator.span.IsWithin low middle) ∧
      low ≤ middle ∧ middle < definition.span.stop.line) ∧
    AreBelow definition.span.stop.line rest

theorem AreBelow.mono {low lower : Nat} {classes : List ClassDefinition} (areBelow : AreBelow low classes)
    (isLower : lower ≤ low) : AreBelow lower classes := by
  cases classes with
  | nil => exact trivial
  | cons definition rest =>
    obtain ⟨⟨middle, decorators, first, last⟩, behind⟩ := areBelow
    exact ⟨⟨middle, fun decorator among => (decorators decorator among).mono isLower (Nat.le_refl _),
      isLower.trans first, last⟩, behind⟩

/-- Some of the classes stand below each other as all do. -/
theorem AreBelow.sublist {low : Nat} {classes some_ : List ClassDefinition} (areBelow : AreBelow low classes)
    (among : some_.Sublist classes) : AreBelow low some_ := by
  induction among generalizing low with
  | slnil => exact trivial
  | cons definition _ inductionHypothesis =>
    obtain ⟨⟨middle, -, first, last⟩, behind⟩ := areBelow
    exact inductionHypothesis (behind.mono (first.trans last.le))
  | cons_cons definition _ inductionHypothesis =>
    exact ⟨areBelow.1, inductionHypothesis areBelow.2⟩

end ClassDefinition

namespace Module

/-- Groups of tokens one below the other, each of which ends where a token of its own does. -/
inductive AreStacked : Nat → List (List TokenKind × (Extent → Span)) → Prop
  | nil {low : Nat} : AreStacked low []
  | cons {low first last : Nat} {kinds : List TokenKind} {span : Extent → Span}
      {groups : List (List TokenKind × (Extent → Span))} (above : low ≤ first)
      (within : ∀ extent, (span extent).IsWithin first last)
      (ends : ∀ extent, extent.stop = 0 → first < (span extent).stop.line)
      (behind : AreStacked last groups) : AreStacked low ((kinds, span) :: groups)

/-- What is no class is none with decorators. -/
theorem filterMap_class?_of_decorate? {decorators : List Expr} {statements decorated : List Stmt}
    (decorates : decorate? decorators statements = some decorated)
    (none : ∀ statement ∈ statements, statement.class? = none) : decorated.filterMap Stmt.class? = [] := by
  unfold decorate? at decorates
  split at decorates
  · cases decorates
    exact List.filterMap_eq_nil_iff.2 none
  · split at decorates
    · next definition =>
      obtain ⟨result, given, rfl⟩ := Option.map_eq_some_iff.1 decorates
      have isNone := none definition List.mem_cons_self
      cases definition with
      | function =>
        cases given
        rfl
      | classDefinition => exact nomatch isNone
      | _ => exact nomatch given
    · exact nomatch decorates

/-- A statement without decorators gets those that are given to it. -/
theorem eq_singleton_of_decorate? {decorators : List Expr} {statement : Stmt} {decorated : List Stmt}
    (decorates : decorate? decorators [statement] = some decorated) (bare : statement.decorators = []) :
    ∃ made, decorated = [made] ∧ made.span = statement.span ∧ made.decorators = decorators := by
  unfold decorate? at decorates
  split at decorates
  · next empty =>
    cases decorates
    exact ⟨statement, rfl, rfl, bare.trans (List.isEmpty_iff.1 empty).symm⟩
  · obtain ⟨result, given, rfl⟩ := Option.map_eq_some_iff.1 decorates
    cases statement with
    | function | classDefinition =>
      cases given
      exact ⟨_, rfl, rfl, rfl⟩
    | _ => exact nomatch given

/-- The classes of stacked groups stand below each other. -/
theorem areBelow_of_ofGroups? {low start : Nat} {decorators : List Expr}
    {groups : List (List TokenKind × (Extent → Span))} {statements : List Stmt}
    (read : ofGroups? decorators groups = some statements) (stacked : AreStacked start groups)
    (lower : low ≤ start) (pending : ∀ decorator ∈ decorators, decorator.span.IsWithin low start) :
    ClassDefinition.AreBelow low (statements.filterMap Stmt.class?) := by
  induction stacked generalizing low decorators statements with
  | nil =>
    unfold ofGroups? at read
    split at read
    · cases read
      exact trivial
    · cases read
  | @cons start first last kinds span groups above within ends behind inductionHypothesis =>
    have reaches : first ≤ last := by
      have inside := ends ⟨0, 0⟩ rfl
      have bound := (within ⟨0, 0⟩).bound
      omega
    rw [ofGroups?] at read
    split at read
    · obtain ⟨found, -, read⟩ := Option.bind_eq_some_iff.1 read
      refine inductionHypothesis read (by omega) fun decorator among => ?_
      rcases List.mem_append.1 among with before | same
      · exact (pending decorator before).mono (Nat.le_refl _) (by omega)
      · cases List.mem_singleton.1 same
        rw [Expr.span_map]
        exact (within _).mono (by omega) (Nat.le_refl _)
    · next plain =>
      obtain ⟨found, isFound, read⟩ := Option.bind_eq_some_iff.1 read
      obtain ⟨decorated, decorates, read⟩ := Option.bind_eq_some_iff.1 read
      obtain ⟨others, readRest, same⟩ := Option.bind_eq_some_iff.1 read
      cases same
      have rest : ClassDefinition.AreBelow last (others.filterMap Stmt.class?) :=
        inductionHypothesis readRest (Nat.le_refl _) (List.forall_mem_nil _)
      have without (none : decorated.filterMap Stmt.class? = []) :
          ClassDefinition.AreBelow low ((decorated ++ others).filterMap Stmt.class?) := by
        rw [List.filterMap_append, none, List.nil_append]
        exact rest.mono (by omega)
      rw [Stmt.mapAll_eq_map] at decorates
      rcases StatementGrammar.cases_of_wholeStatement? isFound (by simpa using plain) with
        simple | ⟨statement, rfl, holds | ⟨stop, bare⟩⟩
      · refine without (filterMap_class?_of_decorate? decorates fun made among => ?_)
        obtain ⟨written, there, rfl⟩ := List.mem_map.1 among
        exact Stmt.class?_of_isSimple ((written.isSimple_map _).trans (simple written there))
      · refine without (filterMap_class?_of_decorate? decorates fun made among => ?_)
        cases List.mem_singleton.1 among
        exact Stmt.class?_of_holdsBlocks ((statement.holdsBlocks_map _).trans holds)
      · obtain ⟨made, rfl, sameSpan, given⟩ := eq_singleton_of_decorate? decorates
          (by rw [Stmt.decorators_map, bare]; rfl)
        cases isClass : made.class? with
        | none => exact without (by simp [isClass])
        | some definition =>
          obtain ⟨own, theirs⟩ := Stmt.span_of_class? isClass
          rw [List.filterMap_append, List.filterMap_cons, isClass]
          rw [Stmt.span_map] at sameSpan
          have reached := ends _ stop
          have bound := (within statement.span).bound
          rw [← sameSpan, ← own] at reached bound
          refine ⟨⟨first, fun decorator among => ?_, by omega, reached⟩, rest.mono bound⟩
          rw [theirs, given] at among
          exact (pending decorator among).mono (Nat.le_refl _) above

end Module

/-! ### Groups of lines -/

/-- Tokens that are read stand for text. -/
theorem Lexer.isVisible_of_visible? {characters after : List Char} {kind : TokenKind}
    (found : visible? characters = some (kind, after)) : kind.isVisible = true := by
  unfold visible? at found
  split at found
  · exact nomatch found
  · split at found
    · obtain ⟨_, -, same⟩ := Option.map_eq_some_iff.1 found
      cases same
      rfl
    · split at found
      · obtain ⟨_, named, same⟩ := Option.map_eq_some_iff.1 found
        cases same
        unfold nameKind? at named
        split at named
        · cases named
          rfl
        · split at named
          · cases named
            rfl
          · exact nomatch named
      · split at found
        · obtain ⟨_, -, found⟩ := Option.bind_eq_some_iff.1 found
          dsimp only at found
          split at found
          · exact nomatch found
          · cases found
            rfl
        · obtain ⟨_, -, same⟩ := Option.map_eq_some_iff.1 found
          cases same
          rfl

theorem Lexer.Scans.isVisible {brackets : List Symbol} {text : List Char} {pieces : List Piece}
    (scans : Scans brackets text pieces) (position : Position) :
    ∀ token ∈ locate position pieces, token.kind.isVisible = true := by
  induction pieces generalizing brackets text position with
  | nil => exact nofun
  | cons piece rest inductionHypothesis =>
    obtain ⟨inner, behind, rfl, -, read, -, later⟩ := scans.cons
    intro token member
    rcases List.mem_cons.1 member with rfl | member
    · exact isVisible_of_visible? (read [])
    · exact inductionHypothesis later _ token member

theorem Lexer.Writes.isVisible {text : List Char} {line : Line} (writes : Writes text line) :
    ∀ token ∈ line.tokens, token.kind.isVisible = true := by
  cases writes with
  | code indents scans starts => exact scans.isVisible _
  | blank => exact nofun
  | continuation => exact nofun

/-- The tokens of lines are visible and end on lines from one on. -/
def Lexer.AreVisible (lines : List Line) : Prop :=
  ∀ line ∈ lines, ∀ token ∈ line.tokens, token.kind.isVisible = true ∧ 1 ≤ token.span.stop.line

theorem Lexer.areVisible_of_lines? {characters : List Char} {lines : List Line}
    (read : lines? characters = some lines) : AreVisible lines := by
  intro line among token own
  obtain ⟨text, writes⟩ := exists_writes_of_mem read among
  obtain ⟨first, last, -⟩ := writes.line_le token own
  exact ⟨writes.isVisible token own, first.trans last⟩

namespace Layout

/-- Placed lines in two parts are lines in two parts. -/
theorem exists_of_place_append {above : Nat} {lines front behind : List Line}
    (split : place above lines = front ++ behind) :
    ∃ first later, lines = first ++ later ∧ place above first = front ∧
      place (above + height first) later = behind := by
  induction front generalizing above lines with
  | nil => exact ⟨[], lines, rfl, rfl, split⟩
  | cons head front inductionHypothesis =>
    cases lines with
    | nil => exact nomatch split
    | cons line rest =>
      obtain ⟨rfl, same⟩ := List.cons.inj split
      obtain ⟨first, later, rfl, rfl, rfl⟩ := inductionHypothesis same
      refine ⟨line :: first, later, rfl, rfl, ?_⟩
      rw [height_cons, Nat.add_assoc]

/-- Tokens of placed lines are visible and end below what stands above. -/
theorem lt_of_mem_place {above : Nat} {lines : List Line} (areVisible : Lexer.AreVisible lines) :
    ∀ line ∈ place above lines, ∀ token ∈ line.tokens,
      token.kind.isVisible = true ∧ above < token.span.stop.line := by
  induction lines generalizing above with
  | nil => exact nofun
  | cons line rest inductionHypothesis =>
    intro placed among token there
    rcases List.mem_cons.1 among with rfl | behind
    · obtain ⟨written, isToken, rfl⟩ := List.mem_map.1 there
      obtain ⟨isVisible, last⟩ := areVisible line List.mem_cons_self written isToken
      refine ⟨isVisible, ?_⟩
      simp only [Token.moveDown, Span.moveDown, Position.moveDown]
      omega
    · have others : Lexer.AreVisible rest := fun line among => areVisible line (List.mem_cons_of_mem _ among)
      obtain ⟨isVisible, below⟩ := inductionHypothesis others placed behind token there
      exact ⟨isVisible, by omega⟩

theorem mem_tokens? {blocks : List Indentation} {lines : List Line} {tokens : List Token}
    (laid : tokens? blocks lines = some tokens) {line : Line} (among : line ∈ lines) :
    ∀ token ∈ line.tokens, token ∈ tokens := by
  induction lines generalizing blocks tokens with
  | nil => exact nomatch among
  | cons first rest inductionHypothesis =>
    obtain ⟨⟨kinds, opened⟩, -, laid⟩ := Option.bind_eq_some_iff.1 laid
    obtain ⟨others, laidOthers, same⟩ := Option.bind_eq_some_iff.1 laid
    cases same
    intro token own
    rcases List.mem_cons.1 among with rfl | behind
    · simp [own]
    · simp [inductionHypothesis laidOthers behind token own]

theorem isVisible_of_mem_openBlocks {indentation : Indentation} {blocks opened : List Indentation}
    {kinds : List TokenKind} (opens : openBlocks indentation blocks = some (kinds, opened)) :
    ∀ kind ∈ kinds, kind.isVisible = false := by
  unfold openBlocks at opens
  dsimp only at opens
  split at opens
  · split at opens
    · exact nomatch opens
    · cases opens
      intro kind among
      cases List.mem_singleton.1 among
      rfl
  · obtain ⟨_, -, same⟩ := Option.map_eq_some_iff.1 opens
    cases same
    intro kind among
    rw [List.eq_of_mem_replicate among]
    rfl

/-- What layout adds to the tokens of lines is not visible. -/
theorem mem_of_isVisible {blocks : List Indentation} {lines : List Line} {tokens : List Token}
    (laid : tokens? blocks lines = some tokens) {token : Token} (among : token ∈ tokens)
    (isVisible : token.kind.isVisible = true) : ∃ line ∈ lines, token ∈ line.tokens := by
  induction lines generalizing blocks tokens with
  | nil =>
    cases laid
    rw [List.eq_of_mem_replicate among] at isVisible
    exact nomatch isVisible
  | cons line rest inductionHypothesis =>
    obtain ⟨⟨kinds, opened⟩, opens, laid⟩ := Option.bind_eq_some_iff.1 laid
    obtain ⟨others, laidOthers, same⟩ := Option.bind_eq_some_iff.1 laid
    cases same
    rcases List.mem_append.1 among with before | behind
    · rcases List.mem_append.1 before with layout | own
      · obtain ⟨kind, isKind, rfl⟩ := List.mem_map.1 layout
        exact nomatch (isVisible_of_mem_openBlocks opens kind isKind).symm.trans isVisible
      · exact ⟨line, List.mem_cons_self, own⟩
    · rcases List.mem_cons.1 behind with rfl | later
      · exact nomatch isVisible
      · obtain ⟨other, below, there⟩ := inductionHypothesis laidOthers later
        exact ⟨other, List.mem_cons_of_mem _ below, there⟩

/-- A span up to the end of a group ends with a token of the group. -/
theorem lt_stop_of_tokens? {above : Nat} {lines : List Line} {tokens : List Token}
    (laid : tokens? [] lines = some tokens) (nonempty : lines ≠ [])
    (visible : ∀ line ∈ lines, line.isBlank = false)
    (below : ∀ line ∈ lines, ∀ token ∈ line.tokens, token.kind.isVisible = true ∧ above < token.span.stop.line)
    {extent : Extent} (ends : extent.stop = 0) : above < (extent.toSpan tokens).stop.line := by
  obtain ⟨line, isLine⟩ := List.exists_mem_of_ne_nil _ nonempty
  have some_ : line.tokens ≠ [] := by simpa [Line.isBlank] using visible line isLine
  obtain ⟨token, own⟩ := List.exists_mem_of_ne_nil _ some_
  have there := mem_tokens? laid isLine token own
  unfold Extent.toSpan
  dsimp only
  rw [ends, Nat.sub_zero, List.take_length]
  cases found : tokens.reverse.find? (·.kind.isVisible) with
  | none =>
    have hidden := List.find?_eq_none.1 found token (List.mem_reverse.2 there)
    exact absurd (below line isLine token own).1 hidden
  | some last =>
    have seen : last.kind.isVisible = true := by simpa using List.find?_some found
    obtain ⟨other, isOther, isOwn⟩ := mem_of_isVisible laid
      (List.mem_reverse.1 (List.mem_of_find?_eq_some found)) seen
    exact (below other isOther last isOwn).2

theorem ne_nil_of_mem_groups {lines group : List Line} (among : group ∈ groups lines) : group ≠ [] := by
  induction lines generalizing group with
  | nil => exact nomatch among
  | cons line rest inductionHypothesis =>
    unfold groups at among
    split at among
    · split at among
      · rcases List.mem_cons.1 among with rfl | behind
        · exact List.cons_ne_nil _ _
        · next split _ => exact inductionHypothesis (split ▸ List.mem_cons_of_mem _ behind)
      · rcases List.mem_cons.1 among with rfl | behind
        · exact List.cons_ne_nil _ _
        · next split _ => exact inductionHypothesis (split ▸ behind)
    · rcases List.mem_cons.1 among with rfl | behind
      · exact List.cons_ne_nil _ _
      · exact inductionHypothesis behind

end Layout

namespace Module

open Layout in
/-- Groups of placed lines are stacked. -/
theorem areStacked {above : Nat} {lines : List Line} {groups : List (List Line)}
    {tokens : List (List Token)} (grouped : groups.flatten = visible above lines)
    (nonempty : ∀ group ∈ groups, group ≠ []) (laid : groups.mapM (tokens? []) = some tokens)
    (numbered : AreNumbered lines) (areVisible : AreVisible lines) :
    AreStacked above (tokens.map fun found => (found.map (·.kind), Extent.toSpan found)) := by
  induction groups generalizing above lines tokens with
  | nil =>
    cases laid
    exact .nil
  | cons group groups inductionHypothesis =>
    rw [List.mapM_cons] at laid
    obtain ⟨first, laidFirst, laid⟩ := Option.bind_eq_some_iff.1 laid
    obtain ⟨others, laidOthers, same⟩ := Option.bind_eq_some_iff.1 laid
    cases same
    rw [List.flatten_cons] at grouped
    obtain ⟨front, behind, split, isFront, isBehind⟩ := List.filter_eq_append_iff.1 grouped.symm
    obtain ⟨own, later, rfl, rfl, rfl⟩ := exists_of_place_append split
    have placed : ∀ line ∈ group, line ∈ place above own ∧ line.isBlank = false := by
      intro line among
      rw [← isFront] at among
      obtain ⟨there, isVisible⟩ := List.mem_filter.1 among
      exact ⟨there, by simpa using isVisible⟩
    refine .cons (Nat.le_refl _) (fun extent => ?_) (fun extent ends => ?_)
      (inductionHypothesis isBehind.symm (fun group among => nonempty group (List.mem_cons_of_mem _ among))
        laidOthers (fun line among => numbered line (List.mem_append_right _ among))
        (fun line among => areVisible line (List.mem_append_right _ among)))
    · refine Extent.isWithin_toSpan (fun token isToken => ?_) extent
      rcases mem_of_tokens? laidFirst token isToken with none | ⟨line, isLine, isOwn⟩
      · rw [none]
        exact ⟨.inl rfl, .inl rfl, Nat.zero_le _, Nat.zero_le _⟩
      · exact line_of_mem_place (fun line among => numbered line (List.mem_append_left _ among)) line
          (placed line isLine).1 token isOwn
    · refine lt_stop_of_tokens? laidFirst (nonempty group List.mem_cons_self) (fun line among =>
        (placed line among).2) (fun line among => ?_) ends
      exact lt_of_mem_place (fun line among => areVisible line (List.mem_append_left _ among)) line
        (placed line among).1

/-- The classes of a module stand below each other. -/
theorem areBelow_of_parse? {source : List Char} {module : Module} (parsed : parse? source = some module) :
    ClassDefinition.AreBelow 0 (module.filterMap Stmt.class?) := by
  obtain ⟨lines, isSource, parsed⟩ := Option.bind_eq_some_iff.1 parsed
  obtain ⟨tokens, laid, read⟩ := Option.bind_eq_some_iff.1 parsed
  exact areBelow_of_ofGroups? read (areStacked (Layout.flatten_groups _)
    (fun group among => Layout.ne_nil_of_mem_groups among) laid (areNumbered_of_lines? isSource)
    (areVisible_of_lines? isSource)) (Nat.le_refl _) nofun

end Module

end DifferenceTypes
