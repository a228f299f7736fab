import DifferenceTypes.Proofs.Syntax.Lines
import DifferenceTypes.Proofs.Syntax.SimpleStatements

/-!
# What lines say

What the statements of a module say is settled by what its lines say: by their indentation and the
tokens on them. Lines fall into groups, and groups are read one behind the other, so lines in front of a
group of their own are read alone.
-/

namespace DifferenceTypes

open Lexer (LineContent contentOf contentsOf)

/-! ### Groups of lines -/

namespace Lexer.LineContent

/-- Whether a line goes on with the group before it. -/
def joins (line : LineContent) : Bool :=
  line.indentation.columns > 0 || line.kinds.head?.any Layout.continues

/-- Lines in groups. -/
def groups : List LineContent → List (List LineContent)
  | [] => []
  | line :: rest =>
    match groups rest with
    | (next :: others) :: later =>
      if joins next then (line :: next :: others) :: later
      else [line] :: (next :: others) :: later
    | later => [line] :: later

/-- The tokens of lines with their layout, given the blocks that are open. -/
def kinds? : List Indentation → List LineContent → Option (List TokenKind)
  | blocks, [] => some (List.replicate blocks.length .dedent)
  | blocks, line :: rest => do
    let (layout, opened) ← Layout.openBlocks line.indentation blocks
    let others ← kinds? opened rest
    return layout ++ line.kinds ++ .newline :: others

/-- What lines say as the statements of a module. -/
def statements? (lines : List LineContent) : Option (List (Stmt Unit)) := do
  let kinds ← (groups lines).mapM (kinds? [])
  Module.ofGroups? [] (kinds.map fun group => (group, fun _ => ()))

theorem joins_contentOf (line : Line) : (contentOf line).joins = Layout.joins line := by
  unfold joins Layout.joins contentOf
  cases line.tokens <;> rfl

theorem groups_map_contentOf (lines : List Line) :
    groups (lines.map contentOf) = (Layout.groups lines).map (·.map contentOf) := by
  induction lines with
  | nil => rfl
  | cons line rest inductionHypothesis =>
    rw [List.map_cons, groups, Layout.groups, inductionHypothesis]
    cases split : Layout.groups rest with
    | nil => rfl
    | cons group later =>
      cases group with
      | nil => rfl
      | cons next others =>
        simp only [List.map_cons, joins_contentOf]
        split <;> rfl

theorem kinds?_map_contentOf (blocks : List Indentation) (lines : List Line) :
    kinds? blocks (lines.map contentOf) = (Layout.tokens? blocks lines).map (·.map (·.kind)) := by
  induction lines generalizing blocks with
  | nil => simp [kinds?, Layout.tokens?, Layout.layoutToken]
  | cons line rest inductionHypothesis =>
    rw [List.map_cons, kinds?, Layout.tokens?]
    cases opened : Layout.openBlocks line.indentation blocks with
    | none => simp [contentOf, opened]
    | some found =>
      simp only [contentOf, opened, Option.bind_eq_bind, Option.bind_some, inductionHypothesis]
      cases Layout.tokens? found.2 rest with
      | none => rfl
      | some others => simp [Layout.layoutToken, Function.comp_def]

end Lexer.LineContent

/-! ### Spans do not matter -/

namespace Module

variable {σ τ : Type}

theorem decorate?_map (change : σ → τ) (decorators : List (Expr σ)) (statements : List (Stmt σ)) :
    decorate? (Expr.mapAll change decorators) (Stmt.mapAll change statements) =
      (decorate? decorators statements).map (Stmt.mapAll change) := by
  have empty : (Expr.mapAll change decorators).isEmpty = decorators.isEmpty := by
    cases decorators <;> rfl
  unfold decorate?
  rw [empty]
  split
  · rfl
  · match statements with
    | [] => rfl
    | [definition] => cases definition <;> rfl
    | _ :: _ :: _ => rfl

/-- What groups of tokens say does not depend on what extents stand for. -/
theorem ofGroups?_map (change : σ → τ) (decorators : List (Expr σ))
    (groups : List (List TokenKind × (Extent → σ))) :
    ofGroups? (Expr.mapAll change decorators) (groups.map fun group => (group.1, change ∘ group.2)) =
      (ofGroups? decorators groups).map (Stmt.mapAll change) := by
  induction groups generalizing decorators with
  | nil => cases decorators <;> rfl
  | cons group rest inductionHypothesis =>
    obtain ⟨kinds, span⟩ := group
    rw [List.map_cons, ofGroups?, ofGroups?]
    split
    · cases StatementGrammar.wholeDecorator? kinds with
      | none => rfl
      | some found =>
        have mapped : Expr.mapAll change decorators ++ [found.map (change ∘ span)] =
            Expr.mapAll change (decorators ++ [found.map span]) := by
          rw [Expr.mapAll_eq_map, Expr.mapAll_eq_map, List.map_append, List.map_singleton,
            Expr.map_map]
        simp only [Option.bind_eq_bind, Option.bind_some]
        rw [mapped]
        exact inductionHypothesis _
    · cases StatementGrammar.wholeStatement? kinds with
      | none => rfl
      | some found =>
        simp only [Option.bind_eq_bind, Option.bind_some]
        rw [← Stmt.mapAll_mapAll span change, decorate?_map]
        cases decorate? decorators (Stmt.mapAll span found) with
        | none => rfl
        | some statements =>
          have others := inductionHypothesis []
          rw [Expr.mapAll] at others
          rw [Option.map_some, Option.bind_some, others]
          cases ofGroups? [] rest with
          | none => rfl
          | some later => simp [Stmt.mapAll_eq_map]

/-- Groups are read one behind the other, if no decorators are left over. -/
theorem ofGroups?_append {decorators : List (Expr σ)} {front : List (List TokenKind × (Extent → σ))}
    {statements : List (Stmt σ)} (read : ofGroups? decorators front = some statements)
    (behind : List (List TokenKind × (Extent → σ))) :
    ofGroups? decorators (front ++ behind) = (ofGroups? [] behind).map (statements ++ ·) := by
  induction front generalizing decorators statements with
  | nil =>
    unfold ofGroups? at read
    split at read
    · next empty =>
      cases read
      rw [List.isEmpty_iff.1 empty]
      simp
    · exact nomatch read
  | cons group rest inductionHypothesis =>
    obtain ⟨kinds, span⟩ := group
    rw [List.cons_append, ofGroups?]
    rw [ofGroups?] at read
    split at read
    · next decorator =>
      rw [if_pos decorator]
      obtain ⟨found, isDecorator, read⟩ := Option.bind_eq_some_iff.1 read
      rw [isDecorator]
      exact inductionHypothesis read
    · next other =>
      rw [if_neg other]
      obtain ⟨found, isStatement, read⟩ := Option.bind_eq_some_iff.1 read
      obtain ⟨decorated, decorates, read⟩ := Option.bind_eq_some_iff.1 read
      obtain ⟨others, later, read⟩ := Option.bind_eq_some_iff.1 read
      cases read
      rw [isStatement]
      simp only [Option.bind_eq_bind, Option.bind_some, decorates, inductionHypothesis later]
      cases ofGroups? [] behind <;> simp

/-- A group that is no decorator is read as statements. -/
theorem exists_wholeStatement?_of_ofGroups? {decorators : List (Expr σ)}
    {front behind : List (List TokenKind × (Extent → σ))} {group : List TokenKind × (Extent → σ)}
    {statements : List (Stmt σ)} (isStatement : (group.1.head? == some (.symbol .at)) = false)
    (read : ofGroups? decorators (front ++ group :: behind) = some statements) :
    ∃ found, StatementGrammar.wholeStatement? group.1 = some found := by
  induction front generalizing decorators statements with
  | nil =>
    rw [List.nil_append, ofGroups?, isStatement] at read
    obtain ⟨found, isRead, -⟩ := Option.bind_eq_some_iff.1 read
    exact ⟨found, isRead⟩
  | cons first rest inductionHypothesis =>
    rw [List.cons_append, ofGroups?] at read
    split at read
    · obtain ⟨found, -, later⟩ := Option.bind_eq_some_iff.1 read
      exact inductionHypothesis later
    · obtain ⟨found, -, read⟩ := Option.bind_eq_some_iff.1 read
      obtain ⟨decorated, -, read⟩ := Option.bind_eq_some_iff.1 read
      obtain ⟨others, later, -⟩ := Option.bind_eq_some_iff.1 read
      exact inductionHypothesis later

/-- Only a statement that holds blocks is decorated. -/
theorem isSimple_of_decorate? {decorators : List (Expr σ)} {statements decorated : List (Stmt σ)}
    (decorates : decorate? decorators statements = some decorated) {statement : Stmt σ}
    (among : statement ∈ decorated) (simple : statement.isSimple = true) :
    decorators = [] ∧ decorated = statements := by
  unfold decorate? at decorates
  split at decorates
  · next empty =>
    cases decorates
    exact ⟨List.isEmpty_iff.1 empty, rfl⟩
  · split at decorates
    · next definition =>
      obtain ⟨result, same, rfl⟩ := Option.map_eq_some_iff.1 decorates
      rw [List.mem_singleton.1 among] at simple
      cases definition with
      | function | classDefinition =>
        cases same
        exact nomatch simple
      | _ => exact nomatch same
    · exact nomatch decorates

/-- A group of one line that holds simple statements, among them a given one. -/
structure IsLineOf (group : List TokenKind × (Extent → σ)) (found : List (Stmt Extent)) : Prop where
  read : StatementGrammar.wholeStatement? group.1 = some found
  isStatement : (group.1.head? == some (.symbol .at)) = false
  single : ∃ piece, group.1 = piece ++ [.newline] ∧ TokenKind.newline ∉ piece
  simple : ∀ statement ∈ found, statement.isSimple = true

/-- A simple statement of a module comes from a line: the groups before it, this line, and the groups
behind it are read on their own. -/
theorem exists_line_of_simple {decorators : List (Expr σ)}
    {groups : List (List TokenKind × (Extent → σ))} {early later : List (Stmt σ)} {statement : Stmt σ}
    (simple : statement.isSimple = true)
    (read : ofGroups? decorators groups = some (early ++ statement :: later)) :
    ∃ before group after found rest, groups = before ++ group :: after ∧ IsLineOf group found ∧
      ofGroups? [] after = some rest ∧
      ∃ first others, early = first ++ others ∧ ofGroups? decorators before = some first ∧
        ∃ behind, Stmt.mapAll group.2 found = others ++ statement :: behind ∧ later = behind ++ rest := by
  induction groups generalizing decorators early with
  | nil =>
    unfold ofGroups? at read
    split at read
    · simp at read
    · exact nomatch read
  | cons group rest inductionHypothesis =>
    obtain ⟨kinds, span⟩ := group
    rw [ofGroups?] at read
    split at read
    · next decorator =>
      obtain ⟨found, isDecorator, read⟩ := Option.bind_eq_some_iff.1 read
      obtain ⟨before, group, after, line, others, split, isLine, readAfter, first, more, rfl, readBefore,
        behind⟩ := inductionHypothesis read
      refine ⟨(kinds, span) :: before, group, after, line, others, by rw [split]; rfl, isLine, readAfter,
        first, more, rfl, ?_, behind⟩
      rw [ofGroups?, if_pos decorator, isDecorator]
      exact readBefore
    · next other =>
      obtain ⟨found, isStatement, read⟩ := Option.bind_eq_some_iff.1 read
      obtain ⟨decorated, decorates, read⟩ := Option.bind_eq_some_iff.1 read
      obtain ⟨others, readRest, read⟩ := Option.bind_eq_some_iff.1 read
      have split := Option.some.inj read
      have goesOn (middle : List (Stmt σ)) (before : early = decorated ++ middle)
          (behind : others = middle ++ statement :: later) :
          ∃ before group after found remaining, (kinds, span) :: rest = before ++ group :: after ∧
            IsLineOf group found ∧ ofGroups? [] after = some remaining ∧
            ∃ first others, early = first ++ others ∧ ofGroups? decorators before = some first ∧
              ∃ behind, Stmt.mapAll group.2 found = others ++ statement :: behind ∧
                later = behind ++ remaining := by
        rw [behind] at readRest
        obtain ⟨front, group, after, line, remaining, same, isLine, readAfter, first, more, middleSplit,
          readFront, behind⟩ := inductionHypothesis readRest
        refine ⟨(kinds, span) :: front, group, after, line, remaining, by rw [same]; rfl, isLine, readAfter,
          decorated ++ first, more, by rw [before, middleSplit, List.append_assoc], ?_, behind⟩
        rw [ofGroups?, if_neg other, isStatement]
        simp only [Option.bind_eq_bind, Option.bind_some, decorates, readFront]
        rfl
      rcases List.append_eq_append_iff.1 split with ⟨middle, before, behind⟩ | ⟨middle, inside, behind⟩
      · exact goesOn middle before behind
      · cases middle with
        | nil =>
          rw [List.append_nil] at inside
          exact goesOn [] (by rw [inside, List.append_nil]) behind.symm
        | cons first middle =>
          obtain ⟨rfl, rfl⟩ := List.cons.inj behind
          have among : statement ∈ decorated := by simp [inside]
          obtain ⟨rfl, rfl⟩ := isSimple_of_decorate? decorates among simple
          rw [Stmt.mapAll_eq_map] at among
          obtain ⟨written, there, rfl⟩ := List.mem_map.1 among
          rw [Stmt.isSimple_map] at simple
          cases StatementGrammar.isRead_of_wholeStatement? isStatement with
          | line single areSimple =>
            exact ⟨[], (kinds, span), rest, found, others, rfl,
              ⟨isStatement, by simpa using other, single, areSimple⟩, readRest, [], early, rfl, rfl,
              middle, inside, rfl⟩
          | blocks only same holds =>
            subst same
            rw [List.mem_singleton.1 there, holds] at simple
            exact nomatch simple

end Module

/-! ### Lines one behind the other -/

namespace Lexer.LineContent

/-- No line goes on with what stands before these lines. -/
def StartGroup (lines : List LineContent) : Prop :=
  ∀ line, lines.head? = some line → line.joins = false

theorem StartGroup.of_append {front behind : List LineContent}
    (starts : StartGroup (front ++ behind)) : StartGroup front := by
  intro line first
  refine starts line ?_
  rw [List.head?_append, first]
  rfl

theorem groups_singleton (line : LineContent) : groups [line] = [[line]] :=
  rfl

theorem flatten_groups (lines : List LineContent) : (groups lines).flatten = lines := by
  fun_induction groups lines <;> simp_all

theorem ne_nil_of_mem_groups {lines group : List LineContent} (among : group ∈ groups lines) :
    group ≠ [] := by
  induction lines generalizing group with
  | nil => exact nomatch among
  | cons line rest inductionHypothesis =>
    unfold groups at among
    split at among
    · next next others later split =>
      rw [split] at inductionHypothesis
      split at among
      · rcases List.mem_cons.1 among with rfl | behind
        · exact List.cons_ne_nil _ _
        · exact inductionHypothesis (List.mem_cons_of_mem _ behind)
      · rcases List.mem_cons.1 among with rfl | behind
        · exact List.cons_ne_nil _ _
        · exact inductionHypothesis behind
    · rcases List.mem_cons.1 among with rfl | behind
      · exact List.cons_ne_nil _ _
      · exact inductionHypothesis behind

/-- The first group starts with the first line. -/
theorem exists_groups_cons (line : LineContent) (rest : List LineContent) :
    ∃ others later, groups (line :: rest) = (line :: others) :: later := by
  unfold groups
  split
  · split
    · exact ⟨_, _, rfl⟩
    · exact ⟨_, _, rfl⟩
  · exact ⟨_, _, rfl⟩

/-- Lines that start a group leave the groups before them as they are. -/
theorem groups_append {front behind : List LineContent} (starts : StartGroup behind) :
    groups (front ++ behind) = groups front ++ groups behind := by
  induction front with
  | nil => rfl
  | cons line rest inductionHypothesis =>
    cases rest with
    | nil =>
      cases behind with
      | nil => rfl
      | cons next others =>
        obtain ⟨group, later, split⟩ := exists_groups_cons next others
        have apart : ¬next.joins = true := by simp [starts next rfl]
        rw [List.singleton_append, groups, split, groups_singleton]
        exact if_neg apart
    | cons next others =>
      obtain ⟨group, later, split⟩ := exists_groups_cons next others
      rw [split] at inductionHypothesis
      rw [List.cons_append, groups, inductionHypothesis, groups, split]
      simp only [List.cons_append]
      split <;> rfl

/-- Some of the groups at the start, and the others, are the groups of their own lines. -/
theorem groups_eq_append {lines : List LineContent} {first later : List (List LineContent)}
    (split : groups lines = first ++ later) :
    groups first.flatten = first ∧ groups later.flatten = later ∧
      (first ≠ [] → StartGroup later.flatten) := by
  induction lines generalizing first later with
  | nil =>
    obtain ⟨rfl, rfl⟩ := List.append_eq_nil_iff.1 split.symm
    exact ⟨rfl, rfl, fun nonempty => absurd rfl nonempty⟩
  | cons line rest inductionHypothesis =>
    cases first with
    | nil =>
      rw [List.nil_append] at split
      rw [← split, flatten_groups]
      exact ⟨rfl, rfl, fun nonempty => absurd rfl nonempty⟩
    | cons group others =>
      cases rest with
      | nil =>
        obtain ⟨rfl, none⟩ := List.cons.inj split
        obtain ⟨rfl, rfl⟩ := List.append_eq_nil_iff.1 none.symm
        exact ⟨rfl, rfl, fun _ => nofun⟩
      | cons next behind =>
        obtain ⟨inside, remaining, opened⟩ := exists_groups_cons next behind
        rw [groups, opened] at split
        rw [opened] at inductionHypothesis
        cases joins : next.joins with
        | true =>
          simp only [joins, if_true] at split
          obtain ⟨rfl, rfl⟩ := List.cons.inj split
          have same : (next :: inside) :: (others ++ later) = ((next :: inside) :: others) ++ later := rfl
          obtain ⟨here, there, apart⟩ := inductionHypothesis same
          refine ⟨?_, there, fun _ => apart (List.cons_ne_nil _ _)⟩
          rw [List.flatten_cons, List.cons_append, List.flatten_cons.symm, groups, here]
          simp [joins]
        | false =>
          simp only [joins, Bool.false_eq_true, if_false] at split
          obtain ⟨rfl, same⟩ := List.cons.inj split
          obtain ⟨here, there, apart⟩ := inductionHypothesis same
          refine ⟨?_, there, fun _ => ?_⟩
          · cases others with
            | nil => rfl
            | cons group others =>
              obtain ⟨rfl, -⟩ := List.cons.inj same
              rw [List.flatten_cons, List.singleton_append, groups, here]
              simp [joins]
          · cases others with
            | nil =>
              obtain rfl : (next :: inside) :: remaining = later := same
              intro head first
              cases first
              exact joins
            | cons => exact apart (List.cons_ne_nil _ _)

/-! ### Tokens of lines -/

/-- Every line ends. -/
theorem length_le_count_newline {blocks : List Indentation} {lines : List LineContent}
    {kinds : List TokenKind} (laid : kinds? blocks lines = some kinds) :
    lines.length ≤ kinds.count .newline := by
  induction lines generalizing blocks kinds with
  | nil => exact Nat.zero_le _
  | cons line rest inductionHypothesis =>
    obtain ⟨⟨layout, opened⟩, -, laid⟩ := Option.bind_eq_some_iff.1 laid
    obtain ⟨others, laidOthers, same⟩ := Option.bind_eq_some_iff.1 laid
    cases same
    have more := inductionHypothesis laidOthers
    rw [List.length_cons, List.count_append, List.count_cons_self]
    omega

/-- A line without indentation is laid out as it is. -/
theorem kinds?_of_flush {line : LineContent} (flush : line.indentation = ⟨0, 0⟩)
    (rest : List LineContent) :
    kinds? [] (line :: rest) = (kinds? [] rest).map (line.kinds ++ .newline :: ·) := by
  rw [kinds?, flush]
  cases laid : kinds? [] rest with
  | none => simp [Layout.openBlocks, Layout.closeBlocks, laid]
  | some others => simp [Layout.openBlocks, Layout.closeBlocks, laid]

/-- Lines that are laid out as one line are one, without indentation. -/
theorem exists_eq_singleton_of_kinds? {lines : List LineContent} {piece : List TokenKind}
    (laid : kinds? [] lines = some (piece ++ [.newline])) (single : TokenKind.newline ∉ piece) :
    ∃ line, lines = [line] ∧ line.indentation = ⟨0, 0⟩ ∧ line.kinds = piece := by
  have count := length_le_count_newline laid
  rw [List.count_append, List.count_eq_zero_of_not_mem single, List.count_cons_self] at count
  match lines, count with
  | [], _ =>
    have none : piece ++ [TokenKind.newline] = [] := (Option.some.inj laid).symm
    simp at none
  | [line], _ =>
    obtain ⟨⟨layout, opened⟩, opens, laid⟩ := Option.bind_eq_some_iff.1 laid
    obtain ⟨others, closes, same⟩ := Option.bind_eq_some_iff.1 laid
    have split := Option.some.inj same
    have closed := (Option.some.inj closes).symm
    cases opened with
    | cons block outer =>
      have last := congrArg List.getLast? split
      rw [closed, List.getLast?_append, List.getLast?_cons, List.getLast?_replicate] at last
      simp at last
    | nil =>
      subst closed
      have same := (List.append_inj' split rfl).1
      unfold Layout.openBlocks at opens
      dsimp only at opens
      split at opens
      · split at opens
        · exact nomatch opens
        · cases opens
      · obtain ⟨⟨count, remaining⟩, closes, same⟩ := Option.map_eq_some_iff.1 opens
        unfold Layout.closeBlocks at closes
        split at closes
        · next flush =>
          cases closes
          cases same
          exact ⟨line, rfl, eq_of_beq flush, by assumption⟩
        · exact nomatch closes

/-! ### Statements of lines -/

/-- What lines say that start a group comes behind what the lines before them say. -/
theorem statements?_append {front behind : List LineContent} {statements : List (Stmt Unit)}
    (starts : StartGroup behind) (read : statements? front = some statements) :
    statements? (front ++ behind) = (statements? behind).map (statements ++ ·) := by
  obtain ⟨kinds, laid, read⟩ := Option.bind_eq_some_iff.1 read
  unfold statements?
  rw [groups_append starts, List.mapM_append, laid]
  simp only [Option.bind_eq_bind, Option.bind_some]
  cases (groups behind).mapM (kinds? []) with
  | none => rfl
  | some others =>
    simp only [Option.pure_def, Option.bind_some, List.map_append]
    exact Module.ofGroups?_append read _

/-- A line without indentation that is read as simple statements. -/
structure IsSimpleLine (line : LineContent) (found : List (Stmt Extent)) : Prop where
  flush : line.indentation = ⟨0, 0⟩
  read : StatementGrammar.wholeStatement? (line.kinds ++ [.newline]) = some found
  simple : ∀ statement ∈ found, statement.isSimple = true

theorem IsSimpleLine.startsBlocks {line : LineContent} {found : List (Stmt Extent)}
    (isSimple : IsSimpleLine line found) :
    StatementGrammar.startsBlocks ((line.kinds ++ [TokenKind.newline]).head?.getD .endOfText) = false := by
  cases StatementGrammar.isRead_of_wholeStatement? isSimple.read with
  | line _ _ starts => exact starts
  | blocks statement only holds =>
    subst only
    exact nomatch (isSimple.simple statement List.mem_cons_self).symm.trans holds

/-- It does not start a decorator. -/
theorem IsSimpleLine.isStatement {line : LineContent} {found : List (Stmt Extent)}
    (isSimple : IsSimpleLine line found) :
    ((line.kinds ++ [TokenKind.newline]).head? == some (.symbol .at)) = false := by
  have starts := isSimple.startsBlocks
  cases head : (line.kinds ++ [TokenKind.newline]).head? with
  | none => rfl
  | some kind =>
    rw [head] at starts
    rw [beq_eq_false_iff_ne]
    intro same
    cases same
    exact nomatch starts

/-- It says its statements. -/
theorem IsSimpleLine.statements?_singleton {line : LineContent} {found : List (Stmt Extent)}
    (isSimple : IsSimpleLine line found) : statements? [line] = some (Stmt.contents found) := by
  have other : ¬((line.kinds ++ [TokenKind.newline]).head? == some (.symbol .at)) = true :=
    ne_true_of_eq_false isSimple.isStatement
  have laid : kinds? [] [line] = some (line.kinds ++ [.newline]) := by
    rw [kinds?_of_flush isSimple.flush]
    rfl
  rw [statements?, groups_singleton, List.mapM_cons, laid]
  simp only [List.mapM_nil, Option.pure_def, Option.bind_eq_bind, Option.bind_some, List.map_cons, List.map_nil]
  rw [Module.ofGroups?, if_neg other, isSimple.read]
  simp [Module.decorate?, Module.ofGroups?, Stmt.contents]

/-- What is mapped in the middle comes from the middle. -/
theorem exists_of_mapM_eq_append {α β : Type} {function : α → Option β} {values : List α}
    {before after : List β} {found : β} (mapped : values.mapM function = some (before ++ found :: after)) :
    ∃ front value behind, values = front ++ value :: behind ∧ front.mapM function = some before ∧
      function value = some found ∧ behind.mapM function = some after := by
  induction before generalizing values with
  | nil =>
    cases values with
    | nil => exact nomatch mapped
    | cons value behind =>
      rw [List.mapM_cons] at mapped
      obtain ⟨first, here, mapped⟩ := Option.bind_eq_some_iff.1 mapped
      obtain ⟨others, later, same⟩ := Option.bind_eq_some_iff.1 mapped
      cases same
      exact ⟨[], value, behind, rfl, rfl, here, later⟩
  | cons head before inductionHypothesis =>
    cases values with
    | nil => exact nomatch mapped
    | cons value rest =>
      rw [List.mapM_cons] at mapped
      obtain ⟨first, here, mapped⟩ := Option.bind_eq_some_iff.1 mapped
      obtain ⟨others, later, same⟩ := Option.bind_eq_some_iff.1 mapped
      cases same
      obtain ⟨front, middle, behind, rfl, mappedFront, isFound, mappedBehind⟩ := inductionHypothesis later
      refine ⟨value :: front, middle, behind, rfl, ?_, isFound, mappedBehind⟩
      rw [List.mapM_cons, here, mappedFront]
      rfl

/-- Behind a line of simple statements a group starts. -/
theorem IsSimpleLine.startGroup {line : LineContent} {found : List (Stmt Extent)}
    (isSimple : IsSimpleLine line found) (unnamed : line.kinds.head? ≠ some (.name "match"))
    {front behind : List LineContent} (own : front ≠ [] → line.joins = false)
    {statements : List (Stmt Unit)} (read : statements? (front ++ line :: behind) = some statements) :
    StartGroup behind := by
  intro next first
  obtain ⟨others, rfl⟩ := List.head?_eq_some_iff.1 first
  obtain ⟨group, later, split⟩ := exists_groups_cons next others
  cases joins : next.joins with
  | false => rfl
  | true =>
    have inside : groups (front ++ line :: next :: others) =
        groups front ++ (line :: next :: group) :: later := by
      have here : groups (line :: next :: others) = (line :: next :: group) :: later := by
        rw [groups, split]
        exact if_pos joins
      cases front with
      | nil => exact here
      | cons =>
        have starts : StartGroup (line :: next :: others) := by
          intro head same
          cases same
          exact own (List.cons_ne_nil _ _)
        rw [groups_append starts, here]
    obtain ⟨kinds, laid, read⟩ := Option.bind_eq_some_iff.1 read
    rw [inside, List.mapM_append] at laid
    obtain ⟨before, -, laid⟩ := Option.bind_eq_some_iff.1 laid
    rw [List.mapM_cons] at laid
    obtain ⟨behind, laid, same⟩ := Option.bind_eq_some_iff.1 laid
    obtain ⟨together, laidGroup, laid⟩ := Option.bind_eq_some_iff.1 laid
    obtain ⟨after, -, rest⟩ := Option.bind_eq_some_iff.1 laid
    cases rest
    cases same
    rw [kinds?_of_flush isSimple.flush] at laidGroup
    obtain ⟨more, laidMore, goesOn⟩ := Option.map_eq_some_iff.1 laidGroup
    have nonempty : more ≠ [] := by
      rintro rfl
      exact absurd (length_le_count_newline laidMore) (by simp)
    have sameHead : (line.kinds ++ TokenKind.newline :: more).head? =
        (line.kinds ++ [TokenKind.newline]).head? := by
      cases line.kinds <;> rfl
    have isStatement : (together.head? == some (.symbol .at)) = false := by
      rw [← goesOn, sameHead]
      exact isSimple.isStatement
    rw [List.map_append, List.map_cons] at read
    obtain ⟨other, isRead⟩ := Module.exists_wholeStatement?_of_ofGroups? isStatement read
    dsimp only at isRead
    rw [← goesOn] at isRead
    exact absurd (StatementGrammar.isRead_of_wholeStatement? isRead)
      (StatementGrammar.not_isRead_append (StatementGrammar.isRead_of_wholeStatement? isSimple.read)
        isSimple.simple unnamed nonempty)

end Lexer.LineContent

end DifferenceTypes
