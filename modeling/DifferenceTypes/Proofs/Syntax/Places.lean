import DifferenceTypes.Proofs.Syntax.Groups

/-!
# Where statements stand

The statements of a module come from its lines. A simple statement comes from a line of its own or with
other simple ones; what stands before it comes from the lines above and from this line, and what stands
behind it comes from this line and from the lines below. So the spans of these statements tell the lines
above from those below.
-/

namespace DifferenceTypes

open Lexer (LineContent contentOf contentsOf)

variable {σ τ : Type}

/-! ### Spans of statements -/

namespace Stmt

/-- The decorators of a definition. -/
def decorators : Stmt σ → List (Expr σ)
  | .function _ _ _ _ _ decorators _ | .classDefinition _ _ _ _ _ decorators => decorators
  | _ => []

/-- The spans of a statement and of its decorators. -/
def spans (statement : Stmt σ) : List σ :=
  statement.span :: statement.decorators.map Expr.span

theorem decorators_map (change : σ → τ) (statement : Stmt σ) :
    (statement.map change).decorators = statement.decorators.map (Expr.map change) := by
  cases statement with
  | function | classDefinition => exact Expr.mapAll_eq_map change _
  | _ => rfl

theorem spans_map (change : σ → τ) (statement : Stmt σ) :
    (statement.map change).spans = statement.spans.map change := by
  rw [spans, spans, decorators_map, span_map, List.map_cons, List.map_map, List.map_map]
  congr 2
  funext decorator
  exact Expr.span_map change decorator

end Stmt

namespace Module

variable {valid : σ → Prop}

theorem spans_of_decorate? {decorators : List (Expr σ)} {statements decorated : List (Stmt σ)}
    (decorates : decorate? decorators statements = some decorated)
    (validDecorators : ∀ decorator ∈ decorators, valid decorator.span)
    (validStatements : ∀ statement ∈ statements, ∀ span ∈ statement.spans, valid span) :
    ∀ statement ∈ decorated, ∀ span ∈ statement.spans, valid span := by
  unfold decorate? at decorates
  split at decorates
  · cases decorates
    exact validStatements
  · split at decorates
    · next definition =>
      obtain ⟨result, same, rfl⟩ := Option.map_eq_some_iff.1 decorates
      intro statement among span there
      cases List.mem_singleton.1 among
      have own := validStatements definition List.mem_cons_self definition.span List.mem_cons_self
      cases definition with
      | function | classDefinition =>
        cases same
        rcases List.mem_cons.1 there with rfl | behind
        · exact own
        · obtain ⟨decorator, inside, rfl⟩ := List.mem_map.1 behind
          exact validDecorators decorator inside
      | _ => exact nomatch same
    · exact nomatch decorates

/-- Statements have the spans that their groups give to extents. -/
theorem spans_of_ofGroups? {decorators : List (Expr σ)} {groups : List (List TokenKind × (Extent → σ))}
    {statements : List (Stmt σ)} (read : ofGroups? decorators groups = some statements)
    (validDecorators : ∀ decorator ∈ decorators, valid decorator.span)
    (validGroups : ∀ group ∈ groups, ∀ extent, valid (group.2 extent)) :
    ∀ statement ∈ statements, ∀ span ∈ statement.spans, valid span := by
  induction groups generalizing decorators statements with
  | nil =>
    unfold ofGroups? at read
    split at read
    · cases read
      exact List.forall_mem_nil _
    · cases read
  | cons group rest inductionHypothesis =>
    obtain ⟨kinds, span⟩ := group
    have here := validGroups _ List.mem_cons_self
    have later := fun group among => validGroups group (List.mem_cons_of_mem _ among)
    rw [ofGroups?] at read
    split at read
    · obtain ⟨found, -, read⟩ := Option.bind_eq_some_iff.1 read
      refine inductionHypothesis read (fun decorator among => ?_) later
      rcases List.mem_append.1 among with before | same
      · exact validDecorators decorator before
      · cases List.mem_singleton.1 same
        rw [Expr.span_map]
        exact here _
    · obtain ⟨found, -, read⟩ := Option.bind_eq_some_iff.1 read
      obtain ⟨decorated, decorates, read⟩ := Option.bind_eq_some_iff.1 read
      obtain ⟨others, readRest, read⟩ := Option.bind_eq_some_iff.1 read
      cases read
      intro statement among
      rcases List.mem_append.1 among with first | behind
      · refine spans_of_decorate? decorates validDecorators (fun written inside span there => ?_) statement first
        rw [Stmt.mapAll_eq_map] at inside
        obtain ⟨written, -, rfl⟩ := List.mem_map.1 inside
        rw [Stmt.spans_map] at there
        obtain ⟨extent, -, rfl⟩ := List.mem_map.1 there
        exact here extent
      · exact inductionHypothesis readRest (List.forall_mem_nil _) later statement behind

end Module

/-! ### Lines one below the other -/

namespace Layout

/-- How many source lines lines take. -/
def height : List Line → Nat
  | [] => 0
  | line :: rest => line.height + height rest

theorem height_cons (line : Line) (rest : List Line) : height (line :: rest) = line.height + height rest := rfl

theorem height_append (front behind : List Line) :
    height (front ++ behind) = height front + height behind := by
  induction front with
  | nil => exact (Nat.zero_add _).symm
  | cons line rest inductionHypothesis =>
    rw [List.cons_append, height_cons, inductionHypothesis, height_cons, Nat.add_assoc]

theorem place_append (above : Nat) (front behind : List Line) :
    place above (front ++ behind) = place above front ++ place (above + height front) behind := by
  induction front generalizing above with
  | nil => rfl
  | cons line rest inductionHypothesis =>
    rw [List.cons_append, place, place, inductionHypothesis, height_cons, Nat.add_assoc]
    rfl

variable {front behind above below : List Line}

/-- Of two starts of the same lines, the lower one is the start of the other. -/
theorem exists_of_height_le (same : front ++ behind = above ++ below)
    (each : ∀ line ∈ front ++ behind, 1 ≤ line.height) (lower : height front ≤ height above) :
    ∃ middle, above = front ++ middle ∧ behind = middle ++ below := by
  rcases List.append_eq_append_iff.1 same with ⟨middle, inside, later⟩ | ⟨middle, rfl, later⟩
  · exact ⟨middle, inside, later⟩
  · cases middle with
    | nil => exact ⟨[], by simp, by simpa using later.symm⟩
    | cons line rest =>
      have positive := each line (by simp)
      rw [height_append, height_cons] at lower
      omega

/-- Lines that reach into a line and not behind it end with this line. -/
theorem eq_of_height {line : Line} (same : front ++ behind = above ++ line :: below)
    (each : ∀ line ∈ front ++ behind, 1 ≤ line.height) (inside : height above < height front)
    (bound : height front ≤ height (above ++ [line])) : front = above ++ [line] ∧ behind = below := by
  have whole : front ++ behind = (above ++ [line]) ++ below := by simp [same]
  obtain ⟨middle, split, rfl⟩ := exists_of_height_le whole each bound
  rcases List.eq_nil_or_concat middle with rfl | ⟨others, last, rfl⟩
  · exact ⟨by simpa using split.symm, rfl⟩
  · rw [List.concat_eq_append, ← List.append_assoc] at split
    obtain ⟨rfl, -⟩ := List.append_inj' split rfl
    rw [height_append] at inside
    omega

/-- Placed lines in three parts are lines in three parts. -/
theorem exists_of_place_eq_append {above : Nat} {lines front behind : List Line} {placed : Line}
    (split : place above lines = front ++ placed :: behind) :
    ∃ first line later, lines = first ++ line :: later ∧ place above first = front ∧
      placed = line.moveDown (above + height first) ∧
      place (above + height first + line.height) later = behind := by
  induction front generalizing above lines with
  | nil =>
    cases lines with
    | nil => exact nomatch split
    | cons line rest =>
      obtain ⟨rfl, rfl⟩ := List.cons.inj split
      exact ⟨[], line, rest, rfl, rfl, rfl, rfl⟩
  | cons head front inductionHypothesis =>
    cases lines with
    | nil => exact nomatch split
    | cons line rest =>
      obtain ⟨rfl, same⟩ := List.cons.inj split
      obtain ⟨first, middle, later, rfl, rfl, rfl, rfl⟩ := inductionHypothesis same
      refine ⟨line :: first, middle, later, rfl, rfl, ?_, ?_⟩
      all_goals simp only [height_cons, Nat.add_assoc]

theorem isBlank_moveDown (lines : Nat) (line : Line) : (line.moveDown lines).isBlank = line.isBlank := by
  rw [Line.isBlank, Line.isBlank, Line.moveDown, List.isEmpty_map]

theorem contentOf_moveDown (lines : Nat) (line : Line) : contentOf (line.moveDown lines) = contentOf line := by
  rw [contentOf, contentOf, Line.moveDown, List.map_map]
  rfl

/-- Lines say the same wherever they stand. -/
theorem contentsOf_place (above : Nat) (lines : List Line) :
    contentsOf (place above lines) = contentsOf lines := by
  induction lines generalizing above with
  | nil => rfl
  | cons line rest inductionHypothesis =>
    have tail := inductionHypothesis (above + line.height)
    unfold contentsOf at tail ⊢
    rw [place, List.filter_cons, List.filter_cons, isBlank_moveDown]
    split
    · rw [List.map_cons, List.map_cons, contentOf_moveDown, tail]
    · exact tail

/-- Tokens of laid out lines are tokens of these lines or stand for no text. -/
theorem mem_of_tokens? {blocks : List Indentation} {lines : List Line} {tokens : List Token}
    (laid : tokens? blocks lines = some tokens) :
    ∀ token ∈ tokens, token.span = default ∨ ∃ line ∈ lines, token ∈ line.tokens := by
  induction lines generalizing blocks tokens with
  | nil =>
    cases laid
    intro token among
    exact .inl (List.eq_of_mem_replicate among ▸ rfl)
  | cons line rest inductionHypothesis =>
    obtain ⟨⟨kinds, opened⟩, -, laid⟩ := Option.bind_eq_some_iff.1 laid
    obtain ⟨others, laidOthers, same⟩ := Option.bind_eq_some_iff.1 laid
    cases same
    intro token among
    rcases List.mem_append.1 among with before | behind
    · rcases List.mem_append.1 before with layout | own
      · obtain ⟨kind, -, rfl⟩ := List.mem_map.1 layout
        exact .inl rfl
      · exact .inr ⟨line, List.mem_cons_self, own⟩
    · rcases List.mem_cons.1 behind with rfl | later
      · exact .inl rfl
      · rcases inductionHypothesis laidOthers token later with none | ⟨other, below, there⟩
        · exact .inl none
        · exact .inr ⟨other, List.mem_cons_of_mem _ below, there⟩

theorem flatten_groups (lines : List Line) : (groups lines).flatten = lines := by
  fun_induction groups lines <;> simp_all

end Layout

/-! ### Spans between lines -/

/-- A span lies behind a line and not behind another one, as far as it has tokens. -/
structure Span.IsWithin (above last : Nat) (span : Span) : Prop where
  start : span.start = default ∨ above < span.start.line
  stop : span.stop = default ∨ above < span.stop.line
  bound : span.stop.line ≤ last
  startBound : span.start.line ≤ last

theorem Span.IsWithin.mono {above last low high : Nat} {span : Span} (isWithin : span.IsWithin above last)
    (lower : low ≤ above) (higher : last ≤ high) : span.IsWithin low high where
  start := isWithin.start.imp_right fun below => Nat.lt_of_le_of_lt lower below
  stop := isWithin.stop.imp_right fun below => Nat.lt_of_le_of_lt lower below
  bound := isWithin.bound.trans higher
  startBound := isWithin.startBound.trans higher

/-- The tokens of lines are on their source lines, as they are read. -/
def Lexer.AreNumbered (lines : List Line) : Prop :=
  ∀ line ∈ lines, ∀ token ∈ line.tokens, 1 ≤ token.span.start.line ∧
    token.span.start.line ≤ token.span.stop.line ∧ token.span.stop.line ≤ line.height

/-- Each line that is read is written somewhere. -/
theorem Lexer.exists_writes_of_mem {characters : List Char} {lines : List Line}
    (read : lines? characters = some lines) {line : Line} (among : line ∈ lines) :
    ∃ text, Writes text line := by
  obtain ⟨texts, -, writes, -⟩ := lines?_eq_some_iff.1 read
  clear read
  induction writes with
  | nil => exact nomatch among
  | cons first later inductionHypothesis =>
    rcases List.mem_cons.1 among with rfl | behind
    · exact ⟨_, first⟩
    · exact inductionHypothesis behind

/-- A line that holds something is complete. -/
theorem Lexer.isContinuation_of_lines? {characters : List Char} {lines : List Line}
    (read : lines? characters = some lines) {line : Line} (among : line ∈ lines)
    (visible : line.isBlank = false) : line.isContinuation = false := by
  obtain ⟨text, writes⟩ := exists_writes_of_mem read among
  cases writes with
  | code => rfl
  | blank => exact nomatch visible
  | continuation => exact nomatch visible

theorem Lexer.height_pos_of_lines? {characters : List Char} {lines : List Line}
    (read : lines? characters = some lines) : ∀ line ∈ lines, 1 ≤ line.height := by
  intro line among
  obtain ⟨text, writes⟩ := exists_writes_of_mem read among
  obtain ⟨body, rfl⟩ := writes.exists_append
  rw [writes.height, List.count_append]
  simp

theorem Lexer.areNumbered_of_lines? {characters : List Char} {lines : List Line}
    (read : lines? characters = some lines) : AreNumbered lines := by
  intro line among
  obtain ⟨text, writes⟩ := exists_writes_of_mem read among
  exact writes.line_le

namespace Layout

/-- The tokens of placed lines are on these lines. -/
theorem line_of_mem_place {above : Nat} {lines : List Line} (numbered : Lexer.AreNumbered lines) :
    ∀ line ∈ place above lines, ∀ token ∈ line.tokens, token.span.IsWithin above (above + height lines) := by
  induction lines generalizing above with
  | nil => exact List.forall_mem_nil _
  | cons line rest inductionHypothesis =>
    have total := height_cons line rest
    intro placed among token there
    rcases List.mem_cons.1 among with rfl | behind
    · obtain ⟨written, isToken, rfl⟩ := List.mem_map.1 there
      obtain ⟨first, last, bound⟩ := numbered line List.mem_cons_self written isToken
      refine ⟨.inr ?_, .inr ?_, ?_, ?_⟩
      all_goals simp only [Token.moveDown, Span.moveDown, Position.moveDown]
      all_goals omega
    · have others : Lexer.AreNumbered rest :=
        fun line among => numbered line (List.mem_cons_of_mem _ among)
      have below := inductionHypothesis others placed behind token there
      exact below.mono (Nat.le_add_right _ _) (by omega)

end Layout

/-- An extent in tokens lies where they lie. -/
theorem Extent.isWithin_toSpan {above last : Nat} {tokens : List Token}
    (inside : ∀ token ∈ tokens, token.span.IsWithin above last) (extent : Extent) :
    (extent.toSpan tokens).IsWithin above last := by
  have first (position : Position)
      (is : ((tokens.drop (tokens.length - extent.start)).head?.map (·.span.start)).getD default = position) :
      (position = default ∨ above < position.line) ∧ position.line ≤ last := by
    cases found : (tokens.drop (tokens.length - extent.start)).head? with
    | none =>
      rw [found] at is
      exact ⟨.inl is.symm, is ▸ Nat.zero_le _⟩
    | some token =>
      rw [found] at is
      have among := List.mem_of_mem_drop (List.mem_of_mem_head? found)
      exact ⟨is ▸ (inside token among).start, is ▸ (inside token among).startBound⟩
  have final (position : Position)
      (is : (((tokens.take (tokens.length - extent.stop)).reverse.find? (·.kind.isVisible)).map
        (·.span.stop)).getD default = position) :
      (position = default ∨ above < position.line) ∧ position.line ≤ last := by
    cases found : (tokens.take (tokens.length - extent.stop)).reverse.find? (·.kind.isVisible) with
    | none =>
      rw [found] at is
      exact ⟨.inl is.symm, is ▸ Nat.zero_le _⟩
    | some token =>
      rw [found] at is
      have among := List.mem_of_mem_take (List.mem_reverse.1 (List.mem_of_find?_eq_some found))
      exact ⟨is ▸ (inside token among).stop, is ▸ (inside token among).bound⟩
  exact ⟨(first _ rfl).1, (final _ rfl).1, (final _ rfl).2, (first _ rfl).2⟩

namespace Layout

/-- The lines of a source that are not blank, where they stand. -/
def visible (above : Nat) (lines : List Line) : List Line :=
  (place above lines).filter (!·.isBlank)

theorem visible_append (above : Nat) (front behind : List Line) :
    visible above (front ++ behind) = visible above front ++ visible (above + height front) behind := by
  rw [visible, place_append, List.filter_append]
  rfl

theorem map_contentOf_visible (above : Nat) (lines : List Line) :
    (visible above lines).map contentOf = contentsOf lines :=
  contentsOf_place above lines

/-- What lines say falls into groups as the lines do. -/
theorem groups_contentsOf (above : Nat) (lines : List Line) :
    Lexer.LineContent.groups (contentsOf lines) = (groups (visible above lines)).map (·.map contentOf) := by
  rw [← map_contentOf_visible above, Lexer.LineContent.groups_map_contentOf]

theorem mapM_kinds? (groups : List (List Line)) :
    (groups.map (·.map contentOf)).mapM (Lexer.LineContent.kinds? []) =
      (groups.mapM (tokens? [])).map (·.map (·.map (·.kind))) := by
  induction groups with
  | nil => rfl
  | cons group rest inductionHypothesis =>
    rw [List.map_cons, List.mapM_cons, List.mapM_cons, Lexer.LineContent.kinds?_map_contentOf,
      inductionHypothesis]
    cases tokens? [] group with
    | none => rfl
    | some first => cases rest.mapM (tokens? []) <;> rfl

/-- A group of a single line has the other lines above and below it. -/
theorem exists_of_groups_visible {lines : List Line} {before after : List (List Line)} {placed : Line}
    (grouped : groups (visible 0 lines) = before ++ [placed] :: after) :
    ∃ above line below, lines = above ++ line :: below ∧ line.isBlank = false ∧
      before.flatten = visible 0 above ∧ placed = line.moveDown (height above) ∧
      after.flatten = visible (height above + line.height) below := by
  have split := flatten_groups (visible 0 lines)
  rw [grouped, List.flatten_append, List.flatten_cons, List.singleton_append] at split
  obtain ⟨first, others, divided, same, later⟩ := List.filter_eq_append_iff.1 split.symm
  obtain ⟨blank, behind, rfl, areBlank, isVisible, sameBehind⟩ := List.filter_eq_cons_iff.1 later
  rw [← List.append_assoc] at divided
  obtain ⟨above, line, below, rfl, isAbove, rfl, rfl⟩ := exists_of_place_eq_append divided
  rw [Nat.zero_add] at isVisible sameBehind ⊢
  refine ⟨above, line, below, rfl, ?_, ?_, rfl, sameBehind.symm⟩
  · rw [← isBlank_moveDown]
    simpa using isVisible
  · have none : blank.filter (!·.isBlank) = [] := List.filter_eq_nil_iff.2 areBlank
    rw [visible, isAbove, List.filter_append, none, List.append_nil, same]

end Layout

namespace Module

open Lexer.LineContent

/-- The statements of lines that stand below so many source lines. -/
def ofLines? (above : Nat) (lines : List Line) : Option Module := do
  let tokens ← (Layout.groups (Layout.visible above lines)).mapM (Layout.tokens? [])
  ofGroups? [] (tokens.map fun found => (found.map (·.kind), Extent.toSpan found))

theorem parse?_eq_ofLines? {source : List Char} {lines : List Line}
    (isSource : Lexer.lines? (withFinalLineEnd source) = some lines) : parse? source = ofLines? 0 lines := by
  rw [parse?, isSource]
  rfl

/-- What lines say does not depend on where they stand. -/
theorem map_contents_ofLines? (above : Nat) (lines : List Line) :
    (ofLines? above lines).map Stmt.contents = statements? (contentsOf lines) := by
  rw [ofLines?, statements?, Layout.groups_contentsOf above, Layout.mapM_kinds?]
  simp only [Option.bind_eq_bind]
  cases (Layout.groups (Layout.visible above lines)).mapM (Layout.tokens? []) with
  | none => rfl
  | some tokens =>
    have mapped := ofGroups?_map (fun _ : Span => ()) []
      (tokens.map fun found => (found.map (·.kind), Extent.toSpan found))
    rw [List.map_map, Expr.mapAll] at mapped
    refine mapped.symm.trans ?_
    rw [Option.map_some, Option.bind_some, List.map_map]
    rfl

/-- What a module says is what its lines say. -/
theorem map_contents_parse? {source : List Char} {lines : List Line}
    (isSource : Lexer.lines? (withFinalLineEnd source) = some lines) :
    (parse? source).map Stmt.contents = statements? (contentsOf lines) := by
  rw [parse?_eq_ofLines? isSource, map_contents_ofLines?]

/-- A line of statements is read on its own. -/
theorem IsLineOf.ofGroups?_singleton {group : List TokenKind × (Extent → σ)} {found : List (Stmt Extent)}
    (isLine : IsLineOf group found) : ofGroups? [] [group] = some (Stmt.mapAll group.2 found) := by
  obtain ⟨kinds, span⟩ := group
  have other : ¬(kinds.head? == some (.symbol .at)) = true := by simp [isLine.isStatement]
  have read : StatementGrammar.wholeStatement? kinds = some found := isLine.read
  rw [ofGroups?, if_neg other, read]
  simp [decorate?, ofGroups?]

/-- Groups of placed lines are laid out as tokens on these lines. -/
theorem isWithin_of_laidOut {above last : Nat} {groups : List (List Line)} {tokens : List (List Token)}
    (laid : groups.mapM (Layout.tokens? []) = some tokens)
    (inside : ∀ group ∈ groups, ∀ line ∈ group, ∀ token ∈ line.tokens, token.span.IsWithin above last) :
    ∀ group ∈ tokens.map fun found => (found.map (·.kind), Extent.toSpan found),
      ∀ extent, (group.2 extent).IsWithin above last := by
  intro group among extent
  obtain ⟨found, there, rfl⟩ := List.mem_map.1 among
  refine Extent.isWithin_toSpan (fun token isToken => ?_) extent
  obtain ⟨front, behind, split⟩ := List.append_of_mem there
  rw [split] at laid
  obtain ⟨before, placed, after, rfl, -, laidGroup, -⟩ := exists_of_mapM_eq_append laid
  rcases Layout.mem_of_tokens? laidGroup token isToken with none | ⟨line, isLine, own⟩
  · rw [none]
    exact ⟨.inl rfl, .inl rfl, Nat.zero_le _, Nat.zero_le _⟩
  · exact inside placed (by simp) line isLine token own

/-- A line of simple statements in a module: `front` stands above it, `here` on it and `rest` below it. -/
structure SimpleLine (above : List Line) (line : Line) (below : List Line) (found : List (Stmt Extent))
    (front here rest : List Stmt) : Prop where
  holds : IsSimpleLine (contentOf line) found
  same : Stmt.contents here = Stmt.contents found
  visible : line.isBlank = false
  closed : line.isContinuation = false
  reads : statements? (contentsOf (above ++ [line])) = some (Stmt.contents (front ++ here))
  own : contentsOf above ≠ [] → (contentOf line).joins = false
  apart : StartGroup (contentsOf below)
  spansAbove : ∀ statement ∈ front, ∀ span ∈ statement.spans, span.IsWithin 0 (Layout.height above)
  spansOn : ∀ statement ∈ here, ∀ span ∈ statement.spans,
    span.IsWithin (Layout.height above) (Layout.height (above ++ [line]))
  spansBelow : ∀ statement ∈ rest, ∀ span ∈ statement.spans,
    span.IsWithin (Layout.height (above ++ [line])) (Layout.height (above ++ line :: below))
  last : below = [] → rest = []

/-- What groups say without spans. -/
theorem ofGroups?_contents {groups : List (List TokenKind × (Extent → σ))} {statements : List (Stmt σ)}
    (read : ofGroups? [] groups = some statements) :
    ofGroups? [] (groups.map fun group => (group.1, fun _ => ())) = some (Stmt.contents statements) := by
  have mapped := ofGroups?_map (fun _ => ()) [] groups
  rw [read] at mapped
  exact mapped

/-- A simple statement of a module stands on a line of simple statements. -/
theorem exists_simpleLine {source : List Char} {early later : List Stmt} {statement : Stmt}
    (simple : statement.isSimple = true) (parsed : parse? source = some (early ++ statement :: later)) :
    ∃ above line below found front here rest,
      Lexer.lines? (withFinalLineEnd source) = some (above ++ line :: below) ∧
      SimpleLine above line below found front here rest ∧
      ∃ first behind, early = front ++ first ∧ here = first ++ statement :: behind ∧
        later = behind ++ rest := by
  obtain ⟨lines, isSource, parsed⟩ := Option.bind_eq_some_iff.1 parsed
  obtain ⟨tokens, laid, read⟩ := Option.bind_eq_some_iff.1 parsed
  have numbered := Lexer.areNumbered_of_lines? isSource
  obtain ⟨before, ⟨kinds, span⟩, after, found, rest, split, isLine, readAfter, front, first, rfl,
    readBefore, behind, here, rfl⟩ := exists_line_of_simple simple read
  obtain ⟨tokensBefore, _, rfl, rfl, tail⟩ := List.map_eq_append_iff.1 split
  obtain ⟨tokensHere, tokensAfter, rfl, same, rfl⟩ := List.map_eq_cons_iff.1 tail
  cases same
  obtain ⟨groupsBefore, group, groupsAfter, grouped, laidBefore, laidHere, laidAfter⟩ :=
    exists_of_mapM_eq_append laid
  -- The group is a single line, since its tokens end with the only line end among them.
  obtain ⟨piece, ended, single⟩ := isLine.single
  have laidContent := kinds?_map_contentOf [] group
  rw [laidHere, Option.map_some] at laidContent
  obtain ⟨content, isSingle, flush, rfl⟩ :=
    exists_eq_singleton_of_kinds? (laidContent.trans (congrArg some ended)) single
  obtain ⟨placed, rfl, rfl⟩ := List.map_eq_singleton_iff.1 isSingle
  obtain ⟨above, line, below, rfl, visible, isAbove, rfl, isBelow⟩ := Layout.exists_of_groups_visible grouped
  rw [Layout.contentOf_moveDown] at *
  have saysAbove : (groupsBefore.map (·.map contentOf)).flatten = contentsOf above := by
    rw [← List.map_flatten, isAbove, Layout.map_contentOf_visible]
  have saysBelow : (groupsAfter.map (·.map contentOf)).flatten = contentsOf below := by
    rw [← List.map_flatten, isBelow, Layout.map_contentOf_visible]
  have saysHere : contentsOf (above ++ [line]) = contentsOf above ++ [contentOf line] := by
    simp [contentsOf, visible]
  have contents := Layout.groups_contentsOf 0 (above ++ line :: below)
  rw [Layout.visible, grouped, List.map_append, List.map_cons, isSingle] at contents
  obtain ⟨-, -, ownGroup⟩ := groups_eq_append contents
  obtain ⟨groupsHere, -, apart⟩ := groups_eq_append (contents.trans (List.append_cons _ _ _))
  rw [List.flatten_append, saysAbove, List.flatten_singleton, ← saysHere] at groupsHere
  have readHere : ofGroups? [] ((tokensBefore ++ [tokensHere]).map fun found =>
      (found.map (·.kind), Extent.toSpan found)) =
        some (front ++ Stmt.mapAll (Extent.toSpan tokensHere) found) := by
    rw [List.map_append, ofGroups?_append readBefore, List.map_singleton, isLine.ofGroups?_singleton]
    rfl
  have laidTogether : (groupsBefore ++ [[line.moveDown (Layout.height above)]]).mapM (Layout.tokens? []) =
      some (tokensBefore ++ [tokensHere]) := by
    rw [List.mapM_append, laidBefore, List.mapM_cons, laidHere]
    rfl
  have within {low high : Nat} {lines : List Line} {tokens : List (List Token)} {groups : List (List Line)}
      (laid : groups.mapM (Layout.tokens? []) = some tokens) (same : groups.flatten = Layout.visible low lines)
      (part : Lexer.AreNumbered lines) (bound : low + Layout.height lines ≤ high) :
      ∀ group ∈ tokens.map fun found => (found.map (·.kind), Extent.toSpan found),
        ∀ extent, (group.2 extent).IsWithin low high := by
    refine isWithin_of_laidOut laid fun group among line isLine token own => ?_
    have placed : line ∈ Layout.visible low lines := same ▸ List.mem_flatten.2 ⟨group, among, isLine⟩
    exact (Layout.line_of_mem_place part line (List.mem_filter.1 placed).1 token own).mono (Nat.le_refl _) bound
  refine ⟨above, line, below, found, front, _, rest, isSource,
    ⟨⟨flush, ended ▸ isLine.read, isLine.simple⟩, Stmt.contents_mapAll _ found, visible, ?_, ?_, ?_, ?_,
      ?_, ?_, ?_, ?_⟩, first, behind, rfl, here, rfl⟩
  · exact Lexer.isContinuation_of_lines? isSource (by simp) visible
  · have laidContents := Layout.mapM_kinds? (groupsBefore ++ [[line.moveDown (Layout.height above)]])
    rw [laidTogether, List.map_append, List.map_singleton, isSingle, ← groupsHere] at laidContents
    rw [statements?, laidContents]
    have read := ofGroups?_contents readHere
    rw [List.map_map] at read
    simpa [List.map_map, Function.comp_def] using read
  · intro nonempty
    refine ownGroup (fun none => nonempty ?_) (contentOf line) rfl
    rw [← saysAbove, none]
    rfl
  · rw [← saysBelow]
    exact apart (by simp)
  · refine spans_of_ofGroups? readBefore (List.forall_mem_nil _) (within laidBefore isAbove ?_ ?_)
    · exact fun line among => numbered line (List.mem_append_left _ among)
    · exact (Nat.zero_add _).le
  · refine spans_of_ofGroups? isLine.ofGroups?_singleton (List.forall_mem_nil _) ?_
    have alone : ([[line.moveDown (Layout.height above)]] : List (List Line)).flatten =
        Layout.visible (Layout.height above) [line] := by
      simp [Layout.visible, Layout.place, Layout.isBlank_moveDown, visible]
    have laidAlone : [[line.moveDown (Layout.height above)]].mapM (Layout.tokens? []) = some [tokensHere] := by
      rw [List.mapM_cons, laidHere]
      rfl
    refine within laidAlone alone ?_ ?_
    · exact fun other among => numbered other (by simp [List.mem_singleton.1 among])
    · exact (Layout.height_append above [line]).ge
  · have total : Layout.height (above ++ [line]) = Layout.height above + line.height := by
      rw [Layout.height_append]
      rfl
    rw [total]
    refine spans_of_ofGroups? readAfter (List.forall_mem_nil _) (within laidAfter isBelow ?_ ?_)
    · exact fun other among => numbered other (by simp [among])
    · rw [Layout.height_append, Layout.height_cons, Nat.add_assoc]
  · rintro rfl
    have none : groupsAfter = [] := by
      rw [List.eq_nil_iff_forall_not_mem]
      intro group among
      have isGroup : group.map contentOf ∈ groups (contentsOf (above ++ [line])) := by
        rw [contents]
        exact List.mem_append_right _ (List.mem_cons_of_mem _ (List.mem_map_of_mem among))
      have nonempty := ne_nil_of_mem_groups isGroup
      exact nonempty (List.map_eq_nil_iff.2 (List.flatten_eq_nil_iff.1 isBelow group among))
    subst none
    cases laidAfter
    cases readAfter
    rfl

end Module

end DifferenceTypes
