import DifferenceTypes.Proofs.Template.LogicalLines

/-!
# Statements below others

Lines that say statements by themselves say the same below other lines, as long as they start at the top
level: their statements are the same but for their spans, which are further down by the lines above. What
stands above is not touched by what stands below it (`Module.exists_relocated`).

Spans that stand for no token stay as they are, so the two readings are compared span by span. They are
images of one list of statements whose spans are pairs.
-/

namespace DifferenceTypes

open Lexer (LineContent contentOf contentsOf)

/-! ### Spans further down -/

/-- A position below other lines. One that stands for no token stays. -/
def Position.IsRelocated (above : Nat) (here there : Position) : Prop :=
  there = here.moveDown above ∨ here = default ∧ there = default

/-- A span within some source lines, and the same one below other lines. -/
structure Span.IsRelocated (above height : Nat) (pair : Span × Span) : Prop where
  start : pair.1.start.IsRelocated above pair.2.start
  stop : pair.1.stop.IsRelocated above pair.2.stop
  within : pair.1.IsWithin 0 height

/-- A span with the one that it becomes below other lines. -/
abbrev Span.Relocation (above height : Nat) : Type :=
  { pair : Span × Span // Span.IsRelocated above height pair }

namespace Span.Relocation

variable {above height : Nat}

/-- The span in the text itself. -/
def here (pair : Relocation above height) : Span :=
  pair.val.1

/-- The span below other lines. -/
def there (pair : Relocation above height) : Span :=
  pair.val.2

end Span.Relocation

namespace Layout

/-! ### Tokens further down -/

/-- Tokens within some source lines, and the same ones below other lines. -/
abbrev AreRelocated (above height : Nat) : List Token → List Token → Prop :=
  List.Forall₂ fun here there => there.kind = here.kind ∧ Span.IsRelocated above height (here.span, there.span)

theorem isRelocated_default (above height : Nat) : Span.IsRelocated above height (default, default) where
  start := .inr ⟨rfl, rfl⟩
  stop := .inr ⟨rfl, rfl⟩
  within := ⟨.inl rfl, .inl rfl, Nat.zero_le _, Nat.zero_le _⟩

theorem areRelocated_layout (above height : Nat) (kinds : List TokenKind) :
    AreRelocated above height (kinds.map layoutToken) (kinds.map layoutToken) :=
  List.forall₂_same.2 fun token among => by
    obtain ⟨kind, -, rfl⟩ := List.mem_map.1 among
    exact ⟨rfl, isRelocated_default above height⟩

variable {above height : Nat} {lines : List Line}

/-- The lines hold tokens within some source lines only. -/
def AreWithin (height : Nat) (lines : List Line) : Prop :=
  ∀ line ∈ lines, ∀ token ∈ line.tokens, token.span.IsWithin 0 height

/-- Laid out below other lines the tokens are further down. -/
theorem tokens?_map_moveDown (above : Nat) (within : AreWithin height lines) {blocks : List Indentation} {tokens : List Token}
    (laid : tokens? blocks lines = some tokens) :
    ∃ lower, tokens? blocks (lines.map (Line.moveDown above)) = some lower ∧
      AreRelocated above height tokens lower := by
  induction lines generalizing blocks tokens with
  | nil =>
    cases laid
    refine ⟨_, rfl, ?_⟩
    rw [← List.map_replicate]
    exact areRelocated_layout above height _
  | cons line rest inductionHypothesis =>
    obtain ⟨⟨kinds, opened⟩, opens, laid⟩ := Option.bind_eq_some_iff.1 laid
    obtain ⟨others, laidOthers, same⟩ := Option.bind_eq_some_iff.1 laid
    cases same
    obtain ⟨lower, laidLower, relocated⟩ :=
      inductionHypothesis (fun other among => within other (List.mem_cons_of_mem _ among)) laidOthers
    have own : AreRelocated above height line.tokens (line.moveDown above).tokens :=
      List.forall₂_map_right_iff.2 (List.forall₂_same.2 fun token among =>
        ⟨rfl, .inl rfl, .inl rfl, within line List.mem_cons_self token among⟩)
    have isOpened : openBlocks (line.moveDown above).indentation blocks = some (kinds, opened) := opens
    refine ⟨kinds.map layoutToken ++ (line.moveDown above).tokens ++ layoutToken .newline :: lower, ?_, ?_⟩
    · rw [List.map_cons, tokens?, isOpened]
      simp only [Option.bind_eq_bind, Option.bind_some, laidLower]
      rfl
    · exact List.rel_append (List.rel_append (areRelocated_layout above height kinds) own)
        (.cons ⟨rfl, isRelocated_default above height⟩ relocated)

namespace AreRelocated

variable {here there : List Token}

theorem start_head? (relocated : AreRelocated above height here there) :
    Position.IsRelocated above ((here.head?.map fun token => token.span.start).getD default)
      ((there.head?.map fun token => token.span.start).getD default) := by
  cases relocated with
  | nil => exact .inr ⟨rfl, rfl⟩
  | cons own _ => exact own.2.start

theorem stop_find? (relocated : AreRelocated above height here there) :
    Position.IsRelocated above
      (((here.find? fun token => token.kind.isVisible).map fun token => token.span.stop).getD default)
      (((there.find? fun token => token.kind.isVisible).map fun token => token.span.stop).getD default) := by
  induction relocated with
  | nil => exact .inr ⟨rfl, rfl⟩
  | @cons token lower _ _ own _ inductionHypothesis =>
    rw [List.find?_cons, List.find?_cons, own.1]
    cases token.kind.isVisible with
    | true => exact own.2.stop
    | false => exact inductionHypothesis

/-- What an extent stands for is further down if the tokens are. -/
theorem toSpan (relocated : AreRelocated above height here there) (extent : Extent) :
    Span.IsRelocated above height (extent.toSpan here, extent.toSpan there) := by
  have behind := List.forall₂_drop (here.length - extent.start) relocated
  have before := List.rel_reverse (List.forall₂_take (here.length - extent.stop) relocated)
  refine ⟨?_, ?_, Extent.isWithin_toSpan (fun token among => ?_) extent⟩
  · unfold Extent.toSpan
    rw [← relocated.length_eq]
    exact AreRelocated.start_head? behind
  · unfold Extent.toSpan
    rw [← relocated.length_eq]
    exact AreRelocated.stop_find? before
  · obtain ⟨number, inside, rfl⟩ := List.mem_iff_getElem.1 among
    exact (relocated.get inside (relocated.length_eq ▸ inside)).2.within

end AreRelocated

/-! ### Groups further down -/

/-- Lines that are grouped like what they say are in their groups. -/
theorem groups_eq_of_contents {lines : List Line} {found : List (List Line)} (whole : found.flatten = lines)
    (same : LineContent.groups (lines.map contentOf) = found.map (·.map contentOf)) : groups lines = found := by
  refine List.eq_iff_flatten_eq.2 ⟨(flatten_groups lines).trans whole.symm, ?_⟩
  have lengths := congrArg (List.map List.length) same
  rw [LineContent.groups_map_contentOf, List.map_map, List.map_map] at lengths
  simpa [Function.comp_def] using lengths

theorem groups_map_moveDown (above : Nat) (lines : List Line) :
    groups (lines.map (Line.moveDown above)) = (groups lines).map (·.map (Line.moveDown above)) := by
  have unmoved : contentOf ∘ Line.moveDown above = contentOf := funext (contentOf_moveDown above)
  refine groups_eq_of_contents (by rw [← List.map_flatten, flatten_groups]) ?_
  rw [List.map_map, unmoved, LineContent.groups_map_contentOf, List.map_map]
  congr 1
  funext group
  rw [Function.comp_apply, List.map_map, unmoved]

/-- Lines that start a group leave the groups before them as they are. -/
theorem groups_append {front behind : List Line} (starts : LineContent.StartGroup (behind.map contentOf)) :
    groups (front ++ behind) = groups front ++ groups behind := by
  refine groups_eq_of_contents (by rw [List.flatten_append, flatten_groups, flatten_groups]) ?_
  rw [List.map_append, LineContent.groups_append starts, LineContent.groups_map_contentOf,
    LineContent.groups_map_contentOf, List.map_append]

theorem place_eq_map (above below : Nat) (lines : List Line) :
    place (above + below) lines = (place below lines).map (Line.moveDown above) := by
  induction lines generalizing below with
  | nil => rfl
  | cons line rest inductionHypothesis =>
    rw [place, place, List.map_cons, Nat.add_assoc, inductionHypothesis]
    congr 1
    simp only [Line.moveDown, List.map_map]
    congr 2
    funext token
    simp [Token.moveDown, Span.moveDown, Position.moveDown, Nat.add_comm, Nat.add_left_comm]

theorem visible_eq_map (above : Nat) (lines : List Line) :
    visible above lines = (visible 0 lines).map (Line.moveDown above) := by
  have placed := place_eq_map above 0 lines
  rw [Nat.add_zero] at placed
  rw [visible, visible, placed, List.filter_map]
  congr 1
  refine List.filter_congr fun line _ => ?_
  rw [Function.comp_apply, isBlank_moveDown]

end Layout

namespace Module

open Layout (groups visible tokens? height AreRelocated AreWithin)

/-- Lines that start a group say the same behind others as below as many source lines. -/
theorem ofLines?_append {front behind : List Line} (starts : LineContent.StartGroup (contentsOf behind))
    {first : Module} (read : ofLines? 0 front = some first) :
    ofLines? 0 (front ++ behind) = (ofLines? (height front) behind).map (first ++ ·) := by
  obtain ⟨tokens, laid, read⟩ := Option.bind_eq_some_iff.1 read
  unfold ofLines?
  rw [Layout.visible_append, Nat.zero_add, Layout.groups_append (by rwa [Layout.map_contentOf_visible]),
    List.mapM_append, laid]
  simp only [Option.bind_eq_bind, Option.bind_some]
  cases (groups (visible (height front) behind)).mapM (tokens? []) with
  | none => rfl
  | some others =>
    simp only [Option.pure_def, Option.bind_some, List.map_append]
    exact ofGroups?_append read _

theorem mapM_tokens?_moveDown (above : Nat) {bound : Nat} {grouped : List (List Line)}
    (within : ∀ group ∈ grouped, AreWithin bound group) {tokens : List (List Token)}
    (laid : grouped.mapM (tokens? []) = some tokens) :
    ∃ lower, (grouped.map (·.map (Line.moveDown above))).mapM (tokens? []) = some lower ∧
      List.Forall₂ (AreRelocated above bound) tokens lower := by
  induction grouped generalizing tokens with
  | nil =>
    cases laid
    exact ⟨[], rfl, .nil⟩
  | cons group rest inductionHypothesis =>
    rw [List.mapM_cons] at laid
    obtain ⟨first, laidFirst, laid⟩ := Option.bind_eq_some_iff.1 laid
    obtain ⟨others, laidOthers, same⟩ := Option.bind_eq_some_iff.1 laid
    cases same
    obtain ⟨lowerFirst, first, relocated⟩ :=
      Layout.tokens?_map_moveDown above (within group List.mem_cons_self) laidFirst
    obtain ⟨lower, later, areRelocated⟩ :=
      inductionHypothesis (fun other among => within other (List.mem_cons_of_mem _ among)) laidOthers
    refine ⟨lowerFirst :: lower, ?_, .cons relocated areRelocated⟩
    rw [List.map_cons, List.mapM_cons, first, later]
    rfl

theorem exists_pairs {above bound : Nat} {here there : List (List Token)}
    (relocated : List.Forall₂ (AreRelocated above bound) here there) :
    ∃ pairs : List (List TokenKind × (Extent → Span.Relocation above bound)),
      (pairs.map fun group => (group.1, Span.Relocation.here ∘ group.2)) =
        (here.map fun found => (found.map (·.kind), Extent.toSpan found)) ∧
      (pairs.map fun group => (group.1, Span.Relocation.there ∘ group.2)) =
        (there.map fun found => (found.map (·.kind), Extent.toSpan found)) := by
  induction relocated with
  | nil => exact ⟨[], rfl, rfl⟩
  | @cons found lower _ _ first _ inductionHypothesis =>
    obtain ⟨pairs, sameHere, sameThere⟩ := inductionHypothesis
    have kinds : lower.map (·.kind) = found.map (·.kind) :=
      (List.forall₂_eq_eq_eq ▸ List.forall₂_map_left_iff.2 (List.forall₂_map_right_iff.2
        (first.imp fun _ _ same => same.1.symm)) : found.map (·.kind) = lower.map (·.kind)).symm
    refine ⟨(found.map (·.kind), fun extent => ⟨(extent.toSpan found, extent.toSpan lower), first.toSpan extent⟩) ::
      pairs, ?_, ?_⟩
    · rw [List.map_cons, List.map_cons, sameHere]
      rfl
    · rw [List.map_cons, List.map_cons, sameThere, kinds]
      rfl

/-- What lines say is the same below other source lines, up to spans. -/
theorem exists_relocated {lines : List Line} (numbered : Lexer.AreNumbered lines) {module : Module}
    (read : ofLines? 0 lines = some module) (above : Nat) :
    ∃ pairs : List (Stmt (Span.Relocation above (height lines))),
      module = Stmt.mapAll Span.Relocation.here pairs ∧
      ofLines? above lines = some (Stmt.mapAll Span.Relocation.there pairs) := by
  obtain ⟨tokens, laid, read⟩ := Option.bind_eq_some_iff.1 read
  have within : ∀ group ∈ groups (visible 0 lines), AreWithin (height lines) group := by
    intro group isGroup line among token own
    have isVisible : line ∈ visible 0 lines :=
      Layout.flatten_groups (visible 0 lines) ▸ List.mem_flatten.2 ⟨group, isGroup, among⟩
    have inside := Layout.line_of_mem_place numbered line (List.mem_filter.1 isVisible).1 token own
    rwa [Nat.zero_add] at inside
  obtain ⟨lower, laidLower, relocated⟩ := mapM_tokens?_moveDown above within laid
  obtain ⟨pairs, sameHere, sameThere⟩ := exists_pairs relocated
  have mappedHere := ofGroups?_map Span.Relocation.here [] pairs
  have mappedThere := ofGroups?_map Span.Relocation.there [] pairs
  rw [sameHere] at mappedHere
  rw [sameThere] at mappedThere
  obtain ⟨statements, isRead, same⟩ := Option.map_eq_some_iff.1 (mappedHere.symm.trans read)
  refine ⟨statements, same.symm, ?_⟩
  rw [ofLines?, Layout.visible_eq_map, Layout.groups_map_moveDown, laidLower]
  exact mappedThere.trans (by rw [isRead]; rfl)

end Module

end DifferenceTypes
