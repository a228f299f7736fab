import DifferenceTypes.Proofs.Syntax.Relocation
import DifferenceTypes.Proofs.Syntax.WrittenParts
import DifferenceTypes.Proofs.Template.PositionalFields
import DifferenceTypes.Proofs.Template.RecordFields

/-!
# Blocks further down

Where a text stands in another one, below some of its lines, its classes have their spans further down. If
the types of a class's fields are quoted, it has the same block there as by itself, but for its lines
(`Block.toOption_ofClass_eq`): what its markers ask for is cut out of the same lines, its shape and its fields
do not depend on spans, and its markers are looked up on the same lines.
-/

namespace DifferenceTypes

open Lexer

namespace Except

variable {ε α β : Type}

theorem toOption_bind (computation : Except ε α) (next : α → Except ε β) :
    (computation >>= next).toOption = computation.toOption.bind fun value => (next value).toOption := by
  cases computation <;> rfl

theorem toOption_throw (error : ε) : (throw error : Except ε α).toOption = none :=
  rfl

theorem toOption_pure (value : α) : (pure value : Except ε α).toOption = some value :=
  rfl

end Except

/-! ### Texts within texts -/

/-- A text stands in another one below so many source lines. Both have the same lines for display as in
syntax. -/
structure Text.IsSetIn (part whole : Text) (above : Nat) : Prop where
  lines : ∃ front behind, whole.sourceLines = front ++ (part.sourceLines ++ behind) ∧ front.length = above
  alike : part.displayLines = part.sourceLines
  alikeWhole : whole.displayLines = whole.sourceLines

namespace Text.IsSetIn

variable {part whole : Text} {above : Nat} (isSetIn : part.IsSetIn whole above)

include isSetIn

/-- A line of the part is one of the whole. -/
theorem getElem?_add {number : Nat} (inside : number < part.sourceLines.length) :
    whole.sourceLines[number + above]? = part.sourceLines[number]? := by
  obtain ⟨front, behind, split, rfl⟩ := isSetIn.lines
  rw [split, List.getElem?_append_right (Nat.le_add_left ..), Nat.add_sub_cancel,
    List.getElem?_append_left inside]

/-- Lines in the middle of the part are those of the whole. -/
theorem take_drop {first count : Nat} (inside : first + count ≤ part.sourceLines.length) :
    (whole.sourceLines.drop (first + above)).take count = (part.sourceLines.drop first).take count := by
  obtain ⟨front, behind, split, rfl⟩ := isSetIn.lines
  rw [split, Nat.add_comm, ← List.drop_drop, List.drop_left, List.drop_append_of_le_length (by omega),
    List.take_append_of_le_length (by rw [List.length_drop]; omega)]

end Text.IsSetIn

theorem Marker.line?_of_pos (lines : List Text) {number : Nat} (positive : 1 ≤ number) :
    line? lines number = lines[number - 1]? := by
  have notBefore : ¬(number : Int) ≤ 0 := by omega
  have index : ((number : Int) - 1).toNat = number - 1 := by omega
  rw [line?]
  simp only [if_neg notBefore]
  rw [if_neg (by omega), index]

/-- A span stands for tokens. -/
structure Span.HasTokens (span : Span) : Prop where
  start : span.start ≠ default
  stop : span.stop ≠ default

namespace Span.Relocation

variable {above height : Nat} {pair : Relocation above height}

/-- What stands for tokens stands for the same ones further down. -/
theorem there_eq (hasTokens : pair.here.HasTokens) : pair.there = pair.here.moveDown above := by
  have start : pair.there.start = pair.here.start.moveDown above :=
    pair.property.start.resolve_right fun none => hasTokens.start none.1
  have stop : pair.there.stop = pair.here.stop.moveDown above :=
    pair.property.stop.resolve_right fun none => hasTokens.stop none.1
  rw [Span.moveDown, ← start, ← stop]

theorem startLine (hasTokens : pair.here.HasTokens) : 1 ≤ pair.here.start.line :=
  pair.property.within.start.resolve_left hasTokens.start

theorem stopLine (hasTokens : pair.here.HasTokens) : 1 ≤ pair.here.stop.line :=
  pair.property.within.stop.resolve_left hasTokens.stop

theorem startLine_le : pair.here.start.line ≤ height :=
  pair.property.within.startBound

theorem stopLine_le : pair.here.stop.line ≤ height :=
  pair.property.within.bound

end Span.Relocation

namespace Text.IsSetIn

variable {part whole : Text} {above : Nat} (isSetIn : part.IsSetIn whole above)
  {pair : Span.Relocation above part.sourceLines.length} (hasTokens : pair.here.HasTokens)

include isSetIn hasTokens

/-- A span covers the same text in the whole. -/
theorem segment_eq : whole.segment pair.there = part.segment pair.here := by
  have start := Span.Relocation.startLine hasTokens
  have stop := Span.Relocation.stopLine hasTokens
  have startBound := pair.startLine_le
  have stopBound := pair.stopLine_le
  have first : whole.sourceLines[pair.here.start.line + above - 1]? =
      part.sourceLines[pair.here.start.line - 1]? := by
    rw [← isSetIn.getElem?_add (by omega)]
    congr 1
    omega
  have last : whole.sourceLines[pair.here.stop.line + above - 1]? =
      part.sourceLines[pair.here.stop.line - 1]? := by
    rw [← isSetIn.getElem?_add (by omega)]
    congr 1
    omega
  rw [Span.Relocation.there_eq hasTokens]
  unfold segment
  simp only [Span.moveDown, Position.moveDown, first, last, Nat.add_right_cancel_iff, beq_iff_eq]
  split
  · rfl
  · by_cases above' : pair.here.start.line ≤ pair.here.stop.line - 1
    · have count : pair.here.stop.line + above - (pair.here.start.line + above) - 1 =
          pair.here.stop.line - pair.here.start.line - 1 := by omega
      rw [count, isSetIn.take_drop (by omega)]
    · have none : pair.here.stop.line - pair.here.start.line - 1 = 0 := by omega
      have noneToo : pair.here.stop.line + above - (pair.here.start.line + above) - 1 = 0 := by omega
      rw [none, noneToo, List.take_zero, List.take_zero]

/-- A marker is looked up on the same lines in the whole. -/
theorem lines_eq : (Marker.lines whole.displayLines (.ofSpan pair.there)).toOption =
    (Marker.lines part.displayLines (.ofSpan pair.here)).toOption.map
      fun lines => (lines.1 + (above : Int), lines.2 + (above : Int)) := by
  have start := Span.Relocation.startLine hasTokens
  have stop := Span.Relocation.stopLine hasTokens
  have startBound := pair.startLine_le
  have stopBound := pair.stopLine_le
  have lineIn {number : Nat} (positive : 1 ≤ number) (inside : number ≤ part.sourceLines.length) :
      Marker.line? whole.displayLines ((number + above : Nat) : Int) =
        Marker.line? part.displayLines (number : Int) := by
    rw [Marker.line?_of_pos _ positive, Marker.line?_of_pos _ (by omega), isSetIn.alike, isSetIn.alikeWhole,
      ← isSetIn.getElem?_add (by omega)]
    congr 1
    omega
  rw [Span.Relocation.there_eq hasTokens]
  unfold Marker.lines Marker.Place.ofSpan
  simp only [Span.moveDown, Position.moveDown]
  rw [lineIn start startBound, lineIn stop stopBound]
  -- The numbers of lines only matter to what is returned.
  generalize Marker.line? part.displayLines (pair.here.start.line : Int) = first
  generalize Marker.line? part.displayLines (pair.here.stop.line : Int) = last
  simp only [Except.toOption_bind, Except.toOption_throw, Except.toOption_pure, apply_ite Except.toOption,
    Option.bind_none, Option.map_bind, Function.comp_def, apply_ite (Option.map _), Option.map_none,
    Option.map_some, Int.natCast_add]

end Text.IsSetIn

/-! ### Classes within texts -/

namespace Except

variable {ε σ α β γ δ : Type} {values : List σ} {one : σ → α} {other : σ → γ}

/-- Computations on two images of a list have the same results if they have them on each of the values, up to
a change of the results. -/
theorem toOption_mapM_eq {first : α → Except ε β} {second : γ → Except ε δ} (change : δ → β)
    (same : ∀ value ∈ values, (first (one value)).toOption = (second (other value)).toOption.map change) :
    ((values.map one).mapM first).toOption = ((values.map other).mapM second).toOption.map (List.map change) := by
  induction values with
  | nil => rfl
  | cons value rest inductionHypothesis =>
    have behind := inductionHypothesis fun next among => same next (List.mem_cons_of_mem _ among)
    rw [List.map_cons, List.map_cons, List.mapM_cons, List.mapM_cons, toOption_bind, toOption_bind,
      same value List.mem_cons_self]
    cases (second (other value)).toOption with
    | none => rfl
    | some found =>
      simp only [Option.map_some, Option.bind_some]
      rw [toOption_bind, toOption_bind, behind]
      cases ((rest.map other).mapM second).toOption <;> rfl

theorem toOption_mapM_congr {first : α → Except ε β} {second : γ → Except ε β}
    (same : ∀ value ∈ values, (first (one value)).toOption = (second (other value)).toOption) :
    ((values.map one).mapM first).toOption = ((values.map other).mapM second).toOption := by
  have unchanged := toOption_mapM_eq id fun value among => (same value among).trans (by rw [Option.map_id_fun, id])
  rwa [List.map_id_fun, Option.map_id_fun, id] at unchanged

theorem toOption_foldlM_eq {first : β → α → Except ε β} {second : β → γ → Except ε β}
    (same : ∀ value ∈ values, ∀ state,
      (first state (one value)).toOption = (second state (other value)).toOption) (state : β) :
    ((values.map one).foldlM first state).toOption = ((values.map other).foldlM second state).toOption := by
  induction values generalizing state with
  | nil => rfl
  | cons value rest inductionHypothesis =>
    rw [List.map_cons, List.map_cons, List.foldlM_cons, List.foldlM_cons, toOption_bind, toOption_bind,
      same value List.mem_cons_self]
    congr 1
    funext next
    exact inductionHypothesis (fun later among => same later (List.mem_cons_of_mem _ among)) next

theorem toOption_forM_eq {first : α → Except ε Unit} {second : γ → Except ε Unit}
    (same : ∀ value ∈ values, (first (one value)).toOption = (second (other value)).toOption) :
    ((values.map one).forM first).toOption = ((values.map other).forM second).toOption := by
  induction values with
  | nil => rfl
  | cons value rest inductionHypothesis =>
    have behind := inductionHypothesis fun next among => same next (List.mem_cons_of_mem _ among)
    rw [List.map_cons, List.map_cons, List.forM_eq_forM, List.forM_eq_forM, List.forM_cons, List.forM_cons,
      toOption_bind, toOption_bind, same value List.mem_cons_self]
    exact congrArg _ (funext fun _ => behind)

end Except

/-- Whether an expression is a marker does not depend on where it stands. -/
theorem Expr.isMarker_map_eq {σ : Type} (first second : σ → Span) (expression : Expr σ) :
    (expression.map first).isMarker = (expression.map second).isMarker := by
  cases expression with
  | call _ callee => cases callee <;> rfl
  | _ => rfl

namespace Marker

variable {part whole : Text} {above : Nat} (isSetIn : part.IsSetIn whole above)

include isSetIn

theorem source_eq (expression : Expr (Span.Relocation above part.sourceLines.length))
    (hasTokens : expression.span.here.HasTokens) :
    (expression.map Span.Relocation.there).source whole = (expression.map Span.Relocation.here).source part := by
  rw [Expr.source, Expr.source, Expr.span_map, Expr.span_map, isSetIn.segment_eq hasTokens]

theorem decorator_eq {expression : Expr (Span.Relocation above part.sourceLines.length)}
    (hasTokens : expression.unpacks = false → expression.span.here.HasTokens) :
    (decorator whole (expression.map Span.Relocation.there)).toOption =
      (decorator part (expression.map Span.Relocation.here)).toOption := by
  have same := source_eq isSetIn expression
  cases expression with
  | starred => rfl
  | _ => exact congrArg Except.toOption (same (hasTokens rfl))

variable {inside : List (Expr (Span.Relocation above part.sourceLines.length))}
  {named : List (Keyword (Span.Relocation above part.sourceLines.length))}

/-- The same decorators are passed on. -/
theorem decorators_eq (hasTokens : ∀ value ∈ inside, value.unpacks = false → value.span.here.HasTokens)
    (identifier : String) (call : Span.Relocation above part.sourceLines.length) :
    (decorators whole ⟨identifier, call.there, Expr.mapAll Span.Relocation.there inside,
        Keyword.mapAll Span.Relocation.there named⟩).toOption =
      (decorators part ⟨identifier, call.here, Expr.mapAll Span.Relocation.here inside,
        Keyword.mapAll Span.Relocation.here named⟩).toOption := by
  cases named with
  | cons => rfl
  | nil =>
    unfold decorators
    simp only [Keyword.mapAll, Expr.mapAll_eq_map]
    exact Except.toOption_mapM_congr fun expression among => decorator_eq isSetIn (hasTokens expression among)

omit isSetIn

theorem override_eq {σ : Type} (first second : σ → Span) (identifier : String) (span : σ) (arguments : List (Expr σ))
    (keywords : List (Keyword σ)) :
    (override ⟨identifier, first span, Expr.mapAll first arguments, Keyword.mapAll first keywords⟩).toOption =
      (override ⟨identifier, second span, Expr.mapAll second arguments, Keyword.mapAll second keywords⟩).toOption := by
  cases keywords with
  | cons => rfl
  | nil =>
    match arguments with
    | [] => rfl
    | value :: [] | value :: _ :: _ => cases value <;> rfl

/-- Either there is no directive wherever the marker stands, or it is the single call. -/
theorem directive_cases {σ : Type} (span : σ) (arguments : List (Expr σ)) (keywords : List (Keyword σ)) :
    (∀ change : σ → Span,
      (directive (change span) (Expr.mapAll change arguments) (Keyword.mapAll change keywords)).toOption = none) ∨
    ∃ call own identifier inside named, arguments = [.call call (.name own identifier) inside named] ∧
      keywords = [] := by
  cases keywords with
  | cons => exact .inl fun _ => rfl
  | nil =>
    match arguments with
    | [] | _ :: _ :: _ => exact .inl fun _ => rfl
    | [argument] =>
      cases argument with
      | call call function inside named =>
        cases function with
        | name own identifier => exact .inr ⟨call, own, identifier, inside, named, rfl, rfl⟩
        | _ => exact .inl fun _ => rfl
      | _ => exact .inl fun _ => rfl

theorem toOption_addTo (text : Text) (options : Options) (span : Span) (callee : Expr) (arguments : List Expr)
    (keywords : List Keyword) : (addTo text options (.call span callee arguments keywords)).toOption =
      (directive span arguments keywords).toOption.bind fun found =>
        if found.name == "attr" then
          (decorators text found).toOption.map fun passed => { options with decorators := passed }
        else if found.name == "name" then
          (override found).toOption.map fun name => { options with override := some name }
        else none := by
  rw [addTo, Except.toOption_bind]
  congr 1
  funext found
  split
  · cases decorators text found <;> rfl
  · split
    · cases override found <;> rfl
    · rfl

include isSetIn

/-- A marker asks for the same in the whole. -/
theorem addTo_eq {marker : Expr (Span.Relocation above part.sourceLines.length)}
    (hasTokens : ∀ call ∈ marker.positional, ∀ value ∈ call.positional, value.unpacks = false →
      value.span.here.HasTokens) (options : Options) :
    (addTo whole options (marker.map Span.Relocation.there)).toOption =
      (addTo part options (marker.map Span.Relocation.here)).toOption := by
  cases marker with
  | call span callee arguments keywords =>
    rw [Expr.map, Expr.map, toOption_addTo, toOption_addTo]
    rcases directive_cases span arguments keywords with missing | ⟨call, own, identifier, inside, named, rfl, rfl⟩
    · rw [missing, missing]
      rfl
    · have single (change : Span.Relocation above part.sourceLines.length → Span) :
          (directive (change span) (Expr.mapAll change [.call call (.name own identifier) inside named])
            (Keyword.mapAll change [])).toOption =
          some ⟨identifier, change call, Expr.mapAll change inside, Keyword.mapAll change named⟩ := rfl
      have among : ∀ value ∈ inside, value.unpacks = false → value.span.here.HasTokens :=
        hasTokens _ List.mem_cons_self
      rw [single, single, Option.bind_some, Option.bind_some, decorators_eq isSetIn among,
        override_eq Span.Relocation.there Span.Relocation.here]
  | _ => rfl

omit isSetIn in
/-- The markers among decorators are the same ones wherever they stand. -/
theorem filter_isMarker {σ : Type} (known change : σ → Span) (decorators : List (Expr σ)) :
    (Expr.mapAll change decorators).filter Expr.isMarker =
      (decorators.filter fun decorator => (decorator.map known).isMarker).map (Expr.map change) := by
  rw [Expr.mapAll_eq_map, List.filter_map]
  congr 1
  exact List.filter_congr fun decorator _ => decorator.isMarker_map_eq change known

variable {decorators : List (Expr (Span.Relocation above part.sourceLines.length))}

theorem options_eq (hasTokens : ∀ decorator ∈ decorators, ∀ call ∈ decorator.positional,
      ∀ value ∈ call.positional, value.unpacks = false → value.span.here.HasTokens) :
    (options whole ((Expr.mapAll Span.Relocation.there decorators).filter Expr.isMarker)).toOption =
      (options part ((Expr.mapAll Span.Relocation.here decorators).filter Expr.isMarker)).toOption := by
  rw [filter_isMarker Span.Relocation.here, filter_isMarker Span.Relocation.here]
  exact Except.toOption_foldlM_eq (fun marker among options =>
    addTo_eq isSetIn (hasTokens marker (List.mem_filter.1 among).1) options) Options.none

/-- The lines of markers in the whole are those in the part, further down. -/
theorem mapM_lines_eq (hasTokens : ∀ decorator ∈ decorators, decorator.span.here.HasTokens) :
    (((Expr.mapAll Span.Relocation.there decorators).filter Expr.isMarker).mapM fun marker =>
        lines whole.displayLines (.ofSpan marker.span)).toOption =
      (((Expr.mapAll Span.Relocation.here decorators).filter Expr.isMarker).mapM fun marker =>
        lines part.displayLines (.ofSpan marker.span)).toOption.map
          (List.map fun lines => (lines.1 + (above : Int), lines.2 + (above : Int))) := by
  rw [filter_isMarker Span.Relocation.here, filter_isMarker Span.Relocation.here]
  refine Except.toOption_mapM_eq _ fun marker among => ?_
  rw [Expr.span_map, Expr.span_map]
  exact isSetIn.lines_eq (hasTokens marker (List.mem_filter.1 among).1)

end Marker

/-! ### Shapes and fields wherever a class stands -/

section

variable {σ : Type}

/-- The span, the name and the type of the field that a statement declares. -/
def Stmt.declaredField? : Stmt σ → Option (σ × String × Expr σ)
  | .declare span (.name _ identifier) type _ _ => if type.isFieldless then none else some (span, identifier, type)
  | _ => none

/-- A declaration with its spans in a text. -/
def Declaration.ofField (change : σ → Span) (field : σ × String × Expr σ) : Declaration :=
  ⟨change field.1, field.2.1, field.2.2.map change⟩

theorem Stmt.field?_map (change : σ → Span) (statement : Stmt σ) :
    (statement.map change).field? = statement.declaredField?.map (Declaration.ofField change) := by
  cases statement with
  | declare span target type value simple =>
    cases target with
    | name own identifier =>
      have declares : ((Stmt.declare span (.name own identifier) type value simple).map change).field? =
          if (type.map change).isFieldless then none
          else some ⟨change span, identifier, type.map change⟩ := rfl
      rw [declares, Expr.isFieldless_map, declaredField?]
      split <;> rfl
    | _ => rfl
  | _ => rfl

/-- The parts of a class, with spans that are left open. -/
structure ClassDefinition.Parts (σ : Type) where
  span : σ
  identifier : String
  bases : List (Expr σ)
  keywords : List (Keyword σ)
  body : List (Stmt σ)
  decorators : List (Expr σ)

variable (first second change : σ → Span) (parts : ClassDefinition.Parts σ)

namespace ClassDefinition.Parts

/-- A class with its spans in a text. -/
def toClass : ClassDefinition :=
  ⟨change parts.span, parts.identifier, Expr.mapAll change parts.bases, Keyword.mapAll change parts.keywords,
    Stmt.mapAll change parts.body, Expr.mapAll change parts.decorators⟩

theorem isMarked_toClass : (Definition.ofClass (parts.toClass first)).isMarked =
    (Definition.ofClass (parts.toClass second)).isMarked := by
  unfold Definition.isMarked Definition.decorators toClass
  dsimp only
  rw [Expr.mapAll_eq_map, Expr.mapAll_eq_map, List.any_map, List.any_map]
  congr 1
  funext decorator
  exact decorator.isMarker_map_eq first second

theorem declarations_toClass : (parts.toClass change).declarations =
    (parts.body.filterMap Stmt.declaredField?).map (Declaration.ofField change) := by
  rw [declarations, toClass, Stmt.mapAll_eq_map, List.filterMap_map, List.map_filterMap]
  congr 1
  funext statement
  exact statement.field?_map change

theorem positionalBase?_toClass : (parts.toClass change).positionalBase? =
    (parts.bases.find? (·.baseName == positionalName)).map (Expr.map change) := by
  rw [positionalBase?, toClass, Expr.mapAll_eq_map, List.find?_map]
  congr 2
  funext base
  rw [Function.comp_apply, Expr.baseName_map]

/-- The types of the fields of a class of a shape, with spans that are left open. -/
def fieldTypes (parts : Parts σ) : Shape → List (Expr σ)
  | .unit => []
  | .positional =>
    match parts.bases.find? (·.baseName == positionalName) with
    | some (.subscript _ _ index) => index.elements
    | _ => []
  | .named => (parts.body.filterMap Stmt.declaredField?).map (·.2.2)

theorem fieldTypes_toClass (shape : Shape) :
    (parts.toClass change).fieldTypes shape = (parts.fieldTypes shape).map (Expr.map change) := by
  cases shape with
  | unit => rfl
  | named =>
    rw [ClassDefinition.fieldTypes, declarations_toClass, fieldTypes, List.map_map, List.map_map]
    rfl
  | positional =>
    rw [ClassDefinition.fieldTypes, positionalBase?_toClass, fieldTypes]
    cases parts.bases.find? (·.baseName == positionalName) with
    | none => rfl
    | some base =>
      cases base with
      | subscript _ _ index =>
        simp only [Option.map_some, Expr.map]
        rw [Field.typesOfSubscript_eq, Expr.elements_map]
      | _ => rfl

theorem toOption_checkBase (definition : ClassDefinition) (base : Expr) :
    (definition.checkBase base).toOption =
      if enumerationBases.contains base.baseName ||
        (!fieldlessBases.contains base.baseName && base.baseName != positionalName) then none else some () := by
  unfold checkBase
  by_cases enumerates : enumerationBases.contains base.baseName = true
  · simp only [enumerates]
    rfl
  · by_cases inherits : (!fieldlessBases.contains base.baseName && base.baseName != positionalName) = true
    · simp only [Bool.eq_false_iff.2 enumerates, inherits]
      cases base.print? <;> rfl
    · simp only [Bool.eq_false_iff.2 enumerates, Bool.eq_false_iff.2 inherits]
      rfl

theorem toOption_shape_toClass : (parts.toClass first).shape.toOption = (parts.toClass second).shape.toOption := by
  have checked : ((Expr.mapAll first parts.bases).forM (parts.toClass first).checkBase).toOption =
      ((Expr.mapAll second parts.bases).forM (parts.toClass second).checkBase).toOption := by
    rw [Expr.mapAll_eq_map, Expr.mapAll_eq_map]
    refine Except.toOption_forM_eq fun base _ => ?_
    rw [toOption_checkBase, toOption_checkBase, Expr.baseName_map, Expr.baseName_map]
  unfold shape
  rw [declarations_toClass, declarations_toClass, positionalBase?_toClass, positionalBase?_toClass,
    Except.toOption_bind, Except.toOption_bind]
  refine congr (congrArg Option.bind checked) (funext fun _ => ?_)
  cases parts.bases.find? (·.baseName == positionalName) with
  | none => cases parts.body.filterMap Stmt.declaredField? <;> rfl
  | some base => cases base <;> cases parts.body.filterMap Stmt.declaredField? <;> rfl

end ClassDefinition.Parts

/-- A quoted type says the same in every text. -/
theorem Expr.typeText_map_eq {expression : Expr σ} (quoted : expression.literalText?.isSome) (one other : Text) :
    (expression.map first).typeText one = (expression.map second).typeText other := by
  obtain ⟨value, isText⟩ := Option.isSome_iff_exists.1 quoted
  rw [Expr.typeText, Expr.typeText, Expr.literalText?_map, Expr.literalText?_map, isText]

namespace Field

variable (one other : Text)

theorem toOption_ofTypes_eq {types : List (Expr σ)} (quoted : ∀ type ∈ types, type.literalText?.isSome) :
    (ofTypes one (types.map (Expr.map first))).toOption = (ofTypes other (types.map (Expr.map second))).toOption := by
  have numbered (change : σ → Span) : (types.map (Expr.map change)).zipIdx =
      types.zipIdx.map (Prod.map (Expr.map change) id) := by
    rw [List.zipIdx_map]
  rw [ofTypes, ofTypes, numbered, numbered]
  refine Except.toOption_mapM_congr fun (type, index) among => ?_
  have isQuoted := quoted type (List.fst_mem_of_mem_zipIdx among)
  simp only [Prod.map_apply, id, Expr.typeText_map_eq first second isQuoted one other]

theorem toOption_ofDeclarations_eq (className : String) {fields : List (σ × String × Expr σ)}
    (quoted : ∀ field ∈ fields, field.2.2.literalText?.isSome) :
    (ofDeclarations one className (fields.map (Declaration.ofField first))).toOption =
      (ofDeclarations other className (fields.map (Declaration.ofField second))).toOption := by
  refine Except.toOption_foldlM_eq (fun field among fields => ?_) []
  unfold addDeclared Declaration.ofField
  dsimp only
  rw [Expr.typeText_map_eq first second (quoted field among) one other]
  by_cases isPrivate : isPrivateName field.2.1 = true
  · rw [if_pos isPrivate, if_pos isPrivate]
    rfl
  · rw [if_neg isPrivate, if_neg isPrivate]
    by_cases isKnown : (fields.any fun known => known.name == Text.ofString field.2.1) = true
    · rw [if_pos isKnown, if_pos isKnown]
      rfl
    · rw [if_neg isKnown, if_neg isKnown]

/-- The fields of a class with quoted types are the same wherever it stands. -/
theorem toOption_ofClass_eq {shape : Shape} (quoted : ∀ type ∈ parts.fieldTypes shape, type.literalText?.isSome) :
    (ofClass one (parts.toClass first) shape).toOption = (ofClass other (parts.toClass second) shape).toOption := by
  cases shape with
  | unit => rfl
  | named =>
    unfold ofClass
    dsimp only
    rw [parts.declarations_toClass, parts.declarations_toClass]
    exact toOption_ofDeclarations_eq first second one other parts.identifier fun field among =>
      quoted _ (List.mem_map.2 ⟨field, among, rfl⟩)
  | positional =>
    rw [ofClass_positional, ofClass_positional, parts.fieldTypes_toClass, parts.fieldTypes_toClass]
    exact toOption_ofTypes_eq first second one other quoted

end Field

/-- All types of fields that a class may have are quoted. -/
def ClassDefinition.IsQuoted (definition : ClassDefinition) : Prop :=
  ∀ shape, ∀ type ∈ definition.fieldTypes shape, type.literalText?.isSome

theorem ClassDefinition.Parts.isQuoted_toClass_iff : (parts.toClass change).IsQuoted ↔
    ∀ shape, ∀ type ∈ parts.fieldTypes shape, type.literalText?.isSome := by
  unfold IsQuoted
  simp only [fieldTypes_toClass, List.forall_mem_map, Expr.literalText?_map]

end

namespace Block

/-- A block further down. -/
def moveDown (above : Nat) (block : Block) : Block :=
  { block with
    stop := block.stop + above
    markerLines := block.markerLines.map fun lines => (lines.1 + (above : Int), lines.2 + (above : Int)) }

/-- A block is made of what the markers ask for, the shape, the fields and the lines of the markers. -/
theorem toOption_ofClass (text : Text) (display : List Text) (definition : ClassDefinition) :
    (ofClass text display definition).toOption =
      (Marker.options text (definition.decorators.filter Expr.isMarker)).toOption.bind fun options =>
        definition.shape.toOption.bind fun shape =>
          (Field.ofClass text definition shape).toOption.bind fun fields =>
            ((definition.decorators.filter Expr.isMarker).mapM fun marker =>
              Marker.lines display (.ofSpan marker.span)).toOption.map fun markerLines =>
                ⟨definition.identifier, shape, definition.span.stop.line, options, fields, markerLines⟩ := by
  unfold ofClass
  simp only [Except.toOption_bind, Except.toOption_pure, Option.map_eq_bind, Function.comp_def]

/-- A class has the same block in a text around its own, further down. -/
theorem toOption_ofClass_eq {part whole : Text} {above : Nat} (isSetIn : part.IsSetIn whole above)
    {parts : ClassDefinition.Parts (Span.Relocation above part.sourceLines.length)}
    (placed : parts.span.here.stop ≠ default)
    (hasTokens : ∀ decorator ∈ parts.decorators, decorator.span.here.HasTokens ∧ ∀ call ∈ decorator.positional,
      ∀ value ∈ call.positional, value.unpacks = false → value.span.here.HasTokens)
    (quoted : (parts.toClass Span.Relocation.here).IsQuoted) :
    (ofClass whole whole.displayLines (parts.toClass Span.Relocation.there)).toOption =
      (ofClass part part.displayLines (parts.toClass Span.Relocation.here)).toOption.map (moveDown above) := by
  have stop : parts.span.there.stop = parts.span.here.stop.moveDown above :=
    parts.span.property.stop.resolve_right fun none => placed none.1
  have options := Marker.options_eq isSetIn fun decorator among => (hasTokens decorator among).2
  have markers := Marker.mapM_lines_eq isSetIn fun decorator among => (hasTokens decorator among).1
  have shapes := parts.toOption_shape_toClass Span.Relocation.there Span.Relocation.here
  have fields (shape : Shape) := Field.toOption_ofClass_eq Span.Relocation.there Span.Relocation.here parts whole part
    (((parts.isQuoted_toClass_iff _).1 quoted) shape)
  rw [toOption_ofClass, toOption_ofClass, shapes]
  simp only [fields, Option.map_bind, Option.map_map, Function.comp_def]
  simp only [ClassDefinition.Parts.toClass] at *
  rw [options, markers]
  simp only [Option.map_map, Function.comp_def, stop, Position.moveDown, moveDown, Int.natCast_add]

end Block

/-! ### Decorators have tokens -/

theorem Expr.positional_map {σ τ : Type} (change : σ → τ) (expression : Expr σ) :
    (expression.map change).positional = expression.positional.map (Expr.map change) := by
  cases expression with
  | call _ _ positional _ => exact mapAll_eq_map change positional
  | _ => rfl

theorem Expr.unpacks_map {σ τ : Type} (change : σ → τ) (expression : Expr σ) :
    (expression.map change).unpacks = expression.unpacks := by
  cases expression <;> rfl

theorem Expr.IsWritten.hasTokens {depth : Nat} {source : List Char} {expression : Expr}
    (isWritten : expression.IsWritten depth source) : expression.span.HasTokens := by
  obtain ⟨front, pieces, _, _, -, span, -⟩ := isWritten
  have numbered (characters : List Char) : advanceAll ⟨1, 0⟩ characters ≠ default := by
    intro none
    have line := line_le_advanceAll ⟨1, 0⟩ characters
    rw [none] at line
    exact absurd line (by decide)
  rw [span]
  exact ⟨numbered _, numbered _⟩

namespace Module

/-- What holds of every decorator that a group is read as holds of the decorators of the classes. -/
theorem decorators_of_ofGroups? {valid : Expr → Prop} {decorators : List Expr}
    {groups : List (List TokenKind × (Extent → Span))} {statements : List Stmt}
    (read : ofGroups? decorators groups = some statements) (pending : ∀ decorator ∈ decorators, valid decorator)
    (each : ∀ group ∈ groups, ∀ found, StatementGrammar.wholeDecorator? group.1 = some found →
      valid (found.map group.2)) :
    ∀ definition ∈ statements.filterMap Stmt.class?, ∀ decorator ∈ definition.decorators, valid decorator := by
  induction groups generalizing decorators statements with
  | nil =>
    unfold ofGroups? at read
    split at read
    · cases read
      exact List.forall_mem_nil _
    · cases read
  | cons group rest inductionHypothesis =>
    obtain ⟨kinds, span⟩ := group
    have later := fun group among => each group (List.mem_cons_of_mem _ among)
    rw [ofGroups?] at read
    split at read
    · obtain ⟨found, isFound, read⟩ := Option.bind_eq_some_iff.1 read
      refine inductionHypothesis read (fun decorator among => ?_) later
      rcases List.mem_append.1 among with before | same
      · exact pending decorator before
      · cases List.mem_singleton.1 same
        exact each _ List.mem_cons_self found isFound
    · next plain =>
      obtain ⟨found, isFound, read⟩ := Option.bind_eq_some_iff.1 read
      obtain ⟨decorated, decorates, read⟩ := Option.bind_eq_some_iff.1 read
      obtain ⟨others, readRest, same⟩ := Option.bind_eq_some_iff.1 read
      cases same
      have behind := inductionHypothesis readRest (List.forall_mem_nil _) later
      rw [List.filterMap_append]
      intro definition among
      refine (List.mem_append.1 among).elim (fun first => ?_) (behind definition)
      rw [Stmt.mapAll_eq_map] at decorates
      have without (none : decorated.filterMap Stmt.class? = []) : False := by
        rw [none] at first
        cases first
      rcases StatementGrammar.cases_of_wholeStatement? isFound (by simpa using plain) with
        simple | ⟨statement, rfl, holds | ⟨-, bare⟩⟩
      · refine (without (filterMap_class?_of_decorate? decorates fun made isMade => ?_)).elim
        obtain ⟨written, there, rfl⟩ := List.mem_map.1 isMade
        exact Stmt.class?_of_isSimple ((written.isSimple_map _).trans (simple written there))
      · refine (without (filterMap_class?_of_decorate? decorates fun made isMade => ?_)).elim
        cases List.mem_singleton.1 isMade
        exact Stmt.class?_of_holdsBlocks ((statement.holdsBlocks_map _).trans holds)
      · obtain ⟨made, rfl, -, given⟩ := eq_singleton_of_decorate? decorates
          (by rw [Stmt.decorators_map, bare]; rfl)
        obtain ⟨statement, isOne, isClass⟩ := List.mem_filterMap.1 first
        cases List.mem_singleton.1 isOne
        rw [(Stmt.span_of_class? isClass).2, given]
        exact pending

/-- The decorators of a class stand for tokens, and so do the arguments of a call in a decorator's
parentheses. -/
theorem hasTokens_of_decorator {text : Text} {module : Module} (parsed : ofText text = .ok module)
    {definition : ClassDefinition} (isClass : definition ∈ module.filterMap Stmt.class?) :
    ∀ decorator ∈ definition.decorators, decorator.span.HasTokens ∧ ∀ call ∈ decorator.positional,
      ∀ value ∈ call.positional, value.unpacks = false → value.span.HasTokens := by
  obtain ⟨_, source, _, _, -, -, -, -, -, -, parsed⟩ := exists_of_ofText parsed
  obtain ⟨lines, isSource, parsed⟩ := Option.bind_eq_some_iff.1 parsed
  obtain ⟨tokens, laid, read⟩ := Option.bind_eq_some_iff.1 parsed
  refine decorators_of_ofGroups? read nofun (fun group isGroup found isFound => ?_) definition isClass
  obtain ⟨own, among, rfl⟩ := List.mem_map.1 isGroup
  obtain ⟨behind, stands⟩ := StatementGrammar.standsBefore_of_wholeDecorator? isFound
  refine ⟨(isWritten_of_standsBefore isSource laid among stands (.inl rfl)).hasTokens, ?_⟩
  intro call isCall value isValue packed
  rw [Expr.positional_map] at isCall
  obtain ⟨inside, isInside, rfl⟩ := List.mem_map.1 isCall
  rw [Expr.positional_map] at isValue
  obtain ⟨written, isWritten, rfl⟩ := List.mem_map.1 isValue
  rw [Expr.unpacks_map] at packed
  obtain ⟨after, -, stands⟩ := StatementGrammar.standsBefore_of_argument isFound isInside isWritten packed
  exact (isWritten_of_standsBefore isSource laid among stands (.inl rfl)).hasTokens

end Module

end DifferenceTypes
