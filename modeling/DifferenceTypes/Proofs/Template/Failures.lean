import DifferenceTypes.Proofs.Generation.LineEdits
import DifferenceTypes.Proofs.Syntax.Nesting

/-!
# Templates that cannot be read

Reading a template can fail with a fault of one place in it or with text that is no syntax, which are
reported, and in other ways, which are not. For a text that was decoded there are three of these: it holds
the character with number zero; a marked class has a base that cannot be printed; or display lines are
numbered otherwise than source lines down to the end of a marked class, and a marker of this class is looked
up on the wrong line (`Template.unreported_of_read`). Nothing else that is cut out of the text can fail: the
columns of syntax are between its characters.
-/

namespace DifferenceTypes

/-- A computation fails with errors of a kind only. -/
def FailsOnly {ε α : Type} (valid : ε → Prop) (computation : Except ε α) : Prop :=
  ∀ error, computation = .error error → valid error

namespace FailsOnly

variable {ε α β : Type} {valid : ε → Prop}

theorem of_ok {computation : Except ε α} {value : α} (done : computation = .ok value) :
    FailsOnly valid computation := by
  intro error failed
  exact nomatch done.symm.trans failed

theorem of_error {error : ε} (holds : valid error) :
    FailsOnly valid (.error error : Except ε α) := by
  intro other failed
  cases failed
  exact holds

theorem bind {first : Except ε α} {next : α → Except ε β} (here : FailsOnly valid first)
    (later : ∀ value, first = .ok value → FailsOnly valid (next value)) :
    FailsOnly valid (first >>= next) := by
  intro error failed
  cases done : first with
  | error own =>
    rw [done] at failed
    cases failed
    exact here error done
  | ok value =>
    rw [done] at failed
    exact later value done error failed

theorem mono {other : ε → Prop} {computation : Except ε α} (fails : FailsOnly valid computation)
    (more : ∀ error, valid error → other error) : FailsOnly other computation :=
  fun error failed => more error (fails error failed)

theorem mapM {values : List α} {function : α → Except ε β}
    (each : ∀ value ∈ values, FailsOnly valid (function value)) : FailsOnly valid (values.mapM function) := by
  induction values with
  | nil => exact of_ok rfl
  | cons value rest inductionHypothesis =>
    rw [List.mapM_cons]
    refine bind (each value List.mem_cons_self) fun first _ => ?_
    exact bind (inductionHypothesis fun other among => each other (List.mem_cons_of_mem _ among))
      fun others _ => of_ok rfl

theorem forM {values : List α} {function : α → Except ε Unit}
    (each : ∀ value ∈ values, FailsOnly valid (function value)) : FailsOnly valid (values.forM function) := by
  induction values with
  | nil => exact of_ok rfl
  | cons value rest inductionHypothesis =>
    exact bind (each value List.mem_cons_self) fun _ _ =>
      inductionHypothesis fun other among => each other (List.mem_cons_of_mem _ among)

theorem foldlM {values : List β} {function : α → β → Except ε α}
    (each : ∀ value ∈ values, ∀ state, FailsOnly valid (function state value)) (state : α) :
    FailsOnly valid (values.foldlM function state) := by
  induction values generalizing state with
  | nil => exact of_ok rfl
  | cons value rest inductionHypothesis =>
    rw [List.foldlM_cons]
    exact bind (each value List.mem_cons_self state) fun next _ =>
      inductionHypothesis (fun other among => each other (List.mem_cons_of_mem _ among)) next

end FailsOnly

/-- Whether an error is put into words for the user. -/
def TemplateError.isReported : TemplateError → Bool
  | .fault .. | .invalidSyntax => true
  | _ => false

/-! ### Spans inside -/

/-- All spans in an expression have a property. -/
def Expr.AllSpans (valid : Span → Prop) (expression : Expr) : Prop :=
  ∃ marked : Expr { span // valid span }, expression = marked.map Subtype.val

namespace Expr.AllSpans

variable {valid : Span → Prop}

theorem span {expression : Expr} (all : AllSpans valid expression) : valid expression.span := by
  obtain ⟨marked, rfl⟩ := all
  rw [span_map]
  exact marked.span.property

theorem of_mem {marked : List (Expr { span // valid span })} {expression : Expr}
    (among : expression ∈ mapAll Subtype.val marked) : AllSpans valid expression := by
  rw [mapAll_eq_map] at among
  obtain ⟨inside, -, rfl⟩ := List.mem_map.1 among
  exact ⟨inside, rfl⟩

theorem arguments {span : Span} {function : Expr} {arguments : List Expr} {keywords : List Keyword}
    (all : AllSpans valid (.call span function arguments keywords)) :
    ∀ argument ∈ arguments, AllSpans valid argument := by
  obtain ⟨marked, same⟩ := all
  cases marked with
  | call =>
    cases same
    exact fun argument among => of_mem among
  | _ => exact nomatch same

theorem index {span : Span} {value index : Expr} (all : AllSpans valid (.subscript span value index)) :
    AllSpans valid index := by
  obtain ⟨marked, same⟩ := all
  cases marked with
  | subscript =>
    cases same
    exact ⟨_, rfl⟩
  | _ => exact nomatch same

theorem types {index : Expr} (all : AllSpans valid index) :
    ∀ type ∈ Field.typesOfSubscript index, AllSpans valid type := by
  intro type among
  cases index with
  | tuple =>
    obtain ⟨marked, same⟩ := all
    cases marked with
    | tuple =>
      cases same
      exact of_mem among
    | _ => exact nomatch same
  | _ =>
    obtain rfl := List.mem_singleton.1 among
    exact all

end Expr.AllSpans

/-- All spans in a class have a property, as far as a block is made from them. -/
structure ClassDefinition.AllSpans (valid : Span → Prop) (definition : ClassDefinition) : Prop where
  decorators : ∀ decorator ∈ definition.decorators, decorator.AllSpans valid
  bases : ∀ base ∈ definition.bases, base.AllSpans valid
  declarations : ∀ declaration ∈ definition.declarations, declaration.type.AllSpans valid

theorem Stmt.allSpans_of_field? {valid : Span → Prop} {marked : Stmt { span // valid span }}
    {declaration : Declaration} (declares : (marked.map Subtype.val).field? = some declaration) :
    declaration.type.AllSpans valid := by
  cases marked with
  | declare span target type value simple =>
    cases target with
    | name own identifier =>
      have declares : (if (type.map Subtype.val).isFieldless then none
          else some ⟨span.val, identifier, type.map Subtype.val⟩) = some declaration := declares
      split at declares
      · exact nomatch declares
      · cases declares
        exact ⟨type, rfl⟩
    | _ => exact nomatch declares
  | _ => exact nomatch declares

/-- The spans of a class are those of the text, wherever the class stands in the module. -/
theorem Module.allSpans_of_standsAt {text : Text} {module : Module} (parsed : ofText text = .ok module)
    {depth : Nat} {statement : Stmt} (stands : StandsAt depth module statement) {definition : ClassDefinition}
    (isClass : statement.class? = some definition) :
    definition.AllSpans (Span.IsOf text) := by
  obtain ⟨marked, rfl⟩ := exists_isOf parsed
  obtain ⟨written, -, rfl⟩ := stands.exists_of_mapAll
  cases written with
  | classDefinition span identifier bases keywords body decorators =>
    cases isClass
    refine ⟨fun decorator => Expr.AllSpans.of_mem, fun base => Expr.AllSpans.of_mem, ?_⟩
    intro declaration declared
    obtain ⟨inside, among, declares⟩ := List.mem_filterMap.1 declared
    rw [Stmt.mapAll_eq_map] at among
    obtain ⟨written, -, rfl⟩ := List.mem_map.1 among
    exact Stmt.allSpans_of_field? declares
  | _ => exact nomatch isClass

theorem Module.allSpans_of_class? {text : Text} {module : Module} (parsed : ofText text = .ok module)
    {statement : Stmt} (among : statement ∈ module) {definition : ClassDefinition}
    (isClass : statement.class? = some definition) : definition.AllSpans (Span.IsOf text) :=
  allSpans_of_standsAt parsed (.here among) isClass

theorem Module.allSpans_of_markedTop {text : Text} {module : Module} (parsed : ofText text = .ok module)
    {definition : ClassDefinition} (isTop : definition ∈ module.markedTop) :
    definition.AllSpans (Span.IsOf text) := by
  obtain ⟨statement, among, isClass⟩ := List.mem_filterMap.1 (List.mem_filter.1 isTop).1
  exact allSpans_of_class? parsed among isClass

/-! ### What can fail -/

section Reported

variable {characters : List Char} {text : Text} (isText : text = Text.ofCharacters characters)

include isText

theorem Expr.AllSpans.exists_source {expression : Expr} (all : expression.AllSpans (Span.IsOf text)) :
    ∃ part, expression.source text = .ok part := by
  subst isText
  obtain ⟨part, cut⟩ := Text.exists_segment all.span
  exact ⟨part, by rw [source, cut]; rfl⟩

theorem Expr.AllSpans.failsOnly_source {expression : Expr}
    (all : expression.AllSpans (Span.IsOf text)) :
    FailsOnly (fun error => error.isReported = true) (expression.source text) := by
  obtain ⟨part, cut⟩ := all.exists_source isText
  exact .of_ok cut

theorem Expr.AllSpans.failsOnly_typeText {type : Expr} (all : type.AllSpans (Span.IsOf text)) :
    FailsOnly (fun error => error.isReported = true) (type.typeText text) := by
  unfold typeText
  split
  · exact .of_ok rfl
  · intro error failed
    cases cut : type.source text with
    | ok part =>
      rw [cut] at failed
      exact nomatch failed
    | error own =>
      rw [cut] at failed
      cases failed
      exact all.failsOnly_source isText error cut

/-- What a marker asks for is there or at fault. -/
theorem Marker.failsOnly_addTo {marker : Expr} (all : marker.AllSpans (Span.IsOf text)) (options : Options) :
    FailsOnly (fun error => error.isReported = true) (addTo text options marker) := by
  cases marker with
  | call span function arguments keywords =>
    unfold addTo
    have inside {found : Directive} (given : directive span arguments keywords = .ok found) :
        ∀ argument ∈ found.arguments, argument.AllSpans (Span.IsOf text) := by
      unfold directive at given
      split at given
      case h_4 =>
        cases given
        exact (all.arguments _ List.mem_cons_self).arguments
      all_goals exact nomatch given
    refine .bind ?_ fun found given => ?_
    · unfold directive
      split
      all_goals first | exact .of_error rfl | exact .of_ok rfl
    · split
      · refine .bind ?_ fun _ _ => .of_ok rfl
        unfold decorators
        split
        · exact .of_error rfl
        · refine .mapM fun argument among => ?_
          have spans := inside given argument among
          unfold decorator
          split
          · exact .of_error rfl
          · exact spans.failsOnly_source isText
      · split
        · refine .bind ?_ fun _ _ => .of_ok rfl
          unfold override
          split
          · exact .of_ok rfl
          · exact .of_error rfl
        · exact .of_error rfl
  | _ => exact .of_ok rfl

theorem Field.failsOnly_ofClass {definition : ClassDefinition} (all : definition.AllSpans (Span.IsOf text))
    (shape : Shape) : FailsOnly (fun error => error.isReported = true) (ofClass text definition shape) := by
  unfold ofClass
  split
  · exact .of_ok rfl
  · split
    · next isBase =>
      have base := (all.bases _ (List.mem_of_find?_eq_some isBase)).index
      refine .mapM fun type among => ?_
      have inside := base.types _ (List.fst_mem_of_mem_zipIdx among)
      exact .bind (inside.failsOnly_typeText isText) fun _ _ => .of_ok rfl
    · exact .of_ok rfl
  · refine .foldlM (fun declaration among fields => ?_) []
    unfold addDeclared
    split
    · exact .of_error rfl
    · split
      · exact .of_error rfl
      · exact .bind ((all.declarations _ among).failsOnly_typeText isText) fun _ _ => .of_ok rfl

/-- A place that syntax names is between characters of the display line of its number, where lines are
numbered alike down to there. -/
theorem Text.exists_line {position : Position} {count : Nat} (cuts : text.CutsAt position)
    (positive : position = default ∨ 1 ≤ position.line) (alike : text.NumbersAlike count)
    (inside : position.line ≤ count) (there : position.line ≤ text.sourceLines.length) (some_ : text ≠ []) :
    ∃ before after, Marker.line? text.displayLines position.line = some (ofCharacters (before ++ after)) ∧
      position.column = (Utf8.encodeCharacters before).length := by
  subst isText
  rcases positive with rfl | positive
  · -- Line zero is the last one.
    obtain ⟨line, lines, isLast⟩ : ∃ line lines, (ofCharacters characters).displayLines = lines ++ [line] := by
      rcases List.eq_nil_or_concat (ofCharacters characters).displayLines with none | ⟨lines, line, split⟩
      · have whole := flatten_linesEndingAt CodePoint.endsDisplayLine (ofCharacters characters)
        rw [show linesEndingAt CodePoint.endsDisplayLine (ofCharacters characters) = [] from none] at whole
        exact absurd whole.symm some_
      · exact ⟨line, lines, by rw [split, List.concat_eq_append]⟩
    obtain ⟨inside, rfl⟩ : ∃ inside, line = ofCharacters inside :=
      exists_ofCharacters_of_mem (show line ∈ (ofCharacters characters).displayLines by simp [isLast])
    refine ⟨[], inside, ?_, rfl⟩
    have index : (((lines ++ [ofCharacters inside]).length : Int) + ((default : Position).line : Int) - 1).toNat =
        lines.length := by
      rw [List.length_append, List.length_singleton]
      have zero : (default : Position).line = 0 := rfl
      omega
    have least : ¬((lines ++ [ofCharacters inside]).length : Int) + ((default : Position).line : Int) - 1 < 0 := by
      rw [List.length_append, List.length_singleton]
      omega
    rw [Marker.line?, isLast]
    simp only [if_pos (show ((default : Position).line : Int) ≤ 0 from Int.le_refl 0), if_neg least, index]
    simp
  · obtain ⟨before, after, line, column⟩ := cuts.exists_between
    refine ⟨before, after, alike.line? inside ?_, column⟩
    rw [sourceLine?, if_neg (by omega)]
    rwa [List.getElem?_eq_getElem (by omega), Option.getD_some, ← Option.some_inj,
      ← List.getElem?_eq_getElem] at line

/-- Looking up the lines of a marker does not fail for another reason than what stands there, where lines are
numbered alike down to its end. -/
theorem Marker.failsOnly_lines {span : Span} (isOf : span.IsOf text) {count : Nat}
    (alike : text.NumbersAlike count) (first : span.start.line ≤ count) (last : span.stop.line ≤ count)
    (there : span.start.line ≤ text.sourceLines.length) (some_ : text ≠ []) :
    FailsOnly (fun error => error.isReported = true) (lines text.displayLines (.ofSpan span)) := by
  obtain ⟨before, after, isFirst, start⟩ :=
    Text.exists_line isText isOf.start isOf.startLine alike first there some_
  obtain ⟨front, behind, isLast, stop⟩ :=
    Text.exists_line isText isOf.stop isOf.stopLine alike last isOf.last some_
  unfold lines Place.ofSpan
  dsimp only
  rw [isFirst, isLast, start, stop]
  refine .bind (.of_ok rfl) fun opening same => ?_
  cases same
  refine .bind (.of_ok (congrArg (Except.mapError _) (Text.upToColumn_ofCharacters before after)))
    fun opened _ => ?_
  split
  · exact .of_error rfl
  · refine .bind (.of_ok rfl) fun closing same => ?_
    cases same
    refine .bind (.of_ok (congrArg (Except.mapError _) (Text.fromColumn_ofCharacters front behind)))
      fun closed _ => ?_
    split
    · exact .of_error rfl
    · exact .of_ok rfl

end Reported

/-- Marked definitions that may not be marked are faults. -/
theorem Module.failsOnly_markedClasses (module : Module) :
    FailsOnly (fun error => error.isReported = true) module.markedClasses := by
  have each (isTop : Bool) (definition : Definition) :
      FailsOnly (fun error => error.isReported = true) (Definition.checkMarked isTop definition) := by
    unfold Definition.checkMarked
    split
    · exact .of_error rfl
    · split
      · exact .of_ok rfl
      · exact .of_error rfl
  unfold markedClasses
  split
  · exact .of_ok rfl
  · refine .bind (.mapM fun definition _ => each true definition) fun classes _ => ?_
    refine .bind (.forM fun definition _ => ?_) fun _ _ => .of_ok rfl
    split
    · exact .bind (each false definition) fun _ _ => .of_ok rfl
    · exact .of_ok rfl

/-- A shape is at fault, or a base that would have to be named cannot be printed. -/
theorem ClassDefinition.failsOnly_shape (definition : ClassDefinition) :
    FailsOnly (fun error => error.isReported = true ∨
      ∃ base ∈ definition.bases, ∃ own, base.print? = .error own ∧ error = .unprintable own)
      definition.shape := by
  refine .bind (.forM fun base isBase => ?_) fun _ _ => ?_
  · unfold checkBase
    split
    · exact .of_error (.inl rfl)
    · split
      · refine .bind ?_ fun _ _ => .of_error (.inl rfl)
        cases printed : base.print? with
        | ok text => exact .of_ok rfl
        | error own => exact .of_error (.inr ⟨base, isBase, own, printed, rfl⟩)
      · exact .of_ok rfl
  · split
    · exact .of_ok rfl
    · exact .of_error (.inl rfl)
    · exact .of_error (.inl rfl)
    · exact .of_ok rfl
    · exact .of_ok rfl

namespace Template

/-- Why a text fails as a template in a way that is not reported. -/
inductive Unreported (text : Text) : TemplateError → Prop where
  | nullCharacter (holds : .scalar '\x00' ∈ text) : Unreported text .nullCharacter
  | unprintable {module : Module} {definition : ClassDefinition} {base : Expr} {error : Printer.PrintError}
      (parsed : Module.ofText text = .ok module) (isTop : definition ∈ module.markedTop)
      (isBase : base ∈ definition.bases) (failed : base.print? = .error error) :
      Unreported text (.unprintable error)
  /-- A marker is looked up by the number of its source line, and another display line has it. -/
  | shifted {module : Module} {definition : ClassDefinition} {marker : Expr} {error : TemplateError}
      (parsed : Module.ofText text = .ok module) (isTop : definition ∈ module.markedTop)
      (isDecorator : marker ∈ definition.decorators) (isMarker : marker.isMarker = true)
      (shifts : ¬text.NumbersAlike definition.span.stop.line)
      (failed : Marker.lines text.displayLines (.ofSpan marker.span) = .error error) :
      Unreported text error

variable {characters : List Char} {text : Text}

/-- A marked class fails to give its block for a reason that is reported, or for one of these. -/
theorem failsOnly_ofClass (isText : text = Text.ofCharacters characters) {module : Module}
    (parsed : Module.ofText text = .ok module) {definition : ClassDefinition}
    (isTop : definition ∈ module.markedTop) :
    FailsOnly (fun error => error.isReported = true ∨ Unreported text error)
      (Block.ofClass text text.displayLines definition) := by
  have all := Module.allSpans_of_markedTop parsed isTop
  have bound := Module.stop_line_le_of_markedTop parsed isTop
  unfold Block.ofClass
  dsimp only
  refine .bind ?_ fun options _ => .bind ?_ fun shape _ => .bind ?_ fun fields _ => .bind ?_ fun lines _ =>
    .of_ok rfl
  · refine FailsOnly.mono (.foldlM (fun marker among found => ?_) _) fun _ => .inl
    exact Marker.failsOnly_addTo isText (all.decorators marker (List.mem_filter.1 among).1) found
  · refine definition.failsOnly_shape.mono fun error => Or.imp_right ?_
    rintro ⟨base, isBase, own, failed, rfl⟩
    exact .unprintable parsed isTop isBase failed
  · exact (Field.failsOnly_ofClass isText all shape).mono fun _ => .inl
  · refine .mapM fun marker among => ?_
    obtain ⟨isDecorator, isMarker⟩ := List.mem_filter.1 among
    by_cases alike : text.NumbersAlike definition.span.stop.line
    · obtain ⟨positive, own⟩ := (Module.areBelow_markedTop parsed).of_mem isTop
      obtain ⟨-, first, last⟩ := own marker isDecorator
      have some_ : text ≠ [] := by
        rintro rfl
        exact absurd bound (by simpa [Text.sourceLines, Text.linesEndingAt] using positive.ne')
      exact (Marker.failsOnly_lines isText (all.decorators marker isDecorator).span alike first.le last.le
        (first.le.trans bound) some_).mono fun _ => .inl
    · intro error failed
      exact .inr (.shifted parsed isTop isDecorator isMarker alike failed)

/-- Blocks fail as each of their classes does, or with a name that is taken. -/
theorem failsOnly_ofClasses {display : List Text} {classes : List ClassDefinition}
    {valid : TemplateError → Prop}
    (each : ∀ definition ∈ classes, FailsOnly valid (Block.ofClass text display definition))
    (reported : ∀ error : TemplateError, error.isReported = true → valid error) (taken : List Text) :
    FailsOnly valid (Block.ofClasses text display taken classes) := by
  induction classes generalizing taken with
  | nil => exact .of_ok rfl
  | cons definition rest inductionHypothesis =>
    unfold Block.ofClasses
    refine .bind (each definition List.mem_cons_self) fun block _ => .bind ?_ fun _ _ => .bind
      (inductionHypothesis (fun other among => each other (List.mem_cons_of_mem _ among)) _) fun _ _ => .of_ok rfl
    refine .forM fun name _ => ?_
    split
    · exact .of_error (reported _ rfl)
    · exact .of_ok rfl

/-- A decoded text fails as a template for a reason that is reported, or for one of three others. -/
theorem unreported_of_read (isText : text = Text.ofCharacters characters) {error : TemplateError}
    (failed : read text = .error error) (isSilent : error.isReported = false) : Unreported text error := by
  have fails : FailsOnly (fun error => error.isReported = true ∨ Unreported text error) (read text) := by
    unfold read
    refine .bind ?_ fun module parsed => .bind (module.failsOnly_markedClasses.mono fun _ => .inl)
      fun classes marked => .bind ?_ fun _ _ => .of_ok rfl
    · unfold Module.ofText
      split
      · next none =>
        rw [isText, Text.characters?_ofCharacters] at none
        exact nomatch none
      · next found there =>
        split
        · next holds =>
          refine .of_error (.inr (.nullCharacter ?_))
          rw [← Text.ofCharacters_of_characters? there]
          exact List.mem_map_of_mem (List.elem_iff.1 holds)
        · split
          · exact .of_ok rfl
          · exact .of_error (.inl rfl)
    · exact failsOnly_ofClasses (fun definition isClass => failsOnly_ofClass isText parsed
        (Module.eq_markedTop marked ▸ isClass)) (fun _ => .inl) _
  exact (fails error failed).resolve_left (by simp [isSilent])

end Template

end DifferenceTypes
