import DifferenceTypes.Proofs.Template.GeneratedNames
import DifferenceTypes.Proofs.Template.MarkedDefinitions
import DifferenceTypes.Proofs.Template.RelocatedBlocks

/-!
# Passages of templates

A passage is a text of whole logical lines that starts at the top level and says statements by itself, so it
says the same wherever it stands among others. Two passages are a passage (`Text.IsPassage.append`). As a
template they are put together from what each of them is by itself (`Template.exists_of_isReadFrom_append`,
`Template.exists_isReadFrom_append`); only whether the generated names are free is asked of the whole
(`Template.read_eq_ok_iff`).
-/

namespace DifferenceTypes

open Lexer

namespace Text

/-! ### Whole lines -/

/-- A text ends with a line feed, if it is not empty. -/
def EndsLine (text : Text) : Prop :=
  ∀ last, text.getLast? = some last → last = .scalar '\n'

theorem EndsLine.tail {point : CodePoint} {rest : Text} (ended : EndsLine (point :: rest)) : EndsLine rest := by
  cases rest with
  | nil => exact nofun
  | cons => simpa [EndsLine, List.getLast?_cons_cons] using ended

theorem EndsLine.append {front behind : Text} (ended : front.EndsLine) (endedBehind : behind.EndsLine) :
    (front ++ behind).EndsLine := by
  intro last isLast
  cases behind with
  | nil => exact ended last (by simpa using isLast)
  | cons => exact endedBehind last (by rwa [List.getLast?_append_of_ne_nil _ (List.cons_ne_nil _ _)] at isLast)

theorem EndsLine.not_meets {front : Text} (ended : front.EndsLine) (behind : Text) : ¬Meets front behind :=
  fun meets => nomatch ended _ meets.1

/-- Lines of texts one behind the other. -/
theorem linesEndingAt_append {ends : CodePoint → Bool} (isEnd : ends (.scalar '\n') = true) {front : Text}
    (ended : front.EndsLine) (behind : Text) :
    linesEndingAt ends (front ++ behind) = linesEndingAt ends front ++ linesEndingAt ends behind := by
  induction front with
  | nil => rfl
  | cons point rest inductionHypothesis =>
    have later := inductionHypothesis ended.tail
    cases rest with
    | nil =>
      obtain rfl := ended point rfl
      simp [linesEndingAt, isEnd, splitsCarriageReturn]
    | cons second others =>
      rw [List.cons_append, linesEndingAt, linesEndingAt, later]
      have same : splitsCarriageReturn point (second :: others ++ behind) =
        splitsCarriageReturn point (second :: others) := rfl
      rw [same]
      split
      · rfl
      · cases isLine : linesEndingAt ends (second :: others) with
        | nil =>
          have whole := flatten_linesEndingAt ends (second :: others)
          rw [isLine] at whole
          cases whole
        | cons => rfl

/-! ### Passages -/

/-- A passage of a template: whole logical lines that say statements by themselves, with the same lines for
display as in syntax. Fields of its marked classes have quoted types. -/
structure IsPassage (text : Text) : Prop where
  written : ∃ lines, text.IsWritten lines ∧ isOpen lines = false ∧ LineContent.StartGroup (contentsOf lines) ∧
    ∃ module, Module.ofLines? 0 lines = some module
  ended : text.EndsLine
  alike : text.displayLines = text.sourceLines
  quoted : ∀ module, Module.ofText text = .ok module → ∀ definition ∈ module.markedTop, definition.IsQuoted

/-- The logical lines of a text that ends with one. -/
def wholeLines? (text : Text) : Option (List Line) :=
  text.unifyLineEnds.characters?.bind fun characters => if '\x00' ∈ characters then none else lines? characters

theorem wholeLines?_eq_some_iff {text : Text} {lines : List Line} :
    text.wholeLines? = some lines ↔ text.IsWritten lines ∧ isOpen lines = false := by
  unfold wholeLines? IsWritten
  constructor
  · intro found
    obtain ⟨characters, isText, found⟩ := Option.bind_eq_some_iff.1 found
    split at found
    · exact nomatch found
    · next clean =>
      obtain ⟨texts, rfl, writes, closed⟩ := lines?_eq_some_iff.1 found
      exact ⟨⟨texts, writes, (ofCharacters_of_characters? isText).symm, clean⟩, closed⟩
  · rintro ⟨⟨texts, writes, unified, clean⟩, closed⟩
    rw [unified, characters?_ofCharacters, Option.bind_some, if_neg clean]
    exact lines?_eq_some_iff.2 ⟨texts, rfl, writes, closed⟩

instance (definition : ClassDefinition) : Decidable definition.IsQuoted :=
  decidable_of_iff (∀ shape ∈ [Shape.named, .positional, .unit], ∀ type ∈ definition.fieldTypes shape,
      type.literalText?.isSome)
    ⟨fun quoted shape => quoted shape (by cases shape <;> decide), fun quoted shape _ => quoted shape⟩

/-- Whether a text is a passage can be computed. -/
instance (text : Text) : Decidable text.IsPassage :=
  decidable_of_iff
    ((∃ lines ∈ text.wholeLines?, (∀ line ∈ (contentsOf lines).head?, line.joins = false) ∧
        (Module.ofLines? 0 lines).isSome) ∧
      (∀ last ∈ text.getLast?, last = .scalar '\n') ∧ text.displayLines = text.sourceLines ∧
      ∀ module ∈ (Module.ofText text).toOption, ∀ definition ∈ module.markedTop, definition.IsQuoted)
    ⟨fun ⟨⟨lines, found, starts, said⟩, ended, alike, quoted⟩ =>
      ⟨⟨lines, (wholeLines?_eq_some_iff.1 found).1, (wholeLines?_eq_some_iff.1 found).2, starts,
        Option.isSome_iff_exists.1 said⟩, ended, alike, fun module parsed => quoted module (by rw [parsed]; rfl)⟩,
      fun ⟨⟨lines, isWritten, closed, starts, said⟩, ended, alike, quoted⟩ =>
      ⟨⟨lines, wholeLines?_eq_some_iff.2 ⟨isWritten, closed⟩, starts, Option.isSome_iff_exists.2 said⟩, ended, alike,
        fun module parsed => quoted module (Template.eq_ok_of_toOption parsed)⟩⟩

theorem IsWritten.append {front behind : Text} {lines others : List Line} (first : front.IsWritten lines)
    (second : behind.IsWritten others) (apart : ¬Meets front behind) :
    (front ++ behind).IsWritten (lines ++ others) := by
  obtain ⟨texts, writes, unified, clean⟩ := first
  obtain ⟨later, writesLater, unifiedLater, cleanLater⟩ := second
  refine ⟨texts ++ later, List.rel_append writes writesLater, ?_, ?_⟩
  · rw [unifyLineEnds_append apart, unified, unifiedLater, ← ofCharacters_append, List.flatten_append]
  · rw [List.flatten_append]
    exact fun among => (List.mem_append.1 among).elim clean cleanLater

theorem isOpen_append {front behind : List Line} (closed : isOpen front = false)
    (closedBehind : isOpen behind = false) : isOpen (front ++ behind) = false := by
  cases behind with
  | nil => rwa [List.append_nil]
  | cons => rwa [isOpen, List.getLast?_append_of_ne_nil _ (List.cons_ne_nil _ _)]

theorem isTerminated_of_endsLine {text : Text} (ended : text.EndsLine) : text.IsTerminated := by
  intro last isLast
  rw [ended last isLast]
  rfl

theorem IsWritten.numbered {text : Text} {lines : List Line} (isWritten : text.IsWritten lines)
    (closed : isOpen lines = false) : AreNumbered lines := by
  obtain ⟨texts, writes, -⟩ := isWritten
  exact areNumbered_of_lines? (lines?_eq_some_iff.2 ⟨texts, rfl, writes, closed⟩)

/-- Written lines take the source lines of the text. -/
theorem IsWritten.length_sourceLines {text : Text} {lines : List Line} (isWritten : text.IsWritten lines)
    (ended : text.EndsLine) : text.sourceLines.length = Layout.height lines := by
  refine IsWritten.length_eq (areSourceLines_sourceLines (isTerminated_of_endsLine ended)) ?_
  rwa [sourceLines, flatten_linesEndingAt]

namespace IsPassage

variable {front behind : Text} (isFront : front.IsPassage) (isBehind : behind.IsPassage)

include isFront in
theorem sourceLines_append : (front ++ behind).sourceLines = front.sourceLines ++ behind.sourceLines :=
  linesEndingAt_append rfl isFront.ended behind

include isFront isBehind in
theorem alike_append : (front ++ behind).displayLines = (front ++ behind).sourceLines := by
  have display : (front ++ behind).displayLines = front.displayLines ++ behind.displayLines :=
    linesEndingAt_append rfl isFront.ended behind
  rw [display, isFront.alike, isBehind.alike, isFront.sourceLines_append]

include isFront isBehind

theorem isSetIn_front : front.IsSetIn (front ++ behind) 0 where
  lines := ⟨[], behind.sourceLines, isFront.sourceLines_append, rfl⟩
  alike := isFront.alike
  alikeWhole := isFront.alike_append isBehind

theorem isSetIn_behind : behind.IsSetIn (front ++ behind) front.sourceLines.length where
  lines := ⟨front.sourceLines, [], by rw [List.append_nil, isFront.sourceLines_append], rfl⟩
  alike := isBehind.alike
  alikeWhole := isFront.alike_append isBehind

/-- Two passages say one behind the other what they say by themselves. -/
theorem exists_modules : ∃ (above : List (Stmt (Span.Relocation 0 front.sourceLines.length)))
    (below : List (Stmt (Span.Relocation front.sourceLines.length behind.sourceLines.length))),
    Module.ofText front = .ok (Stmt.mapAll Span.Relocation.here above) ∧
    Module.ofText behind = .ok (Stmt.mapAll Span.Relocation.here below) ∧
    Module.ofText (front ++ behind) =
      .ok (Stmt.mapAll Span.Relocation.there above ++ Stmt.mapAll Span.Relocation.there below) := by
  obtain ⟨lines, isWritten, closed, -, module, read⟩ := isFront.written
  obtain ⟨others, isWrittenToo, closedToo, starts, other, readOther⟩ := isBehind.written
  rw [isWritten.length_sourceLines isFront.ended, isWrittenToo.length_sourceLines isBehind.ended]
  obtain ⟨above, rfl, stays⟩ := Module.exists_relocated (isWritten.numbered closed) read 0
  obtain ⟨below, rfl, moved⟩ := Module.exists_relocated (isWrittenToo.numbered closedToo) readOther (Layout.height lines)
  refine ⟨above, below, Module.ofText_of_isWritten isWritten closed read,
    Module.ofText_of_isWritten isWrittenToo closedToo readOther,
    Module.ofText_of_isWritten (isWritten.append isWrittenToo (isFront.ended.not_meets behind)) ?_ ?_⟩
  · exact isOpen_append closed closedToo
  · rw [Module.ofLines?_append starts stays, moved]
    rfl

end IsPassage

end Text

/-! ### Marked classes of passages -/

section

variable {σ : Type}

/-- The parts of a statement that defines a class. -/
def Stmt.parts? : Stmt σ → Option (ClassDefinition.Parts σ)
  | .classDefinition span identifier bases keywords body decorators =>
    some ⟨span, identifier, bases, keywords, body, decorators⟩
  | _ => none

theorem Stmt.class?_map (change : σ → Span) (statement : Stmt σ) :
    (statement.map change).class? = statement.parts?.map (ClassDefinition.Parts.toClass change) := by
  cases statement <;> rfl

/-- The marked classes at the top, with spans that are left open. -/
def Module.markedParts (statements : List (Stmt σ)) : List (ClassDefinition.Parts σ) :=
  (statements.filterMap Stmt.parts?).filter fun parts =>
    (Definition.ofClass (parts.toClass fun _ => default)).isMarked

/-- Which classes are marked does not depend on spans. -/
theorem Module.markedTop_mapAll (change : σ → Span) (statements : List (Stmt σ)) :
    markedTop (Stmt.mapAll change statements) = (markedParts statements).map (ClassDefinition.Parts.toClass change) := by
  have classes : (statements.map (Stmt.map change)).filterMap Stmt.class? =
      (statements.filterMap Stmt.parts?).map (ClassDefinition.Parts.toClass change) := by
    rw [List.filterMap_map, List.map_filterMap]
    congr 1
    exact funext (Stmt.class?_map change)
  rw [Stmt.mapAll_eq_map, markedTop, classes, List.filter_map, markedParts]
  congr 1
  exact List.filter_congr fun parts _ => parts.isMarked_toClass change _

end

namespace Module

theorem markedTop_append (first second : Module) :
    markedTop (first ++ second) = markedTop first ++ markedTop second := by
  rw [markedTop, List.filterMap_append, List.filter_append]
  rfl

/-- Marked classes have the same blocks in a text around theirs, further down. -/
theorem forall₂_markedTop {part whole : Text} {above : Nat}
    {pairs : List (Stmt (Span.Relocation above part.sourceLines.length))} (isSetIn : part.IsSetIn whole above)
    (parsed : ofText part = .ok (Stmt.mapAll Span.Relocation.here pairs))
    (quoted : ∀ definition ∈ markedTop (Stmt.mapAll Span.Relocation.here pairs), definition.IsQuoted) :
    List.Forall₂ (fun own moved => (Block.ofClass whole whole.displayLines moved).toOption =
        (Block.ofClass part part.displayLines own).toOption.map (Block.moveDown above))
      (markedTop (Stmt.mapAll Span.Relocation.here pairs)) (markedTop (Stmt.mapAll Span.Relocation.there pairs)) := by
  have areBelow := areBelow_markedTop parsed
  have known {definition : ClassDefinition}
      (isTop : definition ∈ markedTop (Stmt.mapAll Span.Relocation.here pairs)) :=
    hasTokens_of_decorator parsed (List.mem_filter.1 isTop).1
  rw [markedTop_mapAll] at quoted areBelow known
  rw [markedTop_mapAll, markedTop_mapAll, List.forall₂_map_left_iff, List.forall₂_map_right_iff, List.forall₂_same]
  intro parts among
  have isTop := List.mem_map_of_mem (f := ClassDefinition.Parts.toClass Span.Relocation.here) among
  refine Block.toOption_ofClass_eq isSetIn (fun none => ?_) (fun decorator isDecorator => ?_) (quoted _ isTop)
  · have lower : 0 < parts.span.here.stop.line := (areBelow.of_mem isTop).1
    rw [none] at lower
    exact absurd lower (by decide)
  · have own : decorator.map Span.Relocation.here ∈ Expr.mapAll Span.Relocation.here parts.decorators := by
      rw [Expr.mapAll_eq_map]
      exact List.mem_map_of_mem isDecorator
    obtain ⟨placed, arguments⟩ := known isTop _ own
    rw [Expr.span_map] at placed
    refine ⟨placed, fun call isCall value isValue packed => ?_⟩
    have isArgument := arguments (call.map Span.Relocation.here)
      (by rw [Expr.positional_map]; exact List.mem_map_of_mem isCall)
      (value.map Span.Relocation.here)
      (by rw [Expr.positional_map]; exact List.mem_map_of_mem isValue)
      (by rwa [Expr.unpacks_map])
    rwa [Expr.span_map] at isArgument

end Module

/-! ### Markers in their places -/

/-- What stands in statements stands in them with other spans. -/
theorem StandsAt.mapAll {σ τ : Type} (change : σ → τ) {depth : Nat} {statements : List (Stmt σ)}
    {statement : Stmt σ} (stands : StandsAt depth statements statement) :
    StandsAt depth (Stmt.mapAll change statements) (statement.map change) := by
  induction stands with
  | here among =>
    rw [Stmt.mapAll_eq_map]
    exact .here (List.mem_map.2 ⟨_, among, rfl⟩)
  | @inside _ _ block outer _ among isBlock _ inductionHypothesis =>
    rw [Stmt.mapAll_eq_map]
    refine .inside (List.mem_map.2 ⟨outer, among, rfl⟩) ?_ inductionHypothesis
    rw [Stmt.blocks_map]
    exact List.mem_map.2 ⟨block, isBlock, rfl⟩

theorem standsAt_append_iff {σ : Type} {depth : Nat} {first second : List (Stmt σ)} {statement : Stmt σ} :
    StandsAt depth (first ++ second) statement ↔ StandsAt depth first statement ∨ StandsAt depth second statement := by
  constructor
  · intro stands
    cases stands with
    | here among => exact (List.mem_append.1 among).imp .here .here
    | inside among isBlock deeper =>
      exact (List.mem_append.1 among).imp (.inside · isBlock deeper) (.inside · isBlock deeper)
  · rintro (stands | stands)
    · cases stands with
      | here among => exact .here (List.mem_append_left _ among)
      | inside among isBlock deeper => exact .inside (List.mem_append_left _ among) isBlock deeper
    · cases stands with
      | here among => exact .here (List.mem_append_right _ among)
      | inside among isBlock deeper => exact .inside (List.mem_append_right _ among) isBlock deeper

namespace Module

theorem isOrderly_append_iff {first second : Module} :
    IsOrderly (first ++ second) ↔ first.IsOrderly ∧ second.IsOrderly := by
  simp only [IsOrderly, Misplaces, standsAt_append_iff]
  constructor
  · intro orderly
    constructor
    · rintro fault span ⟨depth, statement, definition, stands, others⟩
      exact orderly fault span ⟨depth, statement, definition, .inl stands, others⟩
    · rintro fault span ⟨depth, statement, definition, stands, others⟩
      exact orderly fault span ⟨depth, statement, definition, .inr stands, others⟩
  · rintro ⟨orderly, orderlyToo⟩ fault span ⟨depth, statement, definition, stands | stands, others⟩
    · exact orderly fault span ⟨depth, statement, definition, stands, others⟩
    · exact orderlyToo fault span ⟨depth, statement, definition, stands, others⟩

/-- Whether marked definitions are in their places does not depend on spans. -/
theorem IsOrderly.of_mapAll {σ : Type} {first second : σ → Span} {statements : List (Stmt σ)}
    (orderly : IsOrderly (Stmt.mapAll first statements)) : IsOrderly (Stmt.mapAll second statements) := by
  rintro fault span ⟨depth, statement, definition, stands, defines, isMarked, isMisplaced⟩
  obtain ⟨before, standsBefore, rfl⟩ := stands.exists_of_mapAll
  have there := standsBefore.mapAll first
  have unspanned (parts : ClassDefinition.Parts σ) := parts.isMarked_toClass first second
  cases before with
  | classDefinition place identifier bases keywords body decorators =>
    cases defines
    cases isMisplaced with
    | nested below =>
      refine orderly _ _ ⟨depth, _, _, there, rfl, ?_, .nested below⟩
      exact (unspanned ⟨place, identifier, bases, keywords, body, decorators⟩).trans isMarked
  | function place isAsync identifier parameters body decorators result =>
    cases defines
    refine orderly _ _ ⟨depth, _, _, there, rfl, ?_, .function⟩
    exact (unspanned ⟨place, identifier, [], [], [], decorators⟩).trans isMarked
  | _ => exact nomatch defines

end Module

/-! ### Reading without asking for names -/

theorem Except.forM_eq_ok {ε α : Type} {check : α → Except ε Unit} {values : List α}
    (passes : ∀ value ∈ values, check value = .ok ()) : values.forM check = .ok () := by
  induction values with
  | nil => rfl
  | cons first rest inductionHypothesis =>
    rw [List.forM_eq_forM, List.forM_cons, passes first List.mem_cons_self]
    exact inductionHypothesis fun value among => passes value (List.mem_cons_of_mem _ among)

/-- Blocks are accepted if each class gives its block and their names are all different and not taken. -/
theorem Block.ofClasses_eq_ok_iff {text : Text} {display taken : List Text} {classes : List ClassDefinition}
    {blocks : List Block} : ofClasses text display taken classes = .ok blocks ↔
      List.Forall₂ (fun definition block => ofClass text display definition = .ok block) classes blocks ∧
      (blocks.flatMap generatedNames).Nodup ∧ ∀ name ∈ blocks.flatMap generatedNames, name ∉ taken := by
  constructor
  · exact fun accepted => ⟨Template.forall₂_of_ofClasses accepted, generatedNames_of_ofClasses accepted⟩
  · rintro ⟨made, different, free⟩
    induction made generalizing taken with
    | nil => rfl
    | @cons definition block classes blocks here later inductionHypothesis =>
      rw [List.flatMap_cons] at different free
      obtain ⟨-, differentBehind, apart⟩ := List.nodup_append.1 different
      have isFree : block.checkNames taken definition.span = .ok () := by
        refine Except.forM_eq_ok fun name among => ?_
        have isNew := free name (List.mem_append_left _ among)
        rw [if_neg (by simpa using isNew)]
      have behind : ofClasses text display (taken ++ block.generatedNames) classes = .ok blocks := by
        refine inductionHypothesis differentBehind fun name among known => ?_
        rcases List.mem_append.1 known with before | own
        · exact free name (List.mem_append_right _ among) before
        · exact apart name own name among rfl
      rw [ofClasses, here]
      simp only [bind, Except.bind, isFree, behind]
      rfl

namespace Template

/-- What a text says as a template, whatever names are taken. -/
structure IsReadFrom (template : Template) (text : Text) : Prop where
  isText : template.text = text
  parsed : Module.ofText text = .ok template.module
  orderly : template.module.IsOrderly
  made : List.Forall₂ (fun definition block => Block.ofClass text text.displayLines definition = .ok block)
    template.module.markedTop template.blocks

/-- The generated names are all different, and the template's statements bind none of them. -/
structure HasFreshNames (template : Template) : Prop where
  different : (template.blocks.flatMap Block.generatedNames).Nodup
  free : ∀ name ∈ template.blocks.flatMap Block.generatedNames, name ∉ template.module.boundNames.map Text.ofString

theorem read_eq_ok_iff {text : Text} {template : Template} :
    read text = .ok template ↔ template.IsReadFrom text ∧ template.HasFreshNames := by
  constructor
  · intro accepted
    obtain ⟨classes, marked, made⟩ := read_eq_ok accepted
    obtain ⟨same, parsed⟩ := ofText_of_read accepted
    obtain ⟨orderly, rfl⟩ := Module.markedClasses_eq_ok_iff.1 marked
    obtain ⟨each, different, free⟩ := Block.ofClasses_eq_ok_iff.1 made
    exact ⟨⟨same, parsed, orderly, each⟩, different, free⟩
  · rintro ⟨⟨rfl, parsed, orderly, each⟩, different, free⟩
    have marked := Module.markedClasses_eq_ok_iff.2 ⟨orderly, rfl⟩
    have made := Block.ofClasses_eq_ok_iff.2 ⟨each, different, free⟩
    rw [read, parsed]
    simp only [bind, Except.bind, marked, made]
    rfl

/-! ### Two passages -/

/-- A template is put together from two: its statements and blocks are those of the one and, further down,
those of the other. -/
structure IsStacked (template above below : Template) : Prop where
  isText : template.text = above.text ++ below.text
  module : ∃ pairs : List (Stmt (Span.Relocation above.text.sourceLines.length below.text.sourceLines.length)),
    below.module = Stmt.mapAll Span.Relocation.here pairs ∧
    template.module = above.module ++ Stmt.mapAll Span.Relocation.there pairs
  blocks : template.blocks = above.blocks ++ below.blocks.map (Block.moveDown above.text.sourceLines.length)

end Template

/-- Computations with the same results up to a change give them together. -/
theorem Except.forall₂_eq_ok_iff {ε α β γ δ : Type} {first : α → Except ε β} {second : γ → Except ε δ}
    {change : δ → β} {values : List α} {others : List γ}
    (related : List.Forall₂ (fun other value => (first value).toOption = (second other).toOption.map change)
      others values) {results : List β} :
    List.Forall₂ (fun value result => first value = .ok result) values results ↔
      ∃ found, List.Forall₂ (fun other result => second other = .ok result) others found ∧
        results = found.map change := by
  induction related generalizing results with
  | nil =>
    constructor
    · intro given
      cases given
      exact ⟨[], .nil, rfl⟩
    · rintro ⟨_, given, rfl⟩
      cases given
      exact .nil
  | @cons other value others values same _ inductionHypothesis =>
    constructor
    · intro given
      cases given with
      | @cons _ result _ results here later =>
        rw [here] at same
        obtain ⟨own, isOwn, rfl⟩ := Option.map_eq_some_iff.1 same.symm
        obtain ⟨found, each, rfl⟩ := inductionHypothesis.1 later
        exact ⟨own :: found, .cons (Template.eq_ok_of_toOption isOwn) each, rfl⟩
    · rintro ⟨_, given, rfl⟩
      cases given with
      | @cons _ own _ found here later =>
        rw [here] at same
        exact .cons (Template.eq_ok_of_toOption same) (inductionHypothesis.2 ⟨found, later, rfl⟩)

namespace Span.Relocation

variable {height : Nat}

/-- What is relocated below no line stays where it is. -/
theorem there_zero : (there : Relocation 0 height → Span) = here := by
  funext pair
  have stays {here there : Position} (relocated : Position.IsRelocated 0 here there) : there = here := by
    rcases relocated with moved | ⟨none, noneToo⟩
    · exact moved
    · rw [none, noneToo]
  have start := stays pair.property.start
  have stop := stays pair.property.stop
  exact (Span.mk.injEq ..).mpr ⟨start, stop⟩

end Span.Relocation

theorem Block.moveDown_zero : (moveDown 0) = id := by
  funext block
  simp [moveDown]

theorem exists_of_forall₂_append {α β : Type} {related : α → β → Prop} {front behind : List α} {all : List β}
    (each : List.Forall₂ related (front ++ behind) all) :
    ∃ first later, all = first ++ later ∧ List.Forall₂ related front first ∧ List.Forall₂ related behind later :=
  ⟨_, _, (List.take_append_drop front.length all).symm, (List.forall₂_take_append _ _ _ each.flip).flip,
    (List.forall₂_drop_append _ _ _ each.flip).flip⟩

namespace Text.IsPassage

variable {front behind : Text} (isFront : front.IsPassage) (isBehind : behind.IsPassage)

include isFront isBehind

/-- What two passages say one behind the other, and which blocks their classes give there. -/
theorem exists_readings : ∃ (first : Module)
    (pairs : List (Stmt (Span.Relocation front.sourceLines.length behind.sourceLines.length))),
    Module.ofText front = .ok first ∧ Module.ofText behind = .ok (Stmt.mapAll Span.Relocation.here pairs) ∧
    Module.ofText (front ++ behind) = .ok (first ++ Stmt.mapAll Span.Relocation.there pairs) ∧
    (∀ blocks, List.Forall₂ (fun definition block =>
        Block.ofClass (front ++ behind) (front ++ behind).displayLines definition = .ok block)
          first.markedTop blocks ↔
      List.Forall₂ (fun definition block => Block.ofClass front front.displayLines definition = .ok block)
          first.markedTop blocks) ∧
    (∀ blocks, List.Forall₂ (fun definition block =>
        Block.ofClass (front ++ behind) (front ++ behind).displayLines definition = .ok block)
          (Module.markedTop (Stmt.mapAll Span.Relocation.there pairs)) blocks ↔
      ∃ own, List.Forall₂ (fun definition block => Block.ofClass behind behind.displayLines definition = .ok block)
          (Module.markedTop (Stmt.mapAll Span.Relocation.here pairs)) own ∧
        blocks = own.map (Block.moveDown front.sourceLines.length)) := by
  obtain ⟨above, below, parsed, parsedBehind, whole⟩ := isFront.exists_modules isBehind
  have related := Module.forall₂_markedTop (isFront.isSetIn_front isBehind) parsed (isFront.quoted _ parsed)
  have relatedBehind := Module.forall₂_markedTop (isFront.isSetIn_behind isBehind) parsedBehind
    (isBehind.quoted _ parsedBehind)
  rw [Span.Relocation.there_zero] at whole related
  refine ⟨_, below, parsed, parsedBehind, whole, fun blocks => ?_, fun blocks =>
    Except.forall₂_eq_ok_iff relatedBehind⟩
  rw [Except.forall₂_eq_ok_iff related, Block.moveDown_zero]
  simp

/-- Two passages are a passage. -/
theorem append : (front ++ behind).IsPassage where
  written := by
    obtain ⟨lines, isWritten, closed, starts, module, read⟩ := isFront.written
    obtain ⟨others, isWrittenToo, closedToo, startsToo, other, readOther⟩ := isBehind.written
    obtain ⟨pairs, -, moved⟩ :=
      Module.exists_relocated (isWrittenToo.numbered closedToo) readOther (Layout.height lines)
    refine ⟨lines ++ others, isWritten.append isWrittenToo (isFront.ended.not_meets behind),
      isOpen_append closed closedToo, ?_, _, by rw [Module.ofLines?_append startsToo read, moved]; rfl⟩
    have split : contentsOf (lines ++ others) = contentsOf lines ++ contentsOf others := by simp [contentsOf]
    rw [split]
    intro line isFirst
    cases said : contentsOf lines with
    | nil => exact startsToo line (by rwa [said] at isFirst)
    | cons first rest => exact starts line (by rwa [said] at isFirst ⊢)
  ended := isFront.ended.append isBehind.ended
  alike := isFront.alike_append isBehind
  quoted := by
    intro module parsed definition isTop
    obtain ⟨first, pairs, parsedFront, parsedBehind, whole, -⟩ := isFront.exists_readings isBehind
    obtain rfl := Except.ok.inj (whole.symm.trans parsed)
    rw [Module.markedTop_append] at isTop
    rcases List.mem_append.1 isTop with above | below
    · exact isFront.quoted first parsedFront definition above
    · rw [Module.markedTop_mapAll] at below
      obtain ⟨parts, among, rfl⟩ := List.mem_map.1 below
      have own := isBehind.quoted _ parsedBehind (parts.toClass Span.Relocation.here)
        (Module.markedTop_mapAll Span.Relocation.here pairs ▸ List.mem_map_of_mem among)
      exact (parts.isQuoted_toClass_iff _).2 ((parts.isQuoted_toClass_iff _).1 own)

end Text.IsPassage

/-- A text without statements is a passage. -/
theorem Text.IsPassage.nil : IsPassage [] where
  written := ⟨[], ⟨[], .nil, rfl, nofun⟩, rfl, nofun, [], rfl⟩
  ended := nofun
  alike := rfl
  quoted := by
    intro module parsed
    cases parsed
    exact nofun

/-- Passages one behind the other are a passage. -/
theorem Text.IsPassage.flatten {passages : List Text} (arePassages : ∀ passage ∈ passages, passage.IsPassage) :
    IsPassage passages.flatten := by
  induction passages with
  | nil => exact .nil
  | cons passage rest inductionHypothesis =>
    exact (arePassages passage List.mem_cons_self).append
      (inductionHypothesis fun other among => arePassages other (List.mem_cons_of_mem _ among))

namespace Template

variable {front behind : Text} (isFront : front.IsPassage) (isBehind : behind.IsPassage)

include isFront isBehind

/-- What two passages say together is put together from what they say by themselves. -/
theorem exists_of_isReadFrom_append {template : Template} (isRead : template.IsReadFrom (front ++ behind)) :
    ∃ above below : Template, above.IsReadFrom front ∧ below.IsReadFrom behind ∧
      template.IsStacked above below := by
  obtain ⟨first, pairs, parsed, parsedBehind, whole, gives, givesBehind⟩ := isFront.exists_readings isBehind
  obtain ⟨text, module, blocks⟩ := template
  obtain ⟨isText, isParsed, orderly, made⟩ := isRead
  dsimp only at isText isParsed orderly made
  obtain rfl := Except.ok.inj (isParsed.symm.trans whole)
  obtain ⟨orderlyFirst, orderlyBehind⟩ := Module.isOrderly_append_iff.1 orderly
  rw [Module.markedTop_append] at made
  obtain ⟨own, others, rfl, madeFirst, madeBehind⟩ := exists_of_forall₂_append made
  obtain ⟨below, madeBelow, rfl⟩ := (givesBehind others).1 madeBehind
  exact ⟨⟨front, first, own⟩, ⟨behind, _, below⟩, ⟨rfl, parsed, orderlyFirst, (gives own).1 madeFirst⟩,
    ⟨rfl, parsedBehind, orderlyBehind.of_mapAll, madeBelow⟩, isText, ⟨pairs, rfl, rfl⟩, rfl⟩

/-- What two passages say by themselves they say together. -/
theorem exists_isReadFrom_append {above below : Template} (isAbove : above.IsReadFrom front)
    (isBelow : below.IsReadFrom behind) :
    ∃ template : Template, template.IsReadFrom (front ++ behind) ∧ template.IsStacked above below := by
  obtain ⟨first, pairs, parsed, parsedBehind, whole, gives, givesBehind⟩ := isFront.exists_readings isBehind
  have same : above.module = first := Except.ok.inj (isAbove.parsed.symm.trans parsed)
  have sameBelow : below.module = Stmt.mapAll Span.Relocation.here pairs :=
    Except.ok.inj (isBelow.parsed.symm.trans parsedBehind)
  have orderly := isAbove.orderly
  have orderlyBelow := isBelow.orderly
  have made := isAbove.made
  have madeBelow := isBelow.made
  rw [same] at orderly made
  rw [sameBelow] at orderlyBelow madeBelow
  refine ⟨⟨front ++ behind, _, above.blocks ++ below.blocks.map (Block.moveDown front.sourceLines.length)⟩,
    ⟨rfl, whole, Module.isOrderly_append_iff.2 ⟨orderly, orderlyBelow.of_mapAll⟩, ?_⟩, ?_⟩
  · rw [Module.markedTop_append]
    exact List.rel_append ((gives _).2 made) ((givesBehind _).2 ⟨_, madeBelow, rfl⟩)
  · rw [← same]
    exact ⟨by rw [isAbove.isText, isBelow.isText],
      by rw [isAbove.isText, isBelow.isText]; exact ⟨pairs, sameBelow, rfl⟩, by rw [isAbove.isText]⟩

end Template

end DifferenceTypes
