import DifferenceTypes.Proofs.Generation.Front
import DifferenceTypes.Proofs.Template.LogicalLines

/-!
# What the front of a generated module says

The front of a generated module reaches up to a line of the template where something else starts: to the
imports that are put in, or to an import of the template above the first marked class. It says what the
template says there and the imports (`Template.exists_frontSays`), and so does every module that starts with
it.
-/

namespace DifferenceTypes

open Lexer Text

namespace Stmt

/-- Whether a statement defines what is marked. -/
def isMarked (statement : Stmt) : Bool :=
  statement.definition?.any Definition.isMarked

theorem isMarked_of_isSimple {statement : Stmt} (simple : statement.isSimple = true) :
    statement.isMarked = false := by
  cases statement with
  | function | classDefinition => exact nomatch simple
  | _ => rfl

end Stmt

namespace Module

/-- The statements that have to come first stand first. -/
theorem opening_isPrefix (module : Module) : module.opening <+: module := by
  unfold opening
  split
  · exact List.nil_prefix
  · split
    · exact List.cons_prefix_cons.2 ⟨rfl, List.takeWhile_prefix _⟩
    · exact List.nil_prefix

theorem isSimple_of_mem_opening {module : Module} {statement : Stmt} (among : statement ∈ module.opening) :
    statement.isSimple = true ∧ ∀ imported, statement.importsAs imported = false := by
  have either : statement.isText = true ∨ statement.isFuture = true := by
    unfold opening at among
    split at among
    · exact nomatch among
    · split at among
      · next first =>
        rcases List.mem_cons.1 among with rfl | behind
        · simpa using first
        · exact .inr (List.all_eq_true.1 List.all_takeWhile _ behind)
      · exact nomatch among
  cases statement with
  | expression => exact ⟨rfl, fun _ => rfl⟩
  | importsFrom => exact ⟨rfl, fun _ => rfl⟩
  | _ => rcases either with isText | isFuture <;> contradiction

end Module

/-- Whether a line starts with the name `match` and imports a module. What starts with this name might as
well be a statement with blocks. -/
def Lexer.LineContent.importsBehindMatch (imported : ImportedName) (line : LineContent) : Bool :=
  line.kinds.head? == some (.name "match") &&
    (StatementGrammar.wholeStatement? (line.kinds ++ [.newline])).any (·.any (Stmt.importsAs imported))

namespace Module.SimpleLine

variable {above below : List Line} {line : Line} {found : List (Stmt Extent)} {front here rest : List Stmt}
  (isLine : SimpleLine above line below found front here rest) {statement : Stmt} (among : statement ∈ here)

include isLine among

/-- What stands on a line of simple statements was read from it. -/
theorem exists_of_mem : ∃ written ∈ found, written.map (fun _ => ()) = statement.map fun _ => () := by
  have same := isLine.same
  rw [Stmt.contents, Stmt.contents, Stmt.mapAll_eq_map, Stmt.mapAll_eq_map] at same
  have there : statement.map (fun _ => ()) ∈ here.map (Stmt.map fun _ => ()) := List.mem_map_of_mem among
  rw [same] at there
  exact List.mem_map.1 there

theorem isSimple_of_mem : statement.isSimple = true := by
  obtain ⟨written, isFound, equal⟩ := isLine.exists_of_mem among
  rw [← statement.isSimple_map fun _ => (), ← equal, Stmt.isSimple_map]
  exact isLine.holds.simple written isFound

omit among in
theorem contentsOf_append (lines : List Line) :
    contentsOf (lines ++ [line]) = contentsOf lines ++ [contentOf line] := by
  simp [contentsOf, isLine.visible]

/-- A line that imports a module does so on its own. -/
theorem unnamed_of_mem {imported : ImportedName} (imports : statement.importsAs imported = true)
    (plain : (contentOf line).importsBehindMatch imported = false) :
    (contentOf line).kinds.head? ≠ some (.name "match") := by
  intro named
  obtain ⟨written, isFound, equal⟩ := isLine.exists_of_mem among
  rw [← Stmt.importsAs_map imported fun _ => (), ← equal, Stmt.importsAs_map] at imports
  have does : found.any (Stmt.importsAs imported) = true := List.any_eq_true.2 ⟨written, isFound, imports⟩
  rw [LineContent.importsBehindMatch, named, isLine.holds.read, Option.any_some, does] at plain
  exact nomatch plain

end Module.SimpleLine

namespace Text

/-- A number of source lines at the start of a text are whole logical lines. -/
def EndsLogicalLine (text : Text) (count : Nat) : Prop :=
  ∃ above below, text.logicalLines? = some (above ++ below) ∧ Layout.height above = count

end Text

namespace Template

/-- A module is imported before the first marked class, and not behind the name `match` on a line. -/
def ImportsEarly (template : Template) (imported : ImportedName) : Prop :=
  (∃ early statement later, template.module = early ++ statement :: later ∧
    statement.importsAs imported = true ∧ ∀ other ∈ early, other.isMarked = false) ∧
  ∀ lines, template.text.logicalLines? = some lines →
    ∀ line ∈ lines, (contentOf line).importsBehindMatch imported = false

variable {text : Text} {template : Template} (accepted : read text = .ok template)

include accepted

/-- Where all that is marked stands in `rest`, blocks leave the lines alone that stand above. -/
theorem leavesUpTo_of_split {count last : Nat} {front rest : List Stmt}
    (split : template.module = front ++ rest) (unmarked : ∀ statement ∈ front, statement.isMarked = false)
    (below : ∀ statement ∈ rest, ∀ span ∈ statement.spans, span.IsWithin count last) :
    template.LeavesUpTo count := by
  refine leavesUpTo_of_isWithin accepted (fun statement among definition defines isMarked => ?_ :
    ∀ statement ∈ template.module, ∀ definition, statement.definition? = some (.ofClass definition) →
      (Definition.ofClass definition).isMarked = true → ∀ span ∈ statement.spans, span.IsWithin count last)
  rw [split] at among
  rcases List.mem_append.1 among with before | behind
  · have marked : statement.isMarked = true := by
      rw [Stmt.isMarked, defines]
      exact isMarked
    exact nomatch (unmarked statement before).symm.trans marked
  · exact below statement behind

/-- A template with blocks has something marked. -/
theorem exists_isMarked (nonempty : template.blocks ≠ []) :
    ∃ statement ∈ template.module, statement.isMarked = true := by
  obtain ⟨block, among⟩ := List.exists_mem_of_ne_nil _ nonempty
  obtain ⟨statement, there, definition, defines, isMarked, -⟩ := exists_of_mem_blocks accepted among
  exact ⟨statement, there, by rw [Stmt.isMarked, defines]; exact isMarked⟩

/-- The lines up to the one that imports follow: they say something on their own, blocks leave them alone,
and lines with blocks come behind them. -/
theorem exists_openingLines (nonempty : template.blocks ≠ [])
    (ends : text.EndsLogicalLine template.module.importLine) :
    ∃ above below told, text.logicalLines? = some (above ++ below) ∧
      Layout.height above = template.module.importLine ∧
      LineContent.statements? (contentsOf above) = some told ∧
      template.LeavesUpTo template.module.importLine ∧ (above ≠ [] → below ≠ []) := by
  obtain ⟨above, below, isText, height⟩ := ends
  obtain ⟨-, parsed⟩ := ofText_of_read accepted
  obtain ⟨characters, source, ending, lines, -, -, -, -, logical, isLines, parsed⟩ :=
    Module.exists_of_ofText parsed
  cases logical.symm.trans isText
  by_cases zero : template.module.importLine = 0
  · refine ⟨[], above ++ below, [], isText, zero.symm, rfl, ?_, fun absent => absurd rfl absent⟩
    intro number positive inside
    omega
  · obtain ⟨last, isLast, stop⟩ : ∃ last, template.module.opening.getLast? = some last ∧
        template.module.importLine = last.span.stop.line := by
      unfold Module.importLine at zero ⊢
      cases isLast : template.module.opening.getLast? with
      | none => simp [isLast] at zero
      | some last => exact ⟨last, rfl, rfl⟩
    obtain ⟨early, isOpening⟩ := List.getLast?_eq_some_iff.1 isLast
    obtain ⟨later, split⟩ := Module.opening_isPrefix template.module
    rw [isOpening, List.append_assoc, List.singleton_append] at split
    have simple {statement : Stmt} (among : statement ∈ early ++ [last]) : statement.isSimple = true :=
      (Module.isSimple_of_mem_opening (isOpening ▸ among)).1
    rw [← split] at parsed
    obtain ⟨aboveLast, line, belowLast, found, front, here, rest, isLines', isLine, first, behind, rfl,
      rfl, rfl⟩ := Module.exists_simpleLine (simple (by simp)) parsed
    have same := Option.some.inj (isLines'.symm.trans isLines)
    have within := isLine.spansOn last (by simp) last.span List.mem_cons_self
    have inside : Layout.height aboveLast < Layout.height above := by
      rcases within.stop with none | behind
      · exact absurd (stop.trans (congrArg Position.line none)) zero
      · omega
    have bound := within.bound
    rw [← stop, ← height] at bound
    obtain ⟨rfl, rfl⟩ := Layout.eq_of_height same.symm (height_pos_of_lines? isLines) inside bound
    have unmarked : ∀ statement ∈ front ++ (first ++ last :: behind), statement.isMarked = false := by
      intro statement among
      refine Stmt.isMarked_of_isSimple ?_
      rcases List.mem_append.1 among with before | there
      · exact simple (by simp [before])
      · exact isLine.isSimple_of_mem there
    have divided : template.module = (front ++ (first ++ last :: behind)) ++ rest := by
      rw [← split]
      simp
    refine ⟨aboveLast ++ [line], below, _, isText, height, isLine.reads, ?_, fun _ none => ?_⟩
    · rw [← height]
      exact leavesUpTo_of_split accepted divided unmarked isLine.spansBelow
    · obtain ⟨statement, among, isMarked⟩ := exists_isMarked accepted nonempty
      rw [divided, isLine.last none, List.append_nil] at among
      exact nomatch (unmarked statement among).symm.trans isMarked

/-- Where a module is imported before the first marked class, the lines up to there say so, blocks leave
them alone, and the imports that are put in come above their end. -/
theorem exists_importingLines (nonempty : template.blocks ≠ []) {imported : ImportedName}
    (early : template.ImportsEarly imported) :
    ∃ above line below found front here rest, text.logicalLines? = some (above ++ line :: below) ∧
      Module.SimpleLine above line below found front here rest ∧
      (contentOf line).kinds.head? ≠ some (.name "match") ∧
      (∃ statement ∈ Stmt.contents (front ++ here), statement.importsAs imported = true) ∧
      template.LeavesUpTo (Layout.height (above ++ [line])) ∧
      template.module.importLine ≤ Layout.height (above ++ [line]) ∧ below ≠ [] := by
  obtain ⟨⟨before, statement, later, split, imports, unmarkedBefore⟩, plain⟩ := early
  obtain ⟨sameText, parsed⟩ := ofText_of_read accepted
  rw [sameText] at plain
  obtain ⟨characters, source, ending, lines, -, -, -, -, logical, isLines, parsed⟩ :=
    Module.exists_of_ofText parsed
  have simple := Stmt.isSimple_of_importsAs imports
  rw [split] at parsed
  obtain ⟨above, line, below, found, front, here, rest, isLines', isLine, first, behind, rfl, rfl, rfl⟩ :=
    Module.exists_simpleLine simple parsed
  cases isLines'.symm.trans isLines
  have divided : template.module = (front ++ (first ++ statement :: behind)) ++ rest := by
    rw [split]
    simp
  have unmarked : ∀ other ∈ front ++ (first ++ statement :: behind), other.isMarked = false := by
    intro other among
    rcases List.mem_append.1 among with isFront | isHere
    · exact unmarkedBefore other (List.mem_append_left _ isFront)
    · exact Stmt.isMarked_of_isSimple (isLine.isSimple_of_mem isHere)
  have within : ∀ other ∈ front ++ (first ++ statement :: behind), ∀ span ∈ other.spans,
      span.stop.line ≤ Layout.height (above ++ [line]) := by
    intro other among span there
    rcases List.mem_append.1 among with isFront | isHere
    · have bound := (isLine.spansAbove other isFront span there).bound
      rw [Layout.height_append]
      omega
    · exact (isLine.spansOn other isHere span there).bound
  refine ⟨above, line, below, found, front, _, rest, logical, isLine, ?_, ?_, ?_, ?_, ?_⟩
  · exact isLine.unnamed_of_mem (by simp) imports (plain _ logical line (by simp))
  · refine ⟨statement.map fun _ => (), ?_, (Stmt.importsAs_map imported _ statement).trans imports⟩
    rw [Stmt.contents, Stmt.mapAll_eq_map]
    exact List.mem_map_of_mem (by simp)
  · exact leavesUpTo_of_split accepted divided unmarked isLine.spansBelow
  · unfold Module.importLine
    cases isLast : template.module.opening.getLast? with
    | none => exact Nat.zero_le _
    | some last =>
      have isOpening := List.mem_of_getLast? isLast
      refine within last ?_ last.span List.mem_cons_self
      obtain ⟨behindOpening, whole⟩ := Module.opening_isPrefix template.module
      -- The import is none of the statements that have to come first, so these stand above it.
      rcases List.append_eq_append_iff.1 (whole.trans split) with ⟨middle, inside, -⟩ | ⟨middle, inside, tail⟩
      · have isEarly : last ∈ front ++ first := inside ▸ List.mem_append_left _ isOpening
        rw [← List.append_assoc]
        exact List.mem_append_left _ isEarly
      · cases middle with
        | nil =>
          rw [inside, List.append_nil] at isOpening
          rw [← List.append_assoc]
          exact List.mem_append_left _ isOpening
        | cons head rest =>
          obtain ⟨rfl, -⟩ := List.cons.inj tail
          have isFirst : statement ∈ template.module.opening := by
            rw [inside]
            simp
          cases ((Module.isSimple_of_mem_opening isFirst).2 imported).symm.trans imports
  · intro none
    obtain ⟨other, among, isMarked⟩ := exists_isMarked accepted nonempty
    rw [divided, isLine.last none, List.append_nil] at among
    cases (unmarked other among).symm.trans isMarked

omit accepted in
/-- Behind the imports that are put in, something else starts. -/
theorem startGroup_behind_injected (nonempty : template.injected ≠ []) {before others : List LineContent}
    {found : List (Stmt Unit)} (told : LineContent.statements?
      (before ++ template.injected.map (·.content) ++ others) = some found) :
    LineContent.StartGroup others := by
  rcases List.eq_nil_or_concat template.injected with none | ⟨lines, last, split⟩
  · exact absurd none nonempty
  · have isRead : last.IsRead := isRead_of_mem_injected (show last ∈ template.injected by simp [split])
    obtain ⟨extent, simple⟩ := isRead.simple
    rw [split, List.concat_eq_append, List.map_append, List.map_singleton, ← List.append_assoc,
      List.append_assoc _ [last.content], List.singleton_append] at told
    exact simple.startGroup isRead.unnamed (fun _ => isRead.starts) told

omit accepted in
/-- The imports that are put in say what they import, behind anything. -/
theorem statements?_injected {before : List LineContent} {told : List (Stmt Unit)}
    (tells : LineContent.statements? before = some told) :
    LineContent.statements? (before ++ template.injected.map (·.content)) =
      some (told ++ template.injected.map (·.statement)) := by
  have areRead : ∀ line ∈ template.injected, line.IsRead := fun line among => isRead_of_mem_injected among
  rw [LineContent.statements?_append (ImportLine.startGroup areRead) tells,
    ImportLine.statements?_map areRead, Option.map_some]

/-- The first logical lines of a template are written on its first lines. -/
theorem exists_displayLines (sameLines : text.displayLines = text.sourceLines) {above below : List Line}
    (isText : text.logicalLines? = some (above ++ below)) (more : above ≠ [] → below ≠ []) :
    ∃ front behind, template.text.displayLines = front ++ behind ∧ AreSourceLines front ∧
      IsWritten front.flatten above ∧ front.length = Layout.height above := by
  obtain ⟨sameText, parsed⟩ := ofText_of_read accepted
  obtain ⟨front, behind, split, areLines, written⟩ := Module.exists_sourceLines_of_ofText parsed isText more
  exact ⟨front, behind, by rw [sameText, sameLines, split], areLines, written, written.length_eq areLines⟩

omit accepted in
/-- What the front of the generated module says: blocks leave it alone, and wherever something else starts
behind it, it has statements, one of which imports a module. -/
structure FrontSays (template : Template) (count : Nat) (imported : ImportedName)
    (contents : List LineContent) : Prop where
  leaves : template.LeavesUpTo count
  reads : ReadsAs (template.spliceFront count) contents false
  tells : ∀ others found, LineContent.statements? (contents ++ others) = some found →
    ∃ statements, LineContent.statements? contents = some statements ∧
      (∃ statement ∈ statements, statement.importsAs imported = true) ∧ LineContent.StartGroup others

/-- The front with an import that is put in. -/
theorem exists_frontSays_of_injected (nonempty : template.blocks ≠ [])
    (sameLines : text.displayLines = text.sourceLines)
    (ends : text.EndsLogicalLine template.module.importLine) {line : ImportLine}
    (among : line ∈ template.injected) :
    ∃ count contents, FrontSays template count line.imported contents := by
  have putIn : template.injected ≠ [] := List.ne_nil_of_mem among
  obtain ⟨above, below, told, isText, height, tells, leaves, more⟩ :=
    exists_openingLines accepted nonempty ends
  obtain ⟨front, behind, split, areLines, written, length⟩ :=
    exists_displayLines accepted sameLines isText more
  have here : template.module.importLine = front.length := by rw [length, height]
  have divided : template.text.displayLines = front ++ [] ++ behind := by rw [List.append_nil, split]
  have left : template.LeavesUpTo (front ++ []).length := by rwa [List.append_nil, ← here]
  have reads := readsAs_spliceFront divided left here written.readsAs readsAs_nil putIn
  rw [List.append_nil, List.append_nil] at reads
  refine ⟨front.length, _, here ▸ leaves, reads, fun others found read => ?_⟩
  refine ⟨_, statements?_injected tells, ?_, startGroup_behind_injected putIn read⟩
  refine ⟨line.statement, List.mem_append_right _ (List.mem_map_of_mem among), ?_⟩
  simp [ImportLine.statement, Stmt.importsAs]

/-- The front with an import of the template, where none are put in. -/
theorem exists_frontSays_of_imports (nonempty : template.blocks ≠ [])
    (sameLines : text.displayLines = text.sourceLines) {imported : ImportedName}
    (early : template.ImportsEarly imported) (none : template.injected = []) :
    ∃ count contents, FrontSays template count imported contents := by
  obtain ⟨above, line, below, found, front, here, rest, isText, isLine, unnamed, imports, leaves, -, more⟩ :=
    exists_importingLines accepted nonempty early
  rw [List.append_cons] at isText
  obtain ⟨first, behind, split, areLines, written, length⟩ :=
    exists_displayLines accepted sameLines isText fun _ => more
  rw [← length] at leaves
  have empty : template.imports.flatten = [] := by
    rw [imports_eq, none]
    rfl
  have closed : isOpen (above ++ [line]) = false := by simp [isOpen, isLine.closed]
  have reads := written.readsAs
  rw [closed, ← spliceFront_of_nil split leaves empty] at reads
  refine ⟨first.length, _, leaves, reads, fun others found told => ?_⟩
  rw [isLine.contentsOf_append, List.append_assoc, List.singleton_append] at told
  exact ⟨_, isLine.reads, imports, isLine.holds.startGroup unnamed isLine.own told⟩

/-- The front with an import of the template, where others are put in above it. -/
theorem exists_frontSays_of_both (nonempty : template.blocks ≠ [])
    (sameLines : text.displayLines = text.sourceLines)
    (ends : text.EndsLogicalLine template.module.importLine) {imported : ImportedName}
    (early : template.ImportsEarly imported) (putIn : template.injected ≠ []) :
    ∃ count contents, FrontSays template count imported contents := by
  obtain ⟨above, line, below, found, front, here, rest, isText, isLine, unnamed, imports, leaves, lower, more⟩ :=
    exists_importingLines accepted nonempty early
  obtain ⟨opening, later, told, isText', height, tells, -, -⟩ := exists_openingLines accepted nonempty ends
  obtain ⟨-, parsed⟩ := ofText_of_read accepted
  obtain ⟨_, _, _, lines, -, -, -, -, logical, isLines, -⟩ := Module.exists_of_ofText parsed
  rw [List.append_cons] at isText
  cases logical.symm.trans isText
  have same := Option.some.inj (isText'.symm.trans isText)
  obtain ⟨middle, split, rfl⟩ := Layout.exists_of_height_le same
    (same ▸ height_pos_of_lines? isLines) (height ▸ lower)
  obtain ⟨first, behind, divided, areLines, written, length⟩ :=
    exists_displayLines accepted sameLines isText fun _ => more
  have closed : isOpen middle = false := by
    rcases List.eq_nil_or_concat middle with rfl | ⟨others, last, rfl⟩
    · rfl
    · rw [List.concat_eq_append, ← List.append_assoc] at split
      cases (List.append_inj' split rfl).2
      simp [isOpen, isLine.closed]
  have reading := isLine.reads
  rw [split] at written reading
  obtain ⟨before, after, rfl, lengthBefore, writtenBefore, writtenAfter⟩ := written.exists_append areLines
  rw [← length] at leaves
  have readsAfter := writtenAfter.readsAs
  rw [closed] at readsAfter
  have reads := readsAs_spliceFront divided leaves (height.symm.trans lengthBefore.symm)
    writtenBefore.readsAs readsAfter putIn
  refine ⟨_, _, leaves, reads, fun others found all => ?_⟩
  rw [List.append_assoc] at all
  have starts := startGroup_behind_injected putIn all
  have injectedReads : LineContent.statements? (contentsOf opening ++ template.injected.map (·.content)) =
      some (told ++ template.injected.map (·.statement)) := statements?_injected tells
  have contents : contentsOf (opening ++ middle) = contentsOf opening ++ contentsOf middle := by
    simp [contentsOf]
  rw [contents, LineContent.statements?_append starts.of_append tells] at reading
  obtain ⟨toldMiddle, tellsMiddle, whole⟩ := Option.map_eq_some_iff.1 reading
  refine ⟨_, by rw [LineContent.statements?_append starts.of_append injectedReads, tellsMiddle]; rfl, ?_, ?_⟩
  · obtain ⟨statement, among, does⟩ := imports
    rw [← whole] at among
    refine ⟨statement, ?_, does⟩
    rcases List.mem_append.1 among with first | second
    · simp [first]
    · simp [second]
  · rcases List.eq_nil_or_concat middle with rfl | ⟨others', last, rfl⟩
    · exact starts
    · rw [List.concat_eq_append] at split starts all
      rw [← List.append_assoc] at split
      obtain ⟨rfl, equal⟩ := List.append_inj' split rfl
      cases equal
      rw [isLine.contentsOf_append] at starts all
      have own : (contentOf line).joins = false := by
        by_cases first : contentsOf others' = []
        · rw [first] at starts
          exact starts (contentOf line) rfl
        · refine isLine.own fun none => first ?_
          have both : contentsOf opening ++ contentsOf others' = [] := by
            rw [← none]
            simp [contentsOf]
          exact (List.append_eq_nil_iff.1 both).2
      rw [List.append_assoc _ [contentOf line], ← List.append_assoc, List.singleton_append] at all
      exact isLine.holds.startGroup unnamed (fun _ => own) all

/-- A module that generated code uses: how it is imported, its name there, and what it stands for. -/
inductive Uses (template : Template) : ImportedName → String → Library → Prop
  | runtime : Uses template ⟨runtimePath, some runtimeAlias⟩ runtimeAlias .runtime
  | dataclasses (block : Block) (among : block ∈ template.blocks) (named : block.shape = .named) :
    Uses template ⟨"dataclasses", none⟩ "dataclasses" .dataclasses

omit accepted in
/-- A module that generated code uses is imported by the template, or its import is put in. -/
theorem exists_of_uses (nonempty : template.blocks ≠ []) {imported : ImportedName} {name : String}
    {library : Library} (uses : template.Uses imported name library) :
    (∃ statement ∈ template.module, statement.importsAs imported = true) ∨
      ∃ line ∈ template.injected, line.imported = imported := by
  have filled : ¬template.blocks.isEmpty = true := by simpa using nonempty
  by_cases has : template.module.importsModule imported.path imported.boundAs = true
  · obtain ⟨statement, among, imports⟩ := List.any_eq_true.1 has
    exact .inl ⟨statement, among, (Stmt.importsModule_eq imported statement).symm.trans imports⟩
  · refine .inr ?_
    rw [injected, if_neg filled]
    cases uses with
    | runtime => exact ⟨.runtime, by simp [has], rfl⟩
    | dataclasses block among named =>
      have needed : template.blocks.any (·.shape == .named) = true :=
        List.any_eq_true.2 ⟨block, among, by simp [named]⟩
      exact ⟨.dataclasses, by simp [has, needed], rfl⟩

/-- The front of a generated module says the import of each module that generated code uses. -/
theorem exists_frontSays (nonempty : template.blocks ≠ []) {imported : ImportedName} {name : String}
    {library : Library} (uses : template.Uses imported name library)
    (sameLines : text.displayLines = text.sourceLines)
    (ends : template.imports ≠ [] → text.EndsLogicalLine template.module.importLine)
    (early : (∃ statement ∈ template.module, statement.importsAs imported = true) →
      template.ImportsEarly imported) :
    ∃ count contents, FrontSays template count imported contents := by
  have endsThere (putIn : template.injected ≠ []) :
      text.EndsLogicalLine template.module.importLine := by
    refine ends ?_
    rw [imports_eq]
    simpa using putIn
  rcases exists_of_uses nonempty uses with has | ⟨line, among, rfl⟩
  · by_cases putIn : template.injected = []
    · exact exists_frontSays_of_imports accepted nonempty sameLines (early has) putIn
    · exact exists_frontSays_of_both accepted nonempty sameLines (endsThere putIn) (early has) putIn
  · exact exists_frontSays_of_injected accepted nonempty sameLines (endsThere (List.ne_nil_of_mem among)) among

end Template

end DifferenceTypes
