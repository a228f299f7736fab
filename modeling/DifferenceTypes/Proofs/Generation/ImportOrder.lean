import DifferenceTypes.Proofs.Evaluation.ImportedNames
import DifferenceTypes.Proofs.Generation.FrontStatements
import DifferenceTypes.Proofs.Generation.Header
import DifferenceTypes.Session.Contract
import DifferenceTypes.Session.Loading

/-!
# Names of the modules that generated code uses

Generated code calls the contract's runtime `_diff`, and what it makes of record classes are data classes of
`dataclasses`. A generated module has the imports of both at its front, above all that is generated, so each
statement behind the front runs with these names bound (`Template.lookUp_of_uses`), if nothing else binds
them. A template's own import has to stand above the marked classes for that: one that stands below keeps
another one from being put in all the same (`Template.lookUp_of_belatedTemplate`).
-/

namespace DifferenceTypes

open Evaluation (BindsOnly Binds callWithin run runAll)
open Run (outcome)
open Text

namespace Template

theorem Uses.binds {template : Template} {imported : ImportedName} {name : String} {library : Library}
    (uses : template.Uses imported name library) : Binds imported name library := by
  intro κ
  cases uses with
  | runtime => rfl
  | dataclasses => rfl

section

variable {text : Text} {template : Template} (accepted : read text = .ok template)
  (nonempty : template.blocks ≠ []) {imported : ImportedName} {name : String} {library : Library}
  (uses : template.Uses imported name library) (sameLines : text.displayLines = text.sourceLines)
  (ends : template.imports ≠ [] → text.EndsLogicalLine template.module.importLine)
  (early : (∃ statement ∈ template.module, statement.importsAs imported = true) →
    template.ImportsEarly imported)
  {label : List Char} (oneLine : Output.IsOneLine label) (bytes : List UInt8) {output : Module}
  (parsed : Module.ofText (Output.render (ofCharacters label) bytes template) = .ok output)

include accepted nonempty uses sameLines ends early oneLine parsed

/-- A generated module starts with the statements of its front, and imports are among them. -/
theorem exists_front_of_render :
    ∃ count first later, template.LeavesUpTo count ∧
      Module.ofText (Output.header (ofCharacters label) bytes ++ template.spliceFront count) = .ok first ∧
      (∃ statement ∈ Stmt.contents first, statement.importsAs imported = true) ∧
      Stmt.contents output = Stmt.contents first ++ later := by
  obtain ⟨count, contents, leaves, reads, tells⟩ :=
    exists_frontSays accepted nonempty uses sameLines ends early
  obtain ⟨rest, split⟩ := exists_splice_eq_append template count
  have apart : ¬Meets (Output.header (ofCharacters label) bytes) (template.spliceFront count) :=
    fun meets => absurd ((Output.getLast?_header label bytes).symm.trans meets.1) (by decide)
  have whole := (Output.readsAs_header oneLine bytes).append reads (fun _ => rfl)
    fun meets => absurd meets apart
  rw [List.nil_append] at whole
  rw [Output.render, split, ← List.append_assoc] at parsed
  obtain ⟨first, later, read, imports, same⟩ := Module.exists_of_ofText_append whole parsed tells
  exact ⟨count, first, later, leaves, read, imports, same⟩

/-- The front of a generated module comes before all that is generated from marked classes, and each
statement behind the front runs with the names bound that generated code uses. -/
theorem lookUp_of_uses :
    ∃ count first later, template.LeavesUpTo count ∧
      Module.ofText (Output.header (ofCharacters label) bytes ++ template.spliceFront count) = .ok first ∧
      Stmt.contents output = Stmt.contents first ++ later ∧
      ∀ done, done <+: later → ∀ {κ : Type} (call : Caller κ) (world : World κ),
        (world.module.get? name = none ∨ world.module.get? name = some (.library library)) →
        BindsOnly call name (.library library) (Stmt.contents first ++ done) Frame.ofModule world →
        ∀ after laterWorld,
          outcome (StateT.run (runAll call (Stmt.contents first ++ done)) Frame.ofModule) world =
            (.ok (.next, after), laterWorld) →
          Evaluation.lookUp laterWorld after name = .ok (.library library) := by
  obtain ⟨count, first, later, leaves, read, ⟨statement, among, imports⟩, same⟩ :=
    exists_front_of_render accepted nonempty uses sameLines ends early oneLine bytes parsed
  refine ⟨count, first, later, leaves, read, same, ?_⟩
  intro done _ κ call world start binds after laterWorld ran
  have isImported : ∃ statement ∈ Stmt.contents first ++ done, statement.importsAs imported = true :=
    ⟨statement, List.mem_append_left _ among, imports⟩
  have bound := Evaluation.get?_of_imports uses.binds binds isImported Frame.isModule_ofModule start ran
  exact Evaluation.lookUp_of_get? (Evaluation.isModule_of_runAll Frame.isModule_ofModule ran) bound

end

/-! ### A class above its import -/

/-- What is generated from a template of a session. -/
def sessionText (text : Text) (template : Template) : Text :=
  Output.render Loading.label ((Utf8.encode? text).getD []) template

/-- The modules that are imported by statements which import one module each. -/
def importedNames? : List (Stmt Unit) → Option (List ImportedName)
  | [] => some []
  | .imports _ [imported] :: rest => (imported :: ·) <$> importedNames? rest
  | _ => none

theorem eq_map_of_importedNames? {statements : List (Stmt Unit)} {names : List ImportedName}
    (known : importedNames? statements = some names) :
    statements = names.map fun imported => .imports () [imported] := by
  induction statements generalizing names with
  | nil =>
    cases known
    rfl
  | cons first rest inductionHypothesis =>
    unfold importedNames? at known
    split at known
    · next none => exact nomatch none
    · next same =>
      cases same
      obtain ⟨others, knownRest, rfl⟩ := Option.map_eq_some_iff.1 known
      rw [inductionHypothesis knownRest]
      rfl
    · exact nomatch known

/-- A template with a record class and nothing else. -/
def recordTemplate : Text :=
  "@diff\nclass P:\n    x: int\n"

/-- The generated module of the record class imports both modules in front of the class, and behind the imports
both names are known. -/
theorem lookUp_of_recordTemplate :
    ∃ template output first later, read recordTemplate = .ok template ∧
      Module.ofText (sessionText recordTemplate template) = .ok output ∧
      Stmt.contents output = first ++ later ∧
      first = [ImportLine.dataclasses.statement, ImportLine.runtime.statement] ∧
      ∃ after world,
        outcome (StateT.run (runAll (callWithin SessionContract.behaviour 1) first) Frame.ofModule)
          World.empty = (.ok (.next, after), world) ∧
        Evaluation.lookUp world after "_diff" = .ok (.library .runtime) ∧
        Evaluation.lookUp world after "dataclasses" = .ok (.library .dataclasses) := by
  have known : ((read recordTemplate).toOption.map fun template =>
      template.isMarkerLine 1 && template.module.importLine == 0 &&
        template.blocks.any (fun block => block.shape == .named) &&
        (!template.module.any (·.importsAs ImportLine.dataclasses.imported) &&
          !template.module.any (·.importsAs ImportLine.runtime.imported)) &&
        (Module.ofText (sessionText recordTemplate template)).toOption.isSome &&
        (Module.ofText (Output.header Loading.label ((Utf8.encode? recordTemplate).getD []) ++
          template.spliceFront 0)).toOption.bind (fun front => importedNames? (Stmt.contents front)) ==
            some [ImportLine.dataclasses.imported, ImportLine.runtime.imported]) = some true := by
    decide +kernel
  obtain ⟨template, accepted, holds⟩ := exists_of_read known
  simp only [Bool.and_eq_true, beq_iff_eq, Bool.not_eq_true'] at holds
  obtain ⟨⟨⟨⟨⟨isMarker, atStart⟩, isNamed⟩, noDataclasses, noRuntime⟩, isModule⟩, imports⟩ := holds
  obtain ⟨block, among, named⟩ := List.any_eq_true.1 isNamed
  have nonempty : template.blocks ≠ [] := List.ne_nil_of_mem among
  have sameLines : recordTemplate.displayLines = recordTemplate.sourceLines := by decide +kernel
  have ends : template.imports ≠ [] → recordTemplate.EndsLogicalLine template.module.importLine := by
    intro _
    obtain ⟨-, ofText⟩ := ofText_of_read accepted
    obtain ⟨_, _, _, lines, -, -, -, -, logical, -, -⟩ := Module.exists_of_ofText ofText
    exact ⟨[], lines, logical, atStart.symm⟩
  have absent {imported : ImportedName} (none : template.module.any (·.importsAs imported) = false) :
      (∃ statement ∈ template.module, statement.importsAs imported = true) →
        template.ImportsEarly imported := by
    rintro ⟨statement, there, does⟩
    exact absurd (List.any_eq_true.2 ⟨statement, there, does⟩) (by simp [none])
  obtain ⟨output, found⟩ := Option.isSome_iff_exists.1 isModule
  have parsed := eq_ok_of_toOption found
  have oneLine : Output.IsOneLine "m.py.diff".toList := by decide
  have first {count : Nat} {front : Module} (leaves : template.LeavesUpTo count)
      (parsedFront : Module.ofText (Output.header Loading.label ((Utf8.encode? recordTemplate).getD []) ++
        template.spliceFront count) = .ok front) :
      Stmt.contents front = [ImportLine.dataclasses.statement, ImportLine.runtime.statement] := by
    obtain rfl : count = 0 := by
      by_contra positive
      exact nomatch isMarker.symm.trans (leaves 1 (Nat.le_refl _) (by omega)).1
    rw [parsedFront] at imports
    exact eq_map_of_importedNames? imports
  obtain ⟨_, frontRuntime, later, leaves, parsedFront, same, bound⟩ :=
    lookUp_of_uses accepted nonempty .runtime sameLines ends (absent noRuntime) oneLine _ parsed
  obtain ⟨_, frontDataclasses, _, leaves', parsedFront', -, bound'⟩ :=
    lookUp_of_uses accepted nonempty (.dataclasses block among (eq_of_beq named)) sameLines ends
      (absent noDataclasses) oneLine _ parsed
  let call := callWithin SessionContract.behaviour 1
  rw [first leaves parsedFront] at same bound
  rw [first leaves' parsedFront'] at bound'
  refine ⟨template, output, _, later, accepted, parsed, same, rfl, _, _, rfl, ?_, ?_⟩
  · refine bound [] List.nil_prefix call World.empty (.inl rfl) ?_ _ _ rfl
    intro after world ran
    cases ran
    refine ⟨.inl rfl, fun after world ran => ?_⟩
    cases ran
    exact ⟨.inr rfl, trivial⟩
  · refine bound' [] List.nil_prefix call World.empty (.inl rfl) ?_ _ _ rfl
    intro after world ran
    cases ran
    refine ⟨.inr rfl, fun after world ran => ?_⟩
    cases ran
    exact ⟨.inl rfl, trivial⟩

/-- A template with a marked class above the import of the runtime. -/
def belatedTemplate : Text :=
  "@diff\nclass P:\n    pass\nimport diffgen.runtime as _diff\n"

/-- Whether a name is said to be unknown. -/
def isUnknown {α : Type} : Except Failure α → Bool
  | .error failure => failure == .unknownName
  | .ok _ => false

theorem eq_of_isUnknown {α : Type} {result : Except Failure α} (unknown : isUnknown result = true) :
    result = .error .unknownName := by
  cases result with
  | error failure => exact congrArg Except.error (eq_of_beq unknown)
  | ok => exact nomatch unknown

/-- A statement of a session's module, run there. -/
def runStatement (statement : Stmt Unit) (frame : Frame) (world : World SessionContract) :
    Except Failure (Evaluation.Flow × Frame) × World SessionContract :=
  outcome (StateT.run (run (callWithin SessionContract.behaviour 1) statement) frame) world

/-- Whether a first statement goes through and leaves the runtime's name unknown, and a second one stumbles
over it. -/
def missesRuntime (first second : Stmt Unit) : Bool :=
  match runStatement first Frame.ofModule World.empty with
  | (.ok (.next, after), world) =>
    (world.module.get? runtimeAlias).isNone && isUnknown (Evaluation.lookUp world after runtimeAlias) &&
      isUnknown (runStatement second after world).1
  | _ => false

/-- Whether a class is implemented between a statement and the import of the runtime. -/
def isBelated : List (Stmt Unit) → Bool
  | [first, .classDefinition span "_PDiffImpl" bases keywords body decorators, .imports _ [imported]] =>
    imported == ImportLine.runtime.imported &&
      missesRuntime first (.classDefinition span "_PDiffImpl" bases keywords body decorators)
  | _ => false

/-- Where a marked class stands above the import of the runtime, this import is the only one. The class that
implements the contract runs before it and stumbles over the runtime's name. -/
theorem lookUp_of_belatedTemplate :
    ∃ template output first bases keywords body decorators, read belatedTemplate = .ok template ∧
      template.blocks ≠ [] ∧ (∀ block ∈ template.blocks, block.options.override = none) ∧
      Module.ofText (sessionText belatedTemplate template) = .ok output ∧
      Stmt.contents output = [first, .classDefinition () "_PDiffImpl" bases keywords body decorators,
        ImportLine.runtime.statement] ∧
      BindsOnly (callWithin SessionContract.behaviour 1) runtimeAlias (.library .runtime)
        (Stmt.contents output) Frame.ofModule World.empty ∧
      ∃ after world, runStatement first Frame.ofModule World.empty = (.ok (.next, after), world) ∧
        Evaluation.lookUp world after runtimeAlias = .error .unknownName ∧
        (runStatement (.classDefinition () "_PDiffImpl" bases keywords body decorators) after world).1 =
          .error .unknownName := by
  have known : ((read belatedTemplate).toOption.map fun template =>
      !template.blocks.isEmpty && template.blocks.all (fun block => block.options.override == none) &&
        (Module.ofText (sessionText belatedTemplate template)).toOption.any fun output =>
          isBelated (Stmt.contents output)) = some true := by
    decide +kernel
  obtain ⟨template, accepted, holds⟩ := exists_of_read known
  simp only [Bool.and_eq_true, Bool.not_eq_true', List.isEmpty_eq_false_iff, List.all_eq_true,
    beq_iff_eq] at holds
  obtain ⟨⟨nonempty, plain⟩, belated⟩ := holds
  obtain ⟨output, found, belated⟩ := (Option.any_eq_true _ _).1 belated
  have parsed := eq_ok_of_toOption found
  unfold isBelated at belated
  split at belated
  · next first _ bases keywords body decorators _ imported statements =>
    simp only [Bool.and_eq_true, beq_iff_eq] at belated
    obtain ⟨rfl, misses⟩ := belated
    unfold missesRuntime at misses
    split at misses
    · next after world ran =>
      simp only [Bool.and_eq_true] at misses
      obtain ⟨⟨unbound, unknown⟩, stumbles⟩ := misses
      refine ⟨template, output, first, bases, keywords, body, decorators, accepted, nonempty, plain, parsed,
        statements, ?_, after, world, ran, eq_of_isUnknown unknown, eq_of_isUnknown stumbles⟩
      rw [statements]
      intro next later ranFirst
      cases ran.symm.trans ranFirst
      refine ⟨.inl (Option.isNone_iff_eq_none.1 unbound), fun _ _ ranSecond => ?_⟩
      have failed := eq_of_isUnknown stumbles
      rw [runStatement, ranSecond] at failed
      cases failed
    · cases misses
  · cases belated

end Template

end DifferenceTypes
