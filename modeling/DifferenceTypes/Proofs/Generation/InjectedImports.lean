import DifferenceTypes.Proofs.Syntax.Groups
import DifferenceTypes.Proofs.Syntax.SourceText
import DifferenceTypes.Generation.Splice

/-!
# The imports that are put in

The code that is generated for marked classes uses one module or two. Where the template does not have their
imports, these are put in, each on a line of its own, and such lines say just that
(`ImportLine.readsAs_flatten`, `ImportLine.statements?_map`).
-/

namespace DifferenceTypes

open Lexer Text

/-! ### Statements that import -/

namespace Stmt

variable {σ τ : Type}

/-- Whether a statement imports a module as it is named there. -/
def importsAs (imported : ImportedName) : Stmt σ → Bool
  | .imports _ names => names.elem imported
  | _ => false

theorem importsAs_map (imported : ImportedName) (change : σ → τ) (statement : Stmt σ) :
    (statement.map change).importsAs imported = statement.importsAs imported := by
  cases statement <;> rfl

theorem isSimple_of_importsAs {imported : ImportedName} {statement : Stmt σ}
    (imports : statement.importsAs imported = true) : statement.isSimple = true := by
  cases statement with
  | imports => rfl
  | _ => exact nomatch imports

theorem importsModule_eq (imported : ImportedName) (statement : Stmt) :
    statement.importsModule imported.path imported.boundAs = statement.importsAs imported := by
  cases statement with
  | imports _ names =>
    obtain ⟨path, boundAs⟩ := imported
    rw [Bool.eq_iff_iff]
    simp only [importsModule, importsAs, List.any_eq_true, Bool.and_eq_true, beq_iff_eq, List.elem_eq_mem,
      decide_eq_true_eq]
    constructor
    · rintro ⟨other, among, rfl, rfl⟩
      exact among
    · intro among
      exact ⟨_, among, rfl, rfl⟩
  | _ => rfl

end Stmt

/-! ### Import lines -/

/-- A line that imports a module: its text, what is on it and what it imports. -/
structure ImportLine where
  text : Text
  content : LineContent
  imported : ImportedName

namespace ImportLine

/-- The import of record classes. -/
def dataclasses : ImportLine where
  text := "import dataclasses\n"
  content := ⟨⟨0, 0⟩, [.word .importWord, .name "dataclasses"]⟩
  imported := ⟨"dataclasses", none⟩

/-- The import of the contract's runtime. -/
def runtime : ImportLine where
  text := "import diffgen.runtime as _diff\n"
  content := ⟨⟨0, 0⟩, [.word .importWord, .name "diffgen", .symbol .dot, .name "runtime", .word .asWord,
    .name "_diff"]⟩
  imported := ⟨runtimePath, some runtimeAlias⟩

/-- The statement on the line. -/
def statement (line : ImportLine) : Stmt Unit :=
  .imports () [line.imported]

/-- An import line says what it imports, and it starts a group. -/
structure IsRead (line : ImportLine) : Prop where
  reads : line.text.ReadsAs [line.content] false
  ends : line.text.getLast? = some (.scalar '\n')
  simple : ∃ extent, line.content.IsSimpleLine [.imports extent [line.imported]]
  unnamed : line.content.kinds.head? ≠ some (.name "match")
  starts : line.content.joins = false

/-- Whether an import of one module was read. -/
def isImport (imported : ImportedName) : Option (List (Stmt Extent)) → Bool
  | some [.imports _ names] => names == [imported]
  | _ => false

theorem exists_of_isImport {imported : ImportedName} {read : Option (List (Stmt Extent))}
    (isImport : isImport imported read = true) :
    ∃ extent, read = some [.imports extent [imported]] := by
  unfold ImportLine.isImport at isImport
  split at isImport
  · next extent names =>
    exact ⟨extent, by rw [eq_of_beq isImport]⟩
  · exact nomatch isImport

/-- What has to be computed to see that an import line says what it imports. -/
theorem isRead_of_checks {line : ImportLine} (characters : List Char)
    (isText : line.text = ofCharacters characters) (clean : line.text.unifyLineEnds = line.text)
    (noNull : '\x00' ∉ characters) (single : (lines? characters).map contentsOf = some [line.content])
    (flush : line.content.indentation = ⟨0, 0⟩)
    (reads : isImport line.imported
      (StatementGrammar.wholeStatement? (line.content.kinds ++ [.newline])) = true)
    (ends : characters.getLast? = some '\n') (head : line.content.kinds.head? = some (.word .importWord)) :
    line.IsRead where
  reads := by
    obtain ⟨lines, isLines, same⟩ := Option.map_eq_some_iff.1 single
    obtain ⟨texts, split, writes, closed⟩ := lines?_eq_some_iff.1 isLines
    exact ⟨characters, clean.trans isText, noNull, texts, lines, split, writes, same, closed⟩
  ends := by rw [isText, ofCharacters, List.getLast?_map, ends, Option.map_some]
  simple := by
    obtain ⟨extent, read⟩ := exists_of_isImport reads
    refine ⟨extent, flush, read, fun statement among => ?_⟩
    cases List.mem_singleton.1 among
    rfl
  unnamed := by
    rw [head]
    simp
  starts := by
    unfold LineContent.joins
    rw [flush, head]
    rfl

theorem isRead_dataclasses : dataclasses.IsRead :=
  isRead_of_checks "import dataclasses\n".toList rfl (by decide) (by decide)
    (by decide) rfl (by decide) (by decide) rfl

theorem isRead_runtime : runtime.IsRead :=
  isRead_of_checks "import diffgen.runtime as _diff\n".toList rfl (by decide)
    (by decide) (by decide) rfl (by decide +kernel) (by decide) rfl

end ImportLine

namespace Template

/-- The import lines that are put into a template. -/
def injected (template : Template) : List ImportLine :=
  if template.blocks.isEmpty then []
  else
    (if template.blocks.any (·.shape == .named) && !template.module.importsModule "dataclasses" none then
        [ImportLine.dataclasses]
       else []) ++
      if !template.module.importsModule runtimePath (some runtimeAlias) then [ImportLine.runtime] else []

theorem imports_eq (template : Template) : template.imports = template.injected.map (·.text) := by
  unfold imports injected
  split
  · rfl
  · dsimp only
    split <;> split <;> decide

theorem isRead_of_mem_injected {template : Template} {line : ImportLine}
    (among : line ∈ template.injected) : line.IsRead := by
  unfold injected at among
  split at among
  · exact nomatch among
  · rcases List.mem_append.1 among with first | second
    · split at first
      · exact List.mem_singleton.1 first ▸ ImportLine.isRead_dataclasses
      · exact nomatch first
    · split at second
      · exact List.mem_singleton.1 second ▸ ImportLine.isRead_runtime
      · exact nomatch second

end Template

/-! ### Several import lines -/

namespace ImportLine

variable {lines : List ImportLine} (areRead : ∀ line ∈ lines, line.IsRead)

include areRead

theorem readsAs_flatten : ReadsAs (lines.map (·.text)).flatten (lines.map (·.content)) false := by
  induction lines with
  | nil => exact readsAs_nil
  | cons line rest inductionHypothesis =>
    have first := areRead line List.mem_cons_self
    have later := inductionHypothesis fun other among => areRead other (List.mem_cons_of_mem _ among)
    refine first.reads.append later (fun _ => rfl) fun meets => ?_
    exact nomatch first.ends.symm.trans meets.1

theorem startGroup : LineContent.StartGroup (lines.map (·.content)) := by
  intro content first
  obtain ⟨line, head, rfl⟩ := (List.head?_map ▸ first : lines.head?.map (·.content) = _) |> Option.map_eq_some_iff.1
  exact (areRead line (List.mem_of_mem_head? head)).starts

theorem statements?_map : LineContent.statements? (lines.map (·.content)) = some (lines.map statement) := by
  induction lines with
  | nil => rfl
  | cons line rest inductionHypothesis =>
    have restRead := fun other among => areRead other (List.mem_cons_of_mem line among)
    obtain ⟨extent, simple⟩ := (areRead line List.mem_cons_self).simple
    rw [List.map_cons, ← List.singleton_append,
      LineContent.statements?_append (startGroup restRead) simple.statements?_singleton,
      inductionHypothesis restRead]
    rfl

end ImportLine

end DifferenceTypes
