import DifferenceTypes.Proofs.Generation.InjectedImports
import DifferenceTypes.Proofs.Template.MarkedClasses

/-!
# The front of a generated module

Above the first marked class a template comes out as it is, but for the imports that are put in behind the
statements that have to be first. So the front of the generated module says what the template says there,
with the imports in between (`Template.readsAs_spliceFront`).
-/

namespace DifferenceTypes

open Lexer Text

namespace Template

/-- What comes before the first line and of the first lines of a template. -/
def spliceFront (template : Template) (count : Nat) : Text :=
  template.opening ++
    ((template.text.displayLines.take count).zipIdx 1).flatMap fun (line, number) =>
      template.spliceLine line number

/-- The generated module starts with its front. -/
theorem exists_splice_eq_append (template : Template) (count : Nat) :
    ∃ rest, template.splice = template.spliceFront count ++ rest := by
  let lines := template.text.displayLines
  have divided : lines.zipIdx 1 = (lines.take count).zipIdx 1 ++
      (lines.drop count).zipIdx (1 + (lines.take count).length) := by
    rw [← List.zipIdx_append, List.take_append_drop]
  refine ⟨((lines.drop count).zipIdx (1 + (lines.take count).length)).flatMap fun (line, number) =>
    template.spliceLine line number, ?_⟩
  rw [splice, spliceFront, List.append_assoc, ← List.flatMap_append, ← divided]

/-! ### Lines that are left alone -/

/-- The imports as they are put in behind a line. -/
def importsBehind (template : Template) (line : Text) : Text :=
  missingLineEnd line ++ ("\n" ++ template.imports.flatten)

section Lines

variable {template : Template} {number : Nat} (unmarked : template.isMarkerLine number = false)
  (unblocked : template.blockAt? number = none)

include unmarked unblocked

/-- A line that no block touches comes out as it is, unless the imports follow it. -/
theorem spliceLine_of_ne (line : Text)
    (apart : number ≠ template.module.importLine ∨ template.imports.flatten = []) :
    template.spliceLine line number = line := by
  have none : template.insertions number = [] := by
    unfold insertions
    rw [unblocked]
    rcases apart with other | empty
    · simp [other]
    · simp [empty]
  rw [spliceLine, unmarked, none]
  rfl

theorem spliceLine_of_eq (line : Text) (here : number = template.module.importLine)
    (nonempty : template.imports.flatten ≠ []) :
    template.spliceLine line number = line ++ template.importsBehind line := by
  have only : template.insertions number = ["\n" ++ template.imports.flatten] := by
    unfold insertions
    rw [unblocked]
    simp [here, nonempty]
  rw [spliceLine, unmarked, only, importsBehind]
  simp

end Lines

/-- Lines that no block touches come out as they are, if the imports follow none of them. -/
theorem flatMap_spliceLine {template : Template} {lines : List Text} {start : Nat}
    (left : ∀ number, start ≤ number → number < start + lines.length →
      template.isMarkerLine number = false ∧ template.blockAt? number = none ∧
        (number ≠ template.module.importLine ∨ template.imports.flatten = [])) :
    (lines.zipIdx start).flatMap (fun (line, number) => template.spliceLine line number) =
      lines.flatten := by
  induction lines generalizing start with
  | nil => rfl
  | cons line rest inductionHypothesis =>
    obtain ⟨unmarked, unblocked, apart⟩ := left start (Nat.le_refl _) (by simp)
    have same : template.spliceLine line start = line := spliceLine_of_ne unmarked unblocked line apart
    rw [List.zipIdx_cons, List.flatMap_cons, List.flatten_cons]
    dsimp only
    rw [same]
    congr 1
    refine inductionHypothesis fun number above below => left number (by omega) ?_
    rw [List.length_cons]
    omega

variable {template : Template} {front behind rest : List Text}

/-- Where no imports are put in, the front of a template comes out as it is. -/
theorem spliceFront_of_nil (lines : template.text.displayLines = front ++ rest)
    (leaves : template.LeavesUpTo front.length) (empty : template.imports.flatten = []) :
    template.spliceFront front.length = front.flatten := by
  have opening : template.opening = [] := by
    unfold Template.opening
    simp [empty]
  rw [spliceFront, opening, lines, List.take_left, List.nil_append]
  refine flatMap_spliceLine fun number above below => ?_
  obtain ⟨unmarked, unblocked⟩ := leaves number above (by omega)
  exact ⟨unmarked, unblocked, .inr empty⟩

/-- The front of a template comes out with the imports before its first line. -/
theorem spliceFront_of_zero (lines : template.text.displayLines = front ++ rest)
    (leaves : template.LeavesUpTo front.length) (first : template.module.importLine = 0)
    (nonempty : template.imports.flatten ≠ []) :
    template.spliceFront front.length = template.imports.flatten ++ "\n" ++ front.flatten := by
  have opening : template.opening = template.imports.flatten ++ "\n" := by
    unfold Template.opening
    simp [first, nonempty]
  rw [spliceFront, opening, lines, List.take_left]
  congr 1
  refine flatMap_spliceLine fun number above below => ?_
  obtain ⟨unmarked, unblocked⟩ := leaves number above (by omega)
  exact ⟨unmarked, unblocked, .inl (by omega)⟩

/-- The front of a template comes out with the imports behind one of its lines. -/
theorem spliceFront_of_line {line : Text}
    (lines : template.text.displayLines = front ++ line :: behind ++ rest)
    (leaves : template.LeavesUpTo (front ++ line :: behind).length)
    (here : template.module.importLine = front.length + 1)
    (nonempty : template.imports.flatten ≠ []) :
    template.spliceFront (front ++ line :: behind).length =
      (front ++ [line]).flatten ++ template.importsBehind line ++ behind.flatten := by
  have opening : template.opening = [] := by
    unfold Template.opening
    simp [here]
  rw [List.length_append, List.length_cons] at leaves
  rw [spliceFront, opening, lines, List.take_left, List.nil_append, List.zipIdx_append, List.zipIdx_cons,
    List.flatMap_append, List.flatMap_cons, flatMap_spliceLine, flatMap_spliceLine]
  · obtain ⟨unmarked, unblocked⟩ := leaves (1 + front.length) (by omega) (by omega)
    have same := spliceLine_of_eq unmarked unblocked line (by omega) nonempty
    dsimp only
    rw [same]
    simp
  · intro number above below
    obtain ⟨unmarked, unblocked⟩ := leaves number (by omega) (by omega)
    exact ⟨unmarked, unblocked, .inl (by omega)⟩
  · intro number above below
    obtain ⟨unmarked, unblocked⟩ := leaves number (by omega) (by omega)
    exact ⟨unmarked, unblocked, .inl (by omega)⟩

/-! ### What the front says -/

/-- Imports that are put in say what they import. -/
theorem readsAs_imports (template : Template) :
    ReadsAs template.imports.flatten (template.injected.map (·.content)) false := by
  rw [imports_eq]
  exact ImportLine.readsAs_flatten fun line among => isRead_of_mem_injected among

theorem getLast?_imports (template : Template) (nonempty : template.injected ≠ []) :
    template.imports.flatten.getLast? = some (.scalar '\n') := by
  rw [imports_eq]
  rcases List.eq_nil_or_concat template.injected with none | ⟨others, last, split⟩
  · exact absurd none nonempty
  · have isRead : last.IsRead := isRead_of_mem_injected (show last ∈ template.injected by simp [split])
    rw [split, List.concat_eq_append, List.map_append, List.flatten_append, List.map_singleton,
      List.flatten_singleton, List.getLast?_append, isRead.ends]
    rfl

/-- They say so behind any line, too. -/
theorem readsAs_importsBehind (template : Template) (line : Text) :
    ReadsAs (template.importsBehind line) (template.injected.map (·.content)) false := by
  have apart {behind : Text} : ¬Meets "\n" behind := fun meets => absurd meets.1 (by decide)
  have once : ReadsAs ("\n" ++ template.imports.flatten) (template.injected.map (·.content)) false :=
    readsAs_lineFeed.append template.readsAs_imports (fun _ => rfl) fun meets => absurd meets apart
  unfold importsBehind missingLineEnd
  split
  · exact once
  · exact readsAs_lineFeed.append once (fun _ => rfl) fun meets => absurd meets apart

/-- The front says what the template says there, with the imports in between. -/
theorem readsAs_spliceFront {before after : List LineContent} {open_ : Bool}
    (lines : template.text.displayLines = front ++ behind ++ rest)
    (leaves : template.LeavesUpTo (front ++ behind).length)
    (here : template.module.importLine = front.length) (readsFront : ReadsAs front.flatten before open_)
    (readsBehind : ReadsAs behind.flatten after false) (nonempty : template.injected ≠ []) :
    ReadsAs (template.spliceFront (front ++ behind).length)
      (before ++ template.injected.map (·.content) ++ after) false := by
  have somewhere : template.injected.map (·.content) ≠ [] := by simpa using nonempty
  have written := template.readsAs_imports.ne_nil somewhere
  have ends := template.getLast?_imports nonempty
  rcases List.eq_nil_or_concat front with rfl | ⟨others, line, rfl⟩
  · obtain rfl : before = [] := by
      by_contra more
      exact absurd rfl (readsFront.ne_nil more)
    rw [List.nil_append] at lines leaves ⊢
    rw [spliceFront_of_zero lines leaves here written]
    have first : ReadsAs (template.imports.flatten ++ "\n") (template.injected.map (·.content)) false := by
      have closed := template.readsAs_imports.append readsAs_lineFeed (fun _ => rfl) fun meets =>
        absurd (ends.symm.trans meets.1) (by decide)
      rwa [List.append_nil] at closed
    refine first.append readsBehind (fun _ => rfl) fun meets => ?_
    have last : (template.imports.flatten ++ ("\n" : Text)).getLast? = some (.scalar '\n') :=
      List.getLast?_concat
    exact absurd (last.symm.trans meets.1) (by decide)
  · rw [List.concat_eq_append] at lines leaves here readsFront ⊢
    have divided : others ++ [line] ++ behind = others ++ line :: behind := by simp
    rw [divided] at lines leaves ⊢
    rw [List.length_append] at here
    rw [spliceFront_of_line lines leaves here written]
    have first := readsFront.append (template.readsAs_importsBehind line)
      (fun empty => absurd empty ((template.readsAs_importsBehind line).ne_nil somewhere)) fun _ => somewhere
    refine first.append readsBehind (fun _ => rfl) fun meets => ?_
    have last : ((others ++ [line]).flatten ++ template.importsBehind line).getLast? =
        some (.scalar '\n') := by
      rw [importsBehind, ← List.append_assoc, ← List.append_assoc, List.getLast?_append, ends]
      rfl
    exact absurd (last.symm.trans meets.1) (by decide)

end Template

end DifferenceTypes
