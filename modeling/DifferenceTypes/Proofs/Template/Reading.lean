import DifferenceTypes.Proofs.Object.Derivation
import DifferenceTypes.Template.Basic

/-!
# Templates that are read

What it means that a text was accepted as a template: its statements were read, their marked classes
were found, and each of them gave its block.
-/

namespace DifferenceTypes

/-- Where all values pass a check, each of them does. -/
theorem Except.eq_ok_of_mem_forM {ε α : Type} {check : α → Except ε PUnit} {values : List α}
    (checked : values.forM check = .ok ()) {value : α} (among : value ∈ values) : check value = .ok () := by
  induction values with
  | nil => exact nomatch among
  | cons first rest inductionHypothesis =>
    rw [List.forM_eq_forM, List.forM_cons] at checked
    obtain ⟨⟨⟩, here, later⟩ := Except.exists_of_bind_eq_ok checked
    rcases List.mem_cons.1 among with rfl | behind
    · exact here
    · exact inductionHypothesis later behind

/-- A block has the shape of its class, and the fields of a class of that shape. -/
theorem Block.ofClass_eq_ok {text : Text} {display : List Text} {definition : ClassDefinition}
    {block : Block} (made : ofClass text display definition = .ok block) :
    definition.shape = .ok block.shape ∧
      Field.ofClass text definition block.shape = .ok block.fields := by
  unfold ofClass at made
  obtain ⟨options, -, made⟩ := Except.exists_of_bind_eq_ok made
  obtain ⟨shape, shaped, made⟩ := Except.exists_of_bind_eq_ok made
  obtain ⟨fields, given, made⟩ := Except.exists_of_bind_eq_ok made
  obtain ⟨markerLines, -, made⟩ := Except.exists_of_bind_eq_ok made
  cases made
  exact ⟨shaped, given⟩

namespace Template

/-- Reading a template gives its statements and the blocks of their marked classes. -/
theorem read_eq_ok {text : Text} {template : Template} (accepted : read text = .ok template) :
    ∃ classes, template.module.markedClasses = .ok classes ∧
      Block.ofClasses text text.displayLines (template.module.boundNames.map Text.ofString)
        classes = .ok template.blocks := by
  unfold read at accepted
  cases parsed : Module.ofText text with
  | error error =>
    rw [parsed] at accepted
    exact nomatch accepted
  | ok module =>
    simp only [parsed, bind, Except.bind] at accepted
    cases marked : module.markedClasses with
    | error error =>
      simp only [marked] at accepted
      exact nomatch accepted
    | ok classes =>
      simp only [marked] at accepted
      cases made : Block.ofClasses text text.displayLines (module.boundNames.map Text.ofString)
          classes with
      | error error =>
        simp only [made] at accepted
        exact nomatch accepted
      | ok blocks =>
        simp only [made] at accepted
        cases accepted
        exact ⟨classes, marked, made⟩

/-- A template keeps its text and the statements of this text. -/
theorem ofText_of_read {text : Text} {template : Template} (accepted : read text = .ok template) :
    template.text = text ∧ Module.ofText text = .ok template.module := by
  unfold read at accepted
  obtain ⟨module, parsed, accepted⟩ := Except.exists_of_bind_eq_ok accepted
  obtain ⟨classes, -, accepted⟩ := Except.exists_of_bind_eq_ok accepted
  obtain ⟨blocks, -, accepted⟩ := Except.exists_of_bind_eq_ok accepted
  cases accepted
  exact ⟨rfl, parsed⟩

/-- Each marked class of a template gave its own block. -/
theorem ofClass_of_mem_zip {text : Text} {display taken : List Text}
    {classes : List ClassDefinition} {blocks : List Block} {definition : ClassDefinition}
    {block : Block} (made : Block.ofClasses text display taken classes = .ok blocks)
    (among : (definition, block) ∈ classes.zip blocks) :
    Block.ofClass text display definition = .ok block := by
  induction classes generalizing taken blocks with
  | nil => exact absurd among (by simp)
  | cons first rest inductionHypothesis =>
    unfold Block.ofClasses at made
    obtain ⟨head, headMade, made⟩ := Except.exists_of_bind_eq_ok made
    obtain ⟨_, -, made⟩ := Except.exists_of_bind_eq_ok made
    obtain ⟨tail, tailMade, made⟩ := Except.exists_of_bind_eq_ok made
    cases made
    rw [List.zip_cons_cons] at among
    rcases List.mem_cons.1 among with same | behind
    · cases same
      exact headMade
    · exact inductionHypothesis tailMade behind

theorem eq_ok_of_toOption {ε α : Type} {result : Except ε α} {value : α}
    (known : result.toOption = some value) : result = .ok value := by
  cases result with
  | error => exact nomatch known
  | ok => exact congrArg Except.ok (Option.some.inj known)

/-- A text is accepted if something is known about the template that it gives. -/
theorem exists_of_read {α : Type} {text : Text} {view : Template → α} {value : α}
    (known : (read text).toOption.map view = some value) :
    ∃ template, read text = .ok template ∧ view template = value := by
  obtain ⟨template, accepted, same⟩ := Option.map_eq_some_iff.1 known
  exact ⟨template, eq_ok_of_toOption accepted, same⟩

/-- A marked class with a property that is looked for. -/
theorem exists_markedClass {text : Text} (view : ClassDefinition → Block → Bool)
    (known : (read text).toOption.map (fun template =>
      ((template.module.markedClasses.toOption.getD []).zip template.blocks).any fun pair =>
        view pair.1 pair.2) = some true) :
    ∃ template classes definition block, read text = .ok template ∧
      template.module.markedClasses = .ok classes ∧
      (definition, block) ∈ classes.zip template.blocks ∧ view definition block = true := by
  obtain ⟨template, accepted, found⟩ := exists_of_read known
  obtain ⟨⟨definition, block⟩, among, holds⟩ := List.any_eq_true.1 found
  obtain ⟨classes, marked, -⟩ := read_eq_ok accepted
  rw [marked] at among
  exact ⟨template, classes, definition, block, accepted, marked, among, holds⟩

end Template

end DifferenceTypes
