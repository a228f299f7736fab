import DifferenceTypes.Generation.Splice
import DifferenceTypes.Proofs.Template.Reading
import DifferenceTypes.Proofs.Template.ScopeNames

/-!
# Names of generated classes

The classes that are generated for the blocks of a template have names of their own: no two of them
share one, and none has a name that the template's statements bind as far as they are looked at. Two
kinds of clashes are left, and `generatedNames_apart` says that there are no others. A name may be bound
by the module in a way that is not looked at, such as by a loop or inside a tuple. And a marker may ask
for a difference class with a name that the injected imports bind.
-/

namespace DifferenceTypes

namespace Block

/-! ### One block -/

/-- The two classes of a block have different names, as one is longer. -/
theorem generatedNames_nodup (block : Block) : block.generatedNames.Nodup := by
  have longer : block.differenceName ≠ block.implementationName := by
    intro same
    have lengths := congrArg List.length same
    simp only [implementationName, List.length_append] at lengths
    have lead : (Text.ofString "_").length = 1 := rfl
    omega
  unfold generatedNames
  split
  · simp
  · simp [longer]

theorem checkNames_eq_ok {taken : List Text} {block : Block} {span : Span}
    (checked : block.checkNames taken span = .ok ()) :
    ∀ name ∈ block.generatedNames, name ∉ taken := by
  intro name among
  have passed := Except.eq_ok_of_mem_forM checked among
  split at passed
  · exact nomatch passed
  · next isFree => simpa using isFree

/-! ### All blocks -/

/-- Blocks that are accepted share no names, with each other or with what was taken before them. -/
theorem generatedNames_of_ofClasses {text : Text} {display : List Text}
    {definitions : List ClassDefinition} {taken : List Text} {blocks : List Block}
    (accepted : ofClasses text display taken definitions = .ok blocks) :
    (blocks.flatMap generatedNames).Nodup ∧
      ∀ name ∈ blocks.flatMap generatedNames, name ∉ taken := by
  induction definitions generalizing taken blocks with
  | nil =>
    cases accepted
    simp
  | cons definition rest inductionHypothesis =>
    unfold ofClasses at accepted
    cases made : ofClass text display definition with
    | error error =>
      rw [made] at accepted
      cases accepted
    | ok block =>
      rw [made] at accepted
      cases checked : block.checkNames taken definition.span with
      | error error =>
        simp only [checked, bind, Except.bind] at accepted
        cases accepted
      | ok done =>
        simp only [checked, bind, Except.bind] at accepted
        cases behind : ofClasses text display (taken ++ block.generatedNames) rest with
        | error error =>
          simp only [behind] at accepted
          cases accepted
        | ok others =>
          simp only [behind] at accepted
          cases accepted
          obtain ⟨distinct, free⟩ := inductionHypothesis behind
          have own := checkNames_eq_ok checked
          have apart : ∀ name ∈ block.generatedNames,
              name ∉ others.flatMap generatedNames := fun name among later =>
            free name later (List.mem_append_right _ among)
          rw [List.flatMap_cons]
          refine ⟨List.nodup_append.2 ⟨generatedNames_nodup block, distinct, ?_⟩, ?_⟩
          · rintro name among other later rfl
            exact apart name among later
          · intro name among
            rcases List.mem_append.1 among with among | later
            · exact own name among
            · exact fun known => free name later (List.mem_append_left _ known)

/-! ### Names of injected imports -/

/-- A generated name that does not end in `Diff` or `Impl` was asked for. -/
theorem override_of_mem_generatedNames {block : Block} {name : Text}
    (among : name ∈ block.generatedNames) (noDifference : ¬ Text.ofString "Diff" <:+ name)
    (noImplementation : ¬ Text.ofString "Impl" <:+ name) : block.options.override = some name := by
  have isDifference : name = block.differenceName := by
    have notImplementation : name ≠ block.implementationName := by
      rintro rfl
      exact noImplementation (List.suffix_append _ _)
    unfold generatedNames at among
    split at among
    · exact absurd (List.mem_singleton.1 among) notImplementation
    · simpa [notImplementation] using among
  unfold differenceName at isDifference
  have notOwn : name ≠ block.name ++ "Diff" := by
    rintro rfl
    exact noDifference (List.suffix_append _ _)
  split at isDifference
  · rename_i asked override
    split at isDifference
    · exact absurd isDifference notOwn
    · rw [override, isDifference]
  · exact absurd isDifference notOwn

end Block

namespace Template

/-- The names that the import lines bind that are put into a template. -/
def injectedNames (template : Template) : List String :=
  match Module.ofText template.imports.flatten with
  | .ok module => module.boundNames
  | .error _ => []

/-- Four texts can be injected. -/
theorem flatten_imports (template : Template) :
    template.imports.flatten = "" ∨ template.imports.flatten = "import dataclasses\n" ∨
      template.imports.flatten = "import diffgen.runtime as _diff\n" ∨
      template.imports.flatten = "import dataclasses\nimport diffgen.runtime as _diff\n" := by
  unfold imports
  split
  · exact .inl rfl
  · dsimp only
    split <;> split
    · exact .inr (.inr (.inr (by decide +kernel)))
    · exact .inr (.inl (by decide))
    · exact .inr (.inr (.inl (by decide)))
    · exact .inl rfl

/-- The import lines bind no names but the two that generated code uses. -/
theorem mem_injectedNames {template : Template} {name : String}
    (injected : name ∈ template.injectedNames) : name = "dataclasses" ∨ name = "_diff" := by
  have nothing : (Module.ofText "").toOption.map Module.boundNames = some [] := by decide
  have records : (Module.ofText "import dataclasses\n").toOption.map Module.boundNames =
      some ["dataclasses"] := by decide +kernel
  have runtime : (Module.ofText "import diffgen.runtime as _diff\n").toOption.map
      Module.boundNames = some ["_diff"] := by decide +kernel
  have both : (Module.ofText "import dataclasses\nimport diffgen.runtime as _diff\n").toOption.map
      Module.boundNames = some ["dataclasses", "_diff"] := by decide +kernel
  have bound : template.injectedNames =
      ((Module.ofText template.imports.flatten).toOption.map Module.boundNames).getD [] := by
    unfold injectedNames
    cases Module.ofText template.imports.flatten <;> rfl
  rw [bound] at injected
  rcases flatten_imports template with text | text | text | text
  · simp [text, nothing] at injected
  · simp only [text, records, Option.getD_some, List.mem_singleton] at injected
    exact .inl injected
  · simp only [text, runtime, Option.getD_some, List.mem_singleton] at injected
    exact .inr injected
  · simpa [text, both] using injected

/-- A generated name that an injected import binds was asked for by the block's markers. -/
theorem override_of_mem_injectedNames {template : Template} {block : Block} {name : String}
    (generated : Text.ofString name ∈ block.generatedNames)
    (injected : name ∈ template.injectedNames) :
    block.options.override = some (Text.ofString name) := by
  rcases mem_injectedNames injected with rfl | rfl
  · exact Block.override_of_mem_generatedNames generated (by decide) (by decide)
  · exact Block.override_of_mem_generatedNames generated (by decide) (by decide)

/-- In a template that is accepted all generated names differ, within a block and from block to block.
A name that the module binds as well is one of those that it binds without being looked at, and a name
that an injected import binds as well is one that the block's markers ask for. -/
theorem generatedNames_apart (exports : Nat → Option String → List String) (text : Text)
    (template : Template) (accepted : read text = .ok template) :
    (template.blocks.flatMap Block.generatedNames).Nodup ∧
      ∀ block ∈ template.blocks, ∀ name, Text.ofString name ∈ block.generatedNames →
        (name ∈ template.module.scopeNames exports → name ∈ template.module.hiddenNames exports) ∧
        (name ∈ template.injectedNames →
          block.options.override = some (Text.ofString name)) := by
  obtain ⟨classes, -, made⟩ := read_eq_ok accepted
  obtain ⟨distinct, free⟩ := Block.generatedNames_of_ofClasses made
  refine ⟨distinct, fun block among name generated => ⟨fun bound => ?_, fun injected => ?_⟩⟩
  · have unseen : name ∉ template.module.boundNames := fun seen =>
      free _ (List.mem_flatMap.2 ⟨block, among, generated⟩) (List.mem_map_of_mem seen)
    simp [Module.hiddenNames, bound, unseen]
  · exact override_of_mem_injectedNames generated injected

/-- Two marked classes, the second with a name asked for that the import does not bind. -/
def twoClasses : Text :=
  "import PDiff.q as r\n@diff\nclass P:\n    x: int\n@diff(name(_d))\nclass Q:\n    y: P\n"

/-- The four names of two blocks. -/
theorem generatedNames_apart_twoClasses :
    ∃ template, read twoClasses = .ok template ∧
      template.blocks.flatMap Block.generatedNames =
        Code.fixed ["PDiff", "_PDiffImpl", "_d", "__dImpl"] ∧
      (template.blocks.flatMap Block.generatedNames).Nodup ∧
      ∀ block ∈ template.blocks, ∀ name, Text.ofString name ∈ block.generatedNames →
        (name ∈ template.module.scopeNames (fun _ _ => []) →
          name ∈ template.module.hiddenNames fun _ _ => []) ∧
        (name ∈ template.injectedNames →
          block.options.override = some (Text.ofString name)) := by
  obtain ⟨template, accepted, names⟩ := exists_of_read
    (show (read twoClasses).toOption.map (·.blocks.flatMap Block.generatedNames) =
      some (Code.fixed ["PDiff", "_PDiffImpl", "_d", "__dImpl"]) by decide +kernel)
  exact ⟨template, accepted, names, generatedNames_apart _ twoClasses template accepted⟩

/-- A marked class and a loop over the name of its difference class. -/
def loopedName : Text :=
  "for PDiff in []:\n    pass\n@diff\nclass P:\n    x: int\n"

/-- The loop's name is not looked at: the template is accepted, and the difference class has the name
of the loop's target. -/
theorem generated_name_bound_by_loop :
    ∃ template, read loopedName = .ok template ∧
      ∃ block ∈ template.blocks, Text.ofString "PDiff" ∈ block.generatedNames ∧
        "PDiff" ∈ template.module.scopeNames fun _ _ => [] := by
  obtain ⟨template, accepted, clash⟩ := exists_of_read
    (show (read loopedName).toOption.map (fun template =>
        decide (∃ block ∈ template.blocks, Text.ofString "PDiff" ∈ block.generatedNames ∧
          "PDiff" ∈ template.module.scopeNames fun _ _ => [])) = some true by decide +kernel)
  exact ⟨template, accepted, of_decide_eq_true clash⟩

end Template

end DifferenceTypes
