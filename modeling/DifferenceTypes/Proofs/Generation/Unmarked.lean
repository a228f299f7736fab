import DifferenceTypes.Generation.Output
import DifferenceTypes.Proofs.Template.MarkedDefinitions

/-!
# Templates without marked classes

Where there is no block nothing is inserted and no line belongs to a marker, so every line comes out
as it is. Lines joined are the text, whatever ends them. A module without marked definitions has no
block, so any text that says one is accepted and comes out behind the header as it is
(`render_of_unmarked`).
-/

namespace DifferenceTypes.Template

variable {template : Template}

/-- Without blocks no imports are needed. -/
theorem imports_of_no_blocks (unmarked : template.blocks = []) : template.imports = [] := by
  simp [imports, unmarked]

/-- Without blocks a line comes out as it is. -/
theorem spliceLine_of_no_blocks (unmarked : template.blocks = []) (line : Text) (number : Nat) :
    template.spliceLine line number = line := by
  have nothing : template.insertions number = [] := by
    simp [insertions, imports_of_no_blocks unmarked, blockAt?, unmarked]
  simp [spliceLine, isMarkerLine, unmarked, nothing]

/-- Without blocks the generated module is the template. -/
theorem splice_of_no_blocks (unmarked : template.blocks = []) : template.splice = template.text := by
  have nothing : template.opening = [] := by
    simp [opening, imports_of_no_blocks unmarked]
  rw [splice, nothing, List.nil_append]
  simp only [spliceLine_of_no_blocks unmarked]
  rw [List.flatMap_def, List.zipIdx_map_fst]
  exact Text.flatten_linesEndingAt _ _

/-- A text that says a module without marked definitions is read as a template without blocks. -/
theorem read_of_unmarked {text : Text} {module : Module} (parsed : Module.ofText text = .ok module)
    (unmarked : module.IsUnmarked) : read text = .ok ⟨text, module, []⟩ := by
  unfold read
  rw [parsed]
  simp only [bind, Except.bind, Module.markedClasses_of_unmarked unmarked, Block.ofClasses, pure, Except.pure]

/-- If no definition in the module that a text says is marked, however deep it stands, then the text is
accepted, and the file that is generated for it is the header and behind it the text, code point for code
point, whatever ends its lines and whether or not the last one is ended. -/
theorem render_of_unmarked {text : Text} {module : Module} (parsed : Module.ofText text = .ok module)
    (unmarked : module.IsUnmarked) (directory : Location) (path : FilePath) (bytes : List UInt8) :
    ∃ template, read text = .ok template ∧ template.module = module ∧ template.blocks = [] ∧
      Output.render (Location.label directory (path.locate directory)) bytes template =
        Output.header (Location.label directory (path.locate directory)) bytes ++ text := by
  have accepted := read_of_unmarked parsed unmarked
  refine ⟨⟨text, module, []⟩, accepted, rfl, rfl, ?_⟩
  rw [Output.render, splice_of_no_blocks rfl]

/-- A template with the marker in texts and comments, behind statements that have to be first, whose lines
end in several ways, some for display only, and the last one not at all. -/
def unmarkedTemplate : Text :=
  "'''@diff\x0c\u2028'''\r\nfrom __future__ import annotations\r@kept\nclass A:  # @diff\x1c\n    '@diff'\r\n    y = 1  # \u0085@diff"

/-- It comes out as it is. -/
theorem render_of_unmarkedTemplate :
    unmarkedTemplate.displayLines ≠ unmarkedTemplate.sourceLines ∧
    ∃ module template, Module.ofText unmarkedTemplate = .ok module ∧ module.IsUnmarked ∧
      read unmarkedTemplate = .ok template ∧
      Output.render "t" [10] template = Output.header "t" [10] ++ unmarkedTemplate := by
  obtain ⟨template, accepted, isUnmarked⟩ := exists_of_read
    (show (read unmarkedTemplate).toOption.map (fun template => decide template.module.IsUnmarked) = some true by
      decide +kernel)
  have parsed := (ofText_of_read accepted).2
  have unmarked := of_decide_eq_true isUnmarked
  have isLabel : Location.label [] (FilePath.locate [] (.ofText "t")) = "t" := by decide
  obtain ⟨again, acceptedAgain, -, -, rendered⟩ := render_of_unmarked parsed unmarked [] (.ofText "t") [10]
  cases acceptedAgain.symm.trans accepted
  rw [isLabel] at rendered
  exact ⟨by decide +kernel, template.module, template, parsed, unmarked, accepted, rendered⟩

end DifferenceTypes.Template
