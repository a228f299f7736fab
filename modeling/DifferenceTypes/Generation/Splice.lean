import DifferenceTypes.Generation.Code
import DifferenceTypes.Template.Basic

/-!
# Splicing generated code into a template

The generated module is the template with three changes: the lines of the markers are left out,
behind the last line of every marked class comes the code generated for it, and the imports that
this code needs come behind the statements that have to be first, or before everything. All else is
kept as it is, line by line.

Lines are display lines here, while blocks and statements count source lines. A line that is both
left out and the last of a class takes the generated code of that class with it.
-/

namespace DifferenceTypes

/-- The path of the module that generated code relies on. -/
def runtimePath : String := "diffgen.runtime"

/-- The name that generated code knows that module by. -/
def runtimeAlias : String := "_diff"

namespace Template

/-- The import lines that the generated code needs and the template does not have. Without blocks
none are needed. -/
def imports (template : Template) : List Text :=
  if template.blocks.isEmpty then []
  else
    let needsDataclasses := template.blocks.any (·.shape == .named)
    (if needsDataclasses && !template.module.importsModule "dataclasses" none then
        Code.fixed ["import dataclasses\n"]
       else []) ++
      (if !template.module.importsModule runtimePath (some runtimeAlias) then
        [("import " ++ runtimePath ++ " as " ++ runtimeAlias ++ "\n" : String)].map Text.ofString
       else [])

/-- Whether a line belongs to a marker. -/
def isMarkerLine (template : Template) (number : Nat) : Bool :=
  template.blocks.any fun block =>
    block.markerLines.any fun (first, last) => first ≤ number && (number : Int) ≤ last

/-- The block whose class ends on a line. -/
def blockAt? (template : Template) (number : Nat) : Option Block :=
  template.blocks.find? (·.stop == (number : Int))

/-- What comes behind a line: imports if it is the one that they follow, and code if a marked class
ends there. -/
def insertions (template : Template) (number : Nat) : List Text :=
  let imports := template.imports.flatten
  (if number == template.module.importLine && !imports.isEmpty then ["\n" ++ imports] else []) ++
    match template.blockAt? number with
    | some block => ["\n\n" ++ Code.render block ++ "\n"]
    | none => []

/-- The line end that a line lacks. -/
def missingLineEnd (line : Text) : Text :=
  if line.getLast? == some (.scalar '\n') then [] else "\n"

/-- A line of the template as it comes out: left out, or followed by what is inserted behind it. -/
def spliceLine (template : Template) (line : Text) (number : Nat) : Text :=
  if template.isMarkerLine number then []
  else
    match template.insertions number with
    | [] => line
    | inserted => line ++ missingLineEnd line ++ inserted.flatten

/-- What comes before the first line: the imports, unless some statements have to be first. -/
def opening (template : Template) : Text :=
  let imports := template.imports.flatten
  if template.module.importLine == 0 && !imports.isEmpty then imports ++ "\n" else []

/-- The text of the generated module. -/
def splice (template : Template) : Text :=
  template.opening ++
    (template.text.displayLines.zipIdx 1).flatMap fun (line, number) =>
      template.spliceLine line number

end Template

end DifferenceTypes
