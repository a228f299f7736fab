import DifferenceTypes.CommandLine.Arguments
import DifferenceTypes.Files.Access
import DifferenceTypes.Generation.Output

/-!
# A run of the generator

A run reads the template and makes the generated file from it. If only a check is asked for, it
compares that file with the one that is there and touches nothing. Otherwise it leaves a file alone
whose digest is current, or whose text is the same, and writes in all other cases.

The file that is there is read with unified line ends, while the generated text is written as it is.
So a template with other line ends than line feeds gives a file that a check never finds up to date.

Faults of the template are reported. What cannot be read or written stops the run without a report.
-/

namespace DifferenceTypes

/-- What a run says and its exit code. -/
structure Report where
  code : Nat
  output : Text
  errors : Text
  deriving DecidableEq, Repr

/-- What stops a run. -/
inductive RunError where
  | file (error : FileError)
  | template (error : TemplateError)
  /-- A file is not valid UTF-8. -/
  | undecodable
  /-- The generated text holds a lone surrogate. -/
  | unencodable
  deriving DecidableEq, Repr

namespace CommandLine

/-- A run that succeeds with a line of output. -/
def success (line : Text) : Report :=
  ⟨0, line ++ "\n", []⟩

/-- A run that fails with a line on the error channel. -/
def failure (line : Text) : Report :=
  ⟨1, [], line ++ "\n"⟩

/-- The report of a template that cannot be read, if the reason is one to be reported. -/
def reportOf? (path : FilePath) : TemplateError → Option Report
  | .fault fault line column =>
    some (failure (path.toText ++ ":" ++ (toString line : String) ++ ":" ++
      (toString column : String) ++
      ": error: " ++ fault.message))
  | .invalidSyntax => some (failure (path.toText ++ ": error: invalid Python syntax"))
  | _ => none

/-- The generated text for a template file with these bytes, seen from a directory. -/
def generated (directory : Location) (path : FilePath) (bytes : List UInt8) :
    Except RunError Text :=
  match Utf8.decode? bytes with
  | none => .error .undecodable
  | some text =>
    match Template.read text with
    | .error error => .error (.template error)
    | .ok template =>
      .ok (Output.render (Location.label directory (path.locate directory)) bytes template)

/-- Whether two texts carry the same digest. -/
def sameDigest (existing rendered : Text) : Bool :=
  match Output.digest? existing, Output.digest? rendered with
  | some first, some second => first == second
  | _, _ => false

variable {m : Type → Type} [Monad m]

/-- The text of a file with unified line ends. -/
def readText (files : FileAccess m) (path : FilePath) : ExceptT RunError m Text := do
  match ← files.read path with
  | .error error => throw (.file error)
  | .ok bytes =>
    match Utf8.decode? bytes with
    | some text => return text.unifyLineEnds
    | none => throw .undecodable

/-- Whether a path leads to something. -/
def isPresent (files : FileAccess m) (path : FilePath) : ExceptT RunError m Bool := do
  match ← files.isPresent path with
  | .ok found => return found
  | .error error => throw (.file error)

/-- Writes a text. The file is emptied before the text is encoded, so it is empty if the text has no
encoding. -/
def writeText (files : FileAccess m) (path : FilePath) (text : Text) : ExceptT RunError m Unit := do
  let encoded := Utf8.encode? text
  match ← files.write path (encoded.getD []) with
  | .error error => throw (.file error)
  | .ok () => if encoded.isNone then throw .unencodable

/-- Compares the generated text with the file that is there. -/
def check (files : FileAccess m) (path : FilePath) (rendered : Text) :
    ExceptT RunError m Report := do
  if !(← isPresent files path) then return failure (path.toText ++ " is missing (run generator)")
  else if (← readText files path) != rendered then
    return failure (path.toText ++ " is out of date (run generator)")
  else return success ("up-to-date: " ++ path.toText)

/-- Writes the generated text and the directories that it needs. -/
def writeOutput (files : FileAccess m) (path : FilePath) (rendered : Text) :
    ExceptT RunError m Report := do
  match ← files.ensureDirectory path.parent with
  | .error error => throw (.file error)
  | .ok () =>
    writeText files path rendered
    return success ("generated: " ++ path.toText)

/-- Writes the generated text unless the file that is there is current. -/
def update (files : FileAccess m) (path : FilePath) (rendered : Text) :
    ExceptT RunError m Report := do
  if ← isPresent files path then
    let existing ← readText files path
    if sameDigest existing rendered || existing == rendered then
      return success ("unchanged: " ++ path.toText)
    else writeOutput files path rendered
  else writeOutput files path rendered

/-- A run for a request. -/
def generate (files : FileAccess m) (request : Request) : ExceptT RunError m Report := do
  let input := FilePath.ofText request.input
  let output := FilePath.ofText request.output
  if !(← isPresent files input) then
    return failure ("error: input file does not exist: " ++ input.toText)
  else
    match ← files.read input with
    | .error error => throw (.file error)
    | .ok bytes =>
      match generated (← files.workingDirectory) input bytes with
      | .ok rendered =>
        if request.check then check files output rendered else update files output rendered
      | .error error =>
        match error with
        | .template fault =>
          match reportOf? input fault with
          | some report => return report
          | none => throw error
        | _ => throw error

/-- A run of the program with this name and these arguments. -/
def run (files : FileAccess m) (program : Text) (arguments : List Text) :
    ExceptT RunError m Report := do
  match parse arguments with
  | .error error => return ⟨2, [], usage program ++ program ++ ": error: " ++ error.message ++ "\n"⟩
  | .ok .help => return ⟨0, helpText program, []⟩
  | .ok (.generate request) => generate files request

end CommandLine

end DifferenceTypes
