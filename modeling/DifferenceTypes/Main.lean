import DifferenceTypes.CommandLine.Run

/-!
# The program

The generator as a program: its arguments are those of the command line, and its files are those
around it. All decisions are those of `CommandLine.run`; here they only meet real files and
channels.
-/

namespace DifferenceTypes

/-- A path as the operating system takes it. -/
def osPath (path : FilePath) : String :=
  String.ofList (path.toText.filterMap fun
    | .scalar character => some character
    | .surrogate _ => none)

/-- The cause of a failed operation. What is no other cause is taken for a missing file. -/
def fileErrorOf : IO.Error → FileError
  | .alreadyExists .. => .taken
  | .inappropriateType .. => .isDirectory
  | .illegalOperation .. => .isDirectory
  | _ => .missing

/-- An operation with its failure as a value. -/
def attempt {α : Type} (operation : IO α) : IO (Except FileError α) := do
  match ← operation.toBaseIO with
  | .ok value => return .ok value
  | .error error => return .error (fileErrorOf error)

/-- Whether a path leads to a file that can be opened, or to a directory. -/
def leadsToAnything (path : FilePath) : IO Bool := do
  match ← (IO.FS.Handle.mk (osPath path) .read).toBaseIO with
  | .ok _ => return true
  | .error _ => return false

/-- Whether a path leads to a directory: only what is below a directory can be reached through a
dot. -/
def leadsToDirectory (path : FilePath) : IO Bool := do
  match ← (IO.FS.Handle.mk (osPath path ++ "/.") .read).toBaseIO with
  | .ok _ => return true
  | .error _ => return false

/-- The operations on the files around the program. -/
def realFiles : FileAccess IO where
  workingDirectory := do
    let directory ← IO.currentDir
    return (FilePath.ofText (Text.ofString directory.toString)).locate []
  isPresent path := return .ok (← leadsToAnything path)
  isDirectory := leadsToDirectory
  read path := attempt do
    if ← leadsToDirectory path then throw (.inappropriateType none 21 "is a directory")
    return (← IO.FS.readBinFile (osPath path)).toList
  write path bytes := attempt (IO.FS.writeBinFile (osPath path) ⟨bytes.toArray⟩)
  makeDirectory path := attempt (IO.FS.createDir (osPath path))

/-- The name of the program in its messages. -/
def programName : Text := "diffgen"

/-- A text on a channel. -/
def put (channel : IO.FS.Stream) (text : Text) : IO Unit :=
  channel.putStr (String.ofList (text.filterMap fun
    | .scalar character => some character
    | .surrogate _ => none))

/-- Runs the program. -/
def runProgram (arguments : List String) : IO UInt32 := do
  match ← (CommandLine.run realFiles programName (arguments.map Text.ofString)).run with
  | .ok report =>
    put (← IO.getStdout) report.output
    put (← IO.getStderr) report.errors
    return report.code.toUInt32
  | .error _ =>
    put (← IO.getStderr) "the files cannot be read or written\n"
    return 1

end DifferenceTypes

/-- Runs the program with the arguments of the command line. -/
def main (arguments : List String) : IO UInt32 :=
  DifferenceTypes.runProgram arguments
