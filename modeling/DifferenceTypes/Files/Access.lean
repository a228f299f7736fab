import DifferenceTypes.Files.Path

/-!
# Access to files

What a run of the generator needs from the files around it, as a record of operations. The
operations can be those of a real directory tree or those of `DifferenceTypes.FileTree`, and a run
is the same program over both. An operation that fails says why and goes on, so that what was done
before it stays done.

`ensureDirectory` is the one operation that is put together from others: it makes a directory and
all those above it that are missing, and leaves one that is there alone.
-/

namespace DifferenceTypes

/-- Why a file operation fails. -/
inductive FileError where
  /-- Something on the path is not there. -/
  | missing
  /-- A directory is where a file is needed. -/
  | isDirectory
  /-- A file is where a directory is needed. -/
  | notDirectory
  /-- Something is there already. -/
  | taken
  /-- The path holds the character with number zero. -/
  | nullCharacter
  /-- The path holds a lone surrogate that stands for no byte. -/
  | unencodable
  /-- A part of the path is too long for a name. -/
  | nameTooLong
  deriving DecidableEq, Repr

/-- The operations on files that a run needs. -/
structure FileAccess (m : Type → Type) where
  /-- The directory that relative paths start from. -/
  workingDirectory : m Location
  /-- Whether a path leads to something; a path that cannot be followed does not, unless a name is
  too long. -/
  isPresent : FilePath → m (Except FileError Bool)
  /-- Whether a path leads to a directory. -/
  isDirectory : FilePath → m Bool
  /-- The bytes of a file. -/
  read : FilePath → m (Except FileError (List UInt8))
  /-- Makes a file with these bytes, or replaces those of a file. -/
  write : FilePath → List UInt8 → m (Except FileError Unit)
  /-- Makes a directory in one that is there. -/
  makeDirectory : FilePath → m (Except FileError Unit)

namespace FileAccess

variable {m : Type → Type} [Monad m]

/-- A failure to make a directory does not matter if there is one. -/
def unlessDirectory (files : FileAccess m) (path : FilePath) (error : FileError) :
    m (Except FileError Unit) := do
  if ← files.isDirectory path then return .ok () else return .error error

/-- Makes the directory with these parts, the last one first, and those above it that are
missing. -/
def ensureParts (files : FileAccess m) (anchor : Anchor) : List Text → m (Except FileError Unit)
  | [] => do
    match ← files.makeDirectory ⟨anchor, []⟩ with
    | .ok () => return .ok ()
    | .error .missing => return .error .missing
    | .error error => files.unlessDirectory ⟨anchor, []⟩ error
  | last :: above => do
    let path : FilePath := ⟨anchor, (last :: above).reverse⟩
    match ← files.makeDirectory path with
    | .ok () => return .ok ()
    | .error .missing =>
      match ← files.ensureParts anchor above with
      | .error error => return .error error
      | .ok () =>
        match ← files.makeDirectory path with
        | .ok () => return .ok ()
        | .error .missing => return .error .missing
        | .error error => files.unlessDirectory path error
    | .error error => files.unlessDirectory path error

/-- Makes a directory and those above it that are missing. -/
def ensureDirectory (files : FileAccess m) (path : FilePath) : m (Except FileError Unit) :=
  files.ensureParts path.anchor path.parts.reverse

end FileAccess

end DifferenceTypes
