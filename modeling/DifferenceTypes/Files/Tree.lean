import DifferenceTypes.Files.Access
import DifferenceTypes.Text.Utf8

/-!
# Directory trees

A directory tree as a value: what is at which location, and the working directory. There are files
and directories and nothing else, in particular no links, so two dots always lead to the directory
above. The root is always there.

A path is followed part by part, and everything it goes through has to be a directory that is there,
also in front of two dots.
-/

namespace DifferenceTypes

/-- What can be at a location. -/
inductive FileEntry where
  | file (bytes : List UInt8)
  | directory
  deriving DecidableEq, Repr

/-- A directory tree with a working directory. -/
structure FileTree where
  workingDirectory : Location
  entries : List (Location × FileEntry)
  deriving DecidableEq, Repr

namespace FileTree

/-- What is at a location. -/
def find? (tree : FileTree) (location : Location) : Option FileEntry :=
  if location.isEmpty then some .directory else tree.entries.lookup location

/-- The tree with an entry at a location, in place of what was there. -/
def put (tree : FileTree) (location : Location) (entry : FileEntry) : FileTree :=
  { tree with entries := (location, entry) :: tree.entries.filter (·.1 != location) }

/-- The tree without what is at a location. -/
def erase (tree : FileTree) (location : Location) : FileTree :=
  { tree with entries := tree.entries.filter (·.1 != location) }

theorem lookup_filter_of_ne {entries : List (Location × FileEntry)} {location other : Location}
    (different : other ≠ location) :
    (entries.filter (·.1 != location)).lookup other = entries.lookup other := by
  induction entries with
  | nil => rfl
  | cons head rest inductionHypothesis =>
    obtain ⟨first, entry⟩ := head
    by_cases same : first = location
    · have absent : (other == location) = false := by simp [different]
      simp [List.lookup_cons, same, absent, inductionHypothesis]
    · simp [List.lookup_cons, same, inductionHypothesis]

/-- What was put is there. The root is a directory whatever is put. -/
theorem find?_put_self (tree : FileTree) {location : Location} (entry : FileEntry)
    (below : location ≠ []) : (tree.put location entry).find? location = some entry := by
  simp [find?, put, below]

/-- Putting something changes no other location. -/
theorem find?_put_of_ne (tree : FileTree) {location other : Location} (entry : FileEntry)
    (different : other ≠ location) :
    (tree.put location entry).find? other = tree.find? other := by
  have absent : (other == location) = false := by simp [different]
  simp [find?, put, List.lookup_cons, absent, lookup_filter_of_ne different]

/-- Erasing changes no other location. -/
theorem find?_erase_of_ne (tree : FileTree) {location other : Location}
    (different : other ≠ location) : (tree.erase location).find? other = tree.find? other := by
  simp [find?, erase, lookup_filter_of_ne different]

/-- The most bytes that a name has. -/
def maximalNameLength : Nat := 255

/-- The number of bytes of a code point in a name. A lone surrogate from U+DC80 to U+DCFF stands for
one byte. -/
def nameWidth : CodePoint → Nat
  | .scalar character => Utf8.width character
  | .surrogate _ => 1

/-- The number of bytes of a name. -/
def nameLength (name : Text) : Nat :=
  name.foldl (fun count point => count + nameWidth point) 0

/-- Whether a code point can stand in a name. -/
def isNamePoint : CodePoint → Bool
  | .scalar _ => true
  | .surrogate offset => 0x480 ≤ offset.val && offset.val < 0x500

/-- Whether the parts of a path can be names at all. -/
def checkPath (path : FilePath) : Except FileError Unit :=
  if !path.parts.all (·.all isNamePoint) then .error .unencodable
  else if path.parts.any (·.elem (.scalar '\x00')) then .error .nullCharacter
  else .ok ()

/-- One step of following a path. -/
def enter (tree : FileTree) (location : Location) (part : Text) : Except FileError Location :=
  match tree.find? location with
  | none => .error .missing
  | some (.file _) => .error .notDirectory
  | some .directory =>
    if nameLength part > maximalNameLength then .error .nameTooLong
    else .ok (FilePath.step location part)

/-- The location that a path leads to. There need not be anything. -/
def follow (tree : FileTree) (path : FilePath) : Except FileError Location := do
  checkPath path
  path.parts.foldlM tree.enter (FilePath.locate tree.workingDirectory ⟨path.anchor, []⟩)

/-- Whether a path leads to something. -/
def isPresent (tree : FileTree) (path : FilePath) : Except FileError Bool :=
  match tree.follow path with
  | .ok location => .ok (tree.find? location).isSome
  | .error .nameTooLong => .error .nameTooLong
  | .error _ => .ok false

/-- Whether a path leads to a directory. -/
def isDirectory (tree : FileTree) (path : FilePath) : Bool :=
  match tree.follow path with
  | .ok location => tree.find? location == some .directory
  | .error _ => false

/-- The bytes of the file that a path leads to. -/
def read (tree : FileTree) (path : FilePath) : Except FileError (List UInt8) := do
  match tree.find? (← tree.follow path) with
  | some (.file bytes) => return bytes
  | some .directory => throw .isDirectory
  | none => throw .missing

/-- The tree after a file is written. -/
def write (tree : FileTree) (path : FilePath) (bytes : List UInt8) : Except FileError FileTree := do
  let location ← tree.follow path
  match tree.find? location with
  | some .directory => throw .isDirectory
  | _ => return tree.put location (.file bytes)

/-- The tree after a directory is made. -/
def makeDirectory (tree : FileTree) (path : FilePath) : Except FileError FileTree := do
  let location ← tree.follow path
  match tree.find? location with
  | some _ => throw .taken
  | none => return tree.put location .directory

/-- The tree after a file is removed. -/
def remove (tree : FileTree) (path : FilePath) : Except FileError FileTree := do
  let location ← tree.follow path
  match tree.find? location with
  | some (.file _) => return tree.erase location
  | some .directory => throw .isDirectory
  | none => throw .missing

/-- The tree with another working directory. -/
def changeDirectory (tree : FileTree) (path : FilePath) : Except FileError FileTree := do
  let location ← tree.follow path
  match tree.find? location with
  | some .directory => return { tree with workingDirectory := location }
  | some (.file _) => throw .notDirectory
  | none => throw .missing

/-- An operation that changes the tree or leaves it as it was. -/
def update (operation : FileTree → Except FileError FileTree) :
    StateM FileTree (Except FileError Unit) := do
  match operation (← get) with
  | .ok tree =>
    set tree
    return .ok ()
  | .error error => return .error error

/-- The operations of a run on a directory tree. -/
def access : FileAccess (StateM FileTree) where
  workingDirectory := do return (← get).workingDirectory
  isPresent path := do return (← get).isPresent path
  isDirectory path := do return (← get).isDirectory path
  read path := do return (← get).read path
  write path bytes := update fun tree => tree.write path bytes
  makeDirectory path := update fun tree => tree.makeDirectory path

end FileTree

end DifferenceTypes
