import DifferenceTypes.Text.CodePoint

/-!
# Paths

A path is written with slashes between its parts. Parts that are empty or a single dot are left out
when it is read, so `./a` and `a//` are the same path as `a`; the path without parts is a single
dot. Two dots stay, as what they mean depends on what is there. Exactly two slashes at the start are
kept apart from one.

A location is a place in the directory tree: the names from the root down. `FilePath.locate` says
where a path leads from a directory if every name on the way is a directory, two dots leading one
up.
-/

namespace DifferenceTypes

/-- The names from the root of the directory tree down to a place in it. -/
abbrev Location := List Text

/-- Where a path starts. -/
inductive Anchor where
  | relative
  | root
  | doubleRoot
  deriving DecidableEq, Repr, Inhabited

/-- A path: where it starts, and its parts. -/
structure FilePath where
  anchor : Anchor
  parts : List Text
  deriving DecidableEq, Repr, Inhabited

namespace Text

/-- The pieces of a text between the occurrences of a code point; there is always one more than
there are occurrences. -/
def piecesBetween (separator : CodePoint) : Text → List Text
  | [] => [[]]
  | point :: rest =>
    match piecesBetween separator rest with
    | [] => [[]]
    | piece :: others =>
      if point == separator then [] :: piece :: others else (point :: piece) :: others

end Text

namespace FilePath

/-- The part that leads one directory up. -/
def up : Text := ".."

/-- The path that a text spells. -/
def ofText (text : Text) : FilePath :=
  let slashes := (text.takeWhile (· == .scalar '/')).length
  let anchor :=
    if slashes == 0 then Anchor.relative else if slashes == 2 then .doubleRoot else .root
  ⟨anchor, (text.piecesBetween (.scalar '/')).filter fun part => !part.isEmpty && part != "."⟩

/-- What a path starts with. -/
def anchorText : Anchor → Text
  | .relative => ""
  | .root => "/"
  | .doubleRoot => "//"

/-- A path in writing. -/
def toText (path : FilePath) : Text :=
  match path.anchor, path.parts with
  | .relative, [] => "."
  | anchor, parts => anchorText anchor ++ Text.join "/" parts

/-- The path of the directory that a path leads into; a path without parts leads nowhere else. -/
def parent (path : FilePath) : FilePath :=
  ⟨path.anchor, path.parts.dropLast⟩

/-- One step from a location. -/
def step (location : Location) (part : Text) : Location :=
  if part == up then location.dropLast else location ++ [part]

/-- Where a path leads from a directory. -/
def locate (directory : Location) (path : FilePath) : Location :=
  path.parts.foldl step (if path.anchor == .relative then directory else [])

end FilePath

namespace Location

/-- A location in writing, from the root on. -/
def toText (location : Location) : Text :=
  "/" ++ Text.join "/" location

/-- What has to follow the first location to give the second, if the second is in or at the
first. -/
def below? : Location → Location → Option (List Text)
  | [], location => some location
  | _ :: _, [] => none
  | name :: directory, first :: rest => if name == first then below? directory rest else none

/-- A location as seen from a directory: relative if it is in or at that directory. -/
def label (directory location : Location) : Text :=
  match below? directory location with
  | some parts => FilePath.toText ⟨.relative, parts⟩
  | none => toText location

end Location

end DifferenceTypes
