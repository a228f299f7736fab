import DifferenceTypes.Digest.Sha256
import DifferenceTypes.Files.Path
import DifferenceTypes.Generation.Splice

/-!
# Output files

A generated file opens with comment lines that say where it comes from: a label of the template's
file, the versions of the generator and of the format of its output, and a digest over these
versions and the bytes of the template. The digest tells whether a file is still current without
looking at the rest of it. Behind a blank line comes the generated module.
-/

namespace DifferenceTypes.Output

/-- The version of the generator. -/
def generatorVersion : String := "0.1.0"

/-- The version of the output's format. -/
def formatVersion : String := "1"

/-- The digest of a template's bytes. -/
def digest (bytes : List UInt8) : List Char :=
  let versions := Utf8.encodeCharacters generatorVersion.toList ++ [0] ++
    Utf8.encodeCharacters formatVersion.toList ++ [0]
  Sha256.hexDigest (versions ++ bytes)

/-- What stands before the digest on its line. -/
def digestMark : Text := "# digest: "

/-- The comment lines at the start of a file and the blank line behind them. -/
def header (label : Text) (bytes : List UInt8) : Text :=
  "# diffgen-generated\n" ++
    "# source: " ++ label ++ "\n" ++
    "# generator_version: " ++ generatorVersion ++ "\n" ++
    "# format_version: " ++ formatVersion ++ "\n" ++
    digestMark ++ Text.ofCharacters (digest bytes) ++ "\n\n"

/-- The generated file for a template with a label and its bytes. -/
def render (label : Text) (bytes : List UInt8) (template : Template) : Text :=
  header label bytes ++ template.splice

/-- Whether a code point is a digit of a digest. -/
def isDigestDigit : CodePoint → Bool
  | .scalar character => character.isDigit || ('a' ≤ character && character ≤ 'f')
  | .surrogate _ => false

/-- The digest on a line: sixty-four digits behind the mark and nothing else. -/
def digestOfLine? (line : Text) : Option Text :=
  if digestMark.isPrefixOf line then
    let digits := line.drop digestMark.length
    if digits.length == 64 && digits.all isDigestDigit then some digits else none
  else none

/-- The first digest in a text. Only line feeds end lines here. -/
def digest? (text : Text) : Option Text :=
  (text.piecesBetween (.scalar '\n')).findSome? digestOfLine?

end DifferenceTypes.Output
