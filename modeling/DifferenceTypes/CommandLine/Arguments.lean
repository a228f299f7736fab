import DifferenceTypes.Text.Quoted

/-!
# Arguments of the command line

The command line names an input file and an output file and may ask for a check only. An option can
be shortened as long as it is clear which one is meant, and its argument follows it or is written
behind an equals sign.

Arguments are first told apart one by one: options, values, the double dash behind which everything
is a value. Then they are taken in order. The first argument that cannot be taken decides what is
reported, asking for help ends the matter where it stands, and only at the end is it known which
options are missing and which values are left over.
-/

namespace DifferenceTypes.CommandLine

/-- The options. -/
inductive Flag where
  | help
  | input
  | output
  | check
  deriving DecidableEq, Repr

/-- The spellings of options, in the order in which they are named. -/
def spellings : List (Text × Flag) :=
  [("-h", .help), ("--help", .help), ("--in", .input), ("--out", .output), ("--check", .check)]

/-- An option as messages name it. -/
def Flag.name : Flag → Text
  | .help => "-h/--help"
  | .input => "--in"
  | .output => "--out"
  | .check => "--check"

/-- Why a command line is not understood. -/
inductive UsageError where
  | ambiguous (argument : Text) (candidates : List Text)
  | unwanted (flag : Flag) (argument : Text)
  | missingArgument (flag : Flag)
  | missingOptions (flags : List Flag)
  | leftOver (arguments : List Text)
  deriving DecidableEq, Repr

/-- A usage error in words. -/
def UsageError.message : UsageError → Text
  | .ambiguous argument candidates =>
    "ambiguous option: " ++ argument ++ " could match " ++ Text.join ", " candidates
  | .unwanted flag argument =>
    "argument " ++ flag.name ++ ": ignored explicit argument " ++
      Text.ofCharacters (Quoted.ofText argument)
  | .missingArgument flag => "argument " ++ flag.name ++ ": expected one argument"
  | .missingOptions flags =>
    "the following arguments are required: " ++ Text.join ", " (flags.map Flag.name)
  | .leftOver arguments => "unrecognized arguments: " ++ Text.join " " arguments

/-- What a command line asks for. -/
structure Request where
  input : Text
  output : Text
  check : Bool
  deriving DecidableEq, Repr

/-- What a command line that is understood asks for. -/
inductive Command where
  | help
  | generate (request : Request)
  deriving DecidableEq, Repr

/-- What an argument is, on its own. -/
inductive Role where
  | value
  | separator
  /-- An option with what is attached to it: behind an equals sign, or directly behind a short
  option. -/
  | option (flag : Flag) (attached : Option (Bool × Text))
  | unknownOption
  deriving DecidableEq, Repr

/-- A text in front of its first equals sign, and behind it if there is one. -/
def splitEquals (argument : Text) : Text × Option Text :=
  let before := argument.takeWhile (· != .scalar '=')
  match argument.drop before.length with
  | [] => (before, none)
  | _ :: behind => (before, some behind)

/-- Whether a code point is a digit. -/
def isDigit : CodePoint → Bool
  | .scalar character => character.isDigit
  | .surrogate _ => false

/-- Whether an argument is a negative number: digits behind a minus, perhaps with a point before the
last of them. A line end may follow. -/
def isNegativeNumber (argument : Text) : Bool :=
  let body := argument.drop 1
  let digits := if body.getLast? == some (.scalar '\n') then body.dropLast else body
  let whole := digits.takeWhile isDigit
  match digits.drop whole.length with
  | [] => !whole.isEmpty
  | .scalar '.' :: fraction => !fraction.isEmpty && fraction.all isDigit
  | _ => false

/-- The options that an argument with two dashes may be short for. -/
def candidates (start : Text) : List (Text × Flag) :=
  spellings.filter fun entry => start.isPrefixOf entry.1

/-- The role of an argument that starts with a dash and is no option in full. -/
def shortenedRole (argument : Text) : Except UsageError Role :=
  let (start, behind) := splitEquals argument
  let other :=
    if isNegativeNumber argument || argument.elem (.scalar ' ') then Role.value else .unknownOption
  if List.isPrefixOf ("--" : Text) argument then
    match candidates start with
    | [] => .ok other
    | [(_, flag)] => .ok (.option flag (behind.map fun text => (true, text)))
    | several => .error (.ambiguous argument (several.map (·.1)))
  else if List.isPrefixOf ("-h" : Text) argument then
    .ok (.option .help (some (false, argument.drop 2)))
  else .ok other

/-- The role of an argument in front of any double dash. -/
def role (argument : Text) : Except UsageError Role :=
  match argument with
  | .scalar '-' :: rest =>
    match spellings.lookup argument with
    | some flag => .ok (.option flag none)
    | none =>
      if rest.isEmpty then .ok .value
      else
        let (start, behind) := splitEquals argument
        match behind, spellings.lookup start with
        | some text, some flag => .ok (.option flag (some (true, text)))
        | _, _ => shortenedRole argument
  | _ => .ok .value

/-- The roles of all arguments. -/
def roles : List Text → Except UsageError (List (Text × Role))
  | [] => .ok []
  | argument :: rest =>
    if argument == "--" then .ok ((argument, .separator) :: rest.map fun value => (value, .value))
    else do
      let first ← role argument
      return (argument, first) :: (← roles rest)

/-- Whether what is attached to a request for help can be more short options. Only the one for help
is known, and what else there is does not matter any more. -/
def checkCluster : Bool → Text → Except UsageError Unit
  | _, [] => .error (.unwanted .help [])
  | equals, first :: rest =>
    if equals || first == .scalar '-' then .error (.unwanted .help (first :: rest))
    else if first == .scalar 'h' then
      match rest with
      | [] => .ok ()
      | .scalar '=' :: behind => .error (.unwanted .help behind)
      | _ => checkCluster false rest
    else .ok ()

/-- What is taken so far. -/
structure Taken where
  input : Option Text
  output : Option Text
  check : Bool
  leftOver : List Text
  deriving Repr

/-- The request that is complete at the end. -/
def finish (taken : Taken) : Except UsageError Command :=
  match taken.input, taken.output with
  | none, none => .error (.missingOptions [.input, .output])
  | none, some _ => .error (.missingOptions [.input])
  | some _, none => .error (.missingOptions [.output])
  | some input, some output =>
    if taken.leftOver.isEmpty then .ok (.generate ⟨input, output, taken.check⟩)
    else .error (.leftOver taken.leftOver)

/-- Keeps the argument of an option. -/
def Taken.keep (taken : Taken) (flag : Flag) (value : Text) : Taken :=
  match flag with
  | .input => { taken with input := some value }
  | .output => { taken with output := some value }
  | _ => taken

/-- Takes arguments in order. -/
def take (taken : Taken) : List (Text × Role) → Except UsageError Command
  | [] => finish taken
  | (_, .option .help attached) :: _ =>
    match attached with
    | none => .ok .help
    | some (equals, text) => (checkCluster equals text).map fun _ => .help
  | (_, .option .check attached) :: rest =>
    match attached with
    | none => take { taken with check := true } rest
    | some (_, text) => .error (.unwanted .check text)
  | (_, .option flag (some (_, text))) :: rest => take (taken.keep flag text) rest
  | (_, .option flag none) :: (value, .value) :: rest => take (taken.keep flag value) rest
  | (_, .option flag none) :: _ => .error (.missingArgument flag)
  | (argument, _) :: rest => take { taken with leftOver := taken.leftOver ++ [argument] } rest

/-- What a command line asks for. -/
def parse (arguments : List Text) : Except UsageError Command := do
  take ⟨none, none, false, []⟩ (← roles arguments)

/-- The line that shows how to call the program. -/
def usage (program : Text) : Text :=
  "usage: " ++ program ++ " [-h] --in INPUT --out OUTPUT [--check]\n"

/-- The answer to a request for help. -/
def helpText (program : Text) : Text :=
  usage program ++ "\nGenerate Diff implementations from .py.diff sources\n\noptions:\n" ++
    "  -h, --help    show this help message and exit\n" ++
    "  --in INPUT    Input .py.diff file\n" ++
    "  --out OUTPUT  Output generated module\n" ++
    "  --check       Check output is up to date\n"

end DifferenceTypes.CommandLine
