import DifferenceTypes.Syntax.Lexer

/-!
# From lines to groups of tokens

The lines of a module fall into groups, one for each statement or line of statements at the top, and
one for each decorator there. A group starts at every line that has no indentation, except that
`elif`, `else`, `except` and `finally` go on with the group before them.

Within a group layout becomes tokens: the end of a line, and the start and end of an indented block.
The two measures of indentation have to agree on which line is deeper, and a line belongs to the
block whose indentation it has exactly.
-/

namespace DifferenceTypes.Layout

/-- The most levels of indentation, the outermost included. -/
def maximalIndentation : Nat := 100

/-- Closes blocks until one has the indentation; fails if none has it exactly. -/
def closeBlocks (indentation : Indentation) : List Indentation → Option (Nat × List Indentation)
  | [] => if indentation == ⟨0, 0⟩ then some (0, []) else none
  | block :: outer =>
    if indentation.columns < block.columns then
      (closeBlocks indentation outer).map fun (closed, blocks) => (closed + 1, blocks)
    else if indentation == block then some (0, block :: outer)
    else none

/-- Compares the indentation of a line with the open blocks (innermost first, without the
outermost): the layout tokens before the line and the blocks open from here on. -/
def openBlocks (indentation : Indentation) (blocks : List Indentation) :
    Option (List TokenKind × List Indentation) :=
  let current := blocks.head?.getD ⟨0, 0⟩
  if indentation.columns > current.columns then
    if blocks.length + 2 > maximalIndentation || indentation.characters ≤ current.characters then
      none
    else some ([.indent], indentation :: blocks)
  else
    (closeBlocks indentation blocks).map fun (closed, remaining) =>
      (List.replicate closed .dedent, remaining)

/-- A token of layout, which stands for no text. -/
def layoutToken (kind : TokenKind) : Token :=
  ⟨kind, default⟩

/-- The tokens of lines with their layout, given the blocks that are open. -/
def tokens? : List Indentation → List Line → Option (List Token)
  | blocks, [] => some (List.replicate blocks.length (layoutToken .dedent))
  | blocks, line :: rest => do
    let (kinds, opened) ← openBlocks line.indentation blocks
    let others ← tokens? opened rest
    return kinds.map layoutToken ++ line.tokens ++ layoutToken .newline :: others

/-- Lines one below the other, the first below the given number of source lines. -/
def place : Nat → List Line → List Line
  | _, [] => []
  | above, line :: rest => line.moveDown above :: place (above + line.height) rest

/-- Whether a line that starts with the token goes on with the statement before it. -/
def continues : TokenKind → Bool
  | .word .elifWord | .word .elseWord | .word .exceptWord | .word .finallyWord => true
  | _ => false

/-- Whether a line goes on with the group before it. -/
def joins (line : Line) : Bool :=
  line.indentation.columns > 0 || line.tokens.head?.any fun token => continues token.kind

/-- Lines in groups. -/
def groups : List Line → List (List Line)
  | [] => []
  | line :: rest =>
    match groups rest with
    | (next :: others) :: later =>
      if joins next then (line :: next :: others) :: later
      else [line] :: (next :: others) :: later
    | later => [line] :: later

end DifferenceTypes.Layout
