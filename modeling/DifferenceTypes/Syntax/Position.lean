/-!
# Positions in source text

A position is a line, counted from one in source lines, and a column, counted from zero in bytes of
UTF-8. A span is the position where a piece of syntax starts and the one just behind its last token.
-/

namespace DifferenceTypes

/-- A line from one on and a byte column from zero on. -/
structure Position where
  line : Nat
  column : Nat
  deriving DecidableEq, Repr, Inhabited

/-- From the start of a piece of syntax to just behind it. -/
structure Span where
  start : Position
  stop : Position
  deriving DecidableEq, Repr, Inhabited

/-- The position some lines further down. -/
def Position.moveDown (lines : Nat) (position : Position) : Position :=
  ⟨position.line + lines, position.column⟩

/-- The span some lines further down. -/
def Span.moveDown (lines : Nat) (span : Span) : Span :=
  ⟨span.start.moveDown lines, span.stop.moveDown lines⟩

end DifferenceTypes
