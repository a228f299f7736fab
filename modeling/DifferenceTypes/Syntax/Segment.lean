import DifferenceTypes.Syntax.Position
import DifferenceTypes.Text.Lines
import DifferenceTypes.Text.Utf8

/-!
# The source text of a span

A span names a part of the text by source lines and byte columns. `Text.segment` cuts that part out,
line ends and all, so what it gives is what was written there.
-/

namespace DifferenceTypes

/-- The part of a text that a span covers. A line that the text does not have is empty. -/
def Text.segment (text : Text) (span : Span) : Except Text.CutError Text := do
  let lines := text.sourceLines
  let first := (lines[span.start.line - 1]?).getD []
  let last := (lines[span.stop.line - 1]?).getD []
  if span.start.line == span.stop.line then first.between span.start.column span.stop.column
  else
    let opening ← first.fromColumn span.start.column
    let closing ← last.upToColumn span.stop.column
    let middle := (lines.drop span.start.line).take (span.stop.line - span.start.line - 1)
    return opening ++ middle.flatten ++ closing

end DifferenceTypes
