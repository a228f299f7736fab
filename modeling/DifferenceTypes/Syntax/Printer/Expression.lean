import DifferenceTypes.Syntax.Printer.Literal

/-!
# Printing expressions

An expression is printed on one line in one layout, with no more parentheses than its operators
need. Every place where an expression stands asks for a binding strength, and an expression that
binds less strongly than is asked for there is put into parentheses. Places that end in a bracket or
a comma ask for `Strength.ternary`.

Inside an interpolation of an f-string no backslash may be printed. Where that cannot be helped the
whole expression has no printed form.
-/

namespace DifferenceTypes.Printer

/-- How strongly an operator binds its operands. -/
abbrev Strength := Nat

namespace Strength

/-- A name with `:=` behind it. -/
def naming : Strength := 1

/-- Commas without brackets. -/
def tuple : Strength := 2

/-- What a generator function gives. -/
def yield : Strength := 3

/-- A conditional or a lambda. -/
def ternary : Strength := 4

/-- Joined by `or`. -/
def or : Strength := 5

/-- Joined by `and`. -/
def and : Strength := 6

/-- Behind `not`. -/
def not : Strength := 7

/-- A comparison. -/
def comparison : Strength := 8

/-- Joined by a bar, the weakest operator of arithmetic. -/
def bitOr : Strength := 9

/-- Joined by a caret. -/
def bitXor : Strength := 10

/-- Joined by an ampersand. -/
def bitAnd : Strength := 11

/-- A shift. -/
def shift : Strength := 12

/-- A sum. -/
def sum : Strength := 13

/-- A product. -/
def term : Strength := 14

/-- Behind a sign. -/
def factor : Strength := 15

/-- A power. -/
def power : Strength := 16

/-- Behind `await`. -/
def await : Strength := 17

/-- What needs no parentheses anywhere. -/
def atom : Strength := 18

/-- The next stronger binding. -/
def next (strength : Strength) : Strength :=
  min (strength + 1) atom

end Strength

/-- A sign or word before its operand. -/
def unaryText : UnaryOperator → Text
  | .invert => "~"
  | .not => "not "
  | .plus => "+"
  | .minus => "-"

/-- The binding strength of a sign or of `not`. -/
def unaryStrength : UnaryOperator → Strength
  | .not => Strength.not
  | _ => Strength.factor

/-- An operator between its operands. -/
def binaryText : BinaryOperator → Text
  | .add => " + "
  | .subtract => " - "
  | .multiply => " * "
  | .matrixMultiply => " @ "
  | .divide => " / "
  | .floorDivide => " // "
  | .remainder => " % "
  | .power => " ** "
  | .shiftLeft => " << "
  | .shiftRight => " >> "
  | .bitOr => " | "
  | .bitXor => " ^ "
  | .bitAnd => " & "

/-- The binding strength of an operator. -/
def binaryStrength : BinaryOperator → Strength
  | .add | .subtract => Strength.sum
  | .multiply | .matrixMultiply | .divide | .floorDivide | .remainder => Strength.term
  | .power => Strength.power
  | .shiftLeft | .shiftRight => Strength.shift
  | .bitOr => Strength.bitOr
  | .bitXor => Strength.bitXor
  | .bitAnd => Strength.bitAnd

/-- What the operands of an operator have to bind at least: a power groups to the right, all others
to the left. -/
def operandStrengths (operator : BinaryOperator) : Strength × Strength :=
  let own := binaryStrength operator
  match operator with
  | .power => (own.next, own)
  | _ => (own, own.next)

/-- A comparison operator between its operands. -/
def comparisonText : ComparisonOperator → Text
  | .equal => " == "
  | .notEqual => " != "
  | .less => " < "
  | .lessEqual => " <= "
  | .greater => " > "
  | .greaterEqual => " >= "
  | .is => " is "
  | .isNot => " is not "
  | .isIn => " in "
  | .isNotIn => " not in "

/-- The word between operands. -/
def booleanText : BooleanOperator → Text
  | .and => " and "
  | .or => " or "

/-- The binding strength of the word between operands. -/
def booleanStrength : BooleanOperator → Strength
  | .and => Strength.and
  | .or => Strength.or

/-- Text in parentheses if it binds less strongly than is asked for. -/
def parenthesizedBelow (asked own : Strength) (text : Text) : Text :=
  if asked > own then "(" ++ text ++ ")" else text

/-- Items with commas between them. -/
def commaSeparated (items : List Text) : Text :=
  Text.join ", " items

/-- Items of a tuple: a single one has a comma behind it. -/
def tupleItems : List Text → Text
  | [single] => single ++ ","
  | items => commaSeparated items

/-- A value in the braces of an f-string. A brace at its start is kept apart from the one before
it. -/
def printInterpolation (value : Text) (conversion : Option Char) (format : Option Text) :
    Except PrintError Text :=
  if value.elem (.scalar '\\') then .error .backslashInInterpolation
  else
    let opening : Text := if value.head? == some (.scalar '\x7b') then "\x7b " else "\x7b"
    let converted : Text := match conversion with
      | some letter => [.scalar '!', .scalar letter]
      | none => []
    let formatted : Text := match format with
      | some text => ":" ++ text
      | none => []
    .ok (opening ++ value ++ converted ++ formatted ++ "\x7d")

/-- The parameters of a lambda from their parts. The slash stands behind those given by position
only, and a lone star before those given by keyword only. -/
def parameterList (positionalOnly positional : List Text) (rest : Option Text)
    (keywordOnly : List Text) (keywordRest : Option Text) : Text :=
  let slash : List Text := if positionalOnly.isEmpty then [] else ["/"]
  let star : List Text := match rest with
    | some name => ["*" ++ name]
    | none => if keywordOnly.isEmpty then [] else ["*"]
  let mapping : List Text := match keywordRest with
    | some name => ["**" ++ name]
    | none => []
  commaSeparated (positionalOnly ++ slash ++ positional ++ star ++ keywordOnly ++ mapping)

variable {σ : Type}

/-- What the brackets of a subscript ask for: a tuple needs no parentheses there. -/
def indexStrength : Expr σ → Strength
  | .tuple .. => Strength.tuple
  | _ => Strength.ternary

mutual

/-- An expression at a place that asks for a binding strength. -/
def print (quoting : Quoting) (asked : Strength) : Expr σ → Except PrintError Text
  | .name _ identifier => .ok identifier
  | .constant _ value => printConstant quoting value
  | .formatted _ parts => do
    let pieces ← printPieces parts
    match quoting with
    | .free => return "f" ++ printParts pieces
    | .withoutBackslashes => return "f" ++ printFitted (pieces.flatMap (·.1))
  | .interpolation _ value conversion format => do
    printInterpolation (← print .withoutBackslashes Strength.ternary.next value) conversion
      (← printFormat format)
  | .attribute _ value identifier => do
    let owner ← print quoting Strength.atom value
    let space : Text := match value with
      | .constant _ literal => if absorbsPoint literal then " " else ""
      | _ => ""
    return owner ++ space ++ "." ++ identifier
  | .subscript _ value index => do
    let owner ← print quoting Strength.atom value
    return owner ++ "[" ++ (← print quoting (indexStrength index) index) ++ "]"
  | .slice _ lower upper step => do
    return (← printOptional quoting "" lower) ++ ":" ++ (← printOptional quoting "" upper) ++
      (← printOptional quoting ":" step)
  | .call _ callee positional keywords => do
    let called ← print quoting Strength.atom callee
    let first ← printAll quoting positional
    let second ← printKeywords quoting keywords
    return called ++ "(" ++ commaSeparated (first ++ second) ++ ")"
  | .starred _ value => do
    return "*" ++ (← print quoting Strength.bitOr value)
  | .tuple _ elements => do
    let items ← printAll quoting elements
    if elements.isEmpty || asked > Strength.tuple then return "(" ++ tupleItems items ++ ")"
    else return tupleItems items
  | .list _ elements => do
    return "[" ++ commaSeparated (← printAll quoting elements) ++ "]"
  | .set _ elements => do
    if elements.isEmpty then return "\x7b*()\x7d"
    else return "\x7b" ++ commaSeparated (← printAll quoting elements) ++ "\x7d"
  | .dictionary _ entries => do
    return "\x7b" ++ commaSeparated (← printEntries quoting entries) ++ "\x7d"
  | .unary _ operator operand => do
    let own := unaryStrength operator
    return parenthesizedBelow asked own (unaryText operator ++ (← print quoting own operand))
  | .binary _ left operator right => do
    let (leftStrength, rightStrength) := operandStrengths operator
    let first ← print quoting leftStrength left
    let second ← print quoting rightStrength right
    return parenthesizedBelow asked (binaryStrength operator)
      (first ++ binaryText operator ++ second)
  | .boolean _ operator operands => do
    let own := booleanStrength operator
    let items ← printRising quoting own operands
    return parenthesizedBelow asked own (Text.join (booleanText operator) items)
  | .comparison _ first rest => do
    let start ← print quoting Strength.comparison.next first
    let steps ← printComparisons quoting rest
    return parenthesizedBelow asked Strength.comparison (start ++ steps)
  | .conditional _ test whenTrue whenFalse => do
    let first ← print quoting Strength.ternary.next whenTrue
    let second ← print quoting Strength.ternary.next test
    let third ← print quoting Strength.ternary whenFalse
    return parenthesizedBelow asked Strength.ternary
      (first ++ " if " ++ second ++ " else " ++ third)
  | .lambda _ parameters body => do
    let list ← printParameters quoting parameters
    let space : Text := if list.isEmpty then "" else " "
    let value ← print quoting Strength.ternary body
    return parenthesizedBelow asked Strength.ternary ("lambda" ++ space ++ list ++ ": " ++ value)
  | .assignment _ target value => do
    let first ← print quoting Strength.atom target
    let second ← print quoting Strength.atom value
    return parenthesizedBelow asked Strength.naming (first ++ " := " ++ second)
  | .await _ value => do
    return parenthesizedBelow asked Strength.await
      ("await " ++ (← print quoting Strength.atom value))
  | .yield _ none => .ok (parenthesizedBelow asked Strength.yield "yield")
  | .yield _ (some value) => do
    return parenthesizedBelow asked Strength.yield
      ("yield " ++ (← print quoting Strength.atom value))
  | .yieldFrom _ value => do
    return parenthesizedBelow asked Strength.yield
      ("yield from " ++ (← print quoting Strength.atom value))
  | .listComprehension _ element clauses => do
    let first ← print quoting Strength.ternary element
    return "[" ++ first ++ (← printClauses quoting clauses) ++ "]"
  | .setComprehension _ element clauses => do
    let first ← print quoting Strength.ternary element
    return "\x7b" ++ first ++ (← printClauses quoting clauses) ++ "\x7d"
  | .dictionaryComprehension _ key value clauses => do
    let first ← print quoting Strength.ternary key
    let second ← print quoting Strength.ternary value
    return "\x7b" ++ first ++ ": " ++ second ++ (← printClauses quoting clauses) ++ "\x7d"
  | .generator _ element clauses => do
    let first ← print quoting Strength.ternary element
    return "(" ++ first ++ (← printClauses quoting clauses) ++ ")"

/-- Expressions between commas, each on its own. -/
def printAll (quoting : Quoting) : List (Expr σ) → Except PrintError (List Text)
  | [] => .ok []
  | first :: rest => do
    let text ← print quoting Strength.ternary first
    return text :: (← printAll quoting rest)

/-- Expressions each of which has to bind more strongly than the one before it. -/
def printRising (quoting : Quoting) (strength : Strength) :
    List (Expr σ) → Except PrintError (List Text)
  | [] => .ok []
  | first :: rest => do
    let text ← print quoting strength.next first
    return text :: (← printRising quoting strength.next rest)

/-- An expression behind a text, or nothing. -/
def printOptional (quoting : Quoting) (before : Text) : Option (Expr σ) → Except PrintError Text
  | none => .ok []
  | some value => do
    return before ++ (← print quoting Strength.ternary value)

/-- The parts of an f-string, and which of them are plain text. -/
def printPieces : List (Expr σ) → Except PrintError (List (Text × Bool))
  | [] => .ok []
  | .constant _ (.text value _) :: rest => do
    return (doubledBraces value, true) :: (← printPieces rest)
  | .formatted _ parts :: rest => do
    let inside ← printPieces parts
    return (inside.flatMap (·.1), false) :: (← printPieces rest)
  | part :: rest => do
    let text ← print .free Strength.ternary part
    return (text, false) :: (← printPieces rest)

/-- The format of an interpolation. -/
def printFormat : Option (Expr σ) → Except PrintError (Option Text)
  | some (.formatted _ parts) => do
    return some ((← printPieces parts).flatMap (·.1))
  | some format => do
    return some (← print .free Strength.ternary format)
  | none => .ok none

/-- Arguments given by keyword. -/
def printKeywords (quoting : Quoting) : List (Keyword σ) → Except PrintError (List Text)
  | [] => .ok []
  | .named _ identifier value :: rest => do
    let text ← print quoting Strength.ternary value
    return (Text.ofString identifier ++ "=" ++ text) :: (← printKeywords quoting rest)
  | .unpacked _ value :: rest => do
    let text ← print quoting Strength.ternary value
    return ("**" ++ text) :: (← printKeywords quoting rest)

/-- Entries of a dictionary. -/
def printEntries (quoting : Quoting) : List (Entry σ) → Except PrintError (List Text)
  | [] => .ok []
  | .pair key value :: rest => do
    let first ← print quoting Strength.ternary key
    let second ← print quoting Strength.ternary value
    return (first ++ ": " ++ second) :: (← printEntries quoting rest)
  | .unpacked value :: rest => do
    let text ← print quoting Strength.bitOr value
    return ("**" ++ text) :: (← printEntries quoting rest)

/-- The steps of a comparison chain. -/
def printComparisons (quoting : Quoting) : List (Comparison σ) → Except PrintError Text
  | [] => .ok []
  | .step operator operand :: rest => do
    let text ← print quoting Strength.comparison.next operand
    return comparisonText operator ++ text ++ (← printComparisons quoting rest)

/-- The clauses of a comprehension. -/
def printClauses (quoting : Quoting) : List (Clause σ) → Except PrintError Text
  | [] => .ok []
  | .clause isAsync target source conditions :: rest => do
    let first ← print quoting Strength.tuple target
    let second ← print quoting Strength.ternary.next source
    let tests ← printConditions quoting conditions
    let word : Text := if isAsync then " async for " else " for "
    return word ++ first ++ " in " ++ second ++ tests ++ (← printClauses quoting rest)

/-- The conditions of a clause. -/
def printConditions (quoting : Quoting) : List (Expr σ) → Except PrintError Text
  | [] => .ok []
  | first :: rest => do
    let text ← print quoting Strength.ternary.next first
    return " if " ++ text ++ (← printConditions quoting rest)

/-- The parameters of a lambda. -/
def printParameters (quoting : Quoting) : Parameters σ → Except PrintError Text
  | .parameters positionalOnly positional rest keywordOnly keywordRest => do
    return parameterList (← printParameterItems quoting positionalOnly)
      (← printParameterItems quoting positional)
      (← printParameterOption quoting rest) (← printParameterItems quoting keywordOnly)
      (← printParameterOption quoting keywordRest)

/-- Parameters with their defaults. -/
def printParameterItems (quoting : Quoting) : List (Parameter σ) → Except PrintError (List Text)
  | [] => .ok []
  | first :: rest => do
    let text ← printParameter quoting first
    return text :: (← printParameterItems quoting rest)

/-- A parameter that takes the rest, if there is one. -/
def printParameterOption (quoting : Quoting) : Option (Parameter σ) → Except PrintError (Option Text)
  | none => .ok none
  | some parameter => do
    return some (← printParameter quoting parameter)

/-- A parameter with its default. -/
def printParameter (quoting : Quoting) : Parameter σ → Except PrintError Text
  | .parameter identifier _ default => do
    return Text.ofString identifier ++ (← printOptional quoting "=" default)

end

end DifferenceTypes.Printer

namespace DifferenceTypes

/-- The printed form of an expression on its own. -/
def Expr.print? {σ : Type} (expression : Expr σ) : Except Printer.PrintError Text :=
  Printer.print .free Printer.Strength.ternary expression

end DifferenceTypes
