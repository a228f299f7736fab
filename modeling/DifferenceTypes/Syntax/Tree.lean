import DifferenceTypes.Number.Binary64
import DifferenceTypes.Syntax.Position
import DifferenceTypes.Text.CodePoint

/-!
# Syntax trees

The tree of a template: expressions, patterns and statements of the Python grammar, each expression
and statement with its span. Parentheses leave no trace in the tree, and neither do comments and
layout.

What a construct holds decides its shape here. A call keeps positional arguments and keywords apart,
as the source order between them does not matter to any reader of the tree; a dictionary entry
without a key unpacks a mapping. Names are kept in compatibility composition.
-/

namespace DifferenceTypes

/-- A literal. `marked` tells a text literal whose first piece was written with a leading `u`. -/
inductive Constant where
  | none
  | truth (value : Bool)
  | ellipsis
  | text (value : Text) (marked : Bool)
  | bytes (value : List UInt8)
  | integer (value : Nat)
  | real (value : Binary64)
  | imaginary (value : Binary64)
  deriving DecidableEq, Repr, Inhabited

/-- Operators with one operand. -/
inductive UnaryOperator where
  | invert
  | not
  | plus
  | minus
  deriving DecidableEq, Repr, Inhabited

/-- Arithmetic and bitwise operators. -/
inductive BinaryOperator where
  | add
  | subtract
  | multiply
  | matrixMultiply
  | divide
  | floorDivide
  | remainder
  | power
  | shiftLeft
  | shiftRight
  | bitOr
  | bitXor
  | bitAnd
  deriving DecidableEq, Repr, Inhabited

/-- Operators that stop at the first operand that decides. -/
inductive BooleanOperator where
  | and
  | or
  deriving DecidableEq, Repr, Inhabited

/-- Operators of comparison chains. -/
inductive ComparisonOperator where
  | equal
  | notEqual
  | less
  | lessEqual
  | greater
  | greaterEqual
  | is
  | isNot
  | isIn
  | isNotIn
  deriving DecidableEq, Repr, Inhabited

mutual

/-- Expressions. -/
inductive Expr (σ : Type := Span) where
  | name (span : σ) (identifier : String)
  | constant (span : σ) (value : Constant)
  /-- An f-string: text constants and interpolations in turn. -/
  | formatted (span : σ) (parts : List (Expr σ))
  /-- A value in braces inside an f-string, with its conversion letter and its format. -/
  | interpolation (span : σ) (value : Expr σ) (conversion : Option Char) (format : Option (Expr σ))
  | attribute (span : σ) (value : Expr σ) (identifier : String)
  | subscript (span : σ) (value : Expr σ) (index : Expr σ)
  | slice (span : σ) (lower : Option (Expr σ)) (upper : Option (Expr σ)) (step : Option (Expr σ))
  | call (span : σ) (callee : Expr σ) (arguments : List (Expr σ)) (keywords : List (Keyword σ))
  | starred (span : σ) (value : Expr σ)
  | tuple (span : σ) (elements : List (Expr σ))
  | list (span : σ) (elements : List (Expr σ))
  | set (span : σ) (elements : List (Expr σ))
  | dictionary (span : σ) (entries : List (Entry σ))
  | unary (span : σ) (operator : UnaryOperator) (operand : Expr σ)
  | binary (span : σ) (left : Expr σ) (operator : BinaryOperator) (right : Expr σ)
  | boolean (span : σ) (operator : BooleanOperator) (operands : List (Expr σ))
  | comparison (span : σ) (first : Expr σ) (rest : List (Comparison σ))
  | conditional (span : σ) (test : Expr σ) (whenTrue : Expr σ) (whenFalse : Expr σ)
  | lambda (span : σ) (parameters : Parameters σ) (body : Expr σ)
  | assignment (span : σ) (target : Expr σ) (value : Expr σ)
  | await (span : σ) (value : Expr σ)
  | yield (span : σ) (value : Option (Expr σ))
  | yieldFrom (span : σ) (value : Expr σ)
  | listComprehension (span : σ) (element : Expr σ) (clauses : List (Clause σ))
  | setComprehension (span : σ) (element : Expr σ) (clauses : List (Clause σ))
  | dictionaryComprehension (span : σ) (key : Expr σ) (value : Expr σ) (clauses : List (Clause σ))
  | generator (span : σ) (element : Expr σ) (clauses : List (Clause σ))

/-- An argument given by keyword, or a mapping unpacked into keywords. -/
inductive Keyword (σ : Type := Span) where
  | named (span : σ) (identifier : String) (value : Expr σ)
  | unpacked (span : σ) (value : Expr σ)

/-- An entry of a dictionary, or a mapping unpacked into it. -/
inductive Entry (σ : Type := Span) where
  | pair (key : Expr σ) (value : Expr σ)
  | unpacked (value : Expr σ)

/-- One step of a comparison chain. -/
inductive Comparison (σ : Type := Span) where
  | step (operator : ComparisonOperator) (operand : Expr σ)

/-- One `for` of a comprehension with its conditions. -/
inductive Clause (σ : Type := Span) where
  | clause (isAsync : Bool) (target : Expr σ) (source : Expr σ) (conditions : List (Expr σ))

/-- A parameter with its declared type and its default. -/
inductive Parameter (σ : Type := Span) where
  | parameter (identifier : String) (type : Option (Expr σ)) (default : Option (Expr σ))

/-- The parameters of a function: by position only, by position or keyword, the rest by position, by
keyword only, the rest by keyword. -/
inductive Parameters (σ : Type := Span) where
  | parameters (positionalOnly : List (Parameter σ)) (positional : List (Parameter σ))
      (rest : Option (Parameter σ)) (keywordOnly : List (Parameter σ))
      (keywordRest : Option (Parameter σ))

end

instance {σ : Type} [Inhabited σ] : Inhabited (Expr σ) := ⟨.constant default .none⟩

/-- The span of an expression. -/
def Expr.span {σ : Type} : Expr σ → σ
  | .name span _ | .constant span _ | .formatted span _ | .interpolation span _ _ _
  | .attribute span _ _ | .subscript span _ _ | .slice span _ _ _ | .call span _ _ _
  | .starred span _ | .tuple span _ | .list span _ | .set span _ | .dictionary span _
  | .unary span _ _ | .binary span _ _ _ | .boolean span _ _ | .comparison span _ _
  | .conditional span _ _ _ | .lambda span _ _ | .assignment span _ _ | .await span _
  | .yield span _ | .yieldFrom span _ | .listComprehension span _ _ | .setComprehension span _ _
  | .dictionaryComprehension span _ _ _ | .generator span _ _ => span

/-- The span of a keyword argument, from its name or its stars on. -/
def Keyword.span {σ : Type} : Keyword σ → σ
  | .named span _ _ | .unpacked span _ => span

/-- The name of a parameter. -/
def Parameter.identifier {σ : Type} : Parameter σ → String
  | .parameter identifier _ _ => identifier

/-- The declared type of a parameter. -/
def Parameter.type? {σ : Type} : Parameter σ → Option (Expr σ)
  | .parameter _ type _ => type

/-- The parameters of a function one after the other. -/
def Parameters.toList {σ : Type} : Parameters σ → List (Parameter σ)
  | .parameters positionalOnly positional rest keywordOnly keywordRest =>
    positionalOnly ++ positional ++ rest.toList ++ keywordOnly ++ keywordRest.toList

/-- Patterns of a `match` statement. -/
inductive Pattern (σ : Type := Span) where
  | value (expression : Expr σ)
  | constant (value : Constant)
  | sequence (patterns : List (Pattern σ))
  | mapping (keys : List (Expr σ)) (patterns : List (Pattern σ)) (rest : Option String)
  | classPattern (className : Expr σ) (patterns : List (Pattern σ)) (attributes : List String)
      (values : List (Pattern σ))
  | star (identifier : Option String)
  | capture (pattern : Option (Pattern σ)) (identifier : Option String)
  | alternatives (patterns : List (Pattern σ))

/-- A dotted name in an import and the name it is bound to, if that is given. -/
structure ImportedName where
  path : String
  boundAs : Option String
  deriving DecidableEq, Repr, Inhabited

/-- A context of a `with` statement and the target it is bound to. -/
structure Context (σ : Type := Span) where
  value : Expr σ
  target : Option (Expr σ)

mutual

/-- Statements. -/
inductive Stmt (σ : Type := Span) where
  | expression (span : σ) (value : Expr σ)
  | assign (span : σ) (targets : List (Expr σ)) (value : Expr σ)
  | augment (span : σ) (target : Expr σ) (operator : BinaryOperator) (value : Expr σ)
  /-- A declaration of a type; `simple` when the target is a name without parentheses. -/
  | declare (span : σ) (target : Expr σ) (type : Expr σ) (value : Option (Expr σ)) (simple : Bool)
  | delete (span : σ) (targets : List (Expr σ))
  | returns (span : σ) (value : Option (Expr σ))
  | raises (span : σ) (exception : Option (Expr σ)) (cause : Option (Expr σ))
  | asserts (span : σ) (test : Expr σ) (message : Option (Expr σ))
  | pass (span : σ)
  | breaks (span : σ)
  | continues (span : σ)
  | globals (span : σ) (identifiers : List String)
  | nonlocals (span : σ) (identifiers : List String)
  | imports (span : σ) (names : List ImportedName)
  /-- An import from a module, `level` dots up; no path means the package itself. -/
  | importsFrom (span : σ) (level : Nat) (path : Option String) (names : List ImportedName)
  | function (span : σ) (isAsync : Bool) (identifier : String) (parameters : Parameters σ)
      (body : List (Stmt σ)) (decorators : List (Expr σ)) (result : Option (Expr σ))
  | classDefinition (span : σ) (identifier : String) (bases : List (Expr σ))
      (keywords : List (Keyword σ)) (body : List (Stmt σ)) (decorators : List (Expr σ))
  | conditional (span : σ) (test : Expr σ) (body : List (Stmt σ)) (otherwise : List (Stmt σ))
  | whileLoop (span : σ) (test : Expr σ) (body : List (Stmt σ)) (otherwise : List (Stmt σ))
  | forLoop (span : σ) (isAsync : Bool) (target : Expr σ) (source : Expr σ) (body : List (Stmt σ))
      (otherwise : List (Stmt σ))
  | withBlock (span : σ) (isAsync : Bool) (contexts : List (Context σ)) (body : List (Stmt σ))
  | matchBlock (span : σ) (subject : Expr σ) (cases : List (Case σ))
  /-- A `try` statement; `isGroup` when its handlers are written with a star. -/
  | tryBlock (span : σ) (isGroup : Bool) (body : List (Stmt σ)) (handlers : List (Handler σ))
      (otherwise : List (Stmt σ)) (cleanup : List (Stmt σ))

/-- One `case` of a `match` statement. -/
inductive Case (σ : Type := Span) where
  | case (pattern : Pattern σ) (guard : Option (Expr σ)) (body : List (Stmt σ))

/-- One `except` of a `try` statement. -/
inductive Handler (σ : Type := Span) where
  | handler (type : Option (Expr σ)) (identifier : Option String) (body : List (Stmt σ))

end

instance {σ : Type} [Inhabited σ] : Inhabited (Stmt σ) := ⟨.pass default⟩

/-- The span of a statement. A decorated definition starts at its own keyword, not at its
decorators. -/
def Stmt.span {σ : Type} : Stmt σ → σ
  | .expression span _ | .assign span _ _ | .augment span _ _ _ | .declare span _ _ _ _
  | .delete span _ | .returns span _ | .raises span _ _ | .asserts span _ _ | .pass span
  | .breaks span | .continues span | .globals span _ | .nonlocals span _ | .imports span _
  | .importsFrom span _ _ _ | .function span _ _ _ _ _ _ | .classDefinition span _ _ _ _ _
  | .conditional span _ _ _ | .whileLoop span _ _ _ | .forLoop span _ _ _ _ _
  | .withBlock span _ _ _ | .matchBlock span _ _ | .tryBlock span _ _ _ _ _ => span

/-- A class definition taken out of its statement. -/
structure ClassDefinition where
  span : Span
  identifier : String
  bases : List Expr
  keywords : List Keyword
  body : List Stmt
  decorators : List Expr
  deriving Inhabited

/-- The class that a statement defines. -/
def Stmt.class? : Stmt → Option ClassDefinition
  | .classDefinition span identifier bases keywords body decorators =>
    some ⟨span, identifier, bases, keywords, body, decorators⟩
  | _ => none

/-- A definition with these decorators. -/
def Stmt.decorate? {σ : Type} (decorators : List (Expr σ)) : Stmt σ → Option (Stmt σ)
  | .function span isAsync identifier parameters body _ result =>
    some (.function span isAsync identifier parameters body decorators result)
  | .classDefinition span identifier bases keywords body _ =>
    some (.classDefinition span identifier bases keywords body decorators)
  | _ => none

/-- A module is its list of statements. -/
abbrev Module := List Stmt

end DifferenceTypes
