import DifferenceTypes.Evaluation.Statement
import DifferenceTypes.Template.Scope

/-!
# All names that a module binds

Which names the statements of a module bind in its scope, in whatever way: as definitions and imports,
as targets of assignments, declarations, loops and contexts, inside of tuples and lists and behind
stars, as captures of patterns, as names of handlers, by named expressions, and all this inside the
blocks of conditionals, loops, contexts, matches and handlers to any depth. Bodies of functions and
classes bind in scopes of their own, but what is evaluated outside of them, such as decorators, bases
and defaults, can hold named expressions.

What an import with a star binds is not to be seen in the module, so it is taken as given.

`Module.boundNames` looks at some of these ways only. The names that it leaves out are the module's
hidden names.
-/

namespace DifferenceTypes

mutual

/-- The names that the named expressions inside an expression bind around it. -/
def Expr.namedNames : Expr → List String
  | .name _ _ | .constant _ _ => []
  | .formatted _ parts => namedNamesOfAll parts
  | .interpolation _ value _ format => value.namedNames ++ namedNamesOfOption format
  | .attribute _ value _ | .starred _ value | .await _ value | .yieldFrom _ value =>
    value.namedNames
  | .subscript _ value index => value.namedNames ++ index.namedNames
  | .slice _ lower upper step =>
    namedNamesOfOption lower ++ namedNamesOfOption upper ++ namedNamesOfOption step
  | .call _ callee arguments keywords =>
    callee.namedNames ++ namedNamesOfAll arguments ++ namedNamesOfKeywords keywords
  | .tuple _ elements | .list _ elements | .set _ elements => namedNamesOfAll elements
  | .dictionary _ entries => namedNamesOfEntries entries
  | .unary _ _ operand => operand.namedNames
  | .binary _ left _ right => left.namedNames ++ right.namedNames
  | .boolean _ _ operands => namedNamesOfAll operands
  | .comparison _ first rest => first.namedNames ++ namedNamesOfComparisons rest
  | .conditional _ test whenTrue whenFalse =>
    test.namedNames ++ whenTrue.namedNames ++ whenFalse.namedNames
  | .lambda _ parameters _ => parameters.namedNames
  | .assignment _ target value => target.name?.toList ++ value.namedNames
  | .yield _ value => namedNamesOfOption value
  | .listComprehension _ element clauses | .setComprehension _ element clauses
  | .generator _ element clauses => element.namedNames ++ namedNamesOfClauses clauses
  | .dictionaryComprehension _ key value clauses =>
    key.namedNames ++ value.namedNames ++ namedNamesOfClauses clauses

/-- The names that the named expressions inside expressions bind around them. -/
def namedNamesOfAll : List Expr → List String
  | [] => []
  | first :: rest => first.namedNames ++ namedNamesOfAll rest

def namedNamesOfOption : Option Expr → List String
  | none => []
  | some expression => expression.namedNames

def namedNamesOfKeywords : List Keyword → List String
  | [] => []
  | .named _ _ value :: rest | .unpacked _ value :: rest =>
    value.namedNames ++ namedNamesOfKeywords rest

def namedNamesOfEntries : List Entry → List String
  | [] => []
  | .pair key value :: rest => key.namedNames ++ value.namedNames ++ namedNamesOfEntries rest
  | .unpacked value :: rest => value.namedNames ++ namedNamesOfEntries rest

def namedNamesOfComparisons : List Comparison → List String
  | [] => []
  | .step _ operand :: rest => operand.namedNames ++ namedNamesOfComparisons rest

def namedNamesOfClauses : List Clause → List String
  | [] => []
  | .clause _ _ source conditions :: rest =>
    source.namedNames ++ namedNamesOfAll conditions ++ namedNamesOfClauses rest

def namedNamesOfParameters : List Parameter → List String
  | [] => []
  | .parameter _ type default :: rest =>
    namedNamesOfOption type ++ namedNamesOfOption default ++ namedNamesOfParameters rest

def namedNamesOfParameter : Option Parameter → List String
  | none => []
  | some (.parameter _ type default) => namedNamesOfOption type ++ namedNamesOfOption default

/-- The names that declared types and defaults of parameters bind around their function. -/
def Parameters.namedNames : Parameters → List String
  | .parameters positionalOnly positional rest keywordOnly keywordRest =>
    namedNamesOfParameters positionalOnly ++ namedNamesOfParameters positional ++
      namedNamesOfParameter rest ++ namedNamesOfParameters keywordOnly ++
      namedNamesOfParameter keywordRest

end

mutual

/-- The names that a pattern captures. -/
def Pattern.capturedNames : Pattern → List String
  | .value _ | .constant _ => []
  | .sequence patterns | .alternatives patterns => capturedNamesOfAll patterns
  | .mapping _ patterns rest => capturedNamesOfAll patterns ++ rest.toList
  | .classPattern _ patterns _ values => capturedNamesOfAll patterns ++ capturedNamesOfAll values
  | .star identifier => identifier.toList
  | .capture (some pattern) identifier => pattern.capturedNames ++ identifier.toList
  | .capture none identifier => identifier.toList

/-- The names that patterns capture. -/
def capturedNamesOfAll : List Pattern → List String
  | [] => []
  | first :: rest => first.capturedNames ++ capturedNamesOfAll rest

end

/-- The names that a target binds, with those of named expressions inside it. -/
def Expr.targetScopeNames (target : Expr) : List String :=
  Evaluation.targetNames target ++ target.namedNames

/-- The names that a context binds. -/
def Context.scopeNames (context : Context) : List String :=
  context.value.namedNames ++ (context.target.map Expr.targetScopeNames).getD []

section

variable (exports : Nat → Option String → List String)

/-- The names that an import from a module binds, given what modules export. -/
def ImportedName.scopeNames (level : Nat) (path : Option String) (imported : ImportedName) :
    List String :=
  if imported.path == "*" then exports level path else [imported.boundName]

mutual

/-- The names that a statement binds in the scope that it belongs to. -/
def Stmt.scopeNames : Stmt → List String
  | .expression _ value => value.namedNames
  | .assign _ targets value => targets.flatMap Expr.targetScopeNames ++ value.namedNames
  | .augment _ target _ value => target.targetScopeNames ++ value.namedNames
  | .declare _ target type value _ =>
    target.targetScopeNames ++ type.namedNames ++ namedNamesOfOption value
  | .delete _ targets => namedNamesOfAll targets
  | .returns _ value => namedNamesOfOption value
  | .raises _ exception cause => namedNamesOfOption exception ++ namedNamesOfOption cause
  | .asserts _ test message => test.namedNames ++ namedNamesOfOption message
  | .pass _ | .breaks _ | .continues _ | .globals _ _ | .nonlocals _ _ => []
  | .imports _ names => names.map ImportedName.boundName
  | .importsFrom _ level path names =>
    names.flatMap (ImportedName.scopeNames exports level path)
  | .function _ _ identifier parameters _ decorators result =>
    identifier :: namedNamesOfAll decorators ++ parameters.namedNames ++ namedNamesOfOption result
  | .classDefinition _ identifier bases keywords _ decorators =>
    identifier :: namedNamesOfAll decorators ++ namedNamesOfAll bases ++
      namedNamesOfKeywords keywords
  | .conditional _ test body otherwise | .whileLoop _ test body otherwise =>
    test.namedNames ++ scopeNamesOf body ++ scopeNamesOf otherwise
  | .forLoop _ _ target source body otherwise =>
    target.targetScopeNames ++ source.namedNames ++ scopeNamesOf body ++ scopeNamesOf otherwise
  | .withBlock _ _ contexts body => contexts.flatMap Context.scopeNames ++ scopeNamesOf body
  | .matchBlock _ subject cases => subject.namedNames ++ scopeNamesOfCases cases
  | .tryBlock _ _ body handlers otherwise cleanup =>
    scopeNamesOf body ++ scopeNamesOfHandlers handlers ++ scopeNamesOf otherwise ++
      scopeNamesOf cleanup

/-- The names that statements bind in the scope that they belong to. -/
def scopeNamesOf : List Stmt → List String
  | [] => []
  | first :: rest => first.scopeNames ++ scopeNamesOf rest

def scopeNamesOfCases : List Case → List String
  | [] => []
  | .case pattern guard body :: rest =>
    pattern.capturedNames ++ namedNamesOfOption guard ++ scopeNamesOf body ++
      scopeNamesOfCases rest

def scopeNamesOfHandlers : List Handler → List String
  | [] => []
  | .handler type identifier body :: rest =>
    namedNamesOfOption type ++ identifier.toList ++ scopeNamesOf body ++ scopeNamesOfHandlers rest

end

namespace Module

/-- The names that a module's statements bind in its scope. -/
def scopeNames (module : Module) : List String :=
  scopeNamesOf exports module

/-- The names that a module's statements bind without being looked at. -/
def hiddenNames (module : Module) : List String :=
  (module.scopeNames exports).filter fun name => !module.boundNames.elem name

end Module

end

end DifferenceTypes
