import DifferenceTypes.Syntax.Tree

/-!
# The scope of a module

What the top-level statements of a module say about its scope: which names they bind, which modules
they import, and how far the statements reach that have to come first. Only the statements at the
top are looked at, not those inside conditionals, loops and other blocks, and of the targets of an
assignment only plain names.
-/

namespace DifferenceTypes

/-- A name before its first dot. -/
def firstPart (path : String) : String :=
  String.ofList (path.toList.takeWhile (· != '.'))

/-- The name that an import binds: the one given to it, or the first part of what is imported. -/
def ImportedName.boundName (imported : ImportedName) : String :=
  firstPart (imported.boundAs.getD imported.path)

/-- The identifier of an expression that is a name. -/
def Expr.name? : Expr → Option String
  | .name _ identifier => some identifier
  | _ => none

/-- The names that a statement binds, as far as they are looked at. -/
def Stmt.boundNames : Stmt → List String
  | .classDefinition _ identifier _ _ _ _ => [identifier]
  | .function _ _ identifier _ _ _ _ => [identifier]
  | .assign _ targets _ => targets.filterMap Expr.name?
  | .declare _ target _ _ _ => target.name?.toList
  | .imports _ names => names.map ImportedName.boundName
  | .importsFrom _ _ _ names => names.map ImportedName.boundName
  | _ => []

/-- Whether a statement imports a module under a name, or under its own if none is given. -/
def Stmt.importsModule (path : String) (boundAs : Option String) : Stmt → Bool
  | .imports _ names =>
    names.any fun imported => imported.path == path && imported.boundAs == boundAs
  | _ => false

/-- Whether a statement is a text on its own. -/
def Stmt.isText : Stmt → Bool
  | .expression _ (.constant _ (.text _ _)) => true
  | _ => false

/-- Whether a statement imports features of the future. -/
def Stmt.isFuture : Stmt → Bool
  | .importsFrom _ _ (some path) _ => path == "__future__"
  | _ => false

namespace Module

/-- The names that the module's statements bind, in their order. -/
def boundNames (module : Module) : List String :=
  module.flatMap Stmt.boundNames

/-- A name put into its place among names in order, if it is not there. -/
def insertName (name : String) : List String → List String
  | [] => [name]
  | first :: rest =>
    if name < first then name :: first :: rest
    else if name == first then first :: rest
    else first :: insertName name rest

/-- The names that the module's statements bind, each once, in order. -/
def definedNames (module : Module) : List String :=
  module.boundNames.foldr insertName []

/-- Whether a statement of the module imports another one under a name. -/
def importsModule (module : Module) (path : String) (boundAs : Option String) : Bool :=
  module.any (Stmt.importsModule path boundAs)

/-- The statements that have to come first: imports of features of the future, and before them a
text. -/
def opening (module : Module) : List Stmt :=
  match module with
  | [] => []
  | first :: rest =>
    if first.isText || first.isFuture then first :: rest.takeWhile Stmt.isFuture else []

/-- The line behind which imports may be put; zero is before the first line. -/
def importLine (module : Module) : Nat :=
  (module.opening.getLast?.map (·.span.stop.line)).getD 0

end Module

end DifferenceTypes
