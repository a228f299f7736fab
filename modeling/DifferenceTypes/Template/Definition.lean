import DifferenceTypes.Template.Marker

/-!
# Definitions of a module

Classes and functions can be defined anywhere in a module. They are listed level by level: first
those at the top, then those one step inside, and so on; a step leads from a statement to a
statement of one of its blocks, where the handlers of a `try` and the cases of a `match` are steps
of their own. Within a level the order is that of the text.

Only classes at the top may be marked. The first definition in this order that is marked and may not
be decides which fault is reported.
-/

namespace DifferenceTypes

/-- A class or function, as a statement defines it. -/
inductive Definition where
  | ofClass (definition : ClassDefinition)
  | ofFunction (span : Span) (identifier : String) (decorators : List Expr)
  deriving Inhabited

namespace Definition

/-- The decorators of a definition. -/
def decorators : Definition → List Expr
  | .ofClass definition => definition.decorators
  | .ofFunction _ _ decorators => decorators

/-- Whether a definition is marked. -/
def isMarked (definition : Definition) : Bool :=
  definition.decorators.any Expr.isMarker

end Definition

/-- What a statement defines. -/
def Stmt.definition? : Stmt → Option Definition
  | .classDefinition span identifier bases keywords body decorators =>
    some (.ofClass ⟨span, identifier, bases, keywords, body, decorators⟩)
  | .function span _ identifier _ _ decorators _ => some (.ofFunction span identifier decorators)
  | _ => none

/-- Levels side by side: each level of the first before that of the second. -/
def besides {α : Type} : List (List α) → List (List α) → List (List α)
  | [], second => second
  | first, [] => first
  | level :: first, other :: second => (level ++ other) :: besides first second

mutual

/-- The definitions in a statement by level, its own first. -/
def Stmt.definitionLevels : Stmt → List (List Definition)
  | .classDefinition span identifier bases keywords body decorators =>
    [.ofClass ⟨span, identifier, bases, keywords, body, decorators⟩] :: definitionLevelsOf body
  | .function span _ identifier _ body decorators _ =>
    [.ofFunction span identifier decorators] :: definitionLevelsOf body
  | .conditional _ _ body otherwise =>
    [] :: besides (definitionLevelsOf body) (definitionLevelsOf otherwise)
  | .whileLoop _ _ body otherwise =>
    [] :: besides (definitionLevelsOf body) (definitionLevelsOf otherwise)
  | .forLoop _ _ _ _ body otherwise =>
    [] :: besides (definitionLevelsOf body) (definitionLevelsOf otherwise)
  | .withBlock _ _ _ body => [] :: definitionLevelsOf body
  | .matchBlock _ _ cases => [] :: caseLevels cases
  | .tryBlock _ _ body handlers otherwise cleanup =>
    [] :: besides (definitionLevelsOf body)
      (besides (handlerLevels handlers)
        (besides (definitionLevelsOf otherwise) (definitionLevelsOf cleanup)))
  | _ => []

/-- The definitions in statements by level. -/
def definitionLevelsOf : List Stmt → List (List Definition)
  | [] => []
  | first :: rest => besides first.definitionLevels (definitionLevelsOf rest)

/-- The definitions in cases by level, the cases themselves being one. -/
def caseLevels : List Case → List (List Definition)
  | [] => []
  | .case _ _ body :: rest => besides ([] :: definitionLevelsOf body) (caseLevels rest)

/-- The definitions in handlers by level, the handlers themselves being one. -/
def handlerLevels : List Handler → List (List Definition)
  | [] => []
  | .handler _ _ body :: rest => besides ([] :: definitionLevelsOf body) (handlerLevels rest)

end

namespace Definition

/-- A marked definition at a level has to be a class at the top. -/
def checkMarked (isTop : Bool) : Definition → Except TemplateError ClassDefinition
  | .ofFunction span identifier _ => .error (.ofFault (.markedFunction identifier) span)
  | .ofClass definition =>
    if isTop then .ok definition
    else .error (.ofFault (.nestedClass definition.identifier) definition.span)

/-- The classes of the levels below the top that may be marked: none. -/
def checkNested (levels : List (List Definition)) : Except TemplateError Unit :=
  levels.flatten.forM fun definition =>
    if definition.isMarked then discard (checkMarked false definition) else .ok ()

end Definition

/-- The marked classes of a module, in the order of the text. -/
def Module.markedClasses (module : Module) : Except TemplateError (List ClassDefinition) := do
  match definitionLevelsOf module with
  | [] => return []
  | top :: nested =>
    let marked ← (top.filter Definition.isMarked).mapM (Definition.checkMarked true)
    Definition.checkNested nested
    return marked

end DifferenceTypes
