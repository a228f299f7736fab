import DifferenceTypes.Template.Shape

/-!
# Fields of classes

A field has a type, as text on one line, and a place: a name in a named class, an index in a
positional one. The text of a quoted type is what is inside the quotes.
-/

namespace DifferenceTypes

/-- A field of a class. In a positional class the name is empty. -/
structure Field where
  name : Text
  index : Int
  typeText : Text
  deriving DecidableEq, Repr, Inhabited

/-- The text of a type. -/
def Expr.typeText (text : Text) (type : Expr) : Except TemplateError Text :=
  match type.literalText? with
  | some value => .ok value.collapseBlanks
  | none => (type.source text).map Text.collapseBlanks

/-- Whether a field name is private: two underscores at its start and no two at its end. -/
def isPrivateName (name : String) : Bool :=
  ['_', '_'].isPrefixOf name.toList && !(['_', '_'].isSuffixOf name.toList)

namespace Field

/-- The types in the subscript of a positional base. -/
def typesOfSubscript : Expr → List Expr
  | .tuple _ elements => elements
  | single => [single]

/-- Fields by position. -/
def ofTypes (text : Text) (types : List Expr) : Except TemplateError (List Field) :=
  types.zipIdx.mapM fun (type, index) => do
    return ⟨[], index, ← type.typeText text⟩

/-- The fields so far with one more. -/
def addDeclared (text : Text) (className : String) (fields : List Field)
    (declaration : Declaration) : Except TemplateError (List Field) := do
  if isPrivateName declaration.name then
    throw (.ofFault (.privateField declaration.name) declaration.span)
  else if fields.any (·.name == Text.ofString declaration.name) then
    throw (.ofFault (.duplicateField declaration.name className) declaration.span)
  else return fields ++ [⟨declaration.name, fields.length, ← declaration.type.typeText text⟩]

/-- Fields by name. -/
def ofDeclarations (text : Text) (className : String) (declarations : List Declaration) :
    Except TemplateError (List Field) :=
  declarations.foldlM (addDeclared text className) []

/-- The fields of a class of a shape. -/
def ofClass (text : Text) (definition : ClassDefinition) : Shape → Except TemplateError (List Field)
  | .unit => .ok []
  | .positional =>
    match definition.positionalBase? with
    | some (.subscript _ _ index) => ofTypes text (typesOfSubscript index)
    | _ => .ok []
  | .named => ofDeclarations text definition.identifier definition.declarations

end Field

end DifferenceTypes
