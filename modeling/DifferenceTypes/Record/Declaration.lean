import DifferenceTypes.Object.Access
import DifferenceTypes.Text.Blank
import DifferenceTypes.Text.Identifier

/-!
# Declarations of record classes

What a declaration in the body of a record class stands for. Most are fields; a declared type may
also say that the name belongs to the class, or that it is only a parameter of the initialization. A
declared type that is kept as text says so by its first name, which is looked up in the module and
not in the class; a name before a dot must be that of the module that the marking type comes from.
-/

namespace DifferenceTypes.Record

variable {κ : Type}

/-- Whether a type marks what belongs to the class. -/
def marksClassVariable : Value → Bool
  | .specialForm "ClassVar" => true
  | .parameterized (.specialForm "ClassVar") _ _ => true
  | _ => false

/-- Whether a type marks a parameter of the initialization. -/
def marksParameter : Value → Bool
  | .ofClass (.builtin .initializer) => true
  | .initializer _ => true
  | _ => false

/-- Whether a type marks that only keywords follow. -/
def marksKeywords : Value → Bool
  | .keywordMark => true
  | _ => false

/-- Whether a code point can stand in a word. -/
def isWordPoint : CodePoint → Bool
  | .scalar character => continuesIdentifier character
  | .surrogate _ => false

/-- The word at the start of a text, and the text behind it. -/
def firstWord? (text : Text) : Option (String × Text) :=
  let stripped := text.stripStart
  let word := stripped.takeWhile isWordPoint
  if word.isEmpty then none
  else (Text.string? word).map fun found => (found, stripped.drop word.length)

/-- The name at the start of a text, with the name before its dot if there is one. -/
def leadingName? (text : Text) : Option (Option String × String) :=
  (firstWord? text).map fun (first, rest) =>
    match rest.stripStart with
    | .scalar '.' :: behind =>
      match firstWord? behind with
      | some (second, _) => (some first, second)
      | none => (none, first)
    | _ => (none, first)

/-- Whether a declared type, which may be kept as text, has a mark of a library. -/
def hasMark (world : World κ) (library : Library) (mark : Value → Bool) (type : Value) : Bool :=
  match type with
  | .text text =>
    match leadingName? text with
    | some (none, name) => ((world.module.get? name).map mark).getD false
    | some (some home, name) =>
      if ((world.module.get? home).map (·.same (.library library))).getD false then
        ((library.attribute? name).map mark).getD false
      else false
    | none => false
  | other => mark other

/-- The role of a declaration with a type. -/
def roleOf (world : World κ) (type : Value) : RecordRole :=
  if hasMark world .typing marksClassVariable type then .classVariable
  else if hasMark world .dataclasses marksParameter type then .parameter
  else .field

/-- The draft of a field that a value is. -/
def draft? (world : World κ) : Value → Option RecordField
  | .object ref =>
    match world.objects[ref]? with
    | some ⟨_, .fieldDraft field, _⟩ => some field
    | _ => none
  | _ => none

/-- A declaration with nothing said about it but a default. -/
def plainField (name : String) (default : Option Value) : RecordField :=
  ⟨name, .field, default, none, true, true, true, none, none⟩

/-- Whether the instances of a value's class cannot be hashed, as those of classes whose instances
change. -/
def isMutable (world : World κ) (value : Value) : Bool :=
  match world.classAttribute? (world.classOf value) "__hash__" with
  | some .none => true
  | _ => false

/-- A declaration as it is described by what the class has under its name. -/
def drafted (world : World κ) (identity : ClassId) (name : String) : RecordField :=
  let default := world.attributeOfClass? identity name
  match default.bind (draft? world) with
  | some draft => { draft with name := name }
  | none => plainField name default

/-- The declaration of a name in a class. -/
def declare (world : World κ) (identity : ClassId) (keywordOnly : Bool) (name : String)
    (type : Value) : Except Failure RecordField :=
  let drafted := drafted world identity name
  match roleOf world type with
  | .classVariable =>
    if drafted.factory.isSome || drafted.keywordOnly.isSome then .error .wrongType
    else .ok { drafted with role := .classVariable }
  | .parameter =>
    if drafted.factory.isSome then .error .wrongType
    else
      .ok { drafted with
        role := .parameter, keywordOnly := some (drafted.keywordOnly.getD keywordOnly) }
  | .field =>
    if (drafted.default.map (isMutable world)).getD false then .error .badValue
    else
      .ok { drafted with
        role := .field, keywordOnly := some (drafted.keywordOnly.getD keywordOnly) }

/-- The declarations of a class, where a marking type makes all later ones keyword-only. -/
def declareAll (world : World κ) (identity : ClassId) :
    Bool → Bool → Attributes → Except Failure (List RecordField)
  | _, _, [] => .ok []
  | keywordOnly, marked, (name, type) :: rest =>
    if hasMark world .dataclasses marksKeywords type then
      if marked then .error .wrongType else declareAll world identity true true rest
    else do
      let field ← declare world identity keywordOnly name type
      return field :: (← declareAll world identity keywordOnly marked rest)

/-- The declarations with one more, which takes the place of an earlier one of its name. -/
def addField (fields : List RecordField) (field : RecordField) : List RecordField :=
  if fields.any (·.name == field.name) then
    fields.map fun earlier => if earlier.name == field.name then field else earlier
  else fields ++ [field]

/-- What makes a class a record class, from the nearest ancestor that is one. -/
def definition? (world : World κ) (identity : ClassId) : Option (ClassId × RecordDefinition) :=
  (world.ancestors identity).findSome? fun ancestor =>
    ((world.record? ancestor).bind (·.record)).map fun definition => (ancestor, definition)

/-- The declarations of the bases of a class, the farthest first, and whether any of the bases is
frozen. -/
def inherited (world : World κ) (identity : ClassId) : List RecordField × Option Bool :=
  let bases := ((world.ancestors identity).drop 1).reverse.filterMap (definition? world)
  let fields :=
    bases.foldl (fun fields (_, definition) => definition.fields.foldl addField fields) []
  (fields, if bases.isEmpty then none else some (bases.any (·.2.frozen)))

end DifferenceTypes.Record
