import DifferenceTypes.Record.Declaration

/-!
# Making record classes

A class becomes a record class by its declarations: it gets methods that initialize, describe,
compare and hash its instances by their fields, unless it has methods of its own for that. A frozen
record class also gets methods that refuse to change an instance. Declarations are inherited, and a
record class and its bases are all frozen or all not.
-/

namespace DifferenceTypes.Record

variable {κ : Type}

/-- Whether a class has an attribute of its own. -/
def hasOwn (identity : ClassId) (name : String) : Run κ Bool :=
  return ((← get).ownAttribute? identity name).isSome

/-- Gives a class a method unless it has one of its own under that name. -/
def supply (identity : ClassId) (name : String) (operation : Primitive) : Run κ Unit := do
  if !(← hasOwn identity name) then Access.assignToClass identity name (.primitive operation)

/-- Gives a class a method, and fails if it has one of its own under that name. -/
def supplyNew (identity : ClassId) (name : String) (operation : Primitive) : Run κ Unit := do
  if ← hasOwn identity name then throw .wrongType
  else Access.assignToClass identity name (.primitive operation)

/-- Puts the defaults that the drafts of fields hold in their places. -/
def settleDefaults (identity : ClassId) (fields : List RecordField) : Run κ Unit :=
  fields.forM fun field => do
    let world ← get
    match (world.attributeOfClass? identity field.name).bind (draft? world) with
    | none => return ()
    | some _ =>
      match field.default with
      | some value => Access.assignToClass identity field.name value
      | none => Access.remove (.ofClass identity) field.name

/-- Whether a parameter without a default stands behind one with a default. -/
def misordered : Bool → List RecordField → Bool
  | _, [] => false
  | seen, field :: rest =>
    if field.default.isSome || field.factory.isSome then misordered true rest
    else seen || misordered seen rest

/-- The declarations that the initialization takes by position. -/
def positionalParameters (fields : List RecordField) : List RecordField :=
  fields.filter fun field => field.role != .classVariable && field.fill &&
    field.keywordOnly != some true

/-- The declarations that the initialization takes by keyword only. -/
def keywordParameters (fields : List RecordField) : List RecordField :=
  fields.filter fun field => field.role != .classVariable && field.fill &&
    field.keywordOnly == some true

/-- Whether hashing is declared by the class itself and not only given up because it compares its
instances. -/
def declaresHash (world : World κ) (identity : ClassId) : Bool :=
  match world.ownAttribute? identity "__hash__" with
  | none => false
  | some .none => (world.ownAttribute? identity "__eq__").isNone
  | some _ => true

/-- Gives a record class its method for hashing, or takes hashing from it. -/
def settleHash (identity : ClassId) (options : RecordOptions) (declared : Bool) : Run κ Unit := do
  if options.hash then
    if declared then throw .wrongType
    else Access.assignToClass identity "__hash__" (.primitive (.hashRecord identity))
  else if options.compare && !declared then
    if options.frozen then
      Access.assignToClass identity "__hash__" (.primitive (.hashRecord identity))
    else Access.assignToClass identity "__hash__" .none

/-- Fails if a field is described under a name for which no type is declared. -/
def checkDrafts (index : Nat) (annotations : Attributes) : Run κ Unit := do
  let world ← get
  let record ← Run.classRecord index
  if record.attributes.any fun (name, value) =>
      (draft? world value).isSome && (annotations.get? name).isNone then
    throw .wrongType

/-- Notes the declarations of a record class. -/
def define (index : Nat) (fields : List RecordField) (frozen : Bool) : Run κ Unit := do
  let completes := ((← get).attributeOfClass? (.defined index) "__post_init__").isSome
  Run.changeClass index fun record => { record with record := some ⟨fields, frozen, completes⟩ }

/-- Gives a record class its methods. -/
def supplyMethods (options : RecordOptions) (identity : ClassId) (fields : List RecordField) :
    Run κ Unit := do
  let declared := declaresHash (← get) identity
  if options.order && !options.compare then throw .badValue
  if options.fill then
    if misordered false (positionalParameters fields) then throw .wrongType
    supply identity "__init__" (.fillRecord identity)
  if options.describe then supply identity "__repr__" (.describeRecord identity)
  if options.compare then supply identity "__eq__" (.equalRecord identity)
  if options.frozen then
    supplyNew identity "__setattr__" (.assignRecord identity)
    supplyNew identity "__delattr__" (.eraseRecord identity)
  settleHash identity options declared

/-- Makes a class a record class with the declarations that it has of its own. -/
def complete (options : RecordOptions) (index : Nat) (annotations : Attributes)
    (inherited : List RecordField × Option Bool) (own : List RecordField) : Run κ Unit := do
  settleDefaults (.defined index) own
  checkDrafts index annotations
  if (inherited.2.map (· != options.frozen)).getD false then throw .wrongType
  let fields := own.foldl addField inherited.1
  define index fields options.frozen
  supplyMethods options (.defined index) fields

/-- Makes a class a record class. -/
def make (options : RecordOptions) (target : Value) : Run κ Value := do
  match target with
  | .ofClass (.defined index) =>
    let world ← get
    let record ← Run.classRecord index
    match declareAll world (.defined index) options.keywordOnly false record.annotations with
    | .error failure => throw failure
    | .ok own =>
      complete options index record.annotations (inherited world (.defined index)) own
      return target
  | _ => throw .wrongType

/-- The options that a call asks for. -/
def optionsOf (world : World κ) (named : Attributes) : Except Failure RecordOptions :=
  named.foldlM (fun options (name, value) =>
    let chosen := world.isTrue value
    match name with
    | "init" => .ok { options with fill := chosen }
    | "repr" => .ok { options with describe := chosen }
    | "eq" => .ok { options with compare := chosen }
    | "order" => .ok { options with order := chosen }
    | "unsafe_hash" => .ok { options with hash := chosen }
    | "frozen" => .ok { options with frozen := chosen }
    | "kw_only" => .ok { options with keywordOnly := chosen }
    | "match_args" => .ok options
    | "slots" | "weakref_slot" => if chosen then .error .unsupported else .ok options
    | _ => .error .wrongType) {}

/-- The decorator that makes record classes, applied to a class or to options first. -/
def decorate (arguments : Arguments) : Run κ Value := do
  match optionsOf (← get) arguments.named with
  | .error failure => throw failure
  | .ok options =>
    match arguments.positional with
    | [] => return .recordMaker options
    | [.none] => return .recordMaker options
    | [target] => make options target
    | _ => throw .wrongType

/-- A field described by options. -/
def draftOf (world : World κ) (named : Attributes) : Except Failure RecordField := do
  let field ← named.foldlM (fun (field : RecordField) (name, value) =>
    let chosen := world.isTrue value
    match name with
    | "default" => .ok { field with default := some value }
    | "default_factory" => .ok { field with factory := some value }
    | "init" => .ok { field with fill := chosen }
    | "repr" => .ok { field with describe := chosen }
    | "compare" => .ok { field with compare := chosen }
    | "hash" => .ok { field with hash := if value.same .none then none else some chosen }
    | "kw_only" => .ok { field with keywordOnly := some chosen }
    | "metadata" => .ok field
    | _ => .error .wrongType) (plainField "" none)
  if field.default.isSome && field.factory.isSome then .error .badValue else .ok field

/-- The function that describes a field by options. -/
def field (arguments : Arguments) : Run κ Value := do
  if !arguments.positional.isEmpty then throw .wrongType
  match draftOf (← get) arguments.named with
  | .ok draft => Run.create ⟨.builtin .recordField, .fieldDraft draft, []⟩
  | .error failure => throw failure

/-- The names of the fields of a record class. -/
def fieldNames (target : Value) : Run κ (List String) := do
  let world ← get
  let identity := match target with
    | .ofClass identity => identity
    | .subscribed origin _ => origin
    | other => world.classOf other
  match definition? world identity with
  | some (_, definition) => return (definition.fields.filter (·.role == .field)).map (·.name)
  | none => throw .wrongType

end DifferenceTypes.Record
