import DifferenceTypes.Evaluation.TypeHint
import DifferenceTypes.Generation.Code
import DifferenceTypes.Proofs.Evaluation.Portable
import DifferenceTypes.Proofs.Template.Fields
import DifferenceTypes.Proofs.Template.Reading
import DifferenceTypes.Session.Contract

/-!
# Types in generated code

The generator copies the text of a field's type to two other places: into the method that makes a
value to start from, and into a quoted type of the difference class, which is resolved in the module.
If the copied text still says what the type says, and if no name in the type means something else
there, then the runtime is handed the same value in both places as the type has where it is written.

A name means something else if the class body binds it, if it is one of the names of that method, if
it is private to the class, or if the difference class has an attribute of that name. A type that
binds a name or makes a function is not looked at.
-/

namespace DifferenceTypes

open Evaluation (eval)

variable {κ : Type}

/-! ### What texts say -/

/-- What a text says as one expression. -/
def Text.meaning? (text : Text) : Option (Expr Unit) :=
  (text.unifyLineEnds.characters?.bind Expr.parse?).map Expr.content

/-- What a type says. A quoted type says what is inside the quotes. -/
def Expr.meaning? (type : Expr) : Option (Expr Unit) :=
  match type.literalText? with
  | some text => text.meaning?
  | none => some type.content

/-- The types of the fields of a class of a shape. -/
def ClassDefinition.fieldTypes (definition : ClassDefinition) : Shape → List Expr
  | .unit => []
  | .positional =>
    match definition.positionalBase? with
    | some (.subscript _ _ index) => Field.typesOfSubscript index
    | _ => []
  | .named => definition.declarations.map (·.type)

namespace Field

theorem ofClass_positional (text : Text) (definition : ClassDefinition) :
    ofClass text definition .positional = ofTypes text (definition.fieldTypes .positional) := by
  unfold ofClass ClassDefinition.fieldTypes
  dsimp only
  cases definition.positionalBase? with
  | none => rfl
  | some base => cases base <;> rfl

/-- Each field has the text of its own type. -/
theorem typeText_of_ofClass {text : Text} {definition : ClassDefinition} {shape : Shape}
    {fields : List Field} (made : ofClass text definition shape = .ok fields) :
    List.Forall₂ (fun field type => Expr.typeText text type = .ok field.typeText) fields
      (definition.fieldTypes shape) := by
  refine List.Forall₂.flip ?_
  cases shape with
  | unit =>
    cases made
    exact .nil
  | named =>
    exact List.forall₂_map_left_iff.2 ((ofDeclarations_eq_ok made).1.imp fun _ _ declared => declared.typeText)
  | positional =>
    obtain ⟨all, -⟩ := ofTypes_eq_ok ((ofClass_positional text definition).symm.trans made)
    exact all.imp fun _ _ positional => positional.typeText

end Field

/-! ### Where types are written and copied to -/

/-- The names that the method that makes a value to start from has for itself. -/
def identityNames : List String :=
  ["cls", "value"]

/-- Whether a name means the same in all places, given the names that are bound in the class body
or are attributes of the difference class. -/
def isSharedName (bound : List String) (name : String) : Bool :=
  !Frame.isPrivate name && !(identityNames ++ bound).elem name

namespace Frame

/-- The frame in which a type is written: the body of its class, or of the module for a type of a
positional class. -/
structure IsWhereWritten (bound : List String) (frame : Frame) : Prop where
  place : frame.place = .module ∨ frame.place = .classBody
  bindings : ∀ name, name ∉ bound → frame.bindings.get? name = none

/-- The frame of the method that makes a value to start from. -/
structure IsOfIdentity (frame : Frame) : Prop where
  place : ∃ names, frame.place = .function names ∧ ∀ name ∈ names, name ∈ identityNames
  bindings : ∀ name, name ∉ identityNames → frame.bindings.get? name = none

variable {bound : List String} {frame : Frame}

theorem isSharedName_eq_true {name : String} (shared : isSharedName bound name = true) :
    isPrivate name = false ∧ name ∉ identityNames ∧ name ∉ bound := by
  simpa [isSharedName] using shared

theorem IsWhereWritten.seesModule (written : frame.IsWhereWritten bound) :
    frame.SeesModule κ (isSharedName bound) :=
  seesModule_of_body written.place fun name shared =>
    have ⟨isPublic, _, unbound⟩ := isSharedName_eq_true shared
    ⟨isPublic, written.bindings name unbound⟩

theorem IsOfIdentity.seesModule (ofIdentity : frame.IsOfIdentity) :
    frame.SeesModule κ (isSharedName bound) := by
  obtain ⟨names, place, own⟩ := ofIdentity.place
  refine seesModule_of_function place fun name shared => ?_
  obtain ⟨isPublic, other, -⟩ := isSharedName_eq_true shared
  exact ⟨isPublic, ofIdentity.bindings name other, fun inside => other (own name inside)⟩

theorem seesModule_ofReference {attributes : Attributes}
    (free : ∀ name, name ∉ bound → attributes.get? name = none) :
    (TypeHint.frame .reference attributes).SeesModule κ (isSharedName bound) :=
  seesModule_of_reference rfl fun name shared =>
    have ⟨isPublic, _, unbound⟩ := isSharedName_eq_true shared
    ⟨isPublic, free name unbound⟩

end Frame

/-- What the generated code calls or subscribes: an attribute of the runtime. -/
def runtimeAttribute (identifier : String) : Expr Unit :=
  .attribute () (.name () "_diff") identifier

namespace Template

variable {call : Caller κ} {bound : List String} {meaning : Expr Unit} {written place : Frame}

theorem isPortable_runtimeAttribute (runtime : isSharedName bound "_diff" = true)
    (identifier : String) (isPublic : Frame.isPrivate identifier = false) :
    (runtimeAttribute identifier).isPortable (isSharedName bound) = true := by
  simp [runtimeAttribute, Expr.isPortable, runtime, isPublic]

/-- The method that makes a value to start from hands the runtime the value that a type has where
it is written. -/
theorem eval_identityCall (portable : meaning.isPortable (isSharedName bound) = true)
    (single : ∀ span value, meaning ≠ .starred span value)
    (runtime : isSharedName bound "_diff" = true) (isWritten : written.IsWhereWritten bound)
    (ofIdentity : place.IsOfIdentity) :
    StateT.run' (eval call (.call () (runtimeAttribute "identity") [meaning] [])) place = (do
      let function ← StateT.run' (eval call (runtimeAttribute "identity")) .ofModule
      let type ← StateT.run' (eval call meaning) written
      call function ⟨[type], []⟩) := by
  have sees : place.SeesModule κ (isSharedName bound) := ofIdentity.seesModule
  have seesWritten : written.SeesModule κ (isSharedName bound) := isWritten.seesModule
  have callee := isPortable_runtimeAttribute runtime "identity" (by decide)
  have argument : Evaluation.evalAll call [meaning] =
      eval call meaning >>= fun type => pure [type] := by
    rw [Evaluation.evalAll]
    · simp [Evaluation.evalAll]
    · exact single
  rw [Evaluation.eval, (Evaluation.isPortable_eval _ callee).run'_bind _ sees,
    Evaluation.run'_eval callee sees (Frame.seesModule_ofModule _ _)]
  refine congrArg _ (funext fun function => ?_)
  rw [argument, bind_assoc, (Evaluation.isPortable_eval _ portable).run'_bind _ sees,
    Evaluation.run'_eval portable sees seesWritten]
  refine congrArg _ (funext fun type => ?_)
  rw [pure_bind, Evaluation.evalKeywords, pure_bind, Evaluation.run'_inWorld]

/-- The declared type of the difference class subscribes the runtime's form with the value that a
type has where it is written. -/
theorem eval_representation (portable : meaning.isPortable (isSharedName bound) = true)
    (runtime : isSharedName bound "_diff" = true) (isWritten : written.IsWhereWritten bound)
    {attributes : Attributes} (free : ∀ name, name ∉ bound → attributes.get? name = none) :
    StateT.run' (eval call (.subscript () (runtimeAttribute "Repr") meaning))
        (TypeHint.frame .reference attributes) = (do
      let form ← StateT.run' (eval call (runtimeAttribute "Repr")) .ofModule
      let type ← StateT.run' (eval call meaning) written
      Operator.subscript call form type) := by
  have sees : (TypeHint.frame .reference attributes).SeesModule κ (isSharedName bound) :=
    Frame.seesModule_ofReference free
  have seesWritten : written.SeesModule κ (isSharedName bound) := isWritten.seesModule
  have form := isPortable_runtimeAttribute runtime "Repr" (by decide)
  rw [Evaluation.eval, (Evaluation.isPortable_eval _ form).run'_bind _ sees,
    Evaluation.run'_eval form sees (Frame.seesModule_ofModule _ _)]
  refine congrArg _ (funext fun object => ?_)
  rw [(Evaluation.isPortable_eval _ portable).run'_bind _ sees,
    Evaluation.run'_eval portable sees seesWritten]
  exact congrArg _ (funext fun type => Evaluation.run'_inWorld _ _)

/-- In an accepted template, a type that is copied as what it says is handed to the runtime as what
it is where it is written, by the method that makes a value to start from and by the declared type of
the difference class. -/
theorem typeMeaning_kept {text : Text} {template : Template} (accepted : read text = .ok template)
    {classes : List ClassDefinition} (marked : template.module.markedClasses = .ok classes)
    {definition : ClassDefinition} {block : Block}
    (among : (definition, block) ∈ classes.zip template.blocks) {field : Field} {type : Expr}
    (declares : (field, type) ∈ block.fields.zip (definition.fieldTypes block.shape))
    {copy : Text} (copied : type.typeText text = .ok copy) (means : type.meaning? = some meaning)
    (calls : ("_diff.identity(" ++ copy ++ ")" : Text).meaning? = type.meaning?.map fun meaning =>
      .call () (runtimeAttribute "identity") [meaning] [])
    (subscribes : ("_diff.Repr[" ++ copy ++ "]" : Text).meaning? = type.meaning?.map fun meaning =>
      .subscript () (runtimeAttribute "Repr") meaning)
    (portable : meaning.isPortable (isSharedName bound) = true)
    (single : ∀ span value, meaning ≠ .starred span value)
    (runtime : isSharedName bound "_diff" = true) (isWritten : written.IsWhereWritten bound) :
    (∃ expression, (Code.startedByIndex field).meaning? = some expression ∧
      ∀ place : Frame, place.IsOfIdentity → StateT.run' (eval call expression) place = (do
        let function ← StateT.run' (eval call (runtimeAttribute "identity")) .ofModule
        let value ← StateT.run' (eval call meaning) written
        call function ⟨[value], []⟩)) ∧
      ∀ attributes : Attributes, (∀ name, name ∉ bound → attributes.get? name = none) →
        TypeHint.valueOf call (TypeHint.frame .reference attributes)
          ("_diff.Repr[" ++ field.typeText ++ "]") = (do
            let form ← StateT.run' (eval call (runtimeAttribute "Repr")) .ofModule
            let value ← StateT.run' (eval call meaning) written
            Operator.subscript call form value) := by
  obtain ⟨classes', again, made⟩ := read_eq_ok accepted
  cases again.symm.trans marked
  have given := (Block.ofClass_eq_ok (ofClass_of_mem_zip made among)).2
  have own : type.typeText text = .ok field.typeText :=
    (List.forall₂_iff_zip.1 (Field.typeText_of_ofClass given)).2 declares
  cases copied.symm.trans own
  rw [means, Option.map_some] at calls subscribes
  refine ⟨⟨_, calls, fun place ofIdentity =>
    eval_identityCall portable single runtime isWritten ofIdentity⟩, fun attributes free => ?_⟩
  obtain ⟨parsed, reads, content⟩ := Option.map_eq_some_iff.1 subscribes
  unfold TypeHint.valueOf
  rw [reads]
  dsimp only
  rw [content]
  exact eval_representation portable runtime isWritten free

/-- A marked class with a quoted type. -/
def quotedTemplate : Text :=
  "@diff\nclass P:\n    x: 'list[ int]'\n"

/-- A list of integers. -/
def listOfIntegers : Expr Unit :=
  .subscript () (.name () "list") (.name () "int")

/-- Whether an expression says that something is a list of integers. -/
def isListOfIntegers : Expr Unit → Bool
  | .subscript _ (.name _ "list") (.name _ "int") => true
  | _ => false

/-- Whether an expression asks the runtime for a list of integers to start from. -/
def isIdentityCall : Expr Unit → Bool
  | .call _ (.attribute _ (.name _ "_diff") "identity") [type] [] => isListOfIntegers type
  | _ => false

/-- Whether an expression is the form of the runtime for a list of integers. -/
def isRepresentation : Expr Unit → Bool
  | .subscript _ (.attribute _ (.name _ "_diff") "Repr") type => isListOfIntegers type
  | _ => false

theorem eq_listOfIntegers {expression : Expr Unit} (holds : isListOfIntegers expression = true) :
    expression = listOfIntegers := by
  unfold isListOfIntegers at holds
  split at holds
  · rfl
  · exact nomatch holds

theorem eq_of_isIdentityCall {expression : Expr Unit} (holds : isIdentityCall expression = true) :
    expression = .call () (runtimeAttribute "identity") [listOfIntegers] [] := by
  unfold isIdentityCall at holds
  split at holds
  · rw [eq_listOfIntegers holds]
    rfl
  · exact nomatch holds

theorem eq_of_isRepresentation {expression : Expr Unit} (holds : isRepresentation expression = true) :
    expression = .subscript () (runtimeAttribute "Repr") listOfIntegers := by
  unfold isRepresentation at holds
  split at holds
  · rw [eq_listOfIntegers holds]
    rfl
  · exact nomatch holds

/-- The quoted type of this class has the same value in the class body and for the runtime. -/
theorem typeMeaning_of_quotedTemplate :
    ∃ template classes definition block field type, read quotedTemplate = .ok template ∧
      template.module.markedClasses = .ok classes ∧
      (definition, block) ∈ classes.zip template.blocks ∧
      (field, type) ∈ block.fields.zip (definition.fieldTypes block.shape) ∧
      type.meaning? = some listOfIntegers ∧
      (∃ expression, (Code.startedByIndex field).meaning? = some expression ∧
        ∀ place : Frame, place.IsOfIdentity →
          StateT.run' (eval SessionContract.call expression) place = (do
            let function ← StateT.run'
              (eval SessionContract.call (runtimeAttribute "identity")) .ofModule
            let value ← StateT.run' (eval SessionContract.call listOfIntegers)
              (.ofClass "P" "P" false)
            SessionContract.call function ⟨[value], []⟩)) ∧
      ∀ attributes : Attributes, (∀ name, name ∉ ["__init__"] → attributes.get? name = none) →
        TypeHint.valueOf SessionContract.call (TypeHint.frame .reference attributes)
          ("_diff.Repr[" ++ field.typeText ++ "]") = (do
            let form ← StateT.run' (eval SessionContract.call (runtimeAttribute "Repr")) .ofModule
            let value ← StateT.run' (eval SessionContract.call listOfIntegers)
              (.ofClass "P" "P" false)
            Operator.subscript SessionContract.call form value) := by
  obtain ⟨template, classes, definition, block, accepted, marked, among, holds⟩ :=
    exists_markedClass (fun definition block =>
      (block.fields.zip (definition.fieldTypes block.shape)).any fun pair =>
        pair.2.meaning?.any isListOfIntegers &&
          (pair.2.typeText quotedTemplate).toOption.any fun copy =>
            ("_diff.identity(" ++ copy ++ ")" : Text).meaning?.any isIdentityCall &&
              ("_diff.Repr[" ++ copy ++ "]" : Text).meaning?.any isRepresentation)
      (show (read quotedTemplate).toOption.map _ = some true by decide +kernel)
  obtain ⟨⟨field, type⟩, declares, known⟩ := List.any_eq_true.1 holds
  simp only [Bool.and_eq_true, Option.any_eq_true] at known
  obtain ⟨⟨meaning, means, isList⟩, copy, copied, ⟨call, calls, isCall⟩, form, forms, isForm⟩ := known
  cases eq_listOfIntegers isList
  cases eq_of_isIdentityCall isCall
  cases eq_of_isRepresentation isForm
  have written : (Frame.ofClass "P" "P" false).IsWhereWritten ["__init__"] :=
    ⟨.inr rfl, fun _ _ => rfl⟩
  have ok : type.typeText quotedTemplate = .ok copy := by
    cases given : type.typeText quotedTemplate with
    | error error => simp [given, Except.toOption] at copied
    | ok found => simpa [given, Except.toOption] using copied
  exact ⟨template, classes, definition, block, field, type, accepted, marked, among, declares, means,
    typeMeaning_kept accepted marked among declares ok means (by rw [means, calls]; rfl)
      (by rw [means, forms]; rfl) (by decide) nofun (by decide) written⟩

/-- A marked class with a type that holds two spaces in a text. -/
def spacedTemplate : Text :=
  "@diff\nclass P:\n    x: NAMES['a  b']\n"

/-- A module that has a type under a name with two spaces. -/
def spacedWorld : World SessionContract :=
  { World.empty with
    objects := #[⟨.builtin .dictionary, .entries [(.text "a  b", .builtin .integer)], []⟩]
    module := [("NAMES", .object 0)] }

/-- What an expression gives in that module, in the body of a class or of a method. -/
def valueThere (place : Place) (expression : Expr Unit) : Except Failure Value :=
  (Run.outcome (StateT.run' (eval (Evaluation.callWithin SessionContract.behaviour 3) expression)
    { Frame.ofModule with place := place }) spacedWorld).1

/-- The type that a call hands on. -/
def givenType? : Expr Unit → Option (Expr Unit)
  | .call _ _ [type] [] => some type
  | _ => none

/-- Where this type is written it is a type that the runtime is never asked for: the copy of its text
looks for another name. -/
theorem typeMeaning_of_spacedTemplate :
    ∃ template classes definition block field type copy, read spacedTemplate = .ok template ∧
      template.module.markedClasses = .ok classes ∧
      (definition, block) ∈ classes.zip template.blocks ∧
      (field, type) ∈ block.fields.zip (definition.fieldTypes block.shape) ∧
      (Code.startedByIndex field).meaning?.bind givenType? = some copy ∧
      valueThere .classBody type.content = .ok (.builtin .integer) ∧
      valueThere (.function identityNames) copy = .error .missingKey := by
  obtain ⟨template, classes, definition, block, accepted, marked, among, holds⟩ :=
    exists_markedClass (fun definition block =>
      (block.fields.zip (definition.fieldTypes block.shape)).any fun pair =>
        ((Code.startedByIndex pair.1).meaning?.bind givenType?).any fun copy =>
          decide (valueThere .classBody pair.2.content = .ok (.builtin .integer) ∧
            valueThere (.function identityNames) copy = .error .missingKey))
      (show (read spacedTemplate).toOption.map _ = some true by decide +kernel)
  obtain ⟨⟨field, type⟩, declares, found⟩ := List.any_eq_true.1 holds
  obtain ⟨copy, given, values⟩ := (Option.any_eq_true _ _).1 found
  exact ⟨template, classes, definition, block, field, type, copy, accepted, marked, among, declares,
    given, of_decide_eq_true values⟩

end Template

end DifferenceTypes
