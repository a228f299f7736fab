import DifferenceTypes.Proofs.Template.PositionalFields
import DifferenceTypes.Proofs.Template.RecordFields

/-!
# Shapes and fields

The shape of a class and its fields are found by going through its bases and its body twice. Wherever
both are found they fit: a class is named if a statement of its body declares a field and no base is
`Positional`, and its fields are what these statements declare, in their order; it is positional if a
base is `Positional`, and then nothing in its body declares a field, and its fields are the types in the
brackets of the first such base; every other class is a unit without fields.

A statement declares a field if it declares a type for a name, in parentheses or not, and the type is not
spelled like one that makes no field (`Stmt.DeclaresField`).
-/

namespace DifferenceTypes

/-- What a statement declares a field by: a name and a type that is not spelled like one that makes no
field. -/
inductive Stmt.DeclaresField : Stmt → String → Expr → Prop
  | declare {span place : Span} {name : String} {type : Expr} {value : Option Expr} {simple : Bool}
    (counts : type.isFieldless = false) :
    DeclaresField (.declare span (.name place name) type value simple) name type

/-- A statement declares a field exactly if it is taken for one that does. -/
theorem Stmt.field?_eq_some_iff {statement : Stmt} {name : String} {type : Expr} :
    (∃ span, statement.field? = some ⟨span, name, type⟩) ↔ statement.DeclaresField name type := by
  refine ⟨fun ⟨span, found⟩ => ?_, fun declares => ?_⟩
  · unfold field? at found
    split at found
    · split at found
      · exact nomatch found
      · next counts =>
        cases found
        exact .declare (Bool.eq_false_iff.2 counts)
    · exact nomatch found
  · cases declares with
    | @declare span _ _ _ _ _ counts => exact ⟨span, by simp [field?, counts]⟩

theorem Stmt.not_declaresField {statement : Stmt} (none : statement.field? = .none) (name : String)
    (type : Expr) : ¬statement.DeclaresField name type := by
  intro declares
  obtain ⟨span, found⟩ := Stmt.field?_eq_some_iff.2 declares
  exact nomatch none.symm.trans found

/-- Fields that are read off the statements of a body: each statement that declares a field gives one,
with its name, the text of its type and the number of the fields before it, and no other statement gives
any. -/
inductive Field.AreReadOff (text : Text) : Nat → List Stmt → List Field → Prop
  | nil {count : Nat} : AreReadOff text count [] []
  | field {count : Nat} {statement : Stmt} {name : String} {type : Expr} {typeText : Text} {rest : List Stmt}
    {fields : List Field} (declares : statement.DeclaresField name type)
    (isText : type.typeText text = .ok typeText) (behind : AreReadOff text (count + 1) rest fields) :
    AreReadOff text count (statement :: rest) (⟨Text.ofString name, count, typeText⟩ :: fields)
  | other {count : Nat} {statement : Stmt} {rest : List Stmt} {fields : List Field}
    (declaresNone : ∀ name type, ¬statement.DeclaresField name type)
    (behind : AreReadOff text count rest fields) : AreReadOff text count (statement :: rest) fields

/-- Fields of the declarations among statements are read off these statements. -/
theorem Field.areReadOff_of_areDeclared {text : Text} {count : Nat} {statements : List Stmt} {fields : List Field}
    (all : List.Forall₂ (IsDeclared text) (statements.filterMap Stmt.field?) fields)
    (numbered : AreNumbered count fields) : AreReadOff text count statements fields := by
  induction statements generalizing count fields with
  | nil =>
    cases all
    exact .nil
  | cons first rest inductionHypothesis =>
    cases found : first.field? with
    | none =>
      rw [List.filterMap_cons_none found] at all
      exact .other (Stmt.not_declaresField found) (inductionHypothesis all numbered)
    | some declaration =>
      rw [List.filterMap_cons_some found] at all
      obtain ⟨⟨name, index, typeText⟩, others, declared, behind, rfl⟩ := List.forall₂_cons_left_iff.1 all
      obtain ⟨rfl, numberedBehind⟩ := areNumbered_cons_iff.1 numbered
      obtain rfl : name = Text.ofString declaration.name := declared.name
      exact .field (Stmt.field?_eq_some_iff.1 ⟨declaration.span, found⟩) declared.typeText
        (inductionHypothesis behind numberedBehind)

namespace ClassDefinition

variable {definition : ClassDefinition} {text : Text} {shape : Shape} {fields : List Field}

/-- Whether a statement of the body declares a field. -/
def DeclaresFields (definition : ClassDefinition) : Prop :=
  ∃ statement ∈ definition.body, ∃ name type, statement.DeclaresField name type

/-- Whether a base is `Positional`. -/
def HasPositionalBase (definition : ClassDefinition) : Prop :=
  ∃ base ∈ definition.bases, base.baseName = "Positional"

/-- The fields of a class by its shape. -/
def HasFields (definition : ClassDefinition) (text : Text) (fields : List Field) : Shape → Prop
  | .named =>
    Field.AreReadOff text 0 definition.body fields ∧ 1 ≤ fields.length ∧
      (fields.map (·.name)).Nodup ∧
      ∀ field ∈ fields, ∃ name, field.name = Text.ofString name ∧ ∀ owner, Frame.keptName owner name = name
  | .positional =>
    ∃ before span owner index behind,
      definition.bases = before ++ .subscript span owner index :: behind ∧
      owner.tailName = "Positional" ∧ (∀ base ∈ before, base.baseName ≠ "Positional") ∧
      List.Forall₂ (Field.IsPositional text) index.elements fields
  | .unit => fields = []

/-- A base that is let through has one of three names. -/
theorem baseName_of_checkBase {base : Expr} (checked : definition.checkBase base = .ok ()) :
    base.baseName = "object" ∨ base.baseName = "Generic" ∨ base.baseName = "Positional" := by
  unfold checkBase at checked
  split at checked
  · exact nomatch checked
  split at checked
  · obtain ⟨_, -, checked⟩ := Except.exists_of_bind_eq_ok checked
    exact nomatch checked
  next known =>
    simpa [fieldlessBases, positionalName, or_assoc, imp_iff_not_or] using known

theorem baseName_of_shape (shaped : definition.shape = .ok shape) :
    ∀ base ∈ definition.bases,
      base.baseName = "object" ∨ base.baseName = "Generic" ∨ base.baseName = "Positional" := by
  unfold ClassDefinition.shape at shaped
  obtain ⟨⟨⟩, checked, -⟩ := Except.exists_of_bind_eq_ok shaped
  exact fun base among => baseName_of_checkBase (Except.eq_ok_of_mem_forM checked among)

theorem declarations_eq_nil_iff : definition.declarations = [] ↔ ¬definition.DeclaresFields := by
  unfold declarations
  rw [List.filterMap_eq_nil_iff]
  refine ⟨fun none ⟨statement, among, name, type, declares⟩ => ?_, fun noField statement among => ?_⟩
  · exact Stmt.not_declaresField (none statement among) name type declares
  · cases found : statement.field? with
    | none => rfl
    | some declaration =>
      exact absurd ⟨statement, among, _, _, Stmt.field?_eq_some_iff.1 ⟨declaration.span, found⟩⟩ noField

theorem positionalBase?_eq_none_iff : definition.positionalBase? = none ↔ ¬definition.HasPositionalBase := by
  simp [positionalBase?, HasPositionalBase, positionalName]

/-- The three ways to a shape. -/
theorem cases_of_shape (shaped : definition.shape = .ok shape) :
    (shape = .named ∧ definition.DeclaresFields ∧ ¬definition.HasPositionalBase) ∨
      (shape = .positional ∧ ¬definition.DeclaresFields ∧ definition.HasPositionalBase) ∨
      (shape = .unit ∧ ¬definition.DeclaresFields ∧ ¬definition.HasPositionalBase) := by
  rw [← declarations_eq_nil_iff, ← positionalBase?_eq_none_iff]
  unfold ClassDefinition.shape at shaped
  obtain ⟨_, -, shaped⟩ := Except.exists_of_bind_eq_ok shaped
  split at shaped
  · next base none =>
    cases shaped
    have isPositional : definition.HasPositionalBase :=
      not_not.1 fun noBase => nomatch base.symm.trans (positionalBase?_eq_none_iff.2 noBase)
    exact .inr (.inl ⟨rfl, none, isPositional⟩)
  · exact nomatch shaped
  · exact nomatch shaped
  · next noBase none =>
    cases shaped
    exact .inr (.inr ⟨rfl, none, noBase⟩)
  · next noBase some =>
    cases shaped
    refine .inl ⟨rfl, not_not.1 fun none => ?_, noBase⟩
    exact nomatch some.symm.trans (declarations_eq_nil_iff.2 none)

theorem hasFields_named (declares : definition.DeclaresFields)
    (given : Field.ofClass text definition .named = .ok fields) :
    Field.AreNumbered 0 fields ∧ definition.HasFields text fields .named := by
  obtain ⟨all, numbered, distinct⟩ := Field.ofDeclarations_eq_ok given
  obtain ⟨names, isPublic⟩ := Field.names_of_areDeclared all
  refine ⟨numbered, Field.areReadOff_of_areDeclared all numbered, ?_, distinct, fun field among => ?_⟩
  · rw [← all.length_eq, Nat.one_le_iff_ne_zero, ne_eq, List.length_eq_zero_iff, declarations_eq_nil_iff]
    exact not_not.2 declares
  · have named := List.mem_map_of_mem (f := (·.name)) among
    rw [names] at named
    obtain ⟨declaration, isDeclared, same⟩ := List.mem_map.1 named
    exact ⟨declaration.name, same.symm, fun owner => Frame.keptName_of_public owner (isPublic _ isDeclared)⟩

theorem hasFields_positional (shaped : definition.shape = .ok .positional)
    (given : Field.ofClass text definition .positional = .ok fields) :
    Field.AreNumbered 0 fields ∧ definition.HasFields text fields .positional := by
  obtain ⟨before, span, owner, index, behind, base, bases, named, first⟩ := exists_positionalBase shaped
  simp only [Field.ofClass, base, Field.typesOfSubscript_eq] at given
  obtain ⟨all, numbered⟩ := Field.ofTypes_eq_ok given
  exact ⟨numbered, before, span, owner, index, behind, bases, named, first, all⟩

/-- Where the shape of a class and its fields are found, they fit each other and the class: the shape is told
by whether the body declares fields and whether a base is `Positional`, which are never both so, and the
fields, numbered from zero, are those of a class of that shape. -/
theorem fields_of_shape (shaped : definition.shape = .ok shape)
    (given : Field.ofClass text definition shape = .ok fields) :
    (∀ base ∈ definition.bases,
      base.baseName = "object" ∨ base.baseName = "Generic" ∨ base.baseName = "Positional") ∧
    (shape = .named ↔ definition.DeclaresFields ∧ ¬definition.HasPositionalBase) ∧
    (shape = .positional ↔ definition.HasPositionalBase) ∧
    (shape = .unit ↔ ¬definition.DeclaresFields ∧ ¬definition.HasPositionalBase) ∧
    (shape = .positional → ¬definition.DeclaresFields) ∧
    Field.AreNumbered 0 fields ∧ definition.HasFields text fields shape := by
  refine ⟨baseName_of_shape shaped, ?_⟩
  rcases cases_of_shape shaped with ⟨rfl, declares, noBase⟩ | ⟨rfl, declaresNone, isPositional⟩ |
    ⟨rfl, declaresNone, noBase⟩
  · have hasFields := hasFields_named declares given
    simp [declares, noBase, hasFields]
  · have hasFields := hasFields_positional shaped given
    simp [declaresNone, isPositional, hasFields]
  · cases given
    simp [declaresNone, noBase, HasFields, Field.AreNumbered]

end ClassDefinition

/-- A marked class that declares two fields and a class variable between them. -/
def Template.mixedTemplate : Text :=
  "@diff\nclass P(Generic[T]):\n    x: int\n    n: ClassVar[int] = 0\n    y: 'list[ P ]'\n"

/-- The class is named, and its fields are those two. -/
theorem ClassDefinition.fields_of_mixedTemplate :
    ∃ template classes definition block, Template.read Template.mixedTemplate = .ok template ∧
      template.module.markedClasses = .ok classes ∧ (definition, block) ∈ classes.zip template.blocks ∧
      definition.shape = .ok .named ∧
      Field.ofClass Template.mixedTemplate definition .named = .ok block.fields ∧
      block.fields = [⟨"x", 0, "int"⟩, ⟨"y", 1, "list[ P ]"⟩] ∧
      definition.DeclaresFields ∧ ¬definition.HasPositionalBase ∧
      definition.HasFields Template.mixedTemplate block.fields .named := by
  obtain ⟨template, classes, definition, block, accepted, marked, among, holds⟩ :=
    Template.exists_markedClass (fun _ block => block.shape == .named &&
      block.fields == [⟨"x", 0, "int"⟩, ⟨"y", 1, "list[ P ]"⟩])
      (show (Template.read Template.mixedTemplate).toOption.map _ = some true by decide +kernel)
  simp only [Bool.and_eq_true, beq_iff_eq] at holds
  obtain ⟨named, fields⟩ := holds
  obtain ⟨classes', again, made⟩ := Template.read_eq_ok accepted
  cases again.symm.trans marked
  obtain ⟨shaped, given⟩ := Block.ofClass_eq_ok (Template.ofClass_of_mem_zip made among)
  rw [named] at shaped given
  obtain ⟨-, isNamed, -, -, -, -, hasFields⟩ := fields_of_shape shaped given
  exact ⟨template, classes, definition, block, accepted, marked, among, shaped, given, fields,
    (isNamed.1 rfl).1, (isNamed.1 rfl).2, hasFields⟩

end DifferenceTypes
