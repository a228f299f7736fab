import DifferenceTypes.Proofs.Object.Derivation
import DifferenceTypes.Template.Field
import Mathlib.Data.List.Forall2
import Mathlib.Data.List.Nodup

/-!
# Fields one by one

The fields of a class are made one after the other, from the declarations of its body or from the types
in the brackets of its base. Each has the text of its own type and is numbered by those before it. A
declared field has the declared name, which is not private and was not declared before; a field by
position has no name.
-/

namespace DifferenceTypes.Field

/-- A field that comes from a declaration. -/
structure IsDeclared (text : Text) (declaration : Declaration) (field : Field) : Prop where
  name : field.name = Text.ofString declaration.name
  typeText : declaration.type.typeText text = .ok field.typeText
  isPublic : isPrivateName declaration.name = false

/-- A field that comes from a type in brackets. -/
structure IsPositional (text : Text) (type : Expr) (field : Field) : Prop where
  name : field.name = []
  typeText : type.typeText text = .ok field.typeText

/-- Fields are numbered one by one from a number on. -/
def AreNumbered (start : Nat) (fields : List Field) : Prop :=
  fields.map (·.index) = (List.range' start fields.length).map Int.ofNat

theorem areNumbered_cons_iff {start : Nat} {field : Field} {rest : List Field} :
    AreNumbered start (field :: rest) ↔ field.index = start ∧ AreNumbered (start + 1) rest := by
  unfold AreNumbered
  rw [List.map_cons, List.length_cons, List.range'_succ, List.map_cons, List.cons.injEq]
  rfl

variable {text : Text} {className : String} {fields after : List Field}

/-- A declaration adds one field behind the others, with a name that none of them has. -/
theorem addDeclared_eq_ok {declaration : Declaration}
    (added : addDeclared text className fields declaration = .ok after) :
    ∃ field, after = fields ++ [field] ∧ IsDeclared text declaration field ∧
      field.index = fields.length ∧ field.name ∉ fields.map (·.name) := by
  unfold addDeclared at added
  split at added
  · exact nomatch added
  next isPublic =>
  split at added
  · exact nomatch added
  next isNew =>
  obtain ⟨typeText, copied, added⟩ := Except.exists_of_bind_eq_ok added
  cases added
  refine ⟨_, rfl, ⟨rfl, copied, by simpa using isPublic⟩, rfl, fun among => isNew ?_⟩
  obtain ⟨other, inside, same⟩ := List.mem_map.1 among
  exact List.any_eq_true.2 ⟨other, inside, beq_iff_eq.2 same⟩

/-- Declarations add a field each. Names that differ among the fields so far differ among all of them. -/
theorem foldlM_addDeclared_eq_ok {declarations : List Declaration}
    (added : declarations.foldlM (addDeclared text className) fields = .ok after) :
    ∃ behind, after = fields ++ behind ∧ List.Forall₂ (IsDeclared text) declarations behind ∧
      AreNumbered fields.length behind ∧
      ((fields.map (·.name)).Nodup → (after.map (·.name)).Nodup) := by
  induction declarations generalizing fields with
  | nil =>
    cases added
    exact ⟨[], (List.append_nil _).symm, .nil, rfl, id⟩
  | cons first rest inductionHypothesis =>
    rw [List.foldlM_cons] at added
    obtain ⟨between, one, others⟩ := Except.exists_of_bind_eq_ok added
    obtain ⟨field, rfl, declared, index, isNew⟩ := addDeclared_eq_ok one
    obtain ⟨behind, rfl, all, numbered, distinct⟩ := inductionHypothesis others
    rw [List.length_append, List.length_singleton] at numbered
    refine ⟨field :: behind, List.append_assoc .., .cons declared all, areNumbered_cons_iff.2 ⟨index, numbered⟩,
      fun before => distinct ?_⟩
    rw [List.map_append, List.map_singleton, ← List.concat_eq_append]
    exact before.concat isNew

/-- Fields by name are those of the declarations, in their order, with different names. -/
theorem ofDeclarations_eq_ok {declarations : List Declaration}
    (made : ofDeclarations text className declarations = .ok fields) :
    List.Forall₂ (IsDeclared text) declarations fields ∧ AreNumbered 0 fields ∧
      (fields.map (·.name)).Nodup := by
  obtain ⟨behind, rfl, all, numbered, distinct⟩ := foldlM_addDeclared_eq_ok made
  exact ⟨all, numbered, distinct .nil⟩

/-- Declared fields have the names of their declarations, none of which is private. -/
theorem names_of_areDeclared {declarations : List Declaration}
    (all : List.Forall₂ (IsDeclared text) declarations fields) :
    fields.map (·.name) = declarations.map (Text.ofString ·.name) ∧
      ∀ declaration ∈ declarations, isPrivateName declaration.name = false := by
  induction all with
  | nil => exact ⟨rfl, nofun⟩
  | cons first _ inductionHypothesis =>
    obtain ⟨names, isPublic⟩ := inductionHypothesis
    exact ⟨by rw [List.map_cons, List.map_cons, first.name, names], List.forall_mem_cons.2 ⟨first.isPublic, isPublic⟩⟩

/-- Fields by position are those of the types, in their order. -/
theorem ofTypes_eq_ok {types : List Expr} (made : ofTypes text types = .ok fields) :
    List.Forall₂ (IsPositional text) types fields ∧ AreNumbered 0 fields := by
  suffices ∀ start, (types.zipIdx start).mapM (fun place =>
      return (⟨[], place.2, ← Expr.typeText text place.1⟩ : Field)) = .ok fields →
      List.Forall₂ (IsPositional text) types fields ∧ AreNumbered start fields from this 0 made
  clear made
  intro start made
  induction types generalizing fields start with
  | nil =>
    cases made
    exact ⟨.nil, rfl⟩
  | cons first rest inductionHypothesis =>
    rw [List.zipIdx_cons, List.mapM_cons] at made
    obtain ⟨field, one, made⟩ := Except.exists_of_bind_eq_ok made
    obtain ⟨typeText, copied, one⟩ := Except.exists_of_bind_eq_ok one
    obtain ⟨others, allOthers, made⟩ := Except.exists_of_bind_eq_ok made
    cases one
    cases made
    obtain ⟨all, numbered⟩ := inductionHypothesis _ allOthers
    exact ⟨.cons ⟨rfl, copied⟩ all, areNumbered_cons_iff.2 ⟨rfl, numbered⟩⟩

end DifferenceTypes.Field
