import DifferenceTypes.Proofs.Evaluation.Bases
import DifferenceTypes.Proofs.Generation.PositionalBase
import DifferenceTypes.Proofs.Syntax.Content
import DifferenceTypes.Session.Contract

/-!
# Fields of marked positional classes

The generator counts the types that the base of a positional class is written with; the runtime counts
the values in the brackets when the class statement runs. The difference class is written with one text
for each field, so it always has as many fields as the generator knows. The positional class itself has
as many if no type is written with a star and a single one is no tuple.

That `_diff.Positional` is the runtime's positional class, and that the base of the marked class is, is
a matter of what the template binds: it is asked of the values that these expressions have when the
class statements run.
-/

namespace DifferenceTypes

open Evaluation (SettlesCount callWithin run)
open Run (outcome)

variable {κ : Type}

/-! ### Types in brackets -/

namespace Expr

theorem isStarred_map {σ τ : Type} (change : σ → τ) (expression : Expr σ) :
    (expression.map change).isStarred = expression.isStarred := by
  cases expression <;> rfl

theorem elements_map {σ τ : Type} (change : σ → τ) (index : Expr σ) :
    (index.map change).elements = index.elements.map (Expr.map change) := by
  cases index with
  | tuple _ elements => exact mapAll_eq_map change elements
  | _ => rfl

end Expr

theorem Field.typesOfSubscript_eq (index : Expr) : typesOfSubscript index = index.elements := by
  cases index <;> rfl

namespace ExpressionGrammar

variable {σ : Type}

theorem isStarred_of_forall₂_isText {texts : List Text} {elements : List (Expr σ)}
    (all : List.Forall₂ (fun element text => IsText text element) elements texts) :
    ∀ element ∈ elements, element.isStarred = false := by
  induction all with
  | nil => exact fun _ among => nomatch among
  | cons isText _ inductionHypothesis =>
    intro element among
    rcases List.mem_cons.1 among with rfl | behind
    · obtain ⟨_, rfl⟩ := isText
      rfl
    · exact inductionHypothesis element behind

theorem isTuple_or_isText {texts : List Text} {index : Expr σ} (isSubscript : IsSubscriptBy texts index) :
    (∃ span elements, index = .tuple span elements) ∨ ∃ text, IsText text index := by
  match texts with
  | [text] => exact .inr ⟨text, isSubscript⟩
  | [] =>
    obtain ⟨span, elements, same, -⟩ := isSubscript
    exact .inl ⟨span, elements, same⟩
  | _ :: _ :: _ =>
    obtain ⟨span, elements, same, -⟩ := isSubscript
    exact .inl ⟨span, elements, same⟩

/-- A subscript by texts has one element for each text, and none of them is written with a star. -/
theorem elements_of_isSubscriptBy {texts : List Text} {index : Expr σ}
    (isSubscript : IsSubscriptBy texts index) :
    index.elements.length = texts.length ∧ ∀ element ∈ index.elements, element.isStarred = false := by
  match texts with
  | [text] =>
    obtain ⟨_, rfl⟩ := isSubscript
    exact ⟨rfl, fun element among => List.mem_singleton.1 among ▸ rfl⟩
  | [] =>
    obtain ⟨_, _, rfl, all⟩ := isSubscript
    exact ⟨all.length_eq, isStarred_of_forall₂_isText all⟩
  | _ :: _ :: _ =>
    obtain ⟨_, _, rfl, all⟩ := isSubscript
    exact ⟨all.length_eq, isStarred_of_forall₂_isText all⟩

end ExpressionGrammar

/-! ### Fields in brackets -/

/-- A class of positional shape has a base with a subscript, the first one that is known by its last name. -/
theorem ClassDefinition.exists_positionalBase {definition : ClassDefinition}
    (positional : definition.shape = .ok .positional) :
    ∃ before span owner index behind, definition.positionalBase? = some (.subscript span owner index) ∧
      definition.bases = before ++ .subscript span owner index :: behind ∧
      owner.tailName = positionalName ∧ ∀ base ∈ before, base.baseName ≠ positionalName := by
  unfold shape at positional
  obtain ⟨_, -, positional⟩ := Except.exists_of_bind_eq_ok positional
  split at positional
  · next span owner index base _ =>
    obtain ⟨named, before, behind, bases, none⟩ := List.find?_eq_some_iff_append.1 base
    refine ⟨before, span, owner, index, behind, base, bases, eq_of_beq named, fun other among => ?_⟩
    simpa using none other among
  all_goals exact nomatch positional

namespace Block

/-- The fields of a positional block are those of the types in the brackets of its base, numbered from
zero. -/
theorem fields_of_ofClass {text : Text} {display : List Text} {definition : ClassDefinition}
    {block : Block} (made : ofClass text display definition = .ok block)
    (positional : block.shape = .positional) {span : Span} {owner index : Expr}
    (base : definition.positionalBase? = some (.subscript span owner index)) :
    block.fields.length = index.elements.length ∧
      block.fields.map (·.index) = (List.range block.fields.length).map Int.ofNat := by
  obtain ⟨-, given⟩ := ofClass_eq_ok made
  rw [positional] at given
  unfold Field.ofClass at given
  simp only [base] at given
  rw [Field.typesOfSubscript_eq] at given
  obtain ⟨all, numbered⟩ := Field.ofTypes_eq_ok given
  rw [Field.AreNumbered, ← List.range_eq_range'] at numbered
  exact ⟨all.length_eq.symm, numbered⟩

end Block

namespace Template

/-- A positional class that comes from a marked class of a template has as many fields as its base has
values in the brackets when its class statement runs; these are as many as the generator knows, and it
knows them by the numbers from zero, if no type is written with a star and a single one is no tuple. Its
difference class always has as many fields as the generator knows. -/
theorem fieldCount_of_markedClass {text : Text} {template : Template}
    (accepted : read text = .ok template) {classes : List ClassDefinition}
    (marked : template.module.markedClasses = .ok classes) {definition : ClassDefinition}
    {block : Block} (among : (definition, block) ∈ classes.zip template.blocks)
    (positional : block.shape = .positional) (call : Caller κ) :
    block.fields.map (·.index) = (List.range block.fields.length).map Int.ofNat ∧
    (∃ before span owner index behind,
      definition.bases = before ++ .subscript span owner index :: behind ∧
      owner.tailName = positionalName ∧
      SettlesCount call definition.identifier (before.map Expr.content) owner.content index.content
        (behind.map Expr.content) fun place count =>
          count = (TypeForm.subscripts place).length ∧
          ((∀ element ∈ index.elements, element.isStarred = false) →
            (∀ items, place = .tuple items → ∃ span elements, index = .tuple span elements) →
            count = block.fields.length)) ∧
    ∃ index, ("_diff.Positional[" ++ Code.positionalTypes block.fields ++ "]" : Text).meaning? =
        some (.subscript () (runtimeAttribute "Positional") index) ∧
      ∀ identifier, SettlesCount call identifier [] (runtimeAttribute "Positional") index []
        fun _ count => count = block.fields.length := by
  obtain ⟨classes', again, made⟩ := read_eq_ok accepted
  cases again.symm.trans marked
  have ofClass := ofClass_of_mem_zip made among
  have shaped := (Block.ofClass_eq_ok ofClass).1
  rw [positional] at shaped
  obtain ⟨before, span, owner, index, behind, base, bases, named, -⟩ :=
    ClassDefinition.exists_positionalBase shaped
  obtain ⟨counted, numbered⟩ := Block.fields_of_ofClass ofClass positional base
  refine ⟨numbered, ⟨before, span, owner, index, behind, bases, named, ?_⟩, ?_⟩
  · intro keywords body decorators frame world flow after later ran
    obtain ⟨object, place, between, middle, values, settles⟩ :=
      Evaluation.settlesCount_of_subscript _ _ _ _ _ _ _ _ _ _ _ _ _ ran
    refine ⟨object, place, between, middle, values, fun isPositional => ?_⟩
    obtain ⟨count, leaves, exactly, asWritten⟩ := settles isPositional
    refine ⟨count, leaves, exactly, fun plain single => ?_⟩
    have contents := Expr.elements_map (fun _ => ()) index
    rw [counted, asWritten]
    · exact (congrArg List.length contents).trans (List.length_map _)
    · intro element there
      rw [Expr.content, contents] at there
      obtain ⟨written, inside, rfl⟩ := List.mem_map.1 there
      exact (written.isStarred_map _).trans (plain written inside)
    · intro items isTuple
      obtain ⟨span, elements, rfl⟩ := single items isTuple
      exact ⟨_, rfl⟩
  · obtain ⟨index, meaning, isSubscript⟩ := meaning?_positionalBase block.fields
    obtain ⟨length, plain⟩ := ExpressionGrammar.elements_of_isSubscriptBy isSubscript
    refine ⟨index, meaning, fun identifier keywords body decorators frame world flow after later ran => ?_⟩
    obtain ⟨object, place, between, middle, values, settles⟩ :=
      Evaluation.settlesCount_of_subscript _ _ _ _ _ _ _ _ _ _ _ _ _ ran
    refine ⟨object, place, between, middle, values, fun isPositional => ?_⟩
    obtain ⟨count, leaves, exactly, asWritten⟩ := settles isPositional
    refine ⟨count, leaves, ?_⟩
    rw [asWritten plain, length, quotedTypes, List.length_map]
    intro items isTuple
    rcases ExpressionGrammar.isTuple_or_isText isSubscript with ⟨_, elements, written⟩ | ⟨text, _, written⟩
    · exact ⟨elements, written⟩
    · obtain ⟨_, _, indexed⟩ := Evaluation.exists_of_baseValues values
      subst written isTuple
      unfold Evaluation.eval at indexed
      cases indexed

/-- Where the runtime and its positional class are known, and a tuple of two types. -/
def pairWorld : World SessionContract :=
  { World.empty with
    module := [("Positional", .builtin .positional), ("_diff", .library .runtime),
      ("T", .tuple [.builtin .integer, .builtin .text])] }

/-- A class statement with nothing in its body, run there. -/
def runBare (identifier : String) (bases : List (Expr Unit)) :
    Except Failure (Evaluation.Flow × Frame) × World SessionContract :=
  outcome (StateT.run (run (callWithin SessionContract.behaviour 1)
    (.classDefinition () identifier bases [] [.pass ()] [])) Frame.ofModule) pairWorld

/-- A positional class with two fields. -/
def pairTemplate : Text :=
  "@diff\nclass P(Positional[int, str]):\n    pass\n"

/-- Whether the only base is the positional class with two names in the brackets. -/
def isPairBase : List Expr → Bool
  | [.subscript _ (.name _ "Positional") (.tuple _ [.name _ _, .name _ _])] => true
  | _ => false

/-- Of the class with two fields, both the positional class and its difference class have two. -/
theorem fieldCount_of_pairTemplate :
    ∃ template classes definition block, read pairTemplate = .ok template ∧
      template.module.markedClasses = .ok classes ∧
      (definition, block) ∈ classes.zip template.blocks ∧
      block.shape = .positional ∧ block.fields.length = 2 ∧
      (∃ after later, Evaluation.LeavesPositional (callWithin SessionContract.behaviour 1)
        definition.identifier [.pass ()] 2 after later) ∧
      ∃ after later, Evaluation.LeavesPositional (callWithin SessionContract.behaviour 1)
        "PDiff" [.pass ()] 2 after later := by
  obtain ⟨template, classes, definition, block, accepted, marked, among, holds⟩ :=
    exists_markedClass (fun definition block =>
      isPairBase definition.bases && block.shape == .positional && block.fields.length == 2 &&
      (runBare definition.identifier (definition.bases.map Expr.content)).1.toOption.isSome &&
      ("_diff.Positional[" ++ Code.positionalTypes block.fields ++ "]" : Text).meaning?.any fun base =>
        (runBare "PDiff" [base]).1.toOption.isSome)
      (show (read pairTemplate).toOption.map _ = some true by decide +kernel)
  simp only [Bool.and_eq_true, beq_iff_eq] at holds
  obtain ⟨⟨⟨⟨isPair, positional⟩, length⟩, succeeds⟩, differenceSucceeds⟩ := holds
  obtain ⟨-, ⟨before, span, owner, index, behind, bases, -, settles⟩, written, meaning, settlesDifference⟩ :=
    fieldCount_of_markedClass accepted marked among positional (callWithin SessionContract.behaviour 1)
  have known {owner index : Expr Unit} {object place : Value} {between : Frame}
      {middle : World SessionContract}
      (evaluates : outcome (StateT.run (Evaluation.eval (callWithin SessionContract.behaviour 1)
        owner) Frame.ofModule) pairWorld = (.ok (.builtin .positional, Frame.ofModule), pairWorld))
      (values : outcome (StateT.run (Evaluation.baseValues (callWithin SessionContract.behaviour 1) [] []
        owner index) Frame.ofModule) pairWorld = (.ok ((object, place), between), middle)) :
      object = .builtin .positional := by
    have opened : Evaluation.evalAll (callWithin SessionContract.behaviour 1) [] = pure [] := by
      unfold Evaluation.evalAll
      rfl
    unfold Evaluation.baseValues at values
    rw [opened, pure_bind, pure_bind, Evaluation.outcome_bind_of_ok _ evaluates] at values
    obtain ⟨_, _, _, -, values⟩ := Evaluation.exists_of_bind_eq_ok values
    cases values
    rfl
  refine ⟨template, classes, definition, block, accepted, marked, among, positional, length, ?_, ?_⟩
  · unfold isPairBase at isPair
    split at isPair
    · next same =>
      rw [same] at bases succeeds
      obtain ⟨rfl, only⟩ | ⟨-, impossible⟩ := List.append_eq_singleton_iff.1 bases.symm
      · cases only
        rcases ran : runBare definition.identifier _ with ⟨failure | ⟨flow, between⟩, after⟩
        · exact nomatch ran ▸ succeeds
        obtain ⟨object, place, _, _, values, leaves⟩ := settles _ _ _ _ _ _ _ _ ran
        obtain ⟨count, leaves, -, exactly⟩ := leaves (known rfl values)
        rw [exactly (by simp [Expr.elements, Expr.isStarred]) fun _ _ => ⟨_, _, rfl⟩, length] at leaves
        exact ⟨_, _, leaves⟩
      · exact nomatch impossible
    · exact nomatch isPair
  · rw [meaning, Option.any_some] at differenceSucceeds
    rcases ran : runBare "PDiff" _ with ⟨failure | ⟨flow, between⟩, after⟩
    · exact nomatch ran ▸ differenceSucceeds
    obtain ⟨object, place, _, _, values, leaves⟩ := settlesDifference _ _ _ _ _ _ _ _ _ ran
    obtain ⟨count, leaves, rfl⟩ := leaves (known rfl values)
    exact ⟨_, _, length ▸ leaves⟩

/-- A positional class whose base has a star in the brackets. -/
def starredTemplate : Text :=
  "@diff\nclass P(Positional[*T]):\n    pass\n"

/-- With a star in the brackets the generator knows one field, and so does the difference class, where
the positional class has two. -/
theorem fieldCount_of_starredTemplate :
    ∃ template classes definition block, read starredTemplate = .ok template ∧
      template.module.markedClasses = .ok classes ∧
      (definition, block) ∈ classes.zip template.blocks ∧
      block.shape = .positional ∧ block.fields.length = 1 ∧
      Positional.arityOf (runBare definition.identifier (definition.bases.map Expr.content)).2
        (.defined 0) = .integer 2 ∧
      ∃ base, ("_diff.Positional[" ++ Code.positionalTypes block.fields ++ "]" : Text).meaning? =
          some base ∧
        Positional.arityOf (runBare "PDiff" [base]).2 (.defined 0) = .integer 1 := by
  obtain ⟨template, classes, definition, block, accepted, marked, among, holds⟩ :=
    exists_markedClass (fun definition block =>
      block.shape == .positional && block.fields.length == 1 &&
      (Positional.arityOf (runBare definition.identifier (definition.bases.map Expr.content)).2
        (.defined 0)).same (.integer 2) &&
      ("_diff.Positional[" ++ Code.positionalTypes block.fields ++ "]" : Text).meaning?.any fun base =>
        (Positional.arityOf (runBare "PDiff" [base]).2 (.defined 0)).same (.integer 1))
      (show (read starredTemplate).toOption.map _ = some true by decide +kernel)
  simp only [Bool.and_eq_true, beq_iff_eq, Value.same_iff] at holds
  obtain ⟨⟨⟨positional, length⟩, two⟩, difference⟩ := holds
  obtain ⟨base, meaning, one⟩ := (Option.any_eq_true _ _).1 difference
  exact ⟨template, classes, definition, block, accepted, marked, among, positional, length, two, base,
    meaning, (Value.same_iff _ _).1 one⟩

end Template

end DifferenceTypes
