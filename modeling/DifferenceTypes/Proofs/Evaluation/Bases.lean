import DifferenceTypes.Proofs.Evaluation.ClassBody
import DifferenceTypes.Proofs.Object.Arity

/-!
# Bases with a subscript

What a base with a subscript comes down to when a class statement runs: its two parts are evaluated
after the decorators and the bases before it, and the class is derived from what the one makes of the
other. If the one is the positional class, the derived class has as many fields as the other has
elements, which are as many as the subscript is written with unless it has a star in it or is a single
expression that evaluates to a tuple.
-/

namespace DifferenceTypes

open Run (outcome)

variable {κ : Type}

/-- Whether an expression is written with a star in front. -/
def Expr.isStarred {σ : Type} : Expr σ → Bool
  | .starred .. => true
  | _ => false

/-- The expressions in the brackets of a subscript: those of a tuple, or a single one. -/
def Expr.elements {σ : Type} : Expr σ → List (Expr σ)
  | .tuple _ elements => elements
  | single => [single]

namespace Evaluation

variable {call : Caller κ}

/-! ### Lists of expressions -/

theorem evalAll_cons {first : Expr Unit} (plain : first.isStarred = false) (rest : List (Expr Unit)) :
    evalAll call (first :: rest) = (do
      let value ← eval call first
      return value :: (← evalAll call rest)) := by
  cases first with
  | starred => cases plain
  | _ =>
    rw [evalAll]
    intro _ _ same
    cases same

theorem evalAll_append (front behind : List (Expr Unit)) :
    evalAll call (front ++ behind) = (do
      let first ← evalAll call front
      let second ← evalAll call behind
      return first ++ second) := by
  induction front with
  | nil => simp [evalAll]
  | cons expression rest inductionHypothesis =>
    cases starred : expression.isStarred with
    | false =>
      rw [List.cons_append, evalAll_cons starred, evalAll_cons starred, inductionHypothesis]
      simp
    | true =>
      cases expression with
      | starred _ value =>
        rw [List.cons_append, evalAll, evalAll, inductionHypothesis]
        simp only [bind_assoc, pure_bind, List.append_assoc]
      | _ => cases starred

/-- Expressions without stars have one value each. -/
theorem length_evalAll {expressions : List (Expr Unit)}
    (plain : ∀ expression ∈ expressions, expression.isStarred = false) {frame after : Frame}
    {world later : World κ} {values : List Value}
    (ran : outcome (StateT.run (evalAll call expressions) frame) world = (.ok (values, after), later)) :
    values.length = expressions.length := by
  induction expressions generalizing frame world values with
  | nil =>
    unfold evalAll at ran
    cases ran
    rfl
  | cons first rest inductionHypothesis =>
    rw [evalAll_cons (plain first List.mem_cons_self)] at ran
    obtain ⟨value, between, middle, -, ran⟩ := exists_of_bind_eq_ok ran
    obtain ⟨others, between, middle, later, ran⟩ := exists_of_bind_eq_ok ran
    cases ran
    have counted := inductionHypothesis
      (fun expression among => plain expression (List.mem_cons_of_mem _ among)) later
    rw [List.length_cons, List.length_cons, counted]

/-! ### Subscripts -/

/-- A subscript without stars that evaluates to a tuple only if it is written as one has as many
elements as it is written with. -/
theorem length_subscripts {index : Expr Unit} {frame after : Frame} {world later : World κ}
    {place : Value} (plain : ∀ element ∈ index.elements, element.isStarred = false)
    (single : ∀ items, place = .tuple items → ∃ elements, index = .tuple () elements)
    (ran : outcome (StateT.run (eval call index) frame) world = (.ok (place, after), later)) :
    (TypeForm.subscripts place).length = index.elements.length := by
  by_cases isTuple : ∃ elements, index = .tuple () elements
  · obtain ⟨elements, rfl⟩ := isTuple
    unfold eval at ran
    obtain ⟨values, between, middle, evaluated, ran⟩ := exists_of_bind_eq_ok ran
    cases ran
    exact length_evalAll plain evaluated
  · have one : index.elements = [index] := by
      cases index with
      | tuple _ elements => exact absurd ⟨elements, rfl⟩ isTuple
      | _ => rfl
    have alone : TypeForm.subscripts place = [place] := by
      cases place with
      | tuple items => exact absurd (single items rfl) isTuple
      | _ => rfl
    rw [one, alone]
    rfl

/-- The positional class with a subscript is a type expression that keeps the subscript's elements. -/
theorem subscript_positional (place : Value) :
    Operator.subscript call (.builtin .positional) place =
      (do let _ ← get; return .subscribed (.builtin .positional) (TypeForm.subscripts place)) := rfl

/-! ### Bases of class statements -/

/-- The values of the two parts of a base with a subscript, behind the decorators and the bases before
it. -/
def baseValues (call : Caller κ) (decorators before : List (Expr Unit)) (owner index : Expr Unit) :
    Evaluation κ (Value × Value) := do
  let _ ← evalAll call decorators
  let _ ← evalAll call before
  let object ← eval call owner
  let place ← eval call index
  return (object, place)

theorem exists_of_baseValues {decorators before : List (Expr Unit)} {owner index : Expr Unit}
    {frame after : Frame} {world later : World κ} {object place : Value}
    (ran : outcome (StateT.run (baseValues call decorators before owner index) frame) world =
      (.ok ((object, place), after), later)) :
    ∃ between middle, outcome (StateT.run (eval call index) between) middle =
      (.ok (place, after), later) := by
  unfold baseValues at ran
  obtain ⟨_, _, _, -, ran⟩ := exists_of_bind_eq_ok ran
  obtain ⟨_, _, _, -, ran⟩ := exists_of_bind_eq_ok ran
  obtain ⟨_, _, _, -, ran⟩ := exists_of_bind_eq_ok ran
  obtain ⟨_, _, _, indexed, ran⟩ := exists_of_bind_eq_ok ran
  cases ran
  exact ⟨_, _, indexed⟩

/-- If the bases of a class statement have values, so do the two parts of one with a subscript. If it
is the positional class, its value is among those of the bases. -/
theorem exists_baseValues {decorators before behind : List (Expr Unit)} {owner index : Expr Unit}
    {frame after : Frame} {world later : World κ} {applied written : List Value}
    (ran : outcome (StateT.run
      (headValues call decorators (before ++ .subscript () owner index :: behind)) frame) world =
        (.ok ((applied, written), after), later)) :
    ∃ object place between middle,
      outcome (StateT.run (baseValues call decorators before owner index) frame) world =
        (.ok ((object, place), between), middle) ∧
      (object = .builtin .positional → ∃ front back,
        written = front ++ .subscribed (.builtin .positional) (TypeForm.subscripts place) :: back) := by
  unfold headValues at ran
  obtain ⟨_, _, _, decorated, ran⟩ := exists_of_bind_eq_ok ran
  obtain ⟨_, _, _, bases, ran⟩ := exists_of_bind_eq_ok ran
  cases ran
  rw [evalAll_append] at bases
  obtain ⟨front, _, _, earlier, bases⟩ := exists_of_bind_eq_ok bases
  obtain ⟨_, _, _, others, bases⟩ := exists_of_bind_eq_ok bases
  cases bases
  rw [evalAll_cons rfl] at others
  obtain ⟨value, _, _, base, others⟩ := exists_of_bind_eq_ok others
  obtain ⟨rest, _, _, -, others⟩ := exists_of_bind_eq_ok others
  cases others
  unfold eval at base
  obtain ⟨object, _, _, owned, base⟩ := exists_of_bind_eq_ok base
  obtain ⟨place, between, middle, indexed, base⟩ := exists_of_bind_eq_ok base
  obtain ⟨base, -⟩ := inWorld_eq_ok base
  refine ⟨object, place, between, middle, ?_, ?_⟩
  · unfold baseValues
    rw [outcome_bind_of_ok _ decorated, outcome_bind_of_ok _ earlier, outcome_bind_of_ok _ owned,
      outcome_bind_of_ok _ indexed]
    rfl
  · rintro rfl
    rw [subscript_positional] at base
    cases base
    exact ⟨front, rest, rfl⟩

/-- What a class statement leaves behind: what its decorators made of a positional class that it derived
with a number of fields. An instance of this class takes exactly so many items. -/
def LeavesPositional (call : Caller κ) (identifier : String) (body : List (Stmt Unit)) (count : Nat)
    (after : Frame) (later : World κ) : Prop :=
  ∃ number record derived, IsDerivedBy call identifier body number record derived ∧
    Positional.arityOf derived (.defined number) = .integer count ∧
    (∀ self items, derived.classOf self = .defined number →
      ((∃ last, outcome (Positional.checkCount call self items) derived = (.ok (), last)) ↔
        items.length = count)) ∧
    ∃ applied value decorated between,
      outcome (decorate call (.ofClass (.defined number)) applied) derived = (.ok value, decorated) ∧
      outcome (StateT.run (setName identifier value) between) decorated = (.ok ((), after), later)

/-- What is known of each run of a class statement that has a base with a subscript: the two parts of
the base have values, and if the one is the positional class, the class that is derived has a number of
fields that is right for the value of the other. -/
def SettlesCount (call : Caller κ) (identifier : String) (before : List (Expr Unit))
    (owner index : Expr Unit) (behind : List (Expr Unit)) (right : Value → Nat → Prop) : Prop :=
  ∀ keywords body decorators frame world flow after later,
    outcome (StateT.run (run call (.classDefinition () identifier
      (before ++ .subscript () owner index :: behind) keywords body decorators)) frame) world =
        (.ok (flow, after), later) →
    ∃ object place between middle,
      outcome (StateT.run (baseValues call decorators before owner index) frame) world =
        (.ok ((object, place), between), middle) ∧
      (object = .builtin .positional → ∃ count,
        LeavesPositional call identifier body count after later ∧ right place count)

/-- The number of fields is that of the values in the brackets, and so that of the expressions in the
brackets if none of them has a star and a single one is no tuple. -/
theorem settlesCount_of_subscript (identifier : String) (before : List (Expr Unit))
    (owner index : Expr Unit) (behind : List (Expr Unit)) :
    SettlesCount call identifier before owner index behind fun place count =>
      count = (TypeForm.subscripts place).length ∧
      ((∀ element ∈ index.elements, element.isStarred = false) →
        (∀ items, place = .tuple items → ∃ elements, index = .tuple () elements) →
        count = index.elements.length) := by
  intro keywords body decorators frame world flow after later ran
  obtain ⟨applied, written, opened, start, head, number, record, derived, made, decorated⟩ :=
    exists_isMadeFrom ran
  obtain ⟨object, place, between, middle, values, subscribes⟩ := exists_baseValues head
  refine ⟨object, place, between, middle, values, fun positional => ?_⟩
  obtain ⟨front, back, bases⟩ := subscribes positional
  obtain ⟨qualified, postponed, early, flow, inner, ended, ranBody, derivedRecord⟩ := made.fromBody
  have own := Derivation.arity_of_record derivedRecord bases
  obtain ⟨line, ancestors, -⟩ := Ancestors.line?_eq_some
    (Derivation.isDerived_of_record derivedRecord).ancestors
  have counted := Positional.arityOf_of_own made.found ancestors own
  refine ⟨(TypeForm.subscripts place).length,
    ⟨number, record, derived, made.isDerivedBy, counted, fun self items isInstance =>
      Positional.outcome_checkCount (isInstance ▸ counted) items, applied, decorated⟩, rfl,
    fun plain single => ?_⟩
  obtain ⟨_, _, indexed⟩ := exists_of_baseValues values
  exact length_subscripts plain single indexed

end Evaluation

end DifferenceTypes
