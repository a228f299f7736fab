import DifferenceTypes.Evaluation.Call
import DifferenceTypes.Proofs.Contract.Leaves

/-!
# Keys that are no classes

A leaf contract can also be registered under what is no class, such as the form of a union. A special form
and a class leave it to each other whether they are equal, so the form is told apart from every class, and
is a key.
-/

namespace DifferenceTypes.Contract

open Run (outcome)

variable {κ : Type} {world : World κ} (behaviour : Behaviour κ)

/-- What leave it to each other whether they are equal are not, unless they are the same. -/
theorem isEqual_of_undecided {first second : Value} (apart : first.same second = false)
    (early : outcome (Comparison.ask (Evaluation.callWithin behaviour 999) "__eq__" first [second]) world =
      (.ok .undecided, world))
    (late : outcome (Comparison.ask (Evaluation.callWithin behaviour 999) "__eq__" second [first]) world =
      (.ok .undecided, world)) :
    outcome (Comparison.isEqual (Evaluation.call behaviour) first second) world =
      (.ok false, world) := by
  have equal : outcome (Comparison.equal (Evaluation.callWithin behaviour 999) first second) world =
      (.ok (.truth false), world) := by
    unfold Comparison.equal
    rw [Run.outcome_get_bind]
    dsimp only
    -- Which one is asked first depends on their classes.
    split
    · rw [Run.outcome_bind_of_ok _ late]
      dsimp only
      rw [Run.outcome_bind_of_ok _ early, apart]
      rfl
    · rw [Run.outcome_bind_of_ok _ early]
      dsimp only
      rw [Run.outcome_bind_of_ok _ late, apart]
      rfl
  have positional : outcome (Operation.byPosition ⟨[first, second], []⟩) world =
      (.ok [first, second], world) :=
    rfl
  have calls : outcome (Evaluation.call behaviour (.primitive .equals) ⟨[first, second], []⟩) world =
      (.ok (.truth false), world) := by
    change outcome (Operation.byPosition ⟨[first, second], []⟩ >>= fun arguments =>
      Operation.general (Evaluation.callWithin behaviour 999) .equals arguments) world = _
    rw [Run.outcome_bind_of_ok _ positional]
    exact equal
  unfold Comparison.isEqual
  rw [apart, if_neg Bool.false_ne_true, Run.outcome_bind_of_ok _ calls]
  rfl

/-- A special form has what the class of its own has, or else what every object has. -/
theorem classAttribute?_specialForm (closed : world.IsClosed) (name asked : String) :
    world.classAttribute? (world.classOf (.specialForm name)) asked =
      (BuiltinClass.specialForm.attributes.get? asked).or (BuiltinClass.object.attributes.get? asked) := by
  have special : BuiltinClass.specialForm.isOpen = false := rfl
  have object : BuiltinClass.object.isOpen = false := rfl
  change world.classAttribute? (.builtin .specialForm) asked = _
  simp only [World.classAttribute?, World.ancestors, BuiltinClass.ancestors, List.map_cons, List.map_nil,
    List.findSome?_cons, List.findSome?_nil, World.ownAttribute?_closed closed special,
    World.ownAttribute?_closed closed object]
  cases BuiltinClass.specialForm.attributes.get? asked <;>
    cases BuiltinClass.object.attributes.get? asked <;> rfl

/-- A special form leaves it to a class whether they are equal. -/
theorem ask_specialForm (closed : world.IsClosed) (name : String) (identity : ClassId) :
    outcome (Comparison.ask (Evaluation.callWithin behaviour 999) "__eq__" (.specialForm name)
      [.ofClass identity]) world = (.ok .undecided, world) := by
  unfold Comparison.ask
  rw [Run.outcome_get_bind, classAttribute?_specialForm closed]
  rfl

/-- A class leaves it to a special form whether they are equal. -/
theorem ask_ofClass (closed : world.IsClosed) (name : String) (identity : ClassId) :
    outcome (Comparison.ask (Evaluation.callWithin behaviour 999) "__eq__" (.ofClass identity)
      [.specialForm name]) world = (.ok .undecided, world) := by
  have own : world.classAttribute? (world.classOf identity) "__eq__" =
      some (.primitive .sameObject) := by
    have type : world.ownAttribute? (.builtin .type) "__eq__" = none :=
      World.ownAttribute?_closed closed rfl "__eq__"
    have anyType : world.ownAttribute? (.builtin .anyType) "__eq__" = none :=
      World.ownAttribute?_closed closed rfl "__eq__"
    have object : world.ownAttribute? (.builtin .object) "__eq__" = some (.primitive .sameObject) :=
      World.ownAttribute?_closed closed rfl "__eq__"
    change world.classAttribute? (.builtin (world.metaclass identity)) "__eq__" = _
    unfold World.classAttribute? World.ancestors
    rcases World.ancestors_metaclass world identity with line | line <;>
      simp [line, type, anyType, object]
  unfold Comparison.ask
  rw [Run.outcome_get_bind, own]
  rfl

theorem isComparable_specialForm (name : String) :
    IsComparable (Evaluation.call behaviour) (.specialForm name) := by
  intro identity world closed
  have unequal : (Value.specialForm name == (identity : Value)) = false := beq_false_of_ne nofun
  rw [unequal]
  exact isEqual_of_undecided behaviour rfl (ask_specialForm behaviour closed name identity)
    (ask_ofClass behaviour closed name identity)

/-- A special form is a key where all other keys are classes. -/
theorem isKey_specialForm (closed : world.IsClosed) (name : String)
    (classes : ∀ kept ∈ world.leaves.map Prod.fst, ∃ identity : ClassId, kept = identity) :
    IsKey (Evaluation.call behaviour) world (.specialForm name) := by
  refine .other nofun (isComparable_specialForm behaviour name) ?_ fun kept among => ?_
  · have own : world.classAttribute? (world.classOf (.specialForm name)) "__hash__" =
        some (.primitive .hashContent) := classAttribute?_specialForm closed name _
    change outcome (Comparison.checkHashable _ _) _ = _
    unfold Comparison.checkHashable
    rw [Run.outcome_get_bind, own]
    rfl
  · obtain ⟨identity, rfl⟩ := classes kept among
    exact ⟨false, isEqual_of_undecided behaviour rfl (ask_ofClass behaviour closed name identity)
      (ask_specialForm behaviour closed name identity), fun other => ⟨nofun, fun _ _ => nofun⟩⟩

end DifferenceTypes.Contract
