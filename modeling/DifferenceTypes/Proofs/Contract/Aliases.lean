import DifferenceTypes.Proofs.Contract.Coherence
import DifferenceTypes.Object.Operator

/-!
# Contracts of type expressions

A class with arguments in brackets, and a class with metadata, are types as well. Metadata is looked
through wherever a contract is asked for. Arguments are looked through where the leaf contracts are
looked up, and there alone: a contract that was installed on a class is not found from the class with
arguments, which goes on to the leaf contracts of the class's ancestors (`ending_of_builtFrom`).
-/

namespace DifferenceTypes.Contract

open Run (outcome)

variable {κ : Type} {call : Caller κ} {type : ClassId}

/-! ### Types built from a class -/

/-- Whether a class with a subscript is a type expression for that class. A class that is derived from
one whose brackets have another meaning has that meaning for its own. -/
def SubscribesItself (world : World κ) (type : ClassId) : Prop :=
  ∀ kind ∈ [BuiltinClass.annotated, .initializer, .representation],
    world.isSubclass type (.builtin kind) = false

/-- The types that are built from a class by subscribing it and by adding metadata, each step in
whatever world there is at that time. -/
inductive BuiltFrom (call : Caller κ) (type : ClassId) : Value → Prop
  | itself : BuiltFrom call type type
  | subscribed {form index result : Value} {before after : World κ} (built : BuiltFrom call type form)
    (own : SubscribesItself before type)
    (ran : outcome (Operator.subscript call form index) before = (.ok result, after)) :
    BuiltFrom call type result
  | annotated {form result : Value} {metadata : List Value} {before after : World κ}
    (built : BuiltFrom call type form)
    (ran : outcome (TypeForm.annotated (form :: metadata)) before = (.ok result, after)) :
    BuiltFrom call type result

/-- The forms in which a class stands by itself or with arguments. -/
inductive IsForm (type : ClassId) : Value → Prop
  | bare : IsForm type type
  | subscribed (arguments : List Value) : IsForm type (.subscribed type arguments)
  | generic (arguments : List Value) : IsForm type (.parameterized type none arguments)

namespace IsForm

variable {form : Value}

theorem not_annotated (isForm : IsForm type form) : TypeForm.withoutMetadata form = form := by
  cases isForm <;> rfl

theorem withoutMetadata (isForm : IsForm type form) : IsForm type (TypeForm.withoutMetadata form) :=
  isForm.not_annotated.symm ▸ isForm

/-- Putting arguments in the place of type variables leaves a form a form. -/
theorem replace (isForm : IsForm type form) (replacements : List (Value × Value)) :
    IsForm type (TypeForm.replace replacements form) := by
  cases isForm with
  | bare => exact .bare
  | subscribed arguments =>
    unfold TypeForm.replace
    exact .subscribed _
  | generic arguments =>
    unfold TypeForm.replace
    exact .generic _

theorem rebuild (isForm : IsForm type form) : TypeForm.rebuild call form = return form := by
  cases isForm <;> rfl

end IsForm

/-- A value that stands for a class, in a form and perhaps with metadata. -/
def StandsFor (type : ClassId) (form : Value) : Prop :=
  IsForm type (TypeForm.withoutMetadata form)

theorem StandsFor.eq_annotated_or (stands : StandsFor type form) :
    IsForm type form ∨ ∃ origin metadata, form = .annotated origin metadata ∧ IsForm type origin := by
  cases form with
  | annotated origin metadata => exact .inr ⟨origin, metadata, rfl, stands⟩
  | _ => exact .inl stands

/-- Arguments for the type variables of a type leave it a type of the same class. -/
theorem StandsFor.substitute {form result : Value} {arguments : List Value} {before after : World κ}
    (stands : StandsFor type form)
    (ran : outcome (TypeForm.substitute call form arguments) before = (.ok result, after)) :
    StandsFor type result := by
  obtain ⟨converted, middle, -, rest⟩ := Run.outcome_bind_eq_ok ran
  dsimp only at rest
  split at rest
  · exact nomatch rest
  · rcases stands.eq_annotated_or with isForm | ⟨origin, metadata, rfl, isForm⟩
    · have replaced := isForm.replace ((TypeForm.typeVariables form).zip converted)
      have built : outcome (TypeForm.rebuild call (TypeForm.replace
          ((TypeForm.typeVariables form).zip converted) form)) middle = (.ok result, after) := rest
      rw [replaced.rebuild] at built
      cases built
      exact replaced.withoutMetadata
    · cases rest
      exact isForm.replace _

theorem isForm_of_generic {arguments : List Value} {result : Value} {before after : World κ}
    (ran : outcome (TypeForm.generic type arguments) before = (.ok result, after)) :
    IsForm type result := by
  obtain ⟨converted, middle, -, rest⟩ := Run.outcome_bind_eq_ok ran
  split at rest
  · dsimp only at rest
    split at rest
    · exact nomatch rest
    · cases rest
      exact .generic _
  · obtain ⟨world, later, -, rest⟩ := Run.outcome_bind_eq_ok rest
    dsimp only at rest
    split at rest
    · exact nomatch rest
    · cases rest
      exact .generic _

/-- A class with a subscript that means nothing else is a form of the class. -/
theorem isForm_of_subscribeClass {index result : Value} {before after : World κ}
    (own : SubscribesItself before type)
    (ran : outcome (TypeForm.subscribeClass call type index) before = (.ok result, after)) :
    IsForm type result := by
  have apart {kind : BuiltinClass} (among : ClassId.builtin kind ∈ before.ancestors type) :
      kind ∉ [BuiltinClass.annotated, .initializer, .representation] := fun inside => by
    have absent := own kind inside
    exact absurd (List.elem_eq_true_of_mem among) (Bool.eq_false_iff.1 absent)
  unfold TypeForm.subscribeClass at ran
  split at ran
  · cases ran
    exact .subscribed _
  · rw [Run.outcome_get_bind] at ran
    dsimp only at ran
    split at ran
    · next found meaning =>
      obtain ⟨ancestor, among, means⟩ := List.exists_of_findSome?_eq_some meaning
      split at means
      -- The collections, and the classes with type variables of their own.
      iterate 6 next => cases means; cases ran; exact .subscribed _
      · cases means
        exact isForm_of_generic ran
      iterate 3 next => exact absurd (by decide) (apart among)
      · exact nomatch means
    · exact nomatch ran

/-- What is checked comes out as it is, unless it stands for something else. -/
theorem eq_of_check {special final : Bool} {value checked : Value} {before after : World κ}
    (converts : (TypeForm.convert value : Run κ Value) = return value)
    (ran : outcome (TypeForm.check special final value) before = (.ok checked, after)) :
    checked = value := by
  unfold TypeForm.check at ran
  rw [converts, pure_bind] at ran
  repeat' split at ran
  all_goals first | exact (Except.ok.inj (congrArg Prod.fst ran)).symm | exact nomatch ran

theorem stands_of_annotated {form result : Value} {metadata : List Value} {before after : World κ}
    (stands : StandsFor type form)
    (ran : outcome (TypeForm.annotated (form :: metadata)) before = (.ok result, after)) :
    StandsFor type result := by
  cases metadata with
  | nil => exact nomatch ran
  | cons note notes =>
    obtain ⟨checked, middle, checks, rest⟩ := Run.outcome_bind_eq_ok ran
    have same : checked = form := by
      rcases stands.eq_annotated_or with isForm | ⟨origin, metadata, rfl, -⟩
      · cases isForm <;> exact eq_of_check rfl checks
      · exact eq_of_check rfl checks
    subst same
    rcases stands.eq_annotated_or with isForm | ⟨origin, metadata, rfl, isForm⟩
    · cases isForm <;> cases rest <;> exact stands
    · cases rest
      exact isForm

/-- Whatever is built from a class stands for that class. -/
theorem BuiltFrom.standsFor {form : Value} (built : BuiltFrom call type form) : StandsFor type form := by
  induction built with
  | itself => exact .bare
  | @subscribed form index result before after _ own ran stands =>
    rcases stands.eq_annotated_or with isForm | ⟨origin, metadata, rfl, -⟩
    · cases isForm with
      | bare => exact (isForm_of_subscribeClass own ran).withoutMetadata
      | subscribed arguments => exact stands.substitute ran
      | generic arguments =>
        have meaning : TypeForm.subscribe? call (.parameterized type none arguments) index =
            if (type : Value).same (.builtin .generic) then some (throw .wrongType)
            else some (TypeForm.substitute call (.parameterized type none arguments)
              (TypeForm.subscripts index)) := rfl
        unfold Operator.subscript at ran
        rw [meaning] at ran
        split at ran
        · next found =>
          split at found
          · cases found
            exact nomatch ran
          · cases found
            exact stands.substitute ran
        · next absent => split at absent <;> exact nomatch absent
    · exact stands.substitute ran
  | annotated _ ran stands => exact stands_of_annotated stands ran

/-! ### Endings that differ in the text alone -/

/-- Two computations end alike: with the same, or both for want of a contract. -/
def EndAlike {α : Type} (first second : Except Failure α × World κ) : Prop :=
  first = second ∨ ∃ text other world,
    first = (.error (.noContract text), world) ∧ second = (.error (.noContract other), world)

theorem EndAlike.refl {α : Type} (ending : Except Failure α × World κ) : EndAlike ending ending :=
  .inl rfl

/-- What goes on in the same way from there ends alike. -/
theorem EndAlike.bind {α β : Type} {first second : Run κ α} {world : World κ}
    (alike : EndAlike (outcome first world) (outcome second world)) (next : α → Run κ β) :
    EndAlike (outcome (first >>= next) world) (outcome (second >>= next) world) := by
  rcases alike with same | ⟨text, other, later, fails, alsoFails⟩
  · rcases opened : outcome second world with ⟨ending, later⟩
    rw [opened] at same
    refine .inl ?_
    cases ending with
    | ok value =>
      rw [Run.outcome_bind_of_ok next opened, Run.outcome_bind_of_ok next same]
    | error failure =>
      rw [Run.outcome_bind_of_error next opened, Run.outcome_bind_of_error next same]
  · exact .inr ⟨text, other, later, Run.outcome_bind_of_error next fails,
      Run.outcome_bind_of_error next alsoFails⟩

/-! ### Looking a contract up -/

variable {form : Value} {world : World κ}

/-- A form is looked up under the ancestors of its class. -/
theorem IsForm.keys (isForm : IsForm type form) (world : World κ) : keys world form = keys world type := by
  cases isForm with
  | bare => rfl
  | subscribed arguments => exact (keys_ofClass world type).symm
  | generic arguments => exact (keys_ofClass world type).symm

/-- A class has a name if neither of its two names is empty. -/
def HasName (world : World κ) (type : ClassId) : Prop :=
  world.className type ≠ "" ∧ world.qualifiedName type ≠ ""

theorem IsForm.exists_name (isForm : IsForm type form) (named : HasName world type) :
    ∃ name, Access.get? world form "__qualname__" = some (.text (Text.ofString name)) ∧ name ≠ "" := by
  cases isForm with
  | bare => exact ⟨world.qualifiedName type, rfl, named.2⟩
  | subscribed arguments => exact ⟨world.qualifiedName type, rfl, named.2⟩
  | generic arguments => exact ⟨world.className type, rfl, named.1⟩

/-- A form of a class with a name is described by a name. -/
theorem IsForm.exists_ofType (call : Caller κ) (isForm : IsForm type form) (named : HasName world type)
    (later : World κ) :
    ∃ text, outcome (Description.ofType call (Access.get? world form "__qualname__") form) later =
      (.ok text, later) := by
  obtain ⟨name, found, notEmpty⟩ := isForm.exists_name named
  rw [found]
  exact ⟨_, outcome_ofType_of_name call (fun nil =>
    notEmpty (String.toList_eq_nil_iff.1 (List.map_eq_nil_iff.1 nil))) form later⟩

/-- A form of a class has the leaf contract of the class, and lacks one if the class does. -/
theorem IsForm.lookup (isForm : IsForm type form) (named : HasName world type) :
    EndAlike (outcome (lookup call form) world) (outcome (lookup call type) world) := by
  unfold Contract.lookup
  rw [Run.outcome_get_bind, Run.outcome_get_bind, isForm.keys world]
  rcases opened : outcome (firstLeaf? call (Contract.keys world type)) world with ⟨ending, later⟩
  cases ending with
  | error failure =>
    rw [Run.outcome_bind_of_error _ opened, Run.outcome_bind_of_error _ opened]
    exact .refl _
  | ok found =>
    rw [Run.outcome_bind_of_ok _ opened, Run.outcome_bind_of_ok _ opened]
    cases found with
    | some leaf => exact .refl _
    | none =>
      obtain ⟨text, described⟩ := isForm.exists_ofType call named later
      obtain ⟨other, alsoDescribed⟩ := IsForm.bare.exists_ofType call named later
      exact .inr ⟨text, other, later, (Run.outcome_bind_of_ok _ described).trans rfl,
        (Run.outcome_bind_of_ok _ alsoDescribed).trans rfl⟩

/-! ### Where types built from a class go -/

/-- The type of differences and the identity that a class has from the leaf contracts alone. -/
def leafRepresentation (call : Caller κ) (type : ClassId) : Run κ Value :=
  do return (← lookup call type).representation

def leafIdentity (behaviour : Behaviour κ) (call : Caller κ) (type : ClassId) : Run κ Value :=
  do behaviour.identity call (← lookup call type).contract

/-- Only a class itself has a contract that was installed. -/
theorem IsForm.isGenerated (isForm : IsForm type form) (different : form ≠ type) :
    isGenerated world form = false := by
  cases isForm with
  | bare => exact absurd rfl different
  | subscribed arguments => rfl
  | generic arguments => rfl

/-- Without a contract that was installed, the type of differences is that of the leaf contract. -/
theorem representation_of_isGenerated_eq_false (call : Caller κ) {form : Value}
    (free : isGenerated world (TypeForm.withoutMetadata form) = false) :
    outcome (representation call form) world =
      outcome (do return (← lookup call (TypeForm.withoutMetadata form)).representation) world := by
  unfold representation
  rw [Run.outcome_get_bind, if_neg (by rw [free]; exact Bool.false_ne_true)]

theorem identity_of_isGenerated_eq_false (behaviour : Behaviour κ) (call : Caller κ) {form : Value}
    (free : isGenerated world (TypeForm.withoutMetadata form) = false) :
    outcome (identity behaviour call form) world =
      outcome (do behaviour.identity call (← lookup call (TypeForm.withoutMetadata form)).contract)
        world := by
  unfold identity
  rw [Run.outcome_get_bind, if_neg (by rw [free]; exact Bool.false_ne_true)]

/-- A type that is built from a class with a name goes where the class goes, if no contract was installed
on the class, or if nothing but metadata was added to it. From a class that carries a contract and is
given arguments it goes to the leaf contracts instead. -/
theorem ending_of_builtFrom (behaviour : Behaviour κ) (built : BuiltFrom call type form)
    (named : HasName world type) :
    (isGenerated world type = false ∨ TypeForm.withoutMetadata form = type →
      EndAlike (outcome (representation call form) world) (outcome (representation call type) world) ∧
        EndAlike (outcome (identity behaviour call form) world)
          (outcome (identity behaviour call type) world)) ∧
    (isGenerated world type = true → TypeForm.withoutMetadata form ≠ type →
      EndAlike (outcome (representation call form) world)
          (outcome (leafRepresentation call type) world) ∧
        EndAlike (outcome (identity behaviour call form) world)
          (outcome (leafIdentity behaviour call type) world)) := by
  have isForm : IsForm type (TypeForm.withoutMetadata form) := built.standsFor
  have byLeaf (free : isGenerated world (TypeForm.withoutMetadata form) = false) :
      EndAlike (outcome (representation call form) world)
          (outcome (leafRepresentation call type) world) ∧
        EndAlike (outcome (identity behaviour call form) world)
          (outcome (leafIdentity behaviour call type) world) := by
    rw [representation_of_isGenerated_eq_false call free,
      identity_of_isGenerated_eq_false behaviour call free]
    exact ⟨(isForm.lookup named).bind _, (isForm.lookup named).bind _⟩
  refine ⟨fun either => ?_, fun _ different => byLeaf (isForm.isGenerated different)⟩
  by_cases same : TypeForm.withoutMetadata form = type
  · have representations : representation call form = representation call type := by
      unfold representation
      rw [same]
      rfl
    have identities : identity behaviour call form = identity behaviour call type := by
      unfold identity
      rw [same]
      rfl
    rw [representations, identities]
    exact ⟨.refl _, .refl _⟩
  · have free : isGenerated world type = false := either.resolve_right same
    have ofClass : isGenerated world (TypeForm.withoutMetadata type) = false := free
    rw [representation_of_isGenerated_eq_false call ofClass,
      identity_of_isGenerated_eq_false behaviour call ofClass]
    exact byLeaf (isForm.isGenerated same)

/-- A positional class `P` that has its contract from a class `I`. -/
def positionalWorld : World SessionContract :=
  (outcome (do
    let carrier ← Derivation.derive "P" "P" [.builtin .positional] [] []
    let whole ← Derivation.derive "I" "I" []
      [("Repr", .builtin .integer), ("diff", .none), ("apply", .none), ("identity", .none)] []
    install (Evaluation.call SessionContract.behaviour) carrier (.ofClass whole)) World.empty).2

/-- With metadata `P` goes to its own contract, with an argument to the leaf contracts. -/
theorem ending_of_positional_forms :
    HasName positionalWorld (.defined 0) ∧
      EndAlike
        (outcome (representation (Evaluation.call SessionContract.behaviour)
          (.annotated (.ofClass (.defined 0)) [.integer 1])) positionalWorld)
        (outcome (representation (Evaluation.call SessionContract.behaviour)
          (.ofClass (.defined 0))) positionalWorld) ∧
      EndAlike
        (outcome (identity SessionContract.behaviour (Evaluation.call SessionContract.behaviour)
          (.subscribed (.defined 0) [.builtin .integer])) positionalWorld)
        (outcome (leafIdentity SessionContract.behaviour (Evaluation.call SessionContract.behaviour)
          (.defined 0)) positionalWorld) := by
  have named : HasName positionalWorld (.defined 0) := by
    constructor <;> decide
  have metadata : BuiltFrom (Evaluation.call SessionContract.behaviour) (.defined 0)
      (.annotated (.ofClass (.defined 0)) [.integer 1]) :=
    .annotated .itself (show outcome (TypeForm.annotated [.ofClass (.defined 0), .integer 1])
      positionalWorld = (.ok _, _) from rfl)
  have argument : BuiltFrom (Evaluation.call SessionContract.behaviour) (.defined 0)
      (.subscribed (.defined 0) [.builtin .integer]) :=
    .subscribed .itself (show SubscribesItself positionalWorld _ by unfold SubscribesItself; decide)
      (show outcome (Operator.subscript _ _ (.builtin .integer)) positionalWorld = (.ok _, _) from rfl)
  exact ⟨named, ((ending_of_builtFrom SessionContract.behaviour metadata named).1 (.inr rfl)).1,
    ((ending_of_builtFrom SessionContract.behaviour argument named).2 rfl (by decide)).2⟩

/-- The class gives the type of its differences, and the class with an argument has none. -/
theorem representation_of_subscribed_class :
    outcome (representation (Evaluation.call SessionContract.behaviour) (.ofClass (.defined 0)))
        positionalWorld = (.ok (.builtin .integer), positionalWorld) ∧
      outcome (representation (Evaluation.call SessionContract.behaviour)
          (.subscribed (.defined 0) [.builtin .integer])) positionalWorld =
        (.error (.noContract "P"), positionalWorld) :=
  ⟨rfl, rfl⟩

end DifferenceTypes.Contract
