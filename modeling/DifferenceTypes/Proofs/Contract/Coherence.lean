import DifferenceTypes.Proofs.Contract.Histories
import DifferenceTypes.Proofs.Contract.Keys
import DifferenceTypes.Session.Contract

/-!
# Coherence of the operations

A value's operations go to the class that implements its class's contract, a type's operations to what
was installed on the type, and both of them to the leaf contracts where nothing was installed. All of
them follow the line of ancestors, each by itself. In every world that is reached they agree.
-/

namespace DifferenceTypes.Contract

open Run (outcome)

variable {κ : Type}

/-! ### Where the operations go -/

/-- The members of a contract. -/
structure Members where
  representation : Value
  diff : Value
  apply : Value
  identity : Value

/-- The members that a class has of its own. -/
structure Members.AreOf (members : Members) (world : World κ) (implementation : ClassId) : Prop where
  representation : world.ownAttribute? implementation "Repr" = some members.representation
  diff : world.ownAttribute? implementation "diff" = some members.diff
  apply : world.ownAttribute? implementation "apply" = some members.apply
  identity : world.ownAttribute? implementation "identity" = some members.identity

/-- Nothing of a contract is a name that a class goes by. -/
theorem noProperty (world : World κ) (identity : ClassId) {name : String}
    (among : name ∈ contractNames) :
    world.classProperty? identity name = none ∧ world.inheritedProperty? identity name = none := by
  have names : name = "Repr" ∨ name = "diff" ∨ name = "apply" ∨ name = "identity" ∨
      name = "__diff_impl__" := by
    simpa [contractNames, members, implementationName] using among
  rcases names with rfl | rfl | rfl | rfl | rfl <;> exact ⟨rfl, rfl⟩

namespace AccordsWith

variable {call : Caller κ} {history : History κ} {world : World κ} {line : List ClassId}

/-- The nearest class that has a member has it from the class whose contract it carries, and the nearest
class that carries a contract has all members. -/
theorem findSome?_own (accords : AccordsWith call history world)
    (plain : ∀ ancestor ∈ line, history.IsPlain ancestor) {name : String} (among : name ∈ members) :
    line.findSome? (world.ownAttribute? · name) =
      (line.findSome? history.implementation?).bind (world.ownAttribute? · name) := by
  induction line with
  | nil => rfl
  | cons first rest inductionHypothesis =>
    have restPlain := fun ancestor inside => plain ancestor (List.mem_cons_of_mem _ inside)
    rw [List.findSome?_cons, List.findSome?_cons]
    cases given : history.implementation? first with
    | none =>
      rw [accords.bare first (plain first List.mem_cons_self) given name among]
      exact inductionHypothesis restPlain
    | some implementation =>
      obtain ⟨isSome, same⟩ := accords.installed given name among
      obtain ⟨value, own⟩ := Option.isSome_iff_exists.1 isSome
      simp only [same, own, Option.bind_some]

theorem findSome?_noted (accords : AccordsWith call history world)
    (plain : ∀ ancestor ∈ line, history.IsPlain ancestor) :
    line.findSome? (world.ownAttribute? · implementationName) =
      (line.findSome? history.implementation?).map .ofClass := by
  induction line with
  | nil => rfl
  | cons first rest inductionHypothesis =>
    have restPlain := fun ancestor inside => plain ancestor (List.mem_cons_of_mem _ inside)
    rw [List.findSome?_cons, List.findSome?_cons, accords.noted first (plain first List.mem_cons_self)]
    cases history.implementation? first with
    | none => exact inductionHypothesis restPlain
    | some implementation => rfl

/-- The class of a class has nothing of a contract. -/
theorem classAttribute?_metaclass (accords : AccordsWith call history world) (identity : ClassId)
    {name : String} (among : name ∈ contractNames) :
    world.classAttribute? (.builtin (world.metaclass identity)) name = none := by
  have own (kind : BuiltinClass) (isClosed : kind.isOpen = false) :
      world.ownAttribute? (.builtin kind) name = none :=
    (World.ownAttribute?_closed accords.closed isClosed name).trans (get?_builtin_attributes kind among)
  unfold World.classAttribute? World.ancestors
  rcases World.ancestors_metaclass world identity with line | line <;>
    simp [line, own .type rfl, own .object rfl, own .anyType rfl]

/-- What a class is asked for of a contract is found along its line. -/
theorem attributeOfClass? (accords : AccordsWith call history world) (identity : ClassId) {name : String}
    (among : name ∈ contractNames) :
    world.attributeOfClass? identity name =
      ((world.ancestors identity).findSome? (world.ownAttribute? · name)).map
        (World.boundToClass identity) := by
  have noProperty := noProperty world identity among
  unfold World.attributeOfClass?
  rw [noProperty.1, noProperty.2, accords.classAttribute?_metaclass identity among]
  simp [World.classAttribute?]

theorem implementation?_eq (accords : AccordsWith call history world) {identity : ClassId}
    (plain : ∀ ancestor ∈ world.ancestors identity, history.IsPlain ancestor) :
    Contract.implementation? world identity =
      ((world.ancestors identity).findSome? history.implementation?).map .ofClass := by
  have among : implementationName ∈ contractNames := by decide
  simp only [Contract.implementation?, accords.attributeOfClass? identity among,
    accords.findSome?_noted plain]
  cases (world.ancestors identity).findSome? history.implementation? <;> rfl

/-- A class asked for a member gives that of the class whose contract it carries. -/
theorem attributeOfClass?_member (accords : AccordsWith call history world) {identity implementation : ClassId}
    (plain : ∀ ancestor ∈ world.ancestors identity, history.IsPlain ancestor)
    (nearest : (world.ancestors identity).findSome? history.implementation? = some implementation)
    {name : String} {value : Value} (among : name ∈ members)
    (own : world.ownAttribute? implementation name = some value) :
    world.attributeOfClass? identity name = some (World.boundToClass identity value) := by
  rw [accords.attributeOfClass? identity (List.mem_append_left _ among), accords.findSome?_own plain among,
    nearest, Option.bind_some, own]
  rfl

/-- A class that has a member of its own gives it when it is asked. -/
theorem attributeOfClass?_own (accords : AccordsWith call history world) {implementation : ClassId}
    {name : String} {value : Value} (among : name ∈ members)
    (own : world.ownAttribute? implementation name = some value) :
    world.attributeOfClass? implementation name = some (World.boundToClass implementation value) := by
  obtain ⟨behind, line⟩ := accords.heads implementation (World.hasClass_of_own own)
  exact World.attributeOfClass?_of_own (noProperty world _ (List.mem_append_left _ among)).1 line own

/-- A class whose contract is installed somewhere has members of its own. -/
theorem exists_members (accords : AccordsWith call history world) {implementation : ClassId}
    (nearest : line.findSome? history.implementation? = some implementation) :
    ∃ members : Members, members.AreOf world implementation := by
  obtain ⟨carrier, -, given⟩ := List.exists_of_findSome?_eq_some nearest
  have own (name : String) (among : name ∈ Contract.members) :
      ∃ value, world.ownAttribute? implementation name = some value :=
    Option.isSome_iff_exists.1 (accords.installed given name among).1
  obtain ⟨representation, first⟩ := own "Repr" (by decide)
  obtain ⟨diff, second⟩ := own "diff" (by decide)
  obtain ⟨apply, third⟩ := own "apply" (by decide)
  obtain ⟨identity, fourth⟩ := own "identity" (by decide)
  exact ⟨⟨representation, diff, apply, identity⟩, first, second, third, fourth⟩

end AccordsWith

/-- The contract of a class: that of the class that implements it, or a leaf contract. -/
inductive Serving (κ : Type) where
  | byClass (implementation : ClassId)
  | byLeaf (leaf : Leaf κ)

/-- The contract that a history gives to a class with a line of ancestors: the one installed last on the
nearest ancestor that carries one, or else the leaf of the nearest ancestor that has one. -/
def History.serving? (history : History κ) (line : List ClassId) : Option (Serving κ) :=
  match line.findSome? history.implementation? with
  | some implementation => some (.byClass implementation)
  | none => (line.findSome? history.leaf?).map .byLeaf

section Operations

variable (behaviour : Behaviour κ) (world : World κ) (type : ClassId)

/-- All operations on a class and its values are those that a class has as its members. -/
structure ServedByMembers (implementation : ClassId) (members : Members) : Prop where
  diff : ∀ value other, world.classOf value = type →
    outcome (diff behaviour (Evaluation.call behaviour) value other) world =
      outcome (Evaluation.call behaviour (World.boundToClass implementation members.diff)
        ⟨[value, other], []⟩) world
  apply : ∀ value delta, world.classOf value = type →
    outcome (apply behaviour (Evaluation.call behaviour) value delta) world =
      outcome (Evaluation.call behaviour (World.boundToClass implementation members.apply)
        ⟨[value, delta], []⟩) world
  identity : outcome (identity behaviour (Evaluation.call behaviour) type) world =
    outcome (Evaluation.call behaviour (World.boundToClass type members.identity) ⟨[], []⟩) world
  representation : outcome (representation (Evaluation.call behaviour) type) world =
    (.ok (World.boundToClass type members.representation), world)

/-- All operations on a class and its values are those of a leaf contract. -/
structure ServedByLeaf (leaf : Leaf κ) : Prop where
  diff : ∀ value other, world.classOf value = type →
    outcome (diff behaviour (Evaluation.call behaviour) value other) world =
      outcome (behaviour.diff (Evaluation.call behaviour) leaf.contract value other) world
  apply : ∀ value delta, world.classOf value = type →
    outcome (apply behaviour (Evaluation.call behaviour) value delta) world =
      outcome (behaviour.apply (Evaluation.call behaviour) leaf.contract value delta) world
  identity : outcome (identity behaviour (Evaluation.call behaviour) type) world =
    outcome (behaviour.identity (Evaluation.call behaviour) leaf.contract) world
  representation : outcome (representation (Evaluation.call behaviour) type) world =
    (.ok leaf.representation, world)

/-- All operations on a class and its values fail for want of a contract, and change nothing. -/
structure Unserved (text : Text) : Prop where
  diff : ∀ value other, world.classOf value = type →
    outcome (diff behaviour (Evaluation.call behaviour) value other) world =
      (.error (.noContract text), world)
  apply : ∀ value delta, world.classOf value = type →
    outcome (apply behaviour (Evaluation.call behaviour) value delta) world =
      (.error (.noContract text), world)
  identity : outcome (identity behaviour (Evaluation.call behaviour) type) world =
    (.error (.noContract text), world)
  representation : outcome (representation (Evaluation.call behaviour) type) world =
    (.error (.noContract text), world)

end Operations

theorem outcome_get_ofClass {world : World κ} {identity : ClassId} {name : String} {value : Value}
    (among : name ∈ members) (found : world.attributeOfClass? identity name = some value) :
    outcome (Access.get identity name) world = (.ok value, world) := by
  have names : name = "Repr" ∨ name = "diff" ∨ name = "apply" ∨ name = "identity" := by
    simpa [members] using among
  have there : Access.get? world identity name = some value := found
  refine (Run.outcome_get_bind _ _).trans ?_
  rcases names with rfl | rfl | rfl | rfl <;> cases identity <;> dsimp only <;> rw [there] <;> rfl

/-! ### Descriptions of classes -/

/-- Every class is described by the method that all classes have for it. -/
theorem classAttribute?_describe {world : World κ} (closed : world.IsClosed) (identity : ClassId) :
    world.classAttribute? (world.classOf identity) "__repr__" = some (.primitive .describeContent) := by
  have type : world.ownAttribute? (.builtin .type) "__repr__" = some (.primitive .describeContent) :=
    World.ownAttribute?_closed closed rfl "__repr__"
  have anyType : world.ownAttribute? (.builtin .anyType) "__repr__" = none :=
    World.ownAttribute?_closed closed rfl "__repr__"
  change world.classAttribute? (.builtin (world.metaclass identity)) "__repr__" = _
  unfold World.classAttribute? World.ancestors
  rcases World.ancestors_metaclass world identity with line | line <;>
    simp [line, type, anyType]

/-- What stands for a class in a text: its name with that of its module, except for the class of which
everything is an instance. -/
def classText (world : World κ) : ClassId → Text
  | .builtin .any => "typing.Any"
  | identity => "<class '" ++ Description.className world identity ++ "'>"

theorem outcome_ofOther_ofClass (call : Caller κ) (world : World κ) (identity : ClassId) :
    outcome (Description.ofOther call identity) world = (.ok (classText world identity), world) := by
  cases identity with
  | defined index => rfl
  | builtin kind => cases kind <;> rfl

theorem outcome_describe_ofClass {world : World κ} (behaviour : Behaviour κ) (closed : world.IsClosed)
    (identity : ClassId) :
    outcome (Description.describe (Evaluation.call behaviour) identity) world =
      (.ok (classText world identity), world) := by
  have described := outcome_ofOther_ofClass (Evaluation.callWithin behaviour 998) world identity
  have content : outcome (Evaluation.callWithin behaviour 999 (.primitive .describeContent)
      ⟨[.ofClass identity], []⟩) world = (.ok (.text (classText world identity)), world) :=
    (Run.outcome_bind_of_ok _ described).trans rfl
  have asks : outcome (Comparison.ask (Evaluation.callWithin behaviour 999) "__repr__" identity [])
      world = (.ok (.text (classText world identity)), world) := by
    unfold Comparison.ask
    rw [Run.outcome_get_bind, classAttribute?_describe closed]
    exact content
  have calls : outcome (Evaluation.call behaviour (.primitive .describe) ⟨[.ofClass identity], []⟩)
      world = (.ok (.text (classText world identity)), world) :=
    (Run.outcome_bind_of_ok _ asks).trans rfl
  exact (Run.outcome_bind_of_ok _ calls).trans rfl

/-- A type with a name that is not empty is described by it. -/
theorem outcome_ofType_of_name (call : Caller κ) {name : Text} (notEmpty : name ≠ []) (type : Value)
    (world : World κ) :
    outcome (Description.ofType call (some (.text name)) type) world = (.ok name, world) := by
  have counts : world.isTrue (.text name) = true := by
    simpa [World.isTrue, World.view] using notEmpty
  unfold Description.ofType
  dsimp only
  rw [Run.outcome_get_bind, if_pos counts]
  rfl

/-- The text that an error says of a class: its qualified name, or what stands for the class if that one
is empty. -/
def typeText (world : World κ) (identity : ClassId) : Text :=
  if world.qualifiedName identity = "" then classText world identity else world.qualifiedName identity

/-- Every class can be described. -/
theorem outcome_ofType_ofClass {world : World κ} (behaviour : Behaviour κ) (closed : world.IsClosed)
    (identity : ClassId) :
    outcome (Description.ofType (Evaluation.call behaviour)
      (Access.get? world identity "__qualname__") identity) world =
        (.ok (typeText world identity), world) := by
  have name : Access.get? world (.ofClass identity) "__qualname__" =
      some (.text (world.qualifiedName identity)) := rfl
  rw [name, typeText]
  by_cases empty : world.qualifiedName identity = ""
  · rw [if_pos empty, empty]
    exact outcome_describe_ofClass behaviour closed identity
  · rw [if_neg empty]
    exact outcome_ofType_of_name _ (fun nil =>
      empty (String.toList_eq_nil_iff.1 (List.map_eq_nil_iff.1 nil))) _ world

/-! ### One contract for all operations -/

/-- The operations on a class and its values are those of one contract, or all of them fail. -/
def Serves (behaviour : Behaviour κ) (world : World κ) (type : ClassId) : Option (Serving κ) → Prop
  | some (.byClass implementation) => ∃ members : Members, members.AreOf world implementation ∧
      ServedByMembers behaviour world type implementation members
  | some (.byLeaf leaf) => ServedByLeaf behaviour world type leaf
  | none => ∃ text, Unserved behaviour world type text

section

variable {behaviour : Behaviour κ} {world : World κ} {type : ClassId}

theorem isGenerated_ofClass (world : World κ) (type : ClassId) :
    isGenerated world (TypeForm.withoutMetadata type) = (implementation? world type).isSome :=
  rfl

theorem outcome_representation {call : Caller κ} {implementation : Value}
    (carried : implementation? world type = some implementation) :
    outcome (representation call type) world = outcome (Access.get type "Repr") world := by
  unfold representation
  rw [Run.outcome_get_bind, if_pos (by rw [isGenerated_ofClass, carried]; rfl)]
  rfl

/-- A class that carries a contract gives the type of its differences that it has itself. -/
theorem outcome_representation_of_own {call : Caller κ} {behind : List ClassId}
    {implementation : ClassId} {value : Value} (line : world.ancestors type = type :: behind)
    (noted : world.ownAttribute? type implementationName = some (.ofClass implementation))
    (own : world.ownAttribute? type "Repr" = some value) :
    outcome (representation call type) world = (.ok (World.boundToClass type value), world) := by
  have carried : implementation? world type = some (.ofClass implementation) := by
    simp only [implementation?,
      World.attributeOfClass?_of_own (noProperty world type (by decide)).1 line noted]
    rfl
  rw [outcome_representation carried]
  exact outcome_get_ofClass (by decide)
    (World.attributeOfClass?_of_own (noProperty world type (by decide)).1 line own)

theorem servedByMembers {implementation : ClassId} {members : Members}
    (areOf : members.AreOf world implementation)
    (carried : implementation? world type = some (.ofClass implementation))
    (given : ∀ name value, name ∈ Contract.members →
      world.ownAttribute? implementation name = some value →
      world.attributeOfClass? implementation name = some (World.boundToClass implementation value) ∧
        world.attributeOfClass? type name = some (World.boundToClass type value)) :
    ServedByMembers behaviour world type implementation members where
  diff value other ofType := by
    have member := outcome_get_ofClass (by decide) (given "diff" _ (by decide) areOf.diff).1
    unfold Contract.diff
    rw [Run.outcome_get_bind]
    simp only [ofType, carried]
    rw [Run.outcome_bind_of_ok _ member]
  apply value delta ofType := by
    have member := outcome_get_ofClass (by decide) (given "apply" _ (by decide) areOf.apply).1
    unfold Contract.apply
    rw [Run.outcome_get_bind]
    simp only [ofType, carried]
    rw [Run.outcome_bind_of_ok _ member]
  identity := by
    have member := outcome_get_ofClass (by decide) (given "identity" _ (by decide) areOf.identity).2
    unfold Contract.identity
    rw [Run.outcome_get_bind, if_pos (by rw [isGenerated_ofClass, carried]; rfl)]
    exact Run.outcome_bind_of_ok _ member
  representation := by
    have member :=
      outcome_get_ofClass (by decide) (given "Repr" _ (by decide) areOf.representation).2
    exact (outcome_representation carried).trans member

theorem servedByLeaf {leaf : Leaf κ} (carried : implementation? world type = none)
    (found : outcome (lookup (Evaluation.call behaviour) type) world = (.ok leaf, world)) :
    ServedByLeaf behaviour world type leaf where
  diff value other ofType := by
    unfold Contract.diff
    rw [Run.outcome_get_bind]
    simp only [ofType, carried]
    rw [Run.outcome_bind_of_ok _ found]
  apply value delta ofType := by
    unfold Contract.apply
    rw [Run.outcome_get_bind]
    simp only [ofType, carried]
    rw [Run.outcome_bind_of_ok _ found]
  identity := by
    unfold Contract.identity
    rw [Run.outcome_get_bind, if_neg (by rw [isGenerated_ofClass, carried]; simp)]
    exact Run.outcome_bind_of_ok _ found
  representation := by
    unfold Contract.representation
    rw [Run.outcome_get_bind, if_neg (by rw [isGenerated_ofClass, carried]; simp)]
    exact Run.outcome_bind_of_ok _ found

theorem unserved {text : Text} (carried : implementation? world type = none)
    (missing : outcome (lookup (Evaluation.call behaviour) type) world =
      (.error (.noContract text), world)) :
    Unserved behaviour world type text where
  diff value other ofType := by
    unfold Contract.diff
    rw [Run.outcome_get_bind]
    simp only [ofType, carried]
    rw [Run.outcome_bind_of_error _ missing]
  apply value delta ofType := by
    unfold Contract.apply
    rw [Run.outcome_get_bind]
    simp only [ofType, carried]
    rw [Run.outcome_bind_of_error _ missing]
  identity := by
    unfold Contract.identity
    rw [Run.outcome_get_bind, if_neg (by rw [isGenerated_ofClass, carried]; simp)]
    exact Run.outcome_bind_of_error _ missing
  representation := by
    unfold Contract.representation
    rw [Run.outcome_get_bind, if_neg (by rw [isGenerated_ofClass, carried]; simp)]
    exact Run.outcome_bind_of_error _ missing

end

/-- In every world that is reached by a settled history the operations on a class and on its values go
to one contract, the one that the history gives to the class, or all of them fail because there is none.
The class and its ancestors must not be classes that were made to implement a contract. -/
theorem serves_of_reached {behaviour : Behaviour κ} {history : History κ} {world : World κ}
    (reached : Reached (Evaluation.call behaviour) history world) (settled : history.IsSettled)
    (type : ClassId) (plain : ∀ ancestor ∈ world.ancestors type, history.IsPlain ancestor) :
    Serves behaviour world type (history.serving? (world.ancestors type)) := by
  have accords := reached.accordsWith settled
  have carried := accords.implementation?_eq plain
  unfold History.serving?
  cases nearest : (world.ancestors type).findSome? history.implementation? with
  | some implementation =>
    rw [nearest] at carried
    obtain ⟨members, areOf⟩ := accords.exists_members nearest
    exact ⟨members, areOf, servedByMembers areOf carried fun name value among own =>
      ⟨accords.attributeOfClass?_own among own, accords.attributeOfClass?_member plain nearest among own⟩⟩
  | none =>
    rw [nearest] at carried
    have leaf : nearestLeaf? world.leaves (world.ancestors type) =
        (world.ancestors type).findSome? history.leaf? :=
      congrArg (List.findSome? · _) (funext accords.leaves)
    cases nearestLeaf : (world.ancestors type).findSome? history.leaf? with
    | some found =>
      exact servedByLeaf carried
        (lookup_of_nearestLeaf? accords.closed accords.isKeyed (leaf.trans nearestLeaf))
    | none =>
      exact ⟨typeText world type, unserved carried
        (lookup_of_no_leaf accords.closed accords.isKeyed (leaf.trans nearestLeaf)
          (outcome_ofType_ofClass behaviour accords.closed type))⟩

/-- A world with a leaf contract of unions, a class `P`, a class `Q` derived from it and a contract
installed on `P`: this one serves `Q` too. -/
theorem serves_below_installed : ∃ history world,
    Reached (Evaluation.call SessionContract.behaviour) history world ∧ history.IsSettled ∧
      (∀ ancestor ∈ world.ancestors (.defined 1), history.IsPlain ancestor) ∧
      Serves SessionContract.behaviour world (.defined 1) (some (.byClass (.defined 2))) := by
  have union : IsKey (Evaluation.call SessionContract.behaviour) World.empty (.specialForm "Union") :=
    isKey_specialForm SessionContract.behaviour (fun _ _ => rfl) "Union" (List.forall_mem_nil _)
  let contract : SessionContract := ⟨.replacement, .none, [], none⟩
  obtain ⟨leaves, registers, -, -⟩ := exists_register (fun _ _ => rfl) .nil union contract .none
  let history : History SessionContract :=
    [.installed (.defined 0) (.defined 2), .made (.defined 2),
      .registered (.specialForm "Union") (leafOf (.specialForm "Union") contract .none)]
  have parent : Reached (Evaluation.call SessionContract.behaviour) (history.drop 2) _ :=
    .derive (.register .start union registers) (by decide)
      (show outcome (Derivation.derive "P" "P" [] [] []) _ = (.ok (.defined 0), _) from rfl)
  have child : Reached (Evaluation.call SessionContract.behaviour) (history.drop 2) _ :=
    .derive parent (by decide)
      (show outcome (Derivation.derive "Q" "Q" [.ofClass (.defined 0)] [] []) _ =
        (.ok (.defined 1), _) from rfl)
  obtain ⟨before, made, there, line, given⟩ : ∃ before,
      Reached (Evaluation.call SessionContract.behaviour) (history.drop 1) before ∧
        before.HasClass (.defined 0) ∧
        before.ancestors (.defined 1) = [.defined 1, .defined 0, .builtin .object] ∧
        ∀ name ∈ members, before.ownAttribute? (.defined 2) name = some .none :=
    ⟨_, .make child
      (show outcome (Derivation.derive "I" "I" [] (members.map fun name => (name, .none)) []) _ =
        (.ok (.defined 2), _) from rfl), Nat.zero_lt_succ _, rfl, by
      simp only [members, List.forall_mem_cons]
      exact ⟨rfl, rfl, rfl, rfl, List.forall_mem_nil _⟩⟩
  obtain ⟨world, installed, installs⟩ := made.exists_install there (by simp)
    (by simp [history, History.IsPlain]) fun name among => by rw [given name among]; rfl
  have settled : history.IsSettled := ⟨fun _ given => (by cases given), trivial⟩
  have carrying : world.ancestors (.defined 1) = [.defined 1, .defined 0, .builtin .object] :=
    (installs.lines.ancestors _).trans line
  have plain : ∀ ancestor ∈ world.ancestors (.defined 1), history.IsPlain ancestor := by
    rw [carrying]
    simp [history, History.IsPlain]
  have serves := serves_of_reached installed settled (.defined 1) plain
  rw [carrying] at serves
  exact ⟨history, world, installed, settled, plain, serves⟩

/-- The members that a class took over stay when the class that it has them from is given another
contract. Here `Q` has its contract from `P`, and `P` gets another one: the differences of `Q` are still
of the type that those of `P` had before. -/
theorem members_outlive_second_install : ∃ (history : History SessionContract) (world : _),
    Reached (Evaluation.call SessionContract.behaviour) history world ∧
      (∀ ancestor ∈ world.ancestors (.defined 1), history.IsPlain ancestor) ∧
      ¬Serves SessionContract.behaviour world (.defined 1)
        (history.serving? (world.ancestors (.defined 1))) := by
  let source : ClassId := .defined 0
  let user : ClassId := .defined 1
  let body (type : ClassId) : Attributes :=
    [("Repr", type), ("diff", .none), ("apply", .none), ("identity", .none)]
  have first : Reached (Evaluation.call SessionContract.behaviour) [] _ :=
    .derive .start (by decide)
      (show outcome (Derivation.derive "P" "P" [] [] []) World.empty = (.ok source, _) from rfl)
  have second : Reached (Evaluation.call SessionContract.behaviour) [] _ :=
    .derive first (by decide)
      (show outcome (Derivation.derive "Q" "Q" [] [] []) _ = (.ok user, _) from rfl)
  have third : Reached (Evaluation.call SessionContract.behaviour) [.made (.defined 2)] _ :=
    .make second (show outcome (Derivation.derive "I" "I" [] (body (.builtin .integer)) []) _ =
      (.ok (.defined 2), _) from rfl)
  obtain ⟨world, reached, ⟨hasSource, hasUser⟩, line, early, late⟩ : ∃ world : World SessionContract,
      Reached (Evaluation.call SessionContract.behaviour) [.made (.defined 3), .made (.defined 2)] world ∧
      (world.HasClass source ∧ world.HasClass user) ∧
      world.ancestors user = [user, .builtin .object] ∧
      (∀ name ∈ members, world.ownAttribute? (.defined 2) name = (body (.builtin .integer)).get? name) ∧
      ∀ name ∈ members, world.ownAttribute? (.defined 3) name = (body (.builtin .text)).get? name :=
    ⟨_, .make third (show outcome (Derivation.derive "J" "J" [] (body (.builtin .text)) []) _ =
      (.ok (.defined 3), _) from rfl), by decide, rfl, fun _ _ => rfl, fun _ _ => rfl⟩
  have isSome (type : ClassId) : ∀ name ∈ members, ((body type).get? name).isSome := by
    intro name among
    have names : name = "Repr" ∨ name = "diff" ∨ name = "apply" ∨ name = "identity" := by
      simpa [members] using among
    rcases names with rfl | rfl | rfl | rfl <;> rfl
  obtain ⟨given, reached, gives⟩ := reached.exists_install hasSource (by simp [source])
    (by simp [History.IsPlain, source]) fun name among => (early name among) ▸ isSome _ name among
  have taken (name : String) (among : name ∈ members) :
      given.ownAttribute? source name = (body (.builtin .integer)).get? name :=
    (gives.taken name among).trans (early name among)
  obtain ⟨passed, reached, passes⟩ := reached.exists_install (gives.lines.hasClass hasUser) (by simp [user])
    (by simp [History.IsPlain, user]) fun name among => (taken name among) ▸ isSome _ name among
  have kept (name : String) (among : name ∈ members) :
      passed.ownAttribute? (.defined 3) name = (body (.builtin .text)).get? name := by
    rw [passes.kept _ _ (by simp [user]), gives.kept _ _ (by simp [source]), late name among]
  obtain ⟨changed, reached, changes⟩ := reached.exists_install
    (passes.lines.hasClass (gives.lines.hasClass hasSource)) (by simp [source])
    (by simp [History.IsPlain, source]) fun name among => (kept name among) ▸ isSome _ name among
  have lineOfUser : changed.ancestors user = [user, .builtin .object] := by
    rw [changes.lines.ancestors, passes.lines.ancestors, gives.lines.ancestors, line]
  refine ⟨_, changed, reached, ?_, ?_⟩
  · rw [lineOfUser]
    simp [History.IsPlain, user]
  · rw [lineOfUser]
    rintro ⟨members, areOf, served⟩
    have ofSource : changed.ownAttribute? source "Repr" = some (Value.ofClass (.builtin .text)) :=
      (changes.taken _ (by decide)).trans (kept _ (by decide))
    have ofUser : changed.ownAttribute? user "Repr" = some (Value.ofClass (.builtin .integer)) := by
      rw [changes.kept _ _ (by simp [user, source]), passes.taken _ (by decide)]
      exact taken _ (by decide)
    have noted : changed.ownAttribute? user implementationName = some (.ofClass source) := by
      rw [changes.kept _ _ (by simp [user, source]), passes.noted]
    have answer := (outcome_representation_of_own lineOfUser noted ofUser).symm.trans
      served.representation
    have same : members.representation = .ofClass (.builtin .text) :=
      Option.some.inj (areOf.representation.symm.trans ofSource)
    rw [same] at answer
    cases answer

end DifferenceTypes.Contract
