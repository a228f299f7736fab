import DifferenceTypes.Proofs.Contract.Coherence

/-!
# Installations that stop half-way

A contract is installed member by member, and the implementing class may lack one of them. Then the
installation fails, and the members before the missing one stay with the target: it may have the type
of differences of one contract and the operations of another one. Nothing is given back.

What a class has after an installation, whole or not, is said attribute by attribute
(`attributes_after_install`).
-/

namespace DifferenceTypes

open Run (outcome)

variable {κ : Type}

/-! ### What assigning an attribute leaves alone -/

/-- A class without its attributes. -/
def ClassRecord.withoutAttributes (record : ClassRecord) : ClassRecord :=
  { record with attributes := [] }

namespace World

/-- The worlds have the same objects, and the same classes but for their attributes. -/
structure SameRecords (earlier later : World κ) : Prop where
  objects : later.objects = earlier.objects
  records : ∀ index : Nat, later.classes[index]?.map ClassRecord.withoutAttributes =
    earlier.classes[index]?.map ClassRecord.withoutAttributes

namespace SameRecords

variable {earlier later : World κ}

theorem refl (world : World κ) : world.SameRecords world :=
  ⟨rfl, fun _ => rfl⟩

theorem trans {first second third : World κ} (earlier : first.SameRecords second)
    (later : second.SameRecords third) : first.SameRecords third :=
  ⟨later.objects.trans earlier.objects,
    fun index => (later.records index).trans (earlier.records index)⟩

/-- What does not depend on the attributes of a class is the same. -/
theorem map_record? (same : earlier.SameRecords later) {α : Type} (part : ClassRecord → α)
    (free : ∀ record : ClassRecord, part record.withoutAttributes = part record) (identity : ClassId) :
    (later.record? identity).map part = (earlier.record? identity).map part := by
  cases identity with
  | builtin kind => rfl
  | defined index =>
    have records := congrArg (Option.map part) (same.records index)
    rw [Option.map_map, Option.map_map] at records
    have whole : part ∘ ClassRecord.withoutAttributes = part := funext free
    rwa [whole] at records

theorem ancestors (same : earlier.SameRecords later) (identity : ClassId) :
    later.ancestors identity = earlier.ancestors identity := by
  cases identity with
  | builtin kind => rfl
  | defined index =>
    have line (world : World κ) : world.ancestors (.defined index) =
        ((world.record? (.defined index)).map (·.ancestors)).getD [] := by
      simp only [World.ancestors, World.record?]
      cases world.classes[index]? <;> rfl
    rw [line, line, same.map_record? (·.ancestors) fun _ => rfl]

theorem isSubclass (same : earlier.SameRecords later) (first second : ClassId) :
    later.isSubclass first second = earlier.isSubclass first second := by
  simp only [World.isSubclass, same.ancestors]

theorem metaclass (same : earlier.SameRecords later) (identity : ClassId) :
    later.metaclass identity = earlier.metaclass identity := by
  simp only [World.metaclass, same.isSubclass]

/-- A class goes by the same names and bases. -/
theorem classProperty? (same : earlier.SameRecords later) (identity : ClassId) (name : String) :
    later.classProperty? identity name = earlier.classProperty? identity name := by
  have className : later.className identity = earlier.className identity := by
    cases identity with
    | builtin kind => rfl
    | defined index => exact congrArg (·.getD "") (same.map_record? (·.name) (fun _ => rfl) (.defined index))
  have qualifiedName : later.qualifiedName identity = earlier.qualifiedName identity := by
    cases identity with
    | builtin kind => rfl
    | defined index =>
      exact congrArg (·.getD "") (same.map_record? (·.qualifiedName) (fun _ => rfl) (.defined index))
  have bases := same.map_record? (·.bases) (fun _ => rfl) identity
  unfold World.classProperty?
  simp only [className, qualifiedName, same.metaclass, same.ancestors]
  split
  all_goals try rfl
  cases ofLater : later.record? identity <;> cases ofEarlier : earlier.record? identity <;>
    simp_all

theorem inheritedProperty? (same : earlier.SameRecords later) (identity : ClassId) (name : String) :
    later.inheritedProperty? identity name = earlier.inheritedProperty? identity name := by
  have parts {α : Type} (part : ClassRecord → α)
      (free : ∀ record : ClassRecord, part record.withoutAttributes = part record)
      (line : List ClassId) :
      (line.filterMap later.record?).map part = (line.filterMap earlier.record?).map part := by
    rw [List.map_filterMap, List.map_filterMap]
    exact congrArg (List.filterMap · line) (funext fun other => same.map_record? part free other)
  have written (line : List ClassId) :
      (line.filterMap later.record?).findSome? (fun record => record.writtenBases.map .tuple) =
        (line.filterMap earlier.record?).findSome? fun record =>
          record.writtenBases.map Value.tuple := by
    have bases := congrArg (List.findSome? id)
      (parts (fun record => record.writtenBases.map Value.tuple) (fun _ => rfl) line)
    rwa [List.findSome?_map, List.findSome?_map] at bases
  have parameters (line : List ClassId) :
      (line.filterMap later.record?).head?.map (·.parameters) =
        (line.filterMap earlier.record?).head?.map (·.parameters) := by
    rw [← List.head?_map, ← List.head?_map, parts _ fun _ => rfl]
  unfold World.inheritedProperty?
  simp only [same.ancestors, same.isSubclass, written, parameters]

/-- A class gives the same attribute if every class has the same of its own under this name. -/
theorem attributeOfClass? (same : earlier.SameRecords later) {name : String}
    (own : ∀ other, later.ownAttribute? other name = earlier.ownAttribute? other name)
    (identity : ClassId) :
    later.attributeOfClass? identity name = earlier.attributeOfClass? identity name := by
  have classAttribute? (other : ClassId) :
      later.classAttribute? other name = earlier.classAttribute? other name := by
    simp only [World.classAttribute?, same.ancestors, own]
  have isFunction : later.isFunction = earlier.isFunction := by
    funext found
    simp only [World.isFunction, same.objects]
  have bound : later.boundToInstance (.ofClass identity) =
      earlier.boundToInstance (.ofClass identity) := by
    funext found
    have classOf : later.classOf (.ofClass identity) = earlier.classOf (.ofClass identity) :=
      congrArg ClassId.builtin (same.metaclass identity)
    unfold World.boundToInstance
    rw [isFunction, classOf]
  simp only [World.attributeOfClass?, same.classProperty?, same.inheritedProperty?, same.metaclass,
    classAttribute?, bound]

end SameRecords

/-- Setting an attribute of a class changes no more of the classes than that. -/
theorem sameRecords_of_assignToClass {world later : World κ} {target : ClassId} {name : String}
    {value : Value} (noName : name ≠ "__name__") (noQualname : name ≠ "__qualname__")
    (ran : outcome (Access.assignToClass target name value) world = (.ok (), later)) :
    world.SameRecords later := by
  cases target with
  | builtin kind =>
    simp only [Access.assignToClass] at ran
    split at ran
    · cases ran
      exact ⟨rfl, fun _ => rfl⟩
    · cases ran
  | defined index =>
    cases ran
    refine ⟨rfl, fun place => ?_⟩
    rw [Array.getElem?_modify]
    split
    · next same =>
      subst same
      rw [Option.map_map]
      refine congrArg (Option.map · _) (funext fun record => ?_)
      simp [ClassRecord.withoutAttributes, record.assign_eq value noName noQualname]
    · rfl

end World

namespace Contract

open World (SameRecords)

variable {call : Caller κ} {world later : World κ} {target implementation : ClassId}

/-! ### Taking over what is there -/

/-- Members that are all taken over leave everything of the classes but attributes as it is. -/
theorem sameRecords_of_takeOver {names : List String} (noName : "__name__" ∉ names)
    (noQualname : "__qualname__" ∉ names)
    (ran : outcome (takeOver call target implementation names) world = (.ok (), later)) :
    world.SameRecords later := by
  induction names generalizing world with
  | nil =>
    cases ran
    exact .refl _
  | cons name rest inductionHypothesis =>
    obtain ⟨value, before, owns, takes⟩ := Run.outcome_bind_eq_ok ran
    obtain ⟨-, rfl⟩ := outcome_ownMember owns
    obtain ⟨⟨⟩, middle, sets, takesRest⟩ := Run.outcome_bind_eq_ok takes
    have assigns : before.SameRecords middle := World.sameRecords_of_assignToClass
      (by rintro rfl; simp at noName) (by rintro rfl; simp at noQualname) sets
    exact assigns.trans (inductionHypothesis (fun among => noName (List.mem_cons_of_mem _ among))
      (fun among => noQualname (List.mem_cons_of_mem _ among)) takesRest)

/-- Members are taken over one after the other. -/
theorem takeOver_append (target implementation : Value) (front behind : List String) :
    takeOver call target implementation (front ++ behind) = (do
      takeOver call target implementation front
      takeOver call target implementation behind) := by
  induction front with
  | nil => rfl
  | cons name rest inductionHypothesis =>
    simp only [List.cons_append, takeOver, inductionHypothesis, bind_assoc]

theorem outcome_ownMember_of_none {name : String}
    (missing : world.ownAttribute? implementation name = none) :
    outcome (ownMember implementation name) world = (.error .missingKey, world) := by
  unfold ownMember
  rw [Run.outcome_get_bind]
  simp only [pure_bind, missing]
  rfl

/-! ### Whole and broken installations -/

/-- Whether attributes of a class can be set. -/
def canChange : ClassId → Bool
  | .builtin kind => kind.isOpen
  | .defined _ => true

/-- The members that an installation takes over: those before the first one that the implementing class
does not have of its own, and none if the target cannot be changed. -/
def takeable (world : World κ) (target implementation : ClassId) : List String :=
  if canChange target then members.takeWhile fun name => (world.ownAttribute? implementation name).isSome
  else []

theorem isOpen_of_canChange (changes : canChange target = true) :
    ∀ kind, target = .builtin kind → kind.isOpen = true := by
  rintro kind rfl
  exact changes

/-- A class that cannot be changed gets nothing of a contract. -/
theorem install_of_closed (call : Caller κ) (world : World κ) (implementation : ClassId)
    (fixed : canChange target = false) :
    ∃ failure, outcome (install call target implementation) world = (.error failure, world) := by
  obtain ⟨kind, rfl⟩ : ∃ kind, target = .builtin kind := by
    cases target with
    | builtin kind => exact ⟨kind, rfl⟩
    | defined index => exact nomatch fixed
  suffices ∃ failure, outcome (takeOver call (ClassId.builtin kind) implementation members) world =
      (.error failure, world) by
    obtain ⟨failure, fails⟩ := this
    exact ⟨failure, Run.outcome_bind_of_error _ fails⟩
  cases own : world.ownAttribute? implementation "Repr" with
  | none =>
    exact ⟨.missingKey, Run.outcome_bind_of_error _ (outcome_ownMember_of_none own)⟩
  | some value =>
    have owns : outcome (ownMember implementation "Repr") world = (.ok value, world) := by
      unfold ownMember
      rw [Run.outcome_get_bind]
      simp only [pure_bind, own]
      rfl
    have refuses : outcome (Access.set call (ClassId.builtin kind) "Repr" value) world =
        (.error .wrongType, world) := by
      simp only [Access.set, Access.assignToClass, show kind.isOpen = false from fixed]
      rfl
    refine ⟨.wrongType, ?_⟩
    unfold members takeOver
    rw [Run.outcome_bind_of_ok _ owns]
    exact Run.outcome_bind_of_error _ refuses

/-- An installation that lacks a member fails where it gets to it, with the members before it taken
over. -/
theorem exists_install_of_missing (call : Caller κ) (there : world.HasClass target)
    (changes : canChange target = true)
    {front behind : List String} {missing : String} (split : members = front ++ missing :: behind)
    (given : ∀ name ∈ front, (world.ownAttribute? implementation name).isSome)
    (absent : world.ownAttribute? implementation missing = none) :
    ∃ later, outcome (install call target implementation) world = (.error .missingKey, later) ∧
      TakesOver world later target implementation front ∧ world.SameRecords later := by
  have among : ∀ name ∈ front, name ∈ members := fun name inside =>
    split ▸ List.mem_append_left _ inside
  have noName : "__name__" ∉ front := fun inside => absurd (among _ inside) (by decide)
  have noQualname : "__qualname__" ∉ front := fun inside => absurd (among _ inside) (by decide)
  obtain ⟨later, takes⟩ : ∃ later, outcome (takeOver call target implementation front) world =
      (.ok (), later) :=
    exists_takeOver there (isOpen_of_canChange changes) noName noQualname given
  have takesOver := takesOver_of_takeOver there noName noQualname takes
  -- The members before are other ones, so the missing one is still missing, also if the target is
  -- the implementing class itself.
  have apart : missing ∉ front := fun inside => by
    have present := given missing inside
    rw [absent] at present
    exact nomatch present
  have stillAbsent : later.ownAttribute? implementation missing = none :=
    (takesOver.kept _ _ fun both => apart both.2).trans absent
  refine ⟨later, ?_, takesOver, sameRecords_of_takeOver noName noQualname takes⟩
  have fails : outcome (takeOver call target implementation members) world =
      (.error .missingKey, later) := by
    rw [split, takeOver_append, Run.outcome_bind_of_ok _ takes]
    exact Run.outcome_bind_of_error _ (outcome_ownMember_of_none stillAbsent)
  exact Run.outcome_bind_of_error _ fails

/-- An installation that lacks nothing leaves everything of the classes but attributes as it is. -/
theorem sameRecords_of_install {value : Value}
    (ran : outcome (install call target implementation) world = (.ok value, later)) :
    world.SameRecords later := by
  obtain ⟨⟨⟩, middle, takes, notes⟩ := Run.outcome_bind_eq_ok ran
  obtain ⟨⟨⟩, after, sets, ends⟩ := Run.outcome_bind_eq_ok notes
  cases ends
  exact (sameRecords_of_takeOver (by decide) (by decide) takes).trans
    (World.sameRecords_of_assignToClass (by decide) (by decide) sets)

/-- A class at the head of its line of ancestors is there. -/
theorem hasClass_of_line {behind : List ClassId} (line : world.ancestors target = target :: behind) :
    world.HasClass target := by
  cases target with
  | builtin kind => trivial
  | defined index =>
    simp only [World.ancestors] at line
    cases found : world.classes[index]? with
    | some record => exact (Array.getElem?_eq_some_iff.1 found).1
    | none =>
      rw [found] at line
      cases line

/-- The members that an installation takes over are the first ones of the contract. -/
theorem exists_members_eq (world : World κ) (implementation : ClassId)
    (changes : canChange target = true) :
    (∀ name ∈ takeable world target implementation,
        (world.ownAttribute? implementation name).isSome) ∧
      (takeable world target implementation = members ∨ ∃ missing behind,
        members = takeable world target implementation ++ missing :: behind ∧
          world.ownAttribute? implementation missing = none) := by
  unfold takeable
  rw [if_pos changes]
  refine ⟨List.all_eq_true.1 List.all_takeWhile, ?_⟩
  cases rest : members.dropWhile fun name => (world.ownAttribute? implementation name).isSome with
  | nil =>
    refine .inl ?_
    have whole := List.takeWhile_append_dropWhile
      (p := fun name => (world.ownAttribute? implementation name).isSome) (l := members)
    rwa [rest, List.append_nil] at whole
  | cons missing behind =>
    refine .inr ⟨missing, behind, ?_, ?_⟩
    · rw [← rest, List.takeWhile_append_dropWhile]
    · have refused := List.head_dropWhile_not (p := fun name => (world.ownAttribute? implementation name).isSome)
        (l := members) (by rw [rest]; simp)
      simpa [rest] using refused

/-- What a class gives when it is asked after a contract was installed on it. Either all members and the
note of the implementing class are that class's own, or the installation fails: then only the members
before the first one that is missing are those of the implementing class, and every other attribute is
what it was. -/
theorem attributes_after_install (call : Caller κ) (world : World κ) (target implementation : ClassId)
    {behind : List ClassId} (line : world.ancestors target = target :: behind) :
    (takeable world target implementation = members →
      ∃ later, outcome (install call target implementation) world =
          (.ok (.ofClass implementation), later) ∧
        ∀ name, later.attributeOfClass? target name =
          if name ∈ members then
            (world.ownAttribute? implementation name).map (World.boundToClass target)
          else if name = implementationName then some (.ofClass implementation)
          else world.attributeOfClass? target name) ∧
    (takeable world target implementation ≠ members →
      ∃ failure later, outcome (install call target implementation) world = (.error failure, later) ∧
        ∀ name, later.attributeOfClass? target name =
          if name ∈ takeable world target implementation then
            (world.ownAttribute? implementation name).map (World.boundToClass target)
          else world.attributeOfClass? target name) := by
  have there := hasClass_of_line line
  by_cases changes : canChange target = true
  · obtain ⟨given, whole | ⟨missing, rest, split, absent⟩⟩ :=
      exists_members_eq world implementation changes
    · refine ⟨fun _ => ?_, fun broken => absurd whole broken⟩
      obtain ⟨later, ran⟩ : ∃ later, outcome (install call target implementation) world =
          (.ok (.ofClass implementation), later) :=
        exists_install there (isOpen_of_canChange changes) (whole ▸ given)
      have installs := installs_of_install there ran
      have sameRecords := sameRecords_of_install ran
      have lineLater := (sameRecords.ancestors target).trans line
      refine ⟨later, ran, fun name => ?_⟩
      split
      · next among =>
        obtain ⟨value, own⟩ := Option.isSome_iff_exists.1 (installs.given name among)
        rw [own, Option.map_some]
        exact World.attributeOfClass?_of_own (noProperty later target (List.mem_append_left _ among)).1
          lineLater ((installs.taken name among).trans own)
      · next notMember =>
        split
        · next isNote =>
          subst isNote
          exact World.attributeOfClass?_of_own (noProperty later target (by decide)).1 lineLater
            installs.noted
        · next notNote =>
          exact sameRecords.attributeOfClass? (fun other => installs.kept other name fun both =>
            (List.mem_append.1 both.2).elim notMember fun note => notNote (List.mem_singleton.1 note)) target
    · have broken : takeable world target implementation ≠ members := fun whole => by
        rw [whole] at split
        exact absurd (congrArg List.length split) (by simp)
      refine ⟨fun whole => absurd whole broken, fun _ => ?_⟩
      obtain ⟨later, fails, takesOver, sameRecords⟩ := exists_install_of_missing call there changes
        split given absent
      refine ⟨.missingKey, later, fails, fun name => ?_⟩
      split
      · next among =>
        obtain ⟨value, own⟩ := Option.isSome_iff_exists.1 (given name among)
        rw [own, Option.map_some]
        have isMember : name ∈ members := split ▸ List.mem_append_left _ among
        exact World.attributeOfClass?_of_own (noProperty later target (List.mem_append_left _ isMember)).1
          ((sameRecords.ancestors target).trans line) ((takesOver.taken name among).trans own)
      · next notTaken =>
        exact sameRecords.attributeOfClass? (fun other => takesOver.kept other name fun both =>
          notTaken both.2) target
  · have nothing : takeable world target implementation = [] := by
      unfold takeable
      rw [if_neg changes]
    refine ⟨fun whole => absurd (nothing.symm.trans whole) (by decide), fun _ => ?_⟩
    obtain ⟨failure, fails⟩ :=
      install_of_closed call world implementation (Bool.eq_false_iff.2 changes)
    refine ⟨failure, world, fails, fun name => ?_⟩
    rw [nothing, if_neg List.not_mem_nil]

/-- A class `P` that has its contract from a class `I`, and a class `J` that defines two members. -/
def incompleteWorld : World SessionContract :=
  (outcome (do
    let carrier ← Derivation.derive "P" "P" [] [] []
    let whole ← Derivation.derive "I" "I" []
      [("Repr", .builtin .integer), ("diff", .none), ("apply", .none), ("identity", .none)] []
    discard (Derivation.derive "J" "J" [] [("Repr", .builtin .text), ("diff", .none)] [])
    install (Evaluation.call SessionContract.behaviour) carrier (.ofClass whole)) World.empty).2

/-- The contract of `J` stops behind the difference: `P` has the type of differences from `J` and still
the identity from `I`. -/
theorem attributes_after_incomplete_install :
    incompleteWorld.ancestors (.defined 0) = [.defined 0, .builtin .object] ∧
      takeable incompleteWorld (.defined 0) (.defined 2) = ["Repr", "diff"] ∧
      ∃ failure later, outcome (install (Evaluation.call SessionContract.behaviour) (ClassId.defined 0)
          (ClassId.defined 2)) incompleteWorld = (.error failure, later) ∧
        later.attributeOfClass? (.defined 0) "Repr" = some (.builtin .text) ∧
        later.attributeOfClass? (.defined 0) "identity" = some .none ∧
        later.attributeOfClass? (.defined 0) implementationName = some (.ofClass (.defined 1)) := by
  have line : incompleteWorld.ancestors (.defined 0) = [.defined 0, .builtin .object] := rfl
  have taken : takeable incompleteWorld (.defined 0) (.defined 2) = ["Repr", "diff"] := rfl
  obtain ⟨failure, later, fails, attributes⟩ := (attributes_after_install
    (Evaluation.call SessionContract.behaviour) incompleteWorld (.defined 0) (.defined 2) line).2
      (by rw [taken]; decide)
  rw [taken] at attributes
  refine ⟨line, taken, failure, later, fails, ?_, ?_, ?_⟩
  · rw [attributes, if_pos (by decide)]
    rfl
  · rw [attributes, if_neg (by decide)]
    rfl
  · rw [attributes, if_neg (by decide)]
    rfl

/-- A failed installation leaves the target with another type of differences than it had. -/
theorem representation_changed_by_incomplete_install :
    ∃ failure later, outcome (install (Evaluation.call SessionContract.behaviour) (ClassId.defined 0)
        (ClassId.defined 2)) incompleteWorld = (.error failure, later) ∧
      later.attributeOfClass? (.defined 0) "Repr" ≠
        incompleteWorld.attributeOfClass? (.defined 0) "Repr" :=
  ⟨.missingKey, _, rfl, by decide⟩

end Contract

end DifferenceTypes
