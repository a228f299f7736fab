import DifferenceTypes.Contract.Installation
import DifferenceTypes.Proofs.Contract.Leaves
import DifferenceTypes.Proofs.Object.ClassAttributes

/-!
# Histories of contracts

A contract is installed on a class by taking members over, and a class may get another one later. Leaf
contracts are registered and taken away in between, and classes derived. A history notes what was done,
the last first; it alone says which contract a class has.

A world that is reached has what its history says, as long as only the classes made for it define
members of a contract, and no class from which another one has its contract is given a new one: the
members that were taken over would stay, and the class would go on with the new ones.
-/

namespace DifferenceTypes.Contract

open Run (outcome)
open World (Assigns SameLines)

variable {κ : Type}

/-! ### Taking members over -/

/-- The attributes that an installed contract consists of. -/
def contractNames : List String :=
  members ++ [implementationName]

/-- What taking members over does: the target has them as the implementing class has them, and nothing
else changes. -/
structure TakesOver (earlier later : World κ) (target implementation : ClassId) (names : List String) :
    Prop where
  lines : earlier.SameLines later
  given : ∀ name ∈ names, (earlier.ownAttribute? implementation name).isSome
  taken : ∀ name ∈ names, later.ownAttribute? target name = earlier.ownAttribute? implementation name
  kept : ∀ other asked, ¬(other = target ∧ asked ∈ names) →
    later.ownAttribute? other asked = earlier.ownAttribute? other asked

theorem outcome_ownMember {world later : World κ} {implementation : ClassId} {name : String}
    {value : Value} (ran : outcome (ownMember implementation name) world = (.ok value, later)) :
    world.ownAttribute? implementation name = some value ∧ later = world := by
  unfold ownMember at ran
  rw [Run.outcome_get_bind] at ran
  simp only [pure_bind] at ran
  cases found : world.ownAttribute? implementation name with
  | none => simp only [found] at ran; exact nomatch ran
  | some member =>
    simp only [found] at ran
    cases ran
    exact ⟨rfl, rfl⟩

theorem takesOver_of_takeOver {call : Caller κ} {world later : World κ} {target implementation : ClassId}
    {names : List String} (there : world.HasClass target)
    (noName : "__name__" ∉ names) (noQualname : "__qualname__" ∉ names)
    (ran : outcome (takeOver call target implementation names) world = (.ok (), later)) :
    TakesOver world later target implementation names := by
  induction names generalizing world with
  | nil =>
    cases ran
    exact ⟨.refl _, by simp, by simp, fun _ _ _ => rfl⟩
  | cons name rest inductionHypothesis =>
    obtain ⟨value, before, owns, takes⟩ := Run.outcome_bind_eq_ok ran
    obtain ⟨given, rfl⟩ := outcome_ownMember owns
    obtain ⟨⟨⟩, middle, sets, takesRest⟩ := Run.outcome_bind_eq_ok takes
    have assigns : Assigns before middle target name value :=
      Access.assigns_of_assignToClass there (by rintro rfl; simp at noName)
        (by rintro rfl; simp at noQualname) sets
    have later := inductionHypothesis (assigns.lines.hasClass there)
      (fun among => noName (List.mem_cons_of_mem _ among))
      (fun among => noQualname (List.mem_cons_of_mem _ among)) takesRest
    -- What the implementing class has is what it had before, also if it is the target itself.
    have same (asked : String) :
        middle.ownAttribute? implementation asked = before.ownAttribute? implementation asked := by
      rw [assigns.own]
      split
      · next here => rw [here.2, given]
      · rfl
    refine ⟨assigns.lines.trans later.lines, fun asked among => ?_, fun asked among => ?_,
      fun other asked apart => ?_⟩
    · rcases List.mem_cons.1 among with rfl | behind
      · rw [given]; rfl
      · rw [← same]; exact later.given asked behind
    · by_cases behind : asked ∈ rest
      · rw [later.taken asked behind, same]
      · have here : asked = name := (List.mem_cons.1 among).resolve_right behind
        rw [later.kept _ _ fun both => behind both.2, assigns.own, if_pos ⟨rfl, here⟩, here, given]
    · rw [later.kept _ _ fun both => apart ⟨both.1, List.mem_cons_of_mem _ both.2⟩, assigns.own, if_neg]
      rintro ⟨rfl, rfl⟩
      exact apart ⟨rfl, List.mem_cons_self⟩

/-- Members that the implementing class has can be taken over by every class that can be changed. -/
theorem exists_takeOver {call : Caller κ} {world : World κ} {target implementation : ClassId}
    {names : List String} (there : world.HasClass target)
    (isOpen : ∀ kind, target = .builtin kind → kind.isOpen = true)
    (noName : "__name__" ∉ names) (noQualname : "__qualname__" ∉ names)
    (given : ∀ name ∈ names, (world.ownAttribute? implementation name).isSome) :
    ∃ later, outcome (takeOver call target implementation names) world = (.ok (), later) := by
  induction names generalizing world with
  | nil => exact ⟨world, rfl⟩
  | cons name rest inductionHypothesis =>
    obtain ⟨value, own⟩ := Option.isSome_iff_exists.1 (given name List.mem_cons_self)
    have owns : outcome (ownMember implementation name) world = (.ok value, world) := by
      unfold ownMember
      rw [Run.outcome_get_bind]
      simp only [pure_bind, own]
      rfl
    obtain ⟨middle, sets⟩ := Access.exists_assignToClass world isOpen name value
    have assigns : Assigns world middle target name value :=
      Access.assigns_of_assignToClass there (by rintro rfl; simp at noName)
        (by rintro rfl; simp at noQualname) sets
    obtain ⟨later, takes⟩ := inductionHypothesis (assigns.lines.hasClass there)
      (fun among => noName (List.mem_cons_of_mem _ among))
      (fun among => noQualname (List.mem_cons_of_mem _ among)) fun asked among => by
        rw [assigns.own]
        split
        · rfl
        · exact given asked (List.mem_cons_of_mem _ among)
    refine ⟨later, ?_⟩
    unfold takeOver
    rw [Run.outcome_bind_of_ok _ owns]
    exact (Run.outcome_bind_of_ok _ sets).trans takes

/-- What installing a contract does: the target has the members as the implementing class has them and
notes that class, and nothing else changes. -/
structure Installs (earlier later : World κ) (target implementation : ClassId) : Prop where
  lines : earlier.SameLines later
  given : ∀ name ∈ members, (earlier.ownAttribute? implementation name).isSome
  taken : ∀ name ∈ members,
    later.ownAttribute? target name = earlier.ownAttribute? implementation name
  noted : later.ownAttribute? target implementationName = some (.ofClass implementation)
  kept : ∀ other asked, ¬(other = target ∧ asked ∈ contractNames) →
    later.ownAttribute? other asked = earlier.ownAttribute? other asked
  isOpen : ∀ kind, target = .builtin kind → kind.isOpen = true

theorem isOpen_of_assignToClass {world later : World κ} {kind : BuiltinClass} {name : String}
    {value : Value}
    (ran : outcome (Access.assignToClass (.builtin kind) name value) world = (.ok (), later)) :
    kind.isOpen = true := by
  simp only [Access.assignToClass] at ran
  split at ran
  · assumption
  · cases ran

theorem installs_of_install {call : Caller κ} {world later : World κ} {target implementation : ClassId}
    {value : Value} (there : world.HasClass target)
    (ran : outcome (install call target implementation) world = (.ok value, later)) :
    Installs world later target implementation := by
  obtain ⟨⟨⟩, middle, takes, notes⟩ := Run.outcome_bind_eq_ok ran
  obtain ⟨⟨⟩, after, sets, ends⟩ := Run.outcome_bind_eq_ok notes
  cases ends
  have takesOver := takesOver_of_takeOver there (by decide) (by decide) takes
  have assigns : Assigns middle later target implementationName implementation :=
    Access.assigns_of_assignToClass (takesOver.lines.hasClass there) (by decide) (by decide) sets
  have apart {name : String} (among : name ∈ members) : name ≠ implementationName := by
    rintro rfl
    exact absurd among (by decide)
  refine ⟨takesOver.lines.trans assigns.lines, takesOver.given, fun name among => ?_, ?_,
    fun other asked different => ?_, ?_⟩
  · rw [assigns.own, if_neg fun both => apart among both.2, takesOver.taken name among]
  · rw [assigns.own, if_pos ⟨rfl, rfl⟩]
  · rw [assigns.own, if_neg, takesOver.kept]
    · exact fun both => different ⟨both.1, List.mem_append_left _ both.2⟩
    · exact fun both => different ⟨both.1, List.mem_append_right _ (List.mem_singleton.2 both.2)⟩
  · rintro kind rfl
    exact isOpen_of_assignToClass sets

/-- A contract whose members a class has of its own can be installed on every class that can be changed. -/
theorem exists_install {call : Caller κ} {world : World κ} {target implementation : ClassId}
    (there : world.HasClass target) (isOpen : ∀ kind, target = .builtin kind → kind.isOpen = true)
    (given : ∀ name ∈ members, (world.ownAttribute? implementation name).isSome) :
    ∃ later, outcome (install call target implementation) world =
      (.ok (.ofClass implementation), later) := by
  obtain ⟨middle, takes⟩ := exists_takeOver there isOpen (by decide) (by decide) given
  obtain ⟨later, sets⟩ := Access.exists_assignToClass middle isOpen implementationName
    (.ofClass implementation)
  refine ⟨later, ?_⟩
  unfold install
  rw [Run.outcome_bind_of_ok _ takes]
  exact Run.outcome_bind_of_ok _ sets

/-! ### Histories -/

/-- What bears on contracts. -/
inductive Event (κ : Type) where
  /-- A class was made to implement a contract: its body defines members. -/
  | made (implementation : ClassId)
  | installed (target implementation : ClassId)
  | registered (key : Value) (leaf : Leaf κ)
  | unregistered (key : Value)

/-- What was done, the last first. -/
abbrev History (κ : Type) := List (Event κ)

namespace History

/-- The class whose contract was installed on a class last. -/
def implementation? : History κ → ClassId → Option ClassId
  | [], _ => none
  | .installed target implementation :: earlier, identity =>
    if target = identity then some implementation else implementation? earlier identity
  | _ :: earlier, identity => implementation? earlier identity

/-- The leaf of a class, if what was last done to it was to register one. -/
def leaf? : History κ → ClassId → Option (Leaf κ)
  | [], _ => none
  | .registered key leaf :: earlier, identity =>
    if key = identity then some leaf else leaf? earlier identity
  | .unregistered key :: earlier, identity =>
    if key = identity then none else leaf? earlier identity
  | _ :: earlier, identity => leaf? earlier identity

/-- Whether a class defines no member of a contract itself. -/
def IsPlain (history : History κ) (identity : ClassId) : Prop :=
  .made identity ∉ history

/-- Whether no contract was installed on a class whose own contract another class had at that time. -/
def IsSettled : History κ → Prop
  | [] => True
  | .installed target _ :: earlier =>
    (∀ other, implementation? earlier other = some target → other = target) ∧ IsSettled earlier
  | _ :: earlier => IsSettled earlier

end History

/-- Nothing was done that bears on contracts: the classes have the attributes of contracts as before. -/
structure SameContracts (earlier later : World κ) : Prop where
  lines : earlier.SameLines later
  own : ∀ identity, ∀ name ∈ contractNames,
    later.ownAttribute? identity name = earlier.ownAttribute? identity name

/-- The worlds that come about by deriving classes, registering contracts and installing them, with
anything in between that does not bear on contracts. -/
inductive Reached (call : Caller κ) : History κ → World κ → Prop
  | start : Reached call [] World.empty
  | other {history : History κ} {world later : World κ} (reached : Reached call history world)
    (same : SameContracts world later) : Reached call history later
  | derive {history : History κ} {world later : World κ} {identity : ClassId}
    {name qualifiedName : String} {written : List Value} {attributes annotations : Attributes}
    (reached : Reached call history world)
    (bare : ∀ member ∈ contractNames, attributes.get? member = none)
    (ran : outcome (Derivation.derive name qualifiedName written attributes annotations) world =
      (.ok identity, later)) : Reached call history later
  | make {history : History κ} {world later : World κ} {implementation : ClassId}
    {name qualifiedName : String} {written : List Value} {attributes annotations : Attributes}
    (reached : Reached call history world)
    (ran : outcome (Derivation.derive name qualifiedName written attributes annotations) world =
      (.ok implementation, later)) : Reached call (.made implementation :: history) later
  | register {history : History κ} {world later : World κ} {key : Value} {contract : κ}
    {representation : Value} (reached : Reached call history world) (isKey : IsKey call world key)
    (ran : outcome (Contract.register call key contract representation) world = (.ok (), later)) :
    Reached call (.registered key (leafOf key contract representation) :: history) later
  | unregister {history : History κ} {world later : World κ} {key : Value}
    (reached : Reached call history world) (isKey : IsKey call world key)
    (ran : outcome (Contract.unregister call key) world = (.ok (), later)) :
    Reached call (.unregistered key :: history) later
  /-- The target defines no members itself. -/
  | install {history : History κ} {world later : World κ} {target implementation : ClassId}
    {value : Value} (reached : Reached call history world) (there : world.HasClass target)
    (plain : history.IsPlain target)
    (ran : outcome (Contract.install call target implementation) world = (.ok value, later)) :
    Reached call (.installed target implementation :: history) later

/-- A contract whose members a class has of its own can be installed on every plain class. -/
theorem Reached.exists_install {call : Caller κ} {history : History κ} {world : World κ}
    (reached : Reached call history world) {target implementation : ClassId}
    (there : world.HasClass target) (isOpen : ∀ kind, target = .builtin kind → kind.isOpen = true)
    (plain : history.IsPlain target)
    (given : ∀ name ∈ members, (world.ownAttribute? implementation name).isSome) :
    ∃ later, Reached call (.installed target implementation :: history) later ∧
      Installs world later target implementation := by
  obtain ⟨later, ran⟩ := Contract.exists_install there isOpen given
  exact ⟨later, .install reached there plain ran, installs_of_install there ran⟩

/-! ### What a history says of its world -/

/-- The world is as the history says: leaves and installed contracts are those that it names, and no
class has anything of a contract otherwise, unless it was made to implement one. -/
structure AccordsWith (call : Caller κ) (history : History κ) (world : World κ) : Prop where
  isKeyed : IsKeyed call world.leaves
  leaves : ∀ identity, ownLeaf? world.leaves identity = history.leaf? identity
  heads : ∀ identity, world.HasClass identity → ∃ behind, world.ancestors identity = identity :: behind
  closed : world.IsClosed
  installed : ∀ {identity implementation}, history.implementation? identity = some implementation →
    ∀ name ∈ members, (world.ownAttribute? implementation name).isSome ∧
      world.ownAttribute? identity name = world.ownAttribute? implementation name
  noted : ∀ identity, history.IsPlain identity → world.ownAttribute? identity implementationName =
    (history.implementation? identity).map .ofClass
  bare : ∀ identity, history.IsPlain identity → history.implementation? identity = none →
    ∀ name ∈ members, world.ownAttribute? identity name = none

/-- No built-in class has anything of a contract. -/
theorem get?_builtin_attributes (kind : BuiltinClass) {name : String} (among : name ∈ contractNames) :
    kind.attributes.get? name = none := by
  have names : name = "Repr" ∨ name = "diff" ∨ name = "apply" ∨ name = "identity" ∨
      name = "__diff_impl__" := by
    simpa [contractNames, members, implementationName] using among
  rcases names with rfl | rfl | rfl | rfl | rfl <;> cases kind <;> rfl

theorem own_empty (identity : ClassId) {name : String} (among : name ∈ contractNames) :
    (World.empty : World κ).ownAttribute? identity name = none := by
  cases identity with
  | builtin kind => exact get?_builtin_attributes kind among
  | defined index => rfl

namespace AccordsWith

variable {call : Caller κ} {history : History κ} {world later : World κ}

theorem start : AccordsWith call [] World.empty where
  isKeyed := .nil
  leaves _ := rfl
  heads identity there := by
    cases identity with
    | builtin kind =>
      obtain ⟨behind, line⟩ := kind.exists_ancestors_eq
      exact ⟨behind.map .builtin, by simp [World.ancestors, line]⟩
    | defined index => exact absurd there (Nat.not_lt_zero index)
  closed _ _ := rfl
  installed given := nomatch given
  noted identity _ := own_empty identity (by decide)
  bare identity _ _ name among := own_empty identity (List.mem_append_left _ among)

/-- What does not bear on contracts leaves everything as the history says. -/
theorem other (accords : AccordsWith call history world) (same : SameContracts world later) :
    AccordsWith call history later := by
  have own {identity : ClassId} {name : String} (among : name ∈ members) :
      later.ownAttribute? identity name = world.ownAttribute? identity name :=
    same.own identity name (List.mem_append_left _ among)
  refine ⟨same.lines.leaves ▸ accords.isKeyed, fun identity => ?_, fun identity there => ?_,
    fun kind closed => ?_, fun given name among => ?_, fun identity plain => ?_,
    fun identity plain free name among => ?_⟩
  · rw [same.lines.leaves, accords.leaves]
  · have before : world.HasClass identity := by
      cases identity with
      | builtin kind => trivial
      | defined index => exact lt_of_lt_of_eq there same.lines.size
    rw [same.lines.ancestors]
    exact accords.heads identity before
  · rw [same.lines.closed kind closed, accords.closed kind closed]
  · rw [own among, own among]
    exact accords.installed given name among
  · rw [same.own identity _ (by decide), accords.noted identity plain]
  · rw [own among, accords.bare identity plain free name among]

/-- Where a contract was installed the members are there, so the class is there too. -/
theorem hasClass (accords : AccordsWith call history world) {identity implementation : ClassId}
    (given : history.implementation? identity = some implementation) :
    world.HasClass identity ∧ world.HasClass implementation := by
  obtain ⟨isSome, same⟩ := accords.installed given "Repr" (by decide)
  obtain ⟨value, own⟩ := Option.isSome_iff_exists.1 isSome
  exact ⟨World.hasClass_of_own (same.trans own), World.hasClass_of_own own⟩

/-- A class that is new carries no contract and implements none. -/
theorem free_of_derives (accords : AccordsWith call history world) {attributes : Attributes}
    {identity other : ClassId} (derives : Derivation.Derives world later identity attributes)
    {implementation : ClassId} (given : history.implementation? other = some implementation) :
    other ≠ identity ∧ implementation ≠ identity := by
  obtain ⟨there, implementing⟩ := accords.hasClass given
  exact ⟨fun same => derives.absent (same ▸ there), fun same => derives.absent (same ▸ implementing)⟩

/-- Deriving a class changes nothing for the others, and the new class is as its body says. -/
theorem of_derives (accords : AccordsWith call history world) {attributes : Attributes} {identity : ClassId}
    (derives : Derivation.Derives world later identity attributes) {extended : History κ}
    (leaves : extended.leaf? = history.leaf?)
    (implementations : extended.implementation? = history.implementation?)
    (plain : ∀ other, extended.IsPlain other → history.IsPlain other)
    (bare : extended.IsPlain identity → ∀ name ∈ contractNames, attributes.get? name = none) :
    AccordsWith call extended later := by
  have newOwn {name : String} (isPlain : extended.IsPlain identity) (among : name ∈ contractNames) :
      later.ownAttribute? identity name = none := by
    rw [derives.attributes name (by rintro rfl; exact absurd among (by decide))
      (by rintro rfl; exact absurd among (by decide))]
    exact bare isPlain name among
  have free : history.implementation? identity = none := by
    cases given : history.implementation? identity with
    | none => rfl
    | some implementation => exact absurd rfl (accords.free_of_derives derives given).1
  refine ⟨derives.leaves ▸ accords.isKeyed, fun other => ?_, fun other there => ?_,
    fun kind closed => ?_, fun {other implementation} given name among => ?_, fun other isPlain => ?_,
    fun other isPlain unserved name among => ?_⟩
  · rw [derives.leaves, accords.leaves, leaves]
  · by_cases same : other = identity
    · exact same ▸ derives.line
    · rw [derives.ancestors other same]
      refine accords.heads other ?_
      cases other with
      | builtin kind => trivial
      | defined index =>
        have below : index < world.classes.size + 1 := lt_of_lt_of_eq there derives.size
        have different : index ≠ world.classes.size :=
          fun equal => same (derives.isNew ▸ congrArg _ equal)
        exact Nat.lt_of_le_of_ne (Nat.le_of_lt_succ below) different
  · rw [derives.closed, accords.closed kind closed]
  · rw [implementations] at given
    obtain ⟨notTarget, notSource⟩ := accords.free_of_derives derives given
    rw [derives.own other name notTarget, derives.own implementation name notSource]
    exact accords.installed given name among
  · rw [implementations]
    by_cases same : other = identity
    · rw [same, newOwn (same ▸ isPlain) (by decide), free]
      rfl
    · rw [derives.own other _ same, accords.noted other (plain other isPlain)]
  · rw [implementations] at unserved
    by_cases same : other = identity
    · rw [same, newOwn (same ▸ isPlain) (List.mem_append_left _ among)]
    · rw [derives.own other name same, accords.bare other (plain other isPlain) unserved name among]

/-- A change of the leaves alone. -/
theorem of_leaves (accords : AccordsWith call history world) {changed : List (Value × Leaf κ)}
    {extended : History κ} (isKeyed : IsKeyed call changed)
    (leaves : ∀ identity, ownLeaf? changed identity = extended.leaf? identity)
    (implementations : extended.implementation? = history.implementation?)
    (plain : ∀ identity, extended.IsPlain identity → history.IsPlain identity) :
    AccordsWith call extended { world with leaves := changed } := by
  have own (identity : ClassId) (name : String) :
      World.ownAttribute? { world with leaves := changed } identity name =
        world.ownAttribute? identity name := by
    cases identity <;> rfl
  have line (identity : ClassId) :
      World.ancestors { world with leaves := changed } identity = world.ancestors identity := by
    cases identity <;> rfl
  refine ⟨isKeyed, leaves, fun identity there => ?_, accords.closed,
    fun given name among => ?_, fun identity isPlain => ?_, fun identity isPlain unserved name among => ?_⟩
  · rw [line]
    exact accords.heads identity (by cases identity <;> exact there)
  · rw [implementations] at given
    rw [own, own]
    exact accords.installed given name among
  · rw [own, implementations, accords.noted identity (plain identity isPlain)]
  · rw [implementations] at unserved
    rw [own, accords.bare identity (plain identity isPlain) unserved name among]

/-- Installing a contract gives the target that contract. No class that took members over from the
target before is left behind, since there is none. -/
theorem of_installs (accords : AccordsWith call history world) {target implementation : ClassId}
    (installs : Installs world later target implementation)
    (unused : ∀ other, history.implementation? other = some target → other = target) :
    AccordsWith call (.installed target implementation :: history) later := by
  have kept {other : ClassId} (different : other ≠ target) (asked : String) :
      later.ownAttribute? other asked = world.ownAttribute? other asked :=
    installs.kept other asked fun both => different both.1
  have implementations (other : ClassId) :
      History.implementation? (.installed target implementation :: history) other =
        if target = other then some implementation else history.implementation? other := rfl
  have plain {other : ClassId}
      (isPlain : History.IsPlain (.installed target implementation :: history) other) :
      history.IsPlain other :=
    fun among => isPlain (List.mem_cons_of_mem _ among)
  -- Also if the target implements its own contract, it goes on with the members that it had.
  have source {name : String} (among : name ∈ members) :
      later.ownAttribute? implementation name = world.ownAttribute? implementation name := by
    by_cases same : implementation = target
    · rw [same, installs.taken name among, same]
    · exact kept same name
  refine ⟨installs.lines.leaves ▸ accords.isKeyed, fun other => ?_, fun other there => ?_,
    fun kind closed => ?_, fun {other served} given name among => ?_, fun other isPlain => ?_,
    fun other isPlain unserved name among => ?_⟩
  · rw [installs.lines.leaves, accords.leaves]
    rfl
  · rw [installs.lines.ancestors]
    refine accords.heads other ?_
    cases other with
    | builtin kind => trivial
    | defined index => exact lt_of_lt_of_eq there installs.lines.size
  · rw [installs.lines.closed kind closed, accords.closed kind closed]
  · rw [implementations] at given
    by_cases same : target = other
    · rw [if_pos same] at given
      cases given
      rw [← same, source among, installs.taken name among]
      exact ⟨installs.given name among, rfl⟩
    · rw [if_neg same] at given
      have notServed : served ≠ target := fun equal => same (unused other (equal ▸ given)).symm
      rw [kept (Ne.symm same), kept notServed]
      exact accords.installed given name among
  · rw [implementations]
    by_cases same : target = other
    · rw [if_pos same, ← same, installs.noted]
      rfl
    · rw [if_neg same, kept (Ne.symm same), accords.noted other (plain isPlain)]
  · rw [implementations] at unserved
    by_cases same : target = other
    · rw [if_pos same] at unserved
      exact nomatch unserved
    · rw [if_neg same] at unserved
      rw [kept (Ne.symm same), accords.bare other (plain isPlain) unserved name among]

end AccordsWith

/-- Every world that is reached by a settled history is as that history says. -/
theorem Reached.accordsWith {call : Caller κ} {history : History κ} {world : World κ}
    (reached : Reached call history world) (settled : history.IsSettled) :
    AccordsWith call history world := by
  have tail {history : History κ} {event : Event κ} {identity : ClassId}
      (plain : History.IsPlain (event :: history) identity) : history.IsPlain identity :=
    fun among => plain (List.mem_cons_of_mem _ among)
  induction reached with
  | start => exact .start
  | other _ same inductionHypothesis => exact (inductionHypothesis settled).other same
  | derive _ bare ran inductionHypothesis =>
    exact (inductionHypothesis settled).of_derives (Derivation.derives_of_derive ran) rfl rfl
      (fun _ plain => plain) fun _ => bare
  | make _ ran inductionHypothesis =>
    exact (inductionHypothesis settled).of_derives (Derivation.derives_of_derive ran) rfl rfl
      (fun _ => tail) fun plain => absurd List.mem_cons_self plain
  | @register history world _ key contract representation _ isKey ran inductionHypothesis =>
    have accords := inductionHypothesis settled
    obtain ⟨changed, registers, keyed, own⟩ :=
      exists_register accords.closed accords.isKeyed isKey contract representation
    obtain rfl := (Prod.mk.inj (registers.symm.trans ran)).2
    refine accords.of_leaves keyed (fun identity => ?_) rfl fun _ => tail
    rw [own, accords.leaves]
    rfl
  | @unregister history world _ key _ isKey ran inductionHypothesis =>
    have accords := inductionHypothesis settled
    obtain ⟨changed, unregisters, keyed, own⟩ :=
      exists_unregister accords.closed accords.isKeyed isKey
    obtain rfl := (Prod.mk.inj (unregisters.symm.trans ran)).2
    refine accords.of_leaves keyed (fun identity => ?_) rfl fun _ => tail
    rw [own, accords.leaves]
    rfl
  | install _ there _ ran inductionHypothesis =>
    exact (inductionHypothesis settled.2).of_installs (installs_of_install there ran) settled.1

end DifferenceTypes.Contract
