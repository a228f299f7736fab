import DifferenceTypes.Proofs.Evaluation.ClassBody
import DifferenceTypes.Proofs.Generation.InjectedImports

/-!
# Names bound by imports

What a module has under a name when some of its statements have run, if they bind this name to one library
only: the library, as soon as one of them has imported it.
-/

namespace DifferenceTypes

open Run (outcome)

variable {κ : Type}

/-! ### Frames of a module -/

/-- A frame of a module's body, which has no names of its own and no private ones. -/
structure Frame.IsModule (frame : Frame) : Prop where
  place : frame.place = .module
  owner : frame.owner = none

theorem Frame.isModule_ofModule : Frame.ofModule.IsModule :=
  ⟨rfl, rfl⟩

/-- A later frame belongs to a module if an earlier one did. -/
def Frame.KeepsModule (earlier later : Frame) : Prop :=
  earlier.IsModule → later.IsModule

instance Frame.courseOfKeepsModule : Frame.StatementCourse Frame.KeepsModule where
  refl _ := id
  trans earlier later := later ∘ earlier
  bindings _ _ := fun ⟨place, owner⟩ => ⟨place, owner⟩
  postponed _ _ := fun ⟨place, owner⟩ => ⟨place, owner⟩
  shared _ _ := fun ⟨place, owner⟩ => ⟨place, owner⟩

theorem Frame.leavesAnnotations_keepsModule : Frame.LeavesAnnotations Frame.KeepsModule :=
  fun _ _ ⟨place, owner⟩ => ⟨place, owner⟩

/-! ### Statements that bind a name -/

namespace Evaluation

/-- Each statement of a run that goes through leaves a name alone or makes it stand for a value. -/
def BindsOnly (call : Caller κ) (name : String) (value : Value) : List (Stmt Unit) → Frame → World κ → Prop
  | [], _, _ => True
  | statement :: rest, frame, world =>
    ∀ after later, outcome (StateT.run (run call statement) frame) world = (.ok (.next, after), later) →
      (later.module.get? name = world.module.get? name ∨ later.module.get? name = some value) ∧
        BindsOnly call name value rest after later

variable {call : Caller κ} {name : String} {value : Value}

/-- Behind a statement the frame still belongs to the module, and behind several ones. -/
theorem isModule_of_run {statement : Stmt Unit} {frame after : Frame} {world later : World κ} {flow : Flow}
    (isModule : frame.IsModule)
    (ran : outcome (StateT.run (run call statement) frame) world = (.ok (flow, after), later)) :
    after.IsModule := by
  have calls : Caller.Follows (fun _ _ => True) call := fun _ _ _ => trivial
  have follows : Follows (fun _ _ => True) Frame.KeepsModule (run call statement) :=
    follows_run calls statement fun _ => Frame.leavesAnnotations_keepsModule
  exact follows.frames ran isModule

theorem isModule_of_runAll {statements : List (Stmt Unit)} {frame after : Frame} {world later : World κ}
    {flow : Flow} (isModule : frame.IsModule)
    (ran : outcome (StateT.run (runAll call statements) frame) world = (.ok (flow, after), later)) :
    after.IsModule := by
  have calls : Caller.Follows (fun _ _ => True) call := fun _ _ _ => trivial
  have follows : Follows (fun _ _ => True) Frame.KeepsModule (runAll call statements) :=
    follows_runAll calls statements fun _ => Frame.leavesAnnotations_keepsModule
  exact follows.frames ran isModule

/-- A run of statements that goes through runs the first one and then the others. -/
theorem exists_of_runAll_cons {first : Stmt Unit} {rest : List (Stmt Unit)} {frame after : Frame}
    {world later : World κ}
    (ran : outcome (StateT.run (runAll call (first :: rest)) frame) world = (.ok (.next, after), later)) :
    ∃ between middle, outcome (StateT.run (run call first) frame) world = (.ok (.next, between), middle) ∧
      outcome (StateT.run (runAll call rest) between) middle = (.ok (.next, after), later) := by
  unfold runAll at ran
  obtain ⟨flow, between, middle, ranFirst, ranRest⟩ := exists_of_bind_eq_ok ran
  cases flow with
  | next => exact ⟨between, middle, ranFirst, ranRest⟩
  | returned => exact nomatch ranRest

/-- A name that stands for the value goes on to stand for it. -/
theorem get?_of_runAll {statements : List (Stmt Unit)} {frame after : Frame} {world later : World κ}
    (binds : BindsOnly call name value statements frame world) (bound : world.module.get? name = some value)
    (ran : outcome (StateT.run (runAll call statements) frame) world = (.ok (.next, after), later)) :
    later.module.get? name = some value := by
  induction statements generalizing frame world with
  | nil =>
    unfold runAll at ran
    cases ran
    exact bound
  | cons first rest inductionHypothesis =>
    obtain ⟨between, middle, ranFirst, ranRest⟩ := exists_of_runAll_cons ran
    obtain ⟨same | is, bindsRest⟩ := binds between middle ranFirst
    · exact inductionHypothesis bindsRest (same.trans bound) ranRest
    · exact inductionHypothesis bindsRest is ranRest

/-- What a module has under a name is what the name stands for there. -/
theorem lookUp_of_get? {frame : Frame} (isModule : frame.IsModule) {world : World κ}
    (bound : world.module.get? name = some value) : lookUp world frame name = .ok value := by
  have known : sharedName? world name = some value := by
    unfold sharedName?
    rw [bound]
    rfl
  unfold lookUp
  split
  · rw [known]
  · rw [isModule.place, known]

/-! ### Imports -/

/-- In a module a name is set in the world. -/
theorem outcome_setName {frame : Frame} (isModule : frame.IsModule) (written : String) (value : Value)
    (world : World κ) :
    outcome (StateT.run (setName written value : Evaluation κ Unit) frame) world =
      (.ok ((), frame), { world with module := world.module.set written value }) := by
  obtain ⟨place, bindings, annotations, owner, qualifier, postponed, shared⟩ := frame
  obtain ⟨rfl, rfl⟩ := isModule
  rfl

/-- An import sets one name and does nothing else. -/
theorem exists_of_importModule {imported : ImportedName} {frame after : Frame} {world later : World κ}
    (isModule : frame.IsModule)
    (ran : outcome (StateT.run (importModule imported : Evaluation κ Unit) frame) world =
      (.ok ((), after), later)) :
    after = frame ∧ ∃ written value, later = { world with module := world.module.set written value } := by
  have sets {written : String} {value : Value}
      (ran : outcome (StateT.run (setName written value : Evaluation κ Unit) frame) world =
        (.ok ((), after), later)) :
      after = frame ∧ ∃ written value, later = { world with module := world.module.set written value } := by
    rw [outcome_setName isModule] at ran
    cases ran
    exact ⟨rfl, _, _, rfl⟩
  unfold importModule at ran
  split at ran
  · exact nomatch ran
  · split at ran
    · exact sets ran
    · split at ran
      · exact sets ran
      · exact nomatch ran

/-- What is set stays set while other names are. -/
theorem isSome_get?_set {attributes : Attributes} {name : String} (bound : (attributes.get? name).isSome)
    (written : String) (value : Value) : ((attributes.set written value).get? name).isSome := by
  by_cases same : name = written
  · rw [same, Attributes.get?_set_self]
    rfl
  · rwa [Attributes.get?_set_of_ne _ _ same]

theorem isSome_of_imports {names : List ImportedName} {frame after : Frame} {world later : World κ}
    (isModule : frame.IsModule) (bound : (world.module.get? name).isSome)
    (ran : outcome (StateT.run (names.forM importModule : Evaluation κ Unit) frame) world =
      (.ok ((), after), later)) : (later.module.get? name).isSome := by
  induction names generalizing frame world with
  | nil =>
    cases ran
    exact bound
  | cons first rest inductionHypothesis =>
    have ran : outcome (StateT.run (importModule first >>= fun _ => rest.forM importModule) frame) world =
      (.ok ((), after), later) := ran
    obtain ⟨_, between, middle, ranFirst, ranRest⟩ := exists_of_bind_eq_ok ran
    obtain ⟨rfl, written, value, rfl⟩ := exists_of_importModule isModule ranFirst
    exact inductionHypothesis isModule (isSome_get?_set bound written value) ranRest

/-- An import binds a name. -/
def Binds (imported : ImportedName) (name : String) (library : Library) : Prop :=
  ∀ κ, (importModule imported : Evaluation κ Unit) = setName name (.library library)

/-- Where several modules are imported, each name that is bound is set in the end. -/
theorem isSome_of_mem_imports {imported : ImportedName} {library : Library}
    (isBound : Binds imported name library) {names : List ImportedName} (among : imported ∈ names)
    {frame after : Frame} {world later : World κ} (isModule : frame.IsModule)
    (ran : outcome (StateT.run (names.forM importModule : Evaluation κ Unit) frame) world =
      (.ok ((), after), later)) : (later.module.get? name).isSome := by
  induction names generalizing frame world with
  | nil => exact nomatch among
  | cons first rest inductionHypothesis =>
    have ran : outcome (StateT.run (importModule first >>= fun _ => rest.forM importModule) frame) world =
      (.ok ((), after), later) := ran
    obtain ⟨_, between, middle, ranFirst, ranRest⟩ := exists_of_bind_eq_ok ran
    rcases List.mem_cons.1 among with rfl | behind
    · rw [isBound κ, outcome_setName isModule] at ranFirst
      cases ranFirst
      refine isSome_of_imports isModule ?_ ranRest
      rw [Attributes.get?_set_self]
      rfl
    · obtain ⟨rfl, -⟩ := exists_of_importModule isModule ranFirst
      exact inductionHypothesis behind isModule ranRest

/-- If a module starts without a name, and all that binds it makes it stand for one library, then it does so
behind the import. -/
theorem get?_of_imports {imported : ImportedName} {library : Library} (isBound : Binds imported name library)
    {statements : List (Stmt Unit)} {frame after : Frame} {world later : World κ}
    (binds : BindsOnly call name (.library library) statements frame world)
    (imports : ∃ statement ∈ statements, statement.importsAs imported = true) (isModule : frame.IsModule)
    (start : world.module.get? name = none ∨ world.module.get? name = some (.library library))
    (ran : outcome (StateT.run (runAll call statements) frame) world = (.ok (.next, after), later)) :
    later.module.get? name = some (.library library) := by
  induction statements generalizing frame world with
  | nil =>
    obtain ⟨statement, among, -⟩ := imports
    exact nomatch among
  | cons first rest inductionHypothesis =>
    obtain ⟨between, middle, ranFirst, ranRest⟩ := exists_of_runAll_cons ran
    obtain ⟨either, bindsRest⟩ := binds between middle ranFirst
    have still : middle.module.get? name = none ∨ middle.module.get? name = some (.library library) := by
      rcases either with same | is
      · rwa [same]
      · exact .inr is
    have within := isModule_of_run isModule ranFirst
    cases does : first.importsAs imported with
    | false =>
      obtain ⟨statement, among, isImport⟩ := imports
      rcases List.mem_cons.1 among with rfl | behind
      · exact nomatch does.symm.trans isImport
      · exact inductionHypothesis bindsRest ⟨statement, behind, isImport⟩ within still ranRest
    | true =>
      refine get?_of_runAll bindsRest ?_ ranRest
      cases first with
      | imports _ names =>
        have set : (middle.module.get? name).isSome := by
          unfold run at ranFirst
          obtain ⟨_, _, _, ranNames, ended⟩ := exists_of_bind_eq_ok ranFirst
          cases ended
          exact isSome_of_mem_imports isBound (List.elem_iff.1 does) isModule ranNames
        rcases still with none | is
        · simp [none] at set
        · exact is
      | _ => exact nomatch does

end Evaluation

end DifferenceTypes
