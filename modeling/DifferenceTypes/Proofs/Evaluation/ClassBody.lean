import DifferenceTypes.Evaluation.Placement
import DifferenceTypes.Proofs.Evaluation.Calls
import DifferenceTypes.Proofs.Object.Derivation

/-!
# Bodies of classes

The types that the body of a class declares, if every declaration stands directly in it and declares
a bare name of its own: exactly these names, in the order of the declarations. And what running a
class statement comes down to: its body is run in a frame of its own, a class is derived with what
the body declared, and the decorators are applied to it.
-/

namespace DifferenceTypes

open Run (outcome)

variable {κ α β : Type}

/-- The name that a statement of a body declares, and its type. -/
def Stmt.declared? {σ : Type} : Stmt σ → Option (String × Expr σ)
  | .declare _ (.name _ identifier) type _ _ => some (identifier, type)
  | _ => none

/-- Whether a statement of a body declares at most one name: directly, and without parentheses. -/
def Stmt.isPlain : Stmt Unit → Bool
  | .declare _ (.name _ _) _ _ simple => simple
  | statement => !statement.declares

/-- The names that the body of a class declares, as they are kept. -/
def declaredNames (owner : Option String) (body : List (Stmt Unit)) : List String :=
  body.filterMap fun statement => statement.declared?.map fun declared =>
    Frame.keptName owner declared.1

/-- What a frame declares, where and for whom, is what an earlier one did. -/
structure Frame.KeepsTypes (earlier later : Frame) : Prop where
  place : later.place = earlier.place
  owner : later.owner = earlier.owner
  annotations : later.annotations = earlier.annotations

instance Frame.courseOfKeepsTypes : Frame.StatementCourse Frame.KeepsTypes where
  refl _ := ⟨rfl, rfl, rfl⟩
  trans earlier later := ⟨later.place.trans earlier.place, later.owner.trans earlier.owner,
    later.annotations.trans earlier.annotations⟩
  bindings _ _ := ⟨rfl, rfl, rfl⟩
  postponed _ _ := ⟨rfl, rfl, rfl⟩
  shared _ _ := ⟨rfl, rfl, rfl⟩

namespace Evaluation

theorem exists_of_bind_eq_ok {computation : Evaluation κ α} {next : α → Evaluation κ β}
    {frame after : Frame} {world later : World κ} {value : β}
    (ran : outcome (StateT.run (computation >>= next) frame) world = (.ok (value, after), later)) :
    ∃ first between middle,
      outcome (StateT.run computation frame) world = (.ok (first, between), middle) ∧
      outcome (StateT.run (next first) between) middle = (.ok (value, after), later) := by
  rw [StateT.run_bind] at ran
  obtain ⟨⟨first, between⟩, middle, before, behind⟩ := Run.outcome_bind_eq_ok ran
  exact ⟨first, between, middle, before, behind⟩

theorem outcome_bind_of_ok {computation : Evaluation κ α} {frame between : Frame}
    {world middle : World κ} {first : α} (next : α → Evaluation κ β)
    (ran : outcome (StateT.run computation frame) world = (.ok (first, between), middle)) :
    outcome (StateT.run (computation >>= next) frame) world =
      outcome (StateT.run (next first) between) middle := by
  rw [StateT.run_bind]
  exact Run.outcome_bind_of_ok _ ran

/-! ### How statements end -/

/-- If a computation succeeds, its result is as it should be. -/
def Gives (valid : α → Prop) (computation : Evaluation κ α) : Prop :=
  ∀ frame world value after later,
    outcome (StateT.run computation frame) world = (.ok (value, after), later) → valid value

@[grind ←]
theorem gives_pure {valid : α → Prop} {value : α} (holds : valid value) :
    Gives valid (pure value : Evaluation κ α) := by
  intro frame world value after later ran
  cases ran
  exact holds

@[grind ←]
theorem gives_throw {valid : α → Prop} (failure : Failure) :
    Gives valid (throw failure : Evaluation κ α) :=
  fun _ _ _ _ _ ran => nomatch ran

theorem Gives.bind {first : α → Prop} {valid : β → Prop} {computation : Evaluation κ α}
    {next : α → Evaluation κ β} (before : Gives first computation)
    (behind : ∀ value, first value → Gives valid (next value)) :
    Gives valid (computation >>= next) := by
  intro frame world value after later ran
  obtain ⟨found, between, middle, earlier, second⟩ := exists_of_bind_eq_ok ran
  exact behind found (before _ _ _ _ _ earlier) _ _ _ _ _ second

@[grind ←]
theorem gives_bind {valid : β → Prop} {computation : Evaluation κ α} {next : α → Evaluation κ β}
    (behind : ∀ value, Gives valid (next value)) : Gives valid (computation >>= next) :=
  have before : Gives (fun _ => True) computation := fun _ _ _ _ _ _ => trivial
  before.bind fun value _ => behind value

variable {call : Caller κ}

mutual

/-- Outside of a function no statement returns. -/
theorem gives_run {around : Placement.Surroundings}
    (outside : around.insideFunction = false) :
    (statement : Stmt Unit) → Placement.isPlaced around statement = true →
      Gives (· = .next) (run call statement)
  | .conditional _ test body otherwise, placed => by
    simp only [Placement.isPlaced, Bool.and_eq_true] at placed
    have first := gives_runAll outside body placed.1
    have second := gives_runAll outside otherwise placed.2
    unfold run
    grind
  | .returns .., placed => by
    simp [Placement.isPlaced, outside] at placed
  | .expression .., _ | .assign .., _ | .augment .., _ | .raises .., _ | .asserts .., _
  | .pass .., _ | .delete .., _ | .globals .., _ | .imports .., _ | .importsFrom .., _ => by
    unfold run
    grind
  | .declare .., _ => by
    unfold run
    grind
  | .function .., _ => by
    unfold run
    grind
  | .classDefinition .., _ => by
    unfold run
    refine gives_bind fun applied => gives_bind fun written => gives_bind fun given => ?_
    refine gives_bind fun frame => gives_bind fun world => gives_bind fun _ => gives_bind fun _ => ?_
    grind
  | .breaks .., _ | .continues .., _ | .nonlocals .., _ | .whileLoop .., _ | .forLoop .., _
  | .withBlock .., _ | .matchBlock .., _ | .tryBlock .., _ => by
    unfold run
    exact gives_throw _

theorem gives_runAll {around : Placement.Surroundings}
    (outside : around.insideFunction = false) :
    (statements : List (Stmt Unit)) → Placement.arePlaced around statements = true →
      Gives (· = .next) (runAll call statements)
  | [], _ => by
    unfold runAll
    grind
  | first :: rest, placed => by
    simp only [Placement.arePlaced, Bool.and_eq_true] at placed
    unfold runAll
    refine (gives_run outside first placed.1).bind fun flow next => ?_
    subst next
    exact gives_runAll outside rest placed.2

end

/-! ### What a body declares -/

/-- Whatever is called, nothing is asked of the worlds. -/
theorem follows_anything (call : Caller κ) : Caller.Follows (fun _ _ => True) call :=
  fun _ _ _ => trivial

/-- A quiet statement leaves the frame's types as they are. -/
theorem keepsTypes_of_quiet {statement : Stmt Unit} (quiet : statement.declares = false)
    {frame after : Frame} {world later : World κ} {flow : Flow}
    (ran : outcome (StateT.run (run call statement) frame) world = (.ok (flow, after), later)) :
    frame.KeepsTypes after :=
  have follows : Follows (fun _ _ => True) Frame.KeepsTypes (run call statement) :=
    follows_run (follows_anything call) statement fun declares => nomatch quiet.symm.trans declares
  follows.frames ran

/-- In the body of a class, a type is noted under the name for which it is declared. -/
theorem types_of_declareTarget {identifier : String} {type : Expr Unit}
    {frame after : Frame} {world later : World κ} (inClass : frame.place = .classBody)
    (ran : outcome (StateT.run (declareTarget call (.name () identifier) type true) frame)
      world = (.ok ((), after), later)) :
    ∃ noted, frame.KeepsTypes
      { after with annotations := frame.annotations } ∧
      after.annotations = frame.annotations.set (Frame.keptName frame.owner identifier) noted := by
  unfold declareTarget at ran
  obtain ⟨found, between, middle, got, ran⟩ := exists_of_bind_eq_ok ran
  cases got
  simp only [inClass, if_true] at ran
  obtain ⟨noted, between, middle, evaluated, ran⟩ := exists_of_bind_eq_ok ran
  have follows : Follows (fun _ _ => True) Frame.KeepsTypes (declaredType call type) :=
    follows_declaredType (follows_anything call) type
  have kept := follows.frames evaluated
  unfold declareName at ran
  obtain ⟨found, between', middle', got, ran⟩ := exists_of_bind_eq_ok ran
  cases got
  simp only [kept.place, inClass] at ran
  cases ran
  exact ⟨noted, ⟨kept.place, kept.owner, rfl⟩, by simp [kept.annotations, kept.owner]⟩

/-- A plain declaration in the body of a class notes a type under its name. -/
theorem types_of_declare {identifier : String} {type : Expr Unit}
    {value : Option (Expr Unit)} {frame after : Frame} {world later : World κ} {flow : Flow}
    (inClass : frame.place = .classBody)
    (ran : outcome (StateT.run
      (run call (.declare () (.name () identifier) type value true)) frame) world =
        (.ok (flow, after), later)) :
    ∃ noted, frame.KeepsTypes { after with annotations := frame.annotations } ∧
      after.annotations = frame.annotations.set (Frame.keptName frame.owner identifier) noted := by
  unfold run at ran
  cases value with
  | none =>
    obtain ⟨_, between, middle, declared, ran⟩ := exists_of_bind_eq_ok ran
    cases ran
    exact types_of_declareTarget inClass declared
  | some given =>
    obtain ⟨result, first, middle, evaluated, ran⟩ := exists_of_bind_eq_ok ran
    obtain ⟨_, second, middle, assigned, ran⟩ := exists_of_bind_eq_ok ran
    obtain ⟨_, between, middle, declared, ran⟩ := exists_of_bind_eq_ok ran
    cases ran
    have evaluates : Follows (fun _ _ => True) Frame.KeepsTypes (eval call given) :=
      follows_eval (follows_anything call) given
    have assigns : Follows (fun _ _ => True) Frame.KeepsTypes
        (assign call result (.name () identifier)) :=
      follows_assign (follows_anything call) result _
    have kept := Frame.courseOfKeepsTypes.trans (evaluates.frames evaluated)
      (assigns.frames assigned)
    obtain ⟨noted, keeps, types⟩ := types_of_declareTarget (kept.place.trans inClass) declared
    rw [kept.owner, kept.annotations] at types
    exact ⟨noted, ⟨keeps.place.trans kept.place, keeps.owner.trans kept.owner, rfl⟩, types⟩

/-- A name that is declared for the first time comes behind those that were declared before. -/
theorem names_set {annotations : Attributes} {name : String} (type : Value)
    (fresh : name ∉ annotations.map (·.1)) :
    (annotations.set name type).map (·.1) = annotations.map (·.1) ++ [name] := by
  induction annotations with
  | nil => rfl
  | cons entry rest inductionHypothesis =>
    obtain ⟨first, kept⟩ := entry
    rw [List.map_cons, List.mem_cons, not_or] at fresh
    have different : (first == name) = false := beq_false_of_ne (Ne.symm fresh.1)
    simp [Attributes.set, different, inductionHypothesis fresh.2]

/-- A plain statement of a class body adds the name that it declares, if it is a new one. -/
theorem names_of_plain {statement : Stmt Unit} (plain : statement.isPlain = true) {frame after : Frame}
    {world later : World κ} {flow : Flow} (inClass : frame.place = .classBody)
    (distinct : (frame.annotations.map (·.1) ++ declaredNames frame.owner [statement]).Nodup)
    (ran : outcome (StateT.run (run call statement) frame) world = (.ok (flow, after), later)) :
    after.place = frame.place ∧ after.owner = frame.owner ∧
      after.annotations.map (·.1) =
        frame.annotations.map (·.1) ++ declaredNames frame.owner [statement] := by
  unfold Stmt.isPlain at plain
  split at plain
  · next identifier type value simple =>
    subst plain
    obtain ⟨noted, kept, types⟩ := types_of_declare inClass ran
    refine ⟨kept.place, kept.owner, ?_⟩
    rw [types]
    refine names_set noted fun declared => ?_
    exact (List.nodup_append.1 distinct).2.2 _ declared _ List.mem_cons_self rfl
  · next other =>
    have quiet : statement.declares = false := by simpa using plain
    have kept := keepsTypes_of_quiet quiet ran
    have undeclared : statement.declared? = none := by
      unfold Stmt.declared?
      split
      · next named => exact absurd rfl (other _ _ _ _ _ _)
      · rfl
    refine ⟨kept.place, kept.owner, ?_⟩
    simp [kept.annotations, declaredNames, undeclared]

/-- The names that the plain statements of a class body declare, each of them once. -/
theorem names_of_runAll {around : Placement.Surroundings}
    (outside : around.insideFunction = false) {body : List (Stmt Unit)}
    (placed : Placement.arePlaced around body = true) (plain : body.all Stmt.isPlain = true)
    {frame after : Frame} {world later : World κ} {flow : Flow}
    (inClass : frame.place = .classBody)
    (distinct : (frame.annotations.map (·.1) ++ declaredNames frame.owner body).Nodup)
    (ran : outcome (StateT.run (runAll call body) frame) world = (.ok (flow, after), later)) :
    after.annotations.map (·.1) =
      frame.annotations.map (·.1) ++ declaredNames frame.owner body := by
  induction body generalizing frame world with
  | nil =>
    unfold runAll at ran
    cases ran
    simp [declaredNames]
  | cons statement rest inductionHypothesis =>
    simp only [Placement.arePlaced, List.all_cons, Bool.and_eq_true] at placed plain
    have split : declaredNames frame.owner (statement :: rest) =
        declaredNames frame.owner [statement] ++ declaredNames frame.owner rest := by
      rw [declaredNames, declaredNames, declaredNames, ← List.filterMap_append]
      rfl
    rw [split, ← List.append_assoc] at distinct ⊢
    unfold runAll at ran
    obtain ⟨first, between, middle, head, ran⟩ := exists_of_bind_eq_ok ran
    cases gives_run outside statement placed.1 _ _ _ _ _ head
    obtain ⟨place, owner, names⟩ :=
      names_of_plain plain.1 inClass (List.nodup_append.1 distinct).1 head
    rw [← names, ← owner] at distinct
    rw [inductionHypothesis placed.2 plain.2 (place.trans inClass) distinct ran, names, owner]

/-! ### Class statements -/

theorem inWorld_eq_ok {computation : Run κ α} {frame after : Frame} {world later : World κ}
    {value : α}
    (ran : outcome (StateT.run (inWorld computation) frame) world = (.ok (value, after), later)) :
    outcome computation world = (.ok value, later) ∧ after = frame := by
  have opened : StateT.run (inWorld computation) frame =
      computation >>= fun value => pure (value, frame) := rfl
  rw [opened] at ran
  obtain ⟨first, middle, before, behind⟩ := Run.outcome_bind_eq_ok ran
  cases behind
  exact ⟨before, rfl⟩

/-- What running a class statement comes down to: its body ran in a frame of its own, a class was
derived with what the body declared, and its decorators were applied to this class. -/
structure IsDerivedBy (call : Caller κ) (identifier : String) (body : List (Stmt Unit)) (index : Nat)
    (record : ClassRecord) (derived : World κ) : Prop where
  found : derived.classes[index]? = some record
  fromBody : ∃ qualified postponed start flow inner ended,
    outcome (StateT.run (runAll call body) (Frame.ofClass identifier qualified postponed)) start =
      (.ok (flow, inner), ended) ∧
    Derivation.IsDerived ended (.defined index) identifier qualified inner.annotations record

/-- The types that a class declares are those of its plain body. -/
theorem IsDerivedBy.names {identifier : String} {body : List (Stmt Unit)} {index : Nat}
    {record : ClassRecord} {derived : World κ}
    (isDerived : IsDerivedBy call identifier body index record derived)
    {around : Placement.Surroundings} (outside : around.insideFunction = false)
    (placed : Placement.arePlaced around body = true) (plain : body.all Stmt.isPlain = true)
    (distinct : (declaredNames (some identifier) body).Nodup) :
    record.annotations.map (·.1) = declaredNames (some identifier) body := by
  obtain ⟨qualified, postponed, start, flow, inner, ended, ran, derived⟩ := isDerived.fromBody
  have names := names_of_runAll outside placed plain rfl (by simpa [Frame.ofClass] using distinct) ran
  rw [derived.annotations, names]
  simp [Frame.ofClass]

/-- A derived class is no record class yet. -/
theorem IsDerivedBy.unmade {identifier : String} {body : List (Stmt Unit)} {index : Nat}
    {record : ClassRecord} {derived : World κ}
    (isDerived : IsDerivedBy call identifier body index record derived) : record.record = none := by
  obtain ⟨_, _, _, _, _, _, _, derived⟩ := isDerived.fromBody
  exact derived.record

/-- Behind a class whose bases are builtin, all its ancestors are. -/
theorem IsDerivedBy.line {identifier : String} {body : List (Stmt Unit)} {index : Nat}
    {record : ClassRecord} {derived : World κ}
    (isDerived : IsDerivedBy call identifier body index record derived)
    (builtin : ∀ base ∈ record.bases, ∃ kind, base = .builtin kind) :
    ∃ behind, record.ancestors = .defined index :: behind ∧
      ∀ ancestor ∈ behind, ∃ kind, ancestor = .builtin kind := by
  obtain ⟨_, _, _, _, _, ended, _, derived⟩ := isDerived.fromBody
  obtain ⟨behind, line, from_bases⟩ := Ancestors.line?_eq_some derived.ancestors
  refine ⟨behind, line, fun ancestor among => ?_⟩
  rcases from_bases ancestor among with base | ⟨ancestors, there, inside⟩
  · exact builtin ancestor base
  · obtain ⟨base, isBase, rfl⟩ := List.mem_map.1 there
    obtain ⟨kind, rfl⟩ := builtin base isBase
    obtain ⟨other, -, rfl⟩ := List.mem_map.1 inside
    exact ⟨other, rfl⟩

/-- The values of the decorators and bases of a class statement. -/
def headValues (call : Caller κ) (decorators bases : List (Expr Unit)) :
    Evaluation κ (List Value × List Value) := do
  let applied ← evalAll call decorators
  let written ← evalAll call bases
  return (applied, written)

/-- The class that a class statement derives from the values of its bases, with what its body left
behind. -/
structure IsMadeFrom (call : Caller κ) (identifier : String) (body : List (Stmt Unit))
    (written : List Value) (index : Nat) (record : ClassRecord) (derived : World κ) : Prop where
  found : derived.classes[index]? = some record
  fromBody : ∃ qualified postponed start flow inner ended,
    outcome (StateT.run (runAll call body) (Frame.ofClass identifier qualified postponed)) start =
      (.ok (flow, inner), ended) ∧
    Derivation.record ended (.defined index) identifier qualified written inner.bindings
      inner.annotations = .ok record

theorem IsMadeFrom.isDerivedBy {identifier : String} {body : List (Stmt Unit)} {written : List Value}
    {index : Nat} {record : ClassRecord} {derived : World κ}
    (made : IsMadeFrom call identifier body written index record derived) :
    IsDerivedBy call identifier body index record derived := by
  obtain ⟨_, _, _, _, _, _, ran, derivedRecord⟩ := made.fromBody
  exact ⟨made.found, _, _, _, _, _, _, ran, Derivation.isDerived_of_record derivedRecord⟩

/-- A class statement that runs derives a class from the values of its bases, and binds what its
decorators make of it. -/
theorem exists_isMadeFrom {identifier : String} {bases : List (Expr Unit)}
    {keywords : List (Keyword Unit)} {body : List (Stmt Unit)} {decorators : List (Expr Unit)} {frame after : Frame}
    {world later : World κ} {flow : Flow}
    (ran : outcome (StateT.run
      (run call (.classDefinition () identifier bases keywords body decorators)) frame) world =
        (.ok (flow, after), later)) :
    ∃ applied written opened start,
      outcome (StateT.run (headValues call decorators bases) frame) world =
        (.ok ((applied, written), opened), start) ∧
      ∃ index record derived, IsMadeFrom call identifier body written index record derived ∧
        ∃ value decorated between,
          outcome (decorate call (.ofClass (.defined index)) applied) derived =
            (.ok value, decorated) ∧
          outcome (StateT.run (setName identifier value) between) decorated =
            (.ok ((), after), later) := by
  unfold run at ran
  obtain ⟨applied, opened, early, forDecorators, ran⟩ := exists_of_bind_eq_ok ran
  obtain ⟨written, ready, middle, forBases, ran⟩ := exists_of_bind_eq_ok ran
  have head : outcome (StateT.run (headValues call decorators bases) frame) world =
      (.ok ((applied, written), ready), middle) := by
    unfold headValues
    rw [outcome_bind_of_ok _ forDecorators, outcome_bind_of_ok _ forBases]
    rfl
  obtain ⟨given, _, _, -, ran⟩ := exists_of_bind_eq_ok ran
  obtain ⟨frame, _, _, -, ran⟩ := exists_of_bind_eq_ok ran
  obtain ⟨start, _, _, -, ran⟩ := exists_of_bind_eq_ok ran
  obtain ⟨_, _, _, -, ran⟩ := exists_of_bind_eq_ok ran
  obtain ⟨⟨flow, inner⟩, _, ended, ranBody, ran⟩ := exists_of_bind_eq_ok ran
  obtain ⟨ranBody, -⟩ := inWorld_eq_ok ranBody
  dsimp only at ran
  split at ran
  · obtain ⟨_, _, _, threw, -⟩ := exists_of_bind_eq_ok ran
    exact nomatch threw
  obtain ⟨value, between, decorated, ranDecorators, ran⟩ := exists_of_bind_eq_ok ran
  obtain ⟨ranDecorators, -⟩ := inWorld_eq_ok ranDecorators
  obtain ⟨identity, derived, made, ranDecorators⟩ := Run.outcome_bind_eq_ok ranDecorators
  unfold Derivation.derive at made
  rw [Run.outcome_get_bind] at made
  split at made
  · next record derivedRecord =>
    cases made
    obtain ⟨_, _, _, bound, ran⟩ := exists_of_bind_eq_ok ran
    cases ran
    exact ⟨applied, written, _, _, head, ended.classes.size, record, _,
      ⟨Array.getElem?_push_size, _, _, _, _, _, _, ranBody, derivedRecord⟩,
      value, decorated, between, ranDecorators, bound⟩
  · exact nomatch made

/-- A class statement that runs derives a class, and binds what its decorators make of it. -/
theorem exists_isDerivedBy {identifier : String} {bases : List (Expr Unit)}
    {keywords : List (Keyword Unit)} {body : List (Stmt Unit)} {decorators : List (Expr Unit)} {frame after : Frame}
    {world later : World κ} {flow : Flow}
    (ran : outcome (StateT.run
      (run call (.classDefinition () identifier bases keywords body decorators)) frame) world =
        (.ok (flow, after), later)) :
    ∃ index record derived, IsDerivedBy call identifier body index record derived ∧
      ∃ applied value decorated between,
        outcome (decorate call (.ofClass (.defined index)) applied) derived =
          (.ok value, decorated) ∧
        outcome (StateT.run (setName identifier value) between) decorated =
          (.ok ((), after), later) := by
  obtain ⟨applied, written, _, _, -, index, record, derived, made, decorated⟩ := exists_isMadeFrom ran
  exact ⟨index, record, derived, made.isDerivedBy, applied, decorated⟩

end Evaluation

end DifferenceTypes
