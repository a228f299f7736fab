import DifferenceTypes.Evaluation.Statement
import DifferenceTypes.Proofs.Object.Operation

/-!
# The course of evaluation

An expression is evaluated and a statement is run in a frame. What they do to the world is made of
steps, provided that what they call does nothing else. What they do to the frame is limited too: an
expression binds names in it and changes nothing else.
-/

namespace DifferenceTypes

open Run (outcome)

variable {κ α β : Type}

/-- A relation between frames that is reflexive and transitive and leaves names free to be bound. -/
class Frame.Course (kept : Frame → Frame → Prop) : Prop where
  refl : ∀ frame, kept frame frame
  trans : ∀ {first second third}, kept first second → kept second third → kept first third
  bindings : ∀ (frame : Frame) (bindings : Attributes), kept frame { frame with bindings }

/-- A relation between frames that leaves everything free that a statement may change, except for
the types that are declared. -/
class Frame.StatementCourse (kept : Frame → Frame → Prop) : Prop extends Frame.Course kept where
  postponed : ∀ (frame : Frame) (postponed : Bool), kept frame { frame with postponed }
  shared : ∀ (frame : Frame) (shared : List String), kept frame { frame with shared }

/-- A relation between frames that leaves free what types are declared. -/
def Frame.LeavesAnnotations (kept : Frame → Frame → Prop) : Prop :=
  ∀ (frame : Frame) (annotations : Attributes), kept frame { frame with annotations }

/-- All frames are related to each other. -/
instance Frame.courseOfAll : Frame.StatementCourse fun _ _ => True where
  refl _ := trivial
  trans _ _ := trivial
  bindings _ _ := trivial
  postponed _ _ := trivial
  shared _ _ := trivial

mutual

/-- Whether a statement declares types of names in the body that it belongs to. -/
def Stmt.declares : Stmt Unit → Bool
  | .declare _ (.name _ _) _ _ _ => true
  | .conditional _ _ body otherwise | .whileLoop _ _ body otherwise
  | .forLoop _ _ _ _ body otherwise => anyDeclares body || anyDeclares otherwise
  | .withBlock _ _ _ body => anyDeclares body
  | .matchBlock _ _ cases => anyCaseDeclares cases
  | .tryBlock _ _ body handlers otherwise cleanup =>
    anyDeclares body || anyHandlerDeclares handlers || anyDeclares otherwise || anyDeclares cleanup
  | _ => false

/-- Whether any of some statements declares types of names. -/
def anyDeclares : List (Stmt Unit) → Bool
  | [] => false
  | first :: rest => first.declares || anyDeclares rest

/-- Whether a statement of any of some cases declares types of names. -/
def anyCaseDeclares : List (Case Unit) → Bool
  | [] => false
  | .case _ _ body :: rest => anyDeclares body || anyCaseDeclares rest

/-- Whether a statement of any of some handlers declares types of names. -/
def anyHandlerDeclares : List (Handler Unit) → Bool
  | [] => false
  | .handler _ _ body :: rest => anyDeclares body || anyHandlerDeclares rest

end

/-- The value behind a star or in the braces of a formatted text. -/
inductive Expr.IsInside : Expr Unit → Expr Unit → Prop
  | starred {span value} : IsInside (.starred span value) value
  | interpolation {span value conversion format} :
    IsInside (.interpolation span value conversion format) value

namespace Evaluation

/-- Wherever a computation starts, the world that it leaves behind is related to the one that it
starts in, and so is the frame if it succeeds. -/
structure Follows (related : World κ → World κ → Prop) (kept : Frame → Frame → Prop)
    (computation : Evaluation κ α) : Prop where
  worlds : ∀ frame, Run.Follows related (StateT.run computation frame)
  frames : ∀ {frame world value after later},
    outcome (StateT.run computation frame) world = (.ok (value, after), later) → kept frame after

section Rules

variable {related : World κ → World κ → Prop} [World.Course related]
  {kept : Frame → Frame → Prop} [frameCourse : Frame.Course kept]

/-- A computation that leaves the frame as it is. -/
theorem follows_of_constant {computation : Evaluation κ α} {inner : Run κ α}
    (follows : Run.Follows related inner)
    (constant : ∀ frame, StateT.run computation frame = (·, frame) <$> inner) :
    Follows related kept computation where
  worlds frame := by
    rw [constant]
    exact follows.map _
  frames {frame world value after later} ran := by
    rw [constant, map_eq_pure_bind] at ran
    obtain ⟨first, middle, -, behind⟩ := Run.outcome_bind_eq_ok ran
    cases behind
    exact frameCourse.refl frame

@[grind ←]
theorem follows_pure (value : α) : Follows related kept (pure value : Evaluation κ α) :=
  follows_of_constant (Run.follows_pure value) fun _ => rfl

@[grind ←]
theorem follows_throw (failure : Failure) :
    Follows related kept (throw failure : Evaluation κ α) :=
  follows_of_constant (Run.follows_throw failure) fun _ => rfl

@[grind ←]
theorem follows_inWorld {computation : Run κ α} (follows : Run.Follows related computation) :
    Follows related kept (inWorld computation) :=
  follows_of_constant follows fun frame => by
    rw [map_eq_pure_bind]
    rfl

@[grind ←]
theorem follows_world : Follows related kept (world : Evaluation κ (World κ)) :=
  follows_of_constant Run.follows_get fun _ => rfl

@[grind ←]
theorem follows_get : Follows related kept (get : Evaluation κ Frame) where
  worlds frame := Run.follows_pure _
  frames {frame world value after later} ran := by
    cases ran
    exact frameCourse.refl frame

omit frameCourse in
/-- Another frame in the place of the one before. -/
theorem follows_modify {change : Frame → Frame} (changes : ∀ frame, kept frame (change frame)) :
    Follows related kept (modify change : Evaluation κ PUnit) where
  worlds frame := Run.follows_pure _
  frames {frame world value after later} ran := by
    cases ran
    exact changes frame

@[grind ←]
theorem Follows.bind {computation : Evaluation κ α} {next : α → Evaluation κ β}
    (first : Follows related kept computation)
    (second : ∀ value, Follows related kept (next value)) :
    Follows related kept (computation >>= next) where
  worlds frame := by
    rw [StateT.run_bind]
    exact (first.worlds frame).bind fun found => (second found.1).worlds found.2
  frames {frame world value after later} ran := by
    rw [StateT.run_bind] at ran
    obtain ⟨⟨found, between⟩, middle, before, behind⟩ := Run.outcome_bind_eq_ok ran
    exact frameCourse.trans (first.frames before) ((second found).frames behind)

@[grind ←]
theorem Follows.map {computation : Evaluation κ α} (function : α → β)
    (follows : Follows related kept computation) :
    Follows related kept (function <$> computation) := by
  rw [map_eq_pure_bind]
  exact follows.bind fun value => follows_pure _

@[grind ←]
theorem Follows.discard {computation : Evaluation κ α}
    (follows : Follows related kept computation) : Follows related kept (discard computation) :=
  follows.map _

@[grind ←]
theorem follows_forM {values : List α} {action : α → Evaluation κ PUnit}
    (follows : ∀ value, Follows related kept (action value)) :
    Follows related kept (values.forM action) := by
  induction values with
  | nil => exact follows_pure _
  | cons first rest inductionHypothesis =>
    exact (follows first).bind fun _ => inductionHypothesis

/-! ### Names -/

@[grind ←]
theorem follows_ofExcept (result : Except Failure α) :
    Follows related kept (ofExcept result : Evaluation κ α) := by
  unfold ofExcept
  grind -ring -linarith

@[grind ←]
theorem follows_getName (written : String) :
    Follows related kept (getName written : Evaluation κ Value) := by
  unfold getName
  grind -ring -linarith

/-- A change of the world alone that is a step. -/
theorem follows_modifyWorld {change : World κ → World κ}
    (steps : ∀ world, World.Step world (change world)) :
    Follows related kept (modifyThe (World κ) change : Evaluation κ PUnit) :=
  follows_of_constant (Run.follows_modify steps) fun _ => rfl

@[grind ←]
theorem follows_setName (written : String) (value : Value) :
    Follows related kept (setName written value : Evaluation κ Unit) := by
  unfold setName
  refine follows_get.bind fun frame => ?_
  dsimp only
  split
  · exact follows_modifyWorld fun _ => .elsewhere rfl rfl
  · exact follows_modify fun frame => frameCourse.bindings frame _

@[grind ←]
theorem follows_removeName (written : String) :
    Follows related kept (removeName written : Evaluation κ Unit) := by
  unfold removeName
  refine follows_get.bind fun frame => ?_
  dsimp only
  split
  · refine follows_world.bind fun world => ?_
    split
    · exact (follows_throw _).bind fun _ => follows_modifyWorld fun _ => .elsewhere rfl rfl
    · exact follows_modifyWorld fun _ => .elsewhere rfl rfl
  · split
    · exact follows_throw _
    · exact follows_modify fun frame => frameCourse.bindings frame _

/-! ### Expressions -/


variable {call : Caller κ} (calls : Caller.Follows related call)

include calls in
@[grind ←]
theorem follows_compare (operator : ComparisonOperator) (first second : Value) :
    Run.Follows related (compare call operator first second) := by
  unfold compare
  grind -ring -linarith

include calls

set_option linter.unusedSectionVars false in
-- By induction on the expression; what is evaluated inside of it leads along a course already.
mutual

theorem follows_eval : (expression : Expr Unit) → Follows related kept (eval call expression)
  | .name .. => by
    unfold eval
    grind -ring -linarith
  | .constant .. => by
    unfold eval
    grind -ring -linarith
  | .formatted _ parts => by
    unfold eval
    grind -ring -linarith [follows_evalParts parts]
  | .attribute _ value _ => by
    unfold eval
    grind -ring -linarith [follows_eval value]
  | .subscript _ value index => by
    unfold eval
    grind -ring -linarith [follows_eval value, follows_eval index]
  | .call _ callee arguments keywords => by
    unfold eval
    grind -ring -linarith [follows_eval callee, follows_evalAll arguments, follows_evalKeywords keywords]
  | .starred .. => by
    unfold eval
    grind -ring -linarith
  | .tuple _ elements => by
    unfold eval
    grind -ring -linarith [follows_evalAll elements]
  | .list _ elements => by
    unfold eval
    grind -ring -linarith [follows_evalAll elements]
  | .dictionary _ entries => by
    unfold eval
    grind -ring -linarith [follows_evalEntries entries]
  | .unary _ _ operand => by
    unfold eval
    grind -ring -linarith [follows_eval operand]
  | .binary _ left _ right => by
    unfold eval
    grind -ring -linarith [follows_eval left, follows_eval right]
  | .boolean _ _ operands => by
    unfold eval
    grind -ring -linarith [follows_evalUntil operands]
  | .comparison _ first rest => by
    unfold eval
    grind -ring -linarith [follows_eval first, follows_evalComparisons rest]
  | .conditional _ test whenTrue whenFalse => by
    unfold eval
    grind -ring -linarith [follows_eval test, follows_eval whenTrue, follows_eval whenFalse]
  | .lambda _ parameters _ => by
    unfold eval
    grind -ring -linarith [follows_evalDefaults parameters]
  | .assignment _ _ value => by
    unfold eval
    grind -ring -linarith [follows_eval value]
  | .interpolation .. | .slice .. | .set .. | .await .. | .yield .. | .yieldFrom ..
  | .listComprehension .. | .setComprehension .. | .dictionaryComprehension .. | .generator .. => by
    unfold eval
    grind -ring -linarith

theorem follows_evalInside :
    (expression : Expr Unit) → ∀ value, expression.IsInside value → Follows related kept (eval call value)
  | .starred _ value, _, .starred => follows_eval value
  | .interpolation _ value _ _, _, .interpolation => follows_eval value

theorem follows_evalAll :
    (expressions : List (Expr Unit)) → Follows related kept (evalAll call expressions)
  | [] => by
    unfold evalAll
    grind -ring -linarith
  | first :: rest => by
    have inner := follows_evalInside first
    unfold evalAll
    split <;> grind -ring -linarith [follows_eval first, follows_evalAll rest, Expr.IsInside]

theorem follows_evalKeywords :
    (keywords : List (Keyword Unit)) → ∀ given, Follows related kept (evalKeywords call given keywords)
  | [], _ => by
    unfold evalKeywords
    grind -ring -linarith
  | .named _ _ value :: rest, _ => by
    unfold evalKeywords
    grind -ring -linarith [follows_eval value, follows_evalKeywords rest]
  | .unpacked _ value :: rest, _ => by
    unfold evalKeywords
    grind -ring -linarith [follows_eval value, follows_evalKeywords rest]

theorem follows_evalEntries :
    (entries : List (Entry Unit)) → ∀ found, Follows related kept (evalEntries call found entries)
  | [], _ => by
    unfold evalEntries
    grind -ring -linarith
  | .pair key value :: rest, _ => by
    unfold evalEntries
    grind -ring -linarith [follows_eval key, follows_eval value, follows_evalEntries rest]
  | .unpacked value :: rest, found => by
    have merges (entries : List (Value × Value)) : Run.Follows related
        (entries.foldlM (fun found (key, value) => Operator.putEntry call key value found) found) :=
      Run.follows_foldlM (fun _ _ => Operator.follows_putEntry calls _ _ _) found
    unfold evalEntries
    refine (follows_eval value).bind fun mapping => ?_
    refine (follows_inWorld (Run.follows_view mapping)).bind fun seen => ?_
    split
    · exact (follows_inWorld (merges _)).bind fun _ => follows_evalEntries rest _
    · exact follows_throw _

theorem follows_evalUntil :
    (operands : List (Expr Unit)) → ∀ operator, Follows related kept (evalUntil call operator operands)
  | [], _ => by
    unfold evalUntil
    grind -ring -linarith
  | [last], _ => by
    unfold evalUntil
    exact follows_eval last
  | first :: second :: rest, _ => by
    unfold evalUntil
    grind -ring -linarith [follows_eval first, follows_evalUntil (second :: rest)]

theorem follows_evalComparisons :
    (rest : List (Comparison Unit)) → ∀ value, Follows related kept (evalComparisons call value rest)
  | [], _ => by
    unfold evalComparisons
    grind -ring -linarith
  | [.step _ operand], _ => by
    unfold evalComparisons
    grind -ring -linarith [follows_eval operand]
  | .step _ operand :: second :: rest, _ => by
    unfold evalComparisons
    grind -ring -linarith [follows_eval operand, follows_evalComparisons (second :: rest)]

theorem follows_evalParts : (parts : List (Expr Unit)) → Follows related kept (evalParts call parts)
  | [] => by
    unfold evalParts
    grind -ring -linarith
  | first :: rest => by
    have inner := follows_evalInside first
    unfold evalParts
    split <;> grind -ring -linarith [follows_eval first, follows_evalParts rest, Expr.IsInside]

theorem follows_evalDefaults :
    (parameters : Parameters Unit) → Follows related kept (evalDefaults call parameters)
  | .parameters positionalOnly positional _ keywordOnly _ => by
    unfold evalDefaults
    grind -ring -linarith [follows_evalDefaultsOf positionalOnly, follows_evalDefaultsOf positional,
      follows_evalDefaultsOf keywordOnly]

theorem follows_evalDefaultsOf :
    (parameters : List (Parameter Unit)) → Follows related kept (evalDefaultsOf call parameters)
  | [] => by
    unfold evalDefaultsOf
    grind -ring -linarith
  | .parameter _ _ (some value) :: rest => by
    unfold evalDefaultsOf
    grind -ring -linarith [follows_eval value, follows_evalDefaultsOf rest]
  | .parameter _ _ none :: rest => by
    unfold evalDefaultsOf
    exact follows_evalDefaultsOf rest

end

/-! ### Parts of statements -/

omit calls in
@[grind ←]
theorem follows_importModule (imported : ImportedName) :
    Follows related kept (importModule imported : Evaluation κ Unit) := by
  unfold importModule
  grind -ring -linarith

@[grind ←]
theorem follows_declaredType (type : Expr Unit) :
    Follows related kept (declaredType call type) := by
  unfold declaredType
  grind -ring -linarith [follows_eval]

@[grind ←]
theorem follows_assign (value : Value) (target : Expr Unit) :
    Follows related kept (assign call value target) := by
  have all (values : List Value) (targets : List (Expr Unit)) :
      Follows related kept (assign.assignAll values targets : Evaluation κ Unit) := by
    fun_induction assign.assignAll values targets <;> grind -ring -linarith
  unfold assign
  split <;> grind -ring -linarith [follows_eval]

@[grind ←]
theorem follows_makeFunction (identifier : String) (parameters : Parameters Unit) (body : List (Stmt Unit)) :
    Follows related kept (makeFunction call identifier parameters body) := by
  unfold makeFunction
  grind -ring -linarith [follows_eval, follows_evalDefaults]

@[grind ←]
theorem follows_augmented (operator : BinaryOperator) (value operand : Value) :
    Run.Follows related (augmented call operator value operand) := by
  unfold augmented
  grind -ring -linarith

@[grind ←]
theorem follows_decorate (value : Value) (decorators : List Value) :
    Run.Follows related (decorate call value decorators) := by
  exact Run.follows_foldrM (fun decorator decorated => calls _ _) value

end Rules

section Statements

variable {related : World κ → World κ → Prop} [World.Course related]
  {kept : Frame → Frame → Prop} [course : Frame.StatementCourse kept]

@[grind ←]
theorem follows_importName (library : Library) (imported : ImportedName) :
    Follows related kept (importName library imported : Evaluation κ Unit) := by
  have postpones : Follows related kept
      (modify fun frame => { frame with postponed := true } : Evaluation κ PUnit) :=
    follows_modify fun frame => course.postponed frame true
  unfold importName
  grind -ring -linarith

theorem follows_declareName (free : Frame.LeavesAnnotations kept) (written : String)
    (type : Value) : Follows related kept (declareName written type : Evaluation κ Unit) := by
  unfold declareName
  refine follows_get.bind fun frame => ?_
  dsimp only
  split
  · exact follows_modifyWorld fun _ => .elsewhere rfl rfl
  · exact follows_modify fun frame => free frame _

variable {call : Caller κ} (calls : Caller.Follows related call)

include calls

theorem follows_declareTarget (target type : Expr Unit) (simple : Bool)
    (free : (∃ span identifier, target = .name span identifier) →
      Frame.LeavesAnnotations kept) :
    Follows related kept (declareTarget call target type simple) := by
  unfold declareTarget
  grind -ring -linarith [follows_eval, follows_declareName]

end Statements

section Runs

variable {related : World κ → World κ → Prop} [World.Course related]
  {call : Caller κ} (calls : Caller.Follows related call)

include calls

set_option linter.unusedSectionVars false in
-- By induction on the statement; what is run inside of a class is run in a frame of its own.
mutual

theorem follows_run {kept : Frame → Frame → Prop} [course : Frame.StatementCourse kept] :
    (statement : Stmt Unit) →
    (statement.declares = true → Frame.LeavesAnnotations kept) →
    Follows related kept (run call statement)
  | .expression .., _ | .assign .., _ | .augment .., _ | .returns .., _ | .raises .., _
  | .asserts .., _ | .pass .., _ => by
    unfold run
    grind -ring -linarith [follows_eval]
  | .declare _ target type _ simple, free => by
    have declares : Follows related kept (declareTarget call target type simple) :=
      follows_declareTarget calls target type simple fun ⟨_, _, named⟩ =>
        free (by rw [named, Stmt.declares])
    unfold run
    grind -ring -linarith [follows_eval]
  | .delete _ targets, _ => by
    unfold run
    refine Follows.bind (follows_forM fun target => ?_) fun _ => follows_pure _
    split <;> grind -ring -linarith [follows_eval]
  | .globals .., _ => by
    unfold run
    exact (follows_modify fun frame => course.shared frame _).bind fun _ => follows_pure _
  | .imports .., _ | .importsFrom .., _ => by
    unfold run
    grind -ring -linarith
  | .function .., _ => by
    unfold run
    grind -ring -linarith [follows_evalAll]
  | .classDefinition _ _ bases keywords body decorators, _ => by
    have inside (frame : Frame) : Run.Follows related (StateT.run (runAll call body) frame) :=
      (follows_runAll body fun _ _ _ => trivial : Follows related (fun _ _ => True) _).worlds frame
    unfold run
    refine (follows_evalAll calls decorators).bind fun applied => ?_
    refine (follows_evalAll calls bases).bind fun written => ?_
    refine (follows_evalKeywords calls keywords _).bind fun given => ?_
    refine follows_get.bind fun frame => follows_world.bind fun world => ?_
    refine Follows.bind (follows_ofExcept _).discard fun _ => ?_
    dsimp only
    refine (follows_inWorld (inside _)).bind fun (_, inner) => ?_
    grind -ring -linarith
  | .conditional _ test body otherwise, free => by
    have first := follows_runAll body fun declares => free (by simp [Stmt.declares, declares])
    have second := follows_runAll otherwise fun declares => free (by simp [Stmt.declares, declares])
    unfold run
    grind -ring -linarith [follows_eval]
  | .breaks .., _ | .continues .., _ | .nonlocals .., _ | .whileLoop .., _ | .forLoop .., _
  | .withBlock .., _ | .matchBlock .., _ | .tryBlock .., _ => by
    unfold run
    exact follows_throw _

theorem follows_runAll {kept : Frame → Frame → Prop} [Frame.StatementCourse kept] :
    (statements : List (Stmt Unit)) →
    (anyDeclares statements = true → Frame.LeavesAnnotations kept) →
    Follows related kept (runAll call statements)
  | [], _ => by
    unfold runAll
    exact follows_pure _
  | first :: rest, free => by
    have head := follows_run first fun declares => free (by simp [anyDeclares, declares])
    have tail := follows_runAll rest fun declares => free (by simp [anyDeclares, declares])
    unfold runAll
    grind -ring -linarith

end

end Runs

end Evaluation

end DifferenceTypes
