import DifferenceTypes.Proofs.Evaluation.Course

/-!
# Expressions in other places

An expression means the same in two frames if each name that it looks up does. Nothing else of a
frame is looked at: no class is private to anything that the expression mentions, it binds no names,
and it makes no functions, which would remember where they were made.

Such an expression is compared with itself at the top of the module: wherever its names are found in
the module, it gives what it gives there, does to the world what it does there, and leaves the frame
as it is.
-/

namespace DifferenceTypes

open Run (outcome)

variable {κ α β : Type}

mutual

/-- Whether an expression looks up admitted names only, mentions nothing private to a class, binds
no names and makes no functions. -/
def Expr.isPortable (admits : String → Bool) : Expr Unit → Bool
  | .name _ identifier => admits identifier
  | .constant _ _ => true
  | .formatted _ parts => allPortable admits parts
  | .interpolation _ value _ _ | .starred _ value => value.isPortable admits
  | .attribute _ value identifier => value.isPortable admits && !Frame.isPrivate identifier
  | .subscript _ value index => value.isPortable admits && index.isPortable admits
  | .call _ callee arguments keywords =>
    callee.isPortable admits && allPortable admits arguments && keywordsPortable admits keywords
  | .tuple _ elements | .list _ elements => allPortable admits elements
  | .dictionary _ entries => entriesPortable admits entries
  | .unary _ _ operand => operand.isPortable admits
  | .binary _ left _ right => left.isPortable admits && right.isPortable admits
  | .boolean _ _ operands => allPortable admits operands
  | .comparison _ first rest => first.isPortable admits && comparisonsPortable admits rest
  | .conditional _ test whenTrue whenFalse =>
    test.isPortable admits && whenTrue.isPortable admits && whenFalse.isPortable admits
  | _ => false

def allPortable (admits : String → Bool) : List (Expr Unit) → Bool
  | [] => true
  | first :: rest => first.isPortable admits && allPortable admits rest

def keywordsPortable (admits : String → Bool) : List (Keyword Unit) → Bool
  | [] => true
  | .named _ identifier value :: rest =>
    !Frame.isPrivate identifier && value.isPortable admits && keywordsPortable admits rest
  | .unpacked _ value :: rest => value.isPortable admits && keywordsPortable admits rest

def entriesPortable (admits : String → Bool) : List (Entry Unit) → Bool
  | [] => true
  | .pair key value :: rest =>
    key.isPortable admits && value.isPortable admits && entriesPortable admits rest
  | .unpacked value :: rest => value.isPortable admits && entriesPortable admits rest

def comparisonsPortable (admits : String → Bool) : List (Comparison Unit) → Bool
  | [] => true
  | .step _ operand :: rest => operand.isPortable admits && comparisonsPortable admits rest

end

/-- Whatever the world, a frame finds admitted names where the module has them. -/
def Frame.SeesModule (κ : Type) (admits : String → Bool) (frame : Frame) : Prop :=
  ∀ name, admits name = true → Frame.keptName frame.owner name = name ∧
    ∀ world : World κ, Evaluation.lookUp world frame name = Evaluation.lookUp world .ofModule name

theorem Frame.keptName_of_not_private (owner : Option String) {name : String}
    (notPrivate : isPrivate name = false) : keptName owner name = name := by
  unfold keptName
  split
  · simp [notPrivate]
  · rfl

theorem Frame.seesModule_ofModule (κ : Type) (admits : String → Bool) :
    Frame.ofModule.SeesModule κ admits :=
  fun _ _ => ⟨rfl, fun _ => rfl⟩

namespace Evaluation

/-- What a computation gives, starting in a frame in which it means the same as at the top of the
module: what it gives there, and the frame as it is. -/
def IsPortable (admits : String → Bool) (computation : Evaluation κ α) : Prop :=
  ∀ frame : Frame, frame.SeesModule κ admits →
    StateT.run computation frame = (·, frame) <$> StateT.run' computation .ofModule

/-- What is computed in the world alone does not look at the frame. -/
theorem run'_inWorld (computation : Run κ α) (frame : Frame) :
    StateT.run' (inWorld computation) frame = computation := by
  rw [StateT.run'_eq]
  change Prod.fst <$> (computation >>= fun value => pure (value, frame)) = computation
  simp

section Rules

variable {admits : String → Bool}

theorem isPortable_of_constant {computation : Evaluation κ α} (inner : Run κ α)
    (constant : ∀ frame, frame.SeesModule κ admits →
      StateT.run computation frame = (·, frame) <$> inner) : IsPortable admits computation := by
  intro frame sees
  rw [constant frame sees, StateT.run'_eq, constant _ (Frame.seesModule_ofModule κ admits),
    Functor.map_map]
  simp

@[grind ←]
theorem isPortable_pure (value : α) : IsPortable admits (pure value : Evaluation κ α) :=
  isPortable_of_constant (pure value) fun _ _ => by simp

@[grind ←]
theorem isPortable_throw (failure : Failure) :
    IsPortable admits (throw failure : Evaluation κ α) :=
  isPortable_of_constant (throw failure) fun _ _ => rfl

@[grind ←]
theorem isPortable_inWorld (computation : Run κ α) :
    IsPortable admits (inWorld computation) :=
  isPortable_of_constant computation fun _ _ => by
    rw [map_eq_pure_bind]
    rfl

@[grind ←]
theorem isPortable_world : IsPortable admits (world : Evaluation κ (World κ)) :=
  isPortable_of_constant get fun _ _ => rfl

@[grind ←]
theorem IsPortable.bind {computation : Evaluation κ α} {next : α → Evaluation κ β}
    (first : IsPortable admits computation) (second : ∀ value, IsPortable admits (next value)) :
    IsPortable admits (computation >>= next) := by
  refine isPortable_of_constant
    (StateT.run' computation .ofModule >>= fun value => StateT.run' (next value) .ofModule)
    fun frame sees => ?_
  rw [StateT.run_bind, first frame sees, bind_map_left, map_bind]
  exact congrArg _ (funext fun value => second value frame sees)

/-- Behind a portable computation the next one starts in the same frame. -/
theorem IsPortable.run'_bind {computation : Evaluation κ α} (portable : IsPortable admits computation)
    (next : α → Evaluation κ β) {frame : Frame} (sees : frame.SeesModule κ admits) :
    StateT.run' (computation >>= next) frame =
      StateT.run' computation frame >>= fun value => StateT.run' (next value) frame := by
  simp only [StateT.run'_eq, StateT.run_bind, portable frame sees, bind_map_left, map_bind]

@[grind ←]
theorem isPortable_ofExcept (result : Except Failure α) :
    IsPortable admits (ofExcept result : Evaluation κ α) := by
  unfold ofExcept
  grind

/-- What is done with a name that is private to no class does not depend on the frame's class. -/
theorem isPortable_keptName {identifier : String} (isPublic : Frame.isPrivate identifier = false)
    (next : String → Evaluation κ α) (portable : IsPortable admits (next identifier)) :
    IsPortable admits
      (get >>= fun frame : Frame => next (Frame.keptName frame.owner identifier)) := by
  intro frame sees
  have opened (frame : Frame) : StateT.run (get >>= fun frame : Frame =>
      next (Frame.keptName frame.owner identifier)) frame = StateT.run (next identifier) frame := by
    rw [StateT.run_bind, StateT.run_get, pure_bind, Frame.keptName_of_not_private _ isPublic]
  rw [opened, StateT.run'_eq, opened, portable frame sees, StateT.run'_eq]

/-- An admitted name is looked up in the module. -/
theorem isPortable_getName {identifier : String} (admitted : admits identifier = true) :
    IsPortable admits (getName identifier : Evaluation κ Value) := by
  refine isPortable_of_constant (do MonadExcept.ofExcept (lookUp (← get) .ofModule identifier) : Run κ Value) fun frame sees => ?_
  obtain ⟨kept, same⟩ := sees identifier admitted
  unfold getName
  rw [StateT.run_bind, StateT.run_get, pure_bind, StateT.run_bind, map_bind]
  refine congrArg (@bind (Run κ) _ _ _ get) (funext fun world => ?_)
  rw [kept, same world]
  cases lookUp world .ofModule identifier <;> rfl

end Rules

variable {admits : String → Bool} {call : Caller κ}

-- By induction on the expression; lists of what is evaluated one after the other come along.
mutual

/-- An expression that looks up admitted names only means the same wherever these do. -/
theorem isPortable_eval : (expression : Expr Unit) → expression.isPortable admits = true →
    IsPortable admits (eval call expression)
  | .name _ identifier, portable => by
    unfold eval
    exact isPortable_getName portable
  | .constant .., _ => by
    unfold eval
    exact isPortable_ofExcept _
  | .formatted _ parts, portable => by
    unfold eval
    exact (isPortable_evalParts parts portable).bind fun _ => isPortable_pure _
  | .attribute _ value identifier, portable => by
    simp only [Expr.isPortable, Bool.and_eq_true, Bool.not_eq_true'] at portable
    unfold eval
    exact (isPortable_eval value portable.1).bind fun object =>
      isPortable_keptName portable.2 (fun name => inWorld (Access.get object name))
        (isPortable_inWorld _)
  | .subscript _ value index, portable => by
    simp only [Expr.isPortable, Bool.and_eq_true] at portable
    unfold eval
    grind [isPortable_eval value portable.1, isPortable_eval index portable.2]
  | .call _ callee arguments keywords, portable => by
    simp only [Expr.isPortable, Bool.and_eq_true] at portable
    unfold eval
    refine (isPortable_eval callee portable.1.1).bind fun function => ?_
    refine (isPortable_evalAll arguments portable.1.2).bind fun positional => ?_
    exact (isPortable_evalKeywords keywords portable.2 _).bind fun given => isPortable_inWorld _
  | .starred .., _ | .interpolation .., _ => by
    unfold eval
    exact isPortable_throw _
  | .tuple _ elements, portable => by
    unfold eval
    exact (isPortable_evalAll elements portable).bind fun _ => isPortable_pure _
  | .list _ elements, portable => by
    unfold eval
    exact (isPortable_evalAll elements portable).bind fun _ => isPortable_inWorld _
  | .dictionary _ entries, portable => by
    unfold eval
    exact (isPortable_evalEntries entries portable _).bind fun _ => isPortable_inWorld _
  | .unary _ _ operand, portable => by
    unfold eval
    exact (isPortable_eval operand portable).bind fun _ => isPortable_inWorld _
  | .binary _ left _ right, portable => by
    simp only [Expr.isPortable, Bool.and_eq_true] at portable
    unfold eval
    grind [isPortable_eval left portable.1, isPortable_eval right portable.2]
  | .boolean _ _ operands, portable => by
    unfold eval
    exact isPortable_evalUntil operands portable _
  | .comparison _ first rest, portable => by
    simp only [Expr.isPortable, Bool.and_eq_true] at portable
    unfold eval
    exact (isPortable_eval first portable.1).bind fun value =>
      isPortable_evalComparisons rest portable.2 value
  | .conditional _ test whenTrue whenFalse, portable => by
    simp only [Expr.isPortable, Bool.and_eq_true] at portable
    unfold eval
    grind [isPortable_eval test portable.1.1, isPortable_eval whenTrue portable.1.2,
      isPortable_eval whenFalse portable.2]

theorem isPortable_evalInside : (expression : Expr Unit) → expression.isPortable admits = true →
    ∀ value, expression.IsInside value → IsPortable admits (eval call value)
  | .starred _ value, portable, _, .starred => isPortable_eval value portable
  | .interpolation _ value _ _, portable, _, .interpolation => isPortable_eval value portable

theorem isPortable_evalAll : (expressions : List (Expr Unit)) →
    allPortable admits expressions = true → IsPortable admits (evalAll call expressions)
  | [], _ => by
    unfold evalAll
    exact isPortable_pure _
  | first :: rest, portable => by
    simp only [allPortable, Bool.and_eq_true] at portable
    have inner := isPortable_evalInside first portable.1
    unfold evalAll
    split <;> grind [isPortable_eval first portable.1, isPortable_evalAll rest portable.2,
      Expr.IsInside]

theorem isPortable_evalKeywords : (keywords : List (Keyword Unit)) →
    keywordsPortable admits keywords = true →
      ∀ given, IsPortable admits (evalKeywords call given keywords)
  | [], _, _ => by
    unfold evalKeywords
    exact isPortable_pure _
  | .named _ identifier value :: rest, portable, given => by
    simp only [keywordsPortable, Bool.and_eq_true, Bool.not_eq_true'] at portable
    unfold evalKeywords
    refine (isPortable_eval value portable.1.2).bind fun result => ?_
    refine isPortable_keptName portable.1.1 (fun name => do
      evalKeywords call (← ofExcept (withKeywords given [(name, result)])) rest) ?_
    exact (isPortable_ofExcept _).bind fun more => isPortable_evalKeywords rest portable.2 more
  | .unpacked _ value :: rest, portable, given => by
    simp only [keywordsPortable, Bool.and_eq_true] at portable
    unfold evalKeywords
    grind [isPortable_eval value portable.1, isPortable_evalKeywords rest portable.2]

theorem isPortable_evalEntries : (entries : List (Entry Unit)) →
    entriesPortable admits entries = true →
      ∀ found, IsPortable admits (evalEntries call found entries)
  | [], _, _ => by
    unfold evalEntries
    exact isPortable_pure _
  | .pair key value :: rest, portable, found => by
    simp only [entriesPortable, Bool.and_eq_true] at portable
    unfold evalEntries
    grind [isPortable_eval key portable.1.1, isPortable_eval value portable.1.2,
      isPortable_evalEntries rest portable.2]
  | .unpacked value :: rest, portable, found => by
    simp only [entriesPortable, Bool.and_eq_true] at portable
    unfold evalEntries
    grind [isPortable_eval value portable.1, isPortable_evalEntries rest portable.2]

theorem isPortable_evalUntil : (operands : List (Expr Unit)) →
    allPortable admits operands = true →
      ∀ operator, IsPortable admits (evalUntil call operator operands)
  | [], _, _ => by
    unfold evalUntil
    exact isPortable_throw _
  | [last], portable, _ => by
    simp only [allPortable, Bool.and_eq_true] at portable
    unfold evalUntil
    exact isPortable_eval last portable.1
  | first :: second :: rest, portable, operator => by
    have both : first.isPortable admits = true ∧ allPortable admits (second :: rest) = true := by
      rwa [allPortable, Bool.and_eq_true] at portable
    unfold evalUntil
    grind [isPortable_eval first both.1, isPortable_evalUntil (second :: rest) both.2 operator]

theorem isPortable_evalComparisons : (rest : List (Comparison Unit)) →
    comparisonsPortable admits rest = true →
      ∀ value, IsPortable admits (evalComparisons call value rest)
  | [], _, _ => by
    unfold evalComparisons
    exact isPortable_pure _
  | [.step _ operand], portable, _ => by
    simp only [comparisonsPortable, Bool.and_eq_true] at portable
    unfold evalComparisons
    exact (isPortable_eval operand portable.1).bind fun _ => isPortable_inWorld _
  | .step _ operand :: second :: rest, portable, _ => by
    have both : operand.isPortable admits = true ∧
        comparisonsPortable admits (second :: rest) = true := by
      rwa [comparisonsPortable, Bool.and_eq_true] at portable
    unfold evalComparisons
    grind [isPortable_eval operand both.1, isPortable_evalComparisons (second :: rest) both.2]

theorem isPortable_evalParts : (parts : List (Expr Unit)) →
    allPortable admits parts = true → IsPortable admits (evalParts call parts)
  | [], _ => by
    unfold evalParts
    exact isPortable_pure _
  | first :: rest, portable => by
    simp only [allPortable, Bool.and_eq_true] at portable
    have inner := isPortable_evalInside first portable.1
    unfold evalParts
    split <;> grind [isPortable_evalParts rest portable.2, Expr.IsInside]

end

/-- Wherever admitted names are found in the module, a portable expression gives the same. -/
theorem run'_eval {expression : Expr Unit} (portable : expression.isPortable admits = true)
    {first second : Frame} (firstSees : first.SeesModule κ admits)
    (secondSees : second.SeesModule κ admits) :
    StateT.run' (eval call expression) first = StateT.run' (eval call expression) second := by
  have same : IsPortable admits (eval call expression) := isPortable_eval expression portable
  rw [StateT.run'_eq, StateT.run'_eq, same first firstSees, same second secondSees, Functor.map_map,
    Functor.map_map]

end Evaluation

/-! ### Frames that see the module -/

namespace Frame

open Evaluation (lookUp sharedName?)

variable {admits : String → Bool} {frame : Frame}

/-- The body of a class or of the module, if it binds no admitted name. -/
theorem seesModule_of_body (place : frame.place = .module ∨ frame.place = .classBody)
    (free : ∀ name, admits name = true → isPrivate name = false ∧ frame.bindings.get? name = none) :
    frame.SeesModule κ admits := by
  intro name admitted
  obtain ⟨isPublic, unbound⟩ := free name admitted
  refine ⟨keptName_of_not_private _ isPublic, fun world => ?_⟩
  unfold lookUp
  rcases place with place | place <;> simp [place, unbound, ofModule]

/-- The body of a function, if no admitted name is its own. -/
theorem seesModule_of_function {names : List String} (place : frame.place = .function names)
    (free : ∀ name, admits name = true →
      isPrivate name = false ∧ frame.bindings.get? name = none ∧ name ∉ names) :
    frame.SeesModule κ admits := by
  intro name admitted
  obtain ⟨isPublic, unbound, other⟩ := free name admitted
  refine ⟨keptName_of_not_private _ isPublic, fun world => ?_⟩
  unfold lookUp
  simp [place, unbound, other, ofModule]

/-- A text that is resolved for a class, if the class has no attribute of an admitted name. -/
theorem seesModule_of_reference (place : frame.place = .reference)
    (free : ∀ name, admits name = true → isPrivate name = false ∧ frame.bindings.get? name = none) :
    frame.SeesModule κ admits := by
  intro name admitted
  obtain ⟨isPublic, unbound⟩ := free name admitted
  refine ⟨keptName_of_not_private _ isPublic, fun world => ?_⟩
  have behind : (world.module.get? name).or (sharedName? world name) = sharedName? world name := by
    unfold sharedName?
    cases world.module.get? name <;> rfl
  unfold lookUp
  simp [place, unbound, behind, ofModule]

end Frame

end DifferenceTypes
