import DifferenceTypes.Evaluation.Call
import DifferenceTypes.Proofs.Contract.Course
import DifferenceTypes.Proofs.Evaluation.Course
import DifferenceTypes.Proofs.Record.Course

/-!
# The course of calls

Every call leads along a course of steps, interrupted only by changes that make classes record
classes, provided that the leaf contracts do nothing else. As a call is nothing but a caller used to
some depth, this follows by induction on the depth from what each kind of value does when called.
So whatever a module does when its statements are run is made of these changes.
-/

namespace DifferenceTypes

open Contract (Behaviour)

variable {κ : Type}

/-- A relation between worlds that leads along every course of steps and of changes that make
classes record classes. -/
class World.RecordCourse (related : World κ → World κ → Prop) : Prop
    extends World.Course related where
  make : ∀ options target, Run.Follows related (Record.make options target)

variable {related : World κ → World κ → Prop} [course : World.RecordCourse related]
  {call : Caller κ} (calls : Caller.Follows related call)
  {behaviour : Behaviour κ} (behaves : behaviour.Follows related)

@[grind ←]
theorem Record.follows_make (options : RecordOptions) (target : Value) :
    Run.Follows related (make options target : Run κ Value) :=
  course.make options target

@[grind ←]
theorem Record.follows_decorate (arguments : Arguments) :
    Run.Follows related (decorate arguments : Run κ Value) := by
  unfold decorate
  grind

namespace Operation

open Run (Follows)

@[grind ←]
theorem follows_inOrder (names : List String) (arguments : Arguments) :
    Follows related (inOrder names arguments : Run κ (List Value)) := by
  unfold inOrder
  grind

@[grind ←]
theorem follows_byPosition (arguments : Arguments) :
    Follows related (byPosition arguments : Run κ (List Value)) := by
  unfold byPosition
  grind

@[grind ←]
theorem follows_isAmong (identity : ClassId) (classes : Value) :
    Follows related (isAmong identity classes : Run κ Value) := by
  unfold isAmong
  grind

@[grind ←]
theorem follows_attributeOr (value name default : Value) :
    Follows related (attributeOr value name default : Run κ Value) := by
  unfold attributeOr
  grind

@[grind ←]
theorem follows_ofEcho (operation : Primitive) (arguments : List Value) :
    Follows related (ofEcho operation arguments : Run κ Value) := by
  unfold ofEcho
  grind

include calls

include behaves in
@[grind ←]
theorem follows_ofContract (operation : Primitive) (arguments : Arguments) :
    Follows related (ofContract behaviour call operation arguments) := by
  unfold ofContract
  grind

@[grind ←]
theorem follows_general (operation : Primitive) (arguments : List Value) :
    Follows related (general call operation arguments) := by
  unfold general
  grind

@[grind ←]
theorem follows_ofObject (operation : Primitive) (arguments : Arguments) :
    Follows related (ofObject call operation arguments) := by
  unfold ofObject
  grind

@[grind ←]
theorem follows_ofContent (operation : Primitive) (arguments : List Value) :
    Follows related (ofContent call operation arguments) := by
  unfold ofContent
  grind

@[grind ←]
theorem follows_ofList (operation : Primitive) (arguments : List Value) :
    Follows related (ofList call operation arguments) := by
  unfold ofList
  grind

@[grind ←]
theorem follows_ofPositional (operation : Primitive) (arguments : List Value) :
    Follows related (ofPositional call operation arguments) := by
  unfold ofPositional
  grind

@[grind ←]
theorem follows_ofRecord (operation : Primitive) (arguments : List Value) :
    Follows related (ofRecord call operation arguments) := by
  unfold ofRecord
  grind

include behaves in
@[grind ←]
theorem follows_run (operation : Primitive) (arguments : Arguments) :
    Follows related (run behaviour call operation arguments) := by
  unfold run
  split <;> grind

end Operation

namespace Evaluation

open Run (Follows)

@[grind ←]
theorem follows_collectPositional (name : Option String) (values : List Value) :
    Run.Follows related (collectPositional name values : Run κ Attributes) := by
  unfold collectPositional
  grind

@[grind ←]
theorem follows_collectNamed (name : Option String) (values : Attributes) :
    Run.Follows related (collectNamed name values : Run κ Attributes) := by
  unfold collectNamed
  grind

@[grind ←]
theorem follows_bindArguments (function : Function) (arguments : Arguments) :
    Run.Follows related (bindArguments function arguments : Run κ Attributes) := by
  unfold bindArguments
  grind

include calls

@[grind ←]
theorem follows_applyFunction (function : Function) (arguments : Arguments) :
    Run.Follows related (applyFunction call function arguments) := by
  unfold applyFunction
  refine (follows_bindArguments function arguments).bind fun bindings => ?_
  have body : Evaluation.Follows related (fun _ _ => True) (runAll call function.body) :=
    follows_runAll calls function.body fun _ _ _ => trivial
  refine Run.Follows.bind ((body.worlds (frameOf function bindings)).map _) fun flow => ?_
  split <;> grind

@[grind ←]
theorem follows_makeByForm (form origin : Value) (arguments : Arguments) :
    Run.Follows related (makeByForm call form origin arguments) := by
  unfold makeByForm
  refine (calls _ _).bind fun value => ?_
  have noted := Access.follows_set calls value makerName form
  exact (noted.recover fun _ => Run.follows_pure ()).bind fun _ => Run.follows_pure value

@[grind ←]
theorem follows_callObject (ref : Ref) (arguments : Arguments) :
    Run.Follows related (callObject call ref arguments) := by
  unfold callObject
  grind

include behaves

@[grind ←]
theorem follows_callBy (callee : Value) (arguments : Arguments) :
    Run.Follows related (callBy behaviour call callee arguments) := by
  fun_induction callBy behaviour call callee arguments <;> grind

omit calls in
/-- Every call leads along a course, however deeply it may nest. -/
theorem follows_callWithin (depth : Nat) : Caller.Follows related (callWithin behaviour depth) := by
  induction depth with
  | zero => exact fun _ _ => Run.follows_throw _
  | succ depth inductionHypothesis => exact fun _ _ => follows_callBy inductionHypothesis behaves _ _

omit calls in
theorem follows_call : Caller.Follows related (Evaluation.call behaviour) :=
  follows_callWithin behaves depthLimit

end Evaluation

end DifferenceTypes
