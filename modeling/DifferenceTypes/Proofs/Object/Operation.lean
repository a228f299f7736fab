import DifferenceTypes.Object.Instance
import DifferenceTypes.Object.Sequence
import DifferenceTypes.Proofs.Object.Course

/-!
# The course of operations on objects

What operators, comparisons, descriptions, conversions and type expressions do to a world is made of
steps, provided that what they call does nothing else. There is one statement for each of them,
beside those for its parts.
-/

namespace DifferenceTypes

open Run

variable {κ : Type}

/-- Whatever is called, and with whatever arguments, the world that is left behind is related to the
one before. -/
def Caller.Follows (related : World κ → World κ → Prop) (call : Caller κ) : Prop :=
  ∀ callee arguments, Run.Follows related (call callee arguments)

attribute [grind] Caller.Follows

variable {related : World κ → World κ → Prop} [World.Course related]
  {call : Caller κ} (calls : Caller.Follows related call)

namespace Access

@[grind ←]
theorem follows_get (value : Value) (name : String) :
    Follows related (get value name : Run κ Value) := by
  unfold get
  grind -ring -linarith

@[grind ←]
theorem follows_assign (value : Value) (name : String) (new : Value) :
    Follows related (assign value name new : Run κ Unit) := by
  unfold assign
  grind -ring -linarith [Object.kept_setAttribute]

@[grind ←]
theorem follows_assignToClass (identity : ClassId) (name : String) (new : Value) :
    Follows related (assignToClass identity name new : Run κ Unit) := by
  cases identity with
  | builtin kind =>
    simp only [assignToClass]
    split
    · exact follows_modify fun _ => .elsewhere rfl rfl
    · exact follows_throw _
  | defined index => exact follows_changeClass index fun record => record.kept_assign name new

include calls in
@[grind ←]
theorem follows_set (target : Value) (name : String) (new : Value) :
    Follows related (set call target name new) := by
  unfold set
  grind -ring -linarith

@[grind ←]
theorem follows_remove (target : Value) (name : String) :
    Follows related (remove target name : Run κ Unit) := by
  unfold remove
  grind -ring -linarith [Object.kept_removeAttribute, follows_changeClass, ClassRecord.kept_removeAttribute]

@[grind ←]
theorem follows_name (value : Value) : Follows related (name value : Run κ String) := by
  unfold name
  grind -ring -linarith

end Access

namespace Comparison

include calls

@[grind ←]
theorem follows_ask (name : String) (value : Value) (arguments : List Value) :
    Follows related (ask call name value arguments) := by
  unfold ask
  grind -ring -linarith

@[grind ←]
theorem follows_equal (first second : Value) : Follows related (equal call first second) := by
  unfold equal
  grind -ring -linarith

@[grind ←]
theorem follows_different (first second : Value) :
    Follows related (different call first second) := by
  unfold different
  grind -ring -linarith

@[grind ←]
theorem follows_isEqual (first second : Value) : Follows related (isEqual call first second) := by
  unfold isEqual
  grind -ring -linarith

@[grind ←]
theorem follows_areEqual (firsts seconds : List Value) :
    Follows related (areEqual call firsts seconds) := by
  fun_induction areEqual call firsts seconds <;> grind -ring -linarith

@[grind ←]
theorem follows_contains (value : Value) (elements : List Value) :
    Follows related (contains call value elements) := by
  fun_induction contains call value elements <;> grind -ring -linarith

@[grind ←]
theorem follows_containsAll (elements values : List Value) :
    Follows related (containsAll call elements values) := by
  fun_induction containsAll call elements values <;> grind -ring -linarith

@[grind ←]
theorem follows_sameElements (first second : List Value) :
    Follows related (sameElements call first second) := by
  unfold sameElements
  grind -ring -linarith

@[grind ←]
theorem follows_find? (key : Value) (entries : List (Value × Value)) :
    Follows related (find? call key entries) := by
  fun_induction find? call key entries <;> grind -ring -linarith

@[grind ←]
theorem follows_holdsEntries (entries others : List (Value × Value)) :
    Follows related (holdsEntries call entries others) := by
  fun_induction holdsEntries call entries others <;> grind -ring -linarith

omit calls in
@[grind ←]
theorem follows_decided {answer : Run κ Bool} (follows : Follows related answer) :
    Follows related (decided answer) := by
  unfold decided
  grind -ring -linarith

@[grind ←]
theorem follows_equalForms (first second : Value) :
    Follows related (equalForms call first second) := by
  unfold equalForms
  grind -ring -linarith

@[grind ←]
theorem follows_equalContent (first second : Value) :
    Follows related (equalContent call first second) := by
  unfold equalContent
  grind -ring -linarith

omit calls in
@[grind ←]
theorem follows_negated (value : Value) :
    Follows related (negated value : Run κ Value) := by
  unfold negated
  grind -ring -linarith

@[grind ←]
theorem follows_checkHashable (value : Value) :
    Follows related (checkHashable call value) := by
  unfold checkHashable
  grind -ring -linarith

@[grind ←]
theorem follows_checkAllHashable (values : List Value) :
    Follows related (checkAllHashable call values) := by
  unfold checkAllHashable
  grind -ring -linarith

@[grind ←]
theorem follows_checkContentHashable (value : Value) :
    Follows related (checkContentHashable call value) := by
  unfold checkContentHashable
  grind -ring -linarith

end Comparison

namespace TypeForm

@[grind ←]
theorem follows_checkReference (text : Text) :
    Follows related (checkReference text : Run κ Unit) := by
  unfold checkReference
  grind -ring -linarith

@[grind ←]
theorem follows_convert (value : Value) :
    Follows related (convert value : Run κ Value) := by
  unfold convert
  grind -ring -linarith

@[grind ←]
theorem follows_convertAll (values : List Value) :
    Follows related (convertAll values : Run κ (List Value)) := by
  fun_induction convertAll values <;> grind -ring -linarith

@[grind ←]
theorem follows_check (special final : Bool) (value : Value) :
    Follows related (check special final value : Run κ Value) := by
  unfold check
  grind -ring -linarith

@[grind ←]
theorem follows_checkAll (values : List Value) :
    Follows related (checkAll values : Run κ (List Value)) := by
  fun_induction checkAll values <;> grind -ring -linarith

@[grind ←]
theorem follows_annotated (arguments : List Value) :
    Follows related (annotated arguments : Run κ Value) := by
  unfold annotated
  grind -ring -linarith

@[grind ←]
theorem follows_collection (name : String) (arguments : List Value) :
    Follows related (collection name arguments : Run κ Value) := by
  unfold collection
  grind -ring -linarith

@[grind ←]
theorem follows_callable (arguments : List Value) :
    Follows related (callable arguments : Run κ Value) := by
  unfold callable
  split
  · refine Follows.bind (follows_check _ _ _) fun result => ?_
    split <;> grind -ring -linarith
  · exact follows_throw _

@[grind ←]
theorem follows_generic (identity : ClassId) (arguments : List Value) :
    Follows related (generic identity arguments : Run κ Value) := by
  unfold generic
  grind -ring -linarith

include calls

@[grind ←]
theorem follows_withoutRepetitions (kept values : List Value) :
    Follows related (withoutRepetitions call kept values) := by
  fun_induction withoutRepetitions call kept values <;> grind -ring -linarith

@[grind ←]
theorem follows_union (arguments : List Value) :
    Follows related (union call arguments) := by
  unfold union
  grind -ring -linarith

@[grind ←]
theorem follows_optional (argument : Value) :
    Follows related (optional call argument) := by
  unfold optional
  grind -ring -linarith

@[grind ←]
theorem follows_literal (arguments : List Value) :
    Follows related (literal call arguments) := by
  unfold literal
  grind -ring -linarith

@[grind ←]
theorem follows_bar (first second : Value) :
    Follows related (bar call first second) := by
  unfold bar
  grind -ring -linarith

@[grind ←]
theorem follows_rebuild (value : Value) :
    Follows related (rebuild call value) := by
  unfold rebuild
  grind -ring -linarith

@[grind ←]
theorem follows_substitute (form : Value) (arguments : List Value) :
    Follows related (substitute call form arguments) := by
  unfold substitute
  grind -ring -linarith

@[grind ←]
theorem follows_subscribeClass (identity : ClassId) (index : Value) :
    Follows related (subscribeClass call identity index) := by
  unfold subscribeClass
  split
  · exact follows_pure _
  · refine follows_get.bind fun world => ?_
    dsimp only
    split
    · next found =>
      obtain ⟨ancestor, -, meaning⟩ := List.exists_of_findSome?_eq_some found
      split at meaning <;> grind -ring -linarith
    · exact follows_throw _

@[grind ←]
theorem follows_subscribeSpecial (name : String) (index : Value) :
    Follows related (subscribeSpecial call name index) := by
  unfold subscribeSpecial
  grind -ring -linarith

theorem follows_of_subscribe? {value index : Value} {result : Run κ Value}
    (subscribed : subscribe? call value index = some result) : Follows related result := by
  unfold subscribe? at subscribed
  grind -ring -linarith

end TypeForm

namespace Operator

@[grind ←]
theorem follows_toReal (value : Int) :
    Follows related (toReal value : Run κ Binary64) := by
  unfold toReal
  grind -ring -linarith

@[grind →]
theorem follows_of_numbers? {first second : Value} {pair : Run κ Pair}
    (numbers : numbers? first second = some pair) : Follows related pair := by
  unfold numbers? at numbers
  split at numbers
  · cases numbers
    exact follows_pure _
  · obtain ⟨right, -, rfl⟩ := Option.map_eq_some_iff.mp numbers
    exact (follows_toReal right).bind fun _ => follows_pure _
  · obtain ⟨left, -, rfl⟩ := Option.map_eq_some_iff.mp numbers
    exact (follows_toReal left).bind fun _ => follows_pure _
  · grind -ring -linarith

@[grind ←]
theorem follows_add (first second : Value) :
    Follows related (add first second : Run κ Value) := by
  unfold add
  refine (follows_view first).bind fun left => (follows_view second).bind fun right => ?_
  split <;> grind -ring -linarith

@[grind ←]
theorem follows_subtract (first second : Value) :
    Follows related (subtract first second : Run κ Value) := by
  unfold subtract
  refine (follows_view first).bind fun left => (follows_view second).bind fun right => ?_
  split <;> grind -ring -linarith

@[grind ←]
theorem follows_repeatValue (collection : View) (count : Int) :
    Follows related (repeatValue collection count : Run κ Value) := by
  unfold repeatValue
  grind -ring -linarith

@[grind ←]
theorem follows_multiply (first second : Value) :
    Follows related (multiply first second : Run κ Value) := by
  unfold multiply
  grind -ring -linarith

@[grind ←]
theorem follows_divided (first second : Value) (result : Int → Int → Int) :
    Follows related (divided first second result : Run κ Value) := by
  unfold divided
  grind -ring -linarith

@[grind ←]
theorem follows_applyUnary (operator : UnaryOperator) (value : Value) :
    Follows related (applyUnary operator value : Run κ Value) := by
  unfold applyUnary
  grind -ring -linarith

@[grind ←]
theorem follows_itemAt {α : Type} (items : List α) (index : Value) :
    Follows related (itemAt items index : Run κ α) := by
  unfold itemAt
  grind -ring -linarith

@[grind ←]
theorem follows_length (value : Value) :
    Follows related (length value : Run κ Nat) := by
  unfold length
  grind -ring -linarith

@[grind ←]
theorem follows_dropItems (value : Value) (count : Nat) :
    Follows related (dropItems value count : Run κ Value) := by
  unfold dropItems
  grind -ring -linarith

include calls

@[grind ←]
theorem follows_bar (first second : Value) :
    Follows related (bar call first second) := by
  unfold bar
  grind -ring -linarith

@[grind ←]
theorem follows_apply (operator : BinaryOperator) (first second : Value) :
    Follows related (apply call operator first second) := by
  unfold apply
  grind -ring -linarith

@[grind ←]
theorem follows_getItem (collection index : Value) :
    Follows related (getItem call collection index) := by
  unfold getItem
  grind -ring -linarith

@[grind ←]
theorem follows_putEntry (key value : Value) (entries : List (Value × Value)) :
    Follows related (putEntry call key value entries) := by
  fun_induction putEntry call key value entries <;> grind -ring -linarith

@[grind ←]
theorem follows_setItem (collection index value : Value) :
    Follows related (setItem call collection index value) := by
  unfold setItem
  split
  · refine (follows_object _).bind fun object => ?_
    split <;> grind -ring -linarith
  · exact follows_throw _

@[grind ←]
theorem follows_subscript (value index : Value) :
    Follows related (subscript call value index) := by
  unfold subscript
  grind -ring -linarith [TypeForm.follows_of_subscribe?]

@[grind ←]
theorem follows_assignSubscript (value index new : Value) :
    Follows related (assignSubscript call value index new) := by
  unfold assignSubscript
  grind -ring -linarith

end Operator

namespace Sequence

@[grind ←]
theorem follows_items (list : Value) :
    Follows related (items list : Run κ (List Value)) := by
  unfold items
  grind -ring -linarith

@[grind ←]
theorem follows_put (list : Value) (items : List Value) :
    Follows related (put list items : Run κ Unit) := by
  unfold put
  grind -ring -linarith

@[grind ←]
theorem follows_index (value : Value) :
    Follows related (index value : Run κ Int) := by
  unfold index
  grind -ring -linarith

@[grind ←]
theorem follows_insert (list place item : Value) :
    Follows related (insert list place item : Run κ Unit) := by
  unfold insert
  grind -ring -linarith

@[grind ←]
theorem follows_pop (list place : Value) :
    Follows related (pop list place : Run κ Value) := by
  unfold pop
  grind -ring -linarith

@[grind ←]
theorem follows_clear (collection : Value) :
    Follows related (clear collection : Run κ Unit) := by
  unfold clear
  grind -ring -linarith

include calls

@[grind ←]
theorem follows_placeOf (value : Value) (passed : Nat) (items : List Value) :
    Follows related (placeOf call value passed items) := by
  fun_induction placeOf call value passed items <;> grind -ring -linarith

@[grind ←]
theorem follows_occurrences (value : Value) (items : List Value) :
    Follows related (occurrences call value items) := by
  fun_induction occurrences call value items <;> grind -ring -linarith

end Sequence

namespace Description

@[grind ←]
theorem follows_ofHolder (value : Value) (mark : Text) {description : Run κ Text}
    (follows : Follows related description) :
    Follows related (ofHolder value mark description) := by
  unfold ofHolder
  grind -ring -linarith

@[grind ←]
theorem follows_ofObject (value : Value) :
    Follows related (ofObject value : Run κ Text) := by
  unfold ofObject
  grind -ring -linarith

include calls

@[grind ←]
theorem follows_describe (value : Value) :
    Follows related (describe call value) := by
  unfold describe
  grind -ring -linarith

@[grind ←]
theorem follows_describeAll (values : List Value) :
    Follows related (describeAll call values) := by
  fun_induction describeAll call values <;> grind -ring -linarith

@[grind ←]
theorem follows_partOfSubscribed (value : Value) :
    Follows related (partOfSubscribed call value) := by
  unfold partOfSubscribed
  grind -ring -linarith

@[grind ←]
theorem follows_partsOfSubscribed (values : List Value) :
    Follows related (partsOfSubscribed call values) := by
  fun_induction partsOfSubscribed call values <;> grind -ring -linarith

@[grind ←]
theorem follows_part (value : Value) :
    Follows related (part call value) := by
  unfold part
  grind -ring -linarith

@[grind ←]
theorem follows_parts (values : List Value) :
    Follows related (parts call values) := by
  fun_induction parts call values <;> grind -ring -linarith

@[grind ←]
theorem follows_partOfAlternatives (value : Value) :
    Follows related (partOfAlternatives call value) := by
  unfold partOfAlternatives
  grind -ring -linarith

@[grind ←]
theorem follows_partsOfAlternatives (values : List Value) :
    Follows related (partsOfAlternatives call values) := by
  fun_induction partsOfAlternatives call values <;> grind -ring -linarith

@[grind ←]
theorem follows_ofUnion (arguments : List Value) :
    Follows related (ofUnion call arguments) := by
  unfold ofUnion
  grind -ring -linarith

@[grind ←]
theorem follows_ofCallable (arguments : List Value) :
    Follows related (ofCallable call arguments) := by
  unfold ofCallable
  grind -ring -linarith

@[grind ←]
theorem follows_ofOther (value : Value) :
    Follows related (ofOther call value) := by
  unfold ofOther
  grind -ring -linarith

@[grind ←]
theorem follows_entries (pairs : List (Value × Value)) :
    Follows related (entries call pairs) := by
  fun_induction entries call pairs <;> grind -ring -linarith

@[grind ←]
theorem follows_ofContent (value : Value) :
    Follows related (ofContent call value) := by
  unfold ofContent
  grind -ring -linarith

@[grind ←]
theorem follows_plain (value : Value) :
    Follows related (plain call value) := by
  unfold plain
  grind -ring -linarith

@[grind ←]
theorem follows_ofType (name : Option Value) (value : Value) :
    Follows related (ofType call name value) := by
  unfold ofType
  grind -ring -linarith

end Description

namespace Conversion

@[grind ←]
theorem follows_truncated (number : Binary64) :
    Follows related (truncated number : Run κ Int) := by
  unfold truncated
  grind -ring -linarith

@[grind ←]
theorem follows_toInteger (arguments : List Value) :
    Follows related (toInteger arguments : Run κ Int) := by
  unfold toInteger
  grind -ring -linarith

@[grind ←]
theorem follows_toReal (arguments : List Value) :
    Follows related (toReal arguments : Run κ Binary64) := by
  unfold toReal
  grind -ring -linarith

@[grind ←]
theorem follows_toItems (arguments : List Value) :
    Follows related (toItems arguments : Run κ (List Value)) := by
  unfold toItems
  grind -ring -linarith

@[grind ←]
theorem follows_toEntry (value : Value) :
    Follows related (toEntry value : Run κ (Value × Value)) := by
  unfold toEntry
  grind -ring -linarith

@[grind ←]
theorem follows_positionalEntries (arguments : List Value) :
    Follows related (positionalEntries arguments : Run κ (List (Value × Value))) := by
  unfold positionalEntries
  grind -ring -linarith

include calls

@[grind ←]
theorem follows_toText (arguments : List Value) :
    Follows related (toText call arguments) := by
  unfold toText
  grind -ring -linarith

@[grind ←]
theorem follows_toEntries (arguments : Arguments) :
    Follows related (toEntries call arguments) := by
  unfold toEntries
  grind -ring -linarith

end Conversion

namespace Instance

@[grind ←]
theorem follows_wrap (identity : ClassId) (plain : Value) :
    Follows related (wrap identity plain : Run κ Value) := by
  unfold wrap
  grind -ring -linarith

@[grind ←]
theorem follows_typeVariable (arguments : List Value) :
    Follows related (typeVariable arguments : Run κ Value) := by
  unfold typeVariable
  split
  · exact fun world => World.Course.step (.newObject world default)
  · exact follows_throw _

@[grind ←]
theorem follows_makePlain (identity : ClassId) (arguments : Arguments) :
    Follows related (makePlain identity arguments : Run κ Value) := by
  unfold makePlain
  grind -ring -linarith

include calls

@[grind ←]
theorem follows_make (identity : ClassId) (arguments : Arguments) :
    Follows related (make call identity arguments) := by
  unfold make
  grind -ring -linarith

@[grind ←]
theorem follows_complete (identity : ClassId) (value : Value) (arguments : Arguments) :
    Follows related (complete call identity value arguments) := by
  unfold complete
  grind -ring -linarith

@[grind ←]
theorem follows_construct (identity : ClassId) (arguments : Arguments) :
    Follows related (construct call identity arguments) := by
  unfold construct
  grind -ring -linarith

end Instance

@[grind ←]
theorem Derivation.follows_derive (name qualifiedName : String) (written : List Value)
    (attributes annotations : Attributes) :
    Follows related
      (derive name qualifiedName written attributes annotations : Run κ ClassId) := by
  intro world
  unfold derive
  rw [outcome_get_bind]
  split
  · next derived => exact World.Course.step (.newClass derived)
  · exact World.Course.refl world

end DifferenceTypes
