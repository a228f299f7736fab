import DifferenceTypes.Proofs.Object.Operation
import DifferenceTypes.Record.Method

/-!
# The course of operations on record classes

What the methods of record classes do to a world is made of steps, and so is everything by which a
class becomes a record class, except for the one change that makes it one.
-/

namespace DifferenceTypes.Record

open Run

variable {κ : Type} {related : World κ → World κ → Prop} [World.Course related]
  {call : Caller κ} (calls : Caller.Follows related call)

@[grind ←]
theorem follows_hasOwn (identity : ClassId) (name : String) :
    Follows related (hasOwn identity name : Run κ Bool) := by
  unfold hasOwn
  grind

@[grind ←]
theorem follows_supply (identity : ClassId) (name : String) (operation : Primitive) :
    Follows related (supply identity name operation : Run κ Unit) := by
  unfold supply
  grind

@[grind ←]
theorem follows_supplyNew (identity : ClassId) (name : String) (operation : Primitive) :
    Follows related (supplyNew identity name operation : Run κ Unit) := by
  unfold supplyNew
  grind

@[grind ←]
theorem follows_settleDefaults (identity : ClassId) (fields : List RecordField) :
    Follows related (settleDefaults identity fields : Run κ Unit) := by
  unfold settleDefaults
  grind

@[grind ←]
theorem follows_settleHash (identity : ClassId) (options : RecordOptions) (declared : Bool) :
    Follows related (settleHash identity options declared : Run κ Unit) := by
  unfold settleHash
  grind

@[grind ←]
theorem follows_checkDrafts (index : Nat) (annotations : Attributes) :
    Follows related (checkDrafts index annotations : Run κ Unit) := by
  unfold checkDrafts
  grind

@[grind ←]
theorem follows_supplyMethods (options : RecordOptions) (identity : ClassId)
    (fields : List RecordField) :
    Follows related (supplyMethods options identity fields : Run κ Unit) := by
  unfold supplyMethods
  grind

@[grind ←]
theorem follows_field (arguments : Arguments) :
    Follows related (field arguments : Run κ Value) := by
  unfold field
  grind

@[grind ←]
theorem follows_fieldNames (target : Value) :
    Follows related (fieldNames target : Run κ (List String)) := by
  unfold fieldNames
  grind

@[grind ←]
theorem follows_definition (owner : ClassId) :
    Follows related (definition owner : Run κ RecordDefinition) := by
  unfold definition
  grind

@[grind ←]
theorem follows_fieldValues (self : Value) (fields : List RecordField) :
    Follows related (fieldValues self fields : Run κ (List Value)) := by
  fun_induction fieldValues self fields <;> grind

@[grind ←]
theorem follows_attributeBehind (owner : ClassId) (self : Value) (name : String) :
    Follows related (attributeBehind owner self name : Run κ Value) := by
  unfold attributeBehind
  grind

@[grind ←]
theorem follows_isKept (owner : ClassId) (self : Value) (name : String) :
    Follows related (isKept owner self name : Run κ Bool) := by
  unfold isKept
  grind

include calls

@[grind ←]
theorem follows_start? (given : Attributes) (field : RecordField) :
    Follows related (start? call given field) := by
  unfold start?
  grind

@[grind ←]
theorem follows_setFields (frozen : Bool) (self : Value) (given : Attributes) (fields : List RecordField) :
    Follows related (setFields call frozen self given fields) := by
  fun_induction setFields call frozen self given fields <;> grind

@[grind ←]
theorem follows_completionArguments (given : Attributes) (fields : List RecordField) :
    Follows related (completionArguments call given fields) := by
  unfold completionArguments
  grind

@[grind ←]
theorem follows_fill (owner : ClassId) (arguments : Arguments) :
    Follows related (fill call owner arguments) := by
  unfold fill
  refine (follows_definition owner).bind fun definition => ?_
  split
  · exact follows_throw _
  split
  · exact follows_throw _
  · refine (follows_setFields calls _ _ _ _).bind fun _ => ?_
    grind

@[grind ←]
theorem follows_equal (owner : ClassId) (first second : Value) :
    Follows related (equal call owner first second) := by
  unfold equal
  grind

@[grind ←]
theorem follows_checkHashable (owner : ClassId) (self : Value) :
    Follows related (checkHashable call owner self) := by
  unfold checkHashable
  grind

@[grind ←]
theorem follows_describeFields (self : Value) (fields : List RecordField) :
    Follows related (describeFields call self fields) := by
  fun_induction describeFields call self fields <;> grind

@[grind ←]
theorem follows_describe (owner : ClassId) (self : Value) :
    Follows related (describe call owner self) := by
  unfold describe
  grind

@[grind ←]
theorem follows_assign (owner : ClassId) (self name new : Value) :
    Follows related (assign call owner self name new) := by
  unfold assign
  grind

@[grind ←]
theorem follows_erase (owner : ClassId) (self name : Value) :
    Follows related (erase call owner self name) := by
  unfold erase
  grind

end DifferenceTypes.Record
