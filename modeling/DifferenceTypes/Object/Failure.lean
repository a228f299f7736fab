import DifferenceTypes.Text.CodePoint

/-!
# Failures

Why a module or an operation on its objects stops. A failure is a cause, not a message: only the two
causes that the contract itself adds, a type without a contract and a wrong number of positional
fields, have a text.
-/

namespace DifferenceTypes

/-- Causes of failure. -/
inductive Failure where
  /-- No contract is found for a type, given by its description. -/
  | noContract (subject : Text)
  /-- A positional class with a fixed number of fields was given another number of them. -/
  | wrongCount (className : Text) (expected : Text) (given : Nat)
  | wrongType
  | missingAttribute
  | missingKey
  | missingIndex
  | unknownName
  | unassignedName
  | badValue
  | frozenRecord
  | missingModule
  | missingImport
  /-- Calls are nested too deeply, or without end. -/
  | tooDeep
  | divisionByZero
  | tooLarge
  /-- A text is not an expression, or a statement stands where it must not. -/
  | invalidCode
  | failedAssertion
  | unencodable
  /-- An exception of this name was raised. -/
  | raised (name : String)
  /-- A construct that no module here has any use for. -/
  | unsupported
  deriving DecidableEq, Repr, Inhabited

/-- The text of a failure that has one. -/
def Failure.message? : Failure → Option Text
  | .noContract subject => some ("no diff contract registered for " ++ subject)
  | .wrongCount className expected given =>
    some (className ++ " takes " ++ expected ++ " positional fields but " ++
      Text.ofString (toString given) ++
      " were given")
  | _ => none

end DifferenceTypes
