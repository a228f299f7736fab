import DifferenceTypes.Number.Binary64
import DifferenceTypes.Object.Builtin
import DifferenceTypes.Text.CodePoint

/-!
# Values

What an expression of a module can denote. Scalars, tuples and type expressions are values by
themselves: they never change, so nothing is lost by not telling two equal ones apart. Everything
that has an identity of its own, because it can change or because it is compared by identity, is a
reference to an object or to a class of the store.
-/

namespace DifferenceTypes

/-- A reference to an object of the store. -/
abbrev Ref := Nat

/-- A class: a built-in one, or the one at an index of the store. -/
inductive ClassId where
  | builtin (kind : BuiltinClass)
  | defined (index : Nat)
  deriving DecidableEq, Repr, Inhabited

/-- The modules that a module can import. -/
inductive Library where
  | builtins
  | dataclasses
  | future
  | package
  | runtime
  | types
  | typing
  deriving DecidableEq, Repr, Inhabited

/-- What a record class is asked to have. -/
structure RecordOptions where
  fill : Bool := true
  describe : Bool := true
  compare : Bool := true
  order : Bool := false
  hash : Bool := false
  frozen : Bool := false
  keywordOnly : Bool := false
  deriving DecidableEq, Repr, Inhabited

/-- Operations that are not defined by a module. -/
inductive Primitive where
  -- The contract.
  | diff
  | apply
  | identity
  | representation
  | isGenerated
  | implements
  -- Functions of general use.
  | equals
  | describe
  | hash
  | length
  | getAttribute
  | setAttribute
  | hasAttribute
  | isInstance
  | isSubclass
  | makeRecord
  | makeField
  | recordFields
  -- Methods of every object.
  | newObject
  | fillObject
  | sameObject
  | differs
  | describeObject
  | hashObject
  | assign
  | erase
  -- Methods of classes.
  | ancestorLine
  -- Methods of objects by their content.
  | equalContent
  | differentContent
  | describeContent
  | hashContent
  | getItem
  | setItem
  | countItems
  -- Methods of lists.
  | fillList
  | append
  | extend
  | insert
  | pop
  | drop
  | placeOf
  | occurrences
  | clear
  | copyList
  | reverse
  -- Methods of positional classes.
  | fillPositional
  | equalPositional
  | differentPositional
  | describePositional
  -- Methods that a record class was given, for the fields that it has.
  | fillRecord (owner : ClassId)
  | equalRecord (owner : ClassId)
  | describeRecord (owner : ClassId)
  | hashRecord (owner : ClassId)
  | assignRecord (owner : ClassId)
  | eraseRecord (owner : ClassId)
  -- Functions that tell how they were called.
  | echo (operation : String) (label : Text)
  | echoClass (operation : String) (label : Text)
  deriving DecidableEq, Repr, Inhabited

/-- Values. -/
inductive Value where
  | none
  | ellipsis
  /-- The answer of a comparison that leaves the decision to the other operand. -/
  | undecided
  | truth (value : Bool)
  | integer (value : Int)
  | real (value : Binary64)
  | text (value : Text)
  | bytes (value : List UInt8)
  | tuple (items : List Value)
  | object (ref : Ref)
  | ofClass (identity : ClassId)
  | primitive (operation : Primitive)
  /-- A function together with its first argument. -/
  | method (receiver : Value) (function : Value)
  | classMethod (function : Value)
  | staticMethod (function : Value)
  | library (identity : Library)
  /-- The decorator that installs a contract on a class. -/
  | installer (target : Value)
  /-- The decorator that makes a class a record class. -/
  | recordMaker (options : RecordOptions)
  /-- A form of type expressions that stands alone, such as `Optional` or `Union`. -/
  | specialForm (name : String)
  /-- A collection type without a subscript, such as `List`. -/
  | collectionForm (name : String)
  /-- A class with a subscript, such as `list[int]`. -/
  | subscribed (origin : ClassId) (arguments : List Value)
  /-- A generic class, a collection type or a special form with a subscript. -/
  | parameterized (origin : Value) (name : Option String) (arguments : List Value)
  | union (arguments : List Value)
  /-- A union written with bars. -/
  | alternatives (arguments : List Value)
  | annotated (origin : Value) (metadata : List Value)
  | literal (arguments : List Value)
  | typeVariable (identity : Nat) (name : Text)
  | forwardReference (text : Text)
  | initializer (type : Value)
  | keywordMark
  deriving Repr, Inhabited

namespace Value

mutual

/-- Whether two values are one. -/
def same : Value → Value → Bool
  | .none, .none | .ellipsis, .ellipsis | .undecided, .undecided => true
  | .truth first, .truth second => first == second
  | .integer first, .integer second => first == second
  | .real first, .real second => first == second
  | .text first, .text second => first == second
  | .bytes first, .bytes second => first == second
  | .tuple first, .tuple second => sameAll first second
  | .object first, .object second => first == second
  | .ofClass first, .ofClass second => first == second
  | .primitive first, .primitive second => first == second
  | .method receiver first, .method other second => same receiver other && same first second
  | .classMethod first, .classMethod second => same first second
  | .staticMethod first, .staticMethod second => same first second
  | .library first, .library second => first == second
  | .installer first, .installer second => same first second
  | .recordMaker first, .recordMaker second => first == second
  | .specialForm first, .specialForm second => first == second
  | .collectionForm first, .collectionForm second => first == second
  | .subscribed origin first, .subscribed other second => origin == other && sameAll first second
  | .parameterized origin name first, .parameterized other otherName second =>
    same origin other && name == otherName && sameAll first second
  | .union first, .union second => sameAll first second
  | .alternatives first, .alternatives second => sameAll first second
  | .annotated origin first, .annotated other second => same origin other && sameAll first second
  | .literal first, .literal second => sameAll first second
  | .typeVariable first name, .typeVariable second otherName =>
    first == second && name == otherName
  | .forwardReference first, .forwardReference second => first == second
  | .initializer first, .initializer second => same first second
  | .keywordMark, .keywordMark => true
  | _, _ => false

/-- Whether two lists of values are one. -/
def sameAll : List Value → List Value → Bool
  | [], [] => true
  | first :: rest, second :: others => same first second && sameAll rest others
  | _, _ => false

end

theorem eq_of_same_and : (∀ first second, same first second = true → first = second) ∧
    ∀ first second, sameAll first second = true → first = second := by
  apply same.mutual_induct <;> (intros; simp_all [same, sameAll])

mutual

theorem same_self : (value : Value) → same value value = true
  | .none | .ellipsis | .undecided | .keywordMark => by unfold same; rfl
  | .truth _ | .integer _ | .real _ | .text _ | .bytes _ | .object _ | .ofClass _ | .primitive _
  | .library _ | .recordMaker _ | .specialForm _ | .collectionForm _ | .forwardReference _
  | .typeVariable _ _ => by simp [same]
  | .method receiver function => by simp [same, same_self receiver, same_self function]
  | .classMethod inner | .staticMethod inner | .installer inner | .initializer inner => by
    simp [same, same_self inner]
  | .tuple items | .union items | .alternatives items | .literal items
  | .subscribed _ items => by simp [same, sameAll_self items]
  | .parameterized origin _ items | .annotated origin items => by
    simp [same, same_self origin, sameAll_self items]

theorem sameAll_self : (values : List Value) → sameAll values values = true
  | [] => by simp [sameAll]
  | first :: rest => by simp [sameAll, same_self first, sameAll_self rest]

end

/-- A value is the same as itself and as no other. -/
theorem same_iff (first second : Value) : first.same second = true ↔ first = second :=
  ⟨eq_of_same_and.1 first second, fun equal => equal ▸ same_self first⟩

instance : DecidableEq Value := fun first second =>
  decidable_of_iff (first.same second = true) (same_iff first second)

instance : Coe ClassId Value := ⟨Value.ofClass⟩

/-- A built-in class as a value. -/
abbrev builtin (kind : BuiltinClass) : Value :=
  .ofClass (.builtin kind)

/-- The integer that a value counts as: itself, or one and zero for the truth values. -/
def integer? : Value → Option Int
  | .integer value => some value
  | .truth value => some (if value then 1 else 0)
  | _ => Option.none

end Value

/-- Values under names, in the order in which the names were first set. -/
abbrev Attributes := List (String × Value)

namespace Attributes

/-- The value of a name. -/
def get? (attributes : Attributes) (name : String) : Option Value :=
  attributes.lookup name

/-- The attributes with a name set to a value, in its place or else behind the others. -/
def set (attributes : Attributes) (name : String) (value : Value) : Attributes :=
  match attributes with
  | [] => [(name, value)]
  | (first, kept) :: rest =>
    if first == name then (first, value) :: rest
    else (first, kept) :: Attributes.set rest name value

/-- The attributes without a name. -/
def remove (attributes : Attributes) (name : String) : Attributes :=
  attributes.filter (·.1 != name)

@[simp]
theorem get?_set_self (attributes : Attributes) (name : String) (value : Value) :
    (attributes.set name value).get? name = some value := by
  induction attributes with
  | nil => simp [set, get?]
  | cons entry rest inductionHypothesis =>
    obtain ⟨first, kept⟩ := entry
    by_cases equal : first = name
    · simp [set, get?, equal]
    · have different : (name == first) = false := by simpa using fun h => equal h.symm
      simp only [set, get?, beq_iff_eq, equal, if_false, List.lookup_cons, different]
        at inductionHypothesis ⊢
      exact inductionHypothesis

@[simp]
theorem get?_set_of_ne (attributes : Attributes) {name other : String} (value : Value)
    (different : other ≠ name) :
    (attributes.set name value).get? other = attributes.get? other := by
  induction attributes with
  | nil => simp [set, get?, List.lookup_cons, beq_false_of_ne different]
  | cons entry rest inductionHypothesis =>
    obtain ⟨first, kept⟩ := entry
    by_cases equal : first = name
    · subst equal
      simp [set, get?, List.lookup_cons, beq_false_of_ne different]
    · simp only [set, get?, beq_iff_eq, equal, if_false, List.lookup_cons] at inductionHypothesis ⊢
      split
      · rfl
      · exact inductionHypothesis

end Attributes

end DifferenceTypes
