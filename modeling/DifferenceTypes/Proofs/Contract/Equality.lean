import DifferenceTypes.Evaluation.Call
import DifferenceTypes.Proofs.Object.ClassAttributes
import DifferenceTypes.Session.Contract

/-!
# Equality of positional instances

Two instances of positional classes are equal if they are of one class and have equal items, however
deeply lists and positional instances are nested in them. The same answer comes out in both orders, and
the inequality operator gives the opposite (`compare_of_positional`), with one exception: an instance of
another class of lists that stands on the left answers by the method of lists, which looks at the items
alone.
-/

namespace DifferenceTypes

open Run (outcome)
open Contract (Behaviour)

variable {κ : Type}

/-! ### Data -/

/-- Plain values, and lists and positional instances of them. -/
inductive Datum where
  | scalar (value : Value)
  | items (kind : ClassId) (items : List Datum)

/-- Whether a value is nothing, a truth value, a number or a text. -/
def Value.IsPlain : Value → Prop
  | .none | .truth _ | .integer _ | .text _ => True
  | .real number => number ≠ .notANumber
  | _ => False

namespace Datum

mutual

/-- Whether two data are equal: plain values by their value, lists and positional instances if they are
of one class and have equal items. -/
def equal : Datum → Datum → Bool
  | .scalar first, .scalar second => Comparison.equalScalars first second == some true
  | .items kind first, .items other second => kind == other && equalAll first second
  | _, _ => false

/-- Whether data are equal one by one. -/
def equalAll : List Datum → List Datum → Bool
  | [], [] => true
  | first :: firsts, second :: seconds => equal first second && equalAll firsts seconds
  | _, _ => false

end

mutual

/-- How deeply lists and positional instances are nested in a datum. -/
def height : Datum → Nat
  | .scalar _ => 0
  | .items _ parts => heightOfAll parts + 1

/-- How deeply lists and positional instances are nested in data. -/
def heightOfAll : List Datum → Nat
  | [] => 0
  | first :: rest => max (height first) (heightOfAll rest)

end

end Datum

/-- A class whose instances are compared by the methods of lists. -/
structure World.ComparesAsList (world : World κ) (kind : ClassId) : Prop where
  equal : world.classAttribute? kind "__eq__" = some (.primitive .equalContent)
  different : world.classAttribute? kind "__ne__" = some (.primitive .differentContent)

/-- A class that is derived from lists and whose instances are compared by the methods of positional
classes. -/
structure World.ComparesAsPositional (world : World κ) (kind : ClassId) : Prop where
  equal : world.classAttribute? kind "__eq__" = some (.primitive .equalPositional)
  different : world.classAttribute? kind "__ne__" = some (.primitive .differentPositional)
  list : world.isSubclass kind (.builtin .list) = true

namespace World

mutual

/-- Whether a value is a datum: a plain value, or a list or a positional instance of data. -/
def Holds (world : World κ) : Datum → Value → Prop
  | .scalar plain, value => value = plain ∧ plain.IsPlain
  | .items kind data, value => (kind = .builtin .list ∨ world.ComparesAsPositional kind) ∧
    ∃ ref attributes items, value = .object ref ∧
      world.objects[ref]? = some ⟨kind, .items items, attributes⟩ ∧ HoldsAll world data items

/-- Whether values are data one by one. -/
def HoldsAll (world : World κ) : List Datum → List Value → Prop
  | [], values => values = []
  | first :: rest, values => ∃ value behind, values = value :: behind ∧ Holds world first value ∧
    HoldsAll world rest behind

end

/-- A value is an object of a class with data for its items. -/
structure IsListOf (world : World κ) (kind : ClassId) (data : List Datum) (value : Value)
    (items : List Value) : Prop where
  object : ∃ ref attributes, value = .object ref ∧
    world.objects[ref]? = some ⟨kind, .items items, attributes⟩
  holds : world.HoldsAll data items

namespace IsListOf

variable {world : World κ} {kind : ClassId} {data : List Datum} {value : Value} {items : List Value}

theorem classOf (isListOf : world.IsListOf kind data value items) : world.classOf value = kind := by
  obtain ⟨ref, attributes, rfl, found⟩ := isListOf.object
  simp only [World.classOf, found]
  rfl

theorem view (isListOf : world.IsListOf kind data value items) : world.view value = .list items := by
  obtain ⟨ref, attributes, rfl, found⟩ := isListOf.object
  simp only [World.view, found]
  rfl

end IsListOf

theorem holds_items {world : World κ} {kind : ClassId} {data : List Datum} {value : Value} :
    world.Holds (.items kind data) value ↔
      (kind = .builtin .list ∨ world.ComparesAsPositional kind) ∧
        ∃ items, world.IsListOf kind data value items := by
  unfold Holds
  refine and_congr_right fun _ => ⟨?_, ?_⟩
  · rintro ⟨ref, attributes, items, same, found, all⟩
    exact ⟨items, ⟨ref, attributes, same, found⟩, all⟩
  · rintro ⟨items, ⟨ref, attributes, same, found⟩, all⟩
    exact ⟨ref, attributes, items, same, found, all⟩

end World

/-! ### Equality of data -/

namespace Comparison

theorem equalScalars_comm {first second : Value} (plain : first.IsPlain) (alsoPlain : second.IsPlain) :
    equalScalars first second = equalScalars second first := by
  cases first <;> cases second <;>
    first
    | exact plain.elim
    | exact alsoPlain.elim
    | rfl
    | exact congrArg some BEq.comm
    | exact congrArg some (Binary64.equals_comm _ _)

theorem equalScalars_self {value : Value} (plain : value.IsPlain) :
    equalScalars value value = some true := by
  cases value with
  | real number =>
    cases number with
    | notANumber => exact absurd rfl plain
    | finite negative mantissa exponent => simp [equalScalars, Binary64.equals]
    | infinite negative => simp [equalScalars, Binary64.equals]
  | none | truth _ | integer _ | text _ => simp [equalScalars, Value.integer?, Value.same]
  | _ => exact plain.elim

end Comparison

namespace Datum

variable {world : World κ}

mutual

theorem equal_comm : (first second : Datum) → {value other : Value} → world.Holds first value →
    world.Holds second other → equal first second = equal second first
  | .scalar first, .scalar second, _, _, holds, alsoHolds => by
    unfold World.Holds at holds alsoHolds
    unfold equal
    rw [Comparison.equalScalars_comm holds.2 alsoHolds.2]
  | .items kind first, .items other second, _, _, holds, alsoHolds => by
    obtain ⟨-, items, isListOf⟩ := World.holds_items.1 holds
    obtain ⟨-, others, alsoListOf⟩ := World.holds_items.1 alsoHolds
    unfold equal
    rw [equalAll_comm first second isListOf.holds alsoListOf.holds, BEq.comm]
  | .scalar _, .items _ _, _, _, _, _ | .items _ _, .scalar _, _, _, _, _ => by simp [equal]

theorem equalAll_comm : (first second : List Datum) → {values others : List Value} →
    world.HoldsAll first values → world.HoldsAll second others →
    equalAll first second = equalAll second first
  | [], [], _, _, _, _ | [], _ :: _, _, _, _, _ | _ :: _, [], _, _, _, _ => by simp [equalAll]
  | first :: firsts, second :: seconds, _, _, holds, alsoHolds => by
    obtain ⟨value, behind, rfl, here, rest⟩ := by unfold World.HoldsAll at holds; exact holds
    obtain ⟨other, beyond, rfl, there, others⟩ := by unfold World.HoldsAll at alsoHolds; exact alsoHolds
    unfold equalAll
    rw [equal_comm first second here there, equalAll_comm firsts seconds rest others]

end

mutual

/-- One value is equal to itself, whatever it is taken for. -/
theorem equal_of_holds : (first second : Datum) → {value : Value} → world.Holds first value →
    world.Holds second value → equal first second = true
  | .scalar first, .scalar second, _, holds, alsoHolds => by
    unfold World.Holds at holds alsoHolds
    obtain ⟨rfl, plain⟩ := holds
    obtain ⟨rfl, -⟩ := alsoHolds
    simp [equal, Comparison.equalScalars_self plain]
  | .items kind first, .items other second, _, holds, alsoHolds => by
    obtain ⟨-, items, ⟨ref, attributes, rfl, found⟩, all⟩ := World.holds_items.1 holds
    obtain ⟨-, others, ⟨place, notes, same, alsoFound⟩, alsoAll⟩ := World.holds_items.1 alsoHolds
    cases same
    rw [found] at alsoFound
    cases alsoFound
    simp [equal, equalAll_of_holdsAll first second all alsoAll]
  | .scalar first, .items other second, _, holds, alsoHolds => by
    unfold World.Holds at holds
    obtain ⟨-, items, ⟨ref, attributes, rfl, found⟩, -⟩ := World.holds_items.1 alsoHolds
    obtain ⟨rfl, plain⟩ := holds
    exact plain.elim
  | .items kind first, .scalar second, _, holds, alsoHolds => by
    unfold World.Holds at alsoHolds
    obtain ⟨-, items, ⟨ref, attributes, rfl, found⟩, -⟩ := World.holds_items.1 holds
    obtain ⟨rfl, plain⟩ := alsoHolds
    exact plain.elim

theorem equalAll_of_holdsAll : (first second : List Datum) → {values : List Value} →
    world.HoldsAll first values → world.HoldsAll second values → equalAll first second = true
  | [], [], _, _, _ => by simp [equalAll]
  | first :: firsts, second :: seconds, _, holds, alsoHolds => by
    unfold World.HoldsAll at holds alsoHolds
    obtain ⟨value, behind, rfl, here, rest⟩ := holds
    obtain ⟨other, beyond, same, there, others⟩ := alsoHolds
    cases same
    simp [equalAll, equal_of_holds first second here there, equalAll_of_holdsAll firsts seconds rest others]
  | [], _ :: _, _, holds, alsoHolds | _ :: _, [], _, holds, alsoHolds => by
    unfold World.HoldsAll at holds alsoHolds
    simp_all

end

end Datum

/-! ### Asking the two operands -/

theorem Run.outcome_view (value : Value) (world : World κ) :
    outcome (Run.view value) world = (.ok (world.view value), world) :=
  rfl

namespace Comparison

open Evaluation (callWithin)

variable {behaviour : Behaviour κ} {call : Caller κ} {world : World κ} {first second : Value}

/-- The answer of an operand, or that it leaves the decision to the other one. -/
def verdict : Option Bool → Value
  | some answer => .truth answer
  | none => .undecided

/-- Whether the right operand is asked before the left one: if its class is derived from that of the
left one. -/
def isReflected (world : World κ) (first second : Value) : Bool :=
  world.classOf first != world.classOf second &&
    world.isSubclass (world.classOf second) (world.classOf first)

/-- An operand gives its answer by a method when calls may nest deeply enough, and does nothing else. -/
def Asks (behaviour : Behaviour κ) (world : World κ) (name : String) (need : Nat)
    (first second : Value) (answer : Option Bool) : Prop :=
  ∀ limit, need ≤ limit → outcome (ask (callWithin behaviour limit) name first [second]) world =
    (.ok (verdict answer), world)

theorem pair_of_order {early late : Value}
    (order : (if isReflected world first second then (second, first) else (first, second)) =
      (early, late)) :
    (if (world.classOf first != world.classOf second &&
        world.isSubclass (world.classOf second) (world.classOf first)) = true
      then ((second, first), (first, second)) else ((first, second), (second, first))) =
        ((early, late), (late, early)) := by
  unfold isReflected at order
  split at order
  · next reflected =>
    cases order
    exact if_pos reflected
  · next direct =>
    cases order
    exact if_neg direct

/-- The operand that is asked first decides, and if it does not, the other one does. -/
theorem outcome_equal {early late : Value} {answer other : Option Bool}
    (order : (if isReflected world first second then (second, first) else (first, second)) =
      (early, late))
    (asks : outcome (ask call "__eq__" early [late]) world = (.ok (verdict answer), world))
    (alsoAsks : answer = none →
      outcome (ask call "__eq__" late [early]) world = (.ok (verdict other), world)) :
    outcome (equal call first second) world =
      (.ok (.truth ((answer.or other).getD (first.same second))), world) := by
  unfold equal
  rw [Run.outcome_get_bind]
  dsimp only
  rw [pair_of_order order, Run.outcome_bind_of_ok _ asks]
  cases answer with
  | some decided => rfl
  | none =>
    refine (Run.outcome_bind_of_ok _ (alsoAsks rfl)).trans ?_
    cases other <;> rfl

/-- The operand that is asked first decides alone if it does. -/
theorem outcome_equal_of_decided {early late : Value} {answer : Bool}
    (order : (if isReflected world first second then (second, first) else (first, second)) =
      (early, late))
    (asks : outcome (ask call "__eq__" early [late]) world = (.ok (.truth answer), world)) :
    outcome (equal call first second) world = (.ok (.truth answer), world) :=
  @outcome_equal κ call world first second early late (some answer) none order asks nofun

theorem outcome_different {early late : Value} {answer other : Option Bool}
    (order : (if isReflected world first second then (second, first) else (first, second)) =
      (early, late))
    (asks : outcome (ask call "__ne__" early [late]) world =
      (.ok (verdict (answer.map (!·))), world))
    (alsoAsks : answer = none → outcome (ask call "__ne__" late [early]) world =
      (.ok (verdict (other.map (!·))), world)) :
    outcome (different call first second) world =
      (.ok (.truth (!(answer.or other).getD (first.same second))), world) := by
  unfold different
  rw [Run.outcome_get_bind]
  dsimp only
  rw [pair_of_order order, Run.outcome_bind_of_ok _ asks]
  cases answer with
  | some decided => rfl
  | none =>
    refine (Run.outcome_bind_of_ok _ (alsoAsks rfl)).trans ?_
    cases other <;> rfl

theorem outcome_negated (answer : Option Bool) (world : World κ) :
    outcome (negated (verdict answer)) world = (.ok (verdict (answer.map (!·))), world) := by
  cases answer <;> rfl

/-! ### Methods of lists and plain values -/

theorem outcome_ask_equalContent {limit : Nat}
    (method : world.classAttribute? (world.classOf first) "__eq__" = some (.primitive .equalContent)) :
    outcome (ask (callWithin behaviour (limit + 1)) "__eq__" first [second]) world =
      outcome (equalContent (callWithin behaviour limit) first second) world := by
  unfold ask
  rw [Run.outcome_get_bind, method]
  rfl

theorem outcome_ask_differentContent {limit : Nat}
    (method : world.classAttribute? (world.classOf first) "__ne__" =
      some (.primitive .differentContent)) :
    outcome (ask (callWithin behaviour (limit + 1)) "__ne__" first [second]) world =
      outcome (do negated (← equalContent (callWithin behaviour limit) first second)) world := by
  unfold ask
  rw [Run.outcome_get_bind, method]
  rfl

theorem outcome_ask_equalPositional {limit : Nat}
    (method : world.classAttribute? (world.classOf first) "__eq__" =
      some (.primitive .equalPositional)) :
    outcome (ask (callWithin behaviour (limit + 1)) "__eq__" first [second]) world =
      outcome (Positional.equal (callWithin behaviour limit) first second) world := by
  unfold ask
  rw [Run.outcome_get_bind, method]
  rfl

theorem outcome_ask_differentPositional {limit : Nat}
    (method : world.classAttribute? (world.classOf first) "__ne__" =
      some (.primitive .differentPositional)) :
    outcome (ask (callWithin behaviour (limit + 1)) "__ne__" first [second]) world =
      outcome (Positional.different (callWithin behaviour limit) first second) world := by
  unfold ask
  rw [Run.outcome_get_bind, method]
  rfl

/-- An answer by content. -/
theorem asks_of_content (need : Nat) {answer : Option Bool}
    (compares : world.ComparesAsList (world.classOf first))
    (content : ∀ limit, need ≤ limit →
      outcome (equalContent (callWithin behaviour limit) first second) world =
        (.ok (verdict answer), world)) :
    Asks behaviour world "__eq__" (need + 1) first second answer := by
  intro limit enough
  obtain ⟨deeper, rfl⟩ : ∃ deeper, limit = deeper + 1 := ⟨limit - 1, by omega⟩
  rw [outcome_ask_equalContent compares.equal]
  exact content deeper (by omega)

/-- Who answers by content whether the operands are equal answers the opposite whether they differ. -/
theorem Asks.different_of_content {need : Nat} {answer : Option Bool}
    (compares : world.ComparesAsList (world.classOf first))
    (asks : Asks behaviour world "__eq__" need first second answer) :
    Asks behaviour world "__ne__" (need + 1) first second (answer.map (!·)) := by
  intro limit enough
  obtain ⟨deeper, rfl⟩ : ∃ deeper, limit = deeper + 1 := ⟨limit - 1, by omega⟩
  have content := asks (deeper + 1) (by omega)
  rw [outcome_ask_equalContent compares.equal] at content
  rw [outcome_ask_differentContent compares.different, Run.outcome_bind_of_ok _ content]
  exact outcome_negated answer world

/-! ### Methods of positional classes -/

theorem Asks.different_of_positional {need : Nat} {answer : Bool}
    (compares : world.ComparesAsPositional (world.classOf first))
    (asks : Asks behaviour world "__eq__" need first second (some answer)) :
    Asks behaviour world "__ne__" (need + 1) first second (some !answer) := by
  intro limit enough
  obtain ⟨deeper, rfl⟩ : ∃ deeper, limit = deeper + 1 := ⟨limit - 1, by omega⟩
  rw [outcome_ask_differentPositional compares.different]
  unfold Positional.different
  rw [Run.outcome_bind_of_ok _ (asks deeper (by omega))]
  rfl

/-- A positional instance is equal to nothing of another class. -/
theorem asks_of_other_class (compares : world.ComparesAsPositional (world.classOf first))
    (apart : world.classOf second ≠ world.classOf first) :
    Asks behaviour world "__eq__" 1 first second (some false) := by
  intro limit enough
  obtain ⟨deeper, rfl⟩ : ∃ deeper, limit = deeper + 1 := ⟨limit - 1, by omega⟩
  rw [outcome_ask_equalPositional compares.equal]
  unfold Positional.equal
  rw [Run.outcome_get_bind, if_neg (by simpa using apart)]
  rfl

/-- Instances of one positional class are compared by content. -/
theorem asks_of_same_class {need : Nat} {answer : Option Bool}
    (compares : world.ComparesAsPositional (world.classOf first))
    (same : world.classOf second = world.classOf first)
    (content : ∀ limit, need ≤ limit →
      outcome (equalContent (callWithin behaviour limit) first second) world =
        (.ok (verdict answer), world)) :
    Asks behaviour world "__eq__" (need + 1) first second answer := by
  intro limit enough
  obtain ⟨deeper, rfl⟩ : ∃ deeper, limit = deeper + 1 := ⟨limit - 1, by omega⟩
  rw [outcome_ask_equalPositional compares.equal]
  unfold Positional.equal
  rw [Run.outcome_get_bind, if_pos (by simpa using same)]
  exact content deeper (by omega)

/-! ### Comparing content -/

/-- The view of a plain value is that value. -/
theorem view_of_isPlain {value : Value} (plain : value.IsPlain) (world : World κ) :
    world.view value = .scalar value := by
  cases value <;> first | rfl | exact plain.elim

theorem outcome_equalContent_plain (call : Caller κ) (plain : first.IsPlain) (alsoPlain : second.IsPlain) :
    outcome (equalContent call first second) world =
      (.ok (verdict (equalScalars first second)), world) := by
  unfold equalContent
  rw [Run.outcome_bind_of_ok _ (Run.outcome_view first world),
    Run.outcome_bind_of_ok _ (Run.outcome_view second world), view_of_isPlain plain,
    view_of_isPlain alsoPlain]
  dsimp only
  cases equalScalars first second <;> rfl

/-- A plain value and a list leave the decision to each other. -/
theorem outcome_equalContent_of_views (call : Caller κ) {left right : View}
    (viewLeft : world.view first = left) (viewRight : world.view second = right)
    (apart : (∃ value items, left = .scalar value ∧ right = .list items) ∨
      ∃ items value, left = .list items ∧ right = .scalar value) :
    outcome (equalContent call first second) world = (.ok .undecided, world) := by
  unfold equalContent
  rw [Run.outcome_bind_of_ok _ (Run.outcome_view first world),
    Run.outcome_bind_of_ok _ (Run.outcome_view second world), viewLeft, viewRight]
  rcases apart with ⟨value, items, rfl, rfl⟩ | ⟨items, value, rfl, rfl⟩ <;> rfl

/-- Lists are compared item by item. -/
theorem outcome_equalContent_lists {items others : List Value} {answer : Bool}
    (viewLeft : world.view first = .list items) (viewRight : world.view second = .list others)
    (areEqual : outcome (areEqual call items others) world = (.ok answer, world)) :
    outcome (equalContent call first second) world = (.ok (verdict (some answer)), world) := by
  unfold equalContent
  rw [Run.outcome_bind_of_ok _ (Run.outcome_view first world),
    Run.outcome_bind_of_ok _ (Run.outcome_view second world), viewLeft, viewRight]
  exact (Run.outcome_bind_of_ok _ areEqual).trans rfl

/-- A value is equal to itself, and otherwise as the operator says. -/
theorem outcome_isEqual {limit : Nat} {answer : Bool} (self : first = second → answer = true)
    (equal : outcome (equal (callWithin behaviour limit) first second) world =
      (.ok (.truth answer), world)) :
    outcome (isEqual (callWithin behaviour (limit + 1)) first second) world = (.ok answer, world) := by
  unfold isEqual
  by_cases same : first.same second = true
  · rw [if_pos same, self ((Value.same_iff first second).1 same)]
    rfl
  · rw [if_neg same]
    have calls : outcome (callWithin behaviour (limit + 1) (.primitive .equals) ⟨[first, second], []⟩)
        world = (.ok (.truth answer), world) := equal
    rw [Run.outcome_bind_of_ok _ calls]
    rfl

end Comparison

/-! ### Comparing data -/

namespace World

variable {world : World κ} {kind other : ClassId} {value : Value}

theorem ComparesAsList.ne (compares : world.ComparesAsList kind)
    (positional : world.ComparesAsPositional other) : kind ≠ other := by
  rintro rfl
  exact nomatch compares.equal.symm.trans positional.equal

section

variable (closed : world.IsClosed)

include closed

/-- A built-in class with the methods of content compares by content. -/
theorem comparesAsList_of_attributes {kind : BuiltinClass} (isClosed : kind.isOpen = false)
    (equal : kind.attributes.get? "__eq__" = some (.primitive .equalContent))
    (different : kind.attributes.get? "__ne__" = some (.primitive .differentContent)) :
    world.ComparesAsList (.builtin kind) := by
  obtain ⟨behind, line⟩ := kind.exists_ancestors_eq
  have own := World.ownAttribute?_closed closed isClosed
  constructor <;> simp [World.classAttribute?, World.ancestors, line, own, equal, different]

theorem comparesAsList_list : world.ComparesAsList (.builtin .list) :=
  comparesAsList_of_attributes closed rfl rfl rfl

/-- Plain values compare by content. -/
theorem comparesAsList_of_isPlain (plain : value.IsPlain) : world.ComparesAsList (world.classOf value) := by
  cases value with
  | none | integer _ | real _ | text _ => exact comparesAsList_of_attributes closed rfl rfl rfl
  | truth _ =>
    -- Truth values are compared by the methods of integers.
    have none := World.ownAttribute?_closed closed (show BuiltinClass.truth.isOpen = false from rfl)
    have own := World.ownAttribute?_closed closed (show BuiltinClass.integer.isOpen = false from rfl)
    constructor <;>
      simp only [World.classAttribute?, World.ancestors, World.classOf, BuiltinClass.ancestors,
        List.map_cons, List.findSome?_cons, none, own] <;> rfl
  | _ => exact plain.elim

/-- Lists are not derived from a positional class. -/
theorem isSubclass_list (positional : world.ComparesAsPositional kind) :
    world.isSubclass (.builtin .list) kind = false := by
  have notList : kind ≠ .builtin .list := ((comparesAsList_list closed).ne positional).symm
  have notObject : kind ≠ .builtin .object := by
    rintro rfl
    exact nomatch (show false = true from positional.list)
  simp [World.isSubclass, World.ancestors, BuiltinClass.ancestors, notList, notObject]

end

end World

open Comparison
open Evaluation (callWithin)

variable {behaviour : Behaviour κ} {world : World κ} {kind : ClassId} {data : List Datum}
  {value other : Value} {items : List Value}

/-- What a datum is not of the class of a list or a positional instance. -/
theorem Datum.classOf_ne {plain : Value} (closed : world.IsClosed) (isPlain : plain.IsPlain)
    (compares : kind = .builtin .list ∨ world.ComparesAsPositional kind) :
    world.classOf plain ≠ kind := by
  rcases compares with rfl | positional
  · cases plain <;> first | exact isPlain.elim | (intro same; exact nomatch same)
  · exact (World.comparesAsList_of_isPlain closed isPlain).ne positional

/-- A plain value is no object. -/
theorem Value.IsPlain.same_eq_false {plain : Value} (isPlain : plain.IsPlain)
    (isListOf : world.IsListOf kind data value items) :
    plain.same value = false ∧ value.same plain = false := by
  obtain ⟨ref, attributes, rfl, -⟩ := isListOf.object
  cases plain <;> first | exact ⟨rfl, rfl⟩ | exact isPlain.elim

/-- A list leaves the comparison with a plain value to that value, and the other way round. -/
theorem asks_of_plain (closed : world.IsClosed) {plain : Value} (isPlain : plain.IsPlain)
    (isListOf : world.IsListOf kind data value items) :
    Asks behaviour world "__eq__" 1 plain value none :=
  asks_of_content 0 (World.comparesAsList_of_isPlain closed isPlain) fun _ _ =>
    outcome_equalContent_of_views _ (view_of_isPlain isPlain world) isListOf.view
      (.inl ⟨_, _, rfl, rfl⟩)

theorem asks_plain_of_list {plain : Value} (isPlain : plain.IsPlain)
    (isListOf : world.IsListOf kind data value items) (compares : world.ComparesAsList kind) :
    Asks behaviour world "__eq__" 1 value plain none :=
  asks_of_content 0 (isListOf.classOf.symm ▸ compares) fun _ _ =>
    outcome_equalContent_of_views _ isListOf.view (view_of_isPlain isPlain world)
      (.inr ⟨_, _, rfl, rfl⟩)

/-- The operand that decides, for values of which the left one is asked first. -/
theorem order_of_classOf_eq {first second : Value} (same : world.classOf first = world.classOf second) :
    isReflected world first second = false := by
  simp [isReflected, same]

/-- Lists and positional instances: those of one class are compared item by item, those of two classes
are told apart by the one that is positional. -/
theorem outcome_equal_of_lists (closed : world.IsClosed) {kind other : ClassId} {data others : List Datum}
    {first second : Value} {items values : List Value} {limit : Nat} (need : Nat)
    (isListOf : world.IsListOf kind data first items)
    (alsoListOf : world.IsListOf other others second values)
    (compares : kind = .builtin .list ∨ world.ComparesAsPositional kind)
    (alsoCompares : other = .builtin .list ∨ world.ComparesAsPositional other)
    (areEqual : ∀ limit, need ≤ limit → outcome (areEqual (callWithin behaviour limit) items values)
      world = (.ok (Datum.equalAll data others), world))
    (enough : need < limit) :
    outcome (equal (callWithin behaviour limit) first second) world =
      (.ok (.truth (Datum.equal (.items kind data) (.items other others))), world) := by
  have left := isListOf.classOf
  have right := alsoListOf.classOf
  have content : ∀ limit, need ≤ limit →
      outcome (equalContent (callWithin behaviour limit) first second) world =
        (.ok (verdict (some (Datum.equalAll data others))), world) := fun limit enough =>
    outcome_equalContent_lists isListOf.view alsoListOf.view (areEqual limit enough)
  by_cases same : kind = other
  · -- The left operand is asked.
    subst same
    have asks : Asks behaviour world "__eq__" (need + 1) first second
        (some (Datum.equalAll data others)) := by
      rcases compares with rfl | positional
      · exact asks_of_content need (left.symm ▸ World.comparesAsList_list closed) content
      · exact asks_of_same_class (left.symm ▸ positional) (right.trans left.symm) content
    have direct := order_of_classOf_eq (left.trans right.symm)
    rw [outcome_equal_of_decided (if_neg (by rw [direct]; exact Bool.false_ne_true))
      (asks limit (by omega))]
    simp [Datum.equal]
  · -- A positional operand is asked, and finds the other one to be of another class.
    have apart : world.classOf first ≠ world.classOf second := by rwa [left, right]
    have unequal : Datum.equal (.items kind data) (.items other others) = false := by
      simp [Datum.equal, same]
    rw [unequal]
    by_cases reflected : isReflected world first second = true
    · have positional : world.ComparesAsPositional other := by
        refine alsoCompares.resolve_left fun isList => ?_
        have positional := compares.resolve_left fun alsoList => same (alsoList.trans isList.symm)
        have below := (Bool.and_eq_true_iff.1 reflected).2
        rw [left, right, isList, World.isSubclass_list closed positional] at below
        exact Bool.false_ne_true below
      have asks : Asks behaviour world "__eq__" 1 second first (some false) :=
        asks_of_other_class (right.symm ▸ positional) apart
      exact outcome_equal_of_decided (if_pos reflected) (asks limit (by omega))
    · have positional : world.ComparesAsPositional kind := by
        refine compares.resolve_left fun isList => reflected ?_
        have positional := alsoCompares.resolve_left fun alsoList => same (isList.trans alsoList.symm)
        unfold isReflected
        rw [left, right, isList, positional.list, Bool.and_true, bne_iff_ne]
        exact fun equal => same (isList.trans equal)
      have asks : Asks behaviour world "__eq__" 1 first second (some false) :=
        asks_of_other_class (left.symm ▸ positional) apart.symm
      exact outcome_equal_of_decided (if_neg reflected) (asks limit (by omega))

/-- A plain value and a list or positional instance are not equal, whichever is asked first. -/
theorem outcome_equal_of_plain (closed : world.IsClosed) {plain : Value} {limit : Nat}
    (isPlain : plain.IsPlain) (isListOf : world.IsListOf kind data value items)
    (compares : kind = .builtin .list ∨ world.ComparesAsPositional kind) (enough : 0 < limit) :
    outcome (equal (callWithin behaviour limit) plain value) world = (.ok (.truth false), world) ∧
      outcome (equal (callWithin behaviour limit) value plain) world = (.ok (.truth false), world) := by
  have apart : world.classOf plain ≠ world.classOf value :=
    isListOf.classOf.symm ▸ Datum.classOf_ne closed isPlain compares
  have ofPlain : Asks behaviour world "__eq__" 1 plain value none := asks_of_plain closed isPlain isListOf
  obtain ⟨answer, noTruth, ofList⟩ : ∃ answer : Option Bool, answer.getD false = false ∧
      Asks behaviour world "__eq__" 1 value plain answer := by
    rcases compares with rfl | positional
    · exact ⟨none, rfl, asks_plain_of_list isPlain isListOf (World.comparesAsList_list closed)⟩
    · exact ⟨some false, rfl, asks_of_other_class (isListOf.classOf.symm ▸ positional) apart⟩
  have result : ∀ first second : Option Bool, first.getD false = false → second.getD false = false →
      (first.or second).getD false = false := by
    rintro (_ | _) (_ | _) <;> simp_all
  have same := isPlain.same_eq_false isListOf
  constructor
  · by_cases reflected : isReflected world plain value = true
    · rw [outcome_equal (if_pos reflected) (ofList limit enough) fun _ => ofPlain limit enough, same.1,
        result _ _ noTruth rfl]
    · rw [outcome_equal (if_neg reflected) (ofPlain limit enough) fun _ => ofList limit enough, same.1,
        result _ _ rfl noTruth]
  · by_cases reflected : isReflected world value plain = true
    · rw [outcome_equal (if_pos reflected) (ofPlain limit enough) fun _ => ofList limit enough, same.2,
        result _ _ rfl noTruth]
    · rw [outcome_equal (if_neg reflected) (ofList limit enough) fun _ => ofPlain limit enough, same.2,
        result _ _ noTruth rfl]

/-- Plain values are compared by their value, whichever is asked first. -/
theorem outcome_equal_of_plains (closed : world.IsClosed) {first second : Value} {limit : Nat}
    (isPlain : first.IsPlain) (alsoPlain : second.IsPlain) (enough : 0 < limit) :
    outcome (equal (callWithin behaviour limit) first second) world =
      (.ok (.truth (Datum.equal (.scalar first) (.scalar second))), world) := by
  have asks : Asks behaviour world "__eq__" 1 first second (equalScalars first second) :=
    asks_of_content 0 (World.comparesAsList_of_isPlain closed isPlain) fun _ _ =>
      outcome_equalContent_plain _ isPlain alsoPlain
  have alsoAsks : Asks behaviour world "__eq__" 1 second first (equalScalars first second) := by
    rw [equalScalars_comm isPlain alsoPlain]
    exact asks_of_content 0 (World.comparesAsList_of_isPlain closed alsoPlain) fun _ _ =>
      outcome_equalContent_plain _ alsoPlain isPlain
  have result : ((equalScalars first second).or (equalScalars first second)).getD (first.same second) =
      Datum.equal (.scalar first) (.scalar second) := by
    unfold Datum.equal
    cases answer : equalScalars first second with
    | some decided => cases decided <;> rfl
    | none =>
      refine Bool.eq_false_iff.2 fun same => ?_
      rw [(Value.same_iff first second).1 same, equalScalars_self alsoPlain] at answer
      exact nomatch answer
  by_cases reflected : isReflected world first second = true
  · rw [outcome_equal (if_pos reflected) (alsoAsks limit enough) fun _ => asks limit enough, result]
  · rw [outcome_equal (if_neg reflected) (asks limit enough) fun _ => alsoAsks limit enough, result]

mutual

/-- Data compare as they are. The recursion goes along the left operand: with every list or positional
instance that is entered, calls nest twice more. -/
theorem outcome_equal_of_holds (closed : world.IsClosed) : (first second : Datum) → {value other : Value} →
    world.Holds first value → world.Holds second other → {limit : Nat} → 2 * first.height < limit →
    outcome (equal (callWithin behaviour limit) value other) world =
      (.ok (.truth (Datum.equal first second)), world)
  | .scalar first, .scalar second, _, _, holds, alsoHolds, limit, enough => by
    unfold World.Holds at holds alsoHolds
    obtain ⟨rfl, plain⟩ := holds
    obtain ⟨rfl, alsoPlain⟩ := alsoHolds
    exact outcome_equal_of_plains closed plain alsoPlain (by omega)
  | .scalar first, .items _ _, _, _, holds, alsoHolds, limit, enough => by
    unfold World.Holds at holds
    obtain ⟨rfl, plain⟩ := holds
    obtain ⟨compares, items, isListOf⟩ := World.holds_items.1 alsoHolds
    rw [(outcome_equal_of_plain closed plain isListOf compares (by omega)).1]
    simp [Datum.equal]
  | .items _ _, .scalar second, _, _, holds, alsoHolds, limit, enough => by
    unfold World.Holds at alsoHolds
    obtain ⟨rfl, plain⟩ := alsoHolds
    obtain ⟨compares, items, isListOf⟩ := World.holds_items.1 holds
    rw [(outcome_equal_of_plain closed plain isListOf compares (by omega)).2]
    simp [Datum.equal]
  | .items kind data, .items otherKind others, _, _, holds, alsoHolds, limit, enough => by
    obtain ⟨compares, items, isListOf⟩ := World.holds_items.1 holds
    obtain ⟨alsoCompares, values, alsoListOf⟩ := World.holds_items.1 alsoHolds
    refine outcome_equal_of_lists closed (2 * Datum.heightOfAll data + 2) isListOf alsoListOf compares
      alsoCompares (fun limit enough =>
        outcome_areEqual_of_holdsAll closed data others isListOf.holds alsoListOf.holds enough) ?_
    unfold Datum.height at enough
    omega

theorem outcome_areEqual_of_holdsAll (closed : world.IsClosed) : (first second : List Datum) →
    {values others : List Value} → world.HoldsAll first values → world.HoldsAll second others →
    {limit : Nat} → 2 * Datum.heightOfAll first + 2 ≤ limit →
    outcome (areEqual (callWithin behaviour limit) values others) world =
      (.ok (Datum.equalAll first second), world)
  | [], [], _, _, holds, alsoHolds, _, _ => by
    unfold World.HoldsAll at holds alsoHolds
    subst holds alsoHolds
    simp [Datum.equalAll]
    rfl
  | [], _ :: _, _, _, holds, alsoHolds, _, _ => by
    unfold World.HoldsAll at holds alsoHolds
    obtain ⟨value, behind, rfl, -, -⟩ := alsoHolds
    subst holds
    simp [Datum.equalAll]
    rfl
  | _ :: _, [], _, _, holds, alsoHolds, _, _ => by
    unfold World.HoldsAll at holds alsoHolds
    obtain ⟨value, behind, rfl, -, -⟩ := holds
    subst alsoHolds
    simp [Datum.equalAll]
    rfl
  | first :: firsts, second :: seconds, _, _, holds, alsoHolds, limit, enough => by
    unfold World.HoldsAll at holds alsoHolds
    obtain ⟨value, behind, rfl, here, rest⟩ := holds
    obtain ⟨other, beyond, rfl, there, others⟩ := alsoHolds
    unfold Datum.heightOfAll at enough
    obtain ⟨deeper, rfl⟩ : ∃ deeper, limit = deeper + 1 := ⟨limit - 1, by omega⟩
    have head : outcome (isEqual (callWithin behaviour (deeper + 1)) value other) world = _ :=
      outcome_isEqual (fun same => Datum.equal_of_holds first second here (by rw [same]; exact there))
        (outcome_equal_of_holds closed first second here there (by omega))
    have tail : outcome (areEqual (callWithin behaviour (deeper + 1)) behind beyond) world = _ :=
      outcome_areEqual_of_holdsAll closed firsts seconds rest others (by omega)
    unfold Comparison.areEqual Datum.equalAll
    rw [Run.outcome_bind_of_ok _ head]
    cases Datum.equal first second with
    | true => exact tail
    | false => rfl

end

/-! ### Both operators -/

/-- The equality operator gives an answer, and the inequality operator the opposite. -/
structure Compares (behaviour : Behaviour κ) (world : World κ) (limit : Nat) (first second : Value)
    (answer : Bool) : Prop where
  equal : outcome (equal (callWithin behaviour limit) first second) world = (.ok (.truth answer), world)
  different : outcome (different (callWithin behaviour limit) first second) world =
    (.ok (.truth !answer), world)

/-- What an operand answers about both operators. -/
structure AsksBoth (behaviour : Behaviour κ) (world : World κ) (need : Nat) (first second : Value)
    (answer : Option Bool) : Prop where
  equal : Asks behaviour world "__eq__" need first second answer
  different : Asks behaviour world "__ne__" (need + 1) first second (answer.map (!·))

/-- Who answers within a depth answers within a larger one. -/
theorem AsksBoth.mono {first second : Value} {need more : Nat} {answer : Option Bool}
    (asks : AsksBoth behaviour world need first second answer) (below : need ≤ more) :
    AsksBoth behaviour world more first second answer :=
  ⟨fun limit enough => asks.equal limit (by omega), fun limit enough => asks.different limit (by omega)⟩

/-- The operators answer as the operand does that is asked first, or else the other one. -/
theorem compares_of_asksBoth {first second : Value} {need limit : Nat} {answer other : Option Bool}
    (asks : AsksBoth behaviour world need first second answer)
    (alsoAsks : AsksBoth behaviour world need second first other) (enough : need < limit) :
    Compares behaviour world limit first second
      ((if isReflected world first second then other.or answer else answer.or other).getD
        (first.same second)) := by
  have direct := asks.equal limit (Nat.le_of_lt enough)
  have reverse := alsoAsks.equal limit (Nat.le_of_lt enough)
  have notDirect := asks.different limit enough
  have notReverse := alsoAsks.different limit enough
  by_cases reflected : isReflected world first second = true
  · rw [if_pos reflected]
    exact ⟨outcome_equal (if_pos reflected) reverse fun _ => direct,
      outcome_different (if_pos reflected) notReverse fun _ => notDirect⟩
  · rw [if_neg reflected]
    exact ⟨outcome_equal (if_neg reflected) direct fun _ => reverse,
      outcome_different (if_neg reflected) notDirect fun _ => notReverse⟩

section Positional

variable (closed : world.IsClosed) (positional : world.ComparesAsPositional kind)
  (isListOf : world.IsListOf kind data value items)

include positional isListOf

/-- A positional instance finds everything of another class to be different. -/
theorem asksBoth_of_other_class (apart : world.classOf other ≠ kind) (need : Nat) (some : 0 < need) :
    AsksBoth behaviour world need value other (.some false) := by
  have ofClass : world.ComparesAsPositional (world.classOf value) := isListOf.classOf.symm ▸ positional
  have asks : Asks behaviour world "__eq__" need value other (.some false) := fun limit enough =>
    asks_of_other_class ofClass (isListOf.classOf.symm ▸ apart) limit (by omega)
  exact ⟨asks, asks.different_of_positional ofClass⟩

include closed

/-- A positional instance and a plain value differ, whichever is asked first. -/
theorem compares_with_plain {plain : Value} {limit : Nat} (isPlain : plain.IsPlain) (enough : 1 < limit) :
    Compares behaviour world limit value plain false ∧
      Compares behaviour world limit plain value false := by
  have apart := Datum.classOf_ne closed isPlain (.inr positional)
  have asks : AsksBoth behaviour world 1 value plain (some false) :=
    asksBoth_of_other_class positional isListOf apart 1 (by omega)
  have asksPlain : Asks behaviour world "__eq__" 1 plain value none := asks_of_plain closed isPlain isListOf
  have alsoAsks : AsksBoth behaviour world 1 plain value none :=
    ⟨asksPlain, asksPlain.different_of_content (World.comparesAsList_of_isPlain closed isPlain)⟩
  have same := isPlain.same_eq_false isListOf
  exact ⟨by simpa [same] using compares_of_asksBoth asks alsoAsks enough,
    by simpa [same] using compares_of_asksBoth alsoAsks asks enough⟩

/-- Two positional instances are equal if they are of one class and have equal items. -/
theorem compares_with_positional {otherKind : ClassId} {others : List Datum} {values : List Value}
    {limit : Nat} (alsoPositional : world.ComparesAsPositional otherKind)
    (alsoListOf : world.IsListOf otherKind others other values)
    (enough : 2 * Datum.heightOfAll data + 3 < limit) (alsoEnough : 2 * Datum.heightOfAll others + 3 < limit) :
    Compares behaviour world limit value other
        (Datum.equal (.items kind data) (.items otherKind others)) ∧
      Compares behaviour world limit other value
        (Datum.equal (.items kind data) (.items otherKind others)) := by
  have left := isListOf.classOf
  have right := alsoListOf.classOf
  by_cases same : kind = otherKind
  · subst same
    have asks {data others : List Datum} {value other : Value} {items values : List Value}
        (isListOf : world.IsListOf kind data value items)
        (alsoListOf : world.IsListOf kind others other values) :
        AsksBoth behaviour world (2 * Datum.heightOfAll data + 3) value other
          (some (Datum.equalAll data others)) := by
      have ofClass : world.ComparesAsPositional (world.classOf value) := isListOf.classOf.symm ▸ positional
      have equal : Asks behaviour world "__eq__" (2 * Datum.heightOfAll data + 3) value other
          (some (Datum.equalAll data others)) :=
        asks_of_same_class ofClass (alsoListOf.classOf.trans isListOf.classOf.symm) fun limit enough =>
          outcome_equalContent_lists isListOf.view alsoListOf.view
            (outcome_areEqual_of_holdsAll closed data others isListOf.holds alsoListOf.holds enough)
      exact ⟨equal, equal.different_of_positional ofClass⟩
    have symmetric := Datum.equalAll_comm data others isListOf.holds alsoListOf.holds
    let need := max (2 * Datum.heightOfAll data + 3) (2 * Datum.heightOfAll others + 3)
    have direct : AsksBoth behaviour world need value other (some (Datum.equalAll data others)) :=
      (asks isListOf alsoListOf).mono (Nat.le_max_left ..)
    have reverse : AsksBoth behaviour world need other value (some (Datum.equalAll data others)) :=
      symmetric ▸ (asks alsoListOf isListOf).mono (Nat.le_max_right ..)
    have answer : Datum.equal (.items kind data) (.items kind others) = Datum.equalAll data others := by
      simp [Datum.equal]
    have within : need < limit := by omega
    rw [answer]
    exact ⟨by simpa using compares_of_asksBoth direct reverse within,
      by simpa using compares_of_asksBoth reverse direct within⟩
  · have direct : AsksBoth behaviour world 1 value other (some false) :=
      asksBoth_of_other_class positional isListOf (right ▸ Ne.symm same) 1 (by omega)
    have reverse : AsksBoth behaviour world 1 other value (some false) :=
      asksBoth_of_other_class alsoPositional alsoListOf (left ▸ same) 1 (by omega)
    have answer : Datum.equal (.items kind data) (.items otherKind others) = false := by
      simp [Datum.equal, same]
    rw [answer]
    exact ⟨by simpa using compares_of_asksBoth direct reverse (by omega),
      by simpa using compares_of_asksBoth reverse direct (by omega)⟩

/-- A positional instance on the left differs from every instance of a class of lists that is not derived
from its own class. On the right it does so if its class is derived from that class of lists; otherwise
the items alone decide. -/
theorem compares_with_list {listKind : ClassId} {others : List Datum} {values : List Value}
    {limit : Nat} (compares : world.ComparesAsList listKind)
    (alsoListOf : world.IsListOf listKind others other values)
    (notBelow : world.isSubclass listKind kind = false)
    (enough : 2 * Datum.heightOfAll others + 3 < limit) :
    Compares behaviour world limit value other false ∧
      Compares behaviour world limit other value
        (!world.isSubclass kind listKind && Datum.equalAll others data) := by
  have left := isListOf.classOf
  have right := alsoListOf.classOf
  have apart : listKind ≠ kind := compares.ne positional
  have asks : AsksBoth behaviour world (2 * Datum.heightOfAll others + 3) value other (some false) :=
    asksBoth_of_other_class positional isListOf (right.symm ▸ apart) _ (by omega)
  have asksList : Asks behaviour world "__eq__" (2 * Datum.heightOfAll others + 3) other value
      (some (Datum.equalAll others data)) :=
    asks_of_content _ (right.symm ▸ compares) fun limit enough =>
      outcome_equalContent_lists alsoListOf.view isListOf.view
        (outcome_areEqual_of_holdsAll closed others data alsoListOf.holds isListOf.holds enough)
  have alsoAsks : AsksBoth behaviour world (2 * Datum.heightOfAll others + 3) other value
      (some (Datum.equalAll others data)) :=
    ⟨asksList, asksList.different_of_content (right.symm ▸ compares)⟩
  have direct : isReflected world value other = false := by
    simp [isReflected, left, right, notBelow]
  have reverse : isReflected world other value = world.isSubclass kind listKind := by
    simp [isReflected, left, right, apart]
  refine ⟨by simpa [direct] using compares_of_asksBoth asks alsoAsks enough, ?_⟩
  have compares := compares_of_asksBoth alsoAsks asks enough
  rw [reverse] at compares
  cases below : world.isSubclass kind listKind <;> simpa [below] using compares

end Positional

/-- How a positional instance compares. With plain values, lists and positional instances both operators
give the same answer in either order, and it is "equal" exactly for an instance of the same class with
equal items. An instance of another class of lists is different from it; but that instance itself, on the
left, takes it for equal if the items are, unless the positional class is derived from its class. Calls
must be able to nest as deeply as the data do. -/
theorem compare_of_positional (behaviour : Behaviour κ) (closed : world.IsClosed)
    (positional : world.ComparesAsPositional kind) (isListOf : world.IsListOf kind data value items)
    {limit : Nat} (enough : 2 * (Datum.items kind data).height + 1 < limit) :
    (∀ (second : Datum) (other : Value), world.Holds second other → 2 * second.height + 1 < limit →
      Compares behaviour world limit value other (Datum.equal (.items kind data) second) ∧
        Compares behaviour world limit other value (Datum.equal (.items kind data) second)) ∧
    ∀ (listKind : ClassId) (others : List Datum) (other : Value) (values : List Value),
      world.ComparesAsList listKind → world.isSubclass listKind kind = false →
      world.IsListOf listKind others other values →
      2 * (Datum.items listKind others).height + 1 < limit →
      Compares behaviour world limit value other false ∧
        Compares behaviour world limit other value
          (!world.isSubclass kind listKind && Datum.equalAll others data) := by
  unfold Datum.height at enough
  refine ⟨fun second other holds alsoEnough => ?_, fun listKind others other values compares notBelow
    alsoListOf alsoEnough => ?_⟩
  · cases second with
    | scalar plain =>
      unfold World.Holds at holds
      obtain ⟨rfl, isPlain⟩ := holds
      have answer : Datum.equal (.items kind data) (.scalar other) = false := by simp [Datum.equal]
      rw [answer]
      exact compares_with_plain closed positional isListOf isPlain (by omega)
    | items otherKind others =>
      unfold Datum.height at alsoEnough
      obtain ⟨rfl | alsoPositional, values, alsoListOf⟩ := World.holds_items.1 holds
      · have list := World.comparesAsList_list closed
        have answer : Datum.equal (.items kind data) (.items (.builtin .list) others) = false := by
          simp [Datum.equal, Ne.symm (list.ne positional)]
        have compares : Compares behaviour world limit value other false ∧
            Compares behaviour world limit other value _ :=
          compares_with_list closed positional isListOf list alsoListOf
            (World.isSubclass_list closed positional) (by omega)
        rw [answer]
        simpa [positional.list] using compares
      · exact compares_with_positional closed positional isListOf alsoPositional alsoListOf (by omega)
          (by omega)
  · unfold Datum.height at alsoEnough
    exact compares_with_list closed positional isListOf compares alsoListOf notBelow (by omega)

/-- A positional class `P` and a class of lists `L`, an instance of each that holds one, and a list that
holds an instance of `P`. -/
def listsWorld : World SessionContract :=
  { (outcome (do
      discard (Derivation.derive "P" "P" [.builtin .positional] [] [])
      discard (Derivation.derive "L" "L" [.builtin .list] [] [])) World.empty).2 with
    objects := #[⟨.defined 0, .items [.integer 1], []⟩, ⟨.defined 1, .items [.integer 1], []⟩,
      ⟨.builtin .list, .items [.object 0], []⟩] }

/-- The instance of `P` differs from the list in both orders, and from the instance of `L` on the left
alone. -/
theorem compare_of_positional_in_lists :
    Compares SessionContract.behaviour listsWorld Evaluation.depthLimit (.object 0) (.object 2) false ∧
      Compares SessionContract.behaviour listsWorld Evaluation.depthLimit (.object 2) (.object 0) false ∧
      Compares SessionContract.behaviour listsWorld Evaluation.depthLimit (.object 0) (.object 1) false ∧
      Compares SessionContract.behaviour listsWorld Evaluation.depthLimit (.object 1) (.object 0) true := by
  have closed : listsWorld.IsClosed := fun _ _ => rfl
  have positional : listsWorld.ComparesAsPositional (.defined 0) := ⟨rfl, rfl, rfl⟩
  have item : listsWorld.HoldsAll [.scalar (.integer 1)] [.integer 1] :=
    ⟨_, _, rfl, ⟨rfl, trivial⟩, rfl⟩
  have instanceOf : listsWorld.IsListOf (.defined 0) [.scalar (.integer 1)] (.object 0) [.integer 1] :=
    ⟨⟨0, [], rfl, rfl⟩, item⟩
  have listOf : listsWorld.IsListOf (.defined 1) [.scalar (.integer 1)] (.object 1) [.integer 1] :=
    ⟨⟨1, [], rfl, rfl⟩, item⟩
  have list : listsWorld.Holds (.items (.builtin .list) [.items (.defined 0) [.scalar (.integer 1)]])
      (.object 2) :=
    World.holds_items.2 ⟨.inl rfl, _, ⟨⟨2, [], rfl, rfl⟩, ⟨_, _, rfl,
      World.holds_items.2 ⟨.inr positional, _, instanceOf⟩, rfl⟩⟩⟩
  obtain ⟨withData, withLists⟩ := compare_of_positional SessionContract.behaviour closed positional
    instanceOf (show _ < Evaluation.depthLimit by decide)
  obtain ⟨left, right⟩ := withData _ _ list (by decide)
  obtain ⟨before, behind⟩ := withLists (.defined 1) _ _ _ ⟨rfl, rfl⟩ rfl listOf (by decide)
  exact ⟨left, right, before, behind⟩

/-- An instance of another class of lists on the left is equal to a positional instance, and the same
operands in the other order are not. -/
theorem equal_depends_on_order :
    outcome (equal (Evaluation.call SessionContract.behaviour) (.object 1) (.object 0)) listsWorld =
        (.ok (.truth true), listsWorld) ∧
      outcome (equal (Evaluation.call SessionContract.behaviour) (.object 0) (.object 1)) listsWorld =
        (.ok (.truth false), listsWorld) :=
  ⟨rfl, rfl⟩

end DifferenceTypes
