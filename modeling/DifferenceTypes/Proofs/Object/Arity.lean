import DifferenceTypes.Proofs.Object.AncestorLines

/-!
# The number of fields of a positional class

A base that subscribes the runtime's positional class settles how many fields a class has. No class is
derived twice from one base, so at most one base can be of this kind, whatever the others are; and the
class's line of ancestors holds every base, so the number is noted among the attributes of the class
itself, over whatever its body put there.
-/

namespace DifferenceTypes

open Run (outcome)

variable {κ : Type}

namespace Derivation

variable {world : World κ} {next : ClassId} {name qualifiedName : String}
  {written : List Value} {attributes annotations : Attributes} {made : ClassRecord}

/-! ### Bases that subscribe a class -/

/-- The class that a written base subscribes. -/
def subscribedClass? : Value → Option ClassId
  | .subscribed origin _ => some origin
  | _ => none

/-- Among the classes that the bases stand for are those that they subscribe, in their order. -/
theorem sublist_of_resolve {all bases resolved : List Value}
    (given : resolve world all bases = .ok resolved) :
    ((bases.filterMap subscribedClass?).map Value.ofClass).Sublist resolved := by
  induction bases generalizing resolved with
  | nil => exact List.nil_sublist _
  | cons base rest inductionHypothesis =>
    unfold resolve at given
    obtain ⟨first, one, given⟩ := Except.exists_of_bind_eq_ok given
    obtain ⟨others, later, given⟩ := Except.exists_of_bind_eq_ok given
    cases given
    cases subscribed : subscribedClass? base with
    | none =>
      rw [List.filterMap_cons_none subscribed]
      exact (inductionHypothesis later).trans (List.sublist_append_right _ _)
    | some origin =>
      rw [List.filterMap_cons_some subscribed, List.map_cons]
      unfold subscribedClass? at subscribed
      split at subscribed
      · cases subscribed
        cases one
        exact (inductionHypothesis later).cons_cons _
      · exact nomatch subscribed

/-- Values that may be bases are the classes that they are taken for. -/
theorem eq_map_of_mapM_asBase {values : List Value} {classes : List ClassId}
    (given : values.mapM asBase = .ok classes) : values = classes.map Value.ofClass := by
  induction values generalizing classes with
  | nil =>
    cases given
    rfl
  | cons value rest inductionHypothesis =>
    rw [List.mapM_cons] at given
    obtain ⟨first, one, given⟩ := Except.exists_of_bind_eq_ok given
    obtain ⟨others, later, given⟩ := Except.exists_of_bind_eq_ok given
    cases given
    rw [List.map_cons, ← inductionHypothesis later]
    unfold asBase at one
    split at one
    · split at one
      · exact nomatch one
      · cases one
        rfl
    · cases one
      rfl
    · exact nomatch one

theorem nodup_of_hasRepetition {α : Type} [BEq α] [LawfulBEq α] {list : List α}
    (single : hasRepetition list = false) : list.Nodup := by
  induction list with
  | nil => exact List.nodup_nil
  | cons first rest inductionHypothesis =>
    unfold hasRepetition at single
    rw [Bool.or_eq_false_iff] at single
    refine List.nodup_cons.2 ⟨fun among => ?_, inductionHypothesis single.2⟩
    exact Bool.false_ne_true (single.1.symm.trans (List.elem_eq_true_of_mem among))

/-! ### The number of fields -/

/-- The arguments with which a base subscribes the positional class, if it does. -/
def positionalArguments? : Value → Option (List Value)
  | .subscribed (.builtin .positional) arguments => some arguments
  | _ => none

/-- The arguments of the bases that subscribe the positional class, in their order. -/
def positionalBases (bases : List Value) : List (List Value) :=
  bases.filterMap positionalArguments?

/-- The last base that subscribes the positional class settles the number. -/
theorem arity?_eq (bases : List Value) :
    Positional.arity? bases = (positionalBases bases).getLast?.map List.length := by
  have folds (found : Option Nat) : bases.foldl (fun found base =>
      match base with
      | .subscribed (.builtin .positional) arguments => some arguments.length
      | _ => found) found = ((positionalBases bases).getLast?.map List.length).or found := by
    induction bases generalizing found with
    | nil => rfl
    | cons base rest inductionHypothesis =>
      rw [List.foldl_cons, inductionHypothesis, positionalBases, positionalBases]
      cases given : positionalArguments? base with
      | none =>
        rw [List.filterMap_cons_none given]
        congr 1
        unfold positionalArguments? at given
        split at given
        · exact nomatch given
        · rfl
      | some arguments =>
        rw [List.filterMap_cons_some given, List.getLast?_cons]
        unfold positionalArguments? at given
        split at given
        · cases given
          cases (rest.filterMap positionalArguments?).getLast? <;> rfl
        · exact nomatch given
  exact (folds none).trans Option.or_none

/-- Bases that are classes themselves subscribe nothing, so it does not matter whether they are kept. -/
theorem positionalBases_writtenBases (written : List Value) :
    positionalBases ((writtenBases? written).getD []) = positionalBases written := by
  unfold writtenBases?
  dsimp only
  split
  · next plain =>
    refine (List.filterMap_eq_nil_iff.2 fun base among => ?_).symm
    have isClass := List.all_eq_true.1 plain base among
    split at isClass
    · rfl
    · exact nomatch isClass
  · rfl

theorem subscribedClass?_of_positionalArguments? {base : Value} {arguments : List Value}
    (given : positionalArguments? base = some arguments) :
    subscribedClass? base = some (.builtin .positional) := by
  unfold positionalArguments? at given
  split at given
  · rfl
  · exact nomatch given

section Record

variable (derived : record world next name qualifiedName written attributes annotations = .ok made)

include derived

/-- The classes that written bases subscribe are all different bases of the class. -/
theorem nodup_subscribedClasses :
    (written.filterMap subscribedClass?).Nodup ∧
      ∀ origin ∈ written.filterMap subscribedClass?, origin ∈ made.bases := by
  obtain ⟨resolved, classes, line, parameters, resolves, areClasses, merged, rfl⟩ := exists_of_record derived
  have chosen := sublist_of_resolve resolves
  rw [eq_map_of_mapM_asBase areClasses] at chosen
  have isBase (origin : ClassId) (subscribes : origin ∈ written.filterMap subscribedClass?) :
      origin ∈ classes := by
    obtain ⟨base, there, same⟩ := List.mem_map.1 (chosen.subset (List.mem_map_of_mem subscribes))
    exact Value.ofClass.inj same ▸ there
  have own (some_ : written.filterMap subscribedClass? ≠ []) : basesOrObject classes = classes := by
    obtain ⟨origin, subscribes⟩ := List.exists_mem_of_ne_nil _ some_
    rw [basesOrObject, if_neg]
    simpa using List.ne_nil_of_mem (isBase origin subscribes)
  by_cases some_ : written.filterMap subscribedClass? = []
  · simp [some_]
  · have single := nodup_of_hasRepetition (line?_of_lineOf merged).1.1
    rw [own some_] at single
    refine ⟨(chosen.nodup (single.map fun _ _ same => Value.ofClass.inj same)).of_map, fun origin among => ?_⟩
    rw [own some_]
    exact isBase origin among

/-- A class with a base that subscribes the positional class has it in its line. -/
theorem elem_ancestors_of_positionalBases (some_ : positionalBases written ≠ []) :
    made.ancestors.elem (.builtin .positional) = true := by
  obtain ⟨arguments, among⟩ := List.exists_mem_of_ne_nil _ some_
  obtain ⟨base, there, given⟩ := List.mem_filterMap.1 among
  have isBase := (nodup_subscribedClasses derived).2 _
    (List.mem_filterMap.2 ⟨base, there, subscribedClass?_of_positionalArguments? given⟩)
  obtain ⟨behind, line, -, bases, -⟩ := Ancestors.exists_of_line? (isDerived_of_record derived).ancestors
  rw [line]
  exact List.elem_eq_true_of_mem (List.mem_cons_of_mem _ (bases.subset isBase))

/-- The number of fields is noted among the attributes of a class by its last base that subscribes the
positional class. If there is none, it is what the body says. -/
theorem get?_arity_of_record :
    made.attributes.get? Positional.arityName =
      ((positionalBases written).getLast?.map fun arguments => .integer arguments.length).or
        (attributes.get? Positional.arityName) := by
  have there := elem_ancestors_of_positionalBases derived
  obtain ⟨resolved, classes, line, parameters, -, -, -, rfl⟩ := exists_of_record derived
  have settles : (settled attributes).get? Positional.arityName = attributes.get? Positional.arityName := by
    unfold settled
    split
    · exact Attributes.get?_set_of_ne _ _ (by decide)
    · rfl
  simp only [countedAttributes, arity?_eq, positionalBases_writtenBases]
  cases last : (positionalBases written).getLast? with
  | none =>
    simpa [last] using settles
  | some arguments =>
    rw [if_pos (there fun empty => by simp [empty] at last)]
    exact Attributes.get?_set_self _ _ _

/-- A class with a base that subscribes the positional class has as many fields as this subscript has
elements: the number is an attribute of its own. No other base can be of this kind. -/
theorem arity_of_record {front behind arguments : List Value}
    (bases : written = front ++ .subscribed (.builtin .positional) arguments :: behind) :
    made.attributes.get? Positional.arityName = some (.integer arguments.length) := by
  have distinct := (nodup_subscribedClasses derived).1
  have subscribed : subscribedClass? (.subscribed (.builtin .positional) arguments) =
      some (.builtin .positional) := rfl
  rw [bases, List.filterMap_append, List.filterMap_cons_some subscribed] at distinct
  have absent := (List.nodup_cons.1 (List.nodup_append.1 distinct).2.1).1
  have none : positionalBases behind = [] := by
    refine List.filterMap_eq_nil_iff.2 fun base among => ?_
    rw [Option.eq_none_iff_forall_ne_some]
    intro others given
    exact absent (List.mem_filterMap.2 ⟨base, among, subscribedClass?_of_positionalArguments? given⟩)
  have given : positionalArguments? (.subscribed (.builtin .positional) arguments) = some arguments := rfl
  have last : (positionalBases written).getLast? = some arguments := by
    rw [bases, positionalBases, List.filterMap_append, List.filterMap_cons_some given, ← positionalBases,
      ← positionalBases, none, List.getLast?_concat]
  rw [get?_arity_of_record derived, last]
  rfl

end Record

end Derivation

namespace Positional

variable {world : World κ}

/-- A class that notes a number of fields itself has this number. -/
theorem arityOf_of_own {index count : Nat} {record : ClassRecord} {behind : List ClassId}
    (found : world.classes[index]? = some record) (line : record.ancestors = .defined index :: behind)
    (own : record.attributes.get? arityName = some (.integer count)) :
    arityOf world (.defined index) = .integer count := by
  have nearest : world.classAttribute? (.defined index) arityName = some (.integer count) := by
    unfold World.classAttribute? World.ancestors World.ownAttribute?
    simp [found, line, own]
  have noProperty : world.classProperty? (.defined index) arityName = none := rfl
  unfold arityOf World.attributeOfClass?
  rw [noProperty, nearest]
  rfl

/-- A class with a number of fields takes as many items. Of any other number it is said how many were
expected. -/
theorem outcome_checkCount_eq {call : Caller κ} {self : Value} {count : Nat}
    (counted : arityOf world (world.classOf self) = .integer count) (items : List Value) :
    outcome (checkCount call self items) world =
      if items.length = count then (.ok (), world)
      else outcome (do
        let expected ← Description.plain call (.integer count)
        throw (.wrongCount (Text.ofString (world.className (world.classOf self))) expected items.length))
        world := by
  have fixed : (Value.integer count).same .none = false := rfl
  unfold checkCount
  rw [Run.outcome_get_bind]
  simp only [counted, fixed, Bool.not_false, if_true]
  have asked (next : Bool → Run κ Unit) :
      outcome (pure ((count : Int) == items.length) >>= next) world =
        outcome (next ((count : Int) == items.length)) world := Run.outcome_bind_of_ok next rfl
  rw [asked]
  by_cases fits : items.length = count
  · have same : ((count : Int) == items.length) = true := by simp [fits]
    rw [same, if_pos fits]
    rfl
  · have other : ((count : Int) == items.length) = false := by
      rw [beq_eq_false_iff_ne]
      omega
    rw [other, if_neg fits]
    rfl

/-- Items are taken for an instance of a class with a number of fields exactly if there are as many. -/
theorem outcome_checkCount {call : Caller κ} {self : Value} {count : Nat}
    (counted : arityOf world (world.classOf self) = .integer count) (items : List Value) :
    (∃ later, outcome (checkCount call self items) world = (.ok (), later)) ↔ items.length = count := by
  rw [outcome_checkCount_eq counted]
  by_cases fits : items.length = count
  · rw [if_pos fits]
    exact ⟨fun _ => fits, fun _ => ⟨world, rfl⟩⟩
  · rw [if_neg fits]
    refine ⟨fun ⟨later, ran⟩ => ?_, fun same => absurd same fits⟩
    obtain ⟨text, between, -, failed⟩ := Run.outcome_bind_eq_ok ran
    exact nomatch failed

end Positional

end DifferenceTypes
