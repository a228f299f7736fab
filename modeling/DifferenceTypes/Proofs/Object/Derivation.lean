import DifferenceTypes.Object.Derivation

/-!
# Derived classes

What a class is that was derived: it has the given names and declares the given types, it stands at
the head of its own line of ancestors, and everything behind it in this line is an ancestor of a
base. It is no record class yet.
-/

namespace DifferenceTypes

/-- A result that is passed on is there. -/
theorem Except.exists_of_bind_eq_ok {ε α β : Type} {first : Except ε α} {next : α → Except ε β}
    {result : β} (given : first >>= next = .ok result) :
    ∃ value, first = .ok value ∧ next value = .ok result := by
  cases first with
  | error error => exact nomatch given
  | ok value => exact ⟨value, rfl, given⟩

/-! ### Lines of ancestors -/

namespace Ancestors

variable {α : Type} [DecidableEq α]

theorem mem_of_nextHead? {lists : List (List α)} {head : α} (next : nextHead? lists = some head) :
    ∃ list ∈ lists, head ∈ list := by
  obtain ⟨list, among, found⟩ := List.exists_of_findSome?_eq_some next
  refine ⟨list, among, ?_⟩
  cases list with
  | nil => exact nomatch found
  | cons first rest =>
    simp only at found
    split at found
    · cases found
      exact List.mem_cons_self
    · exact nomatch found

theorem mem_of_dropHead {lists : List (List α)} {head element : α}
    (among : ∃ list ∈ dropHead head lists, element ∈ list) : ∃ list ∈ lists, element ∈ list := by
  obtain ⟨rest, there, inside⟩ := among
  obtain ⟨list, among, rfl⟩ := List.mem_map.1 there
  refine ⟨list, among, ?_⟩
  split at inside
  · exact List.mem_of_mem_tail inside
  · exact inside

/-- A merged list holds nothing but elements of the lists. -/
theorem mem_of_mergeWithin {count : Nat} {lists : List (List α)} {line : List α}
    (merged : mergeWithin count lists = some line) {element : α} (among : element ∈ line) :
    ∃ list ∈ lists, element ∈ list := by
  induction count generalizing lists line with
  | zero =>
    unfold mergeWithin at merged
    split at merged
    · cases merged
      exact absurd among List.not_mem_nil
    · exact nomatch merged
  | succ count inductionHypothesis =>
    unfold mergeWithin at merged
    split at merged
    · cases merged
      exact absurd among List.not_mem_nil
    split at merged
    · exact nomatch merged
    · next head next =>
      obtain ⟨rest, mergedRest, rfl⟩ := Option.map_eq_some_iff.1 merged
      rcases List.mem_cons.1 among with rfl | behind
      · exact mem_of_nextHead? next
      · exact mem_of_dropHead (inductionHypothesis mergedRest behind)

/-- A class stands at the head of its line, and behind it stand only bases and their ancestors. -/
theorem line?_eq_some {self : α} {bases : List α} {lines : List (List α)} {line : List α}
    (merged : line? self bases lines = some line) :
    ∃ behind, line = self :: behind ∧
      ∀ element ∈ behind, element ∈ bases ∨ ∃ list ∈ lines, element ∈ list := by
  obtain ⟨behind, together, rfl⟩ := Option.map_eq_some_iff.1 merged
  refine ⟨behind, rfl, fun element among => ?_⟩
  obtain ⟨list, there, inside⟩ := mem_of_mergeWithin together among
  rcases List.mem_append.1 there with line | base
  · exact .inr ⟨list, line, inside⟩
  · rw [List.mem_singleton.1 base] at inside
    exact .inl inside

end Ancestors

/-! ### Records of derived classes -/

namespace Derivation

variable {κ : Type} {world : World κ} {next : ClassId} {name qualifiedName : String}
  {written : List Value} {attributes annotations : Attributes} {made : ClassRecord}

/-- What a derived class has from its definition. -/
structure IsDerived (world : World κ) (next : ClassId) (name qualifiedName : String)
    (annotations : Attributes) (made : ClassRecord) : Prop where
  name : made.name = name
  qualifiedName : made.qualifiedName = qualifiedName
  annotations : made.annotations = annotations
  record : made.record = none
  ancestors : Ancestors.line? next made.bases (made.bases.map world.ancestors) =
    some made.ancestors

/-- Bases of which a line comes are all different, have layouts that fit together, and their lines are merged. -/
theorem line?_of_lineOf {bases line : List ClassId} (given : lineOf world next bases = .ok line) :
    (hasRepetition bases = false ∧ layoutsFit world bases = true) ∧
      Ancestors.line? next bases (bases.map world.ancestors) = some line := by
  unfold lineOf at given
  split at given
  · exact nomatch given
  · next fits =>
    split at given
    · next found =>
      cases given
      simp only [Bool.or_eq_true, Bool.not_eq_true', not_or, Bool.not_eq_true, Bool.not_eq_false] at fits
      exact ⟨fits, found⟩
    · exact nomatch given

/-- How a class is derived: its written bases stand for classes, these have a line, and of it and the body
the class is made. -/
theorem exists_of_record
    (derived : record world next name qualifiedName written attributes annotations = .ok made) :
    ∃ resolved classes line parameters, resolve world written written = .ok resolved ∧
      resolved.mapM asBase = .ok classes ∧ lineOf world next (basesOrObject classes) = .ok line ∧
      made = ⟨name, qualifiedName, basesOrObject classes, writtenBases? written, line,
        countedAttributes line (writtenBases? written) attributes, annotations, parameters, none⟩ := by
  unfold record at derived
  obtain ⟨resolved, resolves, derived⟩ := Except.exists_of_bind_eq_ok derived
  obtain ⟨classes, areClasses, derived⟩ := Except.exists_of_bind_eq_ok derived
  obtain ⟨line, merged, derived⟩ := Except.exists_of_bind_eq_ok derived
  dsimp only at derived
  split at derived
  · obtain ⟨parameters, -, derived⟩ := Except.exists_of_bind_eq_ok derived
    cases derived
    exact ⟨resolved, classes, line, parameters, resolves, areClasses, merged, rfl⟩
  · cases derived
    exact ⟨resolved, classes, line, [], resolves, areClasses, merged, rfl⟩

theorem isDerived_of_record
    (derived : record world next name qualifiedName written attributes annotations = .ok made) :
    IsDerived world next name qualifiedName annotations made := by
  obtain ⟨resolved, classes, line, parameters, -, -, merged, rfl⟩ := exists_of_record derived
  exact ⟨rfl, rfl, rfl, rfl, (line?_of_lineOf merged).2⟩

end Derivation

end DifferenceTypes
