import DifferenceTypes.Proofs.Object.ClassAttributes
import Mathlib.Data.List.Nodup

/-!
# Lines of ancestors

The line of a derived class is merged from the lines of its bases and the list of the bases. Every one of
these lists is kept in its order, and nothing comes twice. So in a world whose classes were derived one after
the other, the line of a class holds the whole line of each of its ancestors, in its order: which of two
ancestors is the nearer one is the same for all classes that have both in the line of one
(`World.IsOrdered`). And the built-in classes in a line bring one layout of instances at most, besides that
of all objects (`World.HasOneLayout`).
-/

namespace DifferenceTypes

open Run (outcome)

variable {κ : Type}

/-! ### Merging -/

namespace Ancestors

variable {α : Type} [DecidableEq α] {lists : List (List α)} {list line : List α}

/-- What is taken next stands behind nothing in any of the lists. -/
theorem notMem_tail_of_nextHead? {head : α} (next : nextHead? lists = some head) (among : list ∈ lists) :
    head ∉ list.tail := by
  obtain ⟨source, -, found⟩ := List.exists_of_findSome?_eq_some next
  cases source with
  | nil => exact nomatch found
  | cons first rest =>
    simp only at found
    split at found
    · next free =>
      cases found
      simpa using List.all_eq_true.1 free list among
    · exact nomatch found

omit [DecidableEq α] in
theorem sublist_of_isEmpty (empty : lists.all List.isEmpty = true) (among : list ∈ lists) :
    list.Sublist line := by
  rw [List.isEmpty_iff.1 (List.all_eq_true.1 empty list among)]
  exact List.nil_sublist line

/-- Every list that is merged is kept in its order. -/
theorem sublist_of_mergeWithin {count : Nat} (merged : mergeWithin count lists = some line)
    (among : list ∈ lists) : list.Sublist line := by
  induction count generalizing lists list line with
  | zero =>
    unfold mergeWithin at merged
    split at merged
    · next empty => exact sublist_of_isEmpty empty among
    · cases merged
  | succ count inductionHypothesis =>
    unfold mergeWithin at merged
    split at merged
    · next empty => exact sublist_of_isEmpty empty among
    split at merged
    · cases merged
    · next head _ =>
      obtain ⟨rest, mergedRest, rfl⟩ := Option.map_eq_some_iff.1 merged
      have there : (if list.head? == some head then list.tail else list) ∈ dropHead head lists :=
        List.mem_map_of_mem among
      have kept := inductionHypothesis mergedRest there
      split at kept
      · next starts =>
        cases list with
        | nil => exact List.nil_sublist _
        | cons first others =>
          rw [List.head?_cons, beq_iff_eq, Option.some.injEq] at starts
          exact starts ▸ kept.cons_cons first
      · exact kept.cons head

/-- Nothing comes twice in a merged list: what was taken stands in no tail, and it is dropped where it stood
first. -/
theorem nodup_of_mergeWithin {count : Nat} (merged : mergeWithin count lists = some line) : line.Nodup := by
  induction count generalizing lists line with
  | zero =>
    unfold mergeWithin at merged
    split at merged
    · cases merged
      exact List.nodup_nil
    · cases merged
  | succ count inductionHypothesis =>
    unfold mergeWithin at merged
    split at merged
    · cases merged
      exact List.nodup_nil
    split at merged
    · cases merged
    · next head next =>
      obtain ⟨rest, mergedRest, rfl⟩ := Option.map_eq_some_iff.1 merged
      refine List.nodup_cons.2 ⟨fun again => ?_, inductionHypothesis mergedRest⟩
      obtain ⟨left, among, inside⟩ := mem_of_mergeWithin mergedRest again
      obtain ⟨list, there, rfl⟩ := List.mem_map.1 among
      have behindNothing := notMem_tail_of_nextHead? next there
      split at inside
      · exact behindNothing inside
      · next other =>
        cases list with
        | nil => cases inside
        | cons first others =>
          rcases List.mem_cons.1 inside with rfl | behind
          · simp at other
          · exact behindNothing behind

/-- A line holds its class and behind it, nothing twice, the bases and the lines that it was merged from. -/
theorem exists_of_line? {self : α} {bases : List α} (merged : line? self bases lists = some line) :
    ∃ behind, line = self :: behind ∧ behind.Nodup ∧ bases.Sublist behind ∧
      (∀ list ∈ lists, list.Sublist behind) ∧
      ∀ element ∈ behind, element ∈ bases ∨ ∃ list ∈ lists, element ∈ list := by
  obtain ⟨behind, together, rfl⟩ := Option.map_eq_some_iff.1 merged
  obtain ⟨again, same, inside⟩ := line?_eq_some merged
  cases same
  exact ⟨behind, rfl, nodup_of_mergeWithin together,
    sublist_of_mergeWithin together (List.mem_append_right _ (List.mem_singleton_self _)),
    fun list among => sublist_of_mergeWithin together (List.mem_append_left _ among), inside⟩

end Ancestors

/-! ### Built-in classes -/

namespace BuiltinClass

/-- The class of all objects, and the built-in classes that have other ancestors than themselves and it. -/
def layered : List BuiltinClass :=
  ([.object, .truth, .positional, .unionForm, .annotatedForm, .literalForm, .anyType] : List BuiltinClass) ++
    ("FrozenInstanceError" :: "DiffError" :: exceptionParents.map Prod.fst).map .exception

theorem ancestors_eq_or_mem_layered (kind : BuiltinClass) :
    kind ≠ .object ∧ kind.ancestors = [kind, .object] ∨ kind ∈ layered := by
  cases kind with
  | exception name =>
    have isNamed {parent : String} (isParent : exceptionParent? name = some parent) :
        name ∈ "FrozenInstanceError" :: "DiffError" :: exceptionParents.map Prod.fst := by
      unfold exceptionParent? at isParent
      split at isParent
      · exact List.mem_cons_self
      · exact List.mem_cons_of_mem _ List.mem_cons_self
      · obtain ⟨front, behind, cut, -⟩ := List.lookup_eq_some_iff.1 isParent
        refine List.mem_cons_of_mem _ (List.mem_cons_of_mem _ (List.mem_map.2 ⟨(name, parent), ?_, rfl⟩))
        simp [cut]
    cases isParent : exceptionParent? name with
    | none =>
      refine .inl ⟨nofun, ?_⟩
      simp only [ancestors, exceptionLine, isParent]
      rfl
    | some parent => exact .inr (List.mem_append_right _ (List.mem_map_of_mem (isNamed isParent)))
  | _ => first
    | exact .inr (by decide)
    | exact .inl ⟨nofun, rfl⟩

/-- No class comes twice in the line of a built-in class, and the line of each ancestor is kept in it. -/
theorem nodup_ancestors_and_sublist (kind : BuiltinClass) :
    kind.ancestors.Nodup ∧ ∀ ancestor ∈ kind.ancestors, ancestor.ancestors.Sublist kind.ancestors := by
  rcases ancestors_eq_or_mem_layered kind with ⟨other, line⟩ | among
  · rw [line]
    refine ⟨by simpa using other, fun ancestor inside => ?_⟩
    rcases List.mem_cons.1 inside with rfl | behind
    · rw [line]
    · rw [List.mem_singleton.1 behind]
      exact .cons kind (.refl _)
  · revert kind
    decide

/-- The classes that a class may be derived from bring one layout at most, besides that of all objects. -/
theorem layout_of_mem_ancestors {kind ancestor : BuiltinClass} (isOpen : kind.isClosed = false)
    (inside : ancestor ∈ kind.ancestors) : ancestor.layout = .object ∨ ancestor.layout = kind.layout := by
  rcases ancestors_eq_or_mem_layered kind with ⟨-, line⟩ | among
  · rw [line] at inside
    rcases List.mem_cons.1 inside with rfl | behind
    · exact .inr rfl
    · rw [List.mem_singleton.1 behind]
      exact .inl rfl
  · have all : ∀ kind ∈ layered, kind.isClosed = false → ∀ ancestor ∈ kind.ancestors,
        ancestor.layout = .object ∨ ancestor.layout = kind.layout := by decide
    exact all kind among isOpen ancestor inside

end BuiltinClass

/-! ### The lines of a world -/

namespace World

/-- A class stands first in its line, nothing comes twice there, all of it is there, and the line of each
ancestor is kept in its order. -/
structure IsOrdered (world : World κ) (identity : ClassId) : Prop where
  head : ∃ behind, world.ancestors identity = identity :: behind
  nodup : (world.ancestors identity).Nodup
  there : ∀ ancestor ∈ world.ancestors identity, world.HasClass ancestor
  keeps : ∀ ancestor ∈ world.ancestors identity,
    (world.ancestors ancestor).Sublist (world.ancestors identity)

theorem isOrdered_builtin (world : World κ) (kind : BuiltinClass) : world.IsOrdered (.builtin kind) := by
  obtain ⟨behind, line⟩ := kind.exists_ancestors_eq
  obtain ⟨nodup, keeps⟩ := kind.nodup_ancestors_and_sublist
  refine ⟨⟨behind.map .builtin, by rw [World.ancestors, line, List.map_cons]⟩,
    nodup.map fun _ _ same => ClassId.builtin.inj same, fun ancestor inside => ?_, fun ancestor inside => ?_⟩ <;>
      obtain ⟨other, among, rfl⟩ := List.mem_map.1 inside
  · trivial
  · exact (keeps other among).map _

/-- The layouts that the built-in classes of a line bring, besides that of all objects. -/
def layoutsOf (line : List ClassId) : List BuiltinClass :=
  line.filterMap fun
    | .builtin kind => if kind.layout == .object then none else some kind.layout
    | .defined _ => none

theorem mem_layoutsOf {line : List ClassId} {layout : BuiltinClass} :
    layout ∈ layoutsOf line ↔ layout ≠ .object ∧ ∃ kind, .builtin kind ∈ line ∧ kind.layout = layout := by
  unfold layoutsOf
  rw [List.mem_filterMap]
  constructor
  · rintro ⟨ancestor, among, gives⟩
    cases ancestor with
    | defined index => exact nomatch gives
    | builtin kind =>
      dsimp only at gives
      split at gives
      · exact nomatch gives
      · next other =>
        cases gives
        exact ⟨by simpa using other, kind, among, rfl⟩
  · rintro ⟨other, kind, among, rfl⟩
    exact ⟨.builtin kind, among, if_neg (by simpa using other)⟩

/-- The layout of a class is that of all built-in classes in its line which bring one. -/
def HasOneLayout (world : World κ) (identity : ClassId) : Prop :=
  ∀ layout ∈ layoutsOf (world.ancestors identity), world.layout identity = layout

theorem hasOneLayout_of_forall_eq {world : World κ} {identity : ClassId}
    (same : ∀ first ∈ layoutsOf (world.ancestors identity),
      ∀ second ∈ layoutsOf (world.ancestors identity), first = second) : world.HasOneLayout identity := by
  intro layout among
  change (layoutsOf (world.ancestors identity)).head?.getD .object = layout
  cases layouts : layoutsOf (world.ancestors identity) with
  | nil =>
    rw [layouts] at among
    exact nomatch among
  | cons first rest => exact same first (by simp [layouts]) layout among

/-- The class may be a base of others. -/
def IsBase : ClassId → Prop
  | .builtin kind => kind.isClosed = false
  | .defined _ => True

theorem hasOneLayout_builtin (world : World κ) {kind : BuiltinClass} (isBase : IsBase (.builtin kind)) :
    world.HasOneLayout (.builtin kind) := by
  have isKinds (layout : BuiltinClass) (among : layout ∈ layoutsOf (world.ancestors (.builtin kind))) :
      layout = kind.layout := by
    obtain ⟨other, ancestor, inside, rfl⟩ := mem_layoutsOf.1 among
    obtain ⟨found, inside, same⟩ := List.mem_map.1 inside
    cases same
    exact (BuiltinClass.layout_of_mem_ancestors isBase inside).resolve_left other
  exact hasOneLayout_of_forall_eq fun first one second other =>
    (isKinds first one).trans (isKinds second other).symm

/-- All lines are in order, and no line of a class that may be a base brings several layouts. -/
structure HasOrderedLines (world : World κ) : Prop where
  isOrdered : ∀ identity, world.HasClass identity → world.IsOrdered identity
  hasOneLayout : ∀ identity, world.HasClass identity → IsBase identity → world.HasOneLayout identity

/-- In the world before anything was done there are only the built-in classes. -/
theorem hasOrderedLines_empty : (World.empty : World κ).HasOrderedLines := by
  refine ⟨fun identity there => ?_, fun identity there isBase => ?_⟩
  · cases identity with
    | builtin kind => exact isOrdered_builtin _ kind
    | defined index => exact absurd there (Nat.not_lt_zero index)
  · cases identity with
    | builtin kind => exact hasOneLayout_builtin _ isBase
    | defined index => exact absurd there (Nat.not_lt_zero index)

section Later

variable {world later : World κ} {identity : ClassId}

theorem HasOneLayout.of_eq (one : world.HasOneLayout identity)
    (same : later.ancestors identity = world.ancestors identity) : later.HasOneLayout identity := by
  unfold HasOneLayout World.layout at one ⊢
  rw [same]
  exact one

/-- A line stays in order where the classes that are there stay, and their lines. -/
theorem IsOrdered.of_eq (isOrdered : world.IsOrdered identity) (isThere : world.HasClass identity)
    (stays : ∀ other, world.HasClass other → later.HasClass other)
    (same : ∀ other, world.HasClass other → later.ancestors other = world.ancestors other) :
    later.IsOrdered identity := by
  obtain ⟨head, nodup, there, keeps⟩ := isOrdered
  refine ⟨?_, ?_, ?_, ?_⟩ <;> rw [same identity isThere]
  · exact head
  · exact nodup
  · exact fun ancestor inside => stays ancestor (there ancestor inside)
  · exact fun ancestor inside => (same ancestor (there ancestor inside)).symm ▸ keeps ancestor inside

theorem HasOrderedLines.of_same (ordered : world.HasOrderedLines)
    (size : later.classes.size = world.classes.size)
    (ancestors : ∀ identity, later.ancestors identity = world.ancestors identity) :
    later.HasOrderedLines := by
  have hasClass (identity : ClassId) : later.HasClass identity ↔ world.HasClass identity := by
    cases identity with
    | builtin kind => exact Iff.rfl
    | defined index => exact iff_of_eq (congrArg (index < ·) size)
  refine ⟨fun identity there => ?_, fun identity there isBase => ?_⟩ <;>
    have before := (hasClass identity).1 there
  · exact (ordered.isOrdered identity before).of_eq before (fun other => (hasClass other).2)
      fun other _ => ancestors other
  · exact (ordered.hasOneLayout identity before isBase).of_eq (ancestors identity)

end Later

end World

/-! ### Deriving a class -/

namespace Derivation

variable {world later : World κ} {next identity : ClassId} {name qualifiedName : String}
  {written : List Value} {attributes annotations : Attributes} {made : ClassRecord}

theorem isBase_of_mapM_asBase {values : List Value} {classes : List ClassId}
    (given : values.mapM asBase = .ok classes) : ∀ base ∈ classes, World.IsBase base := by
  induction values generalizing classes with
  | nil =>
    cases given
    exact fun _ among => nomatch among
  | cons value rest inductionHypothesis =>
    rw [List.mapM_cons] at given
    obtain ⟨first, one, given⟩ := Except.exists_of_bind_eq_ok given
    obtain ⟨others, later, given⟩ := Except.exists_of_bind_eq_ok given
    cases given
    refine List.forall_mem_cons.2 ⟨?_, inductionHypothesis later⟩
    unfold asBase at one
    split at one
    · split at one
      · exact nomatch one
      · next isOpen =>
        cases one
        exact Bool.eq_false_iff.2 isOpen
    · next other =>
      cases one
      cases first with
      | builtin kind => exact absurd rfl (other kind)
      | defined index => trivial
    · exact nomatch one

/-- The bases of a class may be bases, and their layouts fit together. -/
theorem isBase_and_layoutsFit_of_record
    (derived : record world next name qualifiedName written attributes annotations = .ok made) :
    (∀ base ∈ made.bases, World.IsBase base) ∧ layoutsFit world made.bases = true := by
  obtain ⟨resolved, classes, line, parameters, -, areClasses, merged, rfl⟩ := exists_of_record derived
  refine ⟨fun base among => ?_, (line?_of_lineOf merged).1.2⟩
  dsimp only [basesOrObject] at among
  split at among
  · rw [List.mem_singleton.1 among]
    rfl
  · exact isBase_of_mapM_asBase areClasses base among

/-- Layouts of bases that fit together are the same, except for that of all objects. -/
theorem eq_of_layoutsFit {bases : List ClassId} (fit : layoutsFit world bases = true) {first second : ClassId}
    (one : first ∈ bases) (other : second ∈ bases) (ofFirst : world.layout first ≠ .object)
    (ofSecond : world.layout second ≠ .object) : world.layout first = world.layout second := by
  have chosen {base : ClassId} (among : base ∈ bases) (different : world.layout base ≠ .object) :
      world.layout base ∈ (bases.map world.layout).filter (· != .object) :=
    List.mem_filter.2 ⟨List.mem_map_of_mem among, by simpa using different⟩
  have same := List.all_eq_true.1 (List.all_eq_true.1 fit _ (chosen one ofFirst)) _ (chosen other ofSecond)
  exact (beq_iff_eq.1 same).symm

/-- What stands behind a class in its line is merged from the lines of its bases. -/
structure IsMerged (world : World κ) (bases behind : List ClassId) : Prop where
  there : ∀ base ∈ bases, world.HasClass base
  areBases : ∀ base ∈ bases, World.IsBase base
  fit : layoutsFit world bases = true
  nodup : behind.Nodup
  keeps : ∀ base ∈ bases, (world.ancestors base).Sublist behind
  inside : ∀ ancestor ∈ behind, ∃ base ∈ bases, ancestor ∈ world.ancestors base

section Merged

variable {bases behind : List ClassId} (ordered : world.HasOrderedLines)

include ordered

/-- The line of a class that is derived from classes which are there. -/
theorem exists_isMerged_of_derive
    (ran : outcome (derive name qualifiedName written attributes annotations) world = (.ok identity, later))
    (there : ∀ made, later.record? identity = some made → ∀ base ∈ made.bases, world.HasClass base) :
    ∃ bases behind, later.ancestors identity = identity :: behind ∧ IsMerged world bases behind := by
  obtain ⟨made, derived, rfl, rfl⟩ := exists_record_of_derive ran
  obtain ⟨behind, line, nodup, -, lines, inside⟩ :=
    Ancestors.exists_of_line? (isDerived_of_record derived).ancestors
  obtain ⟨areBases, fit⟩ := isBase_and_layoutsFit_of_record derived
  replace there := there made (by simp [World.record?])
  refine ⟨made.bases, behind, by simp [World.ancestors, line], there, areBases, fit, nodup,
    fun base among => lines _ (List.mem_map_of_mem among), fun ancestor among => ?_⟩
  rcases inside ancestor among with isBase | ⟨list, isLine, among⟩
  · obtain ⟨rest, head⟩ := (ordered.isOrdered ancestor (there ancestor isBase)).head
    exact ⟨ancestor, isBase, head ▸ List.mem_cons_self⟩
  · obtain ⟨base, isBase, rfl⟩ := List.mem_map.1 isLine
    exact ⟨base, isBase, among⟩

theorem IsMerged.hasClass_and_sublist (merged : IsMerged world bases behind) {ancestor : ClassId}
    (among : ancestor ∈ behind) :
    world.HasClass ancestor ∧ (world.ancestors ancestor).Sublist behind := by
  obtain ⟨base, isBase, inside⟩ := merged.inside ancestor among
  have ofBase := ordered.isOrdered base (merged.there base isBase)
  exact ⟨ofBase.there ancestor inside, (ofBase.keeps ancestor inside).trans (merged.keeps base isBase)⟩

theorem IsMerged.exists_layout (merged : IsMerged world bases behind) {layout : BuiltinClass}
    (among : layout ∈ World.layoutsOf behind) : ∃ base ∈ bases, world.layout base = layout := by
  obtain ⟨other, kind, onLine, rfl⟩ := World.mem_layoutsOf.1 among
  obtain ⟨base, isBase, inside⟩ := merged.inside _ onLine
  exact ⟨base, isBase, ordered.hasOneLayout base (merged.there base isBase) (merged.areBases base isBase) _
    (World.mem_layoutsOf.2 ⟨other, kind, inside, rfl⟩)⟩

/-- The layouts of the bases fit together, so no two come into the line. -/
theorem IsMerged.layout_eq (merged : IsMerged world bases behind) {first second : BuiltinClass}
    (isFirst : first ∈ World.layoutsOf behind) (isSecond : second ∈ World.layoutsOf behind) :
    first = second := by
  obtain ⟨one, among, rfl⟩ := merged.exists_layout ordered isFirst
  obtain ⟨another, amongToo, rfl⟩ := merged.exists_layout ordered isSecond
  exact eq_of_layoutsFit merged.fit among amongToo (World.mem_layoutsOf.1 isFirst).1
    (World.mem_layoutsOf.1 isSecond).1

/-- Where lines are in order, they are in order once a class was derived from classes that are there. -/
theorem hasOrderedLines_of_derive
    (ran : outcome (derive name qualifiedName written attributes annotations) world = (.ok identity, later))
    (there : ∀ made, later.record? identity = some made → ∀ base ∈ made.bases, world.HasClass base) :
    later.HasOrderedLines := by
  have derives := derives_of_derive ran
  obtain ⟨bases, behind, line, merged⟩ := exists_isMerged_of_derive ordered ran there
  have stays (other : ClassId) (before : world.HasClass other) : later.HasClass other :=
    derives.hasClass_iff.2 (.inl before)
  have same (other : ClassId) (before : world.HasClass other) :
      later.ancestors other = world.ancestors other :=
    derives.ancestors other fun here => derives.absent (here ▸ before)
  refine ⟨fun other isThere => ?_, fun other isThere isBase => ?_⟩ <;>
    rcases derives.hasClass_iff.1 isThere with before | rfl
  · exact (ordered.isOrdered other before).of_eq before stays same
  · refine ⟨⟨behind, line⟩, ?_, ?_, ?_⟩ <;> rw [line]
    · exact List.nodup_cons.2
        ⟨fun among => derives.absent (merged.hasClass_and_sublist ordered among).1, merged.nodup⟩
    · exact List.forall_mem_cons.2
        ⟨isThere, fun ancestor among => stays ancestor (merged.hasClass_and_sublist ordered among).1⟩
    · refine List.forall_mem_cons.2 ⟨line ▸ .refl _, fun ancestor among => ?_⟩
      obtain ⟨before, keeps⟩ := merged.hasClass_and_sublist ordered among
      exact same ancestor before ▸ keeps.cons other
  · exact (ordered.hasOneLayout other before isBase).of_eq (same other before)
  · have behindOnly : World.layoutsOf (other :: behind) = World.layoutsOf behind := by
      rw [derives.isNew]
      rfl
    refine World.hasOneLayout_of_forall_eq fun first isFirst second isSecond => ?_
    rw [line, behindOnly] at isFirst isSecond
    exact merged.layout_eq ordered isFirst isSecond

end Merged

end Derivation

end DifferenceTypes
