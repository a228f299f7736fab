import DifferenceTypes.CommandLine.Run
import DifferenceTypes.Proofs.Files.Tree

/-!
# Runs over a directory tree

A run is a program over any operations on files. Over those of a directory tree it gives a result and
leaves a tree behind, and `runOn` takes the two together. What one operation does is said once here;
longer runs are put together from that with the rules for one computation behind another.
-/

namespace DifferenceTypes.CommandLine

/-- A computation of a run over a directory tree: its result, and the tree behind it. -/
def runOn {α : Type} (tree : FileTree) (computation : ExceptT RunError (StateM FileTree) α) :
    Except RunError α × FileTree :=
  computation.run.run tree

variable {α β : Type} {tree later : FileTree} {path : FilePath}

/-- Behind a computation that succeeds the next one goes on from the tree that it leaves. -/
theorem runOn_bind_of_ok {computation : ExceptT RunError (StateM FileTree) α} {value : α}
    (next : α → ExceptT RunError (StateM FileTree) β)
    (ran : runOn tree computation = (.ok value, later)) :
    runOn tree (computation >>= next) = runOn later (next value) := by
  have opened : (StateT.run (ExceptT.run computation) tree : Except RunError α × FileTree) =
      (.ok value, later) := ran
  unfold runOn
  rw [ExceptT.run_bind, StateT.run_bind, opened]
  rfl

/-- Two computations one behind the other: the second goes on from the first, or the first stops
both. -/
theorem runOn_bind_cases {computation : ExceptT RunError (StateM FileTree) α}
    {next : α → ExceptT RunError (StateM FileTree) β} {result : Except RunError β}
    (ran : runOn tree (computation >>= next) = (result, later)) :
    (∃ value middle, runOn tree computation = (.ok value, middle) ∧
      runOn middle (next value) = (result, later)) ∨
    ∃ error, runOn tree computation = (.error error, later) ∧ result = .error error := by
  rcases first : runOn tree computation with ⟨outcome, middle⟩
  cases outcome with
  | ok value => exact .inl ⟨value, middle, rfl, runOn_bind_of_ok next first ▸ ran⟩
  | error error =>
    have opened : (StateT.run (ExceptT.run computation) tree : Except RunError α × FileTree) =
        (.error error, middle) := first
    unfold runOn at ran
    rw [ExceptT.run_bind, StateT.run_bind, opened] at ran
    cases ran
    exact .inr ⟨error, rfl, rfl⟩

/-- A computation that succeeds has succeeded in its first part, and in the rest from there. -/
theorem runOn_bind_eq_ok {computation : ExceptT RunError (StateM FileTree) α}
    {next : α → ExceptT RunError (StateM FileTree) β} {result : β}
    (ran : runOn tree (computation >>= next) = (.ok result, later)) :
    ∃ value middle, runOn tree computation = (.ok value, middle) ∧
      runOn middle (next value) = (.ok result, later) := by
  rcases runOn_bind_cases ran with found | ⟨error, -, impossible⟩
  · exact found
  · exact nomatch impossible

/-- An operation on files gives its answer, whatever it is, to what follows. -/
theorem runOn_operation_bind (operation : StateM FileTree α)
    (next : α → ExceptT RunError (StateM FileTree) β) :
    runOn tree (liftM operation >>= next) =
      runOn (operation.run tree).2 (next (operation.run tree).1) :=
  runOn_bind_of_ok next rfl

/-! ### Reading -/

/-- A computation that leaves every tree as it was. -/
def OnlyReads (computation : ExceptT RunError (StateM FileTree) α) : Prop :=
  ∀ tree, (runOn tree computation).2 = tree

theorem OnlyReads.eq {computation : ExceptT RunError (StateM FileTree) α}
    {result : Except RunError α} (reads : OnlyReads computation)
    (ran : runOn tree computation = (result, later)) : later = tree := by
  rw [← reads tree, ran]

theorem OnlyReads.bind {computation : ExceptT RunError (StateM FileTree) α}
    {next : α → ExceptT RunError (StateM FileTree) β} (first : OnlyReads computation)
    (second : ∀ value, OnlyReads (next value)) : OnlyReads (computation >>= next) := by
  intro tree
  rcases ran : runOn tree (computation >>= next) with ⟨result, later⟩
  rcases runOn_bind_cases ran with ⟨value, middle, before, behind⟩ | ⟨error, before, -⟩
  · rw [(second value).eq behind, first.eq before]
  · exact first.eq before

theorem onlyReads_isPresent (path : FilePath) : OnlyReads (isPresent FileTree.access path) := by
  unfold isPresent
  refine OnlyReads.bind (fun tree => rfl) fun found => ?_
  cases found with
  | error error => exact fun tree => rfl
  | ok found => exact fun tree => rfl

theorem onlyReads_readText (path : FilePath) : OnlyReads (readText FileTree.access path) := by
  unfold readText
  refine OnlyReads.bind (fun tree => rfl) fun found => ?_
  cases found with
  | error error => exact fun tree => rfl
  | ok bytes =>
    cases decoded : Utf8.decode? bytes with
    | none => exact fun tree => by simp only [decoded]; rfl
    | some text => exact fun tree => by simp only [decoded]; rfl

theorem runOn_isPresent {found : Bool} (present : tree.isPresent path = .ok found) :
    runOn tree (isPresent FileTree.access path) = (.ok found, tree) := by
  have looked : (FileTree.access.isPresent path).run tree = (.ok found, tree) :=
    congrArg (·, tree) present
  unfold isPresent
  rw [runOn_operation_bind, looked]
  rfl

theorem runOn_readText {bytes : List UInt8} {text : Text} (found : tree.read path = .ok bytes)
    (decoded : Utf8.decode? bytes = some text) :
    runOn tree (readText FileTree.access path) = (.ok text.unifyLineEnds, tree) := by
  have looked : (FileTree.access.read path).run tree = (.ok bytes, tree) :=
    congrArg (·, tree) found
  unfold readText
  rw [runOn_operation_bind, looked]
  simp only [decoded]
  rfl

/-! ### Writing -/

/-- Writing a text fails with the tree as it was; or its bytes are written, which are none if it has
no encoding, and then it fails for that reason. -/
theorem runOn_writeText_cases {text : Text} {result : Except RunError Unit}
    (ran : runOn tree (writeText FileTree.access path text) = (result, later)) :
    (∃ error, result = .error error) ∧ later = tree ∨
      tree.write path ((Utf8.encode? text).getD []) = .ok later ∧
        result = if (Utf8.encode? text).isNone then .error .unencodable else .ok () := by
  unfold writeText at ran
  rw [runOn_operation_bind] at ran
  cases wrote : tree.write path ((Utf8.encode? text).getD []) with
  | error error =>
    have failed : (FileTree.access.write path ((Utf8.encode? text).getD [])).run tree =
        (.error error, tree) := by
      simp [FileTree.access, FileTree.update, wrote]
      rfl
    rw [failed] at ran
    cases ran
    exact .inl ⟨⟨_, rfl⟩, rfl⟩
  | ok written =>
    have done : (FileTree.access.write path ((Utf8.encode? text).getD [])).run tree =
        (.ok (), written) := by
      simp [FileTree.access, FileTree.update, wrote]
      rfl
    rw [done] at ran
    cases encoded : Utf8.encode? text with
    | none =>
      rw [encoded] at ran
      cases ran
      exact .inr ⟨rfl, rfl⟩
    | some bytes =>
      rw [encoded] at ran
      cases ran
      exact .inr ⟨rfl, rfl⟩

/-- A text that is written has an encoding, and its bytes are written. -/
theorem runOn_writeText_eq_ok {text : Text}
    (ran : runOn tree (writeText FileTree.access path text) = (.ok (), later)) :
    ∃ bytes, Utf8.encode? text = some bytes ∧ tree.write path bytes = .ok later := by
  rcases runOn_writeText_cases ran with ⟨⟨error, impossible⟩, -⟩ | ⟨wrote, result⟩
  · exact nomatch impossible
  · cases encoded : Utf8.encode? text with
    | none =>
      rw [encoded] at result
      exact nomatch result
    | some bytes =>
      rw [encoded] at wrote
      exact ⟨bytes, rfl, wrote⟩

/-- Output that is written goes into a tree that has only grown before. -/
theorem runOn_writeOutput_eq_ok {rendered : Text} {report : Report}
    (ran : runOn tree (writeOutput FileTree.access path rendered) = (.ok report, later)) :
    ∃ grown bytes, tree.Grows grown ∧ Utf8.encode? rendered = some bytes ∧
      grown.write path bytes = .ok later := by
  unfold writeOutput at ran
  rw [runOn_operation_bind] at ran
  have grows := FileTree.onlyGrows_ensureDirectory path.parent tree
  rcases ensured : (FileTree.access.ensureDirectory path.parent).run tree with ⟨result, grown⟩
  rw [ensured] at ran grows
  cases result with
  | error error => exact nomatch congrArg Prod.fst ran
  | ok done =>
    obtain ⟨finished, written, wrote, last⟩ := runOn_bind_eq_ok ran
    obtain ⟨bytes, encoded, put⟩ := runOn_writeText_eq_ok wrote
    exact ⟨grown, bytes, grows, encoded, put.trans (congrArg Except.ok (congrArg Prod.snd last))⟩

/-! ### A whole run -/

/-- A run on a template that is accepted comes down to its check or its update. -/
theorem runOn_generate {input output : Text} {bytes : List UInt8} {rendered : Text} (check? : Bool)
    (present : tree.isPresent (.ofText input) = .ok true)
    (source : tree.read (.ofText input) = .ok bytes)
    (accepted : generated tree.workingDirectory (.ofText input) bytes = .ok rendered) :
    runOn tree (generate FileTree.access ⟨input, output, check?⟩) =
      runOn tree (if check? then check FileTree.access (.ofText output) rendered
        else update FileTree.access (.ofText output) rendered) := by
  have looked : (FileTree.access.read (.ofText input)).run tree = (.ok bytes, tree) :=
    congrArg (·, tree) source
  have placed : FileTree.access.workingDirectory.run tree = (tree.workingDirectory, tree) := rfl
  unfold generate
  rw [runOn_bind_of_ok _ (runOn_isPresent present)]
  simp only [Bool.not_true, Bool.false_eq_true, if_false]
  rw [runOn_operation_bind, looked]
  simp only
  rw [runOn_operation_bind, placed, accepted]

end DifferenceTypes.CommandLine
