import DifferenceTypes.Proofs.CommandLine.FailedRun
import DifferenceTypes.Proofs.CommandLine.SkippedRun
import Mathlib.Data.Set.Function
import Mathlib.Logic.Relation

/-!
# Histories of edits and runs

A template is edited and run on again and again, by runs that may also fail, be stopped or find
nothing to do. As long as nobody else touches the output, what is there is always one of three things:
nothing, a file that was emptied by a run that could not encode its text, or what a run has written for
some content that the template had. A run skips the third only for the same content, if no two contents
have the same digest. So no run that succeeds leaves the output of another content behind.

Nothing is said about the output after a run that fails: it may be that of an earlier content.
-/

namespace DifferenceTypes.CommandLine

/-- What can happen to a tree between two looks at it: an edit of anything but the output, or a run on
a template whose content, if it can be read, is one of those given. -/
inductive Happens (contents : Set (List UInt8)) (input output : Text) (tree later : FileTree) :
    Prop where
  | edit (workingDirectory : later.workingDirectory = tree.workingDirectory)
      (untouched : later.find? ((FilePath.ofText output).locate tree.workingDirectory) =
        tree.find? ((FilePath.ofText output).locate tree.workingDirectory))
  | run (result : Except RunError Report)
      (known : ∀ bytes, tree.read (.ofText input) = .ok bytes → bytes ∈ contents)
      (ran : runOn tree (generate FileTree.access ⟨input, output, false⟩) = (result, later))

/-- Any number of edits and runs, in any order. -/
def History (contents : Set (List UInt8)) (input output : Text) : FileTree → FileTree → Prop :=
  Relation.ReflTransGen (Happens contents input output)

/-- The bytes that a run from a directory writes for some content of the template. -/
def IsOutputOf (contents : Set (List UInt8)) (directory : Location) (input : Text)
    (written : List UInt8) : Prop :=
  ∃ bytes ∈ contents, ∃ rendered, generated directory (.ofText input) bytes = .ok rendered ∧
    Utf8.encode? rendered = some written

/-- The working directory is the given one, and a file at the output is empty or the output of some
content of the template. -/
structure IsOwn (contents : Set (List UInt8)) (directory : Location) (input output : Text)
    (tree : FileTree) : Prop where
  workingDirectory : tree.workingDirectory = directory
  output : ∀ written, tree.find? ((FilePath.ofText output).locate directory) = some (.file written) →
    written = [] ∨ IsOutputOf contents directory input written

section Histories

variable {contents : Set (List UInt8)} {directory : Location} {input output : Text}
  {tree later : FileTree} {rendered : Text}

/-- A file that was written stands where its path is located. -/
theorem find?_of_write {grown : FileTree} {path : FilePath} {bytes : List UInt8}
    (wrote : grown.write path bytes = .ok later) :
    later.find? (path.locate grown.workingDirectory) = some (.file bytes) := by
  obtain ⟨location, followed, entry⟩ := FileTree.read_eq_ok (FileTree.read_of_write wrote).1
  rw [FileTree.follow_eq_locate followed, FileTree.workingDirectory_of_write wrote] at entry
  exact entry

/-- A run that fails in the update keeps the output, makes a directory of it or empties it. -/
theorem IsOwn.of_failed_update {result : Except RunError Report}
    (own : IsOwn contents directory input output tree)
    (ran : runOn tree (update FileTree.access (.ofText output) rendered) = (result, later))
    (failed : Fails result) : IsOwn contents directory input output later := by
  obtain ⟨kept, damage⟩ := damage_of_update ran failed
  refine ⟨kept.trans own.workingDirectory, fun written found => ?_⟩
  rcases damage ((FilePath.ofText output).locate directory) with same | changed
  · exact own.output written (same.symm.trans found)
  · cases changed with
    | directoryMade missing absent made => exact nomatch found.symm.trans made
    | outputEmptied unencodable place emptied =>
      cases found.symm.trans emptied
      exact .inl rfl

/-- A run that succeeds in the update keeps the output or writes it. -/
theorem IsOwn.of_update {report : Report} {bytes : List UInt8}
    (own : IsOwn contents directory input output tree) (known : bytes ∈ contents)
    (accepted : generated directory (.ofText input) bytes = .ok rendered)
    (ran : runOn tree (update FileTree.access (.ofText output) rendered) = (.ok report, later)) :
    IsOwn contents directory input output later := by
  rcases runOn_update_cases (isSome_digest?_of_generated accepted) ran with
    ⟨-, -, same⟩ | ⟨-, grown, encoded, grows, encoding, wrote⟩
  · exact same ▸ own
  · have placed : grown.workingDirectory = directory :=
      grows.workingDirectory.trans own.workingDirectory
    refine ⟨(FileTree.workingDirectory_of_write wrote).trans placed, fun written found => ?_⟩
    have there := find?_of_write wrote
    rw [placed] at there
    cases found.symm.trans there
    exact .inr ⟨bytes, known, rendered, accepted, encoding⟩

/-- Whatever happens, the output stays an own one. -/
theorem IsOwn.step (own : IsOwn contents directory input output tree)
    (happens : Happens contents input output tree later) :
    IsOwn contents directory input output later := by
  obtain rfl := own.workingDirectory
  cases happens with
  | edit workingDirectory untouched =>
    exact ⟨workingDirectory, fun written found => own.output written (untouched.symm.trans found)⟩
  | run result known ran =>
    rcases runOn_generate_cases ran with same | ⟨-, bytes, rendered, source, accepted, updated⟩
    · exact same ▸ own
    · cases result with
      | error error =>
        exact own.of_failed_update updated fun report impossible => nomatch impossible
      | ok report => exact own.of_update (known bytes source) accepted updated

/-- The same over a whole history, by induction on it. -/
theorem IsOwn.of_history {start : FileTree} (own : IsOwn contents directory input output start)
    (history : History contents input output start tree) :
    IsOwn contents directory input output tree := by
  induction history with
  | refl => exact own
  | tail _ happens inductionHypothesis => exact inductionHypothesis.step happens

/-- An output that was left behind by this history is current only if it is the output of the same
content. An emptied one never is, as it carries no digest. -/
theorem IsOwn.read_of_isCurrent {bytes : List UInt8}
    (own : IsOwn contents directory input output tree)
    (isOneLine : ((FilePath.ofText input).locate directory).IsOneLine)
    (known : bytes ∈ contents) (distinct : Set.InjOn Output.digest contents)
    (accepted : generated directory (.ofText input) bytes = .ok rendered)
    (current : IsCurrent tree (.ofText output) rendered) :
    ∃ encoded, Utf8.encode? rendered = some encoded ∧
      tree.read (.ofText output) = .ok encoded := by
  obtain ⟨written, text, found, decoded, same⟩ := current
  obtain ⟨location, followed, entry⟩ := FileTree.read_eq_ok found
  rw [FileTree.follow_eq_locate followed, own.workingDirectory] at entry
  rcases own.output written entry with emptied | ⟨earlier, among, before, wrote, encoding⟩
  · rw [emptied] at decoded
    cases decoded
    obtain ⟨digest, carried⟩ := Option.isSome_iff_exists.1 (isSome_digest?_of_generated accepted)
    rw [carried] at same
    exact nomatch same
  · obtain rfl := distinct among known
      (digest_eq_of_isCurrent isOneLine wrote encoding found accepted ⟨_, _, found, decoded, same⟩)
    cases wrote.symm.trans accepted
    exact ⟨written, encoding, found⟩

/-- A run on a template whose output is there already leaves everything alone. -/
theorem runOn_generate_unchanged {bytes encoded : List UInt8}
    (isOneLine : ((FilePath.ofText input).locate tree.workingDirectory).IsOneLine)
    (source : tree.read (.ofText input) = .ok bytes)
    (accepted : generated tree.workingDirectory (.ofText input) bytes = .ok rendered)
    (encoding : Utf8.encode? rendered = some encoded)
    (found : tree.read (.ofText output) = .ok encoded) :
    runOn tree (generate FileTree.access ⟨input, output, false⟩) =
      (.ok (unchanged (.ofText output)), tree) := by
  obtain ⟨location, followed, entry⟩ := FileTree.read_eq_ok source
  have carried := digest?_of_generated isOneLine accepted
  have current : IsCurrent tree (.ofText output) rendered :=
    ⟨encoded, rendered, found, Utf8.decode?_of_encode? encoding, carried.2.trans carried.1.symm⟩
  rw [runOn_generate false (FileTree.read_of_follow followed entry).2 source accepted]
  simp only [Bool.false_eq_true, if_false]
  exact runOn_update_of_isCurrent (isSome_digest?_of_generated accepted) current

end Histories

/-- After any history of edits and runs that started without an output file, and whose template had no
two contents with the same digest, a run that succeeds leaves the output with exactly what is generated
from the template, which it leaves as it was; and one more run right behind it says that nothing has
changed and changes nothing. The output's location must not be the input's, and no line end may be in
the input's.

Proof: a file at the output is an own one throughout the history. So a run that skips it skips what it
would have written, and a run that does not has written it. -/
theorem output_current_after_history (contents : Set (List UInt8)) (input output : Text)
    (start tree later : FileTree) (report : Report)
    (distinct : Set.InjOn Output.digest contents)
    (isOneLine : ((FilePath.ofText input).locate start.workingDirectory).IsOneLine)
    (apart : (FilePath.ofText output).locate start.workingDirectory ≠
      (FilePath.ofText input).locate start.workingDirectory)
    (absent : ∀ bytes, start.find? ((FilePath.ofText output).locate start.workingDirectory) ≠
      some (.file bytes))
    (history : History contents input output start tree)
    (known : ∀ bytes, tree.read (.ofText input) = .ok bytes → bytes ∈ contents)
    (ran : runOn tree (generate FileTree.access ⟨input, output, false⟩) = (.ok report, later))
    (succeeds : report.code = 0) :
    (∃ bytes rendered encoded, tree.read (.ofText input) = .ok bytes ∧
      later.read (.ofText input) = .ok bytes ∧
      generated start.workingDirectory (.ofText input) bytes = .ok rendered ∧
      Utf8.encode? rendered = some encoded ∧ later.read (.ofText output) = .ok encoded) ∧
    runOn later (generate FileTree.access ⟨input, output, false⟩) =
      (.ok (unchanged (.ofText output)), later) := by
  have own : IsOwn contents start.workingDirectory input output tree :=
    IsOwn.of_history ⟨rfl, fun written found => absurd found (absent written)⟩ history
  have ownLater := own.step (.run _ known ran)
  rcases runOn_generate_outcome ran with ⟨-, fails⟩ | ⟨-, bytes, rendered, source, accepted, updated⟩
  · exact absurd succeeds (fails rfl report rfl)
  rw [own.workingDirectory] at accepted
  have outcome : later.read (.ofText input) = .ok bytes ∧ ∃ encoded,
      Utf8.encode? rendered = some encoded ∧ later.read (.ofText output) = .ok encoded := by
    rcases runOn_update_cases (isSome_digest?_of_generated accepted) updated with
      ⟨current, -, same⟩ | ⟨-, grown, encoded, grows, encoding, wrote⟩
    · subst same
      exact ⟨source, own.read_of_isCurrent isOneLine (known bytes source) distinct accepted current⟩
    · have placed := grows.workingDirectory.trans own.workingDirectory
      have elsewhere : (FilePath.ofText output).locate grown.workingDirectory ≠
          (FilePath.ofText input).locate grown.workingDirectory := by
        rw [placed]
        exact apart
      exact ⟨(FileTree.read_of_write_of_ne wrote (grows.read source) elsewhere).1, encoded, encoding,
        (FileTree.read_of_write wrote).1⟩
  obtain ⟨sourceLater, encoded, encoding, found⟩ := outcome
  refine ⟨⟨bytes, rendered, encoded, source, sourceLater, accepted, encoding, found⟩, ?_⟩
  rw [← ownLater.workingDirectory] at isOneLine accepted
  exact runOn_generate_unchanged isOneLine sourceLater accepted encoding found

/-- A template whose line end is changed between two runs: the second run finds the output of the first
one, replaces it, and leaves exactly what it generates. -/
theorem output_current_after_changed_line_end :
    ∃ earlier encoded, History {[13, 10], [10]} "t" "u" (templateTree [13, 10])
        ((templateTree [10]).put ["u"] (.file earlier)) ∧
      runOn ((templateTree [10]).put ["u"] (.file earlier))
          (generate FileTree.access ⟨"t", "u", false⟩) =
        (.ok (written (.ofText "u")), (templateTree [10]).put ["u"] (.file encoded)) ∧
      (∃ bytes rendered bytesThere, ((templateTree [10]).put ["u"] (.file earlier)).read (.ofText "t") =
          .ok bytes ∧
        ((templateTree [10]).put ["u"] (.file encoded)).read (.ofText "t") = .ok bytes ∧
        generated [] (.ofText "t") bytes = .ok rendered ∧
        Utf8.encode? rendered = some bytesThere ∧
        ((templateTree [10]).put ["u"] (.file encoded)).read (.ofText "u") = .ok bytesThere) ∧
      runOn ((templateTree [10]).put ["u"] (.file encoded))
          (generate FileTree.access ⟨"t", "u", false⟩) =
        (.ok (unchanged (.ofText "u")), (templateTree [10]).put ["u"] (.file encoded)) := by
  have isOneLine : ((FilePath.ofText "t").locate []).IsOneLine := by
    intro name among
    cases List.mem_singleton.1 among
    exact ⟨by decide, by decide⟩
  have different : Output.digest [13, 10] ≠ Output.digest [10] := by decide +kernel
  have distinct : Set.InjOn Output.digest {[13, 10], [10]} := by
    rintro first (rfl | rfl) second (rfl | rfl) same
    · rfl
    · exact absurd same different
    · exact absurd same.symm different
    · rfl
  obtain ⟨acceptedEarlier, earlier, encodingEarlier, ranEarlier⟩ :=
    runOn_generate_templateTree [13, 10] ['\r', '\n'] rfl rfl
  obtain ⟨accepted, encoded, encoding, -⟩ := runOn_generate_templateTree [10] ['\n'] rfl rfl
  have history : History {[13, 10], [10]} "t" "u" (templateTree [13, 10])
      ((templateTree [10]).put ["u"] (.file earlier)) := by
    refine .tail (.single (.run _ ?_ ranEarlier)) (.edit rfl rfl)
    intro bytes source
    cases source
    exact .inl rfl
  have known : ∀ bytes, ((templateTree [10]).put ["u"] (.file earlier)).read (.ofText "t") =
      .ok bytes → bytes ∈ ({[13, 10], [10]} : Set (List UInt8)) := by
    intro bytes source
    cases source
    exact .inr rfl
  have ran : runOn ((templateTree [10]).put ["u"] (.file earlier))
      (generate FileTree.access ⟨"t", "u", false⟩) =
        (.ok (written (.ofText "u")), (templateTree [10]).put ["u"] (.file encoded)) := by
    have outdated : Output.digest? (Text.unifyLineEnds
        (unmarkedOutput [13, 10] (Text.ofCharacters ['\r', '\n']))) ≠
        Output.digest? (unmarkedOutput [10] (Text.ofCharacters ['\n'])) := by
      rw [(digest?_of_generated isOneLine acceptedEarlier).2, (digest?_of_generated isOneLine accepted).1]
      intro same
      exact different (List.map_injective_iff.2 (fun _ _ => CodePoint.scalar.inj) (Option.some.inj same))
    have found : ((templateTree [10]).put ["u"] (.file earlier)).read (.ofText "u") = .ok earlier := rfl
    rw [runOn_generate false rfl rfl accepted]
    simp only [Bool.false_eq_true, if_false]
    rw [runOn_update_of_not_isCurrent (isSome_digest?_of_generated accepted) found
      (Utf8.decode?_of_encode? encodingEarlier) outdated]
    exact runOn_writeOutput_of_write rfl encoding rfl
  have absent : (templateTree [13, 10]).find? ((FilePath.ofText "u").locate []) = none := rfl
  have exactly := output_current_after_history _ "t" "u" _ _ _ _ distinct
    isOneLine (by decide) (fun bytes found => nomatch absent.symm.trans found) history known ran rfl
  exact ⟨earlier, encoded, history, ran, exactly⟩

end DifferenceTypes.CommandLine
