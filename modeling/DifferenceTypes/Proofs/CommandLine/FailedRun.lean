import DifferenceTypes.Proofs.CommandLine.RunOn
import DifferenceTypes.Proofs.Template.Reading
import DifferenceTypes.Proofs.Text.Utf8

/-!
# What a failed run leaves behind

A run that only checks, that reports a failure or that is stopped should leave all files as they were.
It does as long as nothing goes wrong in writing itself. Once the writing has begun there are two ways
to leave something behind: the directories that the output's directory lacked stay made when what comes
after them fails, and the output is emptied before its text turns out to have no encoding.

`damage_of_failed_run` says that there is no third: at every location the tree is as it was, or one of
the two has happened there. In particular nothing happens to a tree that has the output's directory if
the generated text has an encoding. A text without one comes from a quoted field type that names half
of a surrogate pair.
-/

namespace DifferenceTypes.CommandLine

/-- A run that is stopped or reports a failure. -/
def Fails (result : Except RunError Report) : Prop :=
  ∀ report, result = .ok report → report.code ≠ 0

/-- What a failed run can have done at a location. -/
inductive Damage (tree later : FileTree) (output : FilePath) (rendered : Text)
    (location : Location) : Prop where
  /-- A directory was made while the output's own was missing. -/
  | directoryMade (missing : tree.isDirectory output.parent = false)
      (absent : tree.find? location = none) (made : later.find? location = some .directory)
  /-- The output was emptied for a text that has no encoding. -/
  | outputEmptied (unencodable : Utf8.encode? rendered = none)
      (place : location = output.locate tree.workingDirectory)
      (emptied : later.find? location = some (.file []))

/-- The later tree has the same working directory, and at every location what was there before unless
the location counts as changed. -/
def UnchangedBut (tree later : FileTree) (changed : Location → Prop) : Prop :=
  later.workingDirectory = tree.workingDirectory ∧
    ∀ location, later.find? location = tree.find? location ∨ changed location

theorem UnchangedBut.of_eq {tree later : FileTree} (same : later = tree)
    (changed : Location → Prop) : UnchangedBut tree later changed := by
  subst same
  exact ⟨rfl, fun location => .inl rfl⟩

section Writing

variable {tree later : FileTree} {path : FilePath} {rendered : Text} {result : Except RunError Report}

/-- A run that fails in writing its output does so with the working directory as it was and with no
damage but the two kinds: what is made before the output is written are directories, and what is
written is nothing. -/
theorem damage_of_writeOutput
    (ran : runOn tree (writeOutput FileTree.access path rendered) = (result, later))
    (failed : Fails result) : UnchangedBut tree later (Damage tree later path rendered) := by
  unfold writeOutput at ran
  rw [runOn_operation_bind] at ran
  have grows := FileTree.onlyGrows_ensureDirectory path.parent tree
  have still : tree.isDirectory path.parent = true →
      ((FileTree.access.ensureDirectory path.parent).run tree).2 = tree := fun there =>
    congrArg Prod.snd (FileTree.run_ensureDirectory_of_isDirectory there)
  rcases ensured : (FileTree.access.ensureDirectory path.parent).run tree with ⟨outcome, grown⟩
  rw [ensured] at ran grows still
  have damage : ∀ location, grown.find? location = tree.find? location ∨
      Damage tree grown path rendered location := by
    intro location
    rcases grows.added location with same | ⟨absent, made⟩
    · exact .inl same
    · cases there : tree.isDirectory path.parent with
      | false => exact .inr (.directoryMade there absent made)
      | true =>
        rw [still there, absent] at made
        exact nomatch made
  cases outcome with
  | error error =>
    cases ran
    exact ⟨grows.workingDirectory, damage⟩
  | ok done =>
    rcases runOn_bind_cases ran with ⟨value, written, wrote, last⟩ | ⟨error, wrote, -⟩
    · -- Nothing is left to fail behind the writing.
      cases last
      exact absurd rfl (failed _ rfl)
    · rcases runOn_writeText_cases wrote with ⟨-, rfl⟩ | ⟨put, outcome⟩
      · exact ⟨grows.workingDirectory, damage⟩
      · cases encoded : Utf8.encode? rendered with
        | some bytes =>
          rw [encoded] at outcome
          exact nomatch outcome
        | none =>
          rw [encoded] at put
          obtain ⟨target, followed, free, rfl⟩ := FileTree.write_eq_ok put
          refine ⟨(FileTree.workingDirectory_put _ _ _).trans grows.workingDirectory,
            fun location => ?_⟩
          by_cases same : location = target
          · subst same
            have below : location ≠ [] := by
              intro root
              simp [root, FileTree.find?] at free
            have place := FileTree.follow_eq_locate followed
            rw [grows.workingDirectory] at place
            exact .inr (.outputEmptied encoded place (FileTree.find?_put_self _ _ below))
          · have kept := FileTree.find?_put_of_ne grown (.file []) same
            rcases damage location with unchanged | changed
            · exact .inl (kept.trans unchanged)
            · cases changed with
              | directoryMade missing absent made =>
                exact .inr (.directoryMade missing absent (kept.trans made))
              | outputEmptied _ place emptied =>
                exact .inr (.outputEmptied encoded place (kept.trans emptied))

/-- The same for a run that looks first whether there is something to write at all. -/
theorem damage_of_update
    (ran : runOn tree (update FileTree.access path rendered) = (result, later))
    (failed : Fails result) : UnchangedBut tree later (Damage tree later path rendered) := by
  unfold update at ran
  rcases runOn_bind_cases ran with ⟨found, middle, looked, rest⟩ | ⟨error, looked, -⟩
  · obtain rfl := (onlyReads_isPresent path).eq looked
    cases found with
    | false => exact damage_of_writeOutput rest failed
    | true =>
      simp only [if_true] at rest
      rcases runOn_bind_cases rest with ⟨existing, behind, read, last⟩ | ⟨error, read, -⟩
      · obtain rfl := (onlyReads_readText path).eq read
        split at last
        · cases last
          exact absurd rfl (failed _ rfl)
        · exact damage_of_writeOutput last failed
      · exact .of_eq ((onlyReads_readText path).eq read) _
  · exact .of_eq ((onlyReads_isPresent path).eq looked) _

/-- A fault that is reported is reported as a failure. -/
theorem eq_failure_of_reportOf? {fault : TemplateError} {report : Report}
    (told : reportOf? path fault = some report) : ∃ line, report = failure line := by
  cases fault with
  | fault fault line column => exact ⟨_, (Option.some.inj told).symm⟩
  | invalidSyntax => exact ⟨_, (Option.some.inj told).symm⟩
  | _ => exact nomatch told

theorem onlyReads_check (path : FilePath) (rendered : Text) :
    OnlyReads (check FileTree.access path rendered) := by
  unfold check
  refine OnlyReads.bind (onlyReads_isPresent path) fun found => ?_
  split
  · exact fun tree => rfl
  · refine OnlyReads.bind (onlyReads_readText path) fun existing => ?_
    split
    · exact fun tree => rfl
    · exact fun tree => rfl

/-- A run for a request leaves the tree as it was, and then fails unless it only checks, or comes down to
the update for a generated text. -/
theorem runOn_generate_outcome {request : Request}
    (ran : runOn tree (generate FileTree.access request) = (result, later)) :
    later = tree ∧ (request.check = false → Fails result) ∨
      request.check = false ∧ ∃ bytes rendered,
        tree.read (.ofText request.input) = .ok bytes ∧
        generated tree.workingDirectory (.ofText request.input) bytes = .ok rendered ∧
        runOn tree (update FileTree.access (.ofText request.output) rendered) = (result, later) := by
  have stopped {error : RunError} (none : result = .error error) : Fails result := by
    intro report given
    exact nomatch none.symm.trans given
  have reported {line : Text} (given : result = .ok (failure line)) : Fails result := by
    intro report same
    cases given.symm.trans same
    exact Nat.one_ne_zero
  unfold generate at ran
  rcases runOn_bind_cases ran with ⟨found, middle, looked, rest⟩ | ⟨error, looked, none⟩
  · obtain rfl := (onlyReads_isPresent _).eq looked
    cases found with
    | false =>
      cases rest
      exact .inl ⟨rfl, fun _ => reported rfl⟩
    | true =>
      simp only [Bool.not_true, Bool.false_eq_true, if_false] at rest
      rw [runOn_operation_bind] at rest
      have looked : (FileTree.access.read (.ofText request.input)).run middle =
          (middle.read (.ofText request.input), middle) := rfl
      have placed : FileTree.access.workingDirectory.run middle =
          (middle.workingDirectory, middle) := rfl
      rw [looked] at rest
      cases source : middle.read (.ofText request.input) with
      | error error =>
        rw [source] at rest
        cases rest
        exact .inl ⟨rfl, fun _ => stopped rfl⟩
      | ok bytes =>
        rw [source] at rest
        simp only at rest
        rw [runOn_operation_bind, placed] at rest
        cases accepted : generated middle.workingDirectory (.ofText request.input) bytes with
        | ok rendered =>
          simp only [accepted] at rest
          split at rest
          · next checks =>
            exact .inl ⟨(onlyReads_check _ _).eq rest,
              fun writes => absurd checks (by simp [writes])⟩
          · next writes =>
            exact .inr ⟨by simpa using writes, bytes, rendered, rfl, accepted, rest⟩
        | error error =>
          simp only [accepted] at rest
          cases error with
          | template fault =>
            simp only at rest
            cases told : reportOf? (.ofText request.input) fault with
            | none =>
              rw [told] at rest
              cases rest
              exact .inl ⟨rfl, fun _ => stopped rfl⟩
            | some report =>
              rw [told] at rest
              cases rest
              obtain ⟨line, rfl⟩ := eq_failure_of_reportOf? told
              exact .inl ⟨rfl, fun _ => reported rfl⟩
          | _ =>
            cases rest
            exact .inl ⟨rfl, fun _ => stopped rfl⟩
  · exact .inl ⟨(onlyReads_isPresent _).eq looked, fun _ => stopped none⟩

/-- A run for a request leaves the tree as it was or comes down to the update for a generated text. -/
theorem runOn_generate_cases {request : Request}
    (ran : runOn tree (generate FileTree.access request) = (result, later)) :
    later = tree ∨ request.check = false ∧ ∃ bytes rendered,
      tree.read (.ofText request.input) = .ok bytes ∧
      generated tree.workingDirectory (.ofText request.input) bytes = .ok rendered ∧
      runOn tree (update FileTree.access (.ofText request.output) rendered) = (result, later) :=
  (runOn_generate_outcome ran).imp_left And.left

end Writing

/-- After a run that only checks, reports a failure or is stopped, every location is as it was, or the
run was writing a generated text and has either made a directory there, because the output's own was
missing, or emptied the output there, because the text has no encoding.

Proof: everything up to the writing only reads, and a check reads throughout. -/
theorem damage_of_failed_run (tree later : FileTree) (program : Text) (arguments : List Text)
    (result : Except RunError Report)
    (ran : runOn tree (run FileTree.access program arguments) = (result, later))
    (failed : Fails result ∨
      ∃ request, parse arguments = .ok (.generate request) ∧ request.check = true) :
    UnchangedBut tree later fun location =>
      ∃ request bytes rendered, parse arguments = .ok (.generate request) ∧
        request.check = false ∧ tree.read (.ofText request.input) = .ok bytes ∧
        generated tree.workingDirectory (.ofText request.input) bytes = .ok rendered ∧
        Damage tree later (.ofText request.output) rendered location := by
  unfold run at ran
  cases parsed : parse arguments with
  | error error =>
    rw [parsed] at ran
    cases ran
    exact .of_eq rfl _
  | ok command =>
    rw [parsed] at ran
    cases command with
    | help =>
      cases ran
      exact .of_eq rfl _
    | generate request =>
      rcases runOn_generate_cases ran with same | ⟨writes, bytes, rendered, source, accepted, ran⟩
      · exact .of_eq same _
      · have fails : Fails result := by
          rcases failed with fails | ⟨other, asked, checks⟩
          · exact fails
          · rw [parsed] at asked
            cases asked
            exact absurd checks (by simp [writes])
        obtain ⟨directory, damage⟩ := damage_of_update ran fails
        refine ⟨directory, fun location => (damage location).imp_right fun changed => ?_⟩
        exact ⟨request, bytes, rendered, rfl, writes, source, accepted, changed⟩

/-! ### An output that is emptied -/

/-- A template whose class `A` has a field `x` with a quoted type that names half of a surrogate
pair. -/
def unpairedTemplate : List Char :=
  "@diff\nclass A:\n    x: \"\\ud800\"\n".toList

/-- A directory tree with that template as `t` and an output `u` that an earlier run left. -/
def unpairedTree : FileTree :=
  ⟨[], [(["t"], .file (Utf8.encodeCharacters unpairedTemplate)), (["u"], .file [111, 108, 100, 10])]⟩

/-- What is generated from the template holds the lone surrogate. -/
theorem exists_generated_unpaired :
    ∃ rendered, generated [] (.ofText "t") (Utf8.encodeCharacters unpairedTemplate) = .ok rendered ∧
      rendered.characters? = none := by
  have decoded : Utf8.decode? (Utf8.encodeCharacters unpairedTemplate) =
      some (Text.ofCharacters unpairedTemplate) :=
    Utf8.decode?_of_encode? (by rw [Utf8.encode?, Text.characters?_ofCharacters]; rfl)
  obtain ⟨template, read, unpaired⟩ := Template.exists_of_read
    (show (Template.read (Text.ofCharacters unpairedTemplate)).toOption.map
      (·.splice.characters?) = some none by decide +kernel)
  have accepted : generated [] (.ofText "t") (Utf8.encodeCharacters unpairedTemplate) =
      .ok (Output.render "t" (Utf8.encodeCharacters unpairedTemplate) template) := by
    rw [generated, decoded]
    simp only [read]
    rfl
  refine ⟨_, accepted, ?_⟩
  rw [Output.render, Text.characters?_append, unpaired]
  cases (Output.header "t" (Utf8.encodeCharacters unpairedTemplate)).characters? <;> rfl

/-- The run opens the output, which empties it, and then finds no bytes to write. -/
theorem runOn_unpairedTree :
    runOn unpairedTree (run FileTree.access "diffgen" ["--in", "t", "--out", "u"]) =
      (.error .unencodable, unpairedTree.put ["u"] (.file [])) := by
  obtain ⟨rendered, accepted, unpaired⟩ := exists_generated_unpaired
  have present : unpairedTree.isPresent (.ofText "t") = .ok true := rfl
  have source : unpairedTree.read (.ofText "t") =
      .ok (Utf8.encodeCharacters unpairedTemplate) := rfl
  have there : unpairedTree.isPresent (.ofText "u") = .ok true := rfl
  have existing : unpairedTree.read (.ofText "u") = .ok [111, 108, 100, 10] := rfl
  have parsed : parse ["--in", "t", "--out", "u"] = .ok (.generate ⟨"t", "u", false⟩) := rfl
  have unencodable : Utf8.encode? rendered = none := by rw [Utf8.encode?, unpaired]; rfl
  have decoded : Utf8.decode? [111, 108, 100, 10] = some (Text.ofString "old\n") := rfl
  have old : Text.unifyLineEnds (Text.ofString "old\n") = Text.ofString "old\n" := by decide
  have outdated : (sameDigest "old\n" rendered || Text.ofString "old\n" == rendered) = false := by
    have noDigest : Output.digest? "old\n" = none := by decide
    have different : Text.ofString "old\n" ≠ rendered := by
      rintro rfl
      cases unpaired
    simp [sameDigest, noDigest, different]
  have ensured : (FileTree.access.ensureDirectory (FilePath.ofText "u").parent).run unpairedTree =
      (.ok (), unpairedTree) :=
    FileTree.run_ensureDirectory_of_isDirectory (by decide)
  unfold run
  rw [parsed]
  simp only
  rw [runOn_generate false present source accepted]
  simp only [Bool.false_eq_true, if_false]
  unfold update
  rw [runOn_bind_of_ok _ (runOn_isPresent there)]
  simp only [if_true]
  rw [runOn_bind_of_ok _ (runOn_readText existing decoded), old, outdated]
  simp only [Bool.false_eq_true, if_false]
  unfold writeOutput
  rw [runOn_operation_bind, ensured]
  unfold writeText
  simp only [unencodable]
  rfl

/-- The run on the half surrogate pair is stopped and damages its output and nothing else. -/
theorem damage_of_unpaired_run :
    Fails (.error .unencodable) ∧
      UnchangedBut unpairedTree (unpairedTree.put ["u"] (.file [])) fun location =>
        ∃ request bytes rendered,
          parse ["--in", "t", "--out", "u"] = .ok (.generate request) ∧
          request.check = false ∧ unpairedTree.read (.ofText request.input) = .ok bytes ∧
          generated unpairedTree.workingDirectory (.ofText request.input) bytes = .ok rendered ∧
          Damage unpairedTree (unpairedTree.put ["u"] (.file [])) (.ofText request.output) rendered
            location :=
  have fails : Fails (.error .unencodable) := fun _ impossible => nomatch impossible
  ⟨fails, damage_of_failed_run _ _ "diffgen" _ _ runOn_unpairedTree (.inl fails)⟩

/-- The run on the half surrogate pair is stopped, and the file that was there has lost its bytes. -/
theorem output_emptied_by_failed_run :
    Fails (runOn unpairedTree (run FileTree.access "diffgen" ["--in", "t", "--out", "u"])).1 ∧
      unpairedTree.find? ["u"] = some (.file [111, 108, 100, 10]) ∧
      (runOn unpairedTree (run FileTree.access "diffgen" ["--in", "t", "--out", "u"])).2.find?
        ["u"] = some (.file []) := by
  rw [runOn_unpairedTree]
  refine ⟨?_, rfl, rfl⟩
  intro report impossible
  exact nomatch impossible

end DifferenceTypes.CommandLine
