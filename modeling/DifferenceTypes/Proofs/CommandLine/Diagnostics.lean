import DifferenceTypes.Proofs.CommandLine.FailedRun
import DifferenceTypes.Proofs.CommandLine.SkippedRun
import DifferenceTypes.Proofs.Template.Failures

/-!
# Runs that end with a diagnostic

A run should end with code zero, or with code one and a line on the error channel that says why. With an
input that is a file, and an output that is a file or can become one in a directory that is there, only four
things keep it from that (`Stops`): the input or the output that is there is not valid UTF-8, the template
fails in a way that is not reported, or the text to be written has no encoding. For each of them the run is
stopped, and by nothing else (`ending_of_run`).
-/

namespace DifferenceTypes

/-- A run that says nothing on the error channel, with code zero, or something, with code one. -/
def Report.IsDiagnosed (report : Report) : Prop :=
  report.code = 0 ∧ report.errors = [] ∨ report.code = 1 ∧ report.errors ≠ []

namespace CommandLine

theorem isDiagnosed_success (line : Text) : (success line).IsDiagnosed :=
  .inl ⟨rfl, rfl⟩

theorem isDiagnosed_failure (line : Text) : (failure line).IsDiagnosed :=
  .inr ⟨rfl, by simp [failure, Text.ofString, Text.ofCharacters]⟩

/-- A path leads to a file that is not valid UTF-8. -/
def IsUndecodable (tree : FileTree) (path : FilePath) : Prop :=
  ∃ existing, tree.read path = .ok existing ∧ Utf8.decode? existing = none

/-- What stops a run for a request whose input has these bytes. -/
inductive Stops (tree : FileTree) (request : Request) (bytes : List UInt8) : RunError → Prop where
  | undecodableInput (undecodable : Utf8.decode? bytes = none) : Stops tree request bytes .undecodable
  | silent {text : Text} {error : TemplateError} (decoded : Utf8.decode? bytes = some text)
      (failed : Template.read text = .error error) (isSilent : error.isReported = false) :
      Stops tree request bytes (.template error)
  | undecodableOutput {rendered : Text}
      (accepted : generated tree.workingDirectory (.ofText request.input) bytes = .ok rendered)
      (undecodable : IsUndecodable tree (.ofText request.output)) : Stops tree request bytes .undecodable
  | unencodable {rendered : Text}
      (accepted : generated tree.workingDirectory (.ofText request.input) bytes = .ok rendered)
      (writes : request.check = false) (readable : ¬IsUndecodable tree (.ofText request.output))
      (outdated : ¬IsCurrent tree (.ofText request.output) rendered)
      (noBytes : Utf8.encode? rendered = none) : Stops tree request bytes .unencodable

/-- How a run ends for which causes say what stops it: diagnosed where there is no cause, and otherwise with
the error that every cause says. -/
inductive Ends (causes : RunError → Prop) : Except RunError Report → Prop where
  | report {report : Report} (isDiagnosed : report.IsDiagnosed) (uncaused : ∀ error, ¬causes error) :
      Ends causes (.ok report)
  | error {error : RunError} (caused : causes error) (only : ∀ other, causes other → other = error) :
      Ends causes (.error error)

namespace Ends

variable {causes others : RunError → Prop} {result : Except RunError Report}

theorem congr (ends : Ends causes result) (same : ∀ error, causes error ↔ others error) :
    Ends others result := by
  obtain rfl : causes = others := funext fun error => propext (same error)
  exact ends

theorem isDiagnosed {report : Report} (ends : Ends causes (.ok report)) : report.IsDiagnosed := by
  cases ends with
  | report isDiagnosed _ => exact isDiagnosed

theorem error_iff (ends : Ends causes result) (error : RunError) :
    result = .error error ↔ causes error := by
  cases ends with
  | report _ uncaused => exact ⟨nofun, fun caused => absurd caused (uncaused error)⟩
  | error caused only =>
    refine ⟨fun same => ?_, fun other => congrArg Except.error (only error other).symm⟩
    cases same
    exact caused

end Ends

theorem reportOf?_eq_none_iff {path : FilePath} {error : TemplateError} :
    reportOf? path error = none ↔ error.isReported = false := by
  cases error <;> simp [reportOf?, TemplateError.isReported]

/-! ### The output -/

section Output

variable {tree : FileTree} {path : FilePath} {rendered : Text} {location : Location}

theorem runOn_readText_of_undecodable {existing : List UInt8} (found : tree.read path = .ok existing)
    (undecodable : Utf8.decode? existing = none) :
    runOn tree (readText FileTree.access path) = (.error .undecodable, tree) := by
  have looked : (FileTree.access.read path).run tree = (.ok existing, tree) :=
    congrArg (·, tree) found
  unfold readText
  rw [runOn_operation_bind, looked]
  simp only [undecodable]
  rfl

/-- The rest of a run does not come behind a computation that stops it. -/
theorem runOn_bind_of_error {α β : Type} {computation : ExceptT RunError (StateM FileTree) α}
    {error : RunError} {later : FileTree} (next : α → ExceptT RunError (StateM FileTree) β)
    (ran : runOn tree computation = (.error error, later)) :
    runOn tree (computation >>= next) = (.error error, later) := by
  rcases whole : runOn tree (computation >>= next) with ⟨result, last⟩
  rcases runOn_bind_cases whole with ⟨value, middle, first, -⟩ | ⟨own, first, rfl⟩
  · exact nomatch congrArg Prod.fst (ran.symm.trans first)
  · cases ran.symm.trans first
    rfl

variable (followed : tree.follow path = .ok location) (free : tree.find? location ≠ some .directory)

include followed free

/-- The output is a file, with a text or not, or there is nothing. -/
theorem output_cases (rendered : Text) :
    (∃ existing text, tree.read path = .ok existing ∧ tree.isPresent path = .ok true ∧
        Utf8.decode? existing = some text ∧ ¬IsUndecodable tree path) ∨
      (∃ existing, tree.read path = .ok existing ∧ tree.isPresent path = .ok true ∧
        Utf8.decode? existing = none) ∨
      tree.isPresent path = .ok false ∧ ¬IsUndecodable tree path ∧ ¬IsCurrent tree path rendered := by
  cases there : tree.find? location with
  | none =>
    have unread {existing : List UInt8} : tree.read path ≠ .ok existing := by
      intro found
      obtain ⟨other, same, entry⟩ := FileTree.read_eq_ok found
      cases followed.symm.trans same
      cases there.symm.trans entry
    refine .inr (.inr ⟨by simp [FileTree.isPresent, followed, there], ?_, ?_⟩)
    · rintro ⟨existing, found, -⟩
      exact unread found
    · rintro ⟨existing, text, found, -⟩
      exact unread found
  | some entry =>
    cases entry with
    | directory => exact absurd there free
    | file existing =>
      obtain ⟨found, present⟩ := FileTree.read_of_follow followed there
      cases decoded : Utf8.decode? existing with
      | none => exact .inr (.inl ⟨existing, found, present, decoded⟩)
      | some text =>
        refine .inl ⟨existing, text, found, present, decoded, ?_⟩
        rintro ⟨other, foundToo, undecodable⟩
        cases found.symm.trans foundToo
        cases decoded.symm.trans undecodable

/-- A check is diagnosed unless the output is there and cannot be decoded. -/
theorem ends_check :
    Ends (fun error => error = .undecodable ∧ IsUndecodable tree path)
      (runOn tree (check FileTree.access path rendered)).1 := by
  unfold check
  rcases output_cases followed free rendered with
    ⟨existing, text, found, present, decoded, readable⟩ | ⟨existing, found, present, undecodable⟩ |
      ⟨absent, readable, -⟩
  · rw [runOn_bind_of_ok _ (runOn_isPresent present)]
    simp only [Bool.not_true, Bool.false_eq_true, if_false]
    rw [runOn_bind_of_ok _ (runOn_readText found decoded)]
    split
    · exact .report (isDiagnosed_failure _) fun error caused => readable caused.2
    · exact .report (isDiagnosed_success _) fun error caused => readable caused.2
  · rw [runOn_bind_of_ok _ (runOn_isPresent present)]
    simp only [Bool.not_true, Bool.false_eq_true, if_false]
    rw [runOn_bind_of_error _ (runOn_readText_of_undecodable found undecodable)]
    exact .error ⟨rfl, existing, found, undecodable⟩ fun other caused => caused.1
  · rw [runOn_bind_of_ok _ (runOn_isPresent absent)]
    exact .report (isDiagnosed_failure _) fun error caused => readable caused.2

variable (there : tree.isDirectory path.parent = true)

include there

/-- Output is written where it can be, unless its text has no encoding. -/
theorem ends_writeOutput :
    Ends (fun error => error = .unencodable ∧ Utf8.encode? rendered = none)
      (runOn tree (writeOutput FileTree.access path rendered)).1 := by
  have wrote (bytes : List UInt8) : tree.write path bytes = .ok (tree.put location (.file bytes)) := by
    unfold FileTree.write
    rw [followed]
    simp only [bind, Except.bind]
    rfl
  cases encoded : Utf8.encode? rendered with
  | some bytes =>
    rw [runOn_writeOutput_of_write there encoded (wrote bytes)]
    exact .report (isDiagnosed_success _) fun error caused => nomatch caused.2
  | none =>
    have done : (FileTree.access.write path []).run tree = (.ok (), tree.put location (.file [])) := by
      simp [FileTree.access, FileTree.update, wrote []]
      rfl
    have written : runOn tree (writeText FileTree.access path rendered) =
        (.error .unencodable, tree.put location (.file [])) := by
      unfold writeText
      simp only [encoded, Option.getD_none]
      rw [runOn_operation_bind, done]
      rfl
    unfold writeOutput
    rw [runOn_operation_bind, FileTree.run_ensureDirectory_of_isDirectory there]
    dsimp only
    rw [runOn_bind_of_error _ written]
    exact .error ⟨rfl, rfl⟩ fun other caused => caused.1

/-- A run that writes where it has to is diagnosed unless the output cannot be decoded, or has to be written
and the text cannot be encoded. -/
theorem ends_update (carries : (Output.digest? rendered).isSome) :
    Ends (fun error => error = .undecodable ∧ IsUndecodable tree path ∨
        error = .unencodable ∧ ¬IsUndecodable tree path ∧ ¬IsCurrent tree path rendered ∧
          Utf8.encode? rendered = none)
      (runOn tree (update FileTree.access path rendered)).1 := by
  have writes (readable : ¬IsUndecodable tree path) (outdated : ¬IsCurrent tree path rendered) :
      Ends (fun error => error = .undecodable ∧ IsUndecodable tree path ∨
        error = .unencodable ∧ ¬IsUndecodable tree path ∧ ¬IsCurrent tree path rendered ∧
          Utf8.encode? rendered = none)
        (runOn tree (writeOutput FileTree.access path rendered)).1 :=
    (ends_writeOutput followed free there).congr fun error => by simp [readable, outdated]
  rcases output_cases followed free rendered with
    ⟨existing, text, found, present, decoded, readable⟩ | ⟨existing, found, present, undecodable⟩ |
      ⟨absent, readable, outdated⟩
  · by_cases same : Output.digest? text.unifyLineEnds = Output.digest? rendered
    · have current : IsCurrent tree path rendered := ⟨existing, text, found, decoded, same⟩
      rw [runOn_update_of_isCurrent carries current]
      refine .report (isDiagnosed_success _) fun error caused => ?_
      rcases caused with ⟨-, undecodable⟩ | ⟨-, -, outdated, -⟩
      · exact readable undecodable
      · exact outdated current
    · rw [runOn_update_of_not_isCurrent carries found decoded same]
      refine writes readable ?_
      rintro ⟨other, content, foundToo, decodedToo, current⟩
      cases found.symm.trans foundToo
      cases decoded.symm.trans decodedToo
      exact same current
  · have none : IsUndecodable tree path := ⟨existing, found, undecodable⟩
    unfold update
    rw [runOn_bind_of_ok _ (runOn_isPresent present)]
    simp only [if_true]
    rw [runOn_bind_of_error _ (runOn_readText_of_undecodable found undecodable)]
    refine .error (.inl ⟨rfl, none⟩) fun other caused => ?_
    rcases caused with ⟨same, -⟩ | ⟨-, readable, -⟩
    · exact same
    · exact absurd none readable
  · unfold update
    rw [runOn_bind_of_ok _ (runOn_isPresent absent)]
    simp only [Bool.false_eq_true, if_false]
    exact writes readable outdated

end Output

/-! ### A whole run -/

section Run

variable {tree : FileTree} {program : Text} {arguments : List Text} {request : Request} {bytes : List UInt8}
  {location : Location}

/-- A run whose input is a file and whose output is one, or can become one, is diagnosed or stopped for a
cause. -/
theorem ends_generate (source : tree.read (.ofText request.input) = .ok bytes)
    (there : tree.isDirectory (FilePath.ofText request.output).parent = true)
    (followed : tree.follow (.ofText request.output) = .ok location)
    (free : tree.find? location ≠ some .directory) :
    Ends (Stops tree request bytes) (runOn tree (generate FileTree.access request)).1 := by
  obtain ⟨place, followedInput, entry⟩ := FileTree.read_eq_ok source
  have present := (FileTree.read_of_follow followedInput entry).2
  cases accepted : generated tree.workingDirectory (.ofText request.input) bytes with
  | ok rendered =>
    have sameText {other : Text}
        (isOther : generated tree.workingDirectory (.ofText request.input) bytes = .ok other) :
        other = rendered := Except.ok.inj (isOther.symm.trans accepted)
    obtain ⟨text, template, decoded, read, -⟩ := generated_eq_ok accepted
    have readable : Utf8.decode? bytes ≠ none := by simp [decoded]
    have noError {error : TemplateError} {other : Text} (decodedToo : Utf8.decode? bytes = some other)
        (failed : Template.read other = .error error) : False := by
      cases decoded.symm.trans decodedToo
      exact nomatch read.symm.trans failed
    have ran : runOn tree (generate FileTree.access request) =
        runOn tree (if request.check then check FileTree.access (.ofText request.output) rendered
          else update FileTree.access (.ofText request.output) rendered) :=
      runOn_generate request.check present source accepted
    rw [ran]
    cases writes : request.check with
    | true =>
      refine (ends_check followed free).congr fun error => ⟨?_, fun stops => ?_⟩
      · rintro ⟨rfl, undecodable⟩
        exact .undecodableOutput accepted undecodable
      · cases stops with
        | undecodableInput undecodable => exact absurd undecodable readable
        | silent decodedToo failed => exact (noError decodedToo failed).elim
        | undecodableOutput _ undecodable => exact ⟨rfl, undecodable⟩
        | unencodable _ checks => exact nomatch writes.symm.trans checks
    | false =>
      refine (ends_update followed free there (isSome_digest?_of_generated accepted)).congr
        fun error => ⟨?_, fun stops => ?_⟩
      · rintro (⟨rfl, undecodable⟩ | ⟨rfl, readableOutput, outdated, noBytes⟩)
        · exact .undecodableOutput accepted undecodable
        · exact .unencodable accepted writes readableOutput outdated noBytes
      · cases stops with
        | undecodableInput undecodable => exact absurd undecodable readable
        | silent decodedToo failed => exact (noError decodedToo failed).elim
        | undecodableOutput _ undecodable => exact .inl ⟨rfl, undecodable⟩
        | unencodable generates _ readableOutput outdated noBytes =>
          cases sameText generates
          exact .inr ⟨rfl, readableOutput, outdated, noBytes⟩
  | error error =>
    have noText {other : Text} :
        generated tree.workingDirectory (.ofText request.input) bytes ≠ .ok other :=
      fun generates => nomatch generates.symm.trans accepted
    have looked : (FileTree.access.read (.ofText request.input)).run tree = (.ok bytes, tree) :=
      congrArg (·, tree) source
    have placed : FileTree.access.workingDirectory.run tree = (tree.workingDirectory, tree) := rfl
    unfold generate
    rw [runOn_bind_of_ok _ (runOn_isPresent present)]
    simp only [Bool.not_true, Bool.false_eq_true, if_false]
    rw [runOn_operation_bind, looked]
    simp only
    rw [runOn_operation_bind, placed, accepted]
    dsimp only
    unfold generated at accepted
    cases decoded : Utf8.decode? bytes with
    | none =>
      rw [decoded] at accepted
      cases accepted
      refine .error (.undecodableInput decoded) fun other stops => ?_
      cases stops with
      | silent decodedToo => exact nomatch decoded.symm.trans decodedToo
      | undecodableInput | undecodableOutput => rfl
      | unencodable generates => exact (noText generates).elim
    | some text =>
      simp only [decoded] at accepted
      cases read : Template.read text with
      | ok template =>
        rw [read] at accepted
        exact nomatch accepted
      | error fault =>
        rw [read] at accepted
        cases accepted
        dsimp only
        have only {other : RunError} (stops : Stops tree request bytes other) :
            other = .template fault ∧ fault.isReported = false := by
          cases stops with
          | undecodableInput undecodable => exact nomatch decoded.symm.trans undecodable
          | silent decodedToo failed isSilent =>
            cases decoded.symm.trans decodedToo
            cases read.symm.trans failed
            exact ⟨rfl, isSilent⟩
          | undecodableOutput generates => exact (noText generates).elim
          | unencodable generates => exact (noText generates).elim
        cases told : reportOf? (.ofText request.input) fault with
        | none =>
          exact .error (.silent decoded read (reportOf?_eq_none_iff.1 told)) fun other stops => (only stops).1
        | some report =>
          obtain ⟨line, rfl⟩ := eq_failure_of_reportOf? told
          refine .report (isDiagnosed_failure line) fun other stops => ?_
          exact nomatch told.symm.trans (reportOf?_eq_none_iff.2 (only stops).2)

/-- A run for a request whose input is a file, and whose output is a file or nothing in a directory that is
there, ends with code zero, or with code one and something said on the error channel, unless it is stopped;
each cause stops it with its error, and nothing else does. A template that fails without a report holds the
character with number zero, has a marked class with a base that cannot be printed, or has a marker that is
looked up on another line because display lines are numbered otherwise than source lines above its class's
end. -/
theorem ending_of_run (tree : FileTree) (program : Text) (arguments : List Text) {request : Request}
    {bytes : List UInt8} {location : Location} (parsed : parse arguments = .ok (.generate request))
    (source : tree.read (.ofText request.input) = .ok bytes)
    (there : tree.isDirectory (FilePath.ofText request.output).parent = true)
    (followed : tree.follow (.ofText request.output) = .ok location)
    (free : tree.find? location ≠ some .directory) :
    (∀ report, (runOn tree (run FileTree.access program arguments)).1 = .ok report → report.IsDiagnosed) ∧
      (∀ error, (runOn tree (run FileTree.access program arguments)).1 = .error error ↔
        Stops tree request bytes error) ∧
      ∀ text error, Utf8.decode? bytes = some text → Template.read text = .error error →
        error.isReported = false → Template.Unreported text error := by
  have ran : run FileTree.access program arguments = generate FileTree.access request := by
    unfold run
    rw [parsed]
  have ends := ends_generate source there followed free
  rw [ran]
  refine ⟨fun report same => ?_, ends.error_iff, fun text error decoded failed isSilent => ?_⟩
  · rw [same] at ends
    exact ends.isDiagnosed
  · obtain ⟨characters, -, rfl⟩ := Option.map_eq_some_iff.1 decoded
    exact Template.unreported_of_read rfl failed isSilent

end Run

/-- A directory tree with a template of these characters as `t` and nothing else. -/
def treeOf (characters : List Char) : FileTree :=
  ⟨[], [(["t"], .file (Utf8.encodeCharacters characters))]⟩

/-- A template that is no valid syntax does not stop the run. -/
theorem ending_of_unclosed_run :
    ∃ report, (runOn (treeOf ['(']) (run FileTree.access "diffgen" ["--in", "t", "--out", "u"])).1 =
      .ok report ∧ report.IsDiagnosed := by
  have parsed : parse ["--in", "t", "--out", "u"] = .ok (.generate ⟨"t", "u", false⟩) := rfl
  have source : (treeOf ['(']).read (.ofText "t") = .ok (Utf8.encodeCharacters ['(']) := rfl
  have followed : (treeOf ['(']).follow (.ofText "u") = .ok ["u"] := rfl
  obtain ⟨diagnosed, stopped, -⟩ := ending_of_run (treeOf ['(']) "diffgen" ["--in", "t", "--out", "u"]
    parsed source (by decide) followed (by decide)
  have decoded : Utf8.decode? (Utf8.encodeCharacters ['(']) = some (Text.ofCharacters ['(']) :=
    Text.decode?_encodeCharacters _
  have none : (Text.ofCharacters ['(']).asSource.characters?.bind Module.parse? = none :=
    Option.isNone_iff_eq_none.1 (by decide)
  have read : Template.read (Text.ofCharacters ['(']) = .error .invalidSyntax := by
    have parsed : Module.ofText (Text.ofCharacters ['(']) = .error .invalidSyntax := by
      rw [Module.ofText, Text.characters?_ofCharacters]
      simp only [none]
      rfl
    rw [Template.read, parsed]
    rfl
  have fails : generated [] (.ofText "t") (Utf8.encodeCharacters ['(']) =
      .error (.template .invalidSyntax) := by
    rw [generated, decoded]
    simp only [read]
  cases outcome : (runOn (treeOf ['(']) (run FileTree.access "diffgen" ["--in", "t", "--out", "u"])).1 with
  | ok report => exact ⟨report, rfl, diagnosed report outcome⟩
  | error error =>
    cases (stopped error).1 outcome with
    | undecodableInput undecodable => cases decoded.symm.trans undecodable
    | silent decodedToo failed isSilent =>
      cases decoded.symm.trans decodedToo
      cases read.symm.trans failed
      cases isSilent
    | undecodableOutput generates => cases fails.symm.trans generates
    | unencodable generates => cases fails.symm.trans generates

/-- A template that holds the character with number zero stops the run. -/
theorem stopped_by_nullCharacter :
    (runOn (treeOf "x = 1\x00\n".toList) (run FileTree.access "diffgen" ["--in", "t", "--out", "u"])).1 =
      .error (.template .nullCharacter) := by
  have followed : (treeOf "x = 1\x00\n".toList).follow (.ofText "u") = .ok ["u"] := rfl
  have ends : Ends (Stops (treeOf "x = 1\x00\n".toList) ⟨"t", "u", false⟩ _) _ :=
    ends_generate rfl (by decide) followed (by decide)
  have parsed : Module.ofText (Text.ofCharacters "x = 1\x00\n".toList) = .error .nullCharacter := by
    rw [Module.ofText, Text.characters?_ofCharacters]
    rfl
  have read : Template.read (Text.ofCharacters "x = 1\x00\n".toList) = .error .nullCharacter := by
    rw [Template.read, parsed]
    rfl
  exact (ends.error_iff _).2 (.silent (Text.decode?_encodeCharacters _) read rfl)

end CommandLine

end DifferenceTypes
