import DifferenceTypes.Proofs.CommandLine.RunOn
import DifferenceTypes.Proofs.Generation.Header
import DifferenceTypes.Proofs.Generation.Unmarked
import DifferenceTypes.Proofs.Text.Utf8

/-!
# A check right after a run

A run that writes a file leaves it with the encoded text, and a check decodes it again and unifies its
line ends before it compares. So the check finds the file up to date exactly if the text that was
written holds no carriage return. The carriage returns of a generated text come from the template's
own line ends and from the label of its file.

The output has to be elsewhere than the input: under `x/../t`, where `x` is still to be made, the
input itself would be replaced.
-/

namespace DifferenceTypes.CommandLine

/-! ### The two runs -/

section Runs

variable {tree later : FileTree} {input output : Text} {bytes : List UInt8} {rendered : Text}

/-- A check of a file that is there compares its text, with its line ends unified. -/
theorem runOn_check {written : List UInt8} {text : Text}
    (present : tree.isPresent (.ofText output) = .ok true)
    (found : tree.read (.ofText output) = .ok written)
    (decoded : Utf8.decode? written = some text) :
    runOn tree (check FileTree.access (.ofText output) rendered) =
      (.ok (if text.unifyLineEnds = rendered then
        success ("up-to-date: " ++ (FilePath.ofText output).toText)
        else failure ((FilePath.ofText output).toText ++ " is out of date (run generator)")),
        tree) := by
  unfold check
  rw [runOn_bind_of_ok _ (runOn_isPresent present)]
  simp only [Bool.not_true, Bool.false_eq_true, if_false]
  rw [runOn_bind_of_ok _ (runOn_readText found decoded)]
  by_cases same : text.unifyLineEnds = rendered
  · simp only [same, bne_self_eq_false, Bool.false_eq_true, if_false, if_true]
    rfl
  · have different : (text.unifyLineEnds != rendered) = true := bne_iff_ne.2 same
    simp only [different, same, if_true, if_false]
    rfl

/-- Where no file is yet, the run writes: the tree grows by directories, and then the encoded text is
put into it. -/
theorem runOn_update_eq_ok {report : Report} (absent : tree.isPresent (.ofText output) = .ok false)
    (ran : runOn tree (update FileTree.access (.ofText output) rendered) = (.ok report, later)) :
    ∃ grown encoded, tree.Grows grown ∧ Utf8.encode? rendered = some encoded ∧
      grown.write (.ofText output) encoded = .ok later := by
  unfold update at ran
  rw [runOn_bind_of_ok _ (runOn_isPresent absent)] at ran
  simp only [Bool.false_eq_true, if_false] at ran
  exact runOn_writeOutput_eq_ok ran

/-- A check of a text that was written finds it up to date if it holds no carriage return. The input
is read as before, so the same text is generated; what was encoded is decoded, and the two texts that
are compared are the generated one and itself with its line ends unified. -/
theorem runOn_check_of_write {grown : FileTree} {encoded : List UInt8} (grows : tree.Grows grown)
    (source : tree.read (.ofText input) = .ok bytes)
    (accepted : generated tree.workingDirectory (.ofText input) bytes = .ok rendered)
    (apart : (FilePath.ofText output).locate tree.workingDirectory ≠
      (FilePath.ofText input).locate tree.workingDirectory)
    (encoding : Utf8.encode? rendered = some encoded)
    (wrote : grown.write (.ofText output) encoded = .ok later) :
    runOn later (generate FileTree.access ⟨input, output, true⟩) =
      (.ok (if CodePoint.scalar '\r' ∈ rendered then
        failure ((FilePath.ofText output).toText ++ " is out of date (run generator)")
        else success ("up-to-date: " ++ (FilePath.ofText output).toText)), later) := by
  have elsewhere : (FilePath.ofText output).locate grown.workingDirectory ≠
      (FilePath.ofText input).locate grown.workingDirectory := by
    rw [grows.workingDirectory]
    exact apart
  obtain ⟨sourceAfter, presentAfter⟩ :=
    FileTree.read_of_write_of_ne wrote (grows.read source) elsewhere
  obtain ⟨found, there⟩ := FileTree.read_of_write wrote
  have acceptedAfter : generated later.workingDirectory (.ofText input) bytes = .ok rendered := by
    rw [FileTree.workingDirectory_of_write wrote, grows.workingDirectory]
    exact accepted
  rw [runOn_generate true presentAfter sourceAfter acceptedAfter]
  simp only [if_true]
  rw [runOn_check there found (Utf8.decode?_of_encode? encoding)]
  by_cases carriage : CodePoint.scalar '\r' ∈ rendered
  · have different : rendered.unifyLineEnds ≠ rendered := fun same =>
      (Text.unifyLineEnds_eq_self_iff rendered).1 same carriage
    simp [different, carriage]
  · have same := (Text.unifyLineEnds_eq_self_iff rendered).2 carriage
    simp [same, carriage]

end Runs

/-- After a run that succeeds in writing a file that was not there, a check from the same directory
reports the file as up to date if the generated text holds no carriage return, and as out of date if
it holds one; it changes nothing. The output's location must not be the input's.

Proof: the first run can only have come to writing, into a tree that has grown by directories. -/
theorem check_after_run (tree written : FileTree) (input output : Text) (bytes : List UInt8)
    (rendered : Text) (report : Report)
    (source : tree.read (.ofText input) = .ok bytes)
    (accepted : generated tree.workingDirectory (.ofText input) bytes = .ok rendered)
    (absent : tree.isPresent (.ofText output) = .ok false)
    (apart : (FilePath.ofText output).locate tree.workingDirectory ≠
      (FilePath.ofText input).locate tree.workingDirectory)
    (ran : runOn tree (generate FileTree.access ⟨input, output, false⟩) = (.ok report, written)) :
    runOn written (generate FileTree.access ⟨input, output, true⟩) =
      (.ok (if CodePoint.scalar '\r' ∈ rendered then
        failure ((FilePath.ofText output).toText ++ " is out of date (run generator)")
        else success ("up-to-date: " ++ (FilePath.ofText output).toText)), written) := by
  obtain ⟨location, followed, entry⟩ := FileTree.read_eq_ok source
  have present := (FileTree.read_of_follow followed entry).2
  rw [runOn_generate false present source accepted] at ran
  simp only [Bool.false_eq_true, if_false] at ran
  obtain ⟨grown, encoded, grows, encoding, wrote⟩ := runOn_update_eq_ok absent ran
  exact runOn_check_of_write grows source accepted apart encoding wrote

/-! ### An empty template with either line end -/

/-- A directory tree with nothing but a template `t` of these bytes at its root, where the working
directory is. -/
def templateTree (bytes : List UInt8) : FileTree :=
  ⟨[], [(["t"], .file bytes)]⟩

/-- The text that is generated for a template `t` without marked classes. -/
def unmarkedOutput (bytes : List UInt8) (text : Text) : Text :=
  Output.header "t" bytes ++ text

theorem exists_encode_unmarkedOutput (bytes : List UInt8) (characters : List Char) :
    ∃ encoded, Utf8.encode? (unmarkedOutput bytes (Text.ofCharacters characters)) =
      some encoded := by
  obtain ⟨opening, header⟩ := Output.exists_header_eq_ofCharacters ['t'] bytes
  have joined : unmarkedOutput bytes (Text.ofCharacters characters) =
      Text.ofCharacters (opening ++ characters) := by
    rw [unmarkedOutput, show ("t" : Text) = Text.ofCharacters ['t'] from rfl, header]
    simp only [Text.ofCharacters, List.map_append]
  rw [joined, Utf8.encode?, Text.characters?_ofCharacters]
  exact ⟨_, rfl⟩

/-- The run writes what it generates beside the template. -/
theorem runOn_update_templateTree {rendered : Text} {encoded : List UInt8} (bytes : List UInt8)
    (encoding : Utf8.encode? rendered = some encoded) :
    runOn (templateTree bytes) (update FileTree.access (.ofText "u") rendered) =
      (.ok (success "generated: u"), (templateTree bytes).put ["u"] (.file encoded)) := by
  have absent : (templateTree bytes).isPresent (.ofText "u") = .ok false := rfl
  have ensured : (FileTree.access.ensureDirectory (FilePath.ofText "u").parent).run
      (templateTree bytes) = (.ok (), templateTree bytes) := rfl
  unfold update
  rw [runOn_bind_of_ok _ (runOn_isPresent absent)]
  simp only [Bool.false_eq_true, if_false]
  unfold writeOutput
  rw [runOn_operation_bind, ensured]
  unfold writeText
  simp only [encoding]
  rfl

/-- The run on a template without marked classes, whatever its line ends, writes its output. -/
theorem runOn_generate_templateTree (bytes : List UInt8) (characters : List Char)
    (decoded : Utf8.decode? bytes = some (Text.ofCharacters characters))
    (read : Template.read (Text.ofCharacters characters) =
      .ok ⟨Text.ofCharacters characters, [], []⟩) :
    generated [] (.ofText "t") bytes =
        .ok (unmarkedOutput bytes (Text.ofCharacters characters)) ∧
      ∃ encoded, Utf8.encode? (unmarkedOutput bytes (Text.ofCharacters characters)) =
          some encoded ∧
        runOn (templateTree bytes) (generate FileTree.access ⟨"t", "u", false⟩) =
          (.ok (success "generated: u"), (templateTree bytes).put ["u"] (.file encoded)) := by
  have passed : (⟨Text.ofCharacters characters, [], []⟩ : Template).splice =
      Text.ofCharacters characters := Template.splice_of_no_blocks rfl
  have accepted : generated [] (.ofText "t") bytes =
      .ok (unmarkedOutput bytes (Text.ofCharacters characters)) := by
    have label : Location.label [] ((FilePath.ofText "t").locate []) = "t" := rfl
    unfold generated
    rw [decoded]
    simp only [read]
    rw [label, Output.render, passed]
    rfl
  obtain ⟨encoded, encoding⟩ := exists_encode_unmarkedOutput bytes characters
  refine ⟨accepted, encoded, encoding, ?_⟩
  have present : (templateTree bytes).isPresent (.ofText "t") = .ok true := rfl
  have source : (templateTree bytes).read (.ofText "t") = .ok bytes := rfl
  rw [runOn_generate false present source accepted]
  exact runOn_update_templateTree bytes encoding

/-- The generated text has the carriage returns of the template's text. -/
theorem carriageReturn_mem_unmarkedOutput_iff (bytes : List UInt8) (text : Text) :
    CodePoint.scalar '\r' ∈ unmarkedOutput bytes text ↔ CodePoint.scalar '\r' ∈ text := by
  have label : CodePoint.scalar '\r' ∉ ("t" : Text) := by decide
  rw [unmarkedOutput, List.mem_append, Output.carriageReturn_mem_header_iff]
  simp [label]

/-- The template of one line feed: the run writes its output, and the check finds it up to date. -/
theorem up_to_date_after_line_feed :
    ∃ encoded, runOn (templateTree [10]) (generate FileTree.access ⟨"t", "u", false⟩) =
        (.ok (success "generated: u"), (templateTree [10]).put ["u"] (.file encoded)) ∧
      runOn ((templateTree [10]).put ["u"] (.file encoded))
          (generate FileTree.access ⟨"t", "u", true⟩) =
        (.ok (success "up-to-date: u"), (templateTree [10]).put ["u"] (.file encoded)) := by
  obtain ⟨accepted, encoded, -, ran⟩ :=
    runOn_generate_templateTree [10] ['\n'] rfl rfl
  have checked := check_after_run (templateTree [10]) _ "t" "u" [10] _ _ rfl accepted rfl
    (by decide) ran
  have clean : CodePoint.scalar '\r' ∉ unmarkedOutput [10] (Text.ofCharacters ['\n']) := by
    rw [carriageReturn_mem_unmarkedOutput_iff]
    decide
  rw [if_neg clean] at checked
  exact ⟨encoded, ran, checked⟩

/-- The template of one carriage return and line feed: the run writes its output and succeeds, and the
check right behind it fails. -/
theorem out_of_date_after_carriage_return :
    ∃ encoded, runOn (templateTree [13, 10]) (generate FileTree.access ⟨"t", "u", false⟩) =
        (.ok (success "generated: u"), (templateTree [13, 10]).put ["u"] (.file encoded)) ∧
      runOn ((templateTree [13, 10]).put ["u"] (.file encoded))
          (generate FileTree.access ⟨"t", "u", true⟩) =
        (.ok (failure "u is out of date (run generator)"),
          (templateTree [13, 10]).put ["u"] (.file encoded)) := by
  obtain ⟨accepted, encoded, encoding, ran⟩ :=
    runOn_generate_templateTree [13, 10] ['\r', '\n'] rfl rfl
  have source : (templateTree [13, 10]).read (.ofText "t") = .ok [13, 10] := rfl
  have wrote : (templateTree [13, 10]).write (.ofText "u") encoded =
      .ok ((templateTree [13, 10]).put ["u"] (.file encoded)) := rfl
  have checked := runOn_check_of_write (.refl (templateTree [13, 10])) source accepted (by decide)
    encoding wrote
  have carriage : CodePoint.scalar '\r' ∈
      unmarkedOutput [13, 10] (Text.ofCharacters ['\r', '\n']) := by
    rw [carriageReturn_mem_unmarkedOutput_iff]
    decide
  rw [if_pos carriage] at checked
  exact ⟨encoded, ran, checked⟩

end DifferenceTypes.CommandLine
