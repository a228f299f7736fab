import DifferenceTypes.Proofs.CommandLine.CheckAfterRun
import DifferenceTypes.Proofs.Generation.Digest

/-!
# Runs that write nothing

A run leaves the file alone that is there if it carries the digest of the text to be written, or if it
is that text. As every generated text carries a digest, the second never happens without the first:
the digest alone decides. So a file that was changed behind its header, or that was made from the same
template under another path, is left as it is, while a check finds it out of date.

Where the file is one that a run has written for a template under the same path, the digest decides
rightly, as long as no two templates have the same one.
-/

namespace DifferenceTypes.CommandLine

/-- A path leads to a file whose text, with its line ends unified, carries the digest of the text to be
written. -/
def IsCurrent (tree : FileTree) (path : FilePath) (rendered : Text) : Prop :=
  ∃ bytes text, tree.read path = .ok bytes ∧ Utf8.decode? bytes = some text ∧
    Output.digest? text.unifyLineEnds = Output.digest? rendered

/-- What a run says that leaves the file alone. -/
def unchanged (path : FilePath) : Report :=
  success ("unchanged: " ++ path.toText)

/-- What a run says that has written the file. -/
def written (path : FilePath) : Report :=
  success ("generated: " ++ path.toText)

theorem written_ne_unchanged (path : FilePath) : written path ≠ unchanged path := by
  intro same
  have first := congrArg (·.output.head?) same
  exact absurd first (by simp [written, unchanged, success, Text.ofString, Text.ofCharacters])

section Update

variable {tree later : FileTree} {path : FilePath} {rendered : Text}

/-- The decision whether to write comes down to the digest, for a text that carries one. -/
theorem outdated_iff (carries : (Output.digest? rendered).isSome) (existing : Text) :
    (sameDigest existing rendered || existing == rendered) = true ↔
      Output.digest? existing = Output.digest? rendered := by
  obtain ⟨digest, found⟩ := Option.isSome_iff_exists.1 carries
  constructor
  · intro skips
    rcases Bool.or_eq_true_iff.1 skips with same | equal
    · unfold sameDigest at same
      split at same
      · next first second here there => rw [here, there, eq_of_beq same]
      · exact nomatch same
    · rw [eq_of_beq equal]
  · intro same
    simp [sameDigest, same, found]

/-- A file that is current is left alone, and so is everything else. -/
theorem runOn_update_of_isCurrent (carries : (Output.digest? rendered).isSome)
    (current : IsCurrent tree path rendered) :
    runOn tree (update FileTree.access path rendered) = (.ok (unchanged path), tree) := by
  obtain ⟨bytes, text, found, decoded, same⟩ := current
  obtain ⟨location, followed, entry⟩ := FileTree.read_eq_ok found
  have present := (FileTree.read_of_follow followed entry).2
  unfold update
  rw [runOn_bind_of_ok _ (runOn_isPresent present)]
  simp only [if_true]
  rw [runOn_bind_of_ok _ (runOn_readText found decoded), if_pos ((outdated_iff carries _).2 same)]
  rfl

/-- Text that is read is what a file at the path decodes to. -/
theorem runOn_readText_eq_ok {text : Text}
    (ran : runOn tree (readText FileTree.access path) = (.ok text, later)) :
    later = tree ∧ ∃ bytes content, tree.read path = .ok bytes ∧
      Utf8.decode? bytes = some content ∧ text = content.unifyLineEnds := by
  refine ⟨(onlyReads_readText path).eq ran, ?_⟩
  unfold readText at ran
  have looked : (FileTree.access.read path).run tree = (tree.read path, tree) := rfl
  rw [runOn_operation_bind, looked] at ran
  cases found : tree.read path with
  | error error =>
    rw [found] at ran
    exact nomatch congrArg Prod.fst ran
  | ok bytes =>
    rw [found] at ran
    cases decoded : Utf8.decode? bytes with
    | none =>
      simp only [decoded] at ran
      exact nomatch congrArg Prod.fst ran
    | some content =>
      simp only [decoded] at ran
      exact ⟨bytes, content, rfl, decoded, (Except.ok.inj (congrArg Prod.fst ran)).symm⟩

theorem report_of_writeOutput {report : Report}
    (ran : runOn tree (writeOutput FileTree.access path rendered) = (.ok report, later)) :
    report = written path := by
  unfold writeOutput at ran
  rw [runOn_operation_bind] at ran
  rcases ensured : (FileTree.access.ensureDirectory path.parent).run tree with ⟨result, grown⟩
  rw [ensured] at ran
  cases result with
  | error error => exact nomatch congrArg Prod.fst ran
  | ok done =>
    obtain ⟨finished, middle, wrote, last⟩ := runOn_bind_eq_ok ran
    exact (Except.ok.inj (congrArg Prod.fst last)).symm

/-- A run that gets as far as to decide whether to write, and succeeds, leaves a current file alone and
writes in all other cases. -/
theorem runOn_update_cases {report : Report} (carries : (Output.digest? rendered).isSome)
    (ran : runOn tree (update FileTree.access path rendered) = (.ok report, later)) :
    (IsCurrent tree path rendered ∧ report = unchanged path ∧ later = tree) ∨
      report = written path ∧ ∃ grown encoded, tree.Grows grown ∧
        Utf8.encode? rendered = some encoded ∧ grown.write path encoded = .ok later := by
  have writes {middle : FileTree}
      (wrote : runOn middle (writeOutput FileTree.access path rendered) = (.ok report, later)) :
      report = written path ∧ ∃ grown encoded, middle.Grows grown ∧
        Utf8.encode? rendered = some encoded ∧ grown.write path encoded = .ok later :=
    ⟨report_of_writeOutput wrote, runOn_writeOutput_eq_ok wrote⟩
  unfold update at ran
  obtain ⟨found, middle, looked, rest⟩ := runOn_bind_eq_ok ran
  obtain rfl := (onlyReads_isPresent path).eq looked
  cases found with
  | false => exact .inr (writes rest)
  | true =>
    simp only [if_true] at rest
    obtain ⟨existing, behind, read, last⟩ := runOn_bind_eq_ok rest
    obtain ⟨rfl, bytes, content, there, decoded, rfl⟩ := runOn_readText_eq_ok read
    split at last
    · next skips =>
      cases last
      exact .inl ⟨⟨bytes, content, there, decoded, (outdated_iff carries _).1 skips⟩, rfl, rfl⟩
    · exact .inr (writes last)

/-- A file that is not current is written anew. -/
theorem runOn_update_of_not_isCurrent {bytes : List UInt8} {text : Text}
    (carries : (Output.digest? rendered).isSome) (found : tree.read path = .ok bytes)
    (decoded : Utf8.decode? bytes = some text)
    (outdated : Output.digest? text.unifyLineEnds ≠ Output.digest? rendered) :
    runOn tree (update FileTree.access path rendered) =
      runOn tree (writeOutput FileTree.access path rendered) := by
  obtain ⟨location, followed, entry⟩ := FileTree.read_eq_ok found
  have writes : ¬ (sameDigest text.unifyLineEnds rendered || text.unifyLineEnds == rendered) = true :=
    mt (outdated_iff carries _).1 outdated
  unfold update
  rw [runOn_bind_of_ok _ (runOn_isPresent (FileTree.read_of_follow followed entry).2)]
  simp only [if_true]
  rw [runOn_bind_of_ok _ (runOn_readText found decoded), if_neg writes]

/-- Where the directory is there and the text has an encoding, the output is written. -/
theorem runOn_writeOutput_of_write {encoded : List UInt8}
    (there : tree.isDirectory path.parent = true) (encoding : Utf8.encode? rendered = some encoded)
    (wrote : tree.write path encoded = .ok later) :
    runOn tree (writeOutput FileTree.access path rendered) = (.ok (written path), later) := by
  have done : (FileTree.access.write path encoded).run tree = (.ok (), later) := by
    simp [FileTree.access, FileTree.update, wrote]
    rfl
  unfold writeOutput
  rw [runOn_operation_bind, FileTree.run_ensureDirectory_of_isDirectory there]
  unfold writeText
  simp only [encoding, Option.getD_some, bind_assoc]
  rw [runOn_operation_bind, done]
  rfl

end Update

/-! ### What a run generates -/

/-- A generated text is a header and the module behind it. -/
theorem generated_eq_ok {directory : Location} {path : FilePath} {bytes : List UInt8} {rendered : Text}
    (accepted : generated directory path bytes = .ok rendered) :
    ∃ text template, Utf8.decode? bytes = some text ∧ Template.read text = .ok template ∧
      rendered = Output.render (Location.label directory (path.locate directory)) bytes template := by
  unfold generated at accepted
  split at accepted
  · exact nomatch accepted
  · next text decoded =>
    split at accepted
    · exact nomatch accepted
    · next template read => exact ⟨text, template, decoded, read, (Except.ok.inj accepted).symm⟩

theorem isSome_digest?_of_generated {directory : Location} {path : FilePath} {bytes : List UInt8}
    {rendered : Text} (accepted : generated directory path bytes = .ok rendered) :
    (Output.digest? rendered).isSome := by
  obtain ⟨text, template, -, -, rfl⟩ := generated_eq_ok accepted
  exact Output.isSome_digest?_header_append _ _ _

/-- If the template's path has no line end in it, then a generated text carries the digest of the
template, also after its line ends were unified. -/
theorem digest?_of_generated {directory : Location} {path : FilePath} {bytes : List UInt8}
    {rendered : Text} (isOneLine : (path.locate directory).IsOneLine)
    (accepted : generated directory path bytes = .ok rendered) :
    Output.digest? rendered = some (Text.ofCharacters (Output.digest bytes)) ∧
      Output.digest? rendered.unifyLineEnds = some (Text.ofCharacters (Output.digest bytes)) := by
  obtain ⟨text, template, -, -, rfl⟩ := generated_eq_ok accepted
  have noLineEnd : (Location.label directory (path.locate directory)).IsOneLine := isOneLine.label
  refine ⟨Output.digest?_header_append noLineEnd.1 bytes _, ?_⟩
  rw [Output.render, Output.unifyLineEnds_header_append noLineEnd.2]
  exact Output.digest?_header_append noLineEnd.1 bytes _

/-- What a run wrote for a template is current for another one only if the two have the same digest. -/
theorem digest_eq_of_isCurrent {tree : FileTree} {output input : FilePath} {directory : Location}
    {earlier bytes written : List UInt8} {before rendered : Text}
    (isOneLine : (input.locate directory).IsOneLine)
    (wrote : generated directory input earlier = .ok before)
    (encoded : Utf8.encode? before = some written) (there : tree.read output = .ok written)
    (accepted : generated directory input bytes = .ok rendered)
    (current : IsCurrent tree output rendered) : Output.digest earlier = Output.digest bytes := by
  obtain ⟨found, text, read, decoded, same⟩ := current
  cases read.symm.trans there
  cases decoded.symm.trans (Utf8.decode?_of_encode? encoded)
  rw [(digest?_of_generated isOneLine wrote).2, (digest?_of_generated isOneLine accepted).1] at same
  exact List.map_injective_iff.2 (fun _ _ => CodePoint.scalar.inj) (Option.some.inj same)

/-- A run on a template that is accepted writes nothing exactly if the output carries the digest of the
text that it would write, and then it leaves everything as it is. If no line end is in the template's
path, and if the output is what a run has written for a template there, one that is the same if it has
the same digest, then it holds exactly what the run would write.

Proof: a generated text always carries a digest, so the comparison of the whole texts adds nothing to
that of the digests; and where the path has no line end, the digest that is found is the header's. -/
theorem writes_nothing_iff (tree : FileTree) (input output : Text) (bytes : List UInt8)
    (rendered : Text) (source : tree.read (.ofText input) = .ok bytes)
    (accepted : generated tree.workingDirectory (.ofText input) bytes = .ok rendered) :
    ((runOn tree (generate FileTree.access ⟨input, output, false⟩)).1 =
        .ok (unchanged (.ofText output)) ↔ IsCurrent tree (.ofText output) rendered) ∧
      (IsCurrent tree (.ofText output) rendered →
        (runOn tree (generate FileTree.access ⟨input, output, false⟩)).2 = tree) ∧
      ∀ earlier before written,
        ((FilePath.ofText input).locate tree.workingDirectory).IsOneLine →
        generated tree.workingDirectory (.ofText input) earlier = .ok before →
        Utf8.encode? before = some written → tree.read (.ofText output) = .ok written →
        (Output.digest earlier = Output.digest bytes → earlier = bytes) →
        IsCurrent tree (.ofText output) rendered → Utf8.encode? rendered = some written := by
  obtain ⟨location, followed, entry⟩ := FileTree.read_eq_ok source
  have present := (FileTree.read_of_follow followed entry).2
  have carries := isSome_digest?_of_generated accepted
  rw [runOn_generate false present source accepted]
  simp only [Bool.false_eq_true, if_false]
  refine ⟨⟨fun skips => ?_, fun current => ?_⟩, fun current => ?_, ?_⟩
  · rcases ran : runOn tree (update FileTree.access (.ofText output) rendered) with ⟨result, later⟩
    rw [ran] at skips
    cases skips
    rcases runOn_update_cases carries ran with ⟨current, -⟩ | ⟨wrote, -⟩
    · exact current
    · exact absurd wrote.symm (written_ne_unchanged _)
  · rw [runOn_update_of_isCurrent carries current]
  · rw [runOn_update_of_isCurrent carries current]
  · intro earlier before written isOneLine wrote encoded there distinct current
    obtain rfl := distinct (digest_eq_of_isCurrent isOneLine wrote encoded there accepted current)
    cases wrote.symm.trans accepted
    exact encoded

/-- Beside the template of one line feed and the output of a run on it, a run writes nothing. -/
theorem writes_nothing_after_line_feed :
    ∃ encoded, runOn ((templateTree [10]).put ["u"] (.file encoded))
        (generate FileTree.access ⟨"t", "u", false⟩) =
      (.ok (unchanged (.ofText "u")), (templateTree [10]).put ["u"] (.file encoded)) := by
  obtain ⟨accepted, encoded, encoding, -⟩ := runOn_generate_templateTree [10] ['\n'] rfl rfl
  have exactly := writes_nothing_iff ((templateTree [10]).put ["u"] (.file encoded)) "t" "u" [10] _ rfl
    accepted
  have isOneLine : ((FilePath.ofText "t").locate []).IsOneLine := by
    intro name among
    cases List.mem_singleton.1 among
    exact ⟨by decide, by decide⟩
  have current : IsCurrent ((templateTree [10]).put ["u"] (.file encoded)) (.ofText "u")
      (unmarkedOutput [10] (Text.ofCharacters ['\n'])) := by
    refine ⟨encoded, _, rfl, Utf8.decode?_of_encode? encoding, ?_⟩
    have found := digest?_of_generated isOneLine accepted
    exact found.2.trans found.1.symm
  exact ⟨encoded, Prod.ext (exactly.1.2 current) (exactly.2.1 current)⟩

/-- A header alone, without the module behind it, is taken for the output of the template whose digest
it carries. -/
theorem header_alone_is_current :
    ∃ encoded rendered, generated [] (.ofText "t") [10] = .ok rendered ∧
      runOn ((templateTree [10]).put ["u"] (.file encoded))
          (generate FileTree.access ⟨"t", "u", false⟩) =
        (.ok (unchanged (.ofText "u")), (templateTree [10]).put ["u"] (.file encoded)) ∧
      Utf8.encode? rendered ≠ some encoded := by
  obtain ⟨accepted, -, -, -⟩ := runOn_generate_templateTree [10] ['\n'] rfl rfl
  obtain ⟨encoded, encoding⟩ := exists_encode_unmarkedOutput [10] []
  have decoded := Utf8.decode?_of_encode? encoding
  have isOneLine : Text.IsOneLine "t" := ⟨by decide, by decide⟩
  have exactly := writes_nothing_iff ((templateTree [10]).put ["u"] (.file encoded)) "t" "u" [10] _ rfl
    accepted
  have current : IsCurrent ((templateTree [10]).put ["u"] (.file encoded)) (.ofText "u")
      (unmarkedOutput [10] (Text.ofCharacters ['\n'])) := by
    refine ⟨encoded, _, rfl, decoded, ?_⟩
    unfold unmarkedOutput
    rw [Output.unifyLineEnds_header_append isOneLine.2, Output.digest?_header_append isOneLine.1,
      Output.digest?_header_append isOneLine.1]
  refine ⟨encoded, _, accepted, Prod.ext (exactly.1.2 current) (exactly.2.1 current), fun same => ?_⟩
  have texts := decoded.symm.trans (Utf8.decode?_of_encode? same)
  have behind := List.append_cancel_left (Option.some.inj texts)
  exact nomatch behind

end DifferenceTypes.CommandLine
