import DifferenceTypes.Proofs.Generation.Header
import DifferenceTypes.Proofs.Template.Reading
import DifferenceTypes.Proofs.Text.SourceLines

/-!
# The digest of a generated file

The digest is looked for line by line, and the header has it on its fifth line. None of the four lines
before it can be taken for a line with a digest, and the label is kept on its own line as long as it
holds no line end. So what is found in a generated file is the digest in its header, whatever stands
in the module behind it, and also after the file's line ends were unified.

The label of a file holds a line end only if a name on its way from the root does.
-/

namespace DifferenceTypes

/-- A text that holds no line feed and no carriage return. -/
def Text.IsOneLine (text : Text) : Prop :=
  CodePoint.scalar '\n' ∉ text ∧ CodePoint.scalar '\r' ∉ text

/-- A location with one-line names only. -/
def Location.IsOneLine (location : Location) : Prop :=
  ∀ name ∈ location, Text.IsOneLine name

/-! ### Labels -/

/-- What stands between separators, or in one of them, stands in what is joined by them. -/
theorem Text.mem_join {separator : Text} {texts : List Text} {point : CodePoint}
    (member : point ∈ Text.join separator texts) :
    point ∈ separator ∨ ∃ text ∈ texts, point ∈ text := by
  induction texts with
  | nil => exact nomatch member
  | cons first rest inductionHypothesis =>
    cases rest with
    | nil => exact .inr ⟨first, List.mem_cons_self, by simpa [Text.join] using member⟩
    | cons second others =>
      rw [Text.join, List.intercalate_cons_cons, List.mem_append, List.mem_append] at member
      rcases member with (here | between) | later
      · exact .inr ⟨first, List.mem_cons_self, here⟩
      · exact .inl between
      · rcases inductionHypothesis later with between | ⟨text, among, there⟩
        · exact .inl between
        · exact .inr ⟨text, List.mem_cons_of_mem _ among, there⟩

theorem Location.mem_of_below? {directory location : Location} {parts : List Text}
    (below : below? directory location = some parts) : ∀ name ∈ parts, name ∈ location := by
  induction directory generalizing location with
  | nil =>
    cases below
    exact fun name among => among
  | cons name directory inductionHypothesis =>
    cases location with
    | nil => exact nomatch below
    | cons first rest =>
      unfold below? at below
      split at below
      · exact fun other among => List.mem_cons_of_mem _ (inductionHypothesis below other among)
      · exact nomatch below

/-- Every code point of a label that is no slash and no dot stands in one of the names. -/
theorem Location.mem_label {directory location : Location} {point : CodePoint}
    (member : point ∈ label directory location) :
    point = .scalar '/' ∨ point = .scalar '.' ∨ ∃ name ∈ location, point ∈ name := by
  have joined {names : List Text} (among : ∀ name ∈ names, name ∈ location)
      (there : point ∈ Text.join "/" names) :
      point = .scalar '/' ∨ point = .scalar '.' ∨ ∃ name ∈ location, point ∈ name := by
    rcases Text.mem_join there with between | ⟨name, inside, here⟩
    · exact .inl (List.mem_singleton.1 between)
    · exact .inr (.inr ⟨name, among name inside, here⟩)
  unfold label at member
  split at member
  · next parts below =>
    cases parts with
    | nil => exact .inr (.inl (List.mem_singleton.1 member))
    | cons first rest => exact joined (mem_of_below? below) member
  · rcases List.mem_append.1 member with slash | there
    · exact .inl (List.mem_singleton.1 slash)
    · exact joined (fun name inside => inside) there

theorem Location.IsOneLine.label {directory location : Location} (isOneLine : location.IsOneLine) :
    (Location.label directory location).IsOneLine := by
  constructor
  · intro member
    rcases mem_label member with slash | dot | ⟨name, among, inside⟩
    · exact nomatch slash
    · exact nomatch dot
    · exact (isOneLine name among).1 inside
  · intro member
    rcases mem_label member with slash | dot | ⟨name, among, inside⟩
    · exact nomatch slash
    · exact nomatch dot
    · exact (isOneLine name among).2 inside

/-! ### The lines of a header -/

/-- What is on the two sides of a separator is cut into pieces by itself. -/
theorem Text.piecesBetween_append (separator : CodePoint) (front behind : Text) :
    piecesBetween separator (front ++ separator :: behind) =
      piecesBetween separator front ++ piecesBetween separator behind := by
  have nonempty (text : Text) : piecesBetween separator text ≠ [] := by
    cases text with
    | nil => simp [piecesBetween]
    | cons point rest =>
      unfold piecesBetween
      split
      · simp
      · split <;> simp
  induction front with
  | nil =>
    obtain ⟨piece, others, pieces⟩ := List.exists_cons_of_ne_nil (nonempty behind)
    simp [piecesBetween, pieces]
  | cons point rest inductionHypothesis =>
    obtain ⟨piece, others, pieces⟩ := List.exists_cons_of_ne_nil (nonempty rest)
    rw [List.cons_append, piecesBetween, inductionHypothesis, piecesBetween, pieces]
    by_cases same : (point == separator) = true
    · simp [same]
    · simp [same]

/-- A text without separators is one piece. -/
theorem Text.piecesBetween_of_not_mem {separator : CodePoint} {text : Text}
    (clean : separator ∉ text) : piecesBetween separator text = [text] := by
  induction text with
  | nil => rfl
  | cons point rest inductionHypothesis =>
    rw [List.mem_cons, not_or] at clean
    simp [piecesBetween, inductionHypothesis clean.2, Ne.symm clean.1]

theorem length_hexadecimal (count number : Nat) : (hexadecimal count number).length = count := by
  induction count generalizing number with
  | zero => rfl
  | succ count inductionHypothesis => simp [hexadecimal, inductionHypothesis]

namespace Output

theorem length_digest (bytes : List UInt8) : (digest bytes).length = 64 := by
  simp [digest, Sha256.hexDigest, length_hexadecimal]

/-- The line of a header with the digest is read as the digest. -/
theorem digestOfLine?_digest (bytes : List UInt8) :
    digestOfLine? (digestMark ++ Text.ofCharacters (digest bytes)) =
      some (Text.ofCharacters (digest bytes)) := by
  have marked : digestMark.isPrefixOf (digestMark ++ Text.ofCharacters (digest bytes)) = true :=
    List.isPrefixOf_iff_prefix.2 (List.prefix_append _ _)
  have long : (Text.ofCharacters (digest bytes)).length = 64 := by
    rw [Text.ofCharacters, List.length_map, length_digest]
  have digits : (Text.ofCharacters (digest bytes)).all isDigestDigit = true := by
    rw [Text.ofCharacters, List.all_map, List.all_eq_true]
    exact fun character member => isDigestDigit_of_mem_digest member
  simp [digestOfLine?, marked, long, digits]

/-- Nothing in a digest ends its line. -/
theorem lineFeed_not_mem_digest (bytes : List UInt8) :
    CodePoint.scalar '\n' ∉ digestMark ++ Text.ofCharacters (digest bytes) := by
  rw [List.mem_append, not_or]
  refine ⟨by decide, fun member => ?_⟩
  obtain ⟨character, inside, same⟩ := List.mem_map.1 member
  cases same
  exact absurd (isDigestDigit_of_mem_digest inside) (by decide)

/-- A header is the line with the label between other lines, the digest on a line of its own, and a
blank line. -/
theorem header_append (label : Text) (bytes : List UInt8) (behind : Text) :
    header label bytes ++ behind =
      ("# diffgen-generated" : Text) ++ .scalar '\n' :: (("# source: " : Text) ++ label ++ .scalar '\n' ::
        (("# generator_version: " ++ generatorVersion : Text) ++ .scalar '\n' ::
          (("# format_version: " ++ formatVersion : Text) ++ .scalar '\n' ::
            (digestMark ++ Text.ofCharacters (digest bytes) ++ .scalar '\n' ::
              .scalar '\n' :: behind)))) := by
  simp [header, Text.ofString, Text.ofCharacters]

/-- In every generated file a digest is found. If the label holds a line end, it may be another one
than that of the template. -/
theorem isSome_digest?_header_append (label : Text) (bytes : List UInt8) (behind : Text) :
    (digest? (header label bytes ++ behind)).isSome := by
  unfold digest?
  rw [List.findSome?_isSome_iff]
  refine ⟨digestMark ++ Text.ofCharacters (digest bytes), ?_, by rw [digestOfLine?_digest]; rfl⟩
  simp only [header_append, Text.piecesBetween_append,
    Text.piecesBetween_of_not_mem (lineFeed_not_mem_digest bytes)]
  simp

/-- The digest that is found in a file whose label holds no line feed is the one in its header, whatever
is behind it. -/
theorem digest?_header_append {label : Text} (noLineFeed : CodePoint.scalar '\n' ∉ label)
    (bytes : List UInt8) (behind : Text) :
    digest? (header label bytes ++ behind) = some (Text.ofCharacters (digest bytes)) := by
  have source : CodePoint.scalar '\n' ∉ ("# source: " : Text) ++ label := by
    rw [List.mem_append, not_or]
    exact ⟨by decide, noLineFeed⟩
  have unmarked : digestOfLine? (("# source: " : Text) ++ label) = none := rfl
  unfold digest?
  simp only [header_append, Text.piecesBetween_append, Text.piecesBetween_of_not_mem source,
    Text.piecesBetween_of_not_mem (lineFeed_not_mem_digest bytes)]
  rw [Text.piecesBetween_of_not_mem (by decide), Text.piecesBetween_of_not_mem (by decide),
    Text.piecesBetween_of_not_mem (by decide)]
  rw [List.singleton_append, List.findSome?_cons_of_isNone (by decide), List.singleton_append,
    List.findSome?_cons_of_isNone (by rw [unmarked]; rfl), List.singleton_append,
    List.findSome?_cons_of_isNone (by decide), List.singleton_append,
    List.findSome?_cons_of_isNone (by decide), List.singleton_append, List.findSome?_cons,
    digestOfLine?_digest]

/-- Unified, a file whose label holds no carriage return keeps its header. -/
theorem unifyLineEnds_header_append {label : Text} (noReturn : CodePoint.scalar '\r' ∉ label)
    (bytes : List UInt8) (behind : Text) :
    Text.unifyLineEnds (header label bytes ++ behind) =
      header label bytes ++ behind.unifyLineEnds := by
  have clean : CodePoint.scalar '\r' ∉ header label bytes :=
    fun member => noReturn ((carriageReturn_mem_header_iff label bytes).1 member)
  rw [Text.unifyLineEnds_append fun meets => clean (List.mem_of_getLast? meets.1),
    Text.unifyLineEnds_eq_self clean]

/-- In the file that is generated for a template, the digest of the template's bytes is found if the label
of its path holds no line feed, whatever stands in the template and in the code that is generated. If the
label holds no carriage return either, it is also found after the file's line ends were unified. -/
theorem digest?_of_rendered (directory : Location) (path : FilePath)
    (noLineFeed : CodePoint.scalar '\n' ∉ Location.label directory (path.locate directory))
    (bytes : List UInt8) (template : Template) :
    digest? (render (Location.label directory (path.locate directory)) bytes template) =
        some (Text.ofCharacters (digest bytes)) ∧
      (CodePoint.scalar '\r' ∉ Location.label directory (path.locate directory) →
        digest? (render (Location.label directory (path.locate directory)) bytes template).unifyLineEnds =
          some (Text.ofCharacters (digest bytes))) := by
  refine ⟨digest?_header_append noLineFeed bytes _, fun noReturn => ?_⟩
  rw [render, unifyLineEnds_header_append noReturn]
  exact digest?_header_append noLineFeed bytes _

/-- A digest that a template may state. -/
def statedDigest : Text :=
  "0123456789abcdef0123456789abcdef0123456789abcdef0123456789abcdef"

/-- A template with a line that states a digest, and with one behind a carriage return in a text. -/
def deceptiveTemplate : Text :=
  digestMark ++ statedDigest ++ "\n'''\r" ++ digestMark ++ statedDigest ++ "\n'''\n"

/-- In the file of this template its own digest is found, though the template states another one first. -/
theorem digest?_of_deceptiveTemplate :
    ∃ template bytes, Template.read deceptiveTemplate = .ok template ∧
      Utf8.encode? deceptiveTemplate = some bytes ∧ digest? deceptiveTemplate = some statedDigest ∧
      digest? (render "t" bytes template) = some (Text.ofCharacters (digest bytes)) ∧
      digest? (render "t" bytes template).unifyLineEnds = some (Text.ofCharacters (digest bytes)) := by
  obtain ⟨template, accepted, -⟩ := Template.exists_of_read
    (show (Template.read deceptiveTemplate).toOption.map (fun _ => ()) = some () by decide +kernel)
  obtain ⟨bytes, encoded⟩ := Option.isSome_iff_exists.1
    (show (Utf8.encode? deceptiveTemplate).isSome = true by decide +kernel)
  have isLabel : Location.label [] (FilePath.locate [] (.ofText "t")) = "t" := by decide
  obtain ⟨found, unified⟩ := digest?_of_rendered [] (.ofText "t") (by decide) bytes template
  rw [isLabel] at found unified
  exact ⟨template, bytes, accepted, encoded, by decide +kernel, found, unified (by decide)⟩

end Output

end DifferenceTypes
