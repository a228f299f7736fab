import DifferenceTypes.Proofs.Text.Blanks
import DifferenceTypes.Text.Identifier
import DifferenceTypes.Text.Lines

/-!
# Joined lines

Texts without line ends, joined by line feeds, are the lines of the joined text, by the rules of source lines
and by those of display lines alike (`Text.lines_join`). Identifiers are such texts, and so is what is left of
any text when its blanks are collapsed, since every line end is a blank.
-/

namespace DifferenceTypes

/-! ### Line ends -/

theorem CodePoint.endsDisplayLine_of_endsSourceLine {point : CodePoint} (ends : point.endsSourceLine = true) :
    point.endsDisplayLine = true := by
  cases point with
  | surrogate offset => exact nomatch ends
  | scalar character =>
    simp only [endsSourceLine, Bool.or_eq_true, beq_iff_eq] at ends
    rcases ends with rfl | rfl <;> decide

/-- Characters of a kind that none of the ten line ends belongs to end no line. -/
theorem endsDisplayLine_of_kind (isKind : Char → Bool)
    (noLineEnd : ([10, 11, 12, 13, 0x1C, 0x1D, 0x1E, 0x85, 0x2028, 0x2029].all fun number =>
      !isKind (Char.ofNat number)) = true) {character : Char} (ofKind : isKind character = true) :
    (CodePoint.scalar character).endsDisplayLine = false := by
  rw [Bool.eq_false_iff]
  intro ends
  have isOne : character.toNat ∈ [10, 11, 12, 13, 0x1C, 0x1D, 0x1E, 0x85, 0x2028, 0x2029] := by
    simp only [CodePoint.endsDisplayLine, Bool.or_eq_true, Bool.and_eq_true, decide_eq_true_eq, beq_iff_eq] at ends
    simp only [List.mem_cons, List.not_mem_nil, or_false]
    omega
  have other := List.all_eq_true.1 noLineEnd _ isOne
  rw [Char.ofNat_toNat] at other
  exact absurd ofKind (by simpa using other)

namespace Text

/-! ### Texts without line ends -/

/-- Nothing in the text ends a line, for display or in syntax. -/
def IsUnbroken (text : Text) : Prop :=
  ∀ point ∈ text, point.endsDisplayLine = false

instance (text : Text) : Decidable text.IsUnbroken :=
  inferInstanceAs (Decidable (∀ point ∈ text, point.endsDisplayLine = false))

variable {text : Text}

theorem isUnbroken_append {front behind : Text} :
    (front ++ behind).IsUnbroken ↔ front.IsUnbroken ∧ behind.IsUnbroken :=
  List.forall_mem_append

theorem IsUnbroken.endsSourceLine (unbroken : text.IsUnbroken) {point : CodePoint} (among : point ∈ text) :
    point.endsSourceLine = false := by
  rw [Bool.eq_false_iff]
  intro ends
  exact Bool.false_ne_true ((unbroken point among).symm.trans (CodePoint.endsDisplayLine_of_endsSourceLine ends))

/-- Characters of a kind that no line end belongs to make up unbroken texts. -/
theorem isUnbroken_ofCharacters {characters : List Char}
    (unbroken : ∀ character ∈ characters, (CodePoint.scalar character).endsDisplayLine = false) :
    (ofCharacters characters).IsUnbroken := by
  intro point among
  obtain ⟨character, inside, rfl⟩ := List.mem_map.1 among
  exact unbroken character inside

/-- Nothing in any of the texts ends a line. -/
def AreUnbroken (texts : List Text) : Prop :=
  ∀ text ∈ texts, text.IsUnbroken

instance (texts : List Text) : Decidable (AreUnbroken texts) :=
  inferInstanceAs (Decidable (∀ text ∈ texts, text.IsUnbroken))

theorem areUnbroken_append {front behind : List Text} :
    AreUnbroken (front ++ behind) ↔ AreUnbroken front ∧ AreUnbroken behind :=
  List.forall_mem_append

theorem areUnbroken_cons {first : Text} {rest : List Text} :
    AreUnbroken (first :: rest) ↔ first.IsUnbroken ∧ AreUnbroken rest :=
  List.forall_mem_cons

/-- The text is an identifier. -/
def IsName (text : Text) : Prop :=
  ∃ characters, isIdentifier characters = true ∧ text = ofCharacters characters

theorem IsName.isUnbroken (isName : text.IsName) : text.IsUnbroken := by
  obtain ⟨characters, identifier, rfl⟩ := isName
  refine isUnbroken_ofCharacters fun character among =>
    endsDisplayLine_of_kind (fun character => isIdentifierStart character || continuesIdentifier character)
      (by decide +kernel) ?_
  cases characters with
  | nil => exact nomatch among
  | cons first rest =>
    obtain ⟨starts, continues⟩ := (Bool.and_eq_true _ _).mp identifier
    rcases List.mem_cons.1 among with rfl | behind
    · rw [starts, Bool.true_or]
    · rw [List.all_eq_true.1 continues character behind, Bool.or_true]

/-- Every line end is a blank. -/
theorem endsDisplayLine_of_isBlank {point : CodePoint} (solid : point.isBlank = false) :
    point.endsDisplayLine = false := by
  cases point with
  | surrogate offset => rfl
  | scalar character =>
    exact endsDisplayLine_of_kind (fun character => !isBlankCharacter character) (by decide)
      (by rw [show isBlankCharacter character = false from solid]; rfl)

/-- Collapsed blanks are spaces, so no line end is left. -/
theorem isUnbroken_collapseBlanks (text : Text) : text.collapseBlanks.IsUnbroken := by
  intro point among
  rw [collapseBlanks_eq] at among
  cases blank : point.isBlank with
  | false => exact endsDisplayLine_of_isBlank blank
  | true =>
    rw [eq_space_of_mem_collapseBehind among blank]
    rfl

theorem isUnbroken_join {separator : Text} (separates : separator.IsUnbroken) {texts : List Text}
    (unbroken : AreUnbroken texts) : (join separator texts).IsUnbroken := by
  induction texts with
  | nil => exact nofun
  | cons first rest inductionHypothesis =>
    obtain ⟨here, behind⟩ := areUnbroken_cons.1 unbroken
    have later := inductionHypothesis behind
    cases rest with
    | nil => simpa [join] using here
    | cons second others =>
      rw [join, List.intercalate_cons_cons, isUnbroken_append, isUnbroken_append]
      exact ⟨⟨here, separates⟩, later⟩

/-! ### Joined lines -/

/-- Lines as they stand in the text joined from them: each with a line feed behind it, the last without. -/
def withLineFeeds : List Text → List Text
  | [] => []
  | [last] => [last]
  | line :: next :: rest => (line ++ [.scalar '\n']) :: withLineFeeds (next :: rest)

theorem length_withLineFeeds (lines : List Text) : (withLineFeeds lines).length = lines.length := by
  induction lines with
  | nil => rfl
  | cons line rest inductionHypothesis =>
    cases rest with
    | nil => rfl
    | cons next others => simp [withLineFeeds, inductionHypothesis]

/-- A line before others has its line feed. -/
theorem getElem?_withLineFeeds {front behind : List Text} (line : Text) (more : behind ≠ []) :
    (withLineFeeds (front ++ line :: behind))[front.length]? = some (line ++ [.scalar '\n']) := by
  induction front with
  | nil =>
    obtain ⟨next, rest, rfl⟩ := List.exists_cons_of_ne_nil more
    rfl
  | cons first others inductionHypothesis =>
    obtain ⟨next, rest, same⟩ := List.exists_cons_of_ne_nil (List.append_ne_nil_of_right_ne_nil others
      (List.cons_ne_nil line behind))
    rw [List.cons_append, same, withLineFeeds, ← same, List.length_cons, List.getElem?_cons_succ,
      inductionHypothesis]

variable {ends : CodePoint → Bool}

/-- A line without a line end in it ends at the first one behind it. -/
theorem linesEndingAt_lineFeed (isEnd : ends (.scalar '\n') = true) {line : Text}
    (unbroken : ∀ point ∈ line, ends point = false) (rest : Text) :
    linesEndingAt ends (line ++ .scalar '\n' :: rest) = (line ++ [.scalar '\n']) :: linesEndingAt ends rest := by
  induction line with
  | nil => simp [linesEndingAt, isEnd, splitsCarriageReturn]
  | cons point others inductionHypothesis =>
    have here := unbroken point List.mem_cons_self
    have later := inductionHypothesis fun other among => unbroken other (List.mem_cons_of_mem _ among)
    rw [List.cons_append, linesEndingAt, later, here]
    rfl

theorem linesEndingAt_unbroken {line : Text} (unbroken : ∀ point ∈ line, ends point = false)
    (nonempty : line ≠ []) : linesEndingAt ends line = [line] := by
  induction line with
  | nil => exact absurd rfl nonempty
  | cons point others inductionHypothesis =>
    have here := unbroken point List.mem_cons_self
    rw [linesEndingAt, here]
    cases others with
    | nil => rfl
    | cons next rest =>
      rw [inductionHypothesis (fun other among => unbroken other (List.mem_cons_of_mem _ among))
        (List.cons_ne_nil next rest)]
      rfl

/-- The lines of a text that was joined by line feeds are those that it was joined from, if none of them
holds a line end and the last one is not empty. -/
theorem linesEndingAt_join (isEnd : ends (.scalar '\n') = true) {lines : List Text}
    (unbroken : ∀ line ∈ lines, ∀ point ∈ line, ends point = false) (closed : lines.getLast? ≠ some []) :
    linesEndingAt ends (join "\n" lines) = withLineFeeds lines := by
  induction lines with
  | nil => rfl
  | cons line rest inductionHypothesis =>
    have here := unbroken line List.mem_cons_self
    cases rest with
    | nil =>
      have nonempty : line ≠ [] := fun same => closed (by rw [same]; rfl)
      simpa [join, withLineFeeds] using linesEndingAt_unbroken here nonempty
    | cons next others =>
      have later := inductionHypothesis (fun other among => unbroken other (List.mem_cons_of_mem _ among))
        (by rwa [List.getLast?_cons_cons] at closed)
      rw [join, List.intercalate_cons_cons, List.append_assoc]
      exact (linesEndingAt_lineFeed isEnd here _).trans (congrArg _ later)

/-- Lines without line ends in them are the source lines and the display lines of the text joined from
them. -/
theorem lines_join {lines : List Text} (unbroken : AreUnbroken lines)
    (closed : lines.getLast? ≠ some []) :
    (join "\n" lines).sourceLines = withLineFeeds lines ∧ (join "\n" lines).displayLines = withLineFeeds lines :=
  ⟨linesEndingAt_join rfl (fun line among _ inside => (unbroken line among).endsSourceLine inside) closed,
    linesEndingAt_join rfl unbroken closed⟩

end Text

end DifferenceTypes
