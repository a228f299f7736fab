import DifferenceTypes.Proofs.Syntax.SourceText
import DifferenceTypes.Proofs.Text.Blanks

/-!
# Blanks between tokens

Where blanks stand between two tokens a single space does as well, since all that a blank does there is
to end the token before it. So a text that holds blanks between its tokens only is read in the same way
once its blanks are collapsed (`Scans.tidy`).

Which tokens a text holds does not depend on where it stands, so long as it starts and ends with a
token and the character behind it ends words (`Spells.eq_of_scans`).
-/

namespace DifferenceTypes.Lexer

/-- The characters of pieces. -/
def spelled (pieces : List Piece) : List Char :=
  pieces.flatMap fun piece => piece.gap ++ piece.written

theorem spelled_cons (piece : Piece) (pieces : List Piece) :
    spelled (piece :: pieces) = piece.gap ++ (piece.written ++ spelled pieces) := by
  simp [spelled]

theorem spelled_append (front behind : List Piece) :
    spelled (front ++ behind) = spelled front ++ spelled behind := by
  simp [spelled]

/-! ### Pieces of a line -/

/-- Pieces are read one after the other in front of other text. -/
def Spells (after : List Char) : List Piece → Prop
  | [] => True
  | piece :: rest => IsGap piece.gap ∧ (∀ other, visible? (piece.written ++ (spelled rest ++ (after ++ other))) =
      some (piece.kind, spelled rest ++ (after ++ other))) ∧ Spells after rest

theorem IsGap.startsToken_head {first : Char} {gap : List Char} (isGap : IsGap (first :: gap)) :
    startsToken first = false := by
  cases isGap with
  | lineEnd | continuation | comment => rfl
  | space blank =>
    simp only [isSpace, Bool.or_eq_true, beq_iff_eq] at blank
    rcases blank with (rfl | rfl) | rfl <;> rfl

/-- What starts with a blank in front of a token starts with a gap that starts with it. -/
theorem IsGap.exists_cons {character second : Char} {left other behind : List Char}
    (isGap : IsGap (character :: left)) (starts : startsToken second = true) {rest : List Char}
    (same : character :: rest = other ++ second :: behind) :
    ∃ others, other = character :: others ∧ rest = others ++ second :: behind := by
  cases other with
  | nil =>
    obtain ⟨rfl, -⟩ := List.cons.inj same
    exact absurd starts (by simp [isGap.startsToken_head])
  | cons head others =>
    obtain ⟨rfl, tails⟩ := List.cons.inj same
    exact ⟨others, rfl, tails⟩

theorem eq_of_oneLine {first second rest behind : List Char} (firstLine : '\n' ∉ first)
    (secondLine : '\n' ∉ second) (same : first ++ '\n' :: rest = second ++ '\n' :: behind) :
    first = second ∧ rest = behind := by
  have fronts := congrArg (List.takeWhile (· != '\n')) same
  rw [takeWhile_of_oneLine firstLine, takeWhile_of_oneLine secondLine] at fronts
  subst fronts
  exact ⟨rfl, (List.cons.inj (List.append_cancel_left same)).2⟩

/-- A gap ends where a token starts. -/
theorem IsGap.eq_of_append {gap other rest behind : List Char} {first second : Char}
    (isGap : IsGap gap) (otherGap : IsGap other) (starts : startsToken first = true)
    (otherStarts : startsToken second = true)
    (same : gap ++ first :: rest = other ++ second :: behind) : gap = other := by
  induction isGap generalizing other with
  | nil =>
    cases other with
    | nil => rfl
    | cons head others =>
      obtain ⟨rfl, -⟩ := List.cons.inj same
      exact absurd starts (by simp [otherGap.startsToken_head])
  | lineEnd later inductionHypothesis =>
    obtain ⟨others, rfl, tails⟩ := (IsGap.lineEnd later).exists_cons otherStarts same
    cases otherGap with
    | lineEnd otherLater => rw [inductionHypothesis otherLater tails]
    | space blank => exact nomatch blank
  | continuation later inductionHypothesis =>
    obtain ⟨others, rfl, tails⟩ := (IsGap.continuation later).exists_cons otherStarts same
    cases otherGap with
    | continuation otherLater => rw [inductionHypothesis otherLater (List.cons.inj tails).2]
    | space blank => exact nomatch blank
  | @comment comment gap oneLine later inductionHypothesis =>
    obtain ⟨others, rfl, tails⟩ := (IsGap.comment oneLine later).exists_cons otherStarts same
    generalize isOther : '#' :: others = other at otherGap
    cases otherGap with
    | @comment otherComment otherLeft otherLine otherLater =>
      obtain ⟨-, rfl⟩ := List.cons.inj isOther
      have split : comment ++ '\n' :: (gap ++ first :: rest) =
          otherComment ++ '\n' :: (otherLeft ++ second :: behind) := by simpa using tails
      obtain ⟨rfl, remaining⟩ := eq_of_oneLine oneLine otherLine split
      have whole := inductionHypothesis otherLater (congrArg ('\n' :: ·) remaining)
      rw [(List.cons.inj whole).2]
    | space blank =>
      obtain ⟨rfl, rfl⟩ := List.cons.inj isOther
      exact nomatch blank
    | nil => exact nomatch isOther
    | lineEnd => exact nomatch (List.cons.inj isOther).1
    | continuation => exact nomatch (List.cons.inj isOther).1
  | @space character gap blank later inductionHypothesis =>
    obtain ⟨others, rfl, tails⟩ := (IsGap.space blank later).exists_cons otherStarts same
    cases otherGap with
    | space otherBlank otherLater => rw [inductionHypothesis otherLater tails]
    | lineEnd => exact nomatch blank
    | continuation => exact nomatch blank
    | comment => exact nomatch blank

/-- A line without tokens is a gap. -/
theorem Scans.isGap {brackets : List Symbol} {text : List Char} (scans : Scans brackets text []) :
    IsGap text := by
  generalize none : ([] : List Piece) = pieces at scans
  have empty {front : List Char} {pieces : List Piece} (none : [] = widen front pieces) : [] = pieces := by
    cases pieces with
    | nil => rfl
    | cons => exact nomatch none
  induction scans with
  | finish => exact .lineEnd .nil
  | newline inside later inductionHypothesis => exact .lineEnd (inductionHypothesis (empty none))
  | continuation later inductionHypothesis => exact .continuation (inductionHypothesis (empty none))
  | comment oneLine later inductionHypothesis => exact .comment oneLine (inductionHypothesis (empty none))
  | space blank later inductionHypothesis => exact .space blank (inductionHypothesis (empty none))
  | token => exact nomatch none

/-- Behind a gap the piece of a scan is the token that starts there. -/
theorem Scans.exists_piece {brackets : List Symbol} {gap rest : List Char} {first : Char}
    {found : List Piece} (scans : Scans brackets (gap ++ first :: rest) found) (isGap : IsGap gap)
    (starts : startsToken first = true) :
    ∃ piece others inner behind, found = piece :: others ∧ piece.gap = gap ∧
      first :: rest = piece.written ++ behind ∧ visible? (first :: rest) = some (piece.kind, behind) ∧
      Scans inner behind others := by
  cases found with
  | nil =>
    have longer : gap ++ first :: rest ++ first :: [] = gap ++ first :: (rest ++ [first]) := by simp
    exact absurd (congrArg List.length (scans.isGap.eq_of_append isGap starts starts longer)) (by simp)
  | cons piece others =>
    obtain ⟨inner, behind, split, pieceGap, read, -, later⟩ := scans.cons
    have here := read []
    rw [List.append_nil] at here
    cases written : piece.written with
    | nil => exact absurd written (ne_nil_of_visible? here)
    | cons head tail =>
      rw [written] at here split
      obtain rfl := isGap.eq_of_append pieceGap starts (startsToken_of_visible? here) split
      have same := List.append_cancel_left split
      rw [List.cons_append] at here same
      exact ⟨piece, others, inner, behind, rfl, rfl, by rw [same, written]; rfl, same ▸ here, later⟩

theorem Scans.eq_nil_of_lineEnd {brackets : List Symbol} {pieces : List Piece}
    (scans : Scans brackets ['\n'] pieces) : pieces = [] := by
  cases pieces with
  | nil => rfl
  | cons piece others =>
    obtain ⟨inner, behind, split, -, read, -, later⟩ := scans.cons
    obtain ⟨body, rfl⟩ := later.exists_append
    have written := List.length_pos_iff.2 (ne_nil_of_visible? (read []))
    have lengths := congrArg List.length split
    simp at lengths
    omega

/-- Pieces are read in front of any character that separates tokens. -/
theorem Spells.before {pieces : List Piece} {stop other : Char} {following : List Char}
    (spells : Spells (stop :: following) pieces) (ends : endsWord stop = true) (stops : separates other = true)
    (after : List Char) : Spells (other :: after) pieces := by
  induction pieces with
  | nil => trivial
  | cons piece rest inductionHypothesis =>
    obtain ⟨isGap, read, later⟩ := spells
    refine ⟨isGap, fun more => ?_, inductionHypothesis later⟩
    have before : visible? ((piece.written ++ spelled rest) ++ stop :: following) =
        some (piece.kind, spelled rest ++ stop :: following) := by simpa using read []
    simpa using visible?_before ends stops following (after ++ more) before

/-- A text is read as the tokens that it holds where it stands, in front of what separates tokens. -/
theorem Spells.exists_of_scans {pieces found : List Piece} {brackets : List Symbol} {other : Char}
    {after : List Char} (spells : Spells (other :: after) pieces)
    (scans : Scans brackets (spelled pieces ++ other :: after) found) :
    ∃ inner others, found = pieces ++ others ∧ Scans inner (other :: after) others := by
  induction pieces generalizing brackets found with
  | nil => exact ⟨brackets, found, rfl, scans⟩
  | cons piece rest inductionHypothesis =>
    obtain ⟨isGap, read, spells⟩ := spells
    obtain ⟨first, tail, isWritten⟩ := List.exists_cons_of_ne_nil (ne_nil_of_visible? (read []))
    have behind : visible? (piece.written ++ (spelled rest ++ other :: after)) =
        some (piece.kind, spelled rest ++ other :: after) := by simpa using read []
    rw [spelled_cons, isWritten, List.append_assoc, List.append_assoc] at scans
    rw [isWritten] at behind
    obtain ⟨⟨gap, written, kind⟩, others, inner, left, rfl, sameGap, split, here, later⟩ :=
      scans.exists_piece isGap (startsToken_of_visible? behind)
    obtain ⟨sameKind, rfl⟩ := Prod.mk.inj (Option.some.inj (behind.symm.trans here))
    have sameWritten : first :: tail = written := List.append_cancel_right split
    obtain rfl : gap = _ := sameGap
    obtain rfl : _ = kind := sameKind
    obtain ⟨innermost, more, rfl, scansMore⟩ := inductionHypothesis spells later
    exact ⟨innermost, more, by rw [← sameWritten, ← isWritten]; rfl, scansMore⟩

/-- The parenthesis behind a text that stands in parentheses. -/
def Piece.closing : Piece :=
  ⟨[], [')'], .symbol .rightParenthesis⟩

/-- A text is read in parentheses as the tokens that it holds where it stands. -/
theorem Spells.eq_of_scans {pieces found : List Piece} {brackets : List Symbol} {stop : Char}
    {following : List Char} (spells : Spells (stop :: following) pieces) (ends : endsWord stop = true)
    (scans : Scans brackets (spelled pieces ++ [')', '\n']) found) : found = pieces ++ [.closing] := by
  have stops : separates ')' = true := by decide
  obtain ⟨inner, others, rfl, behind⟩ := (spells.before ends stops ['\n']).exists_of_scans scans
  obtain ⟨⟨gap, written, kind⟩, more, innermost, left, rfl, isGap, split, read, later⟩ :=
    @Scans.exists_piece _ [] _ _ _ behind .nil rfl
  have closing : visible? [')', '\n'] = some (.symbol .rightParenthesis, ['\n']) := by decide
  obtain ⟨isKind, rfl⟩ := Prod.mk.inj (Option.some.inj (closing.symm.trans read))
  have isWritten : [')'] = written := List.append_cancel_right (split : [')'] ++ ['\n'] = written ++ ['\n'])
  obtain rfl : gap = [] := isGap
  obtain rfl : _ = kind := isKind
  rw [later.eq_nil_of_lineEnd, ← isWritten]
  rfl

/-! ### Collapsed gaps -/

/-- A token with nothing but blanks and line ends before it, that is not changed where blanks are
collapsed. -/
structure Piece.IsClean (piece : Piece) : Prop where
  gap : ∀ character ∈ piece.gap, isSpace character = true ∨ character = '\n'
  written : (Text.ofCharacters piece.written).IsTight

instance : DecidablePred Piece.IsClean := fun piece =>
  decidable_of_iff ((piece.gap.all fun character => isSpace character || character == '\n') = true ∧
    (Text.ofCharacters piece.written).IsTight) ⟨fun ⟨gap, written⟩ => ⟨by simpa using gap, written⟩,
      fun ⟨gap, written⟩ => ⟨by simpa using gap, written⟩⟩

/-- A token with at most one space before it. -/
def Piece.tidy (piece : Piece) : Piece :=
  { piece with gap := if piece.gap = [] then [] else [' '] }

theorem endsWord_of_space {character : Char} (blank : isSpace character = true ∨ character = '\n') :
    endsWord character = true := by
  simp only [isSpace, Bool.or_eq_true, beq_iff_eq] at blank
  rcases blank with ((rfl | rfl) | rfl) | rfl <;> decide

theorem isBlank_of_space {character : Char} (blank : isSpace character = true ∨ character = '\n') :
    (CodePoint.scalar character).isBlank = true := by
  simp only [isSpace, Bool.or_eq_true, beq_iff_eq] at blank
  rcases blank with ((rfl | rfl) | rfl) | rfl <;> decide

/-- Behind a word, collapsing blanks leaves one space of each gap. -/
theorem collapseBehind_spelled {pieces : List Piece} (clean : ∀ piece ∈ pieces, piece.IsClean) :
    Text.collapseBehind .word (Text.ofCharacters (spelled pieces)) =
      Text.ofCharacters (spelled (pieces.map Piece.tidy)) := by
  induction pieces with
  | nil => rfl
  | cons piece rest inductionHypothesis =>
    obtain ⟨gap, written⟩ := clean _ List.mem_cons_self
    have later := inductionHypothesis fun other among => clean other (List.mem_cons_of_mem _ among)
    have blank : ∀ point ∈ Text.ofCharacters piece.gap, point.isBlank = true := by
      intro point among
      obtain ⟨character, inside, rfl⟩ := List.mem_map.1 among
      exact isBlank_of_space (gap character inside)
    rw [spelled_cons, List.map_cons, spelled_cons, Text.ofCharacters_append, Text.ofCharacters_append,
      Text.collapseBehind_append, Text.collapseBehind_append, Text.collapseBehind_of_blank blank,
      Text.Before.behind_of_blank blank, written.collapseBehind, written.behind, later]
    cases isGap : piece.gap with
    | nil => simp [Piece.tidy, isGap, Text.ofCharacters]
    | cons first others => simp [Piece.tidy, isGap, Text.ofCharacters, Text.Before.blank]

/-- Collapsing blanks leaves one space of each gap behind the first token. -/
theorem collapseBlanks_spelled {pieces : List Piece} (clean : ∀ piece ∈ pieces, piece.IsClean)
    (gapless : ∀ piece ∈ pieces.head?, piece.gap = []) :
    (Text.ofCharacters (spelled pieces)).collapseBlanks = Text.ofCharacters (spelled (pieces.map Piece.tidy)) := by
  rw [Text.collapseBlanks_eq]
  cases pieces with
  | nil => rfl
  | cons piece rest =>
    have first : piece.gap = [] := gapless piece rfl
    have tight := (clean _ List.mem_cons_self).written
    have later := collapseBehind_spelled fun other among => clean other (List.mem_cons_of_mem _ among)
    rw [spelled_cons, List.map_cons, spelled_cons, first, List.nil_append, Text.ofCharacters_append,
      Text.collapseBehind_append, tight.collapseBehind, tight.behind, later]
    simp [Piece.tidy, first, Text.ofCharacters]

/-- Up to a character that ends words, pieces are written as they are with collapsed gaps. -/
theorem exists_spelled_tidy {pieces : List Piece} (clean : ∀ piece ∈ pieces, piece.IsClean) :
    ∃ front stop following other after, endsWord stop = true ∧ separates other = true ∧
      spelled pieces ++ ['\n'] = front ++ stop :: following ∧
      spelled (pieces.map Piece.tidy) ++ ['\n'] = front ++ other :: after := by
  induction pieces with
  | nil => exact ⟨[], '\n', [], '\n', [], by decide, by decide, rfl, rfl⟩
  | cons piece rest inductionHypothesis =>
    obtain ⟨front, stop, following, other, after, ends, stops, before, behind⟩ :=
      inductionHypothesis fun other among => clean other (List.mem_cons_of_mem _ among)
    cases isGap : piece.gap with
    | nil =>
      refine ⟨piece.written ++ front, stop, following, other, after, ends, stops, ?_, ?_⟩
      · simp [spelled_cons, isGap, before]
      · simp [spelled_cons, Piece.tidy, isGap, behind]
    | cons first others =>
      have blank := (clean _ List.mem_cons_self).gap first (by simp [isGap])
      refine ⟨[], first, others ++ (piece.written ++ spelled rest) ++ ['\n'], ' ',
        piece.written ++ spelled (rest.map Piece.tidy) ++ ['\n'], endsWord_of_space blank, by decide, ?_, ?_⟩
      · simp [spelled_cons, isGap]
      · simp [spelled_cons, Piece.tidy, isGap]

/-- Blanks between the tokens of a line may be collapsed. -/
theorem Scans.tidy {brackets : List Symbol} {pieces : List Piece}
    (scans : Scans brackets (spelled pieces ++ ['\n']) pieces) (clean : ∀ piece ∈ pieces, piece.IsClean) :
    Scans brackets (spelled (pieces.map Piece.tidy) ++ ['\n']) (pieces.map Piece.tidy) := by
  induction pieces generalizing brackets with
  | nil => exact scans
  | cons piece rest inductionHypothesis =>
    have cleanRest : ∀ other ∈ rest, other.IsClean := fun other among =>
      clean other (List.mem_cons_of_mem _ among)
    obtain ⟨inner, behind, split, -, read, matched, later⟩ := scans.cons
    rw [spelled_cons, List.append_assoc, List.append_assoc] at split
    obtain rfl := List.append_cancel_left (List.append_cancel_left split)
    obtain ⟨front, stop, following, other, after, ends, stops, isBefore, isBehind⟩ :=
      exists_spelled_tidy cleanRest
    have token : Scans brackets (piece.written ++ (spelled (rest.map Piece.tidy) ++ ['\n']))
        (⟨[], piece.written, piece.kind⟩ :: rest.map Piece.tidy) := by
      refine .token (fun more => ?_) matched (inductionHypothesis later cleanRest)
      have found := read []
      rw [isBefore, List.append_nil, ← List.append_assoc] at found
      rw [isBehind, List.append_assoc, List.cons_append, ← List.append_assoc]
      exact visible?_before ends stops following (after ++ more) found
    rw [List.map_cons, spelled_cons]
    cases isGap : piece.gap with
    | nil =>
      have same : piece.tidy = ⟨[], piece.written, piece.kind⟩ := by simp [Piece.tidy, isGap]
      rw [same, List.nil_append, List.append_assoc]
      exact token
    | cons first others =>
      have same : piece.tidy = ⟨[' '], piece.written, piece.kind⟩ := by simp [Piece.tidy, isGap]
      rw [same, List.append_assoc, List.append_assoc]
      exact .space rfl token

end DifferenceTypes.Lexer
