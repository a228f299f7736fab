import DifferenceTypes.Proofs.Syntax.Tokens
import Mathlib.Data.List.TakeWhile

/-!
# Scans of lines

`Scans` says how the tokens of a line are written: each is a piece of text behind a gap of blanks,
comments and line ends that do not end the line. The lexer reads a line exactly as a scan says,
whatever follows it (`Scans.tokensWithin?`, `exists_scans_of_tokensWithin?`); so what is known of a
line is known of its own characters.

A scan can be cut behind the source line of its last token (`Scans.cut`). This is what happens to a
line when other lines are put in behind that source line.
-/

namespace DifferenceTypes.Lexer

/-- A token as it is written: what stands between it and the token before it, its characters and its
kind. -/
structure Piece where
  gap : List Char
  written : List Char
  kind : TokenKind

/-- Pieces with more in front of the first one. -/
def widen (front : List Char) : List Piece → List Piece
  | [] => []
  | piece :: rest => { piece with gap := front ++ piece.gap } :: rest

/-- The tokens of pieces, the first of which is read from the position on. -/
def locate (position : Position) : List Piece → List Token
  | [] => []
  | piece :: rest =>
    let start := advanceAll position piece.gap
    let stop := advanceAll start piece.written
    ⟨piece.kind, ⟨start, stop⟩⟩ :: locate stop rest

/-- How the characters of a line are read, its end among them, given the brackets that are open. -/
inductive Scans : List Symbol → List Char → List Piece → Prop
  | finish : Scans [] ['\n'] []
  | newline {brackets : List Symbol} {text : List Char} {pieces : List Piece}
      (inside : brackets ≠ []) (later : Scans brackets text pieces) :
      Scans brackets ('\n' :: text) (widen ['\n'] pieces)
  | continuation {brackets : List Symbol} {text : List Char} {pieces : List Piece}
      (later : Scans brackets text pieces) :
      Scans brackets ('\\' :: '\n' :: text) (widen ['\\', '\n'] pieces)
  | comment {brackets : List Symbol} {comment text : List Char} {pieces : List Piece}
      (oneLine : '\n' ∉ comment) (later : Scans brackets ('\n' :: text) pieces) :
      Scans brackets ('#' :: comment ++ '\n' :: text) (widen ('#' :: comment) pieces)
  | space {brackets : List Symbol} {first : Char} {text : List Char} {pieces : List Piece}
      (blank : isSpace first = true) (later : Scans brackets text pieces) :
      Scans brackets (first :: text) (widen [first] pieces)
  | token {brackets inner : List Symbol} {kind : TokenKind} {written text : List Char}
      {pieces : List Piece}
      (read : ∀ rest, visible? (written ++ (text ++ rest)) = some (kind, text ++ rest))
      (matched : matchBracket kind brackets = some inner) (later : Scans inner text pieces) :
      Scans brackets (written ++ text) (⟨[], written, kind⟩ :: pieces)

theorem advanceAll_append (position : Position) (front behind : List Char) :
    advanceAll position (front ++ behind) = advanceAll (advanceAll position front) behind :=
  List.foldl_append

theorem locate_widen (position : Position) (front : List Char) (pieces : List Piece) :
    locate position (widen front pieces) = locate (advanceAll position front) pieces := by
  cases pieces with
  | nil => rfl
  | cons piece rest => simp only [widen, locate, advanceAll_append]

/-- Whether a token may start with the character: it is no blank, backslash, number sign or line
end. -/
def startsToken (character : Char) : Bool :=
  !([' ', '\t', '\x0c', '\n', '\\', '#'].elem character)

/-- No token starts with a blank, a backslash, a number sign or a line end. -/
theorem startsToken_of_visible? {first : Char} {rest : List Char} {found : TokenKind × List Char}
    (read : visible? (first :: rest) = some found) : startsToken first = true := by
  by_contra other
  simp only [startsToken, List.elem_eq_mem, List.mem_cons, List.not_mem_nil, or_false,
    Bool.not_eq_true', decide_eq_false_iff_not, not_not] at other
  rcases other with rfl | rfl | rfl | rfl | rfl | rfl <;> exact nomatch read

/-- The text of a line ends with a line end. -/
theorem Scans.exists_append {brackets : List Symbol} {text : List Char} {pieces : List Piece}
    (scans : Scans brackets text pieces) : ∃ body, text = body ++ ['\n'] := by
  induction scans with
  | finish => exact ⟨[], rfl⟩
  | newline _ _ inductionHypothesis =>
    obtain ⟨body, rfl⟩ := inductionHypothesis
    exact ⟨'\n' :: body, rfl⟩
  | continuation _ inductionHypothesis =>
    obtain ⟨body, rfl⟩ := inductionHypothesis
    exact ⟨'\\' :: '\n' :: body, rfl⟩
  | @comment _ comment _ _ _ _ inductionHypothesis =>
    obtain ⟨body, split⟩ := inductionHypothesis
    exact ⟨'#' :: comment ++ body, by rw [split, List.append_assoc]⟩
  | @space _ first _ _ _ _ inductionHypothesis =>
    obtain ⟨body, rfl⟩ := inductionHypothesis
    exact ⟨first :: body, rfl⟩
  | @token _ _ _ written _ _ _ _ _ inductionHypothesis =>
    obtain ⟨body, rfl⟩ := inductionHypothesis
    exact ⟨written ++ body, by rw [List.append_assoc]⟩

/-- The characters of a comment are those before the line end. -/
theorem takeWhile_of_oneLine {comment : List Char} (oneLine : '\n' ∉ comment) (rest : List Char) :
    (comment ++ '\n' :: rest).takeWhile (· != '\n') = comment := by
  rw [takeWhile_append_of_fails (by simp), List.takeWhile_eq_self_iff]
  exact fun character member => bne_iff_ne.2 fun same => oneLine (same ▸ member)

theorem dropWhile_of_oneLine {comment : List Char} (oneLine : '\n' ∉ comment) (rest : List Char) :
    (comment ++ '\n' :: rest).dropWhile (· != '\n') = '\n' :: rest := by
  have passes : ∀ character ∈ comment, (character != '\n') = true :=
    fun character member => bne_iff_ne.2 fun same => oneLine (same ▸ member)
  rw [dropWhile_append_of_fails (by simp), List.dropWhile_eq_nil_iff.2 passes, List.nil_append]

/-- How many lines further down a position is behind some characters. -/
theorem line_advanceAll_eq (position : Position) (characters : List Char) :
    (advanceAll position characters).line = position.line + characters.count '\n' := by
  induction characters generalizing position with
  | nil => rfl
  | cons first rest inductionHypothesis =>
    have step : (advance position first).line = position.line + if first == '\n' then 1 else 0 := by
      unfold advance
      split <;> rfl
    have later := inductionHypothesis (advance position first)
    rw [step] at later
    rw [List.count_cons, Nat.add_comm (rest.count '\n'), ← Nat.add_assoc]
    exact later

/-- Characters without a line end stay on their line. -/
theorem line_advanceAll {characters : List Char} (oneLine : '\n' ∉ characters)
    (position : Position) : (advanceAll position characters).line = position.line := by
  rw [line_advanceAll_eq, List.count_eq_zero_of_not_mem oneLine, Nat.add_zero]

/-! ### One step of the lexer -/

section Steps

variable (fuel : Nat) (position : Position) (brackets : List Symbol)

theorem tokensWithin?_lineEnd (rest : List Char) :
    tokensWithin? (fuel + 1) position brackets ('\n' :: rest) =
      if brackets.isEmpty then some ([], position.line, rest)
      else tokensWithin? fuel ⟨position.line + 1, 0⟩ brackets rest :=
  rfl

theorem tokensWithin?_continuation (rest : List Char) :
    tokensWithin? (fuel + 1) position brackets ('\\' :: '\n' :: rest) =
      tokensWithin? fuel ⟨position.line + 1, 0⟩ brackets rest :=
  rfl

theorem tokensWithin?_comment {comment : List Char} (oneLine : '\n' ∉ comment) (rest : List Char) :
    tokensWithin? (fuel + 1) position brackets ('#' :: (comment ++ '\n' :: rest)) =
      tokensWithin? fuel (advanceAll position ('#' :: comment)) brackets ('\n' :: rest) := by
  rw [tokensWithin?]
  simp only [takeWhile_of_oneLine oneLine, List.drop_left]

theorem tokensWithin?_space {first : Char} (blank : isSpace first = true) (rest : List Char) :
    tokensWithin? (fuel + 1) position brackets (first :: rest) =
      tokensWithin? fuel (advance position first) brackets rest := by
  simp only [isSpace, Bool.or_eq_true, beq_iff_eq] at blank
  rcases blank with (rfl | rfl) | rfl <;> rfl

/-- A token with what follows it, where a token is next. -/
theorem tokensWithin?_token {written after : List Char} {kind : TokenKind}
    (read : visible? (written ++ after) = some (kind, after)) :
    tokensWithin? (fuel + 1) position brackets (written ++ after) =
      (matchBracket kind brackets).bind fun inner =>
        (tokensWithin? fuel (advanceAll position written) inner after).map
          fun (tokens, last, remaining) =>
            (⟨kind, ⟨position, advanceAll position written⟩⟩ :: tokens, last, remaining) := by
  have taken : (written ++ after).take ((written ++ after).length - after.length) = written := by
    simp
  cases split : written ++ after with
  | nil =>
    rw [split] at read
    exact nomatch read
  | cons first rest =>
    rw [split] at read taken
    have starts := startsToken_of_visible? read
    simp only [startsToken, List.elem_eq_mem, List.mem_cons, List.not_mem_nil, or_false,
      Bool.not_eq_true', decide_eq_false_iff_not, not_or] at starts
    obtain ⟨noSpace, noTab, noFeed, noLineEnd, noBackslash, noSign⟩ := starts
    have noBlank : isSpace first = false := by simp [isSpace, noSpace, noTab, noFeed]
    rw [tokensWithin?.eq_6 _ _ _ _ _ noLineEnd (fun _ same _ => noBackslash same) noSign,
      if_neg (by simp [noBlank]), read]
    simp only [Option.bind_eq_bind, Option.bind_some, taken, Option.map_eq_bind]
    rfl

end Steps

/-- What the scan of a line reads, the lexer reads, whatever follows the line. -/
theorem Scans.tokensWithin? {brackets : List Symbol} {text : List Char} {pieces : List Piece}
    (scans : Scans brackets text pieces) {fuel : Nat} (enough : text.length ≤ fuel)
    (position : Position) (rest : List Char) :
    Lexer.tokensWithin? fuel position brackets (text ++ rest) =
      some (locate position pieces, (advanceAll position text).line - 1, rest) := by
  induction scans generalizing fuel position with
  | finish =>
    obtain ⟨fuel, rfl⟩ := Nat.exists_eq_add_of_le' enough
    rfl
  | newline inside later inductionHypothesis =>
    obtain ⟨fuel, rfl⟩ := Nat.exists_eq_add_of_le' (Nat.le_trans (Nat.succ_pos _) enough)
    have open_ : ¬ (List.isEmpty _ = true) := fun empty => inside (List.isEmpty_iff.1 empty)
    rw [List.cons_append, tokensWithin?_lineEnd, if_neg open_,
      inductionHypothesis (Nat.le_of_succ_le_succ enough), locate_widen]
    rfl
  | continuation later inductionHypothesis =>
    obtain ⟨fuel, rfl⟩ := Nat.exists_eq_add_of_le' (Nat.le_trans (Nat.succ_pos _) enough)
    rw [List.cons_append, List.cons_append, tokensWithin?_continuation,
      inductionHypothesis (by simp at enough; omega), locate_widen]
    rfl
  | comment oneLine later inductionHypothesis =>
    obtain ⟨fuel, rfl⟩ := Nat.exists_eq_add_of_le' (Nat.le_trans (Nat.succ_pos _) enough)
    rw [advanceAll_append, List.cons_append, List.cons_append, List.append_assoc, List.cons_append,
      tokensWithin?_comment _ _ _ oneLine, ← List.cons_append,
      inductionHypothesis (by simp at enough ⊢; omega), locate_widen]
  | space blank later inductionHypothesis =>
    obtain ⟨fuel, rfl⟩ := Nat.exists_eq_add_of_le' (Nat.le_trans (Nat.succ_pos _) enough)
    rw [List.cons_append, tokensWithin?_space _ _ _ blank,
      inductionHypothesis (Nat.le_of_succ_le_succ enough), locate_widen]
    rfl
  | @token _ _ _ written text _ read matched later inductionHypothesis =>
    have nonempty : written ≠ [] := ne_nil_of_visible? (read rest)
    have positive := List.length_pos_iff.2 nonempty
    rw [List.length_append] at enough
    obtain ⟨fuel, rfl⟩ := Nat.exists_eq_add_of_le' (show 1 ≤ fuel by omega)
    rw [List.append_assoc, tokensWithin?_token _ _ _ (read rest), matched, Option.bind_some,
      inductionHypothesis (by omega), advanceAll_append]
    rfl

/-- What the lexer reads up to the end of a line, a scan of the line's own characters reads. -/
theorem exists_scans_of_tokensWithin? {fuel : Nat} {position : Position} {brackets : List Symbol}
    {characters rest : List Char} {tokens : List Token} {last : Nat}
    (read : tokensWithin? fuel position brackets characters = some (tokens, last, rest)) :
    ∃ text pieces, characters = text ++ rest ∧ Scans brackets text pieces := by
  induction fuel generalizing position brackets characters tokens last with
  | zero => exact nomatch read
  | succ fuel inductionHypothesis =>
    match characters with
    | [] => exact nomatch read
    | first :: others =>
      by_cases lineEnd : first = '\n'
      · subst lineEnd
        rw [tokensWithin?_lineEnd] at read
        by_cases inside : brackets.isEmpty = true
        · rw [if_pos inside] at read
          obtain ⟨rfl, rfl, rfl⟩ := by simpa using read
          rw [List.isEmpty_iff.1 inside]
          exact ⟨['\n'], [], rfl, .finish⟩
        · rw [if_neg inside] at read
          obtain ⟨text, pieces, rfl, scans⟩ := inductionHypothesis read
          exact ⟨'\n' :: text, _, rfl, .newline (fun empty => inside (by simp [empty])) scans⟩
      · by_cases continued : first = '\\' ∧ ∃ behind, others = '\n' :: behind
        · obtain ⟨rfl, behind, rfl⟩ := continued
          rw [tokensWithin?_continuation] at read
          obtain ⟨text, pieces, rfl, scans⟩ := inductionHypothesis read
          exact ⟨'\\' :: '\n' :: text, _, rfl, .continuation scans⟩
        · by_cases comment : first = '#'
          · subst comment
            by_cases ends : '\n' ∈ others
            · obtain ⟨comment, behind, rfl, oneLine⟩ := List.eq_append_cons_of_mem ends
              rw [tokensWithin?_comment _ _ _ oneLine] at read
              obtain ⟨text, pieces, split, scans⟩ := inductionHypothesis read
              cases text with
              | nil => exact absurd scans.exists_append (by simp)
              | cons first text =>
                obtain ⟨rfl, rfl⟩ := List.cons.inj split
                exact ⟨'#' :: comment ++ '\n' :: text, _, by simp, .comment oneLine scans⟩
            · have whole : others.takeWhile (· != '\n') = others :=
                List.takeWhile_eq_self_iff.2 fun character member =>
                  bne_iff_ne.2 fun same => ends (same ▸ member)
              rw [tokensWithin?.eq_5, whole, List.drop_length] at read
              cases fuel <;> exact nomatch read
          · by_cases blank : isSpace first = true
            · rw [tokensWithin?_space _ _ _ blank] at read
              obtain ⟨text, pieces, rfl, scans⟩ := inductionHypothesis read
              exact ⟨first :: text, _, rfl, .space blank scans⟩
            · rw [tokensWithin?.eq_6 _ _ _ _ _ lineEnd
                (fun behind same split => continued ⟨same, behind, split⟩) comment, if_neg blank]
                at read
              obtain ⟨⟨kind, after⟩, token, readBehind⟩ := Option.bind_eq_some_iff.1 read
              obtain ⟨inner, matched, readTokens⟩ := Option.bind_eq_some_iff.1 readBehind
              obtain ⟨⟨others, last, remaining⟩, readLater, same⟩ :=
                Option.bind_eq_some_iff.1 readTokens
              obtain ⟨-, -, rfl⟩ := by simpa using same
              obtain ⟨text, pieces, rfl, scans⟩ := inductionHypothesis readLater
              obtain ⟨written, -, split⟩ := exists_append_of_visible? token
              obtain ⟨body, rfl⟩ := scans.exists_append
              refine ⟨written ++ (body ++ ['\n']), ⟨[], written, kind⟩ :: pieces, by rw [split]; simp, ?_⟩
              refine .token (fun other => ?_) matched scans
              have found : visible? ((written ++ body) ++ '\n' :: remaining) =
                  some (kind, body ++ '\n' :: remaining) := by
                simpa [split] using token
              simpa using visible?_before (by decide) (by decide) remaining other found

/-! ### Gaps and tokens of a scan -/

/-- What may stand between two tokens of a line. -/
inductive IsGap : List Char → Prop
  | nil : IsGap []
  | lineEnd {gap : List Char} (later : IsGap gap) : IsGap ('\n' :: gap)
  | continuation {gap : List Char} (later : IsGap gap) : IsGap ('\\' :: '\n' :: gap)
  | comment {comment gap : List Char} (oneLine : '\n' ∉ comment) (later : IsGap ('\n' :: gap)) :
      IsGap ('#' :: comment ++ '\n' :: gap)
  | space {first : Char} {gap : List Char} (blank : isSpace first = true) (later : IsGap gap) :
      IsGap (first :: gap)

/-- The first piece of a scan: a gap, then a token, then what the rest of the scan reads. -/
theorem Scans.cons {brackets : List Symbol} {text : List Char} {piece : Piece} {pieces : List Piece}
    (scans : Scans brackets text (piece :: pieces)) :
    ∃ inner behind, text = piece.gap ++ (piece.written ++ behind) ∧ IsGap piece.gap ∧
      (∀ rest, visible? (piece.written ++ (behind ++ rest)) = some (piece.kind, behind ++ rest)) ∧
      matchBracket piece.kind brackets = some inner ∧ Scans inner behind pieces := by
  generalize same : piece :: pieces = all at scans
  induction scans generalizing piece with
  | finish => exact nomatch same
  | @newline brackets text found inside later inductionHypothesis =>
    cases found with
    | nil => exact nomatch same
    | cons first others =>
      obtain ⟨rfl, rfl⟩ := List.cons.inj same
      obtain ⟨inner, behind, rfl, gap, read, matched, scans⟩ := inductionHypothesis rfl
      exact ⟨inner, behind, rfl, .lineEnd gap, read, matched, scans⟩
  | @continuation brackets text found later inductionHypothesis =>
    cases found with
    | nil => exact nomatch same
    | cons first others =>
      obtain ⟨rfl, rfl⟩ := List.cons.inj same
      obtain ⟨inner, behind, rfl, gap, read, matched, scans⟩ := inductionHypothesis rfl
      exact ⟨inner, behind, rfl, .continuation gap, read, matched, scans⟩
  | @comment brackets comment text found oneLine later inductionHypothesis =>
    cases found with
    | nil => exact nomatch same
    | cons first others =>
      obtain ⟨rfl, rfl⟩ := List.cons.inj same
      obtain ⟨inner, behind, split, gap, read, matched, scans⟩ := inductionHypothesis rfl
      obtain ⟨lineEnd, written, kind⟩ := first
      cases lineEnd with
      | nil =>
        have starts := read []
        rw [List.append_nil, ← List.nil_append (written ++ behind), ← split] at starts
        exact absurd (startsToken_of_visible? starts) (by decide)
      | cons first others =>
        obtain ⟨rfl, rfl⟩ := List.cons.inj split
        exact ⟨inner, behind, by simp, .comment oneLine gap, read, matched, scans⟩
  | @space brackets blank text found isBlank later inductionHypothesis =>
    cases found with
    | nil => exact nomatch same
    | cons first others =>
      obtain ⟨rfl, rfl⟩ := List.cons.inj same
      obtain ⟨inner, behind, rfl, gap, read, matched, scans⟩ := inductionHypothesis rfl
      exact ⟨inner, behind, rfl, .space isBlank gap, read, matched, scans⟩
  | @token brackets inner kind written text found read matched later inductionHypothesis =>
    obtain ⟨rfl, rfl⟩ := List.cons.inj same
    exact ⟨inner, text, rfl, .nil, read, matched, later⟩

/-- Brackets that are open are closed by tokens. -/
theorem Scans.brackets_eq_nil {brackets : List Symbol} {text : List Char}
    (scans : Scans brackets text []) : brackets = [] := by
  generalize same : ([] : List Piece) = pieces at scans
  induction scans with
  | finish => rfl
  | @newline _ _ found _ _ inductionHypothesis =>
    cases found with
    | nil => exact inductionHypothesis rfl
    | cons => exact nomatch same
  | @continuation _ _ found _ inductionHypothesis =>
    cases found with
    | nil => exact inductionHypothesis rfl
    | cons => exact nomatch same
  | @comment _ _ _ found _ _ inductionHypothesis =>
    cases found with
    | nil => exact inductionHypothesis rfl
    | cons => exact nomatch same
  | @space _ _ _ found _ _ inductionHypothesis =>
    cases found with
    | nil => exact inductionHypothesis rfl
    | cons => exact nomatch same
  | token => exact nomatch same

theorem line_le_advanceAll (position : Position) (characters : List Char) :
    position.line ≤ (advanceAll position characters).line := by
  rw [line_advanceAll_eq]
  exact Nat.le_add_right _ _

/-- The tokens of a scan are on the lines of its text. -/
theorem Scans.line_le {brackets : List Symbol} {text : List Char} {pieces : List Piece}
    (scans : Scans brackets text pieces) (position : Position) :
    ∀ token ∈ locate position pieces, position.line ≤ token.span.start.line ∧
      token.span.start.line ≤ token.span.stop.line ∧
      token.span.stop.line < (advanceAll position text).line := by
  induction pieces generalizing brackets text position with
  | nil => exact nofun
  | cons piece rest inductionHypothesis =>
    obtain ⟨inner, behind, rfl, -, -, -, later⟩ := scans.cons
    have start := line_le_advanceAll position piece.gap
    have stop := line_le_advanceAll (advanceAll position piece.gap) piece.written
    obtain ⟨body, ended⟩ := later.exists_append
    have below := line_le_advanceAll
      (advanceAll (advanceAll position piece.gap) piece.written) body
    have above : (advanceAll position (piece.gap ++ (piece.written ++ behind))).line =
        (advanceAll (advanceAll (advanceAll position piece.gap) piece.written) body).line + 1 := by
      rw [ended, advanceAll_append, advanceAll_append, advanceAll_append]
      rfl
    intro token member
    rcases List.mem_cons.1 member with rfl | member
    · exact ⟨start, stop, above ▸ Nat.lt_succ_of_le below⟩
    · obtain ⟨first, second, third⟩ := inductionHypothesis later _ token member
      rw [advanceAll_append, advanceAll_append]
      exact ⟨by omega, second, third⟩

/-- A line may end earlier, behind a continuation that no token follows. What is cut off holds
nothing. -/
theorem Scans.cut {brackets : List Symbol} {text : List Char} {pieces : List Piece}
    (scans : Scans brackets text pieces) (position : Position) {row : Nat}
    (above : position.line ≤ row) (below : row + 1 < (advanceAll position text).line)
    (finished : ∀ token ∈ locate position pieces, token.span.stop.line ≤ row) :
    ∃ front behind, text = front ++ '\n' :: behind ∧
      (advanceAll position (front ++ ['\n'])).line = row + 1 ∧
      Scans brackets (front ++ ['\n', '\n']) pieces ∧ Scans [] behind [] := by
  induction scans generalizing position with
  | finish =>
    have stays : (advanceAll position ['\n']).line = position.line + 1 := rfl
    omega
  | @newline brackets text pieces inside later inductionHypothesis =>
    rw [locate_widen] at finished
    have lower : position.line + 1 ≤ row := by
      cases pieces with
      | nil => exact absurd later.brackets_eq_nil inside
      | cons piece rest =>
        obtain ⟨start, stop, -⟩ := later.line_le ⟨position.line + 1, 0⟩ _ List.mem_cons_self
        exact Nat.le_trans (Nat.le_trans start stop) (finished _ List.mem_cons_self)
    obtain ⟨front, behind, rfl, placed, scans, rest⟩ := inductionHypothesis _ lower below finished
    exact ⟨'\n' :: front, behind, rfl, placed, .newline inside scans, rest⟩
  | @continuation brackets text pieces later inductionHypothesis =>
    rw [locate_widen] at finished
    rcases Nat.eq_or_lt_of_le above with same | lower
    · cases pieces with
      | nil =>
        obtain rfl := later.brackets_eq_nil
        exact ⟨['\\'], text, rfl, congrArg (· + 1) same, .continuation .finish, later⟩
      | cons piece rest =>
        obtain ⟨start, stop, -⟩ := later.line_le ⟨position.line + 1, 0⟩ _ List.mem_cons_self
        have reached := Nat.le_trans (Nat.le_trans start stop) (finished _ List.mem_cons_self)
        simp only at reached
        omega
    · obtain ⟨front, behind, rfl, placed, scans, rest⟩ :=
        inductionHypothesis _ (Nat.succ_le_of_lt lower) below finished
      exact ⟨'\\' :: '\n' :: front, behind, rfl, placed, .continuation scans, rest⟩
  | @comment brackets comment text pieces oneLine later inductionHypothesis =>
    rw [locate_widen] at finished
    rw [advanceAll_append] at below
    have stays : (advanceAll position ('#' :: comment)).line = position.line :=
      line_advanceAll (by simpa using oneLine) position
    obtain ⟨front, behind, split, placed, scans, rest⟩ :=
      inductionHypothesis _ (by omega) below finished
    have wider : Scans brackets (('#' :: comment ++ front) ++ ['\n', '\n'])
        (widen ('#' :: comment) pieces) := by
      rw [List.append_assoc]
      cases front with
      | nil => exact .comment oneLine scans
      | cons first others =>
        obtain ⟨rfl, -⟩ := List.cons.inj split
        exact .comment oneLine scans
    refine ⟨'#' :: comment ++ front, behind, by rw [List.append_assoc, ← split], ?_, wider, rest⟩
    rw [List.append_assoc, advanceAll_append]
    exact placed
  | @space brackets first text pieces blank later inductionHypothesis =>
    rw [locate_widen] at finished
    have stays : (advance position first).line = position.line := by
      simp only [isSpace, Bool.or_eq_true, beq_iff_eq] at blank
      rcases blank with (rfl | rfl) | rfl <;> rfl
    obtain ⟨front, behind, rfl, placed, scans, rest⟩ :=
      inductionHypothesis _ (Nat.le_trans (Nat.le_of_eq stays) above) below finished
    exact ⟨first :: front, behind, rfl, placed, .space blank scans, rest⟩
  | @token brackets inner kind written text pieces read matched later inductionHypothesis =>
    rw [advanceAll_append] at below
    obtain ⟨front, behind, rfl, placed, scans, rest⟩ :=
      inductionHypothesis _ (finished _ List.mem_cons_self) below fun token member =>
        finished token (List.mem_cons_of_mem _ member)
    refine ⟨written ++ front, behind, by simp, ?_, ?_, rest⟩
    · rw [List.append_assoc, advanceAll_append]
      exact placed
    · rw [List.append_assoc]
      refine .token (fun other => ?_) matched scans
      have found : visible? ((written ++ front) ++ '\n' :: (behind ++ other)) =
          some (kind, front ++ '\n' :: (behind ++ other)) := by
        simpa using read other
      simpa using visible?_before (by decide) (by decide) (behind ++ other) ('\n' :: other) found

end DifferenceTypes.Lexer
