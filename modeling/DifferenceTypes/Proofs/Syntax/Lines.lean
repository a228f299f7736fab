import DifferenceTypes.Proofs.Syntax.Scan
import Mathlib.Data.List.Forall2

/-!
# Logical lines by themselves

A text that the lexer takes apart is written line by line, and each line is read from its own
characters (`Writes`, `lines?_eq_some_iff`). `Reads` says what whole lines say when their places are
left out: whole lines can be put one behind the other (`Reads.append`), and a line whose last source
lines hold no token can be finished before them (`Writes.cut`).
-/

namespace DifferenceTypes.Lexer

/-! ### The blanks at the start of a line -/

/-- A blank line is read in the same way whatever follows it. If another line has to come behind it,
then it takes one source line only. -/
theorem exists_append_of_opening?_blank {characters rest : List Char} {position : Position}
    {found : Indentation} {continued : Option Nat} {height : Nat} {isContinuation : Bool}
    (opened : opening? characters position found continued =
      some (.blank height isContinuation rest)) :
    ∃ text, characters = text ++ rest ∧ height + 1 = (advanceAll position text).line ∧
      (∃ body, text = body ++ ['\n']) ∧
      (∀ other, opening? (text ++ other) position found continued =
        some (.blank height isContinuation other)) ∧
      (isContinuation = false → Scans [] text []) ∧
      (isContinuation = true → height = position.line ∧ continued = none) := by
  fun_induction opening? characters position found continued with
  | case1 remaining position found continued inductionHypothesis =>
    obtain ⟨_, rfl, measured, ⟨body, rfl⟩, always, blank, single⟩ := inductionHypothesis opened
    exact ⟨' ' :: (body ++ ['\n']), rfl, measured, ⟨' ' :: body, rfl⟩, always,
      fun last => .space rfl (blank last), single⟩
  | case2 remaining position found continued next inductionHypothesis =>
    obtain ⟨_, rfl, measured, ⟨body, rfl⟩, always, blank, single⟩ := inductionHypothesis opened
    exact ⟨'\t' :: (body ++ ['\n']), rfl, measured, ⟨'\t' :: body, rfl⟩, always,
      fun last => .space rfl (blank last), single⟩
  | case3 remaining position found continued inductionHypothesis =>
    obtain ⟨_, rfl, measured, ⟨body, rfl⟩, always, blank, single⟩ := inductionHypothesis opened
    exact ⟨'\x0c' :: (body ++ ['\n']), rfl, measured, ⟨'\x0c' :: body, rfl⟩, always,
      fun last => .space rfl (blank last), single⟩
  | case4 remaining position found continued alone =>
    obtain ⟨rfl, rfl, rfl⟩ := by simpa using opened
    have unbroken : continued = none := by simp at alone; exact alone.1
    have opens (other : List Char) : opening? (['\\', '\n'] ++ other) position found continued =
        some (.blank position.line true other) := by
      simp only [List.cons_append, List.nil_append, opening?, if_pos alone]
    exact ⟨['\\', '\n'], rfl, rfl, ⟨['\\'], rfl⟩, opens, nofun, fun _ => ⟨rfl, unbroken⟩⟩
  | case5 remaining position found continued indented inductionHypothesis =>
    obtain ⟨_, rfl, measured, ⟨body, rfl⟩, always, blank, single⟩ := inductionHypothesis opened
    refine ⟨'\\' :: '\n' :: (body ++ ['\n']), rfl, measured, ⟨'\\' :: '\n' :: body, rfl⟩,
      fun other => ?_, fun last => .continuation (blank last), fun last => nomatch (single last).2⟩
    simp only [List.cons_append, opening?, if_neg indented, always]
  | case6 => exact nomatch opened
  | case7 remaining position found continued head after ends =>
    obtain ⟨rfl, rfl, rfl⟩ := by simpa using opened
    have member : '\n' ∈ remaining := by
      by_contra absent
      have passes : ∀ character ∈ remaining, (character != '\n') = true :=
        fun character member => bne_iff_ne.2 fun same => absent (same ▸ member)
      rw [List.dropWhile_eq_nil_iff.2 passes] at ends
      exact nomatch ends
    obtain ⟨comment, behind, rfl, oneLine⟩ := List.eq_append_cons_of_mem member
    rw [dropWhile_of_oneLine oneLine] at ends
    obtain ⟨rfl, rfl⟩ := List.cons.inj ends
    have opens (other : List Char) :
        opening? ('#' :: comment ++ ['\n'] ++ other) position found continued =
          some (.blank position.line false other) := by
      simp only [List.append_assoc, List.cons_append, List.nil_append, opening?,
        dropWhile_of_oneLine oneLine]
    refine ⟨'#' :: comment ++ ['\n'], by simp, ?_, ⟨'#' :: comment, rfl⟩, opens,
      fun _ => .comment oneLine .finish, nofun⟩
    rw [advanceAll_append]
    exact congrArg (· + 1) (line_advanceAll (by simpa using oneLine) position).symm
  | case8 => exact nomatch opened
  | case9 remaining position found continued =>
    obtain ⟨rfl, rfl, rfl⟩ := by simpa using opened
    exact ⟨['\n'], rfl, rfl, ⟨[], rfl⟩, fun _ => rfl, fun _ => .finish, nofun⟩
  | case10 => exact nomatch opened

/-- Where the first token of a line stands depends on the blanks before it only. -/
theorem exists_append_of_opening?_token {characters rest : List Char} {position start : Position}
    {found indentation : Indentation} {continued : Option Nat}
    (opened : opening? characters position found continued =
      some (.token indentation start rest)) :
    ∃ blanks, characters = blanks ++ rest ∧ start = advanceAll position blanks ∧
      (∀ first other, rest = first :: other → startsToken first = true) ∧
      (∀ first other, startsToken first = true →
        opening? (blanks ++ first :: other) position found continued =
          some (.token indentation start (first :: other))) := by
  fun_induction opening? characters position found continued with
  | case1 remaining position found continued inductionHypothesis =>
    obtain ⟨blanks, rfl, placed, starts, always⟩ := inductionHypothesis opened
    exact ⟨' ' :: blanks, rfl, placed, starts, always⟩
  | case2 remaining position found continued next inductionHypothesis =>
    obtain ⟨blanks, rfl, placed, starts, always⟩ := inductionHypothesis opened
    exact ⟨'\t' :: blanks, rfl, placed, starts, always⟩
  | case3 remaining position found continued inductionHypothesis =>
    obtain ⟨blanks, rfl, placed, starts, always⟩ := inductionHypothesis opened
    exact ⟨'\x0c' :: blanks, rfl, placed, starts, always⟩
  | case4 => exact nomatch opened
  | case5 remaining position found continued indented inductionHypothesis =>
    obtain ⟨blanks, rfl, placed, starts, always⟩ := inductionHypothesis opened
    refine ⟨'\\' :: '\n' :: blanks, rfl, placed, starts, fun first other begins => ?_⟩
    simp only [List.cons_append, opening?, if_neg indented, always first other begins]
  | case6 => exact nomatch opened
  | case7 => exact nomatch opened
  | case8 => exact nomatch opened
  | case9 => exact nomatch opened
  | case10 remaining position found continued =>
    obtain ⟨rfl, rfl, rfl⟩ := by simpa using opened
    refine ⟨[], rfl, rfl, fun first other split => ?_, fun first other starts => ?_⟩
    · subst split
      simp_all [startsToken]
    · simp only [startsToken, List.elem_eq_mem, List.mem_cons, List.not_mem_nil, or_false,
        Bool.not_eq_true', decide_eq_false_iff_not, not_or] at starts
      rw [List.nil_append, opening?.eq_8]
      all_goals simp_all

/-- A token that stands behind no indentation is on the first source line of its line. -/
theorem line_of_opening?_token {characters rest : List Char} {position start : Position}
    {found indentation : Indentation} {continued : Option Nat}
    (opened : opening? characters position found continued =
      some (.token indentation start rest))
    (outermost : indentation.columns = 0) (positive : continued ≠ some 0) :
    start.line = position.line ∧ continued = none := by
  fun_induction opening? characters position found continued with
  | case1 remaining position found continued inductionHypothesis =>
    exact inductionHypothesis opened positive
  | case2 remaining position found continued next inductionHypothesis =>
    exact inductionHypothesis opened positive
  | case3 remaining position found continued inductionHypothesis =>
    exact inductionHypothesis opened positive
  | case4 => exact nomatch opened
  | case5 remaining position found continued indented inductionHypothesis =>
    have still : some (continued.getD found.columns) ≠ some 0 := by
      cases continued with
      | none => simpa using indented
      | some columns => simpa using positive
    exact nomatch (inductionHypothesis opened still).2
  | case6 => exact nomatch opened
  | case7 => exact nomatch opened
  | case8 => exact nomatch opened
  | case9 => exact nomatch opened
  | case10 remaining position found continued =>
    obtain ⟨rfl, rfl, rfl⟩ := by simpa using opened
    cases continued with
    | none => exact ⟨rfl, rfl⟩
    | some columns => exact absurd (congrArg some outermost) positive

/-! ### Logical lines as they are written -/

/-- Blanks that put the first token of a line behind this indentation. -/
def Indents (blanks : List Char) (indentation : Indentation) : Prop :=
  ∀ first rest, startsToken first = true →
    opening? (blanks ++ first :: rest) ⟨1, 0⟩ ⟨0, 0⟩ none =
      some (.token indentation (advanceAll ⟨1, 0⟩ blanks) (first :: rest))

/-- How a logical line is written, its line end included. -/
inductive Writes : List Char → Line → Prop
  | code {blanks text : List Char} {indentation : Indentation} {pieces : List Piece}
      (indents : Indents blanks indentation) (scans : Scans [] text pieces)
      (starts : ∃ first rest, text = first :: rest ∧ startsToken first = true) :
      Writes (blanks ++ text)
        ⟨indentation, locate (advanceAll ⟨1, 0⟩ blanks) pieces, (blanks ++ text).count '\n', false⟩
  | blank {text : List Char} (scans : Scans [] text [])
      (opens : ∀ rest, opening? (text ++ rest) ⟨1, 0⟩ ⟨0, 0⟩ none =
        some (.blank (text.count '\n') false rest)) :
      Writes text ⟨⟨0, 0⟩, [], text.count '\n', false⟩
  | continuation {text : List Char} (single : text.count '\n' = 1) (ends : ∃ body, text = body ++ ['\n'])
      (opens : ∀ rest, opening? (text ++ rest) ⟨1, 0⟩ ⟨0, 0⟩ none = some (.blank 1 true rest)) :
      Writes text ⟨⟨0, 0⟩, [], 1, true⟩

/-- A line is read as it is written, whatever follows it. -/
theorem Writes.line? {text : List Char} {line : Line} (writes : Writes text line)
    (rest : List Char) : Lexer.line? (text ++ rest) = some (line, rest) := by
  cases writes with
  | @code blanks text indentation pieces indents scans starts =>
    obtain ⟨first, others, rfl, begins⟩ := starts
    have read := scans.tokensWithin? (Nat.le_add_right _ rest.length) (advanceAll ⟨1, 0⟩ blanks) rest
    rw [← List.length_append] at read
    simp only [Lexer.line?, List.append_assoc, List.cons_append, indents first _ begins,
      Option.bind_eq_bind, Option.bind_some] at read ⊢
    simp only [read, Option.bind_some, ← advanceAll_append, line_advanceAll_eq, Nat.add_sub_cancel_left]
    rfl
  | blank scans opens => simp only [Lexer.line?, opens]; rfl
  | continuation single ends opens => simp only [Lexer.line?, opens]; rfl

/-- What the lexer takes as a line is written as that line. -/
theorem exists_writes_of_line? {characters rest : List Char} {line : Line}
    (read : line? characters = some (line, rest)) :
    ∃ text, characters = text ++ rest ∧ Writes text line := by
  obtain ⟨opening, opened, result⟩ := Option.bind_eq_some_iff.1 read
  cases opening with
  | blank height isContinuation after =>
    obtain ⟨text, rfl, measured, ends, always, scans, single⟩ :=
      exists_append_of_opening?_blank opened
    obtain ⟨rfl, rfl⟩ := by simpa using result
    have exactly : height = text.count '\n' := by
      rw [line_advanceAll_eq] at measured
      exact Nat.succ.inj (measured.trans (Nat.add_comm _ _))
    refine ⟨text, rfl, ?_⟩
    cases isContinuation with
    | false =>
      subst exactly
      exact .blank (scans rfl) always
    | true =>
      obtain rfl : height = 1 := (single rfl).1
      exact .continuation exactly.symm ends always
  | token indentation start after =>
    obtain ⟨⟨tokens, last, remaining⟩, scanned, same⟩ := Option.bind_eq_some_iff.1 result
    obtain ⟨rfl, rfl⟩ := by simpa using same
    obtain ⟨blanks, rfl, rfl, starts, always⟩ := exists_append_of_opening?_token opened
    obtain ⟨text, pieces, rfl, scans⟩ := exists_scans_of_tokensWithin? scanned
    have again := scans.tokensWithin? (Nat.le_add_right _ remaining.length)
      (advanceAll ⟨1, 0⟩ blanks) remaining
    rw [← List.length_append, scanned] at again
    obtain ⟨rfl, rfl⟩ := by simpa using again
    refine ⟨blanks ++ text, by simp, ?_⟩
    cases text with
    | nil => exact absurd scans.exists_append (by simp)
    | cons first others =>
      have written := Writes.code always scans ⟨first, others, rfl, starts first _ rfl⟩
      rwa [← advanceAll_append, line_advanceAll_eq, Nat.add_sub_cancel_left]

/-- A line ends with a line end. -/
theorem Writes.exists_append {text : List Char} {line : Line} (writes : Writes text line) :
    ∃ body, text = body ++ ['\n'] := by
  cases writes with
  | @code blanks text indentation pieces indents scans starts =>
    obtain ⟨body, rfl⟩ := scans.exists_append
    exact ⟨blanks ++ body, by rw [List.append_assoc]⟩
  | blank scans opens => exact scans.exists_append
  | continuation single ends opens => exact ends

theorem Writes.height {text : List Char} {line : Line} (writes : Writes text line) :
    line.height = text.count '\n' := by
  cases writes with
  | code => rfl
  | blank => rfl
  | continuation single => exact single.symm

/-- The tokens of a line are on its source lines. -/
theorem Writes.line_le {text : List Char} {line : Line} (writes : Writes text line) :
    ∀ token ∈ line.tokens, 1 ≤ token.span.start.line ∧
      token.span.start.line ≤ token.span.stop.line ∧ token.span.stop.line ≤ line.height := by
  cases writes with
  | @code blanks text indentation pieces indents scans starts =>
    intro token member
    obtain ⟨start, stop, last⟩ := scans.line_le (advanceAll ⟨1, 0⟩ blanks) token member
    have first := line_le_advanceAll ⟨1, 0⟩ blanks
    rw [← advanceAll_append, line_advanceAll_eq, Nat.add_comm] at last
    exact ⟨Nat.le_trans first start, stop, Nat.le_of_lt_succ last⟩
  | blank => exact nofun
  | continuation => exact nofun

/-- Where a token may start there is no gap. -/
theorem IsGap.eq_nil {gap rest : List Char} {first : Char} {others : List Char}
    (isGap : IsGap gap) (split : gap ++ rest = first :: others)
    (starts : startsToken first = true) : gap = [] := by
  cases isGap with
  | nil => rfl
  | lineEnd =>
    obtain ⟨rfl, -⟩ := List.cons.inj split
    cases starts
  | continuation =>
    obtain ⟨rfl, -⟩ := List.cons.inj split
    cases starts
  | comment =>
    obtain ⟨rfl, -⟩ := List.cons.inj split
    cases starts
  | space blank =>
    obtain ⟨rfl, -⟩ := List.cons.inj split
    simp only [isSpace, Bool.or_eq_true, beq_iff_eq] at blank
    rcases blank with (rfl | rfl) | rfl <;> cases starts

/-- A line without indentation has its first token on its first source line. -/
theorem Writes.first_line {text : List Char} {line : Line} (writes : Writes text line)
    (outermost : line.indentation.columns = 0) {token : Token}
    (first : line.tokens.head? = some token) : token.span.start.line = 1 := by
  cases writes with
  | @code blanks text indentation pieces indents scans starts =>
    obtain ⟨character, rest, rfl, begins⟩ := starts
    have placed := (line_of_opening?_token (indents character rest begins) outermost nofun).1
    cases pieces with
    | nil => exact nomatch first
    | cons piece pieces =>
      obtain ⟨inner, behind, split, gap, -⟩ := scans.cons
      have flush := gap.eq_nil split.symm begins
      obtain rfl := Option.some.inj first
      simpa [flush, advanceAll] using placed
  | blank => exact nomatch first
  | continuation => exact nomatch first

/-! ### Texts of several lines -/

/-- The lines of a text are read as they are written, one after the other. -/
theorem linesWithin?_of_writes {texts : List (List Char)} {lines : List Line}
    (writes : List.Forall₂ Writes texts lines) {fuel : Nat} (enough : texts.flatten.length ≤ fuel) :
    linesWithin? fuel texts.flatten = some lines := by
  induction writes generalizing fuel with
  | nil => cases fuel <;> rfl
  | @cons text line texts lines first later inductionHypothesis =>
    obtain ⟨body, split⟩ := first.exists_append
    have positive : 0 < text.length := by simp [split]
    rw [List.flatten_cons, List.length_append] at enough
    obtain ⟨fuel, rfl⟩ := Nat.exists_eq_add_of_le' (show 1 ≤ fuel by omega)
    have read := first.line? texts.flatten
    rw [List.flatten_cons]
    cases whole : text ++ texts.flatten with
    | nil => simp [split] at whole
    | cons character characters =>
      rw [whole] at read
      rw [linesWithin?, read]
      simp only [Option.bind_eq_bind, Option.bind_some, inductionHypothesis (show _ ≤ fuel by omega)]
      rfl

/-- What the lexer takes as lines is written as these lines. -/
theorem exists_writes_of_linesWithin? {fuel : Nat} {characters : List Char} {lines : List Line}
    (read : linesWithin? fuel characters = some lines) :
    ∃ texts, characters = texts.flatten ∧ List.Forall₂ Writes texts lines := by
  induction fuel generalizing characters lines with
  | zero =>
    cases characters with
    | nil =>
      obtain rfl := by simpa [linesWithin?] using read
      exact ⟨[], rfl, .nil⟩
    | cons => exact nomatch read
  | succ fuel inductionHypothesis =>
    cases characters with
    | nil =>
      obtain rfl := by simpa [linesWithin?] using read
      exact ⟨[], rfl, .nil⟩
    | cons first rest =>
      obtain ⟨⟨line, remaining⟩, here, later⟩ := Option.bind_eq_some_iff.1 read
      obtain ⟨others, readOthers, same⟩ := Option.bind_eq_some_iff.1 later
      obtain rfl := Option.some.inj same
      obtain ⟨text, split, writes⟩ := exists_writes_of_line? here
      obtain ⟨texts, rfl, writesOthers⟩ := inductionHypothesis readOthers
      exact ⟨text :: texts, split, .cons writes writesOthers⟩

/-- Whether the last line is nothing but a continuation. -/
def isOpen (lines : List Line) : Bool :=
  lines.getLast?.any (·.isContinuation)

/-- A text has lines if it is written as these lines and the last one is complete. -/
theorem lines?_eq_some_iff {characters : List Char} {lines : List Line} :
    lines? characters = some lines ↔
      ∃ texts, characters = texts.flatten ∧ List.Forall₂ Writes texts lines ∧
        isOpen lines = false := by
  constructor
  · intro read
    obtain ⟨found, scanned, result⟩ := Option.bind_eq_some_iff.1 read
    split at result
    · exact nomatch result
    · rename_i closed
      obtain rfl := Option.some.inj result
      obtain ⟨texts, split, writes⟩ := exists_writes_of_linesWithin? scanned
      exact ⟨texts, split, writes, eq_false_of_ne_true closed⟩
  · rintro ⟨texts, rfl, writes, closed⟩
    refine Option.bind_eq_some_iff.2 ⟨lines, linesWithin?_of_writes writes (Nat.le_refl _), ?_⟩
    exact if_neg (ne_true_of_eq_false closed)

/-! ### What texts say -/

/-- What a line says: its indentation and the kinds of its tokens. -/
structure LineContent where
  indentation : Indentation
  kinds : List TokenKind
  deriving DecidableEq

/-- What a line says. -/
def contentOf (line : Line) : LineContent :=
  ⟨line.indentation, line.tokens.map (·.kind)⟩

/-- What lines say. Blank ones say nothing. -/
def contentsOf (lines : List Line) : List LineContent :=
  (lines.filter (!·.isBlank)).map contentOf

/-- A text consists of whole lines that say this; `open_` tells whether another line has to come
behind them. -/
def Reads (text : List Char) (contents : List LineContent) (open_ : Bool) : Prop :=
  ∃ texts lines, text = texts.flatten ∧ List.Forall₂ Writes texts lines ∧
    contentsOf lines = contents ∧ isOpen lines = open_

theorem reads_nil : Reads [] [] false :=
  ⟨[], [], rfl, .nil, rfl, rfl⟩

/-- One line says what it says. -/
theorem Writes.reads {text : List Char} {line : Line} (writes : Writes text line) :
    Reads text (contentsOf [line]) line.isContinuation :=
  ⟨[text], [line], by simp, .cons writes .nil, rfl, by simp [isOpen]⟩

/-- Whole lines say what they say also in front of others. -/
theorem Reads.append {front behind : List Char} {before after : List LineContent} {open_ : Bool}
    (first : Reads front before open_) (second : Reads behind after false)
    (complete : behind = [] → open_ = false) : Reads (front ++ behind) (before ++ after) false := by
  obtain ⟨texts, lines, rfl, writes, rfl, rfl⟩ := first
  obtain ⟨others, later, rfl, writesOthers, rfl, closed⟩ := second
  refine ⟨texts ++ others, lines ++ later, List.flatten_append.symm,
    List.rel_append writes writesOthers, by simp [contentsOf], ?_⟩
  cases writesOthers with
  | nil => simpa using complete rfl
  | cons => simpa [isOpen, List.getLast?_append, List.getLast?_cons] using closed

/-- Outside brackets a line end finishes the line. -/
theorem Scans.lineEnd {text : List Char} {pieces : List Piece}
    (scans : Scans [] ('\n' :: text) pieces) : text = [] ∧ pieces = [] := by
  generalize outside : ([] : List Symbol) = brackets at scans
  generalize split : '\n' :: text = all at scans
  cases scans with
  | finish => exact ⟨(List.cons.inj split).2, rfl⟩
  | newline inside => exact absurd outside.symm inside
  | continuation => exact nomatch split
  | comment => exact nomatch split
  | space blank =>
    obtain ⟨rfl, -⟩ := List.cons.inj split
    exact nomatch blank
  | token read =>
    have found := read []
    rw [List.append_nil, ← split] at found
    exact nomatch startsToken_of_visible? found

/-- Where no token comes up to the line end, the line is blank, or it stops at a continuation that
nothing stands before. -/
theorem Scans.opens {text : List Char} (scans : Scans [] text []) (position : Position)
    (found : Indentation) (continued : Option Nat) :
    (∀ rest, opening? (text ++ rest) position found continued =
        some (.blank (position.line + text.count '\n' - 1) false rest)) ∨
      ∃ front behind, text = front ++ '\n' :: behind ∧ '\n' ∉ front ∧ Scans [] behind [] ∧
        ∀ rest, opening? (front ++ '\n' :: rest) position found continued =
          some (.blank position.line true rest) := by
  generalize outside : ([] : List Symbol) = brackets at scans
  generalize blank : ([] : List Piece) = pieces at scans
  induction scans generalizing position found continued with
  | finish => exact .inl fun rest => rfl
  | newline inside => exact absurd outside.symm inside
  | @continuation brackets text pieces later inductionHypothesis =>
    cases pieces with
    | cons => cases blank
    | nil =>
      subst outside
      by_cases alone : (continued.isNone && found.columns == 0) = true
      · refine .inr ⟨['\\'], text, rfl, by decide, later, fun rest => ?_⟩
        simp only [List.cons_append, List.nil_append, opening?, if_pos alone]
      · have opens (rest : List Char) :
            opening? ('\\' :: '\n' :: (text ++ rest)) position found continued =
              opening? (text ++ rest) ⟨position.line + 1, 0⟩ found
                (some (continued.getD found.columns)) := by
          simp only [opening?, if_neg alone]
        rcases inductionHypothesis ⟨position.line + 1, 0⟩ found
          (some (continued.getD found.columns)) rfl rfl with always | ⟨front, behind, -, -, -, always⟩
        · refine .inl fun rest => ?_
          rw [List.cons_append, List.cons_append, opens, always]
          simp
        · obtain ⟨-, -, -, -, -, -, single⟩ := exists_append_of_opening?_blank (always [])
          cases (single rfl).2
  | @comment brackets comment text pieces oneLine later inductionHypothesis =>
    subst outside
    obtain ⟨rfl, -⟩ := later.lineEnd
    refine .inl fun rest => ?_
    have single : ('#' :: comment ++ ['\n']).count '\n' = 1 := by
      rw [List.count_append, List.count_eq_zero_of_not_mem (by simpa using oneLine)]
      rfl
    rw [single, List.append_assoc, List.cons_append]
    simp only [List.cons_append, List.nil_append, opening?, dropWhile_of_oneLine oneLine]
    rfl
  | @space brackets first text pieces isBlank later inductionHypothesis =>
    cases pieces with
    | cons => cases blank
    | nil =>
      simp only [isSpace, Bool.or_eq_true, beq_iff_eq] at isBlank
      obtain ⟨next, step⟩ : ∃ next, ∀ rest,
          opening? (first :: rest) position found continued =
            opening? rest (advance position first) next continued := by
        rcases isBlank with (rfl | rfl) | rfl
        · exact ⟨_, fun rest => rfl⟩
        · exact ⟨_, fun rest => rfl⟩
        · exact ⟨_, fun rest => rfl⟩
      have stays : (advance position first).line = position.line ∧ first ≠ '\n' := by
        rcases isBlank with (rfl | rfl) | rfl <;> exact ⟨rfl, by decide⟩
      rcases inductionHypothesis (advance position first) next continued outside rfl with
        always | ⟨front, behind, rfl, oneLine, rest, always⟩
      · refine .inl fun rest => ?_
        rw [List.cons_append, step, always, stays.1, List.count_cons_of_ne stays.2]
      · refine .inr ⟨first :: front, behind, rfl, by simp [oneLine, stays.2.symm], rest, fun other => ?_⟩
        rw [List.cons_append, step, always, stays.1]
  | token => cases blank

/-- Blanks, comments and continuations that end with a line end say nothing. -/
theorem Scans.reads {text : List Char} (scans : Scans [] text []) : Reads text [] false := by
  induction size : text.length using Nat.strongRecOn generalizing text with
  | _ size inductionHypothesis =>
  rcases scans.opens ⟨1, 0⟩ ⟨0, 0⟩ none with always | ⟨front, behind, rfl, oneLine, later, always⟩
  · rw [Nat.add_sub_cancel_left] at always
    exact (Writes.blank scans always).reads
  · have single : (front ++ ['\n']).count '\n' = 1 := by
      rw [List.count_append, List.count_eq_zero_of_not_mem oneLine]
      rfl
    have writes : Writes (front ++ ['\n']) ⟨⟨0, 0⟩, [], 1, true⟩ :=
      .continuation single ⟨front, rfl⟩ (by simpa using always)
    have remaining := inductionHypothesis behind.length (by simp only [← size, List.length_append, List.length_cons]; omega) later rfl
    have nonempty : behind ≠ [] := by
      obtain ⟨body, rfl⟩ := later.exists_append
      simp
    simpa [contentsOf, Line.isBlank] using writes.reads.append remaining fun empty => absurd empty nonempty

/-- Where a token may start, one is read. -/
theorem Scans.ne_nil {brackets : List Symbol} {first : Char} {rest : List Char}
    {pieces : List Piece} (scans : Scans brackets (first :: rest) pieces)
    (starts : startsToken first = true) : pieces ≠ [] := by
  generalize split : first :: rest = text at scans
  cases scans with
  | token => exact List.cons_ne_nil _ _
  | finish =>
    obtain ⟨rfl, -⟩ := List.cons.inj split
    cases starts
  | newline =>
    obtain ⟨rfl, -⟩ := List.cons.inj split
    cases starts
  | continuation =>
    obtain ⟨rfl, -⟩ := List.cons.inj split
    cases starts
  | comment =>
    obtain ⟨rfl, -⟩ := List.cons.inj split
    cases starts
  | space blank =>
    obtain ⟨rfl, -⟩ := List.cons.inj split
    simp only [isSpace, Bool.or_eq_true, beq_iff_eq] at blank
    rcases blank with (rfl | rfl) | rfl <;> cases starts

/-- A line may be cut behind the source line of its last token. Then a line end finishes it, and what
is left says nothing. -/
theorem Writes.cut {text : List Char} {line : Line} (writes : Writes text line) {row : Nat}
    (positive : 1 ≤ row) (below : row < line.height)
    (finished : ∀ token ∈ line.tokens, token.span.stop.line ≤ row) :
    ∃ front behind, text = front ++ '\n' :: behind ∧ (front ++ ['\n']).count '\n' = row ∧
      Reads (front ++ ['\n', '\n']) (contentsOf [line]) false ∧ Reads behind [] false := by
  cases writes with
  | @code blanks text indentation pieces indents scans starts =>
    obtain ⟨first, others, split, begins⟩ := starts
    cases pieces with
    | nil =>
      subst split
      exact absurd rfl (scans.ne_nil begins)
    | cons piece pieces =>
      obtain ⟨start, stop, -⟩ := scans.line_le (advanceAll ⟨1, 0⟩ blanks) _ List.mem_cons_self
      have reached := finished _ List.mem_cons_self
      obtain ⟨front, behind, rfl, placed, scansFront, rest⟩ := scans.cut
        (advanceAll ⟨1, 0⟩ blanks) (Nat.le_trans (Nat.le_trans start stop) reached)
        (by rw [← advanceAll_append, line_advanceAll_eq]; simp at below ⊢; omega) finished
      have startsFront : ∃ first rest, front ++ ['\n', '\n'] = first :: rest ∧
          startsToken first = true := by
        cases front with
        | nil =>
          obtain ⟨rfl, -⟩ := List.cons.inj split
          exact nomatch begins
        | cons character front =>
          obtain ⟨rfl, -⟩ := List.cons.inj split
          exact ⟨character, _, rfl, begins⟩
      rw [← advanceAll_append, line_advanceAll_eq, Nat.add_comm] at placed
      refine ⟨blanks ++ front, behind, by rw [List.append_assoc], ?_, ?_, rest.reads⟩
      · rw [List.append_assoc]
        exact Nat.succ.inj placed
      · rw [List.append_assoc]
        exact (Writes.code indents scansFront startsFront).reads
  | blank scans opens =>
    obtain ⟨front, behind, rfl, placed, first, rest⟩ := scans.cut ⟨1, 0⟩ positive
      (by rw [line_advanceAll_eq]; simp at below ⊢; omega) nofun
    rw [line_advanceAll_eq, Nat.add_comm] at placed
    exact ⟨front, behind, rfl, Nat.succ.inj placed, first.reads, rest.reads⟩
  | continuation single => exact absurd below (Nat.not_lt_of_le positive)

end DifferenceTypes.Lexer
