import DifferenceTypes.Proofs.Syntax.Lines
import DifferenceTypes.Proofs.Text.SourceLines
import Mathlib.Data.List.Count

/-!
# Source texts by lines

A text is read with its line ends unified. `Text.ReadsAs` says what the whole lines of a text say;
texts of whole lines may be put together (`Text.ReadsAs.append`), and a blank line that gets lost
where a carriage return meets a line feed says nothing. Where a logical line ends, a source line ends
(`Text.AreSourceLines.exists_append`).
-/

namespace DifferenceTypes

namespace Lexer

/-- A line feed alone is a blank line. -/
theorem Writes.of_lineFeed {text rest : List Char} {line : Line} (writes : Writes text line)
    {other : List Char} (split : text ++ rest = '\n' :: other) :
    text = ['\n'] ∧ line = ⟨⟨0, 0⟩, [], 1, false⟩ := by
  have read := writes.line? rest
  rw [split] at read
  have blank : Lexer.line? ('\n' :: other) = some (⟨⟨0, 0⟩, [], 1, false⟩, other) := rfl
  rw [blank] at read
  obtain ⟨rfl, rfl⟩ := by simpa using read
  rw [← List.singleton_append] at split
  exact ⟨List.append_cancel_right split, rfl⟩

/-- What says something is not empty. -/
theorem Reads.ne_nil {text : List Char} {contents : List LineContent} {open_ : Bool}
    (reads : Reads text contents open_) (nonempty : contents ≠ []) : text ≠ [] := by
  rintro rfl
  obtain ⟨texts, lines, split, writes, rfl, -⟩ := reads
  cases writes with
  | nil => exact nonempty rfl
  | cons first =>
    obtain ⟨body, rfl⟩ := first.exists_append
    simp at split

/-- A blank line may be left out in front of lines that say something. -/
theorem Reads.of_lineFeed {rest : List Char} {contents : List LineContent}
    (reads : Reads ('\n' :: rest) contents false) (nonempty : contents ≠ []) :
    Reads rest contents false := by
  obtain ⟨texts, lines, split, writes, rfl, closed⟩ := reads
  cases writes with
  | nil => exact nomatch split
  | @cons text line texts lines first later =>
    rw [List.flatten_cons] at split
    obtain ⟨rfl, rfl⟩ := first.of_lineFeed split.symm
    obtain rfl := (List.cons.inj split).2
    refine ⟨texts, lines, rfl, later, rfl, ?_⟩
    cases later with
    | nil => exact absurd rfl nonempty
    | cons => simpa [isOpen, List.getLast?_cons_cons] using closed

end Lexer

open Lexer

namespace Text

/-- A text consists of whole lines that say this, its line ends unified; `open_` tells whether
another line has to come behind them. -/
def ReadsAs (text : Text) (contents : List LineContent) (open_ : Bool) : Prop :=
  ∃ characters, text.unifyLineEnds = ofCharacters characters ∧ '\x00' ∉ characters ∧
    Reads characters contents open_

theorem readsAs_nil : ReadsAs [] [] false :=
  ⟨[], rfl, nofun, reads_nil⟩

theorem readsAs_lineFeed : ReadsAs [.scalar '\n'] [] false :=
  ⟨['\n'], rfl, by decide, Scans.finish.reads⟩

theorem ofCharacters_append (front behind : List Char) :
    ofCharacters (front ++ behind) = ofCharacters front ++ ofCharacters behind :=
  List.map_append

theorem unifyLineEnds_ne_nil {text : Text} (nonempty : text ≠ []) : text.unifyLineEnds ≠ [] := by
  induction text with
  | nil => exact absurd rfl nonempty
  | cons point rest inductionHypothesis =>
    unfold unifyLineEnds
    split
    · split
      · rename_i isFeed
        refine inductionHypothesis ?_
        rintro rfl
        cases isFeed
      · exact List.cons_ne_nil _ _
    · exact List.cons_ne_nil _ _

theorem unifyLineEnds_lineFeed (rest : Text) :
    unifyLineEnds (.scalar '\n' :: rest) = .scalar '\n' :: unifyLineEnds rest :=
  rfl

/-- Texts of whole lines say what they say one behind the other. Where they meet a blank line may
be lost. -/
theorem ReadsAs.append {front behind : Text} {before after : List LineContent} {open_ : Bool}
    (first : ReadsAs front before open_) (second : ReadsAs behind after false)
    (complete : behind = [] → open_ = false) (more : Meets front behind → after ≠ []) :
    ReadsAs (front ++ behind) (before ++ after) false := by
  obtain ⟨characters, unified, clean, reads⟩ := first
  obtain ⟨others, unifiedOthers, cleanOthers, readsOthers⟩ := second
  by_cases meets : Meets front behind
  · obtain ⟨rest, rfl⟩ : ∃ rest, behind = .scalar '\n' :: rest := by
      cases behind with
      | nil => exact nomatch meets.2
      | cons point rest =>
        obtain rfl := Option.some.inj meets.2
        exact ⟨rest, rfl⟩
    rw [unifyLineEnds_lineFeed] at unifiedOthers
    obtain ⟨first, others, rfl, isFeed, unifiedRest⟩ := List.map_eq_cons_iff.1 unifiedOthers.symm
    obtain rfl := CodePoint.scalar.inj isFeed
    have readsRest := readsOthers.of_lineFeed (more meets)
    have nonempty := readsRest.ne_nil (more meets)
    refine ⟨characters ++ others, ?_, ?_, reads.append readsRest fun empty => absurd empty nonempty⟩
    · rw [unifyLineEnds_append_of_meets meets.1, unified, ofCharacters_append, ← unifiedRest]
      rfl
    · simpa [clean] using fun member => cleanOthers (List.mem_cons_of_mem _ member)
  · refine ⟨characters ++ others, ?_, by simp [clean, cleanOthers],
      reads.append readsOthers fun empty => ?_⟩
    · rw [unifyLineEnds_append meets, unified, unifiedOthers, ofCharacters_append]
    · subst empty
      refine complete ?_
      by_contra nonempty
      exact unifyLineEnds_ne_nil nonempty unifiedOthers

/-- What says something is not empty. -/
theorem ReadsAs.ne_nil {text : Text} {contents : List LineContent} {open_ : Bool}
    (reads : ReadsAs text contents open_) (nonempty : contents ≠ []) : text ≠ [] := by
  rintro rfl
  obtain ⟨characters, unified, -, reads⟩ := reads
  exact reads.ne_nil nonempty (List.map_eq_nil_iff.1 unified.symm)

/-- Source lines have one line feed each. -/
theorem AreSourceLines.length_eq {lines : List Text} (areLines : AreSourceLines lines)
    {text : List Char} (unified : unifyLineEnds lines.flatten = ofCharacters text) :
    lines.length = text.count '\n' := by
  have injective : Function.Injective CodePoint.scalar := fun _ _ => CodePoint.scalar.inj
  rw [← List.count_map_of_injective text CodePoint.scalar injective, ← ofCharacters, ← unified]
  clear unified
  induction lines with
  | nil => rfl
  | cons line others inductionHypothesis =>
    obtain ⟨isLine, areOthers, apart⟩ := areLines.cons
    obtain ⟨body, unifiedLine, oneLine⟩ := isLine.unifyLineEnds
    rw [List.flatten_cons, unifyLineEnds_append apart, unifiedLine, List.count_append,
      List.count_append, List.count_eq_zero_of_not_mem oneLine, ← inductionHypothesis areOthers]
    simp [Nat.add_comm]

/-- Where whole lines end in the characters, they end between source lines. -/
theorem AreSourceLines.exists_append {lines : List Text} (areLines : AreSourceLines lines)
    {text rest : List Char} (unified : unifyLineEnds lines.flatten = ofCharacters (text ++ rest))
    (ends : ∃ body, text = body ++ ['\n']) :
    ∃ front behind, lines = front ++ behind ∧ front.length = text.count '\n' ∧
      unifyLineEnds front.flatten = ofCharacters text ∧
      unifyLineEnds behind.flatten = ofCharacters rest := by
  induction lines generalizing text with
  | nil =>
    obtain ⟨body, rfl⟩ := ends
    simp [unifyLineEnds, ofCharacters] at unified
  | cons line others inductionHypothesis =>
    obtain ⟨isLine, areOthers, apart⟩ := areLines.cons
    obtain ⟨body, unifiedLine, oneLine⟩ := isLine.unifyLineEnds
    rw [List.flatten_cons, unifyLineEnds_append apart, unifiedLine, List.append_assoc,
      ofCharacters, eq_comm, List.map_eq_append_iff] at unified
    obtain ⟨before, after, split, rfl, unifiedAfter⟩ := unified
    obtain ⟨lineEnd, after, rfl, isFeed, unifiedOthers⟩ := List.map_eq_cons_iff.1 unifiedAfter
    obtain rfl := CodePoint.scalar.inj isFeed
    have absent : '\n' ∉ before := fun member => oneLine (List.mem_map_of_mem member)
    have unifiedHere : line.unifyLineEnds = ofCharacters (before ++ ['\n']) := by
      rw [unifiedLine, ofCharacters_append]
      rfl
    have single : (before ++ ['\n']).count '\n' = 1 := by
      rw [List.count_append, List.count_eq_zero_of_not_mem absent]
      rfl
    rcases List.append_eq_append_iff.1 split with ⟨middle, rfl, -⟩ | ⟨middle, rfl, behind⟩
    · obtain ⟨body, rfl⟩ := ends
      exact absurd (by simp) absent
    · cases middle with
      | nil =>
        obtain ⟨body, ended⟩ := ends
        rw [List.append_nil] at ended
        exact absurd (by simp [ended]) absent
      | cons first middle =>
        obtain ⟨rfl, rfl⟩ := List.cons.inj behind
        cases middle with
        | nil =>
          exact ⟨[line], others, rfl, single.symm, by simpa using unifiedHere, unifiedOthers.symm⟩
        | cons second middle =>
          have later : ∃ body, second :: middle = body ++ ['\n'] := by
            obtain ⟨body, ended⟩ := ends
            have last := congrArg List.getLast? ended
            rw [List.getLast?_concat, List.getLast?_append, List.getLast?_cons_cons] at last
            exact List.getLast?_eq_some_iff.1 (by simpa using last)
          obtain ⟨front, back, rfl, height, unifiedFront, unifiedBack⟩ :=
            inductionHypothesis areOthers unifiedOthers.symm later
          refine ⟨line :: front, back, rfl, ?_, ?_, unifiedBack⟩
          · rw [List.length_cons, height, List.count_append, List.count_eq_zero_of_not_mem absent,
              List.count_cons_self, Nat.zero_add]
          · have apartFront : ¬Meets line front.flatten := by
              rintro ⟨isReturn, isFeed⟩
              refine apart ⟨isReturn, ?_⟩
              rw [List.flatten_append, List.head?_append, isFeed]
              rfl
            rw [List.flatten_cons, unifyLineEnds_append apartFront, unifiedHere, unifiedFront,
              ← ofCharacters_append, List.append_assoc]
            rfl

end Text

end DifferenceTypes
