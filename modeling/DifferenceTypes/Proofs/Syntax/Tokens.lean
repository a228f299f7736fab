import DifferenceTypes.Syntax.Lexer
import Mathlib.Tactic.Tauto

/-!
# Tokens by themselves

Where a token ends depends on what follows it, but not on much: a separating character ends every
token that has not ended before, except a string. So a token that is read before such a character is
read in the same way before any other one, whatever comes later.
-/

namespace DifferenceTypes.Lexer

/-- Whether the character ends every name and number before it, and is no quote. -/
def endsWord (character : Char) : Bool :=
  !isNamePart character && !(['\'', '"', '.', '+', '-'].elem character)

/-- Whether the character ends every token before it that is no string: it cannot go on with a name,
a number or a symbol, and it is no quote. -/
def separates (character : Char) : Bool :=
  !isNamePart character &&
    !(['\'', '"', '.', '=', '*', '/', '<', '>', '+', '-'].elem character)

/-! ### What is written is taken from the front -/

/-- A string's body and its closing quotes are taken from the front. -/
theorem exists_append_of_stringBody? {quote : Char} {triple : Bool} {characters body after : List Char}
    (found : stringBody? quote triple characters = some (body, after)) :
    ∃ written, written ≠ [] ∧ characters = written ++ after := by
  fun_induction stringBody? quote triple characters generalizing body after with
  | case1 => exact nomatch found
  | case2 next rest inductionHypothesis =>
    obtain ⟨⟨inner, remaining⟩, read, same⟩ := Option.map_eq_some_iff.1 found
    obtain ⟨written, -, split⟩ := inductionHypothesis read
    obtain ⟨rfl, rfl⟩ := Prod.mk.inj same
    exact ⟨'\\' :: next :: written, by simp, by simp [split]⟩
  | case3 first rest other closes =>
    obtain ⟨rfl, rfl⟩ := Prod.mk.inj (Option.some.inj found)
    exact ⟨[first], by simp, rfl⟩
  | case4 first rest other single closes =>
    obtain ⟨rfl, rfl⟩ := Prod.mk.inj (Option.some.inj found)
    exact ⟨first :: rest.take 2, by simp, by simp⟩
  | case5 => exact nomatch found
  | case6 first rest other single closes inside inductionHypothesis =>
    obtain ⟨⟨inner, remaining⟩, read, same⟩ := Option.map_eq_some_iff.1 found
    obtain ⟨written, -, split⟩ := inductionHypothesis read
    obtain ⟨rfl, rfl⟩ := Prod.mk.inj same
    exact ⟨first :: written, by simp, by simp [split]⟩

/-- A string with its flags is taken from the front. -/
theorem exists_append_of_string? {characters quoted after : List Char} {flags literal : StringToken}
    (start : stringStart? characters = some (flags, quoted))
    (read : string? flags quoted = some (literal, after)) :
    ∃ written, written ≠ [] ∧ characters = written ++ after := by
  have split : characters = characters.takeWhile Char.isAlpha ++ quoted := by
    simp only [stringStart?] at start
    split at start
    · obtain ⟨_, -, same⟩ := Option.map_eq_some_iff.1 start
      obtain ⟨-, rfl⟩ := Prod.mk.inj same
      exact (List.prefix_iff_eq_append.1 (List.takeWhile_prefix _)).symm
    · exact nomatch start
  cases quoted with
  | nil => exact nomatch read
  | cons quote rest =>
    simp only [string?] at read
    obtain ⟨⟨body, remaining⟩, readBody, same⟩ := Option.map_eq_some_iff.1 read
    obtain ⟨-, rfl⟩ := Prod.mk.inj same
    obtain ⟨written, -, inside⟩ := exists_append_of_stringBody? readBody
    by_cases triple : [quote, quote].isPrefixOf rest = true
    · rw [if_pos triple] at inside
      refine ⟨characters.takeWhile Char.isAlpha ++ quote :: rest.take 2 ++ written, by simp, ?_⟩
      rw [List.append_assoc, ← inside]
      simpa using split
    · rw [if_neg triple] at inside
      refine ⟨characters.takeWhile Char.isAlpha ++ quote :: written, by simp, ?_⟩
      rw [List.append_assoc, List.cons_append, ← inside]
      exact split

/-- What can start a name can be in one. -/
theorem isNamePart_of_startsName {first : Char}
    (starts : (first.isAlpha || first == '_' || decide (first.toNat ≥ 0x80)) = true) :
    isNamePart first = true := by
  simp only [isNamePart, Char.isAlphanum, Bool.or_eq_true] at starts ⊢
  tauto

/-- A symbol is taken from the front. -/
theorem exists_append_of_read? {characters after : List Char} {symbol : Symbol}
    (read : Symbol.read? characters = some (symbol, after)) :
    ∃ written, written ≠ [] ∧ characters = written ++ after := by
  unfold Symbol.read? at read
  split at read
  · exact nomatch read
  · obtain ⟨⟨spelling, candidate⟩, member, matched⟩ := List.exists_of_findSome?_eq_some read
    simp only at matched
    split at matched
    · rename_i isPrefix
      obtain ⟨-, rfl⟩ := Prod.mk.inj (Option.some.inj matched)
      refine ⟨spelling, Symbol.ne_nil_of_mem_spellings member, ?_⟩
      exact List.prefix_iff_eq_append.1 (List.isPrefixOf_iff_prefix.1 isPrefix) |>.symm
    · exact nomatch matched

/-- A token is taken from the front. -/
theorem exists_append_of_visible? {characters after : List Char} {kind : TokenKind}
    (found : visible? characters = some (kind, after)) :
    ∃ written, written ≠ [] ∧ characters = written ++ after := by
  cases characters with
  | nil => exact nomatch found
  | cons first rest =>
    simp only [visible?] at found
    cases start : stringStart? (first :: rest) with
    | some flagged =>
      obtain ⟨flags, quoted⟩ := flagged
      rw [start] at found
      obtain ⟨⟨literal, remaining⟩, read, same⟩ := Option.map_eq_some_iff.1 found
      obtain ⟨-, rfl⟩ := Prod.mk.inj same
      exact exists_append_of_string? start read
    | none =>
      rw [start] at found
      simp only at found
      split at found
      · rename_i startsName
        obtain ⟨_, -, same⟩ := Option.map_eq_some_iff.1 found
        obtain ⟨-, rfl⟩ := Prod.mk.inj same
        refine ⟨(first :: rest).takeWhile isNamePart, ?_, List.takeWhile_append_dropWhile.symm⟩
        simp [isNamePart_of_startsName startsName]
      · split at found
        · obtain ⟨⟨value, left⟩, -, same⟩ := Option.bind_eq_some_iff.1 found
          simp only at same
          split at same
          · exact nomatch same
          · rename_i positive
            obtain ⟨-, rfl⟩ := Prod.mk.inj (Option.some.inj same)
            refine ⟨(first :: rest).take _, ?_, (List.take_append_drop _ _).symm⟩
            simpa using positive
        · obtain ⟨⟨symbol, remaining⟩, read, same⟩ := Option.map_eq_some_iff.1 found
          obtain ⟨-, rfl⟩ := Prod.mk.inj same
          exact exists_append_of_read? read

/-- A token is written with a character at least. -/
theorem ne_nil_of_visible? {written after : List Char} {kind : TokenKind}
    (found : visible? (written ++ after) = some (kind, after)) : written ≠ [] := by
  rintro rfl
  obtain ⟨taken, nonempty, split⟩ := exists_append_of_visible? found
  exact nonempty (List.self_eq_append_left.1 split)

/-! ### What follows a separating character does not matter -/

/-- One character of a string's body that is no backslash. -/
theorem stringBody?_cons {quote first : Char} {triple : Bool} (rest : List Char)
    (plain : first ≠ '\\') :
    stringBody? quote triple (first :: rest) =
      if first == quote && !triple then some ([], rest)
      else if first == quote && [quote, quote].isPrefixOf rest then some ([], rest.drop 2)
      else if first == '\n' && !triple then none
      else (stringBody? quote triple rest).map fun (body, after) => (first :: body, after) := by
  rw [stringBody?]
  intro next remaining same
  exact absurd same plain

/-- What follows a string's body is shorter than what the body was read from. -/
theorem not_stringBody?_of_length {quote : Char} {triple : Bool} {characters body after : List Char}
    (short : characters.length ≤ after.length) :
    stringBody? quote triple characters ≠ some (body, after) := by
  intro found
  obtain ⟨written, nonempty, rfl⟩ := exists_append_of_stringBody? found
  have positive := List.length_pos_iff.2 nonempty
  rw [List.length_append] at short
  omega

section Separating

variable {stop other : Char}

/-- Two quotes in front of a character that is none are found or not whatever follows it. -/
theorem isPrefixOf_quotes {quote : Char} (stops : stop ≠ quote) (characters following : List Char) :
    [quote, quote].isPrefixOf (characters ++ stop :: following) =
      [quote, quote].isPrefixOf characters := by
  have fails : (quote == stop) = false := beq_eq_false_iff_ne.2 stops.symm
  match characters with
  | [] => simp [List.isPrefixOf, fails]
  | [first] => simp [List.isPrefixOf, fails]
  | first :: second :: rest => simp [List.isPrefixOf]

/-- A string whose quotes close before a character that is no quote is read in the same way before any
other one, whatever follows. -/
theorem stringBody?_before {quote : Char} {triple : Bool} (stops : stop ≠ quote) (otherStops : other ≠ quote)
    (following after : List Char) {characters body left : List Char}
    (found : stringBody? quote triple (characters ++ stop :: following) =
      some (body, left ++ stop :: following)) :
    stringBody? quote triple (characters ++ other :: after) =
      some (body, left ++ other :: after) := by
  induction size : characters.length using Nat.strongRecOn
    generalizing characters body left with
  | _ size inductionHypothesis =>
  match characters with
  | [] => exact absurd found (not_stringBody?_of_length (by simp))
  | first :: rest =>
    by_cases plain : first = '\\'
    · subst plain
      match rest with
      | [] =>
        simp only [List.cons_append, List.nil_append, stringBody?] at found
        obtain ⟨⟨inner, remaining⟩, read, same⟩ := Option.map_eq_some_iff.1 found
        obtain ⟨-, rfl⟩ := Prod.mk.inj same
        exact absurd read (not_stringBody?_of_length (by simp; omega))
      | next :: rest =>
        simp only [List.cons_append, stringBody?] at found ⊢
        obtain ⟨⟨inner, remaining⟩, read, same⟩ := Option.map_eq_some_iff.1 found
        obtain ⟨rfl, rfl⟩ := Prod.mk.inj same
        rw [inductionHypothesis rest.length (by simp only [← size, List.length_cons]; omega) read rfl]
        rfl
    · rw [List.cons_append, stringBody?_cons _ plain] at found ⊢
      rw [isPrefixOf_quotes stops] at found
      rw [isPrefixOf_quotes otherStops]
      by_cases single : (first == quote && !triple) = true
      · rw [if_pos single] at found ⊢
        obtain ⟨rfl, same⟩ := Prod.mk.inj (Option.some.inj found)
        rw [List.append_cancel_right same]
      · rw [if_neg single] at found ⊢
        by_cases closes : (first == quote && [quote, quote].isPrefixOf rest) = true
        · rw [if_pos closes] at found ⊢
          obtain ⟨rfl, same⟩ := Prod.mk.inj (Option.some.inj found)
          match rest with
          | [] => simp [List.isPrefixOf] at closes
          | [second] => simp [List.isPrefixOf] at closes
          | second :: third :: rest =>
            simp only [List.cons_append, List.drop_succ_cons, List.drop_zero] at same ⊢
            rw [List.append_cancel_right same]
        · rw [if_neg closes] at found ⊢
          by_cases ends : (first == '\n' && !triple) = true
          · rw [if_pos ends] at found
            exact nomatch found
          · rw [if_neg ends] at found ⊢
            obtain ⟨⟨inner, remaining⟩, read, same⟩ := Option.map_eq_some_iff.1 found
            obtain ⟨rfl, rfl⟩ := Prod.mk.inj same
            rw [inductionHypothesis rest.length (by simp [← size]) read rfl]
            rfl

theorem ne_of_separates (stops : separates stop = true) {character : Char}
    (excluded : character ∈ ['\'', '"', '.', '=', '*', '/', '<', '>', '+', '-']) :
    stop ≠ character := by
  rintro rfl
  simp only [separates, Bool.and_eq_true, Bool.not_eq_true', List.elem_eq_mem] at stops
  simp [excluded] at stops

theorem endsWord_of_separates (stops : separates stop = true) : endsWord stop = true := by
  simp only [separates, endsWord, Bool.and_eq_true, Bool.not_eq_true', List.elem_eq_mem,
    decide_eq_false_iff_not, List.mem_cons, List.not_mem_nil, or_false, not_or] at stops ⊢
  tauto

theorem isNamePart_of_endsWord (ends : endsWord stop = true) : isNamePart stop = false := by
  simp only [endsWord, Bool.and_eq_true, Bool.not_eq_true'] at ends
  exact ends.1

theorem ne_of_endsWord (ends : endsWord stop = true) {character : Char}
    (excluded : character ∈ ['\'', '"', '.', '+', '-']) : stop ≠ character := by
  rintro rfl
  simp only [endsWord, Bool.and_eq_true, Bool.not_eq_true', List.elem_eq_mem] at ends
  simp [excluded] at ends

theorem isAlpha_of_endsWord (ends : endsWord stop = true) : stop.isAlpha = false := by
  have part := isNamePart_of_endsWord ends
  simp only [isNamePart, Char.isAlphanum, Bool.or_eq_false_iff] at part
  exact part.1.1.1

theorem isDigit_of_endsWord (ends : endsWord stop = true) : stop.isDigit = false := by
  have part := isNamePart_of_endsWord ends
  simp only [isNamePart, Char.isAlphanum, Bool.or_eq_false_iff] at part
  exact part.1.1.2

/-- The front on which a test holds ends before a character that fails it. -/
theorem takeWhile_append_of_fails {test : Char → Bool} (fails : test stop = false)
    (front following : List Char) :
    (front ++ stop :: following).takeWhile test = front.takeWhile test := by
  induction front with
  | nil => simp [fails]
  | cons first rest inductionHypothesis => simp [List.takeWhile_cons, inductionHypothesis]

/-- What is left behind the front on which a test holds keeps a character that fails it. -/
theorem dropWhile_append_of_fails {test : Char → Bool} (fails : test stop = false)
    (front following : List Char) :
    (front ++ stop :: following).dropWhile test = front.dropWhile test ++ stop :: following := by
  induction front with
  | nil => simp [fails]
  | cons first rest inductionHypothesis =>
    simp only [List.cons_append, List.dropWhile_cons, inductionHypothesis]
    split <;> rfl

/-- Where a string starts shows before a character that ends words. -/
theorem stringStart?_append (ends : endsWord stop = true) (characters following : List Char) :
    stringStart? (characters ++ stop :: following) =
      (stringStart? characters).map fun (flags, quoted) =>
        (flags, quoted ++ stop :: following) := by
  have letters := takeWhile_append_of_fails (isAlpha_of_endsWord ends) characters following
  have short : (characters.takeWhile Char.isAlpha).length ≤ characters.length :=
    (List.takeWhile_prefix _).length_le
  simp only [stringStart?, letters, List.drop_append_of_le_length short]
  cases characters.drop (characters.takeWhile Char.isAlpha).length with
  | nil =>
    have single : stop ≠ '\'' := ne_of_endsWord ends (by simp)
    have double : stop ≠ '"' := ne_of_endsWord ends (by simp)
    simp [single, double]
  | cons quote rest =>
    simp only [List.cons_append, List.head?_cons, Bool.and_eq_true, decide_eq_true_eq]
    by_cases starts : (characters.takeWhile Char.isAlpha).length ≤ 2 ∧
        (some quote == some '\'' || some quote == some '"') = true
    · simp only [if_pos starts, Option.map_map, Function.comp_def, List.cons_append]
    · simp only [if_neg starts, Option.map_none]

/-- How far a number reaches ends before a character that ends words. -/
theorem numberExtent_append (ends : endsWord stop = true) (behindExponent : Bool)
    (characters following : List Char) :
    numberExtent behindExponent (characters ++ stop :: following) =
      numberExtent behindExponent characters := by
  induction characters generalizing behindExponent with
  | nil =>
    have part := isNamePart_of_endsWord ends
    have point : stop ≠ '.' := ne_of_endsWord ends (by simp)
    have plus : stop ≠ '+' := ne_of_endsWord ends (by simp)
    have minus : stop ≠ '-' := ne_of_endsWord ends (by simp)
    simp [numberExtent, part, point, plus, minus]
  | cons first rest inductionHypothesis =>
    simp only [List.cons_append, numberExtent, inductionHypothesis]

theorem numberExtent_length_le (behindExponent : Bool) (characters : List Char) :
    (numberExtent behindExponent characters).length ≤ characters.length := by
  induction characters generalizing behindExponent with
  | nil => simp [numberExtent]
  | cons first rest inductionHypothesis =>
    simp only [numberExtent]
    split
    · simpa using inductionHypothesis _
    · simp

/-- What goes on with excluded characters only does not reach a separating character. -/
theorem isPrefixOf_append_of_tail (stops : separates stop = true) {initial : Char}
    {tail : List Char}
    (excluded : ∀ character ∈ tail,
      character ∈ ['\'', '"', '.', '=', '*', '/', '<', '>', '+', '-'])
    (first : Char) (rest following : List Char) :
    (initial :: tail).isPrefixOf (first :: rest ++ stop :: following) =
      (initial :: tail).isPrefixOf (first :: rest) := by
  induction tail generalizing initial first rest with
  | nil => simp [List.isPrefixOf]
  | cons next tail inductionHypothesis =>
    have fails : (next == stop) = false :=
      beq_eq_false_iff_ne.2 (ne_of_separates stops (excluded next (by simp))).symm
    have later : ∀ character ∈ tail, _ := fun character inside =>
      excluded character (List.mem_cons_of_mem _ inside)
    cases rest with
    | nil => simp [List.isPrefixOf, fails]
    | cons second rest =>
      have same : (next :: tail).isPrefixOf (second :: rest ++ stop :: following) =
          (next :: tail).isPrefixOf (second :: rest) := inductionHypothesis later second rest
      simp only [List.cons_append] at same ⊢
      rw [List.isPrefixOf, same]
      rfl

/-- A symbol in front of a separating character is read whatever follows. -/
theorem read?_append (stops : separates stop = true) (first : Char) (rest following : List Char) :
    Symbol.read? (first :: rest ++ stop :: following) =
      (Symbol.read? (first :: rest)).map fun found => (found.1, found.2 ++ stop :: following) := by
  have tails : ∀ entry ∈ Symbol.spellings, ∀ character ∈ entry.1.tail,
      character ∈ ['\'', '"', '.', '=', '*', '/', '<', '>', '+', '-'] := by
    have all : (Symbol.spellings.all fun entry => entry.1.tail.all
        ['\'', '"', '.', '=', '*', '/', '<', '>', '+', '-'].elem) = true := by decide
    intro entry listed character inside
    exact List.elem_iff.1 (List.all_eq_true.1 (List.all_eq_true.1 all entry listed) character inside)
  have old : ['<', '>'].isPrefixOf (first :: rest ++ stop :: following) =
      ['<', '>'].isPrefixOf (first :: rest) :=
    isPrefixOf_append_of_tail stops (by simp) first rest following
  have entries : ∀ table : List (List Char × Symbol), (∀ entry ∈ table, entry ∈ Symbol.spellings) →
      (table.findSome? fun entry =>
        if entry.1.isPrefixOf (first :: rest ++ stop :: following) then
          some (entry.2, (first :: rest ++ stop :: following).drop entry.1.length) else none) =
      (table.findSome? fun entry =>
        if entry.1.isPrefixOf (first :: rest) then
          some (entry.2, (first :: rest).drop entry.1.length) else none).map
        fun found => (found.1, found.2 ++ stop :: following) := by
    intro table inside
    induction table with
    | nil => rfl
    | cons entry table inductionHypothesis =>
      have later := inductionHypothesis fun other member => inside other (by simp [member])
      have member := inside entry (by simp)
      obtain ⟨spelling, symbol⟩ := entry
      have nonempty := Symbol.ne_nil_of_mem_spellings member
      obtain ⟨initial, tail, rfl⟩ := List.exists_cons_of_ne_nil nonempty
      have same : (initial :: tail).isPrefixOf (first :: rest ++ stop :: following) =
          (initial :: tail).isPrefixOf (first :: rest) :=
        isPrefixOf_append_of_tail stops (tails _ member) first rest following
      rw [List.findSome?_cons, List.findSome?_cons, later]
      simp only
      by_cases isPrefix : (initial :: tail).isPrefixOf (first :: rest) = true
      · have short := (List.isPrefixOf_iff_prefix.1 isPrefix).length_le
        rw [same, if_pos isPrefix, if_pos isPrefix, List.drop_append_of_le_length short]
        rfl
      · rw [same, if_neg isPrefix, if_neg isPrefix]
  unfold Symbol.read?
  rw [old, entries _ fun _ => id]
  split <;> rfl

/-- A symbol is read in the same way where it is cut off behind it. -/
theorem read?_of_append {characters following left : List Char} {symbol : Symbol}
    (read : Symbol.read? (characters ++ following) = some (symbol, left ++ following)) :
    Symbol.read? characters = some (symbol, left) := by
  have shorter {spelling : List Char} (isPrefix : spelling <+: characters) :
      spelling.isPrefixOf (characters ++ following) = true :=
    List.isPrefixOf_iff_prefix.2 (isPrefix.trans (List.prefix_append _ _))
  have entries : ∀ table : List (List Char × Symbol),
      (table.findSome? fun entry =>
        if entry.1.isPrefixOf (characters ++ following) then
          some (entry.2, (characters ++ following).drop entry.1.length) else none) =
        some (symbol, left ++ following) →
      (table.findSome? fun entry =>
        if entry.1.isPrefixOf characters then some (entry.2, characters.drop entry.1.length) else none) =
        some (symbol, left) := by
    intro table found
    induction table with
    | nil => cases found
    | cons entry table inductionHypothesis =>
      obtain ⟨spelling, candidate⟩ := entry
      rw [List.findSome?_cons] at found ⊢
      by_cases isPrefix : spelling.isPrefixOf (characters ++ following) = true
      · simp only [isPrefix, if_true, Option.some.injEq, Prod.mk.injEq] at found
        obtain ⟨rfl, same⟩ := found
        have lengths := congrArg List.length same
        have reached := (List.isPrefixOf_iff_prefix.1 isPrefix).length_le
        simp only [List.length_drop, List.length_append] at lengths reached
        have short : spelling.length ≤ characters.length := by omega
        have own := List.prefix_of_prefix_length_le (List.isPrefixOf_iff_prefix.1 isPrefix)
          (List.prefix_append characters following) short
        rw [List.drop_append_of_le_length short] at same
        simp only [List.isPrefixOf_iff_prefix.2 own, if_true, List.append_cancel_right same]
      · have none : ¬ spelling.isPrefixOf characters = true := fun own =>
          isPrefix (shorter (List.isPrefixOf_iff_prefix.1 own))
        simp only [isPrefix, none] at found ⊢
        exact inductionHypothesis found
  unfold Symbol.read? at read ⊢
  by_cases old : ['<', '>'].isPrefixOf characters = true
  · rw [if_pos (shorter (List.isPrefixOf_iff_prefix.1 old))] at read
    cases read
  · rw [if_neg old]
    split at read
    · cases read
    · exact entries _ read

/-- Where a string starts there is a quote behind its flags. -/
theorem quote_of_stringStart? {characters quoted : List Char} {flags : StringToken}
    (start : stringStart? characters = some (flags, quoted)) :
    quoted.head? = some '\'' ∨ quoted.head? = some '"' := by
  simp only [stringStart?, Bool.and_eq_true, Bool.or_eq_true, beq_iff_eq] at start
  split at start
  · rename_i condition
    obtain ⟨_, -, same⟩ := Option.map_eq_some_iff.1 start
    obtain ⟨-, rfl⟩ := Prod.mk.inj same
    exact condition.2
  · exact nomatch start

/-- A string that ends before a character that ends words is read in the same way before any other such
character, whatever follows. -/
theorem string?_before (ends : endsWord stop = true) (otherEnds : endsWord other = true)
    (following after : List Char) {quoted left : List Char} {flags literal : StringToken}
    (quotes : quoted.head? = some '\'' ∨ quoted.head? = some '"')
    (read : string? flags (quoted ++ stop :: following) =
      some (literal, left ++ stop :: following)) :
    string? flags (quoted ++ other :: after) = some (literal, left ++ other :: after) := by
  cases quoted with
  | nil => simp at quotes
  | cons quote rest =>
    have excluded : quote ∈ ['\'', '"', '.', '+', '-'] := by
      rcases quotes with single | double
      · simp [Option.some.inj single]
      · simp [Option.some.inj double]
    have fails := ne_of_endsWord ends excluded
    have otherFails := ne_of_endsWord otherEnds excluded
    simp only [List.cons_append, string?, isPrefixOf_quotes fails] at read
    simp only [List.cons_append, string?, isPrefixOf_quotes otherFails]
    obtain ⟨⟨body, remaining⟩, readBody, same⟩ := Option.map_eq_some_iff.1 read
    obtain ⟨rfl, rfl⟩ := Prod.mk.inj same
    by_cases triple : [quote, quote].isPrefixOf rest = true
    · match rest with
      | [] => simp [List.isPrefixOf] at triple
      | [second] => simp [List.isPrefixOf] at triple
      | second :: third :: rest =>
        simp only [triple, if_true, List.cons_append, List.drop_succ_cons, List.drop_zero]
          at readBody ⊢
        rw [stringBody?_before fails otherFails following after readBody]
        rfl
    · rw [if_neg triple] at readBody ⊢
      rw [stringBody?_before fails otherFails following after readBody]
      rfl

/-- A token that is no string is read before a character that ends words whatever follows, or it is read
as a symbol. -/
theorem visible?_append_or_read? (ends : endsWord stop = true) {first : Char} {rest : List Char}
    (plain : stringStart? (first :: rest) = none) (following : List Char) :
    visible? (first :: rest ++ stop :: following) =
        (visible? (first :: rest)).map (fun (kind, after) => (kind, after ++ stop :: following)) ∨
      visible? (first :: rest ++ stop :: following) =
          (Symbol.read? (first :: rest ++ stop :: following)).map
            (fun (symbol, after) => (.symbol symbol, after)) ∧
        visible? (first :: rest) =
          (Symbol.read? (first :: rest)).map fun (symbol, after) => (.symbol symbol, after) := by
  have part := isNamePart_of_endsWord ends
  have start := stringStart?_append ends (first :: rest) following
  rw [plain, Option.map_none] at start
  have digits : ((rest ++ stop :: following).head?.map Char.isDigit).getD false =
      (rest.head?.map Char.isDigit).getD false := by
    cases rest with
    | nil => simp [isDigit_of_endsWord ends]
    | cons second rest => rfl
  rw [List.cons_append] at start ⊢
  simp only [visible?, start, plain, digits]
  split
  · refine .inl ?_
    rw [← List.cons_append, takeWhile_append_of_fails part, dropWhile_append_of_fails part]
    simp only [Option.map_map, Function.comp_def]
  · split
    · refine .inl ?_
      rw [← List.cons_append, numberExtent_append ends]
      cases NumberLiteral.read? (numberExtent false (first :: rest)) with
      | none => rfl
      | some number =>
        have short := numberExtent_length_le false (first :: rest)
        have taken : (numberExtent false (first :: rest)).length - number.2.length ≤
            (first :: rest).length := by omega
        simp only [Option.bind_some, List.drop_append_of_le_length taken]
        split <;> rfl
    · exact .inr ⟨rfl, rfl⟩

/-- A token that is no string is read before a separating character whatever follows. -/
theorem visible?_append (stops : separates stop = true) {first : Char} {rest : List Char}
    (plain : stringStart? (first :: rest) = none) (following : List Char) :
    visible? (first :: rest ++ stop :: following) =
      (visible? (first :: rest)).map fun (kind, after) => (kind, after ++ stop :: following) := by
  rcases visible?_append_or_read? (endsWord_of_separates stops) plain following with same | ⟨longer, shorter⟩
  · exact same
  · rw [longer, shorter, read?_append stops]
    simp only [Option.map_map, Function.comp_def]

/-- A token that is no string and ends before a character that ends words is read in the same way where
it is cut off there. -/
theorem visible?_of_append (ends : endsWord stop = true) {first : Char} {rest : List Char}
    (plain : stringStart? (first :: rest) = none) {following left : List Char} {kind : TokenKind}
    (found : visible? (first :: rest ++ stop :: following) = some (kind, left ++ stop :: following)) :
    visible? (first :: rest) = some (kind, left) := by
  rcases visible?_append_or_read? ends plain following with same | ⟨longer, shorter⟩
  · obtain ⟨⟨read, remaining⟩, readHere, split⟩ := Option.map_eq_some_iff.1 (same.symm.trans found)
    obtain ⟨rfl, behind⟩ := Prod.mk.inj split
    rw [readHere, ← List.append_cancel_right behind]
  · obtain ⟨⟨symbol, remaining⟩, read, split⟩ := Option.map_eq_some_iff.1 (longer.symm.trans found)
    obtain ⟨rfl, rfl⟩ := Prod.mk.inj split
    rw [shorter, read?_of_append read, Option.map_some]

/-- A token that ends before a character that ends words is read in the same way before any separating
character, whatever follows. -/
theorem visible?_before (ends : endsWord stop = true) (stops : separates other = true)
    (following after : List Char) {characters left : List Char} {kind : TokenKind}
    (found : visible? (characters ++ stop :: following) = some (kind, left ++ stop :: following)) :
    visible? (characters ++ other :: after) = some (kind, left ++ other :: after) := by
  cases characters with
  | nil =>
    obtain ⟨taken, nonempty, split⟩ := exists_append_of_visible? found
    have longer := congrArg List.length split
    have positive := List.length_pos_iff.2 nonempty
    simp at longer
    omega
  | cons first rest =>
    cases start : stringStart? (first :: rest) with
    | none => rw [visible?_append stops start, visible?_of_append ends start found, Option.map_some]
    | some flagged =>
      obtain ⟨flags, quoted⟩ := flagged
      have before := stringStart?_append ends (first :: rest) following
      have behind := stringStart?_append (endsWord_of_separates stops) (first :: rest) after
      rw [start, List.cons_append] at before behind
      rw [List.cons_append] at found ⊢
      simp only [visible?, before, behind, Option.map_some] at found ⊢
      obtain ⟨⟨literal, remaining⟩, read, same⟩ := Option.map_eq_some_iff.1 found
      obtain ⟨rfl, rfl⟩ := Prod.mk.inj same
      rw [string?_before ends (endsWord_of_separates stops) following after (quote_of_stringStart? start) read]
      rfl

end Separating

end DifferenceTypes.Lexer
