import DifferenceTypes.Proofs.Syntax.Brackets
import DifferenceTypes.Proofs.Syntax.ClassOrder
import DifferenceTypes.Proofs.Syntax.Parts

/-!
# How parts of expressions are written

The tokens of a part stand on one logical line, and its span goes from the first of them to the last. So
the source has its tokens there, with what stands between them, and behind them a character that goes on
with none of them (`Module.isWritten_of_standsBefore`).
-/

namespace DifferenceTypes

open DifferenceTypes.Parser Lexer ExpressionGrammar

namespace Layout

/-- Tokens that stand for text, up to a line end, are those of one line. -/
theorem exists_line_of_append {layout tokens front core behind others : List Token} {first ended : Token}
    (whole : front ++ (first :: core ++ behind) = layout ++ tokens ++ ended :: others)
    (hidden : first ∉ layout) (oneLine : ended ∉ first :: core) :
    (∃ before after, tokens = before ++ (first :: core ++ after) ∧ behind = after ++ ended :: others) ∨
      ∃ before, others = before ++ (first :: core ++ behind) := by
  have inLine (middle : List Token) (within : layout ++ tokens = front ++ (first :: core ++ middle)) :
      ∃ before, tokens = before ++ (first :: core ++ middle) := by
    rcases List.append_eq_append_iff.1 within with ⟨before, rfl, split⟩ | ⟨before, rfl, later⟩
    · exact ⟨before, split⟩
    · cases before with
      | nil => exact ⟨[], later.symm⟩
      | cons head more =>
        obtain ⟨rfl, -⟩ := List.cons.inj later
        exact absurd (by simp) hidden
  rw [← List.append_assoc] at whole
  rcases List.append_eq_append_iff.1 whole with ⟨middle, within, rfl⟩ | ⟨middle, beyond, below⟩
  · obtain ⟨before, split⟩ := inLine middle (by rw [within, List.append_assoc])
    exact .inl ⟨before, middle, split, rfl⟩
  · cases middle with
    | nil =>
      obtain ⟨before, split⟩ := inLine [] (by simpa using beyond.symm)
      exact .inl ⟨before, [], split, below.symm⟩
    | cons head middle =>
      obtain ⟨rfl, rfl⟩ := List.cons.inj below
      rw [List.append_cons (layout ++ tokens)] at beyond
      rcases List.append_eq_append_iff.1 beyond with ⟨more, ends, split⟩ | ⟨more, rfl, rfl⟩
      · rcases List.eq_nil_or_concat more with rfl | ⟨start, last, rfl⟩
        · exact .inr ⟨[], by simpa using congrArg (· ++ behind) split.symm⟩
        · rw [List.concat_eq_append, ← List.append_assoc] at ends
          obtain ⟨-, same⟩ := List.append_inj' ends rfl
          obtain rfl := (List.cons.inj same).1
          exact absurd (by simp [split]) oneLine
      · exact .inr ⟨more, by simp⟩

/-- Tokens of a group that start with text and hold no line end are those of one line. -/
theorem exists_line_of_tokens? {blocks : List Indentation} {lines : List Line} {first : Token}
    {front core behind : List Token} (laid : tokens? blocks lines = some (front ++ (first :: core ++ behind)))
    (visible : first.kind.isVisible = true) (oneLine : ∀ token ∈ first :: core, token.kind ≠ .newline) :
    ∃ line ∈ lines, ∃ before after more, line.tokens = before ++ (first :: core ++ after) ∧
      behind = after ++ layoutToken .newline :: more := by
  generalize whole : front ++ (first :: core ++ behind) = tokens at laid
  induction lines generalizing blocks front tokens with
  | nil =>
    cases laid
    have among : first ∈ List.replicate blocks.length (layoutToken .dedent) := by simp [← whole]
    rw [List.eq_of_mem_replicate among] at visible
    exact nomatch visible
  | cons line rest inductionHypothesis =>
    obtain ⟨⟨kinds, opened⟩, opens, laidRest⟩ := Option.bind_eq_some_iff.1 laid
    obtain ⟨others, laidOthers, same⟩ := Option.bind_eq_some_iff.1 laidRest
    cases same
    have hidden : first ∉ kinds.map layoutToken := by
      intro among
      obtain ⟨kind, isKind, rfl⟩ := List.mem_map.1 among
      exact nomatch (isVisible_of_mem_openBlocks opens kind isKind).symm.trans visible
    have noEnd : layoutToken .newline ∉ first :: core := fun among => oneLine _ among rfl
    rcases exists_line_of_append whole hidden noEnd with ⟨before, after, tokens, rfl⟩ | ⟨before, rfl⟩
    · exact ⟨line, List.mem_cons_self, before, after, _, tokens, rfl⟩
    · obtain ⟨other, among, holds⟩ := inductionHypothesis _ rfl laidOthers
      exact ⟨other, List.mem_cons_of_mem _ among, holds⟩

end Layout

namespace Lexer

/-! ### Behind the last token -/

theorem IsGap.endsWord {first : Char} {gap : List Char} (isGap : IsGap (first :: gap)) :
    endsWord first = true := by
  cases isGap with
  | lineEnd | continuation | comment => decide
  | space blank => exact endsWord_of_space (.inl blank)

/-- A symbol is written as it is spelled. -/
theorem exists_spelling_of_visible? {characters after : List Char} {symbol : Symbol}
    (found : visible? characters = some (.symbol symbol, after)) :
    ∃ spelling, (spelling, symbol) ∈ Symbol.spellings ∧ characters = spelling ++ after := by
  unfold visible? at found
  split at found
  · exact nomatch found
  · split at found
    · obtain ⟨_, -, same⟩ := Option.map_eq_some_iff.1 found
      exact nomatch same
    · split at found
      · obtain ⟨kind, named, same⟩ := Option.map_eq_some_iff.1 found
        obtain ⟨rfl, -⟩ := Prod.mk.inj same
        unfold nameKind? at named
        split at named
        · exact nomatch named
        · split at named <;> exact nomatch named
      · split at found
        · obtain ⟨_, -, taken⟩ := Option.bind_eq_some_iff.1 found
          dsimp only at taken
          split at taken <;> exact nomatch taken
        · obtain ⟨⟨read, remaining⟩, isRead, same⟩ := Option.map_eq_some_iff.1 found
          cases same
          unfold Symbol.read? at isRead
          split at isRead
          · exact nomatch isRead
          · obtain ⟨⟨spelling, candidate⟩, member, matched⟩ := List.exists_of_findSome?_eq_some isRead
            simp only at matched
            split at matched
            · next isPrefix =>
              cases matched
              obtain ⟨others, same⟩ := List.isPrefixOf_iff_prefix.1 isPrefix
              refine ⟨spelling, member, ?_⟩
              rw [← same]
              simp
            · exact nomatch matched

/-- No token goes on with what ends a type. -/
theorem Scans.exists_stop {brackets : List Symbol} {text : List Char} {pieces : List Piece}
    (scans : Scans brackets text pieces) (ends : ∀ piece ∈ pieces.head?, piece.kind.endsPart = true) :
    ∃ stop following, text = stop :: following ∧ endsWord stop = true := by
  cases pieces with
  | nil =>
    obtain ⟨body, rfl⟩ := scans.exists_append
    cases body with
    | nil => exact ⟨'\n', [], rfl, by decide⟩
    | cons stop following => exact ⟨stop, following ++ ['\n'], rfl, scans.isGap.endsWord⟩
  | cons piece others =>
    obtain ⟨inner, behind, rfl, isGap, read, -⟩ := scans.cons
    cases gap : piece.gap with
    | cons stop following => exact ⟨stop, _, rfl, (gap ▸ isGap).endsWord⟩
    | nil =>
      have here := read []
      rw [List.append_nil] at here
      obtain ⟨symbol, isSymbol⟩ : ∃ symbol, piece.kind = .symbol symbol := by
        have isEnd := ends piece rfl
        have visible := isVisible_of_visible? here
        cases kind : piece.kind with
        | symbol symbol => exact ⟨symbol, rfl⟩
        | newline =>
          rw [kind] at visible
          exact nomatch visible
        | _ =>
          rw [kind] at isEnd
          exact nomatch isEnd
      have all : ∀ entry ∈ Symbol.spellings, (TokenKind.symbol entry.2).endsPart = true →
          entry.1.head?.any Lexer.endsWord = true := by decide
      rw [isSymbol] at here
      obtain ⟨spelling, member, split⟩ := exists_spelling_of_visible? here
      have starts := all _ member (isSymbol ▸ ends piece rfl)
      obtain ⟨stop, isStop, isEnd⟩ := (Option.any_eq_true _ _).1 starts
      obtain ⟨rest, rfl⟩ := List.head?_eq_some_iff.1 isStop
      exact ⟨stop, rest ++ behind, by rw [List.nil_append, split]; rfl, isEnd⟩

/-! ### Tokens among others -/

theorem locate_append (position : Position) (front behind : List Piece) :
    locate position (front ++ behind) =
      locate position front ++ locate (advanceAll position (spelled front)) behind := by
  induction front generalizing position with
  | nil => rfl
  | cons piece front inductionHypothesis =>
    simp only [List.cons_append, locate, inductionHypothesis, spelled_cons, advanceAll_append]

theorem length_locate (position : Position) (pieces : List Piece) :
    (locate position pieces).length = pieces.length := by
  induction pieces generalizing position with
  | nil => rfl
  | cons piece rest inductionHypothesis => simp [locate, inductionHypothesis]

/-- Located tokens in two parts come from pieces in two parts. -/
theorem exists_of_locate_eq_append {position : Position} {pieces : List Piece} {front behind : List Token}
    (split : locate position pieces = front ++ behind) :
    ∃ before after, pieces = before ++ after ∧ front = locate position before ∧
      behind = locate (advanceAll position (spelled before)) after := by
  have lengths := congrArg List.length split
  rw [length_locate, List.length_append] at lengths
  have whole := List.take_append_drop front.length pieces
  rw [← whole, locate_append] at split
  obtain ⟨isFront, isBehind⟩ := List.append_inj split (by rw [length_locate, List.length_take]; omega)
  exact ⟨_, _, whole.symm, isFront.symm, isBehind.symm⟩

/-- Tokens go from the start of the first one to where all their characters end. -/
theorem stop_getLast?_locate {position : Position} {pieces : List Piece} {last : Token}
    (ends : (locate position pieces).getLast? = some last) :
    last.span.stop = advanceAll position (spelled pieces) := by
  induction pieces generalizing position with
  | nil => exact nomatch ends
  | cons piece rest inductionHypothesis =>
    rw [locate, List.getLast?_cons] at ends
    rw [spelled_cons, advanceAll_append, advanceAll_append]
    cases rest with
    | nil =>
      cases ends
      rfl
    | cons second others =>
      obtain ⟨final, isFinal⟩ : ∃ final, (locate (advanceAll (advanceAll position piece.gap) piece.written)
          (second :: others)).getLast? = some final := ⟨_, List.getLast?_cons⟩
      rw [isFinal] at ends
      cases ends
      exact inductionHypothesis isFinal

/-- Pieces are read as they are whatever stands behind what follows them. -/
theorem Spells.append {after : List Char} {pieces : List Piece} (spells : Spells after pieces)
    (more : List Char) : Spells (after ++ more) pieces := by
  induction pieces with
  | nil => trivial
  | cons piece rest inductionHypothesis =>
    obtain ⟨isGap, read, later⟩ := spells
    exact ⟨isGap, fun other => by simpa using read (more ++ other), inductionHypothesis later⟩

/-- How tokens are written that are an expression: they start without a gap, what follows them goes on with
none of them, and they may stand in so many brackets. -/
structure IsSpelled (depth : Nat) (pieces : List Piece) (following : List Char) (inside : Expr Extent) :
    Prop where
  spells : Spells following pieces
  ends : ∃ stop rest, following = stop :: rest ∧ endsWord stop = true
  gapless : ∀ piece ∈ pieces.head?, piece.gap = []
  whole : IsWhole (pieces.map (·.kind)) inside
  matched : ∀ brackets, brackets.length ≤ depth →
    matchBrackets (pieces.map (·.kind)) brackets = some brackets

theorem IsSpelled.append {depth : Nat} {pieces : List Piece} {following : List Char} {inside : Expr Extent}
    (isSpelled : IsSpelled depth pieces following inside) (more : List Char) :
    IsSpelled depth pieces (following ++ more) inside := by
  obtain ⟨stop, rest, rfl, ends⟩ := isSpelled.ends
  exact ⟨isSpelled.spells.append more, ⟨stop, rest ++ more, rfl, ends⟩, isSpelled.gapless, isSpelled.whole,
    isSpelled.matched⟩

/-- On a line a bracket that is closed behind some tokens is open where they stand. -/
theorem Scans.brackets_ne_nil {brackets : List Symbol} {text : List Char} {pieces : List Piece}
    {more : List TokenKind} (scans : Scans brackets text pieces)
    (closes : ClosesBracket (pieces.map (·.kind) ++ .newline :: more)) : brackets ≠ [] := by
  rintro rfl
  obtain ⟨inside, closing, behind, split, closed, oneLine, closesOne⟩ := closes
  have notEnd : closing ≠ .newline := by
    rintro rfl
    exact nomatch closesOne
  obtain ⟨others, kinds⟩ : ∃ others, pieces.map (·.kind) = inside ++ closing :: others := by
    rcases List.append_eq_append_iff.1 split with ⟨middle, rfl, ended⟩ | ⟨middle, kinds, ended⟩
    · cases middle with
      | nil => exact absurd (List.cons.inj ended).1.symm notEnd
      | cons first rest =>
        obtain ⟨rfl, -⟩ := List.cons.inj ended
        exact absurd (by simp) oneLine
    · cases middle with
      | nil => exact absurd (List.cons.inj ended).1 notEnd
      | cons first rest =>
        obtain ⟨rfl, -⟩ := List.cons.inj ended
        exact ⟨rest, kinds⟩
  have matched := scans.matchBrackets
  rw [kinds, matchBrackets_append] at matched
  obtain ⟨inner, before, after⟩ := Option.bind_eq_some_iff.1 matched
  obtain ⟨next, rfl, none, -⟩ := @exists_of_matchBrackets _ [] [] _ _ before closed
  obtain rfl := List.length_eq_zero_iff.1 none
  obtain ⟨_, here, -⟩ := Option.bind_eq_some_iff.1 after
  exact nomatch (matchBracket_nil closesOne).symm.trans here

/-- Tokens that are an expression are read from the characters at their place. -/
theorem Scans.exists_spelled {text : List Char} {pieces : List Piece}
    {position : Position} {before core after : List Token} {first : Token} {more : List TokenKind}
    {inside : Expr Extent} {depth : Nat} (scans : Scans [] text pieces)
    (located : locate position pieces = before ++ (first :: core ++ after))
    (ends : ∀ token ∈ after.head?, token.kind.endsPart = true)
    (whole : IsWhole ((first :: core).map (·.kind)) inside)
    (few : depth = 0 ∨ depth = 1 ∧ ClosesBracket (after.map (·.kind) ++ .newline :: more)) :
    ∃ front found following, text = front ++ (spelled found ++ following) ∧
      IsSpelled depth found following inside ∧ first.span.start = advanceAll position front ∧
      ∀ last, (first :: core).getLast? = some last →
        last.span.stop = advanceAll position (front ++ spelled found) := by
  obtain ⟨frontPieces, rest, rfl, rfl, isTail⟩ := exists_of_locate_eq_append located
  obtain ⟨corePieces, afterPieces, rfl, coreLocated, rfl⟩ := exists_of_locate_eq_append isTail.symm
  obtain ⟨inner, code, rfl, -, -, scansCore⟩ := scans.exists_spells
  obtain ⟨innermost, remaining, rfl, spells, matched, scansAfter⟩ := scansCore.exists_spells
  obtain ⟨stop, following, rfl, isEnd⟩ := scansAfter.exists_stop fun piece isNext => by
    obtain ⟨others, rfl⟩ := List.head?_eq_some_iff.1 isNext
    exact ends _ rfl
  have kinds := congrArg (List.map (·.kind)) coreLocated
  rw [kinds_locate] at kinds
  rw [kinds] at whole
  obtain ⟨rfl, always⟩ := matchBrackets_of_isBalanced matched whole.balanced
  have enough : depth ≤ innermost.length := by
    rcases few with rfl | ⟨rfl, closes⟩
    · exact Nat.zero_le _
    · rw [kinds_locate] at closes
      exact List.length_pos_iff.2 (scansAfter.brackets_ne_nil closes)
  cases corePieces with
  | nil => exact nomatch coreLocated
  | cons piece others =>
    refine ⟨spelled frontPieces ++ piece.gap, { piece with gap := [] } :: others, stop :: following, ?_,
      ⟨⟨.nil, spells.2⟩, ⟨stop, following, rfl, isEnd⟩, ?_, whole, ?_⟩, ?_, ?_⟩
    · simp [spelled_cons]
    · intro same isSame
      cases Option.mem_some_iff.1 isSame
      rfl
    · exact fun brackets fewer => always brackets (Nat.le_trans fewer enough)
    · rw [(List.cons.inj coreLocated).1, advanceAll_append]
    · intro last isLast
      rw [coreLocated] at isLast
      rw [stop_getLast?_locate isLast, ← advanceAll_append]
      simp [spelled_cons]

end Lexer

/-! ### Parts in a source -/

/-- The span of some tokens goes from the first to the last of them. -/
theorem Extent.toSpan_append {front core behind : List Token} {first last : Token}
    (starts : core.head? = some first) (ends : core.getLast? = some last)
    (visible : last.kind.isVisible = true) :
    Extent.toSpan (front ++ (core ++ behind)) ⟨(core ++ behind).length, behind.length⟩ =
      ⟨first.span.start, last.span.stop⟩ := by
  obtain ⟨rest, rfl⟩ := List.head?_eq_some_iff.1 starts
  obtain ⟨body, same⟩ := List.getLast?_eq_some_iff.1 ends
  have before : (front ++ (first :: rest ++ behind)).drop
      ((front ++ (first :: rest ++ behind)).length - (first :: rest ++ behind).length) =
        first :: rest ++ behind := by
    rw [List.length_append, Nat.add_sub_cancel, List.drop_left]
  have taken : (front ++ (first :: rest ++ behind)).take
      ((front ++ (first :: rest ++ behind)).length - behind.length) = front ++ (body ++ [last]) := by
    rw [← List.append_assoc, @List.length_append _ _ behind, Nat.add_sub_cancel, List.take_left, same]
  unfold toSpan
  dsimp only
  rw [before, taken]
  simp [visible]

/-- How an expression is written in a source: its span holds tokens that it takes. -/
def Expr.IsWritten (depth : Nat) (source : List Char) (expression : Expr) : Prop :=
  ∃ front pieces following inside, source = front ++ (spelled pieces ++ following) ∧
    expression.span = ⟨advanceAll ⟨1, 0⟩ front, advanceAll ⟨1, 0⟩ (front ++ spelled pieces)⟩ ∧
    IsSpelled depth pieces following inside ∧ inside.content = expression.content

namespace Layout

/-- Tokens of a group that start with text and hold no line end are those of a line of the source. -/
theorem exists_line_of_mem_groups {lines : List Line} {groups : List (List Token)}
    {front core behind : List Token} {first : Token}
    (laid : (Layout.groups (Layout.visible 0 lines)).mapM (tokens? []) = some groups)
    (among : front ++ (first :: core ++ behind) ∈ groups) (visible : first.kind.isVisible = true)
    (oneLine : ∀ token ∈ first :: core, token.kind ≠ .newline) :
    ∃ line ∈ Layout.visible 0 lines, ∃ before after more, line.tokens = before ++ (first :: core ++ after) ∧
      behind = after ++ layoutToken .newline :: more := by
  obtain ⟨earlier, later, rfl⟩ := List.append_of_mem among
  obtain ⟨above, group, below, grouped, -, laidGroup, -⟩ := LineContent.exists_of_mapM_eq_append laid
  obtain ⟨line, isLine, isWritten⟩ := exists_line_of_tokens? laidGroup visible oneLine
  refine ⟨line, ?_, isWritten⟩
  rw [← Layout.flatten_groups (Layout.visible 0 lines), grouped]
  exact List.mem_flatten.2 ⟨group, by simp, isLine⟩

end Layout

namespace Module

/-- A part that stands in a group of tokens is written in the source. -/
theorem isWritten_of_standsBefore {source : List Char} {lines : List Line} {groups : List (List Token)}
    (isSource : lines? source = some lines)
    (laid : (Layout.groups (Layout.visible 0 lines)).mapM (Layout.tokens? []) = some groups)
    {group : List Token} (isGroup : group ∈ groups) {behind : List TokenKind} {found : Expr Extent}
    (stands : StandsBefore behind (group.map (·.kind)) found) {depth : Nat}
    (few : depth = 0 ∨ depth = 1 ∧ ClosesBracket behind) :
    (found.map (Extent.toSpan group)).IsWritten depth source := by
  obtain ⟨texts, rfl, writes, -⟩ := lines?_eq_some_iff.1 isSource
  obtain ⟨before, core, inside, split, oneLine, ends, whole, moves⟩ := stands
  -- The tokens of the part are on one line.
  obtain ⟨kind, kinds, isKinds, visible⟩ := whole.single.exists_cons
  obtain ⟨beforeTokens, restTokens, rfl, isBefore, isRest⟩ := List.map_eq_append_iff.1 split
  obtain ⟨coreTokens, behindTokens, rfl, isCore, isBehind⟩ := List.map_eq_append_iff.1 isRest
  obtain ⟨first, others, rfl, isKind, -⟩ := List.map_eq_cons_iff.1 (isCore.trans isKinds)
  obtain ⟨line, isLine, front, after, more, lineTokens, isMore⟩ := Layout.exists_line_of_mem_groups laid
    isGroup (isKind ▸ visible) fun token isToken same => oneLine (isCore ▸ List.mem_map.2 ⟨token, isToken, same⟩)
  obtain ⟨isPlaced, isVisible⟩ := List.mem_filter.1 isLine
  -- They are written on it.
  obtain ⟨start, code, beyond, pieces, isTexts, scans, isLocated⟩ :=
    @exists_scans_of_mem_place _ _ writes [] (.inl rfl) line isPlaced (by simpa using isVisible)
  have areVisible := scans.isVisible (advanceAll ⟨1, 0⟩ start)
  rw [← isLocated, lineTokens] at areVisible
  have isAfter : behind = after.map (·.kind) ++ .newline :: more.map (·.kind) := by
    rw [← isBehind, isMore, List.map_append, List.map_cons]
    rfl
  rw [← isCore] at whole
  obtain ⟨blanks, written, following, rfl, spelled, isStart, isStop⟩ :=
    scans.exists_spelled (isLocated.symm.trans lineTokens) (fun token isNext => by
      obtain ⟨after, rfl⟩ := List.head?_eq_some_iff.1 isNext
      exact ends _ (by simp [isAfter])) whole (isAfter ▸ few)
  obtain ⟨last, isLast⟩ : ∃ last, (first :: others).getLast? = some last := ⟨_, List.getLast?_cons⟩
  have lastVisible := areVisible last
    (List.mem_append_right _ (List.mem_append_left _ (List.mem_of_getLast? isLast)))
  refine ⟨start ++ blanks, written, following ++ beyond, inside, ?_, ?_, spelled.append beyond, ?_⟩
  · simpa using isTexts
  · have lengths : behind.length = behindTokens.length := by rw [← isBehind, List.length_map]
    have span := @Extent.toSpan_append beforeTokens _ behindTokens _ _ rfl isLast lastVisible
    rw [moves, Expr.span_map, whole.span]
    simp only [Function.comp_apply, Extent.before, lengths, List.length_map, Nat.zero_add]
    rw [List.length_append] at span
    refine span.trans ?_
    rw [isStart, isStop last isLast, List.append_assoc]
    simp only [advanceAll_append]
  · rw [Expr.content_map, Expr.content, Expr.content, moves]

end Module

end DifferenceTypes
