import DifferenceTypes.Proofs.Syntax.Places

/-!
# Positions in the source

The positions of tokens count the characters of the source up to a token, or up to its end. So a
position in a span is one that is reached after some of the source's characters, with the line end of
the token's line still to come; and a token ends behind a character of its own, which ends no line.

Spans of expressions anywhere in a module are put together from these positions. `Module.exists_spans`
says so once for all of them: the module is the image of one whose spans carry the fact.
-/

namespace DifferenceTypes

namespace Lexer

/-! ### The last character of a token -/

theorem getLast?_of_stringBody? {quote : Char} {triple : Bool} {characters body after : List Char}
    (found : stringBody? quote triple characters = some (body, after)) :
    ∃ written, characters = written ++ after ∧ written.getLast? = some quote := by
  fun_induction stringBody? quote triple characters generalizing body after with
  | case1 => cases found
  | case2 next rest inductionHypothesis =>
    obtain ⟨⟨inner, remaining⟩, read, same⟩ := Option.map_eq_some_iff.1 found
    obtain ⟨written, rfl, last⟩ := inductionHypothesis read
    cases same
    exact ⟨'\\' :: next :: written, rfl, by simp [List.getLast?_cons, last]⟩
  | case3 first rest _ closes =>
    cases found
    obtain ⟨same, -⟩ := Bool.and_eq_true_iff.1 closes
    exact ⟨[first], rfl, by rw [eq_of_beq same]; rfl⟩
  | case4 first rest _ _ closes =>
    cases found
    obtain ⟨same, quotes⟩ := Bool.and_eq_true_iff.1 closes
    obtain ⟨others, rfl⟩ := List.isPrefixOf_iff_prefix.1 quotes
    exact ⟨[first, quote, quote], rfl, rfl⟩
  | case5 => cases found
  | case6 first rest _ _ _ _ inductionHypothesis =>
    obtain ⟨⟨inner, remaining⟩, read, same⟩ := Option.map_eq_some_iff.1 found
    obtain ⟨written, rfl, last⟩ := inductionHypothesis read
    cases same
    exact ⟨first :: written, rfl, by simp [List.getLast?_cons, last]⟩

/-- A string ends with its quote. -/
theorem getLast?_of_string? {characters quoted after : List Char} {flags literal : StringToken}
    (start : stringStart? characters = some (flags, quoted))
    (read : string? flags quoted = some (literal, after)) :
    ∃ written last, characters = written ++ after ∧ written.getLast? = some last ∧ last ≠ '\n' := by
  have split : characters = characters.takeWhile Char.isAlpha ++ quoted ∧
      (quoted.head? = some '\'' ∨ quoted.head? = some '"') := by
    simp only [stringStart?] at start
    split at start
    · next opens =>
      obtain ⟨_, -, same⟩ := Option.map_eq_some_iff.1 start
      cases same
      exact ⟨(List.prefix_iff_eq_append.1 (List.takeWhile_prefix _)).symm,
        by simpa using (Bool.and_eq_true_iff.1 opens).2⟩
    · cases start
  obtain ⟨whole, isQuote⟩ := split
  cases quoted with
  | nil => cases read
  | cons quote rest =>
    obtain ⟨⟨body, remaining⟩, found, same⟩ := Option.map_eq_some_iff.1 read
    cases same
    have other : quote ≠ '\n' := by
      rintro rfl
      simp at isQuote
    obtain ⟨written, taken, last⟩ := getLast?_of_stringBody? found
    refine ⟨characters.takeWhile Char.isAlpha ++
      quote :: ((if [quote, quote].isPrefixOf rest then [quote, quote] else []) ++ written), quote, ?_, ?_, other⟩
    · conv_lhs => rw [whole]
      by_cases triple : [quote, quote].isPrefixOf rest = true
      · rw [if_pos triple] at taken ⊢
        obtain ⟨others, rfl⟩ := List.isPrefixOf_iff_prefix.1 triple
        simp [show others = written ++ after from taken]
      · rw [if_neg triple] at taken ⊢
        simp [taken]
    · simp [List.getLast?_append, List.getLast?_cons, last]

theorem numberExtent_isPrefix (behindExponent : Bool) (characters : List Char) :
    numberExtent behindExponent characters <+: characters := by
  induction characters generalizing behindExponent with
  | nil => exact List.prefix_rfl
  | cons first rest inductionHypothesis =>
    unfold numberExtent
    split
    · exact (List.prefix_cons_inj first).2 (inductionHypothesis _)
    · exact List.nil_prefix

theorem ne_lineFeed_of_mem_numberExtent {behindExponent : Bool} {characters : List Char}
    {character : Char} (among : character ∈ numberExtent behindExponent characters) :
    character ≠ '\n' := by
  induction characters generalizing behindExponent with
  | nil => cases among
  | cons first rest inductionHypothesis =>
    unfold numberExtent at among
    split at among
    · next reaches =>
      rcases List.mem_cons.1 among with rfl | later
      · rintro rfl
        cases behindExponent <;> exact absurd reaches (by decide)
      · exact inductionHypothesis later
    · cases among

theorem not_lineFeed_mem_spellings {spelling : List Char} {symbol : Symbol}
    (member : (spelling, symbol) ∈ Symbol.spellings) : '\n' ∉ spelling := by
  have all : ∀ entry ∈ Symbol.spellings, '\n' ∉ entry.1 := by decide
  exact all _ member

/-- A token ends with a character that ends no line. -/
theorem getLast?_of_visible? {characters after : List Char} {kind : TokenKind}
    (found : visible? characters = some (kind, after)) :
    ∃ written last, characters = written ++ after ∧ written.getLast? = some last ∧ last ≠ '\n' := by
  have ends {written : List Char} (split : characters = written ++ after) (nonempty : written ≠ [])
      (clean : '\n' ∉ written) :
      ∃ written last, characters = written ++ after ∧ written.getLast? = some last ∧ last ≠ '\n' :=
    ⟨written, written.getLast nonempty, split, List.getLast?_eq_some_getLast nonempty,
      fun same => clean (same ▸ List.getLast_mem nonempty)⟩
  obtain ⟨taken, nonempty, split⟩ := exists_append_of_visible? found
  cases characters with
  | nil => cases found
  | cons first rest =>
    simp only [visible?] at found
    cases start : stringStart? (first :: rest) with
    | some pair =>
      rw [start] at found
      obtain ⟨⟨literal, remaining⟩, read, same⟩ := Option.map_eq_some_iff.1 found
      cases same
      exact getLast?_of_string? start read
    | none =>
      rw [start] at found
      simp only at found
      split at found
      · obtain ⟨_, -, same⟩ := Option.map_eq_some_iff.1 found
        cases same
        refine ends (List.takeWhile_append_dropWhile (p := isNamePart)).symm ?_ fun among => ?_
        · intro none
          refine nonempty ?_
          have same := (List.takeWhile_append_dropWhile (p := isNamePart) (l := first :: rest)).trans split
          rw [none] at same
          exact List.self_eq_append_left.1 same
        · exact absurd (List.mem_takeWhile_imp among) (by decide)
      · split at found
        · obtain ⟨⟨value, left⟩, -, found⟩ := Option.bind_eq_some_iff.1 found
          dsimp only at found
          split at found
          · cases found
          · cases found
            have isPrefix := List.prefix_iff_eq_take.1 (numberExtent_isPrefix false (first :: rest))
            refine ends (List.take_append_drop _ _).symm ?_ fun among => ?_
            · next some_ =>
              rw [ne_eq, List.take_eq_nil_iff]
              simpa using some_
            · rw [← Nat.min_eq_left (Nat.sub_le _ left.length), ← List.take_take, ← isPrefix] at among
              exact ne_lineFeed_of_mem_numberExtent (List.mem_of_mem_take among) rfl
        · obtain ⟨⟨symbol, remaining⟩, read, same⟩ := Option.map_eq_some_iff.1 found
          cases same
          unfold Symbol.read? at read
          split at read
          · cases read
          · obtain ⟨⟨spelling, candidate⟩, member, matched⟩ := List.exists_of_findSome?_eq_some read
            simp only at matched
            split at matched
            · next isPrefix =>
              cases matched
              obtain ⟨others, same⟩ := List.isPrefixOf_iff_prefix.1 isPrefix
              rw [← same] at ends ⊢
              exact ends (by simp) (Symbol.ne_nil_of_mem_spellings member) (not_lineFeed_mem_spellings member)
            · cases matched

/-! ### Positions that are reached -/

/-- The position after some of the source's characters, not after all of them. -/
def StandsIn (source : List Char) (position : Position) : Prop :=
  ∃ front behind, source = front ++ behind ∧ behind ≠ [] ∧ position = advanceAll ⟨1, 0⟩ front

/-- The same where the last of these characters ends no line. -/
def EndsIn (source : List Char) (position : Position) : Prop :=
  ∃ front last behind, source = front ++ last :: behind ∧ behind ≠ [] ∧ last ≠ '\n' ∧
    position = advanceAll ⟨1, 0⟩ (front ++ [last])

theorem EndsIn.standsIn {source : List Char} {position : Position} (ends : EndsIn source position) :
    StandsIn source position := by
  obtain ⟨front, last, behind, rfl, nonempty, -, rfl⟩ := ends
  exact ⟨front ++ [last], behind, by simp, nonempty, rfl⟩

theorem advanceAll_moveDown (above : Nat) (position : Position) (characters : List Char) :
    advanceAll (position.moveDown above) characters = (advanceAll position characters).moveDown above := by
  induction characters generalizing position with
  | nil => rfl
  | cons first rest inductionHypothesis =>
    have step : advance (position.moveDown above) first = (advance position first).moveDown above := by
      unfold advance
      split
      · exact congrArg (Position.mk · 0) (Nat.add_right_comm _ _ _)
      · rfl
    exact (congrArg (advanceAll · rest) step).trans (inductionHypothesis _)

/-- Behind whole lines a line is read as at the start, further down. -/
theorem advanceAll_lines {above : List Char} (ends : above = [] ∨ ∃ body, above = body ++ ['\n'])
    (characters : List Char) : advanceAll ⟨1, 0⟩ (above ++ characters) =
      (advanceAll ⟨1, 0⟩ characters).moveDown (above.count '\n') := by
  rw [advanceAll_append, ← advanceAll_moveDown]
  have line := line_advanceAll_eq ⟨1, 0⟩ above
  have column : (advanceAll ⟨1, 0⟩ above).column = 0 := by
    rcases ends with rfl | ⟨body, rfl⟩
    · rfl
    · rw [advanceAll_append]
      rfl
  refine congrArg (advanceAll · characters) ?_
  generalize advanceAll ⟨1, 0⟩ above = reached at line column
  cases reached
  cases line
  cases column
  rfl

/-- Where a token of a scan starts and ends. -/
theorem Scans.exists_front {brackets : List Symbol} {text : List Char} {pieces : List Piece}
    (scans : Scans brackets text pieces) (position : Position) :
    ∀ token ∈ locate position pieces,
      (∃ front behind, text = front ++ behind ∧ behind ≠ [] ∧ token.span.start = advanceAll position front) ∧
      ∃ front last behind, text = front ++ last :: behind ∧ behind ≠ [] ∧ last ≠ '\n' ∧
        token.span.stop = advanceAll position (front ++ [last]) := by
  induction pieces generalizing brackets text position with
  | nil => exact nofun
  | cons piece rest inductionHypothesis =>
    obtain ⟨inner, behind, rfl, -, read, -, later⟩ := scans.cons
    obtain ⟨others, ended⟩ := later.exists_append
    have nonempty : behind ≠ [] := by simp [ended]
    obtain ⟨written, last, split, isLast, other⟩ := getLast?_of_visible? (read [])
    have split := List.append_cancel_right split
    obtain ⟨body, whole⟩ := List.getLast?_eq_some_iff.1 isLast
    rw [← split] at whole
    intro token member
    rcases List.mem_cons.1 member with rfl | member
    · refine ⟨⟨piece.gap, piece.written ++ behind, rfl, by simp [nonempty], rfl⟩,
        piece.gap ++ body, last, behind, by simp [whole], nonempty, other, ?_⟩
      rw [List.append_assoc, ← whole, advanceAll_append]
    · obtain ⟨⟨front, after, rfl, someAfter, start⟩, before, final, remaining, divided, someRemaining,
        noFeed, stop⟩ := inductionHypothesis later _ token member
      refine ⟨⟨piece.gap ++ piece.written ++ front, after, by simp, someAfter, ?_⟩,
        piece.gap ++ piece.written ++ before, final, remaining, by simp [divided], someRemaining, noFeed, ?_⟩
      · rw [advanceAll_append, advanceAll_append]
        exact start
      · rw [List.append_assoc, advanceAll_append, advanceAll_append position]
        exact stop

theorem locate_moveDown (above : Nat) (position : Position) (pieces : List Piece) :
    (locate position pieces).map (Token.moveDown above) = locate (position.moveDown above) pieces := by
  induction pieces generalizing position with
  | nil => rfl
  | cons piece rest inductionHypothesis =>
    simp only [locate, List.map_cons, Token.moveDown, Span.moveDown, inductionHypothesis, advanceAll_moveDown]

/-- The tokens of a line that stands behind whole lines are read from its characters there. -/
theorem Writes.exists_scans {text : List Char} {line : Line} (writes : Writes text line)
    (visible : line.isBlank = false) {above : List Char} (ends : above = [] ∨ ∃ body, above = body ++ ['\n']) :
    ∃ blanks code pieces, text = blanks ++ code ∧ Scans [] code pieces ∧
      (line.moveDown (above.count '\n')).tokens = locate (advanceAll ⟨1, 0⟩ (above ++ blanks)) pieces := by
  cases writes with
  | @code blanks code indentation pieces indents scans starts =>
    refine ⟨blanks, code, pieces, rfl, scans, ?_⟩
    rw [advanceAll_lines ends, ← locate_moveDown]
    rfl
  | blank => exact nomatch visible
  | continuation => exact nomatch visible

/-- The tokens of lines are read where they are written. -/
theorem exists_scans_of_mem_place {texts : List (List Char)} {lines : List Line}
    (writes : List.Forall₂ Writes texts lines) {above : List Char}
    (ends : above = [] ∨ ∃ body, above = body ++ ['\n']) :
    ∀ line ∈ Layout.place (above.count '\n') lines, line.isBlank = false →
      ∃ front code behind pieces, above ++ texts.flatten = front ++ (code ++ behind) ∧
        Scans [] code pieces ∧ line.tokens = locate (advanceAll ⟨1, 0⟩ front) pieces := by
  induction writes generalizing above with
  | nil => exact nofun
  | @cons text line texts lines first later inductionHypothesis =>
    intro placed among visible
    rcases List.mem_cons.1 among with rfl | behind
    · rw [Layout.isBlank_moveDown] at visible
      obtain ⟨blanks, code, pieces, rfl, scans, tokens⟩ := first.exists_scans visible ends
      exact ⟨above ++ blanks, code, texts.flatten, pieces, by simp, scans, tokens⟩
    · obtain ⟨body, rfl⟩ := first.exists_append
      have closed : ∃ front, above ++ (body ++ ['\n']) = front ++ ['\n'] := ⟨above ++ body, by simp⟩
      have rest := inductionHypothesis (.inr closed) placed
      rw [List.count_append, ← first.height] at rest
      simpa using rest behind visible

/-- The tokens of lines stand where they are written. -/
theorem standsIn_of_mem_place {texts : List (List Char)} {lines : List Line}
    (writes : List.Forall₂ Writes texts lines) :
    ∀ line ∈ Layout.place 0 lines, ∀ token ∈ line.tokens,
      StandsIn texts.flatten token.span.start ∧ EndsIn texts.flatten token.span.stop := by
  intro line among token own
  have visible : line.isBlank = false := by
    rw [Line.isBlank, List.isEmpty_eq_false_iff]
    exact List.ne_nil_of_mem own
  obtain ⟨front, code, below, pieces, whole, scans, tokens⟩ :=
    @exists_scans_of_mem_place _ _ writes [] (.inl rfl) line among visible
  rw [tokens] at own
  obtain ⟨⟨before, behind, rfl, nonempty, start⟩, first, last, after, split, someAfter, other, stop⟩ :=
    scans.exists_front _ token own
  rw [← advanceAll_append] at start stop
  rw [List.nil_append] at whole
  rw [whole]
  exact ⟨⟨front ++ before, behind ++ below, by simp, by simp [nonempty], start⟩,
    front ++ first, last, after ++ below, by simp [split], by simp [someAfter], other, by simp [stop]⟩

end Lexer

/-! ### Spans that are reached -/

/-- A span is where it is written in a source, as far as it has tokens. -/
structure Span.IsPlaced (source : List Char) (span : Span) : Prop where
  start : span.start = default ∨ Lexer.StandsIn source span.start
  stop : span.stop = default ∨ Lexer.EndsIn source span.stop

theorem Extent.isPlaced_toSpan {source : List Char} {tokens : List Token}
    (placed : ∀ token ∈ tokens, token.span.IsPlaced source) (extent : Extent) :
    (extent.toSpan tokens).IsPlaced source := by
  constructor
  · unfold toSpan
    dsimp only
    cases found : (tokens.drop (tokens.length - extent.start)).head? with
    | none => exact .inl rfl
    | some token => exact (placed token (List.mem_of_mem_drop (List.mem_of_mem_head? found))).start
  · unfold toSpan
    dsimp only
    cases found : (tokens.take (tokens.length - extent.stop)).reverse.find? (·.kind.isVisible) with
    | none => exact .inl rfl
    | some token =>
      have among := List.mem_of_mem_take (List.mem_reverse.1 (List.mem_of_find?_eq_some found))
      exact (placed token among).stop

namespace Module

variable {σ : Type}

/-- Where all spans of groups are valid, all those of their statements are, at any depth. -/
theorem exists_valid {valid : σ → Prop} {groups : List (List TokenKind × (Extent → σ))}
    {statements : List (Stmt σ)} (read : ofGroups? [] groups = some statements)
    (validGroups : ∀ group ∈ groups, ∀ extent, valid (group.2 extent)) :
    ∃ marked : List (Stmt { span // valid span }), statements = Stmt.mapAll Subtype.val marked := by
  have mapped := ofGroups?_map (Subtype.val (p := valid)) []
    (groups.pmap (fun group holds => (group.1, fun extent => ⟨group.2 extent, holds extent⟩)) validGroups)
  have same : List.map (fun group => (group.1, Subtype.val ∘ group.2)) (groups.pmap (fun group holds =>
      (group.1, fun extent => (⟨group.2 extent, holds extent⟩ : { span // valid span }))) validGroups) =
      groups := by
    rw [List.map_pmap]
    exact (List.pmap_eq_map validGroups).trans (List.map_id _)
  rw [same, Expr.mapAll] at mapped
  obtain ⟨marked, -, same⟩ := Option.map_eq_some_iff.1 (mapped.symm.trans read)
  exact ⟨marked, same.symm⟩

/-- The spans of a module, at any depth, are where they are written in its source. -/
theorem exists_placed {source : List Char} {module : Module} (parsed : parse? source = some module) :
    ∃ marked : List (Stmt { span // Span.IsPlaced (withFinalLineEnd source) span }),
      module = Stmt.mapAll Subtype.val marked := by
  obtain ⟨lines, isSource, parsed⟩ := Option.bind_eq_some_iff.1 parsed
  obtain ⟨tokens, laid, read⟩ := Option.bind_eq_some_iff.1 parsed
  obtain ⟨texts, whole, writes, -⟩ := Lexer.lines?_eq_some_iff.1 isSource
  refine exists_valid read fun group among extent => ?_
  obtain ⟨found, isFound, rfl⟩ := List.mem_map.1 among
  refine Extent.isPlaced_toSpan (fun token isToken => ?_) extent
  obtain ⟨front, behind, rfl⟩ := List.append_of_mem isFound
  obtain ⟨before, lined, after, grouped, -, laidGroup, -⟩ :=
    Lexer.LineContent.exists_of_mapM_eq_append laid
  rcases Layout.mem_of_tokens? laidGroup token isToken with none | ⟨line, isLine, own⟩
  · exact ⟨.inl (congrArg Span.start none), .inl (congrArg Span.stop none)⟩
  · have placed : line ∈ Layout.visible 0 lines := by
      rw [Layout.visible, ← Layout.flatten_groups ((Layout.place 0 lines).filter _), grouped]
      exact List.mem_flatten.2 ⟨lined, by simp, isLine⟩
    obtain ⟨start, stop⟩ := Lexer.standsIn_of_mem_place writes line (List.mem_filter.1 placed).1 token own
    rw [← whole] at start stop
    exact ⟨.inr start, .inr stop⟩

end Module

end DifferenceTypes
