import DifferenceTypes.Proofs.Syntax.Parentheses
import DifferenceTypes.Proofs.Syntax.TakenStatements

/-!
# Parts of expressions and their tokens

A part that is parsed alone, as an argument of a call or a decorator, takes tokens of its own among those
of the line (`StandsBefore`). Parentheses around all of them leave no trace, so it takes the tokens in the
innermost of them; put into parentheses again, wherever these stand, they say what the part says.

The arguments of a call stand in the tokens of the call, in front of a bracket that closes what is open
where they stand (`ExpressionGrammar.IsWhole.standsBefore_of_argument`). The one exception is a generator that
has no parentheses of its own: it takes those of the call.
-/

namespace DifferenceTypes

open DifferenceTypes.Parser ExpressionGrammar

/-! ### Standing in front of tokens -/

/-- Whether a token may stand behind a part, or behind what parentheses around it hold. -/
def TokenKind.endsPart (kind : TokenKind) : Bool :=
  kind.closes || kind == .newline || kind == .symbol .comma || kind == .symbol .equal ||
    kind == .symbol .semicolon

theorem TokenKind.endsPart_of_closes {kind : TokenKind} (closes : kind.closes = true) :
    kind.endsPart = true := by
  simp [endsPart, closes]

/-- An expression takes all of some tokens of a line, and these stand in front of others. -/
def StandsBefore (behind kinds : List TokenKind) (found : Expr Extent) : Prop :=
  ∃ front core inside, kinds = front ++ (core ++ behind) ∧ TokenKind.newline ∉ core ∧
    (∀ kind ∈ behind.head?, kind.endsPart = true) ∧ IsWhole core inside ∧
    ∀ (σ : Type) (change : Extent → σ), found.map change =
      inside.map (change ∘ Extent.before behind.length)

/-- Of the brackets that are open in front of some tokens, one is closed on the same line. -/
def ClosesBracket (kinds : List TokenKind) : Prop :=
  ∃ inside closing behind, kinds = inside ++ closing :: behind ∧ depthBehind? 0 inside = some 0 ∧
    TokenKind.newline ∉ inside ∧ closing.closes = true

theorem ClosesBracket.append {kinds : List TokenKind} (closes : ClosesBracket kinds)
    (more : List TokenKind) : ClosesBracket (kinds ++ more) := by
  obtain ⟨inside, closing, behind, rfl, others⟩ := closes
  exact ⟨inside, closing, behind ++ more, by simp, others⟩

namespace StandsBefore

variable {behind kinds : List TokenKind} {found : Expr Extent}

/-- A part stands where it does whatever is before it. -/
theorem prepend (stands : StandsBefore behind kinds found) (before : List TokenKind) :
    StandsBefore behind (before ++ kinds) found := by
  obtain ⟨front, core, inside, rfl, others⟩ := stands
  exact ⟨before ++ front, core, inside, (List.append_assoc ..).symm, others⟩

/-- A part of a piece is one of the tokens that the piece is put back into. -/
theorem append (stands : StandsBefore behind kinds found) {after : List TokenKind}
    (ends : ∀ kind ∈ after.head?, kind.endsPart = true) {moved : Expr Extent}
    (same : ∀ (σ : Type) (change : Extent → σ), moved.map change =
      found.map (change ∘ Extent.before after.length)) :
    StandsBefore (behind ++ after) (kinds ++ after) moved := by
  obtain ⟨front, core, inside, rfl, oneLine, isEnd, whole, moves⟩ := stands
  refine ⟨front, core, inside, by simp, oneLine, ?_, whole, fun σ change => ?_⟩
  · cases behind with
    | nil => simpa using ends
    | cons first others => simpa using isEnd
  · rw [same, moves, List.length_append]
    congr 1
    funext extent
    simp [Extent.before, Nat.add_assoc]

/-- A part of a piece that is put back. -/
theorem append_map (stands : StandsBefore behind kinds found) {after : List TokenKind}
    (ends : ∀ kind ∈ after.head?, kind.endsPart = true) :
    StandsBefore (behind ++ after) (kinds ++ after) (found.map (Extent.before after.length)) :=
  stands.append ends fun _ _ => Expr.map_map ..

end StandsBefore

namespace ExpressionGrammar

/-- A piece that is an expression holds it in front of what closes the parentheses around it. -/
theorem standsBefore_of_run_namedExpressionOf {kinds : List TokenKind} {found : Expr Extent}
    (oneLine : TokenKind.newline ∉ kinds)
    (whole : (namedExpressionOf (within (weight kinds) (weight kinds))).run kinds = some (found, [])) :
    IsBalanced kinds ∧ ∃ behind, (∀ kind ∈ behind.head?, kind.closes = true) ∧
      StandsBefore behind kinds found := by
  have takes : Parser.Takes IsBalanced (namedExpressionOf (within (weight kinds) (weight kinds))) :=
    have : (within (weight kinds) (weight kinds)).Takes IsBalanced := takes_ofDepth _ _
    inferInstance
  obtain ⟨taken, isTaken, balanced⟩ := takes.takesAt _ _ _ whole
  rw [List.append_nil] at isTaken
  subst isTaken
  obtain ⟨front, core, behind, inside, depth, rfl, closes, -, isWhole, moves⟩ :=
    (isSingle_of_run_namedExpressionOf whole).exists_core balanced
  exact ⟨balanced, behind, closes, front, core, inside, rfl, fun among => oneLine (by simp [among]),
    fun kind isNext => TokenKind.endsPart_of_closes (closes kind isNext), isWhole, moves⟩

end ExpressionGrammar

/-! ### Pieces between commas -/

namespace Parser

theorem length_flatten_splitCommas (nesting : Nesting) (kinds : List TokenKind) :
    (splitCommas nesting kinds).flatten.length + (splitCommas nesting kinds).length = kinds.length + 1 := by
  induction kinds generalizing nesting with
  | nil => rfl
  | cons kind rest inductionHypothesis =>
    unfold splitCommas
    split
    · have later := inductionHypothesis .outside
      rw [List.flatten_cons, List.nil_append, List.length_cons, List.length_cons, ← later, Nat.add_assoc]
    · have later := inductionHypothesis (nesting.behind kind)
      split
      · next piece others split =>
        rw [split, List.flatten_cons, List.length_append, List.length_cons] at later
        rw [List.flatten_cons, List.length_append, List.length_cons, List.length_cons, List.length_cons]
        omega
      · next split =>
        rw [split] at later
        simp at later

/-- How many brackets are open behind a token. -/
theorem depthBehind?_cons (nesting : Nesting) (kind : TokenKind) (rest : List TokenKind) {depth : Nat}
    (closed : depthBehind? nesting.depth (kind :: rest) = some depth) :
    depthBehind? (nesting.behind kind).depth rest = some depth := by
  unfold depthBehind? at closed
  unfold Nesting.behind
  split at closed
  · next opens => simpa [opens] using closed
  · next plain =>
    split at closed
    · next closesOne =>
      split at closed
      · cases closed
      · simpa [plain, closesOne] using closed
    · next stays =>
      rw [if_neg plain, if_neg stays]
      split
      · exact closed
      · split
        · exact closed
        · split <;> exact closed

/-- The first piece between commas is all there is, or the others are those behind a comma. -/
theorem exists_of_splitCommas_cons {nesting : Nesting} {kinds first : List TokenKind}
    {others : List (List TokenKind)} (closed : depthBehind? nesting.depth kinds = some 0)
    (split : splitCommas nesting kinds = first :: others) :
    kinds = first ∧ others = [] ∨ ∃ rest, kinds = first ++ .symbol .comma :: rest ∧
      others = splitCommas .outside rest ∧ depthBehind? 0 rest = some 0 := by
  induction kinds generalizing nesting first with
  | nil =>
    cases split
    exact .inl ⟨rfl, rfl⟩
  | cons kind rest inductionHypothesis =>
    have later := depthBehind?_cons nesting kind rest closed
    unfold splitCommas at split
    split at split
    · next ends =>
      obtain ⟨isOutside, isComma⟩ := Bool.and_eq_true_iff.1 ends
      obtain rfl := eq_of_beq isComma
      obtain ⟨flush, -⟩ := Bool.and_eq_true_iff.1 isOutside
      cases split
      refine .inr ⟨rest, rfl, rfl, ?_⟩
      have plain : depthBehind? nesting.depth (.symbol .comma :: rest) = depthBehind? nesting.depth rest := rfl
      rw [plain, eq_of_beq flush] at closed
      exact closed
    · split at split
      · next piece more isSplit =>
        cases split
        rcases inductionHypothesis later isSplit with ⟨rfl, none⟩ | ⟨behind, rfl, areOthers, isClosed⟩
        · exact .inl ⟨rfl, none⟩
        · exact .inr ⟨behind, rfl, areOthers, isClosed⟩
      · next isSplit => exact absurd (length_flatten_splitCommas (nesting.behind kind) rest) (by simp [isSplit])

/-- Each piece between commas stands among the others. -/
theorem exists_of_mem_withTokensBehind {kinds : List TokenKind} {pieces : List (List TokenKind)}
    (closed : depthBehind? 0 kinds = some 0) (split : splitCommas .outside kinds = pieces)
    {piece : List TokenKind × Nat} (among : piece ∈ withTokensBehind pieces) :
    ∃ front behind, kinds = front ++ (piece.1 ++ behind) ∧ behind.length = piece.2 ∧
      (∀ kind ∈ behind.head?, kind = .symbol .comma) ∧ depthBehind? 0 behind = some 0 := by
  induction pieces generalizing kinds with
  | nil => exact nomatch among
  | cons first others inductionHypothesis =>
    rcases exists_of_splitCommas_cons closed split with ⟨rfl, rfl⟩ | ⟨rest, rfl, rfl, isClosed⟩
    · cases List.mem_singleton.1 among
      exact ⟨[], [], by simp, rfl, nofun, rfl⟩
    · rcases List.mem_cons.1 among with rfl | later
      · exact ⟨[], .symbol .comma :: rest, rfl, (length_flatten_splitCommas .outside rest).symm, by simp, isClosed⟩
      · obtain ⟨front, behind, rfl, others⟩ := inductionHypothesis isClosed rfl later
        exact ⟨first ++ .symbol .comma :: front, behind, by simp, others⟩

theorem mem_withTokensBehind_of_mem_elementsOf {kinds : List TokenKind} {piece : List TokenKind × Nat}
    (among : piece ∈ elementsOf kinds) : piece ∈ withTokensBehind (splitCommas .outside kinds) := by
  unfold elementsOf at among
  dsimp only at among
  split at among
  · exact List.dropLast_subset _ among
  · exact among

/-- What is parsed from pieces comes from one of them. -/
theorem exists_of_mem_eachAlone {α : Type} {change : (Extent → Extent) → α → α}
    {parser : List TokenKind → Parser α} {pieces : List (List TokenKind × Nat)} {behind : Nat}
    {values : List α} (parsed : eachAlone change parser pieces behind = some values) {value : α}
    (among : value ∈ values) :
    ∃ piece ∈ pieces, ∃ found, (parser piece.1).run piece.1 = some (found, []) ∧
      value = change (Extent.before (piece.2 + behind)) found := by
  induction pieces generalizing values with
  | nil =>
    cases parsed
    exact nomatch among
  | cons piece others inductionHypothesis =>
    unfold eachAlone at parsed inductionHypothesis
    rw [List.mapM_cons] at parsed
    obtain ⟨first, here, parsed⟩ := Option.bind_eq_some_iff.1 parsed
    obtain ⟨more, later, same⟩ := Option.bind_eq_some_iff.1 parsed
    cases same
    rcases List.mem_cons.1 among with rfl | inside
    · exact ⟨piece, List.mem_cons_self, exists_of_alone here⟩
    · obtain ⟨other, isOther, holds⟩ := inductionHypothesis later inside
      exact ⟨other, List.mem_cons_of_mem _ isOther, holds⟩

end Parser

/-! ### Arguments of a call -/

/-- Whether an expression unpacks another one. -/
def Expr.unpacks {σ : Type} : Expr σ → Bool
  | .starred _ _ => true
  | _ => false

/-- Whether an expression is a generator. -/
def Expr.isGenerator {σ : Type} : Expr σ → Bool
  | .generator .. => true
  | _ => false

/-- The arguments of a call that are no keywords. -/
def Expr.positional {σ : Type} : Expr σ → List (Expr σ)
  | .call _ _ positional _ => positional
  | _ => []

namespace ExpressionGrammar

theorem eq_of_run_seesKeyword {kinds rest : List TokenKind} {sees : Bool}
    (ran : seesKeyword.run kinds = some (sees, rest)) : rest = kinds := by
  obtain ⟨kind, left, peeked, ran⟩ := exists_of_run_bind ran
  obtain ⟨rfl, -⟩ := eq_of_run_peek peeked
  split at ran
  · obtain ⟨second, behind, peeked, gives⟩ := exists_of_run_bind ran
    cases gives
    exact eq_of_run_peekSecond peeked
  · cases ran
    rfl

/-- Whether an argument has no star and no keyword. -/
def Argument.isPlain {σ : Type} : Argument σ → Bool
  | .positional value => !value.unpacks
  | .keyword _ => false
  | .generated _ _ => true

/-- A plain argument is an expression, perhaps with clauses behind it. -/
theorem exists_of_run_argument {grammar : ExpressionGrammar} {kinds rest : List TokenKind}
    {found : Argument Extent} (ran : (argument grammar).run kinds = some (found, rest))
    (plain : found.isPlain = true) :
    ∃ value left, grammar.namedExpression.run kinds = some (value, left) ∧
      (found = .positional value ∧ rest = left ∨ ∃ behind, found = .generated value behind ∧
        seesClause.run left = some (true, left) ∧ (clauses grammar).run left = some (behind, rest)) := by
  obtain ⟨_, _, got, ran⟩ := exists_of_run_bind ran
  cases got
  obtain ⟨sees, left, asked, ran⟩ := exists_of_run_bind ran
  obtain rfl := eq_of_run_seesKeyword asked
  split at ran
  · obtain ⟨_, _, -, ran⟩ := exists_of_run_bind ran
    obtain ⟨_, _, -, ran⟩ := exists_of_run_bind ran
    obtain ⟨_, _, -, ran⟩ := exists_of_run_bind ran
    cases ran
    exact nomatch plain
  · obtain ⟨mapping, _, asked, ran⟩ := exists_of_run_bind ran
    have ⟨_, split⟩ := eq_of_run_accept? asked
    cases mapping with
    | true =>
      obtain ⟨_, _, -, ran⟩ := exists_of_run_bind ran
      cases ran
      exact nomatch plain
    | false =>
      obtain rfl := split rfl
      obtain ⟨starred, _, asked, ran⟩ := exists_of_run_bind ran
      have ⟨_, split⟩ := eq_of_run_accept? asked
      cases starred with
      | true =>
        obtain ⟨_, _, -, ran⟩ := exists_of_run_bind ran
        cases ran
        exact nomatch plain
      | false =>
        obtain rfl := split rfl
        obtain ⟨value, left, named, ran⟩ := exists_of_run_bind ran
        obtain ⟨generates, _, looked, ran⟩ := exists_of_run_bind ran
        obtain rfl := eq_of_run_seesClause looked
        cases generates with
        | true =>
          obtain ⟨behind, _, ranClauses, ran⟩ := exists_of_run_bind ran
          cases ran
          exact ⟨value, _, named, .inr ⟨behind, rfl, looked, ranClauses⟩⟩
        | false =>
          cases ran
          exact ⟨value, _, named, .inl ⟨rfl, rfl⟩⟩

/-- A generator that is an argument is read as one in the parentheses of the call. -/
theorem run_groupContents_of_generated {kinds : List TokenKind} {element : Expr Extent}
    {behind : List (Clause Extent)}
    (ran : (argument (pieceGrammar kinds)).run kinds = some (.generated element behind, [])) :
    (groupContents (pieceGrammar kinds)).run kinds = some (.comprehension element behind, []) := by
  obtain ⟨value, left, named, ⟨same, -⟩ | ⟨clauses, same, sees, ranClauses⟩⟩ := exists_of_run_argument ran rfl
  · exact nomatch same
  · cases same
    rw [run_groupContents_of_namedExpressionOf named]
    unfold contentsFrom
    simp [sees, ranClauses]

theorem mem_of_sortArguments? {σ : Type} {keywordSeen mappingSeen : Bool} {found : List (Argument σ)}
    {positional : List (Expr σ)} {keywords : List (Keyword σ)}
    (sorted : sortArguments? keywordSeen mappingSeen found = some (positional, keywords)) :
    ∀ value ∈ positional, .positional value ∈ found := by
  induction found generalizing keywordSeen mappingSeen positional keywords with
  | nil =>
    cases sorted
    exact nofun
  | cons first rest inductionHypothesis =>
    cases first with
    | positional value =>
      unfold sortArguments? at sorted
      dsimp only at sorted
      split at sorted
      all_goals
        split at sorted
        · obtain ⟨⟨others, more⟩, later, same⟩ := Option.map_eq_some_iff.1 sorted
          cases same
          intro other among
          rcases List.mem_cons.1 among with rfl | behind
          · exact List.mem_cons_self
          · exact List.mem_cons_of_mem _ (inductionHypothesis later other behind)
        · exact nomatch sorted
    | keyword value =>
      unfold sortArguments? at sorted
      obtain ⟨⟨others, more⟩, later, same⟩ := Option.map_eq_some_iff.1 sorted
      cases same
      exact fun other among => List.mem_cons_of_mem _ (inductionHypothesis later other among)
    | generated => exact nomatch sorted

/-- An argument is an expression between commas, or a generator that takes the parentheses of the call. -/
theorem exists_of_mem_arguments {bound : Nat} {mayGenerate : Bool} {kinds rest : List TokenKind}
    {positional : List (Expr Extent)} {keywords : List (Keyword Extent)} (lighter : weight kinds ≤ bound)
    (ran : (arguments ⟨nothing, upTo bound⟩ mayGenerate).run kinds = some ((positional, keywords), rest)) :
    ∃ contents closing, kinds = .symbol .leftParenthesis :: (contents ++ closing :: rest) ∧
      closing.closes = true ∧ IsBalanced contents ∧ ∀ value ∈ positional, value.unpacks = false →
        (∃ front piece behind inside, contents = front ++ (piece ++ behind) ∧
          (∀ kind ∈ behind.head?, kind = .symbol .comma) ∧ depthBehind? 0 behind = some 0 ∧
          (namedExpressionOf (within (weight piece) (weight piece))).run piece = some (inside, []) ∧
          value = inside.map (Extent.before (behind.length + (rest.length + 1)))) ∨
        ∃ element clauses, (groupContents (pieceGrammar contents)).run contents =
            some (.comprehension element clauses, []) ∧
          value = .generator ⟨kinds.length, rest.length⟩ (element.map (Extent.before (rest.length + 1)))
            (Clause.mapAll (Extent.before (rest.length + 1)) clauses) := by
  obtain ⟨_, _, got, ran⟩ := exists_of_run_bind ran
  cases got
  obtain ⟨⟨contents, count⟩, _, taken, ranPieces⟩ := exists_of_run_bind ran
  obtain ⟨found, left, lifted, gives⟩ := exists_of_run_bind ranPieces
  obtain ⟨parsed, rfl⟩ := eq_of_run_lift lifted
  obtain ⟨closing, closes, rfl, balanced, rfl⟩ := exists_of_run_enclosed taken
  -- What is parsed from a piece is parsed from it alone.
  have ofPiece {argument : Argument Extent} (among : argument ∈ found) :
      ∃ piece ∈ withTokensBehind (splitCommas .outside contents), ∃ inside,
        (ExpressionGrammar.argument (pieceGrammar piece.1)).run piece.1 = some (inside, []) ∧
          argument = inside.map (Extent.before (piece.2 + (left.length + 1))) := by
    obtain ⟨piece, isPiece, inside, ranPiece, moved⟩ := exists_of_mem_eachAlone parsed among
    have isBetween := mem_withTokensBehind_of_mem_elementsOf isPiece
    obtain ⟨front, behind, split, -⟩ := exists_of_mem_withTokensBehind (balanced 0) rfl isBetween
    have below : weight piece.1 < bound := by
      rw [split] at lighter
      simp [weight, weightOf] at lighter ⊢
      omega
    have grammar : (NestedGrammar.piece ⟨nothing, upTo bound⟩ piece.1).toExpressionGrammar =
        pieceGrammar piece.1 := upTo_weight below
    exact ⟨piece, isBetween, inside, grammar ▸ ranPiece, moved⟩
  split at gives
  · next element clauses =>
    split at gives
    · next generates =>
      obtain ⟨-, single⟩ := Bool.and_eq_true_iff.1 generates
      cases gives
      refine ⟨contents, closing, rfl, closes, balanced, fun value among _ => .inr ?_⟩
      cases List.mem_singleton.1 among
      obtain ⟨piece, isBetween, inside, ranPiece, moved⟩ := ofPiece List.mem_cons_self
      obtain ⟨first, isSplit⟩ := List.length_eq_one_iff.1 (eq_of_beq single)
      -- The only piece is all that the parentheses hold.
      have whole : piece = (contents, 0) := by
        rw [isSplit] at isBetween
        obtain rfl := List.mem_singleton.1 isBetween
        rcases exists_of_splitCommas_cons (balanced 0) isSplit with ⟨rfl, -⟩ | ⟨rest, -, none, -⟩
        · rfl
        · exact absurd (length_flatten_splitCommas .outside rest) (by simp [← none])
      subst whole
      cases inside with
      | positional | keyword => cases moved
      | generated own clauses =>
        cases moved
        refine ⟨own, clauses, run_groupContents_of_generated ranPiece, ?_⟩
        rw [Nat.zero_add]
    · cases gives
  · obtain ⟨sorted, rfl⟩ := eq_of_run_lift gives
    refine ⟨contents, closing, rfl, closes, balanced, fun value among packed => .inl ?_⟩
    obtain ⟨piece, isBetween, inside, ranPiece, moved⟩ := ofPiece (mem_of_sortArguments? sorted value among)
    obtain ⟨front, behind, split, length, isComma, closed⟩ :=
      exists_of_mem_withTokensBehind (balanced 0) rfl isBetween
    cases inside with
    | keyword | generated => cases moved
    | positional own =>
      obtain rfl := Argument.positional.inj moved
      have plain : (Argument.positional own).isPlain = true := by
        cases own with
        | starred => cases packed
        | _ => rfl
      obtain ⟨found, left, named, ⟨same, rfl⟩ | ⟨_, same, -⟩⟩ := exists_of_run_argument ranPiece plain
      · cases same
        exact ⟨front, piece.1, behind, own, split, isComma, closed, named, by rw [length]⟩
      · cases same

/-- Every argument of a call stands in the tokens of the call, in front of a bracket that closes what is
open there; only a generator may stand in the parentheses of the call. -/
theorem IsWhole.standsBefore_of_argument {core : List TokenKind} {span : Extent} {callee : Expr Extent}
    {positional : List (Expr Extent)} {keywords : List (Keyword Extent)}
    (whole : IsWhole core (.call span callee positional keywords)) (oneLine : TokenKind.newline ∉ core)
    {value : Expr Extent} (among : value ∈ positional) (packed : value.unpacks = false) :
    (∃ behind, ClosesBracket behind ∧ StandsBefore behind core value) ∨
      value.isGenerator = true ∧ StandsBefore [] core value := by
  obtain ⟨before, left, rfl, -, ran⟩ := whole.arguments
  have lighter : weight left ≤ weight (before ++ left) := by
    rw [weight_append]
    exact Nat.le_add_left _ _
  obtain ⟨contents, closing, rfl, closes, balanced, each⟩ := exists_of_mem_arguments lighter ran
  rcases each value among packed with
    ⟨front, piece, behind, inside, rfl, isComma, closed, named, rfl⟩ | ⟨element, clauses, read, rfl⟩
  · obtain ⟨-, own, ownCloses, stands⟩ :=
      standsBefore_of_run_namedExpressionOf (fun among => oneLine (by simp [among])) named
    have ends : ∀ kind ∈ (behind ++ [closing]).head?, kind.endsPart = true := by
      intro kind isNext
      cases behind with
      | nil =>
        cases isNext
        exact TokenKind.endsPart_of_closes closes
      | cons first others =>
        cases isNext
        rw [isComma _ rfl]
        rfl
    refine .inl ⟨own ++ (behind ++ [closing]), ?_, ?_⟩
    · cases own with
      | nil => exact ⟨behind, closing, [], rfl, closed, fun among => oneLine (by simp [among]), closes⟩
      | cons first others => exact ⟨[], first, _, rfl, rfl, nofun, ownCloses _ rfl⟩
    · have put := (stands.append_map ends).prepend (before ++ (.symbol .leftParenthesis :: front))
      simpa using put
  · have generates := run_namedExpressionOf_of_expressionOf
      (run_expressionOf_generator balanced closes (weight_lt_grouped contents closing) read)
    have balancedAll := isBalanced_grouped balanced closes
    refine .inr ⟨rfl, before, grouped contents closing, _, by simp [grouped], ?_, nofun,
      ⟨isSingle_of_run_namedExpressionOf generates, balancedAll, ?_, trivial⟩, fun σ change => ?_⟩
    · exact fun among => oneLine (List.mem_append_right _ among)
    · simp [length_grouped, Expr.span]
    · simp [Expr.map, Extent.before, Function.comp_def]

end ExpressionGrammar

namespace StandsBefore

variable {behind kinds : List TokenKind}

/-- What is said of a call in other places is said of its arguments there. -/
theorem exists_argument {span : Extent} {callee inside : Expr Extent} {positional : List (Expr Extent)}
    {keywords : List (Keyword Extent)} {move : Extent → Extent}
    (moves : ∀ (σ : Type) (change : Extent → σ),
      (Expr.call span callee positional keywords).map change = inside.map (change ∘ move))
    {value : Expr Extent} (among : value ∈ positional) :
    ∃ own others more name, inside = .call own name others more ∧ ∃ written ∈ others,
      ∀ (σ : Type) (change : Extent → σ), value.map change = written.map (change ∘ move) := by
  cases inside with
  | call own name others more =>
    have each (σ : Type) (change : Extent → σ) :
        positional.map (Expr.map change) = others.map (Expr.map (change ∘ move)) := by
      rw [← Expr.mapAll_eq_map, ← Expr.mapAll_eq_map]
      exact (Expr.call.inj (moves σ change)).2.2.1
    obtain ⟨index, below, rfl⟩ := List.getElem_of_mem among
    have lengths : positional.length = others.length := by
      simpa using congrArg List.length (each Unit fun _ => ())
    refine ⟨own, others, more, name, rfl, others[index], List.getElem_mem _, fun σ change => ?_⟩
    have here := congrArg (·[index]?) (each σ change)
    simpa [below, lengths ▸ below] using here
  | _ => exact nomatch moves Unit fun _ => ()

/-- An argument of a call stands where the call does, in front of more. -/
theorem argument {span : Extent} {callee : Expr Extent} {positional : List (Expr Extent)}
    {keywords : List (Keyword Extent)} (stands : StandsBefore behind kinds (.call span callee positional keywords))
    {value : Expr Extent} (among : value ∈ positional) (packed : value.unpacks = false) :
    (∃ more, ClosesBracket more ∧ StandsBefore (more ++ behind) kinds value) ∨
      value.isGenerator = true ∧ StandsBefore behind kinds value := by
  obtain ⟨front, core, inside, rfl, oneLine, ends, whole, moves⟩ := stands
  obtain ⟨own, others, more, name, rfl, written, isWritten, same⟩ := exists_argument moves among
  have kept : written.unpacks = value.unpacks ∧ written.isGenerator = value.isGenerator := by
    have contents := same Unit fun _ => ()
    cases written <;> cases value <;> first | exact ⟨rfl, rfl⟩ | exact nomatch contents
  rcases whole.standsBefore_of_argument oneLine isWritten (kept.1.trans packed) with
    ⟨before, closes, inCore⟩ | ⟨generates, inCore⟩
  · refine .inl ⟨before, closes, ?_⟩
    exact (inCore.append ends same).prepend front
  · refine .inr ⟨kept.2.symm.trans generates, ?_⟩
    exact (inCore.append ends same).prepend front

end StandsBefore

namespace StatementGrammar

/-- A decorator is read alone, as all that stands on its line. -/
theorem exists_of_wholeDecorator? {kinds : List TokenKind} {found : Expr Extent}
    (read : wholeDecorator? kinds = some found) :
    ∃ piece value, kinds = .symbol .at :: (piece ++ [.newline]) ∧ TokenKind.newline ∉ piece ∧
      (namedExpressionOf (within (weight piece) (weight piece))).run piece = some (value, []) ∧
      found = (value.map (Extent.before 1)).map (Extent.before 0) := by
  obtain ⟨decorator, ran, rfl⟩ := exists_of_alone read
  obtain ⟨_, left, isSign, ran⟩ := exists_of_run_bind ran
  obtain rfl := eq_of_run_expect isSign
  obtain ⟨piece, rfl, oneLine, alone⟩ := exists_of_run_restOfLine ran
  obtain ⟨value, named, rfl⟩ := exists_of_alone alone
  have lighter : weight piece < weight (.symbol .at :: (piece ++ [.newline])) := by
    simp [weight, weightOf]
    omega
  have grammar : ((NestedGrammar.ofWeight (weight (.symbol .at :: (piece ++ [.newline])))).piece
      piece).toExpressionGrammar = pieceGrammar piece := upTo_weight lighter
  rw [grammar] at named
  exact ⟨piece, value, rfl, oneLine, named, rfl⟩

/-- A decorator stands on its line. -/
theorem standsBefore_of_wholeDecorator? {kinds : List TokenKind} {found : Expr Extent}
    (read : wholeDecorator? kinds = some found) : ∃ behind, StandsBefore behind kinds found := by
  obtain ⟨piece, value, rfl, oneLine, named, rfl⟩ := exists_of_wholeDecorator? read
  obtain ⟨-, behind, -, stands⟩ := standsBefore_of_run_namedExpressionOf oneLine named
  have ends : ∀ kind ∈ [TokenKind.newline].head?, kind.endsPart = true := by
    intro kind isNext
    cases isNext
    rfl
  refine ⟨behind ++ [.newline], (stands.append ends fun σ change => ?_).prepend [.symbol .at]⟩
  rw [Expr.map_map, Expr.map_map]
  rfl

/-- An argument of a call that is an argument of a decorator stands on the line of the decorator, in
front of a bracket that closes what is open there. -/
theorem standsBefore_of_argument {kinds : List TokenKind} {decorator call value : Expr Extent}
    (read : wholeDecorator? kinds = some decorator) (isArgument : call ∈ decorator.positional)
    (among : value ∈ call.positional) (packed : value.unpacks = false) :
    ∃ behind, ClosesBracket behind ∧ StandsBefore behind kinds value := by
  obtain ⟨behind, stands⟩ := standsBefore_of_wholeDecorator? read
  cases decorator with
  | call =>
    cases call with
    | call =>
      rcases stands.argument isArgument rfl with ⟨more, closes, stands⟩ | ⟨generates, -⟩
      · rcases stands.argument among packed with ⟨others, closesOthers, stands⟩ | ⟨-, stands⟩
        · exact ⟨_, closesOthers.append _, stands⟩
        · exact ⟨_, closes.append _, stands⟩
      · exact nomatch generates
    | _ => exact nomatch among
  | _ => exact nomatch isArgument

end StatementGrammar

end DifferenceTypes
