import DifferenceTypes.Proofs.Syntax.SimpleStatements

/-!
# What parsers take

A parser takes tokens from the front of its input and leaves the others as they are. What an expression
takes is closed in itself: it takes a bracket together with all that stands in it. So whatever a parser
of expressions takes can be put into brackets of its own.
-/

namespace DifferenceTypes.Parser

variable {α β : Type} {allowed : List TokenKind → Prop}

/-! ### Tokens that are closed in themselves -/

/-- How many brackets are open behind some tokens, if none of them closes one too many. -/
def depthBehind? : Nat → List TokenKind → Option Nat
  | depth, [] => some depth
  | depth, kind :: rest =>
    if kind.opens then depthBehind? (depth + 1) rest
    else if kind.closes then if depth = 0 then none else depthBehind? (depth - 1) rest
    else depthBehind? depth rest

/-- Whether brackets are closed where they are opened. -/
def IsBalanced (kinds : List TokenKind) : Prop :=
  ∀ depth, depthBehind? depth kinds = some depth

theorem depthBehind?_append (depth : Nat) (front behind : List TokenKind) :
    depthBehind? depth (front ++ behind) = (depthBehind? depth front).bind (depthBehind? · behind) := by
  induction front generalizing depth with
  | nil => rfl
  | cons kind rest inductionHypothesis =>
    simp only [List.cons_append, depthBehind?, inductionHypothesis]
    split
    · rfl
    · split
      · split <;> rfl
      · rfl

theorem isBalanced_singleton {kind : TokenKind} (opens : kind.opens = false) (closes : kind.closes = false) :
    IsBalanced [kind] := by
  intro depth
  simp [depthBehind?, opens, closes]

theorem TokenKind.opens_eq_false_of_closes {kind : TokenKind} (closes : kind.closes = true) :
    kind.opens = false := by
  cases kind with
  | symbol symbol => cases symbol <;> first | rfl | exact nomatch closes
  | _ => rfl

/-- What stands before the bracket that closes is closed in itself. -/
theorem exists_of_splitClosing? {depth : Nat} {kinds contents rest : List TokenKind}
    (split : splitClosing? depth kinds = some (contents, rest)) :
    ∃ closing, closing.closes = true ∧ kinds = contents ++ closing :: rest ∧
      ∀ outer, depthBehind? (depth + outer) contents = some outer := by
  induction kinds generalizing depth contents rest with
  | nil => exact nomatch split
  | cons kind others inductionHypothesis =>
    unfold splitClosing? at split
    split at split
    · next here =>
      obtain ⟨closes, outermost⟩ := Bool.and_eq_true_iff.1 here
      obtain rfl := eq_of_beq outermost
      cases split
      exact ⟨kind, closes, rfl, fun outer => by simp [depthBehind?]⟩
    · next goesOn =>
      obtain ⟨⟨inside, after⟩, later, same⟩ := Option.map_eq_some_iff.1 split
      cases same
      obtain ⟨closing, closes, rfl, depths⟩ := inductionHypothesis later
      refine ⟨closing, closes, rfl, fun outer => ?_⟩
      have behind := depths outer
      unfold depthBehind?
      split
      · next opens =>
        rw [if_pos opens, Nat.add_right_comm] at behind
        exact behind
      · next opens =>
        rw [if_neg opens] at behind
        split
        · next closes =>
          have positive : depth ≠ 0 := by
            rintro rfl
            simp [closes] at goesOn
          rw [if_pos closes, ← Nat.sub_add_comm (Nat.pos_of_ne_zero positive)] at behind
          rw [if_neg (by omega)]
          exact behind
        · next closes =>
          rw [if_neg closes] at behind
          exact behind

/-! ### What parsers leave -/

section Leaving

variable {kinds rest : List TokenKind} {found : α}

/-- A token that may be taken is the next one if it is taken, and nothing is taken otherwise. -/
theorem eq_of_run_accept? {kind : TokenKind} {accepted : Bool}
    (ran : (accept? kind).run kinds = some (accepted, rest)) :
    (accepted = true → kinds = kind :: rest) ∧ (accepted = false → kinds = rest) := by
  unfold accept? at ran
  obtain ⟨next, left, peeked, ran⟩ := exists_of_run_bind ran
  obtain ⟨rfl, rfl⟩ := eq_of_run_peek peeked
  split at ran
  · next same =>
    obtain ⟨_, _, took, ran⟩ := exists_of_run_bind ran
    cases ran
    cases kinds with
    | nil => exact nomatch took
    | cons first others =>
      cases took
      exact ⟨fun _ => by rw [show first = kind from eq_of_beq same], nofun⟩
  · cases ran
    exact ⟨nofun, fun _ => rfl⟩

/-- Looking at the token after the next one takes nothing. -/
theorem eq_of_run_peekSecond {kind : TokenKind} (ran : peekSecond.run kinds = some (kind, rest)) :
    rest = kinds := by
  match kinds with
  | [] | [_] | _ :: _ :: _ =>
    cases ran
    rfl

/-- What holds before all steps and is kept by each of them holds behind the last one. -/
theorem holds_of_run_iterate {holds : α → List TokenKind → Prop} {step : α → Parser (Option α)}
    (goesOn : ∀ {value kinds next rest}, holds value kinds →
      (step value).run kinds = some (some next, rest) → holds next rest)
    (ends : ∀ {value kinds rest}, holds value kinds → (step value).run kinds = some (none, rest) →
      holds value rest)
    {count : Nat} {first : α} (before : holds first kinds)
    (ran : (iterate step count first).run kinds = some (found, rest)) : holds found rest := by
  induction count generalizing first kinds with
  | zero =>
    cases ran
    exact before
  | succ count inductionHypothesis =>
    unfold iterate at ran
    obtain ⟨next, left, stepped, ran⟩ := exists_of_run_bind ran
    cases next with
    | some value => exact inductionHypothesis (goesOn before stepped) ran
    | none =>
      cases ran
      exact ends before stepped

theorem holds_of_run_repeated {holds : α → List TokenKind → Prop} {step : α → Parser (Option α)}
    (goesOn : ∀ {value kinds next rest}, holds value kinds →
      (step value).run kinds = some (some next, rest) → holds next rest)
    (ends : ∀ {value kinds rest}, holds value kinds → (step value).run kinds = some (none, rest) →
      holds value rest)
    {first : α} (before : holds first kinds)
    (ran : (repeated step first).run kinds = some (found, rest)) : holds found rest :=
  holds_of_run_iterate goesOn ends before ran

/-- What holds before all items and is kept by each of them holds behind the last one. The items stand
latest first. -/
theorem holds_of_run_many {holds : List α → List TokenKind → Prop} {item? : Parser (Option α)}
    (goesOn : ∀ {items kinds item rest}, holds items kinds → item?.run kinds = some (some item, rest) →
      holds (item :: items) rest)
    (ends : ∀ {items kinds rest}, holds items kinds → item?.run kinds = some (none, rest) →
      holds items rest)
    (before : holds [] kinds) {items : List α} (ran : (many item?).run kinds = some (items, rest)) :
    holds items.reverse rest := by
  unfold many at ran
  obtain ⟨latestFirst, left, repeats, ran⟩ := exists_of_run_bind ran
  cases ran
  rw [List.reverse_reverse]
  refine @holds_of_run_repeated _ _ _ _ holds _ (fun found stepped => ?_) (fun found stepped => ?_) _ before
    repeats
  all_goals
    obtain ⟨item, between, asked, stepped⟩ := exists_of_run_bind stepped
    cases item with
    | none =>
      cases stepped <;> exact ends found asked
    | some value =>
      cases stepped <;> exact goesOn found asked

/-- Where there is no item nothing is taken. -/
theorem eq_of_run_many_nil {item? : Parser (Option α)}
    (ends : ∀ {kinds rest}, item?.run kinds = some (none, rest) → rest = kinds)
    (ran : (many item?).run kinds = some ([], rest)) : rest = kinds :=
  @holds_of_run_many _ _ _ (fun items left => items = [] → left = kinds) _ (fun _ _ => nofun)
    (fun before asked empty => (ends asked).trans (before empty)) (fun _ => rfl) _ ran rfl

end Leaving

/-! ### Taking -/

/-- What may be taken in several steps, one behind the other: all that is closed in itself, and perhaps
more. -/
class IsStepwise (allowed : List TokenKind → Prop) : Prop where
  closed : ∀ {kinds}, IsBalanced kinds → allowed kinds
  append : ∀ {front behind}, allowed front → allowed behind → allowed (front ++ behind)

instance : IsStepwise IsBalanced where
  closed := id
  append front behind depth := by
    rw [depthBehind?_append, front depth]
    exact behind depth

instance : IsStepwise fun _ => True where
  closed _ := trivial
  append _ _ := trivial

/-- If a parser succeeds on tokens, it has taken some that are allowed from the front. -/
def TakesAt (allowed : List TokenKind → Prop) (parser : Parser α) (kinds : List TokenKind) : Prop :=
  ∀ found rest, parser.run kinds = some (found, rest) → ∃ taken, kinds = taken ++ rest ∧ allowed taken

/-- Whenever a parser succeeds, it has taken tokens that are allowed from the front. -/
class Takes (allowed : List TokenKind → Prop) (parser : Parser α) : Prop where
  takesAt : ∀ kinds, TakesAt allowed parser kinds

/-- A token that may be taken by itself. -/
class IsAllowed (allowed : List TokenKind → Prop) (kind : TokenKind) : Prop where
  isAllowed : allowed [kind]

instance (kind : TokenKind) : IsAllowed (fun _ => True) kind where
  isAllowed := trivial

instance takes_failure : Takes allowed (failure : Parser α) where
  takesAt _ _ _ ran := nomatch ran

instance takes_ite {condition : Prop} [Decidable condition] {first second : Parser α}
    [Takes allowed first] [Takes allowed second] :
    Takes allowed (if condition then first else second) := by
  split <;> assumption

instance takes_orElse {first second : Parser α} [one : Takes allowed first]
    [other : Takes allowed second] : Takes allowed (first <|> second) where
  takesAt _ _ _ ran := (run_orElse_eq_some ran).elim (one.takesAt _ _ _) (other.takesAt _ _ _)

/-- What is done behind a look at the next token. -/
theorem takes_behind_peek {next : TokenKind → Parser α}
    (behind : ∀ kind rest, TakesAt allowed (next kind) (kind :: rest))
    (ended : TakesAt allowed (next .endOfText) []) : Takes allowed (peek >>= next) where
  takesAt kinds _ _ ran := by
    cases kinds with
    | nil => exact ended _ _ ran
    | cons kind rest => exact behind kind rest _ _ ran

theorem takesAt_take {kind : TokenKind} {rest : List TokenKind} [token : IsAllowed allowed kind] :
    TakesAt allowed take (kind :: rest) := by
  intro found left ran
  cases ran
  exact ⟨[kind], rfl, token.isAllowed⟩

theorem takesAt_discard_take {kind : TokenKind} {rest : List TokenKind} [token : IsAllowed allowed kind] :
    TakesAt allowed (discard take) (kind :: rest) := by
  intro found left ran
  cases ran
  exact ⟨[kind], rfl, token.isAllowed⟩

/-- A bracket with what it holds is taken from the front. -/
theorem exists_of_run_enclosed {opening : Symbol} {kinds rest : List TokenKind}
    {found : List TokenKind × Nat} (ran : (enclosed opening).run kinds = some (found, rest)) :
    ∃ closing, closing.closes = true ∧ kinds = .symbol opening :: (found.1 ++ closing :: rest) ∧
      IsBalanced found.1 ∧ found.2 = rest.length + 1 := by
  obtain ⟨_, behind, opened, ran⟩ := exists_of_run_bind ran
  have split := eq_of_run_expect opened
  obtain ⟨_, _, got, ran⟩ := exists_of_run_bind ran
  cases got
  split at ran
  · next contents after closed =>
    cases ran
    obtain ⟨closing, closes, same, depths⟩ := exists_of_splitClosing? closed
    exact ⟨closing, closes, by rw [split, same], fun depth => by simpa using depths depth, rfl⟩
  · exact nomatch ran

/-- What is parsed alone takes the whole piece. -/
theorem exists_of_alone {change : (Extent → Extent) → α → α} {parser : Parser α}
    {piece : List TokenKind} {behind : Nat} {found : α}
    (parsed : alone change parser piece behind = some found) :
    ∃ value, parser.run piece = some (value, []) ∧ found = change (Extent.before behind) value := by
  unfold alone at parsed
  split at parsed
  · next value ran =>
    cases parsed
    exact ⟨value, ran, rfl⟩
  · exact nomatch parsed

section Steps

variable [stepwise : IsStepwise allowed]

/-- A parser that leaves its input as it is. -/
theorem takes_of_keeps {parser : Parser α}
    (keeps : ∀ kinds found rest, parser.run kinds = some (found, rest) → rest = kinds) :
    Takes allowed parser where
  takesAt _ _ _ ran := ⟨[], (keeps _ _ _ ran).symm, stepwise.closed fun _ => rfl⟩

instance takes_pure (found : α) : Takes allowed (pure found : Parser α) := by
  refine takes_of_keeps fun kinds value rest ran => ?_
  cases ran
  rfl

theorem TakesAt.bind {parser : Parser α} {next : α → Parser β} {kinds : List TokenKind}
    (before : TakesAt allowed parser kinds) (behind : ∀ value, Takes allowed (next value)) :
    TakesAt allowed (parser >>= next) kinds := by
  intro found rest ran
  obtain ⟨value, left, first, second⟩ := exists_of_run_bind ran
  obtain ⟨front, rfl, isFront⟩ := before _ _ first
  obtain ⟨others, rfl, isBehind⟩ := (behind value).takesAt _ _ _ second
  exact ⟨front ++ others, (List.append_assoc ..).symm, stepwise.append isFront isBehind⟩

theorem takes_behind {parser : Parser α} {next : α → Parser β} [before : Takes allowed parser]
    (behind : ∀ value, Takes allowed (next value)) : Takes allowed (parser >>= next) where
  takesAt kinds := (before.takesAt kinds).bind behind

instance takes_bind {parser : Parser α} {next : α → Parser β} [Takes allowed parser]
    [behind : ∀ value, Takes allowed (next value)] : Takes allowed (parser >>= next) :=
  takes_behind behind

instance takes_map {parser : Parser α} (change : α → β) [Takes allowed parser] :
    Takes allowed (change <$> parser) := by
  rw [← bind_pure_comp]
  infer_instance

instance takes_get : Takes allowed (get : Parser (List TokenKind)) := by
  refine takes_of_keeps fun kinds value rest ran => ?_
  cases ran
  rfl

instance takes_lift (result : Option α) : Takes allowed (liftM result : Parser α) :=
  takes_of_keeps fun _ _ _ ran => (eq_of_run_lift ran).2

instance takes_peek : Takes allowed peek :=
  takes_of_keeps fun _ _ _ ran => (eq_of_run_peek ran).1.symm

instance takes_peekSecond : Takes allowed peekSecond := by
  unfold peekSecond
  refine takes_behind fun kinds => ?_
  split <;> infer_instance

instance takes_left : Takes allowed left :=
  takes_bind

instance takes_extentFrom (start : Nat) : Takes allowed (extentFrom start) :=
  takes_bind

instance takes_sees (symbol : Symbol) : Takes allowed (sees symbol) :=
  takes_bind

instance takes_seesWord (word : ReservedWord) : Takes allowed (seesWord word) :=
  takes_bind

theorem takes_iterate {step : α → Parser (Option α)} [steps : ∀ value, Takes allowed (step value)]
    (count : Nat) (first : α) : Takes allowed (iterate step count first) := by
  induction count generalizing first with
  | zero => exact takes_pure first
  | succ count inductionHypothesis =>
    unfold iterate
    refine takes_behind fun next => ?_
    split
    · exact inductionHypothesis _
    · infer_instance

instance takes_repeated {step : α → Parser (Option α)} (first : α)
    [∀ value, Takes allowed (step value)] : Takes allowed (repeated step first) :=
  takes_behind fun _ => takes_iterate _ first

instance takes_many {item? : Parser (Option α)} [Takes allowed item?] : Takes allowed (many item?) :=
  takes_bind

instance takes_accept? {kind : TokenKind} [IsAllowed allowed kind] : Takes allowed (accept? kind) := by
  refine takes_behind_peek (fun next rest => ?_) ?_
  · split
    · next same =>
      obtain rfl : next = kind := eq_of_beq same
      exact takesAt_discard_take.bind inferInstance
    · exact (takes_pure false).takesAt _
  · split
    · exact fun _ _ ran => nomatch ran
    · exact (takes_pure false).takesAt _

instance takes_expect {kind : TokenKind} [IsAllowed allowed kind] : Takes allowed (expect kind) :=
  takes_bind

instance isAllowed_word (word : ReservedWord) : IsAllowed allowed (.word word) where
  isAllowed := stepwise.closed (isBalanced_singleton rfl rfl)

instance takes_word? (word : ReservedWord) : Takes allowed (word? word) :=
  takes_accept?

instance takes_word (found : ReservedWord) : Takes allowed (word found) :=
  takes_expect

instance takes_symbol? (symbol : Symbol) [IsAllowed allowed (.symbol symbol)] :
    Takes allowed (symbol? symbol) :=
  takes_accept?

instance takes_symbol (found : Symbol) [IsAllowed allowed (.symbol found)] :
    Takes allowed (symbol found) :=
  takes_expect

instance takes_identifier : Takes allowed identifier where
  takesAt kinds found rest ran := by
    obtain ⟨kind, left, took, gives⟩ := exists_of_run_bind ran
    cases kinds with
    | nil => exact nomatch took
    | cons first others =>
      cases took
      split at gives
      · cases gives
        exact ⟨[_], rfl, stepwise.closed (isBalanced_singleton rfl rfl)⟩
      · exact nomatch gives

instance takes_separated {item : Parser α} [Takes allowed item] [IsAllowed allowed (.symbol .comma)] :
    Takes allowed (separated item) :=
  takes_bind

instance takes_listUntil {item : Parser α} {closing : Symbol} [Takes allowed item]
    [IsAllowed allowed (.symbol .comma)] [IsAllowed allowed (.symbol closing)] :
    Takes allowed (listUntil item closing) :=
  takes_bind

/-- A bracket is taken with all that stands in it. -/
theorem takes_enclosed {opening : Symbol} (opens : (TokenKind.symbol opening).opens = true) :
    Takes allowed (enclosed opening) where
  takesAt kinds found rest ran := by
    obtain ⟨closing, closes, rfl, closed, -⟩ := exists_of_run_enclosed ran
    refine ⟨.symbol opening :: (found.1 ++ [closing]), by simp, stepwise.closed fun depth => ?_⟩
    rw [depthBehind?, if_pos opens, depthBehind?_append, closed (depth + 1)]
    simp [depthBehind?, closes, TokenKind.opens_eq_false_of_closes closes]

end Steps

end DifferenceTypes.Parser
