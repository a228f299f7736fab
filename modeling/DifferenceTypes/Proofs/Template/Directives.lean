import DifferenceTypes.Proofs.Evaluation.Bases
import DifferenceTypes.Proofs.Template.Failures

/-!
# Directives of markers

Each marker of a class asks for one thing: for nothing, for a name of the difference class or for decorators
of it (`Marker.Asks`). Of the names and of the decorators that the markers ask for, the last ones count, and
neither depends on how the two stand among each other (`Marker.Answers`). A marker that asks for nothing of
the kind is at fault in exactly one way (`Marker.IsFaulty`), and the first such marker decides
(`Marker.options_of_markers`).

The decorators are what the text has where they stand, and in a text that was parsed this can always be cut
out.
-/

namespace DifferenceTypes

namespace Marker

/-! ### What a marker asks for -/

/-- What a marker asks for: nothing, a name for the difference class, or decorators for it. -/
inductive Request where
  | nothing
  | name (identifier : String)
  | decorators (expressions : List Expr)

namespace Request

/-- The name that is asked for. -/
def name? : Request → Option String
  | .name identifier => some identifier
  | _ => none

/-- The decorators that are asked for. -/
def decorators? : Request → Option (List Expr)
  | .decorators expressions => some expressions
  | _ => none

end Request

/-- A marker in order asks for something: for nothing if it is not called; else it has a single argument and
no keyword, and the argument is a call of `name` with a single name or of `attr` with arguments without
stars, again without keywords. -/
inductive Asks : Expr → Request → Prop
  | nothing {span : Span} {identifier : String} : Asks (.name span identifier) .nothing
  | name {span inner own place : Span} {callee : Expr} {identifier : String} :
      Asks (.call span callee [.call inner (.name own "name") [.name place identifier] []] [])
        (.name identifier)
  | decorators {span inner own : Span} {callee : Expr} {expressions : List Expr}
      (plain : ∀ expression ∈ expressions, expression.isStarred = false) :
      Asks (.call span callee [.call inner (.name own "attr") expressions []] []) (.decorators expressions)

/-- The fault of a called marker, and the span that it is reported at. The first rule that fits counts: the
marker's own keywords, then how many arguments it has, then what its argument is, and then what is in the
parentheses of the directive. -/
inductive IsFaulty : Expr → Fault → Span → Prop
  | keyword {span : Span} {callee : Expr} {arguments : List Expr} {keyword : Keyword} {others : List Keyword} :
      IsFaulty (.call span callee arguments (keyword :: others)) .keywordDirective keyword.span
  | missing {span : Span} {callee : Expr} : IsFaulty (.call span callee [] []) .missingDirective span
  | several {span : Span} {callee first second : Expr} {others : List Expr} :
      IsFaulty (.call span callee (first :: second :: others) []) (.severalDirectives (others.length + 2))
        second.span
  | bare {span place : Span} {callee : Expr} {identifier : String} :
      IsFaulty (.call span callee [.name place identifier] []) (.bareDirective identifier) place
  | notDirective {span : Span} {callee argument : Expr} (notName : argument.name? = none)
      (notCall : ∀ inner own identifier arguments keywords,
        argument ≠ .call inner (.name own identifier) arguments keywords) :
      IsFaulty (.call span callee [argument] []) .notDirective argument.span
  | unknown {span inner own : Span} {callee : Expr} {identifier : String} {arguments : List Expr}
      {keywords : List Keyword} (notAttr : identifier ≠ "attr") (notName : identifier ≠ "name") :
      IsFaulty (.call span callee [.call inner (.name own identifier) arguments keywords] [])
        (.unknownDirective identifier) inner
  | decoratorKeyword {span inner own : Span} {callee : Expr} {arguments : List Expr} {keyword : Keyword}
      {others : List Keyword} :
      IsFaulty (.call span callee [.call inner (.name own "attr") arguments (keyword :: others)] [])
        .keywordDecorator keyword.span
  | starred {span inner own place : Span} {callee value : Expr} {before behind : List Expr}
      (plain : ∀ expression ∈ before, expression.isStarred = false) :
      IsFaulty (.call span callee [.call inner (.name own "attr") (before ++ .starred place value :: behind) []] [])
        .starredDecorator place
  | unclear {span inner own : Span} {callee : Expr} {arguments : List Expr} {keywords : List Keyword}
      (notOne : ∀ place identifier, arguments = [.name place identifier] → keywords ≠ []) :
      IsFaulty (.call span callee [.call inner (.name own "name") arguments keywords] []) .unclearName inner

/-- The name that is called in the parentheses of a marker, if this call is all that there is. -/
def called? : Expr → Option String
  | .call _ _ arguments keywords =>
    match keywords, arguments with
    | [], [.call _ (.name _ identifier) _ _] => some identifier
    | _, _ => none
  | _ => none

/-- All that is in the parentheses of a marker is a call of a name other than `attr` and `name`. -/
def AsksForOther (marker : Expr) : Prop :=
  ∃ identifier, called? marker = some identifier ∧ identifier ≠ "attr" ∧ identifier ≠ "name"

/-- A call of `attr` without keywords asks for decorators, unless one of them is starred. -/
theorem asks_or_starred {span inner own : Span} {callee : Expr} (expressions : List Expr) :
    (∃ request, Asks (.call span callee [.call inner (.name own "attr") expressions []] []) request) ∨
      ∃ fault place,
        IsFaulty (.call span callee [.call inner (.name own "attr") expressions []] []) fault place := by
  cases found : expressions.find? Expr.isStarred with
  | none =>
    refine .inl ⟨_, .decorators fun expression among => ?_⟩
    simpa using List.find?_eq_none.1 found expression among
  | some expression =>
    obtain ⟨isStarred, before, behind, rfl, plain⟩ := List.find?_eq_some_iff_append.1 found
    cases expression with
    | starred place value => exact .inr ⟨_, place, .starred fun other among => by simpa using plain other among⟩
    | _ => exact nomatch isStarred

/-- A called marker with a single argument is in order or at fault. -/
theorem asks_or_isFaulty_single (span : Span) (callee argument : Expr) :
    (∃ request, Asks (.call span callee [argument] []) request) ∨
      ∃ fault place, IsFaulty (.call span callee [argument] []) fault place := by
  cases argument with
  | name place identifier => exact .inr ⟨_, _, .bare⟩
  | call inner function arguments keywords =>
    cases function with
    | name own identifier =>
      by_cases isAttr : identifier = "attr"
      · subst isAttr
        cases keywords with
        | cons keyword others => exact .inr ⟨_, _, .decoratorKeyword⟩
        | nil => exact asks_or_starred arguments
      · by_cases isName : identifier = "name"
        · subst isName
          by_cases one : ∃ place identifier, arguments = [.name place identifier] ∧ keywords = []
          · obtain ⟨place, identifier, rfl, rfl⟩ := one
            exact .inl ⟨_, .name⟩
          · refine .inr ⟨_, _, .unclear fun place identifier same none => ?_⟩
            exact one ⟨place, identifier, same, none⟩
        · exact .inr ⟨_, _, .unknown isAttr isName⟩
    | _ => exact .inr ⟨_, _, .notDirective rfl nofun⟩
  | _ => exact .inr ⟨_, _, .notDirective rfl nofun⟩

/-- A marker is in order or at fault. -/
theorem asks_or_isFaulty {marker : Expr} (isMarker : marker.isMarker = true) :
    (∃ request, Asks marker request) ∨ ∃ fault span, IsFaulty marker fault span := by
  cases marker with
  | name span identifier => exact .inl ⟨_, .nothing⟩
  | call span callee arguments keywords =>
    cases keywords with
    | cons keyword others => exact .inr ⟨_, _, .keyword⟩
    | nil =>
      match arguments with
      | [] => exact .inr ⟨_, _, .missing⟩
      | [argument] => exact asks_or_isFaulty_single span callee argument
      | _ :: _ :: _ => exact .inr ⟨_, _, .several⟩
  | _ => exact nomatch isMarker

/-- A marker is not both in order and at fault. -/
theorem IsFaulty.not_asks {marker : Expr} {fault : Fault} {span : Span} (faulty : IsFaulty marker fault span)
    (request : Request) : ¬Asks marker request := by
  intro asks
  -- The names of directives are literals, which do not unify.
  generalize same : marker = other at asks
  cases asks with
  | nothing =>
    subst same
    exact nomatch faulty
  | name =>
    cases faulty with
    | notDirective _ notCall =>
      simp only [Expr.call.injEq, List.cons.injEq, and_true] at same
      exact notCall _ _ _ _ _ same.2.2
    | unclear notOne =>
      simp only [Expr.call.injEq, List.cons.injEq, and_true] at same
      exact notOne _ _ same.2.2.2.2.1 same.2.2.2.2.2
    | _ => simp_all
  | decorators plain =>
    cases faulty with
    | notDirective _ notCall =>
      simp only [Expr.call.injEq, List.cons.injEq, and_true] at same
      exact notCall _ _ _ _ _ same.2.2
    | starred =>
      simp only [Expr.call.injEq, List.cons.injEq, and_true] at same
      obtain ⟨-, -, -, -, rfl⟩ := same
      exact nomatch plain _ (List.mem_append_right _ List.mem_cons_self)
    | _ => simp_all

theorem called?_eq_none {span : Span} {callee argument : Expr}
    (notCall : ∀ inner own identifier arguments keywords,
      argument ≠ .call inner (.name own identifier) arguments keywords) :
    called? (.call span callee [argument] []) = none := by
  unfold called?
  dsimp only
  split
  · next same =>
    cases same
    exact absurd rfl (notCall _ _ _ _ _)
  · rfl

/-- The fault is one of the configuration exactly if the marker asks for another directive, and else one of
the template. -/
theorem IsFaulty.kind_iff {marker : Expr} {fault : Fault} {span : Span} (faulty : IsFaulty marker fault span) :
    (fault.kind = .configuration ↔ AsksForOther marker) ∧ (fault.kind = .template ↔ ¬AsksForOther marker) := by
  have ofPlain {fault : Fault} {marker : Expr} (isTemplate : fault.kind = .template)
      (plain : ¬AsksForOther marker) :
      (fault.kind = .configuration ↔ AsksForOther marker) ∧ (fault.kind = .template ↔ ¬AsksForOther marker) := by
    rw [isTemplate]
    exact ⟨iff_of_false nofun plain, iff_of_true rfl plain⟩
  cases faulty with
  | unknown notAttr notName =>
    refine ⟨iff_of_true rfl ?other, iff_of_false nofun (absurd ?other)⟩
    exact ⟨_, rfl, notAttr, notName⟩
  | notDirective _ notCall =>
    refine ofPlain rfl ?_
    rintro ⟨identifier, isCalled, -⟩
    exact nomatch (called?_eq_none notCall).symm.trans isCalled
  | unclear =>
    refine ofPlain rfl ?_
    rintro ⟨identifier, isCalled, notAttr, notName⟩
    cases isCalled
    exact notName rfl
  | decoratorKeyword | starred =>
    refine ofPlain rfl ?_
    rintro ⟨identifier, isCalled, notAttr, notName⟩
    cases isCalled
    exact notAttr rfl
  | keyword | missing | several | bare =>
    refine ofPlain rfl ?_
    rintro ⟨identifier, isCalled, -⟩
    simp [called?] at isCalled

/-! ### What the last ones ask for -/

/-- Options that answer requests: the name is the last one that is asked for, and the decorators are the texts
of the last ones that are asked for, in their order. Where none are asked for there are none. -/
structure Answers (text : Text) (requests : List Request) (options : Options) : Prop where
  override : options.override = (requests.filterMap Request.name?).getLast?.map Text.ofString
  decorators : List.Forall₂ (fun (expression : Expr) part => expression.source text = .ok part)
    ((requests.filterMap Request.decorators?).getLast?.getD []) options.decorators

section Parsed

variable {characters : List Char} {text : Text}

theorem addTo_attr (options : Options) (span inner own : Span) (callee : Expr) (expressions : List Expr) :
    addTo text options (.call span callee [.call inner (.name own "attr") expressions []] []) = (do
      return { options with decorators := ← expressions.mapM (decorator text) }) :=
  rfl

theorem addTo_name (options : Options) (span inner own : Span) (callee : Expr) (arguments : List Expr)
    (keywords : List Keyword) :
    addTo text options (.call span callee [.call inner (.name own "name") arguments keywords] []) = (do
      return { options with override := some (← override ⟨"name", inner, arguments, keywords⟩) }) :=
  rfl

variable (isText : text = Text.ofCharacters characters)

include isText

/-- Decorators without stars have the texts where they stand. -/
theorem exists_mapM_decorator {expressions : List Expr}
    (plain : ∀ expression ∈ expressions, expression.isStarred = false)
    (all : ∀ expression ∈ expressions, expression.AllSpans (Span.IsOf text)) :
    ∃ parts, expressions.mapM (decorator text) = .ok parts ∧
      List.Forall₂ (fun (expression : Expr) part => expression.source text = .ok part) expressions parts := by
  induction expressions with
  | nil => exact ⟨[], rfl, .nil⟩
  | cons expression rest inductionHypothesis =>
    obtain ⟨part, cut⟩ := (all expression List.mem_cons_self).exists_source isText
    obtain ⟨parts, passed, sources⟩ := inductionHypothesis
      (fun other among => plain other (List.mem_cons_of_mem _ among))
      fun other among => all other (List.mem_cons_of_mem _ among)
    have own : decorator text expression = .ok part := by
      cases expression with
      | starred => exact nomatch plain _ List.mem_cons_self
      | _ => exact cut
    exact ⟨part :: parts, by rw [List.mapM_cons, own, passed]; rfl, .cons cut sources⟩

/-- A marker in order adds what it asks for, in place of what was asked for before. -/
theorem exists_addTo_of_asks {marker : Expr} {request : Request} (asks : Asks marker request)
    (all : marker.AllSpans (Span.IsOf text)) {requests : List Request} {options : Options}
    (answers : Answers text requests options) :
    ∃ after, addTo text options marker = .ok after ∧ Answers text (requests ++ [request]) after := by
  cases asks with
  | nothing =>
    refine ⟨options, rfl, ?_, ?_⟩
    · simpa [Request.name?] using answers.override
    · simpa [Request.decorators?] using answers.decorators
  | name =>
    refine ⟨_, rfl, ?_, ?_⟩
    · simp [Request.name?]
    · simpa [Request.decorators?] using answers.decorators
  | decorators plain =>
    obtain ⟨parts, passed, sources⟩ := exists_mapM_decorator isText plain
      (all.arguments _ List.mem_cons_self).arguments
    refine ⟨{ options with decorators := parts }, by rw [addTo_attr, passed]; rfl, ?_, ?_⟩
    · simpa [Request.name?] using answers.override
    · simpa [Request.decorators?] using sources

/-- A marker at fault is refused with its fault, whatever was asked for before. -/
theorem addTo_of_isFaulty {marker : Expr} {fault : Fault} {span : Span} (faulty : IsFaulty marker fault span)
    (all : marker.AllSpans (Span.IsOf text)) (options : Options) :
    addTo text options marker = .error (.ofFault fault span) := by
  cases faulty with
  | @notDirective _ _ argument notName notCall =>
    cases argument with
    | name => exact nomatch notName
    | call inner function arguments keywords =>
      cases function with
      | name => exact absurd rfl (notCall _ _ _ _ _)
      | _ => rfl
    | _ => rfl
  | unknown notAttr notName =>
    refine (if_neg (by simpa using notAttr)).trans ?_
    exact if_neg (by simpa using notName)
  | starred plain =>
    obtain ⟨parts, passed, -⟩ := exists_mapM_decorator isText plain fun expression among =>
      (all.arguments _ List.mem_cons_self).arguments _ (List.mem_append_left _ among)
    rw [addTo_attr, List.mapM_append, passed, List.mapM_cons]
    rfl
  | unclear notOne =>
    rw [addTo_name, override]
    split
    · next none one => exact absurd none (notOne _ _ one)
    · rfl
  | _ => rfl

/-- Markers in order give options that answer all their requests. -/
theorem exists_foldlM_of_asks {markers : List Expr} {requests : List Request}
    (asks : List.Forall₂ Asks markers requests) (all : ∀ marker ∈ markers, marker.AllSpans (Span.IsOf text))
    {before : List Request} {options : Options} (answers : Answers text before options) :
    ∃ found, markers.foldlM (addTo text) options = .ok found ∧ Answers text (before ++ requests) found := by
  induction asks generalizing before options with
  | nil => exact ⟨options, rfl, by rwa [List.append_nil]⟩
  | @cons marker request markers requests asksFirst asksRest inductionHypothesis =>
    obtain ⟨between, added, answers⟩ :=
      exists_addTo_of_asks isText asksFirst (all marker List.mem_cons_self) answers
    obtain ⟨found, passed, answers⟩ :=
      inductionHypothesis (fun other among => all other (List.mem_cons_of_mem _ among)) answers
    refine ⟨found, ?_, ?_⟩
    · rw [List.foldlM_cons, added]
      exact passed
    · rwa [List.append_assoc, List.singleton_append] at answers

theorem exists_options_of_asks {markers : List Expr} {requests : List Request}
    (asks : List.Forall₂ Asks markers requests) (all : ∀ marker ∈ markers, marker.AllSpans (Span.IsOf text)) :
    ∃ found, options text markers = .ok found ∧ Answers text requests found :=
  exists_foldlM_of_asks isText asks all (show Answers text [] .none from ⟨rfl, .nil⟩)

/-- The first marker at fault decides. -/
theorem options_of_isFaulty {before behind : List Expr} {marker : Expr} {requests : List Request} {fault : Fault}
    {span : Span} (asks : List.Forall₂ Asks before requests) (faulty : IsFaulty marker fault span)
    (all : ∀ other ∈ before ++ marker :: behind, other.AllSpans (Span.IsOf text)) :
    options text (before ++ marker :: behind) = .error (.ofFault fault span) := by
  obtain ⟨between, passed, -⟩ := exists_options_of_asks isText asks fun other among =>
    all other (List.mem_append_left _ among)
  have refused := addTo_of_isFaulty isText faulty (all marker (List.mem_append_right _ List.mem_cons_self)) between
  rw [options] at passed ⊢
  rw [List.foldlM_append, passed]
  show (addTo text between marker >>= fun after => behind.foldlM (addTo text) after) = _
  rw [refused]
  rfl

end Parsed

/-- Of markers all are in order, or there is a first one at fault. -/
theorem asks_or_firstFaulty {markers : List Expr} (areMarkers : ∀ marker ∈ markers, marker.isMarker = true) :
    (∃ requests, List.Forall₂ Asks markers requests) ∨
      ∃ before marker behind requests fault span, markers = before ++ marker :: behind ∧
        List.Forall₂ Asks before requests ∧ IsFaulty marker fault span := by
  induction markers with
  | nil => exact .inl ⟨[], .nil⟩
  | cons first rest inductionHypothesis =>
    obtain ⟨request, asks⟩ | ⟨fault, span, faulty⟩ := asks_or_isFaulty (areMarkers first List.mem_cons_self)
    · obtain ⟨requests, others⟩ | ⟨before, marker, behind, requests, fault, span, rfl, others, faulty⟩ :=
        inductionHypothesis fun marker among => areMarkers marker (List.mem_cons_of_mem _ among)
      · exact .inl ⟨_, .cons asks others⟩
      · exact .inr ⟨first :: before, marker, behind, _, fault, span, rfl, .cons asks others, faulty⟩
    · exact .inr ⟨[], first, rest, [], fault, span, rfl, .nil, faulty⟩

/-! ### Markers of a class -/

/-- The options of the markers of a class, wherever it stands in a parsed text and whatever markers it has, in
whatever order. There are options exactly if each marker asks for something that it may ask for, and then they
answer all the requests: of the names and of the decorators the last ones count, each for themselves. Else
the first marker that asks for nothing of the kind is refused with its own fault at its own place, which is
one of the configuration exactly if there is nothing in the marker's parentheses but a call of another name;
a keyword beside it comes first. -/
theorem options_of_markers {text : Text} {module : Module} (parsed : Module.ofText text = .ok module)
    {depth : Nat} {statement : Stmt} (stands : StandsAt depth module statement) {definition : ClassDefinition}
    (isClass : statement.class? = some definition) :
    let markers := definition.decorators.filter Expr.isMarker
    ((∃ found, options text markers = .ok found) ↔ ∃ requests, List.Forall₂ Asks markers requests) ∧
    (∀ found requests, options text markers = .ok found → List.Forall₂ Asks markers requests →
      Answers text requests found) ∧
    (∀ error, options text markers = .error error →
      ∃ before marker behind requests fault span, markers = before ++ marker :: behind ∧
        List.Forall₂ Asks before requests ∧ (∀ request, ¬Asks marker request) ∧ IsFaulty marker fault span ∧
        error = .ofFault fault span ∧ (fault.kind = .configuration ↔ AsksForOther marker) ∧
        (fault.kind = .template ↔ ¬AsksForOther marker)) := by
  intro markers
  have all : ∀ marker ∈ markers, marker.AllSpans (Span.IsOf text) := fun marker among =>
    (Module.allSpans_of_standsAt parsed stands isClass).decorators marker (List.mem_filter.1 among).1
  have areMarkers : ∀ marker ∈ markers, marker.isMarker = true := fun marker among =>
    (List.mem_filter.1 among).2
  obtain ⟨characters, isText⟩ := Module.exists_characters_of_ofText parsed
  refine ⟨⟨?_, ?_⟩, ?_, ?_⟩
  · rintro ⟨found, given⟩
    obtain orderly | ⟨before, marker, behind, requests, fault, span, split, asks, faulty⟩ :=
      asks_or_firstFaulty areMarkers
    · exact orderly
    · rw [split] at given all
      exact nomatch given.symm.trans (options_of_isFaulty isText asks faulty all)
  · rintro ⟨requests, asks⟩
    obtain ⟨found, given, -⟩ := exists_options_of_asks isText asks all
    exact ⟨found, given⟩
  · intro found requests given asks
    obtain ⟨other, same, answers⟩ := exists_options_of_asks isText asks all
    cases given.symm.trans same
    exact answers
  · intro error failed
    obtain ⟨requests, asks⟩ | ⟨before, marker, behind, requests, fault, span, split, asks, faulty⟩ :=
      asks_or_firstFaulty areMarkers
    · obtain ⟨found, given, -⟩ := exists_options_of_asks isText asks all
      exact nomatch given.symm.trans failed
    · refine ⟨before, marker, behind, requests, fault, span, split, asks, faulty.not_asks, faulty, ?_,
        faulty.kind_iff⟩
      rw [split] at failed all
      cases failed.symm.trans (options_of_isFaulty isText asks faulty all)
      rfl

/-- A class with two names and twice decorators that are asked for in turns, and with a marker that asks for
nothing. -/
def turnsTemplate : Text :=
  "@diff(name(A))\n@diff(attr(x))\n@diff\n@diff(attr(y.z, f(1)))\n@diff(name(B))\nclass P: pass\n"

/-- The last name and the last decorators count, though others stand between them. -/
theorem options_of_turnsTemplate :
    ∃ module statement definition requests found, Module.ofText turnsTemplate = .ok module ∧
      StandsAt 0 module statement ∧ statement.class? = some definition ∧
      List.Forall₂ Asks (definition.decorators.filter Expr.isMarker) requests ∧
      options turnsTemplate (definition.decorators.filter Expr.isMarker) = .ok found ∧
      Answers turnsTemplate requests found ∧ found = ⟨some "B", ["y.z", "f(1)"]⟩ := by
  obtain ⟨module, read, known⟩ := Option.map_eq_some_iff.1
    (show (Module.ofText turnsTemplate).toOption.map (fun module =>
      (module.filterMap Stmt.class?).any fun definition =>
        (options turnsTemplate (definition.decorators.filter Expr.isMarker)).toOption ==
          some ⟨some "B", ["y.z", "f(1)"]⟩) = some true by decide +kernel)
  obtain ⟨definition, among, given⟩ := List.any_eq_true.1 known
  obtain ⟨statement, inside, isClass⟩ := List.mem_filterMap.1 among
  have parsed := Template.eq_ok_of_toOption read
  have given := Template.eq_ok_of_toOption (eq_of_beq given)
  obtain ⟨given_iff, answers, -⟩ := options_of_markers parsed (.here inside) isClass
  obtain ⟨requests, asks⟩ := given_iff.1 ⟨_, given⟩
  exact ⟨module, statement, definition, requests, _, parsed, .here inside, isClass, asks, given,
    answers _ _ given asks, rfl⟩

end Marker

end DifferenceTypes
