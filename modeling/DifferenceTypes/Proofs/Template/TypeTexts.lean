import DifferenceTypes.Proofs.Syntax.DeclaredTypes
import DifferenceTypes.Proofs.Syntax.Segments
import DifferenceTypes.Proofs.Syntax.WrittenParts
import DifferenceTypes.Proofs.Template.Failures
import DifferenceTypes.Proofs.Template.TypeMeaning

/-!
# Texts of types

The text of a field's type is what the template has where the type stands, with its blanks collapsed.
Where nothing but blanks stands between the tokens there, and none of the tokens is changed by
collapsing blanks, this text in parentheses says what the template has there
(`Text.IsSpaced.meaning?_collapseBlanks`), and for a declared type this is the type itself
(`ClassDefinition.meaning?_typeText`). Blanks inside of a text literal are collapsed as well, and then
it says something else.
-/

namespace DifferenceTypes

open Lexer

/-- A text that starts and ends with a token, as it is read in parentheses, has nothing but blanks
between its tokens, and none of them is changed where blanks are collapsed. -/
def Text.IsSpaced (text : Text) : Prop :=
  ∃ pieces, text.unifyLineEnds = ofCharacters (spelled pieces) ∧
    Scans [.rightParenthesis] (spelled pieces ++ [')', '\n']) (pieces ++ [Piece.closing]) ∧
    (∀ piece ∈ pieces.head?, piece.gap = []) ∧ ∀ piece ∈ pieces, piece.IsClean

namespace Text

/-- What stands in parentheses on a line says what is read from its tokens. -/
theorem meaning?_of_scans {text : Text} {pieces : List Piece}
    (unified : text.unifyLineEnds = ofCharacters (spelled pieces))
    (scans : Scans [.rightParenthesis] (spelled pieces ++ [')', '\n']) (pieces ++ [Piece.closing])) :
    ("(" ++ text ++ ")" : Text).meaning? = (ExpressionGrammar.wholeExpression?
      (.symbol .leftParenthesis :: (pieces.map (·.kind) ++ [TokenKind.symbol .rightParenthesis]))).map
        Expr.content := by
  have opened := @Scans.token [] [.rightParenthesis] (.symbol .leftParenthesis) ['(']
    (spelled pieces ++ [')', '\n']) _ (fun _ => rfl) rfl scans
  have whole : ['('] ++ (spelled pieces ++ [')', '\n']) = '(' :: (spelled pieces ++ [')']) ++ ['\n'] := by
    simp
  have closes : ('(' :: (spelled pieces ++ [')'])).getLast? ≠ some '\n' := by
    rw [← List.cons_append, List.getLast?_concat]
    decide
  obtain ⟨tokens, reads⟩ := Expr.parse?_of_scans (by decide) (whole ▸ opened) closes (List.cons_ne_nil _ _)
  have isText : ("(" ++ text ++ ")" : Text).unifyLineEnds =
      ofCharacters ('(' :: (spelled pieces ++ [')'])) := by
    have apart : ¬Meets (ofString "(") text := fun meets => absurd meets.1 (by decide)
    have apartBehind : ¬Meets (ofString "(" ++ text) (ofString ")") := fun meets => absurd meets.2 (by decide)
    rw [unifyLineEnds_append apartBehind, unifyLineEnds_append apart, unified]
    simp [ofCharacters, ofString, unifyLineEnds]
  unfold meaning?
  rw [isText, characters?_ofCharacters, Option.bind_some, reads, Option.map_map]
  have kinds : (⟨[], ['('], .symbol .leftParenthesis⟩ :: (pieces ++ [Piece.closing])).map (·.kind) =
      .symbol .leftParenthesis :: (pieces.map (·.kind) ++ [TokenKind.symbol .rightParenthesis]) := by
    simp [Piece.closing]
  rw [kinds]
  exact congrFun (congrArg Option.map (funext fun found => Expr.content_map _ found)) _

/-- Collapsing the blanks of a spaced text leaves what it says as it is. -/
theorem IsSpaced.meaning?_collapseBlanks {text : Text} (spaced : text.IsSpaced) :
    ("(" ++ text.collapseBlanks ++ ")" : Text).meaning? = ("(" ++ text ++ ")" : Text).meaning? := by
  obtain ⟨pieces, unified, scans, gapless, clean⟩ := spaced
  have closing : Piece.closing.IsClean := ⟨List.forall_mem_nil _, by decide, by decide⟩
  have ended {pieces : List Piece} : spelled pieces ++ [')', '\n'] = spelled (pieces ++ [Piece.closing]) ++ ['\n'] := by
    simp [spelled, Piece.closing]
  have tidy : Scans [.rightParenthesis] (spelled (pieces.map Piece.tidy) ++ [')', '\n'])
      (pieces.map Piece.tidy ++ [Piece.closing]) := by
    have tidied := (ended ▸ scans).tidy fun piece among => by
      rcases List.mem_append.1 among with own | last
      · exact clean piece own
      · exact List.mem_singleton.1 last ▸ closing
    rw [List.map_append] at tidied
    rw [ended]
    exact tidied
  have copy : text.collapseBlanks = ofCharacters (spelled (pieces.map Piece.tidy)) := by
    rw [← collapseBlanks_unifyLineEnds, unified, collapseBlanks_spelled clean gapless]
  have noReturn : CodePoint.scalar '\r' ∉ text.collapseBlanks := by
    rw [collapseBlanks_eq]
    intro among
    cases eq_space_of_mem_collapseBehind among rfl
  have kinds : (pieces.map Piece.tidy).map (·.kind) = pieces.map (·.kind) := by simp [Piece.tidy]
  rw [meaning?_of_scans unified scans, ← kinds,
    meaning?_of_scans ((unifyLineEnds_eq_self noReturn).trans copy) tidy]

end Text

namespace Module

variable {text : Text} {module : Module}

/-- Every type that a class declares in its body is written in the source. -/
theorem isWritten_of_declares {source : List Char} (parsed : parse? source = some module)
    {statement own : Stmt} {type : Expr} (among : statement ∈ module) (inBody : own ∈ statement.classBody)
    (declares : own.declaredType? = some type) : type.IsWritten 0 (withFinalLineEnd source) := by
  obtain ⟨lines, isSource, parsed⟩ := Option.bind_eq_some_iff.1 parsed
  obtain ⟨tokens, laid, read⟩ := Option.bind_eq_some_iff.1 parsed
  obtain ⟨group, isGroup, extent, ⟨behind, stands⟩, rfl⟩ :=
    exists_standsAlone read statement among own inBody type declares
  obtain ⟨found, isFound, rfl⟩ := List.mem_map.1 isGroup
  exact isWritten_of_standsBefore isSource laid isFound stands (.inl rfl)

/-- The source text of what is written in a text holds the tokens that were read there. -/
theorem exists_source (read : ofText text = .ok module) {depth : Nat} {expression : Expr}
    (isWritten : ∀ source, parse? source = some module → expression.IsWritten depth (withFinalLineEnd source)) :
    ∃ part pieces following inside, expression.source text = .ok part ∧
      part.unifyLineEnds = Text.ofCharacters (spelled pieces) ∧ IsSpelled depth pieces following inside ∧
      inside.content = expression.content := by
  obtain ⟨characters, source, ending, -, unified, -, isEnding, whole, -, -, parsed⟩ := exists_of_ofText read
  obtain ⟨front, pieces, following, inside, split, span, spelling, content⟩ := isWritten source parsed
  obtain ⟨written, rfl⟩ := exists_characters_of_ofText read
  -- A line end that the parser adds stands behind the expression.
  obtain ⟨rest, rfl⟩ : ∃ rest, characters = front ++ (spelled pieces ++ rest) := by
    obtain ⟨stop, behind, rfl, -⟩ := spelling.ends
    rw [whole] at split
    rcases isEnding with rfl | rfl
    · exact ⟨_, by simpa using split⟩
    · obtain ⟨others, last, isBehind⟩ :=
        List.eq_nil_or_concat (stop :: behind) |>.resolve_left (List.cons_ne_nil _ _)
      rw [isBehind, List.concat_eq_append, ← List.append_assoc, ← List.append_assoc] at split
      obtain ⟨rfl, -⟩ := List.append_inj' split rfl
      exact ⟨others, List.append_assoc ..⟩
  obtain ⟨part, cuts, unifiedPart⟩ := Text.exists_segment_between unified
  refine ⟨part, pieces, following, inside, ?_, unifiedPart, spelling, content⟩
  rw [Expr.source, span, cuts]
  rfl

/-- A type that a class declares in its body is what its spaced text says. -/
theorem meaning?_source (read : ofText text = .ok module) {statement own : Stmt} {type : Expr}
    (among : statement ∈ module) (inBody : own ∈ statement.classBody)
    (declares : own.declaredType? = some type) {part : Text} (isPart : type.source text = .ok part)
    (spaced : part.IsSpaced) : ("(" ++ part ++ ")" : Text).meaning? = some type.content := by
  obtain ⟨found, pieces, following, inside, isSource, unified, spelling, content⟩ :=
    exists_source read fun source parsed => isWritten_of_declares parsed among inBody declares
  obtain rfl := Except.ok.inj (isPart.symm.trans isSource)
  obtain ⟨others, same, scans, -, -⟩ := spaced
  obtain sameSpelling : spelled others = spelled pieces :=
    List.map_injective_iff.2 (fun _ _ => CodePoint.scalar.inj) (same.symm.trans unified)
  rw [sameSpelling] at scans
  obtain ⟨stop, behind, rfl, ends⟩ := spelling.ends
  rw [spelling.spells.eq_of_scans ends scans] at scans
  obtain ⟨whole, reads, sameContent⟩ := spelling.whole.single.wholeExpression? spelling.whole.balanced
  rw [Text.meaning?_of_scans unified scans, ← content, ← sameContent]
  exact congrArg (Option.map Expr.content) reads

end Module

theorem Stmt.classBody_of_class? {statement : Stmt} {definition : ClassDefinition}
    (isClass : statement.class? = some definition) : statement.classBody = definition.body := by
  cases statement with
  | classDefinition =>
    cases isClass
    rfl
  | _ => exact nomatch isClass

theorem Stmt.declaredType?_of_field? {statement : Stmt} {declaration : Declaration}
    (declares : statement.field? = some declaration) : statement.declaredType? = some declaration.type := by
  unfold field? at declares
  split at declares
  · split at declares
    · exact nomatch declares
    · cases declares
      rfl
  · exact nomatch declares

/-- The types of a class with valid spans have valid spans. -/
theorem ClassDefinition.AllSpans.fieldTypes {valid : Span → Prop} {definition : ClassDefinition}
    (all : definition.AllSpans valid) (shape : Shape) :
    ∀ type ∈ definition.fieldTypes shape, type.AllSpans valid := by
  intro type among
  cases shape with
  | unit => exact nomatch among
  | named =>
    obtain ⟨declaration, declares, rfl⟩ := List.mem_map.1 among
    exact all.declarations declaration declares
  | positional =>
    unfold ClassDefinition.fieldTypes at among
    dsimp only at among
    split at among
    · next isBase => exact (all.bases _ (List.mem_of_find?_eq_some isBase)).index.types type among
    · exact nomatch among

/-- The text of a field's type, if it is not quoted, is the template's text at its place with collapsed
blanks. If only blanks between tokens are collapsed, it says in parentheses what the template's text
says there; and for a declared type this is what the type says. -/
theorem ClassDefinition.meaning?_typeText {text : Text} {module : Module} (read : Module.ofText text = .ok module)
    {statement : Stmt} (among : statement ∈ module) {definition : ClassDefinition}
    (isClass : statement.class? = some definition) {shape : Shape} {type : Expr}
    (isType : type ∈ definition.fieldTypes shape) (unquoted : type.literalText? = none) :
    ∃ part, type.source text = .ok part ∧ type.typeText text = .ok part.collapseBlanks ∧
      (part.IsSpaced →
        ("(" ++ part.collapseBlanks ++ ")" : Text).meaning? = ("(" ++ part ++ ")" : Text).meaning? ∧
        (shape = .named → ("(" ++ part.collapseBlanks ++ ")" : Text).meaning? = some type.content)) := by
  obtain ⟨characters, isText⟩ := Module.exists_characters_of_ofText read
  have isOf := ((Module.allSpans_of_class? read among isClass).fieldTypes shape type isType).span
  obtain ⟨part, cut⟩ := Text.exists_segment (isText ▸ isOf)
  have isPart : type.source text = .ok part := by
    rw [Expr.source, isText, cut]
    rfl
  refine ⟨part, isPart, ?_, fun spaced => ⟨spaced.meaning?_collapseBlanks, fun isNamed => ?_⟩⟩
  · rw [Expr.typeText, unquoted, isPart]
    rfl
  · subst isNamed
    obtain ⟨declaration, declares, rfl⟩ := List.mem_map.1 isType
    obtain ⟨own, inBody, declared⟩ := List.mem_filterMap.1 declares
    rw [spaced.meaning?_collapseBlanks]
    exact Module.meaning?_source read among ((Stmt.classBody_of_class? isClass).symm ▸ inBody)
      (Stmt.declaredType?_of_field? declared) isPart spaced

/-- A class of a text with a type that is looked for. -/
theorem ClassDefinition.exists_type {text : Text} (view : Expr → Bool)
    (known : (Module.ofText text).toOption.map (fun module =>
      (module.filterMap Stmt.class?).any fun definition => (definition.fieldTypes .named).any view) = some true) :
    ∃ module statement definition type, Module.ofText text = .ok module ∧ statement ∈ module ∧
      statement.class? = some definition ∧ type ∈ definition.fieldTypes .named ∧ view type = true := by
  obtain ⟨module, read, same⟩ := Option.map_eq_some_iff.1 known
  obtain ⟨definition, among, same⟩ := List.any_eq_true.1 same
  obtain ⟨statement, inside, isClass⟩ := List.mem_filterMap.1 among
  obtain ⟨type, isType, holds⟩ := List.any_eq_true.1 same
  exact ⟨module, statement, definition, type, Template.eq_ok_of_toOption read, inside, isClass, isType, holds⟩

/-- A class with a type that has blanks between its tokens. -/
def blanksTemplate : Text :=
  "class P:\n    x: list[  int ]\n"

/-- Blanks around a name are all that stands between the tokens of this type. -/
theorem isSpaced_blanks : ("list[  int ]" : Text).IsSpaced := by
  have behind := @Scans.token [.rightParenthesis] [] (.symbol .rightParenthesis) [')'] ['\n'] _
    (fun _ => rfl) rfl .finish
  have bracket := @Scans.token [.rightBracket, .rightParenthesis] [.rightParenthesis] (.symbol .rightBracket)
    [']'] [')', '\n'] _ (fun _ => rfl) rfl behind
  have name := @Scans.token [.rightBracket, .rightParenthesis] _ (.name "int") ['i', 'n', 't']
    [' ', ']', ')', '\n'] _ (fun _ => rfl) rfl (.space rfl bracket)
  have opening := @Scans.token [.rightParenthesis] _ (.symbol .leftBracket) ['[']
    [' ', ' ', 'i', 'n', 't', ' ', ']', ')', '\n'] _ (fun _ => rfl) rfl (.space rfl (.space rfl name))
  have whole := @Scans.token [.rightParenthesis] _ (.name "list") ['l', 'i', 's', 't']
    ['[', ' ', ' ', 'i', 'n', 't', ' ', ']', ')', '\n'] _ (fun _ => rfl) rfl opening
  refine ⟨[⟨[], ['l', 'i', 's', 't'], .name "list"⟩, ⟨[], ['['], .symbol .leftBracket⟩,
    ⟨[' ', ' '], ['i', 'n', 't'], .name "int"⟩, ⟨[' '], [']'], .symbol .rightBracket⟩], by decide, whole,
      by decide, by decide⟩

/-- The blanks of this type are collapsed, and it still says the same. -/
theorem meaning?_typeText_of_blanks :
    ∃ module statement definition type, Module.ofText blanksTemplate = .ok module ∧ statement ∈ module ∧
      statement.class? = some definition ∧ type ∈ definition.fieldTypes .named ∧
      type.literalText? = none ∧ type.source blanksTemplate = .ok "list[  int ]" ∧
      type.typeText blanksTemplate = .ok "list[ int ]" ∧
      ("(" ++ "list[ int ]" ++ ")" : Text).meaning? = some type.content := by
  obtain ⟨module, statement, definition, type, read, among, isClass, isType, holds⟩ :=
    ClassDefinition.exists_type (fun type => type.literalText?.isNone &&
      (type.source blanksTemplate).toOption == some "list[  int ]")
      (show (Module.ofText blanksTemplate).toOption.map _ = some true by decide +kernel)
  obtain ⟨unquoted, isSource⟩ := Bool.and_eq_true_iff.1 holds
  have isNone := Option.isNone_iff_eq_none.1 unquoted
  obtain ⟨part, isPart, copied, spaced⟩ :=
    ClassDefinition.meaning?_typeText read among isClass isType isNone
  have isSource := Template.eq_ok_of_toOption (eq_of_beq isSource)
  obtain rfl := Except.ok.inj (isPart.symm.trans isSource)
  have collapsed : Text.collapseBlanks "list[  int ]" = "list[ int ]" := by decide
  rw [collapsed] at copied spaced
  exact ⟨module, statement, definition, type, read, among, isClass, isType, isNone, isSource, copied,
    (spaced isSpaced_blanks).2 rfl⟩

/-- The text that an expression is subscribed with. -/
def subscribedText? : Expr Unit → Option Text
  | .subscript _ _ index => index.literalText?
  | _ => none

/-- Blanks inside of a text literal are collapsed, and then the type's text says something else. -/
theorem meaning?_typeText_ne_of_literal :
    ∃ module statement definition type copy, Module.ofText Template.spacedTemplate = .ok module ∧
      statement ∈ module ∧ statement.class? = some definition ∧ type ∈ definition.fieldTypes .named ∧
      type.literalText? = none ∧ type.typeText Template.spacedTemplate = .ok copy ∧
      ("(" ++ copy ++ ")" : Text).meaning? ≠ some type.content := by
  obtain ⟨module, statement, definition, type, read, among, isClass, isType, holds⟩ :=
    ClassDefinition.exists_type (fun type => type.literalText?.isNone &&
      ((type.typeText Template.spacedTemplate).toOption.any fun copy =>
        ("(" ++ copy ++ ")" : Text).meaning?.map subscribedText? != some (subscribedText? type.content)))
      (show (Module.ofText Template.spacedTemplate).toOption.map _ = some true by decide +kernel)
  obtain ⟨unquoted, differs⟩ := Bool.and_eq_true_iff.1 holds
  obtain ⟨copy, copied, differs⟩ := (Option.any_eq_true _ _).1 differs
  refine ⟨module, statement, definition, type, copy, read, among, isClass, isType,
    Option.isNone_iff_eq_none.1 unquoted, Template.eq_ok_of_toOption copied, fun same => ?_⟩
  rw [same] at differs
  exact absurd differs (by simp)

end DifferenceTypes
