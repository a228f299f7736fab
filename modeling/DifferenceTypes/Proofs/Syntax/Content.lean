import DifferenceTypes.Syntax.Content

/-!
# Changing spans twice

Changing the spans of a tree and changing them again is one change. So the content of a tree does not
depend on the spans that it was given, and trees that were read in different places can be compared by
what they say.
-/

namespace DifferenceTypes

variable {ρ σ τ : Type} (first : ρ → σ) (second : σ → τ)

mutual

theorem Expr.map_map : (expression : Expr ρ) →
    (expression.map first).map second = expression.map (second ∘ first)
  | .name .. | .constant .. => by simp only [Expr.map, Function.comp_apply]
  | .formatted _ parts => by simp only [Expr.map, Function.comp_apply, Expr.mapAll_mapAll parts]
  | .interpolation _ value _ format => by
    simp only [Expr.map, Function.comp_apply, value.map_map, Expr.mapOption_mapOption format]
  | .attribute _ value _ => by simp only [Expr.map, Function.comp_apply, value.map_map]
  | .subscript _ value index => by
    simp only [Expr.map, Function.comp_apply, value.map_map, index.map_map]
  | .slice _ lower upper step => by
    simp only [Expr.map, Function.comp_apply, Expr.mapOption_mapOption lower,
      Expr.mapOption_mapOption upper, Expr.mapOption_mapOption step]
  | .call _ callee arguments keywords => by
    simp only [Expr.map, Function.comp_apply, callee.map_map, Expr.mapAll_mapAll arguments,
      Keyword.mapAll_mapAll keywords]
  | .starred _ value | .await _ value | .yieldFrom _ value => by
    simp only [Expr.map, Function.comp_apply, value.map_map]
  | .tuple _ elements | .list _ elements | .set _ elements => by
    simp only [Expr.map, Function.comp_apply, Expr.mapAll_mapAll elements]
  | .dictionary _ entries => by
    simp only [Expr.map, Function.comp_apply, Entry.mapAll_mapAll entries]
  | .unary _ _ operand => by simp only [Expr.map, Function.comp_apply, operand.map_map]
  | .binary _ left _ right => by
    simp only [Expr.map, Function.comp_apply, left.map_map, right.map_map]
  | .boolean _ _ operands => by
    simp only [Expr.map, Function.comp_apply, Expr.mapAll_mapAll operands]
  | .comparison _ operand rest => by
    simp only [Expr.map, Function.comp_apply, operand.map_map, Comparison.mapAll_mapAll rest]
  | .conditional _ test whenTrue whenFalse => by
    simp only [Expr.map, Function.comp_apply, test.map_map, whenTrue.map_map, whenFalse.map_map]
  | .lambda _ parameters body => by
    simp only [Expr.map, Function.comp_apply, parameters.map_map, body.map_map]
  | .assignment _ target value => by
    simp only [Expr.map, Function.comp_apply, target.map_map, value.map_map]
  | .yield _ value => by simp only [Expr.map, Function.comp_apply, Expr.mapOption_mapOption value]
  | .listComprehension _ element clauses | .setComprehension _ element clauses
  | .generator _ element clauses => by
    simp only [Expr.map, Function.comp_apply, element.map_map, Clause.mapAll_mapAll clauses]
  | .dictionaryComprehension _ key value clauses => by
    simp only [Expr.map, Function.comp_apply, key.map_map, value.map_map, Clause.mapAll_mapAll clauses]

theorem Expr.mapAll_mapAll : (expressions : List (Expr ρ)) →
    Expr.mapAll second (Expr.mapAll first expressions) = Expr.mapAll (second ∘ first) expressions
  | [] => by simp only [Expr.mapAll]
  | expression :: rest => by simp only [Expr.mapAll, expression.map_map, Expr.mapAll_mapAll rest]

theorem Expr.mapOption_mapOption : (expression : Option (Expr ρ)) →
    Expr.mapOption second (Expr.mapOption first expression) =
      Expr.mapOption (second ∘ first) expression
  | none => by simp only [Expr.mapOption]
  | some expression => by simp only [Expr.mapOption, expression.map_map]

theorem Keyword.map_map : (keyword : Keyword ρ) →
    (keyword.map first).map second = keyword.map (second ∘ first)
  | .named _ _ value => by simp only [Keyword.map, Function.comp_apply, value.map_map]
  | .unpacked _ value => by simp only [Keyword.map, Function.comp_apply, value.map_map]

theorem Keyword.mapAll_mapAll : (keywords : List (Keyword ρ)) →
    Keyword.mapAll second (Keyword.mapAll first keywords) = Keyword.mapAll (second ∘ first) keywords
  | [] => by simp only [Keyword.mapAll]
  | keyword :: rest => by simp only [Keyword.mapAll, keyword.map_map, Keyword.mapAll_mapAll rest]

theorem Entry.map_map : (entry : Entry ρ) →
    (entry.map first).map second = entry.map (second ∘ first)
  | .pair key value => by simp only [Entry.map, key.map_map, value.map_map]
  | .unpacked value => by simp only [Entry.map, value.map_map]

theorem Entry.mapAll_mapAll : (entries : List (Entry ρ)) →
    Entry.mapAll second (Entry.mapAll first entries) = Entry.mapAll (second ∘ first) entries
  | [] => by simp only [Entry.mapAll]
  | entry :: rest => by simp only [Entry.mapAll, entry.map_map, Entry.mapAll_mapAll rest]

theorem Comparison.map_map : (comparison : Comparison ρ) →
    (comparison.map first).map second = comparison.map (second ∘ first)
  | .step _ operand => by simp only [Comparison.map, operand.map_map]

theorem Comparison.mapAll_mapAll : (comparisons : List (Comparison ρ)) →
    Comparison.mapAll second (Comparison.mapAll first comparisons) =
      Comparison.mapAll (second ∘ first) comparisons
  | [] => by simp only [Comparison.mapAll]
  | comparison :: rest => by
    simp only [Comparison.mapAll, comparison.map_map, Comparison.mapAll_mapAll rest]

theorem Clause.map_map : (clause : Clause ρ) →
    (clause.map first).map second = clause.map (second ∘ first)
  | .clause _ target source conditions => by
    simp only [Clause.map, target.map_map, source.map_map, Expr.mapAll_mapAll conditions]

theorem Clause.mapAll_mapAll : (clauses : List (Clause ρ)) →
    Clause.mapAll second (Clause.mapAll first clauses) = Clause.mapAll (second ∘ first) clauses
  | [] => by simp only [Clause.mapAll]
  | clause :: rest => by simp only [Clause.mapAll, clause.map_map, Clause.mapAll_mapAll rest]

theorem Parameter.map_map : (parameter : Parameter ρ) →
    (parameter.map first).map second = parameter.map (second ∘ first)
  | .parameter _ type default => by
    simp only [Parameter.map, Expr.mapOption_mapOption type, Expr.mapOption_mapOption default]

theorem Parameter.mapAll_mapAll : (parameters : List (Parameter ρ)) →
    Parameter.mapAll second (Parameter.mapAll first parameters) =
      Parameter.mapAll (second ∘ first) parameters
  | [] => by simp only [Parameter.mapAll]
  | parameter :: rest => by
    simp only [Parameter.mapAll, parameter.map_map, Parameter.mapAll_mapAll rest]

theorem Parameter.mapOption_mapOption : (parameter : Option (Parameter ρ)) →
    Parameter.mapOption second (Parameter.mapOption first parameter) =
      Parameter.mapOption (second ∘ first) parameter
  | none => by simp only [Parameter.mapOption]
  | some parameter => by simp only [Parameter.mapOption, parameter.map_map]

theorem Parameters.map_map : (parameters : Parameters ρ) →
    (parameters.map first).map second = parameters.map (second ∘ first)
  | .parameters positionalOnly positional rest keywordOnly keywordRest => by
    simp only [Parameters.map, Parameter.mapAll_mapAll positionalOnly,
      Parameter.mapAll_mapAll positional, Parameter.mapOption_mapOption rest,
      Parameter.mapAll_mapAll keywordOnly, Parameter.mapOption_mapOption keywordRest]

end

mutual

theorem Pattern.map_map : (pattern : Pattern ρ) →
    (pattern.map first).map second = pattern.map (second ∘ first)
  | .value expression => by simp only [Pattern.map, expression.map_map]
  | .constant _ | .star _ => by simp only [Pattern.map]
  | .sequence patterns | .alternatives patterns => by
    simp only [Pattern.map, Pattern.mapAll_mapAll patterns]
  | .mapping keys patterns _ => by
    simp only [Pattern.map, Expr.mapAll_mapAll, Pattern.mapAll_mapAll patterns]
  | .classPattern className patterns _ values => by
    simp only [Pattern.map, className.map_map, Pattern.mapAll_mapAll patterns,
      Pattern.mapAll_mapAll values]
  | .capture pattern _ => by simp only [Pattern.map, Pattern.mapOption_mapOption pattern]

theorem Pattern.mapAll_mapAll : (patterns : List (Pattern ρ)) →
    Pattern.mapAll second (Pattern.mapAll first patterns) = Pattern.mapAll (second ∘ first) patterns
  | [] => by simp only [Pattern.mapAll]
  | pattern :: rest => by simp only [Pattern.mapAll, pattern.map_map, Pattern.mapAll_mapAll rest]

theorem Pattern.mapOption_mapOption : (pattern : Option (Pattern ρ)) →
    Pattern.mapOption second (Pattern.mapOption first pattern) =
      Pattern.mapOption (second ∘ first) pattern
  | none => by simp only [Pattern.mapOption]
  | some pattern => by simp only [Pattern.mapOption, pattern.map_map]

end

theorem Context.map_comp_map :
    Context.map second ∘ Context.map first = Context.map (second ∘ first) :=
  funext fun context => by
    simp only [Function.comp_apply, Context.map, Expr.map_map, Expr.mapOption_mapOption]

mutual

theorem Stmt.map_map : (statement : Stmt ρ) →
    (statement.map first).map second = statement.map (second ∘ first)
  | .expression .. | .assign .. | .augment .. | .declare .. | .delete .. | .returns .. | .raises ..
  | .asserts .. | .pass .. | .breaks .. | .continues .. | .globals .. | .nonlocals .. | .imports ..
  | .importsFrom .. => by
    simp only [Stmt.map, Function.comp_apply, Expr.map_map, Expr.mapAll_mapAll,
      Expr.mapOption_mapOption]
  | .function _ _ _ _ body _ _ => by
    simp only [Stmt.map, Function.comp_apply, Parameters.map_map, Stmt.mapAll_mapAll body,
      Expr.mapAll_mapAll, Expr.mapOption_mapOption]
  | .classDefinition _ _ _ _ body _ => by
    simp only [Stmt.map, Function.comp_apply, Keyword.mapAll_mapAll, Stmt.mapAll_mapAll body,
      Expr.mapAll_mapAll]
  | .conditional _ _ body otherwise | .whileLoop _ _ body otherwise
  | .forLoop _ _ _ _ body otherwise => by
    simp only [Stmt.map, Function.comp_apply, Expr.map_map, Stmt.mapAll_mapAll body,
      Stmt.mapAll_mapAll otherwise]
  | .withBlock _ _ contexts body => by
    simp only [Stmt.map, Function.comp_apply, List.map_map, Context.map_comp_map,
      Stmt.mapAll_mapAll body]
  | .matchBlock _ _ cases => by
    simp only [Stmt.map, Function.comp_apply, Expr.map_map, Case.mapAll_mapAll cases]
  | .tryBlock _ _ body handlers otherwise cleanup => by
    simp only [Stmt.map, Function.comp_apply, Stmt.mapAll_mapAll body,
      Handler.mapAll_mapAll handlers, Stmt.mapAll_mapAll otherwise, Stmt.mapAll_mapAll cleanup]

theorem Stmt.mapAll_mapAll : (statements : List (Stmt ρ)) →
    Stmt.mapAll second (Stmt.mapAll first statements) = Stmt.mapAll (second ∘ first) statements
  | [] => by simp only [Stmt.mapAll]
  | statement :: rest => by
    simp only [Stmt.mapAll, statement.map_map, Stmt.mapAll_mapAll rest]

theorem Case.map_map : (case_ : Case ρ) →
    (case_.map first).map second = case_.map (second ∘ first)
  | .case _ _ body => by
    simp only [Case.map, Pattern.map_map, Expr.mapOption_mapOption, Stmt.mapAll_mapAll body]

theorem Case.mapAll_mapAll : (cases : List (Case ρ)) →
    Case.mapAll second (Case.mapAll first cases) = Case.mapAll (second ∘ first) cases
  | [] => by simp only [Case.mapAll]
  | case_ :: rest => by simp only [Case.mapAll, case_.map_map, Case.mapAll_mapAll rest]

theorem Handler.map_map : (handler : Handler ρ) →
    (handler.map first).map second = handler.map (second ∘ first)
  | .handler _ _ body => by
    simp only [Handler.map, Expr.mapOption_mapOption, Stmt.mapAll_mapAll body]

theorem Handler.mapAll_mapAll : (handlers : List (Handler ρ)) →
    Handler.mapAll second (Handler.mapAll first handlers) = Handler.mapAll (second ∘ first) handlers
  | [] => by simp only [Handler.mapAll]
  | handler :: rest => by simp only [Handler.mapAll, handler.map_map, Handler.mapAll_mapAll rest]

end

/-! ### Contents -/

theorem Expr.content_map (expression : Expr ρ) :
    (expression.map first).content = expression.content :=
  expression.map_map first fun _ => ()

theorem Stmt.contents_mapAll (statements : List (Stmt ρ)) :
    contents (mapAll first statements) = contents statements :=
  mapAll_mapAll first (fun _ => ()) statements

theorem Expr.mapAll_eq_map (expressions : List (Expr ρ)) :
    mapAll first expressions = expressions.map (map first) := by
  induction expressions with
  | nil => rfl
  | cons expression rest inductionHypothesis => rw [mapAll, inductionHypothesis, List.map_cons]

theorem Stmt.mapAll_eq_map (statements : List (Stmt ρ)) :
    mapAll first statements = statements.map (map first) := by
  induction statements with
  | nil => rfl
  | cons statement rest inductionHypothesis => rw [mapAll, inductionHypothesis, List.map_cons]

theorem Stmt.contents_append (front behind : List (Stmt ρ)) :
    contents (front ++ behind) = contents front ++ contents behind := by
  rw [contents, contents, contents, mapAll_eq_map, mapAll_eq_map, mapAll_eq_map, List.map_append]

theorem Expr.span_map (expression : Expr ρ) : (expression.map first).span = first expression.span := by
  cases expression <;> rfl

theorem Stmt.span_map (statement : Stmt ρ) : (statement.map first).span = first statement.span := by
  cases statement <;> rfl

end DifferenceTypes
