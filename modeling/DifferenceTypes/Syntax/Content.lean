import DifferenceTypes.Syntax.Tree

/-!
# Spans of trees

The trees of the syntax carry a span at every expression and statement, of whatever kind. `map` puts
other spans in their place: those of a piece that is parsed alone become spans of the whole. What is
left of a tree when its spans are taken away is its content, and two pieces of source text say the
same if their trees have the same content.
-/

namespace DifferenceTypes

mutual

/-- Other spans in an expression. -/
def Expr.map {σ τ : Type} (change : σ → τ) : Expr σ → Expr τ
  | .name span identifier => .name (change span) identifier
  | .constant span value => .constant (change span) value
  | .formatted span parts => .formatted (change span) (Expr.mapAll change parts)
  | .interpolation span value conversion format =>
    .interpolation (change span) (Expr.map change value) conversion (Expr.mapOption change format)
  | .attribute span value identifier => .attribute (change span) (Expr.map change value) identifier
  | .subscript span value index =>
    .subscript (change span) (Expr.map change value) (Expr.map change index)
  | .slice span lower upper step =>
    .slice (change span) (Expr.mapOption change lower) (Expr.mapOption change upper)
      (Expr.mapOption change step)
  | .call span callee arguments keywords =>
    .call (change span) (Expr.map change callee) (Expr.mapAll change arguments)
      (Keyword.mapAll change keywords)
  | .starred span value => .starred (change span) (Expr.map change value)
  | .tuple span elements => .tuple (change span) (Expr.mapAll change elements)
  | .list span elements => .list (change span) (Expr.mapAll change elements)
  | .set span elements => .set (change span) (Expr.mapAll change elements)
  | .dictionary span entries => .dictionary (change span) (Entry.mapAll change entries)
  | .unary span operator operand => .unary (change span) operator (Expr.map change operand)
  | .binary span left operator right =>
    .binary (change span) (Expr.map change left) operator (Expr.map change right)
  | .boolean span operator operands => .boolean (change span) operator (Expr.mapAll change operands)
  | .comparison span first rest =>
    .comparison (change span) (Expr.map change first) (Comparison.mapAll change rest)
  | .conditional span test whenTrue whenFalse =>
    .conditional (change span) (Expr.map change test) (Expr.map change whenTrue)
      (Expr.map change whenFalse)
  | .lambda span parameters body =>
    .lambda (change span) (Parameters.map change parameters) (Expr.map change body)
  | .assignment span target value =>
    .assignment (change span) (Expr.map change target) (Expr.map change value)
  | .await span value => .await (change span) (Expr.map change value)
  | .yield span value => .yield (change span) (Expr.mapOption change value)
  | .yieldFrom span value => .yieldFrom (change span) (Expr.map change value)
  | .listComprehension span element clauses =>
    .listComprehension (change span) (Expr.map change element) (Clause.mapAll change clauses)
  | .setComprehension span element clauses =>
    .setComprehension (change span) (Expr.map change element) (Clause.mapAll change clauses)
  | .dictionaryComprehension span key value clauses =>
    .dictionaryComprehension (change span) (Expr.map change key) (Expr.map change value)
      (Clause.mapAll change clauses)
  | .generator span element clauses =>
    .generator (change span) (Expr.map change element) (Clause.mapAll change clauses)

/-- Other spans in expressions. -/
def Expr.mapAll {σ τ : Type} (change : σ → τ) : List (Expr σ) → List (Expr τ)
  | [] => []
  | first :: rest => first.map change :: Expr.mapAll change rest

/-- Other spans in an expression, if there is one. -/
def Expr.mapOption {σ τ : Type} (change : σ → τ) : Option (Expr σ) → Option (Expr τ)
  | none => none
  | some found => some (found.map change)

/-- Other spans in a keyword argument. -/
def Keyword.map {σ τ : Type} (change : σ → τ) : Keyword σ → Keyword τ
  | .named span identifier value => .named (change span) identifier (Expr.map change value)
  | .unpacked span value => .unpacked (change span) (Expr.map change value)

/-- Other spans in keyword arguments. -/
def Keyword.mapAll {σ τ : Type} (change : σ → τ) : List (Keyword σ) → List (Keyword τ)
  | [] => []
  | first :: rest => first.map change :: Keyword.mapAll change rest

/-- Other spans in an entry of a dictionary. -/
def Entry.map {σ τ : Type} (change : σ → τ) : Entry σ → Entry τ
  | .pair key value => .pair (Expr.map change key) (Expr.map change value)
  | .unpacked value => .unpacked (Expr.map change value)

/-- Other spans in entries of a dictionary. -/
def Entry.mapAll {σ τ : Type} (change : σ → τ) : List (Entry σ) → List (Entry τ)
  | [] => []
  | first :: rest => first.map change :: Entry.mapAll change rest

/-- Other spans in a step of a comparison chain. -/
def Comparison.map {σ τ : Type} (change : σ → τ) : Comparison σ → Comparison τ
  | .step operator operand => .step operator (Expr.map change operand)

/-- Other spans in the steps of a comparison chain. -/
def Comparison.mapAll {σ τ : Type} (change : σ → τ) : List (Comparison σ) → List (Comparison τ)
  | [] => []
  | first :: rest => first.map change :: Comparison.mapAll change rest

/-- Other spans in a clause of a comprehension. -/
def Clause.map {σ τ : Type} (change : σ → τ) : Clause σ → Clause τ
  | .clause isAsync target source conditions =>
    .clause isAsync (Expr.map change target) (Expr.map change source)
      (Expr.mapAll change conditions)

/-- Other spans in the clauses of a comprehension. -/
def Clause.mapAll {σ τ : Type} (change : σ → τ) : List (Clause σ) → List (Clause τ)
  | [] => []
  | first :: rest => first.map change :: Clause.mapAll change rest

/-- Other spans in a parameter. -/
def Parameter.map {σ τ : Type} (change : σ → τ) : Parameter σ → Parameter τ
  | .parameter identifier type default =>
    .parameter identifier (Expr.mapOption change type) (Expr.mapOption change default)

/-- Other spans in parameters. -/
def Parameter.mapAll {σ τ : Type} (change : σ → τ) : List (Parameter σ) → List (Parameter τ)
  | [] => []
  | first :: rest => first.map change :: Parameter.mapAll change rest

/-- Other spans in a parameter, if there is one. -/
def Parameter.mapOption {σ τ : Type} (change : σ → τ) : Option (Parameter σ) → Option (Parameter τ)
  | none => none
  | some found => some (found.map change)

/-- Other spans in the parameters of a function. -/
def Parameters.map {σ τ : Type} (change : σ → τ) : Parameters σ → Parameters τ
  | .parameters positionalOnly positional rest keywordOnly keywordRest =>
    .parameters (Parameter.mapAll change positionalOnly) (Parameter.mapAll change positional)
      (Parameter.mapOption change rest) (Parameter.mapAll change keywordOnly)
      (Parameter.mapOption change keywordRest)

end

mutual

/-- Other spans in a pattern. -/
def Pattern.map {σ τ : Type} (change : σ → τ) : Pattern σ → Pattern τ
  | .value expression => .value (Expr.map change expression)
  | .constant literal => .constant literal
  | .sequence patterns => .sequence (Pattern.mapAll change patterns)
  | .mapping keys patterns rest =>
    .mapping (Expr.mapAll change keys) (Pattern.mapAll change patterns) rest
  | .classPattern className patterns attributes values =>
    .classPattern (Expr.map change className) (Pattern.mapAll change patterns) attributes
      (Pattern.mapAll change values)
  | .star identifier => .star identifier
  | .capture pattern identifier => .capture (Pattern.mapOption change pattern) identifier
  | .alternatives patterns => .alternatives (Pattern.mapAll change patterns)

/-- Other spans in patterns. -/
def Pattern.mapAll {σ τ : Type} (change : σ → τ) : List (Pattern σ) → List (Pattern τ)
  | [] => []
  | first :: rest => first.map change :: Pattern.mapAll change rest

/-- Other spans in a pattern, if there is one. -/
def Pattern.mapOption {σ τ : Type} (change : σ → τ) : Option (Pattern σ) → Option (Pattern τ)
  | none => none
  | some found => some (found.map change)

end

/-- Other spans in a context. -/
def Context.map {σ τ : Type} (change : σ → τ) (context : Context σ) : Context τ :=
  ⟨context.value.map change, Expr.mapOption change context.target⟩

mutual

/-- Other spans in a statement. -/
def Stmt.map {σ τ : Type} (change : σ → τ) : Stmt σ → Stmt τ
  | .expression span value => .expression (change span) (Expr.map change value)
  | .assign span targets value =>
    .assign (change span) (Expr.mapAll change targets) (Expr.map change value)
  | .augment span target operator value =>
    .augment (change span) (Expr.map change target) operator (Expr.map change value)
  | .declare span target type value simple =>
    .declare (change span) (Expr.map change target) (Expr.map change type)
      (Expr.mapOption change value) simple
  | .delete span targets => .delete (change span) (Expr.mapAll change targets)
  | .returns span value => .returns (change span) (Expr.mapOption change value)
  | .raises span exception cause =>
    .raises (change span) (Expr.mapOption change exception) (Expr.mapOption change cause)
  | .asserts span test message =>
    .asserts (change span) (Expr.map change test) (Expr.mapOption change message)
  | .pass span => .pass (change span)
  | .breaks span => .breaks (change span)
  | .continues span => .continues (change span)
  | .globals span identifiers => .globals (change span) identifiers
  | .nonlocals span identifiers => .nonlocals (change span) identifiers
  | .imports span names => .imports (change span) names
  | .importsFrom span level path names => .importsFrom (change span) level path names
  | .function span isAsync identifier parameters body decorators result =>
    .function (change span) isAsync identifier (Parameters.map change parameters)
      (Stmt.mapAll change body) (Expr.mapAll change decorators) (Expr.mapOption change result)
  | .classDefinition span identifier bases keywords body decorators =>
    .classDefinition (change span) identifier (Expr.mapAll change bases)
      (Keyword.mapAll change keywords) (Stmt.mapAll change body) (Expr.mapAll change decorators)
  | .conditional span test body otherwise =>
    .conditional (change span) (Expr.map change test) (Stmt.mapAll change body)
      (Stmt.mapAll change otherwise)
  | .whileLoop span test body otherwise =>
    .whileLoop (change span) (Expr.map change test) (Stmt.mapAll change body)
      (Stmt.mapAll change otherwise)
  | .forLoop span isAsync target source body otherwise =>
    .forLoop (change span) isAsync (Expr.map change target) (Expr.map change source)
      (Stmt.mapAll change body) (Stmt.mapAll change otherwise)
  | .withBlock span isAsync contexts body =>
    .withBlock (change span) isAsync (contexts.map (Context.map change)) (Stmt.mapAll change body)
  | .matchBlock span subject cases =>
    .matchBlock (change span) (Expr.map change subject) (Case.mapAll change cases)
  | .tryBlock span isGroup body handlers otherwise cleanup =>
    .tryBlock (change span) isGroup (Stmt.mapAll change body) (Handler.mapAll change handlers)
      (Stmt.mapAll change otherwise) (Stmt.mapAll change cleanup)

/-- Other spans in statements. -/
def Stmt.mapAll {σ τ : Type} (change : σ → τ) : List (Stmt σ) → List (Stmt τ)
  | [] => []
  | first :: rest => first.map change :: Stmt.mapAll change rest

/-- Other spans in a case. -/
def Case.map {σ τ : Type} (change : σ → τ) : Case σ → Case τ
  | .case pattern guard body =>
    .case (Pattern.map change pattern) (Expr.mapOption change guard) (Stmt.mapAll change body)

/-- Other spans in cases. -/
def Case.mapAll {σ τ : Type} (change : σ → τ) : List (Case σ) → List (Case τ)
  | [] => []
  | first :: rest => first.map change :: Case.mapAll change rest

/-- Other spans in a handler. -/
def Handler.map {σ τ : Type} (change : σ → τ) : Handler σ → Handler τ
  | .handler type identifier body =>
    .handler (Expr.mapOption change type) identifier (Stmt.mapAll change body)

/-- Other spans in handlers. -/
def Handler.mapAll {σ τ : Type} (change : σ → τ) : List (Handler σ) → List (Handler τ)
  | [] => []
  | first :: rest => first.map change :: Handler.mapAll change rest

end

/-- What an expression says, wherever it stands. -/
def Expr.content {σ : Type} (expression : Expr σ) : Expr Unit :=
  expression.map fun _ => ()

/-- What statements say, wherever they stand. -/
def Stmt.contents {σ : Type} (statements : List (Stmt σ)) : List (Stmt Unit) :=
  mapAll (fun _ => ()) statements

end DifferenceTypes
