import DifferenceTypes.Proofs.Syntax.Content

/-!
# Statements inside of statements

A statement holds blocks: the bodies of functions, classes, conditionals, loops, contexts and `try`
statements, those of the other branches and of the clean-up, and the bodies of handlers and cases. A
statement stands in a list of statements if it is one of them or stands in a block of one of them, so many
blocks deep (`StandsAt`). Expressions hold no statements.

Blocks are smaller than the statements that hold them, so what holds of a list whenever it holds of all the
blocks in it holds of every list (`blocks_induction`).
-/

namespace DifferenceTypes

variable {σ τ : Type}

/-- The statements of a case. -/
def Case.body : Case σ → List (Stmt σ)
  | .case _ _ body => body

/-- The statements of a handler. -/
def Handler.body : Handler σ → List (Stmt σ)
  | .handler _ _ body => body

/-- The blocks that a statement holds, those of its handlers and cases among them. -/
def Stmt.blocks : Stmt σ → List (List (Stmt σ))
  | .function _ _ _ _ body _ _ | .classDefinition _ _ _ _ body _ | .withBlock _ _ _ body => [body]
  | .conditional _ _ body otherwise | .whileLoop _ _ body otherwise
  | .forLoop _ _ _ _ body otherwise => [body, otherwise]
  | .matchBlock _ _ cases => cases.map Case.body
  | .tryBlock _ _ body handlers otherwise cleanup =>
    body :: handlers.map Handler.body ++ [otherwise, cleanup]
  | _ => []

/-- A statement stands so many blocks deep in a list of statements. -/
inductive StandsAt : Nat → List (Stmt σ) → Stmt σ → Prop
  | here {statements : List (Stmt σ)} {statement : Stmt σ} (among : statement ∈ statements) :
      StandsAt 0 statements statement
  | inside {depth : Nat} {statements block : List (Stmt σ)} {outer statement : Stmt σ}
      (among : outer ∈ statements) (isBlock : block ∈ outer.blocks)
      (deeper : StandsAt depth block statement) : StandsAt (depth + 1) statements statement

/-! ### Blocks are smaller -/

theorem sizeOf_lt_of_mem_blocks {statement : Stmt σ} {block : List (Stmt σ)}
    (isBlock : block ∈ statement.blocks) : sizeOf block < sizeOf statement := by
  cases statement with
  | function | classDefinition | withBlock =>
    obtain rfl := List.mem_singleton.1 isBlock
    simp +arith
  | conditional | whileLoop | forLoop =>
    simp only [Stmt.blocks, List.mem_cons, List.not_mem_nil, or_false] at isBlock
    rcases isBlock with rfl | rfl <;> simp +arith
  | matchBlock span subject cases =>
    obtain ⟨⟨pattern, guard, body⟩, among, rfl⟩ := List.mem_map.1 isBlock
    have smaller := List.sizeOf_lt_of_mem among
    simp only [Case.case.sizeOf_spec, Case.body, Stmt.matchBlock.sizeOf_spec] at smaller ⊢
    omega
  | tryBlock span isGroup body handlers otherwise cleanup =>
    simp only [Stmt.blocks, List.cons_append, List.mem_cons, List.mem_append, List.not_mem_nil,
      or_false] at isBlock
    rcases isBlock with rfl | isHandler | rfl | rfl
    · simp +arith
    · obtain ⟨⟨type, identifier, inside⟩, among, rfl⟩ := List.mem_map.1 isHandler
      have smaller := List.sizeOf_lt_of_mem among
      simp only [Handler.handler.sizeOf_spec, Handler.body, Stmt.tryBlock.sizeOf_spec] at smaller ⊢
      omega
    · simp +arith
    · simp +arith
  | _ => cases isBlock

/-- What holds of a list of statements whenever it holds of all blocks in it holds of every list. -/
theorem blocks_induction {property : List (Stmt σ) → Prop}
    (step : ∀ statements, (∀ statement ∈ statements, ∀ block ∈ statement.blocks, property block) →
      property statements) (statements : List (Stmt σ)) : property statements := by
  refine step statements fun statement among block isBlock => ?_
  have smaller := Nat.lt_trans (sizeOf_lt_of_mem_blocks isBlock) (List.sizeOf_lt_of_mem among)
  exact blocks_induction step block
termination_by sizeOf statements

/-! ### Other spans -/

theorem map_body_mapAll_cases (change : σ → τ) (cases : List (Case σ)) :
    (Case.mapAll change cases).map Case.body = (cases.map Case.body).map (Stmt.mapAll change) := by
  induction cases with
  | nil => rfl
  | cons first rest inductionHypothesis =>
    cases first
    rw [Case.mapAll, List.map_cons, inductionHypothesis]
    rfl

theorem map_body_mapAll_handlers (change : σ → τ) (handlers : List (Handler σ)) :
    (Handler.mapAll change handlers).map Handler.body =
      (handlers.map Handler.body).map (Stmt.mapAll change) := by
  induction handlers with
  | nil => rfl
  | cons first rest inductionHypothesis =>
    cases first
    rw [Handler.mapAll, List.map_cons, inductionHypothesis]
    rfl

/-- Spans do not matter to which blocks there are. -/
theorem Stmt.blocks_map (change : σ → τ) (statement : Stmt σ) :
    (statement.map change).blocks = statement.blocks.map (Stmt.mapAll change) := by
  cases statement with
  | matchBlock span subject cases => exact map_body_mapAll_cases change cases
  | tryBlock span isGroup body handlers otherwise cleanup =>
    simp only [map, blocks, map_body_mapAll_handlers, List.cons_append, List.map_cons, List.map_append,
      List.map_nil]
  | _ => rfl

/-- What stands in statements with other spans stood in them before. -/
theorem StandsAt.exists_of_mapAll {change : σ → τ} {depth : Nat} {statements : List (Stmt σ)}
    {statement : Stmt τ} (stands : StandsAt depth (Stmt.mapAll change statements) statement) :
    ∃ before, StandsAt depth statements before ∧ statement = before.map change := by
  generalize mapped : Stmt.mapAll change statements = list at stands
  induction stands generalizing statements with
  | here among =>
    subst mapped
    rw [Stmt.mapAll_eq_map] at among
    obtain ⟨before, isOne, rfl⟩ := List.mem_map.1 among
    exact ⟨before, .here isOne, rfl⟩
  | inside among isBlock deeper inductionHypothesis =>
    subst mapped
    rw [Stmt.mapAll_eq_map] at among
    obtain ⟨outer, isOne, rfl⟩ := List.mem_map.1 among
    rw [Stmt.blocks_map] at isBlock
    obtain ⟨block, isInner, rfl⟩ := List.mem_map.1 isBlock
    obtain ⟨before, stands, rfl⟩ := inductionHypothesis rfl
    exact ⟨before, .inside isOne isInner stands, rfl⟩

end DifferenceTypes
