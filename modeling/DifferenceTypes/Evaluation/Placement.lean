import DifferenceTypes.Object.Library
import DifferenceTypes.Syntax.Content

/-!
# Where statements may stand

Some statements parse anywhere and mean something in some places only. A module in which one of them
stands elsewhere is refused as a whole, before any of its statements is run: a return outside a
function, a jump outside a loop, a name left to an enclosing function where there is none, a star
that imports into a body, a parameter that is named twice, and a feature of the future that is asked
for too late or does not exist.
-/

namespace DifferenceTypes.Placement

/-- What encloses a statement. -/
structure Surroundings where
  insideFunction : Bool
  insideLoop : Bool
  atTop : Bool

/-- The surroundings of the statements of a module. -/
def Surroundings.ofModule : Surroundings :=
  ⟨false, false, true⟩

/-- The surroundings of the statements of a function. -/
def Surroundings.ofFunction : Surroundings :=
  ⟨true, false, false⟩

/-- The surroundings of the statements of a class. -/
def Surroundings.ofClass : Surroundings :=
  ⟨false, false, false⟩

/-- Whether a statement asks for features of the future. -/
def asksForFeatures : Stmt Unit → Bool
  | .importsFrom _ 0 (some path) _ => path == Library.path .future
  | _ => false

/-- Whether a statement may stand in front of one that asks for features: another such, or a
constant. -/
def isPreamble : Stmt Unit → Bool
  | .expression _ (.constant _ _) => true
  | statement => asksForFeatures statement

/-- Whether the features that a statement asks for exist. -/
def hasFeatures : Stmt Unit → Bool
  | .importsFrom _ _ _ names => names.all fun imported => Library.features.elem imported.path
  | _ => true

/-- Whether the elements of a list differ from each other. -/
def areDistinct : List String → Bool
  | [] => true
  | first :: rest => !rest.elem first && areDistinct rest

mutual

/-- Whether a statement and those inside it may stand where they are. -/
def isPlaced (around : Surroundings) : Stmt Unit → Bool
  | .returns _ _ => around.insideFunction
  | .breaks _ | .continues _ => around.insideLoop
  | .nonlocals _ _ => !around.atTop
  | .importsFrom _ _ path names =>
    path != some (Library.path .future) &&
      (around.atTop || names.all fun imported => imported.path != "*")
  | .function _ _ _ parameters body _ _ =>
    areDistinct (parameters.toList.map Parameter.identifier) && arePlaced .ofFunction body
  | .classDefinition _ _ _ _ body _ => arePlaced .ofClass body
  | .conditional _ _ body otherwise => arePlaced around body && arePlaced around otherwise
  | .whileLoop _ _ body otherwise | .forLoop _ _ _ _ body otherwise =>
    arePlaced { around with insideLoop := true } body && arePlaced around otherwise
  | .withBlock _ _ _ body => arePlaced around body
  | .matchBlock _ _ cases => arePlacedInCases around cases
  | .tryBlock _ _ body handlers otherwise cleanup =>
    arePlaced around body && arePlacedInHandlers around handlers && arePlaced around otherwise &&
      arePlaced around cleanup
  | _ => true

/-- Whether statements may stand where they are. -/
def arePlaced (around : Surroundings) : List (Stmt Unit) → Bool
  | [] => true
  | first :: rest => isPlaced around first && arePlaced around rest

/-- Whether the statements of cases may stand where they are. -/
def arePlacedInCases (around : Surroundings) : List (Case Unit) → Bool
  | [] => true
  | .case _ _ body :: rest => arePlaced around body && arePlacedInCases around rest

/-- Whether the statements of handlers may stand where they are. -/
def arePlacedInHandlers (around : Surroundings) : List (Handler Unit) → Bool
  | [] => true
  | .handler _ _ body :: rest => arePlaced around body && arePlacedInHandlers around rest

end

/-- Whether every statement of a module may stand where it is. -/
def isValid (module : List (Stmt Unit)) : Bool :=
  (module.takeWhile isPreamble).all hasFeatures &&
    arePlaced .ofModule (module.dropWhile isPreamble)

end DifferenceTypes.Placement
