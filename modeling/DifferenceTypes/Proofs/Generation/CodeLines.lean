import DifferenceTypes.Proofs.Generation.RepresentationTexts

/-!
# Lines of generated code

Generated code is joined from lines in which names and the texts of field types stand. A name holds no line
end, the text of a type holds none since its blanks were collapsed, and in the representation of a type
every one is written as an escape. So the lines of the code are the lines that it was joined from, by the
rules of source lines and by those of display lines alike. How many there are follows from the shape of the
class and the number of its fields, and so does where the lines of a field stand (`Code.lines_of_render`).
-/

namespace DifferenceTypes

open Text (AreUnbroken areUnbroken_append areUnbroken_cons isUnbroken_append)

/-- The names that the code of a block is written with are identifiers. -/
structure Block.HasNames (block : Block) : Prop where
  name : block.name.IsName
  differenceName : block.differenceName.IsName
  fields : block.shape = .named → ∀ field ∈ block.fields, field.name.IsName

/-- The types of the fields are written as texts whose blanks were collapsed. -/
def Block.HasTidyTypes (block : Block) : Prop :=
  ∀ field ∈ block.fields, ∃ text : Text, field.typeText = text.collapseBlanks

namespace Code

variable {block : Block} {field : Field}

/-! ### No line holds a line end -/

theorem isUnbroken_representation (field : Field) : (representation field).IsUnbroken :=
  Text.isUnbroken_ofCharacters fun _ inside =>
    endsDisplayLine_of_isPrintable (Quoted.isPrintable_of_mem_ofText inside)

theorem isUnbroken_decimal (number : Int) : (decimal number).IsUnbroken := by
  have digits (count : Nat) : (Text.ofString count.repr).IsUnbroken := by
    refine Text.isUnbroken_ofCharacters fun character among => ?_
    rw [Nat.toList_repr] at among
    exact endsDisplayLine_of_kind Char.isDigit (by decide)
      (Nat.isDigit_of_mem_toDigits (by decide) (by decide) among)
  unfold decimal
  rw [Int.toString_eq_repr, Int.repr_eq_if]
  split
  · exact digits _
  · rw [Text.ofString_append, isUnbroken_append]
    exact ⟨by decide, digits _⟩

theorem areUnbroken_implementationHead {className implementation representation : Text}
    (classUnbroken : className.IsUnbroken) (implementationUnbroken : implementation.IsUnbroken)
    (representationUnbroken : representation.IsUnbroken) :
    AreUnbroken (implementationHead className implementation representation) := by
  simp only [implementationHead, areUnbroken_cons, isUnbroken_append, classUnbroken, implementationUnbroken,
    representationUnbroken]
  decide

/-! ### The lines of fields -/

/-- The parts of generated code that have to do with every field. -/
inductive Part where
  | difference
  | diff
  | apply
  | identity

/-- The line of its own that a field has in a part, if fields have lines there. A positional difference class
has all its fields on one line, and a unit has no fields. -/
def fieldLine? : Shape → Part → Option (Field → Text)
  | .named, .difference => some fun field => "    " ++ field.name ++ ": " ++ representation field
  | .named, .diff => some fun field => "            " ++ comparedByName field ++ ","
  | .named, .apply => some updatedByName
  | .named, .identity => some startedByName
  | .positional, .difference => none
  | .positional, .diff => some fun field => "            " ++ comparedByIndex field ++ ","
  | .positional, .apply => some updatedByIndex
  | .positional, .identity => some fun field => "            " ++ startedByIndex field ++ ","
  | .unit, _ => none

/-- The lines of their own that the fields have in a part. -/
def fieldLines (block : Block) (part : Part) : List Text :=
  match fieldLine? block.shape part with
  | some line => block.fields.map line
  | none => []

/-- The line on which a returned call starts, and ends if nothing is handed over. -/
def callOpening (callee : Text) (fields : List Field) : Text :=
  "        return " ++ callee ++ if fields.isEmpty then "()" else "("

/-- The line on which a returned call ends behind what is handed over. -/
def callClosing (fields : List Field) : List Text :=
  if fields.isEmpty then [] else fixed ["        )"]

theorem returnedCall_map (callee : Text) (fields : List Field) (argument : Field → Text) :
    returnedCall callee (fields.map argument) =
      callOpening callee fields :: (fields.map fun field => ("            " ++ argument field ++ "," : Text)) ++
        callClosing fields := by
  cases fields with
  | nil => simp [returnedCall, callOpening, callClosing]
  | cons first rest => simp [returnedCall, callOpening, callClosing]

/-- The head of a positional difference class, with the types of all its fields. -/
def positionalHead (block : Block) : Text :=
  "class " ++ block.differenceName ++ "(_diff.Positional[" ++ positionalTypes block.fields ++ "]):"

/-- The lines of a part in front of those of the fields, from the last field of the part before on. -/
def lead (block : Block) : Part → List Text
  | .difference =>
    match block.shape with
    | .named => fixed ["@dataclasses.dataclass"] ++ ["class " ++ block.differenceName ++ ":"]
    | .positional => [positionalHead block]
    | .unit => []
  | .diff =>
    match block.shape with
    | .named =>
      fixed ["", ""] ++ implementationHead block.name block.implementationName block.differenceName ++
        [diffHead, callOpening block.differenceName block.fields]
    | .positional =>
      fixed ["    pass", "", ""] ++ implementationHead block.name block.implementationName block.differenceName ++
        [diffHead, callOpening block.differenceName block.fields]
    | .unit =>
      implementationHead block.name block.implementationName "type(None)" ++ [diffHead] ++
        fixed ["        return None"]
  | .apply =>
    match block.shape with
    | .named | .positional => callClosing block.fields ++ fixed [""] ++ [applyHead]
    | .unit => fixed [""] ++ [applyHead]
  | .identity =>
    fixed ["        return self", ""] ++ identityHead ++
      match block.shape with
      | .named => fixed ["        value = cls.__new__(cls)"]
      | .positional => [callOpening "cls" block.fields]
      | .unit => fixed ["        return cls()"]

/-- The lines behind those of the last field. -/
def closing (block : Block) : List Text :=
  match block.shape with
  | .named => fixed ["        return value"]
  | .positional => callClosing block.fields
  | .unit => []

/-- The lines of a part, from the last field of the part before to its own last field. -/
def partLines (block : Block) (part : Part) : List Text :=
  lead block part ++ fieldLines block part

/-- Without decorators that are passed on, the code of a block is its parts one behind the other. -/
theorem ofBlock_eq (bare : block.options.decorators = []) :
    ofBlock block = [.difference, .diff, .apply, .identity].flatMap (partLines block) ++ closing block := by
  have none : decorators block.options.decorators = [] := by rw [bare]; rfl
  unfold ofBlock
  cases shape : block.shape with
  | named =>
    simp [namedDifference, namedImplementation, none, partLines, lead, fieldLines, fieldLine?, closing, shape,
      returnedCall_map, fixed]
  | positional =>
    simp [positionalDifference, positionalImplementation, none, partLines, lead, fieldLines, fieldLine?, closing,
      shape, returnedCall_map, fixed, positionalHead]
  | unit =>
    simp [unitImplementation, partLines, lead, fieldLines, fieldLine?, closing, shape, fixed]

theorem isUnbroken_callOpening {callee : Text} (unbroken : callee.IsUnbroken) (fields : List Field) :
    (callOpening callee fields).IsUnbroken := by
  unfold callOpening
  split <;> simp only [isUnbroken_append, unbroken] <;> decide

theorem areUnbroken_callClosing (fields : List Field) : AreUnbroken (callClosing fields) := by
  unfold callClosing
  split <;> decide

section Unbroken

variable (named : block.HasNames) (tidy : block.HasTidyTypes)

include named

theorem isUnbroken_implementationName : block.implementationName.IsUnbroken := by
  unfold Block.implementationName
  simp only [isUnbroken_append, named.differenceName.isUnbroken]
  decide

theorem isUnbroken_positionalHead : (positionalHead block).IsUnbroken := by
  have types : (positionalTypes block.fields).IsUnbroken := by
    unfold positionalTypes
    split
    · decide
    · refine Text.isUnbroken_join (by decide) fun text among => ?_
      obtain ⟨field, -, rfl⟩ := List.mem_map.1 among
      exact isUnbroken_representation field
  unfold positionalHead
  simp only [isUnbroken_append, named.differenceName.isUnbroken, types]
  decide

/-- No line that leads to those of the fields holds a line end. -/
theorem areUnbroken_lead (part : Part) : AreUnbroken (lead block part) := by
  have name := named.name.isUnbroken
  have difference := named.differenceName.isUnbroken
  have implementation := isUnbroken_implementationName named
  have head := areUnbroken_implementationHead name implementation difference
  have unitHead : AreUnbroken (implementationHead block.name block.implementationName "type(None)") :=
    areUnbroken_implementationHead name implementation (by decide)
  have opening := isUnbroken_callOpening difference block.fields
  have openingHere : (callOpening "cls" block.fields).IsUnbroken :=
    isUnbroken_callOpening (by decide) block.fields
  have closes := areUnbroken_callClosing block.fields
  have declares := isUnbroken_positionalHead named
  cases shape : block.shape <;> cases part <;>
    simp only [lead, shape, areUnbroken_append, areUnbroken_cons, isUnbroken_append, difference, head,
      unitHead, opening, openingHere, closes, declares] <;> decide

include tidy

/-- No line of a field holds a line end. -/
theorem areUnbroken_fieldLines (part : Part) : AreUnbroken (fieldLines block part) := by
  intro line among
  unfold fieldLines at among
  split at among
  · next written own =>
    obtain ⟨field, inside, rfl⟩ := List.mem_map.1 among
    obtain ⟨text, isTidy⟩ := tidy field inside
    have type : field.typeText.IsUnbroken := isTidy ▸ Text.isUnbroken_collapseBlanks text
    have represents := isUnbroken_representation field
    have number := isUnbroken_decimal field.index
    cases shape : block.shape with
    | named =>
      have name := (named.fields shape field inside).isUnbroken
      cases part <;> rw [shape] at own <;> cases own <;>
        simp only [comparedByName, updatedByName, startedByName, isUnbroken_append, name, type, represents] <;>
          decide
    | positional =>
      cases part <;> rw [shape] at own <;> cases own <;>
        simp only [comparedByIndex, updatedByIndex, startedByIndex, isUnbroken_append, number, type] <;> decide
    | unit => rw [shape] at own; cases own
  · exact nomatch among

/-- No line of the code holds a line end. -/
theorem areUnbroken_ofBlock (bare : block.options.decorators = []) : AreUnbroken (ofBlock block) := by
  have closes : AreUnbroken (closing block) := by
    unfold closing
    split
    · decide
    · exact areUnbroken_callClosing block.fields
    · decide
  have parts (part : Part) : AreUnbroken (partLines block part) :=
    areUnbroken_append.2 ⟨areUnbroken_lead named part, areUnbroken_fieldLines named tidy part⟩
  rw [ofBlock_eq bare]
  simp only [List.flatMap_cons, List.flatMap_nil, List.append_nil, areUnbroken_append, parts, closes, true_and]

end Unbroken

/-! ### Where the lines of fields stand -/

/-- How many lines the code for a class of a shape with so many fields has. -/
def height : Shape → Nat → Nat
  | .named, count => 18 + 4 * count + min count 1
  | .positional, count => 17 + 3 * count + 2 * min count 1
  | .unit, _ => 13

/-- The place of the line that the first of so many fields has in a part, if fields have lines there. -/
def firstLine : Shape → Nat → Part → Nat
  | .named, _, .difference => 2
  | .named, count, .diff => 10 + count
  | .named, count, .apply => 12 + 2 * count + min count 1
  | .named, count, .identity => 17 + 3 * count + min count 1
  | .positional, _, .diff => 10
  | .positional, count, .apply => 12 + count + min count 1
  | .positional, count, .identity => 17 + 2 * count + min count 1
  | .positional, _, .difference | .unit, _, _ => 0

theorem length_callClosing (fields : List Field) : (callClosing fields).length = min fields.length 1 := by
  cases fields with
  | nil => rfl
  | cons first rest => simp [callClosing, fixed]

theorem length_ofBlock (bare : block.options.decorators = []) :
    (ofBlock block).length = height block.shape block.fields.length := by
  rw [ofBlock_eq bare]
  cases shape : block.shape <;>
    simp [partLines, lead, fieldLines, fieldLine?, closing, shape, height, length_callClosing,
      implementationHead, identityHead, fixed] <;> omega

/-- The parts in front of one, in their order. -/
def Part.earlier : Part → List Part
  | .difference => []
  | .diff => [.difference]
  | .apply => [.difference, .diff]
  | .identity => [.difference, .diff, .apply]

/-- The parts behind one, in their order. -/
def Part.later : Part → List Part
  | .difference => [.diff, .apply, .identity]
  | .diff => [.apply, .identity]
  | .apply => [.identity]
  | .identity => []

/-- The lines of the code in front of those that the fields have in a part. -/
def linesBefore (block : Block) (part : Part) : List Text :=
  part.earlier.flatMap (partLines block) ++ lead block part

/-- The lines of the code behind those that the fields have in a part. -/
def linesBehind (block : Block) (part : Part) : List Text :=
  part.later.flatMap (partLines block) ++ closing block

/-- The lines of the fields in a part stand between the others. -/
theorem ofBlock_eq_of_part (bare : block.options.decorators = []) (part : Part) :
    ofBlock block = linesBefore block part ++ (fieldLines block part ++ linesBehind block part) := by
  rw [ofBlock_eq bare]
  cases part <;> simp [linesBefore, linesBehind, Part.earlier, Part.later, partLines]

variable {part : Part} {line : Field → Text}

theorem length_linesBefore (own : fieldLine? block.shape part = some line) :
    (linesBefore block part).length = firstLine block.shape block.fields.length part := by
  cases shape : block.shape <;> cases part <;> rw [shape] at own <;> cases own <;>
    simp [linesBefore, Part.earlier, partLines, lead, fieldLines, fieldLine?, shape, firstLine,
      length_callClosing, implementationHead, identityHead, fixed] <;> omega

theorem linesBehind_ne_nil (own : fieldLine? block.shape part = some line) (some_ : block.fields ≠ []) :
    linesBehind block part ≠ [] := by
  have closes : callClosing block.fields ≠ [] := by
    rw [callClosing, if_neg (by simpa using some_)]
    exact List.cons_ne_nil _ _
  cases shape : block.shape <;> cases part <;> rw [shape] at own <;> cases own <;>
    simp [linesBehind, Part.later, partLines, lead, closing, shape, closes, fixed]

/-- What is at a place in a list stands behind as many others. -/
theorem exists_append_of_getElem? {α : Type} {list : List α} {index : Nat} {value : α}
    (there : list[index]? = some value) : ∃ front behind, list = front ++ value :: behind ∧ front.length = index := by
  obtain ⟨inside, rfl⟩ := List.getElem?_eq_some_iff.1 there
  refine ⟨list.take index, list.drop (index + 1), ?_, List.length_take_of_le inside.le⟩
  rw [← List.drop_eq_getElem_cons inside, List.take_append_drop]

/-- In the text of the code, the line of a field stands as far behind the first line of its part as the field
stands behind the first one. -/
theorem getElem?_withLineFeeds_ofBlock (bare : block.options.decorators = [])
    (own : fieldLine? block.shape part = some line) {index : Nat} (there : block.fields[index]? = some field) :
    (Text.withLineFeeds (ofBlock block))[firstLine block.shape block.fields.length part + index]? =
      some (line field ++ "\n") := by
  obtain ⟨front, behind, fields, place⟩ := exists_append_of_getElem? there
  have some_ : block.fields ≠ [] := by simp [fields]
  have lines : fieldLines block part = front.map line ++ line field :: behind.map line := by
    simp [fieldLines, own, fields]
  have cut : ofBlock block =
      (linesBefore block part ++ front.map line) ++ line field :: (behind.map line ++ linesBehind block part) := by
    rw [ofBlock_eq_of_part bare part, lines]
    simp
  have isPlace : firstLine block.shape block.fields.length part + index =
      (linesBefore block part ++ front.map line).length := by
    rw [List.length_append, List.length_map, place, length_linesBefore own]
  rw [cut, isPlace]
  exact Text.getElem?_withLineFeeds (line field)
    (List.append_ne_nil_of_right_ne_nil _ (linesBehind_ne_nil own some_))

/-- The last line of the code is not empty. -/
theorem getLast?_ofBlock (bare : block.options.decorators = []) : (ofBlock block).getLast? ≠ some [] := by
  have cut := ofBlock_eq_of_part bare .identity
  cases shape : block.shape with
  | named => simp [cut, linesBehind, Part.later, closing, shape, fixed, Text.ofString, Text.ofCharacters]
  | unit =>
    simp [cut, linesBefore, linesBehind, Part.later, lead, fieldLines, fieldLine?, closing, shape, identityHead,
      fixed, Text.ofString, Text.ofCharacters]
  | positional =>
    cases fields : block.fields with
    | nil =>
      simp [cut, linesBefore, linesBehind, Part.later, lead, fieldLines, fieldLine?, closing, callClosing,
        callOpening, shape, fields, Text.ofString, Text.ofCharacters]
    | cons first rest =>
      simp [cut, linesBehind, Part.later, closing, callClosing, shape, fields, fixed, Text.ofString,
        Text.ofCharacters]

/-- For a block that hands no decorators on, whose names are identifiers and whose types were written with
collapsed blanks, the source lines and the display lines of the code are the same. How many there are follows
from the shape and the number of fields alone, and so does at which place a field has its line in each part
of the code: behind the first field by its own index. A positional difference class has all fields on its
first line. -/
theorem lines_of_render (bare : block.options.decorators = []) (named : block.HasNames)
    (tidy : block.HasTidyTypes) :
    (render block).sourceLines = (render block).displayLines ∧
    (render block).sourceLines.length = height block.shape block.fields.length ∧
    (∀ part line, fieldLine? block.shape part = some line → ∀ index field, block.fields[index]? = some field →
      (render block).sourceLines[firstLine block.shape block.fields.length part + index]? =
        some (line field ++ "\n")) ∧
    (block.shape = .positional → (render block).sourceLines[0]? = some (positionalHead block ++ "\n")) := by
  obtain ⟨source, display⟩ :=
    Text.lines_join (areUnbroken_ofBlock named tidy bare) (getLast?_ofBlock bare)
  rw [render, source, display]
  refine ⟨rfl, ?_, fun part line own index field there => getElem?_withLineFeeds_ofBlock bare own there, ?_⟩
  · rw [Text.length_withLineFeeds, length_ofBlock bare]
  · intro positional
    have cut := ofBlock_eq_of_part bare .difference
    rw [show linesBefore block .difference = [positionalHead block] by
      simp [linesBefore, Part.earlier, lead, positional]] at cut
    rw [cut]
    refine @Text.getElem?_withLineFeeds [] _ (positionalHead block)
      (List.append_ne_nil_of_right_ne_nil _ ?_)
    simp [linesBehind, Part.later, partLines, lead, positional, fixed]

/-- A type that is written over lines of several kinds, with a string that holds half a character. -/
def spreadType : Text :=
  ("dict[str,\r\n\x0c  Literal['a\u2028b" : Text) ++ [CodePoint.surrogate 0] ++ "\x1c']]"

/-- A class whose second field has this type. -/
def spreadBlock : Block :=
  ⟨"Größe", .named, 3, ⟨none, []⟩,
    [⟨"first", 0, Text.collapseBlanks "int"⟩, ⟨"second", 1, spreadType.collapseBlanks⟩], []⟩

/-- Its code has 27 lines by either rule, and the last but one is where the second field gets its identity. -/
theorem lines_of_render_spreadBlock :
    spreadBlock.HasNames ∧ spreadBlock.HasTidyTypes ∧
    (render spreadBlock).sourceLines = (render spreadBlock).displayLines ∧
    (render spreadBlock).sourceLines.length = 27 ∧
    (render spreadBlock).sourceLines[25]? =
      some ("        value.second = _diff.identity(dict[str, Literal['a b" ++ [CodePoint.surrogate 0] ++ " ']])\n") := by
  have named : spreadBlock.HasNames :=
    ⟨⟨['G', 'r', 'ö', 'ß', 'e'], by decide, by decide⟩,
      ⟨['G', 'r', 'ö', 'ß', 'e', 'D', 'i', 'f', 'f'], by decide, by decide⟩, fun _ field inside => by
        rcases List.mem_cons.1 inside with rfl | behind
        · exact ⟨['f', 'i', 'r', 's', 't'], by decide, by decide⟩
        · rw [List.mem_singleton.1 behind]
          exact ⟨['s', 'e', 'c', 'o', 'n', 'd'], by decide, by decide⟩⟩
  have tidy : spreadBlock.HasTidyTypes := by
    intro field inside
    rcases List.mem_cons.1 inside with rfl | behind
    · exact ⟨_, rfl⟩
    · rw [List.mem_singleton.1 behind]
      exact ⟨_, rfl⟩
  obtain ⟨alike, height, places, -⟩ := lines_of_render rfl named tidy
  refine ⟨named, tidy, alike, height, (places .identity _ rfl 1 _ rfl).trans (congrArg some ?_)⟩
  decide +kernel

end Code

end DifferenceTypes
