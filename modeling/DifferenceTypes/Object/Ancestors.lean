/-!
# Ancestor lines

A class derived from several bases looks attributes up along one line of ancestors. The line is
merged from the lines of the bases and the list of the bases itself: always the first head is taken
that stands behind nothing in any of them, so that every one of the merged lists is kept in its
order. If all heads stand behind something, there is no such line.
-/

namespace DifferenceTypes.Ancestors

variable {α : Type} [DecidableEq α]

/-- The first head of the lists that stands in no tail of them. -/
def nextHead? (lists : List (List α)) : Option α :=
  lists.findSome? fun list =>
    match list with
    | [] => none
    | head :: _ => if lists.all fun other => !other.tail.elem head then some head else none

/-- The lists without a head that was taken. -/
def dropHead (head : α) (lists : List (List α)) : List (List α) :=
  lists.map fun list => if list.head? == some head then list.tail else list

/-- The merged list, with at most so many elements. -/
def mergeWithin : Nat → List (List α) → Option (List α)
  | 0, lists => if lists.all List.isEmpty then some [] else none
  | count + 1, lists =>
    if lists.all List.isEmpty then some []
    else
      match nextHead? lists with
      | none => none
      | some head => (mergeWithin count (dropHead head lists)).map (head :: ·)

/-- One list in which the elements of all lists stand in the order of each, if there is one. -/
def merge? (lists : List (List α)) : Option (List α) :=
  mergeWithin lists.flatten.length lists

/-- The line of a class with the given bases and their lines. -/
def line? (self : α) (bases : List α) (lines : List (List α)) : Option (List α) :=
  (merge? (lines ++ [bases])).map (self :: ·)

end DifferenceTypes.Ancestors
