/-!
# Nested lists of samples

Samples arrive as nested lists of any depth. `shape?` gives the lengths of the levels, outermost first,
and fails if lists that stand side by side differ in shape.
-/

namespace RasterAlgebra

/-- A single item, or a list of blocks. -/
inductive Block (α : Type) where
  | item (x : α)
  | list (blocks : List (Block α))

namespace Block

variable {α β : Type}

mutual
/-- The items of a block from left to right. -/
def items : Block α → List α
  | .item x => [x]
  | .list blocks => itemsOfList blocks
/-- The items of all blocks of a list. -/
def itemsOfList : List (Block α) → List α
  | [] => []
  | b :: rest => b.items ++ itemsOfList rest
end

mutual
/-- The lengths of the levels of a block, where all parts of a level agree. -/
def shape? : Block α → Option (List Nat)
  | .item _ => some []
  | .list blocks => (commonShape? blocks).map (blocks.length :: ·)
/-- The one shape of all blocks of a list; of no blocks at all, the shape of an item. -/
def commonShape? : List (Block α) → Option (List Nat)
  | [] => some []
  | [b] => b.shape?
  | b :: rest => do
    let shape ← b.shape?
    if (← commonShape? rest) = shape then some shape else none
end

mutual
/-- Applies a function to every item. -/
def map (f : α → β) : Block α → Block β
  | .item x => .item (f x)
  | .list blocks => .list (mapList f blocks)
/-- Applies a function to every item of every block of a list. -/
def mapList (f : α → β) : List (Block α) → List (Block β)
  | [] => []
  | b :: rest => b.map f :: mapList f rest
end

/-- A list of items as a block. -/
def ofList (xs : List α) : Block α := .list (xs.map .item)

/-- A list of rows as a block. -/
def ofRows (rows : List (List α)) : Block α := .list (rows.map ofList)

end Block

/-- A shape as messages show it: in parentheses, a single length with a comma behind it. -/
def shapeText : List Nat → String
  | [n] => "(" ++ Nat.repr n ++ ",)"
  | shape => "(" ++ ", ".intercalate (shape.map Nat.repr) ++ ")"

end RasterAlgebra
