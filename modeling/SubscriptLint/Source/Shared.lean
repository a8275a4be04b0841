/-!
# Shared values

Values that may be held in several places at once. Two holders are the same if they hold one cell,
not if what the cells contain is equal.
-/

namespace SubscriptLint

/-- A holder of the value in a numbered cell. -/
structure Shared (α : Type) where
  cell : Nat
  value : α

namespace Shared

variable {α : Type}

/-- Whether two holders hold one cell. -/
def same (a b : Shared α) : Bool := a.cell == b.cell

end Shared

/-- The holders that were given out, oldest first. -/
structure SharedPool (α : Type) where
  holders : List (Shared α) := []

namespace SharedPool

variable {α : Type}

/-- Gives out a holder of a new cell. Cells are numbered by their first holder's place. -/
def create (p : SharedPool α) (value : α) : SharedPool α :=
  ⟨p.holders ++ [⟨p.holders.length, value⟩]⟩

/-- Gives out another holder of the cell that the holder at a place has. -/
def share? (p : SharedPool α) (place : Nat) : Option (SharedPool α) :=
  p.holders[place]?.map fun h => ⟨p.holders ++ [h]⟩

end SharedPool

end SubscriptLint
