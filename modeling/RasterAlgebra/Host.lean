import RasterAlgebra.Formula.Parser
import RasterAlgebra.Template
/-!
# The host

What the program finds where it runs and does not settle itself: how far calls can be nested, how much room
there is for an array, and which attributes texts have. A `Host` holds all of it, and whatever depends on it
takes the host that is given. Nothing is known about a host but what its fields say.
-/

namespace RasterAlgebra

/-- What the program runs on. -/
class Host where
  /-- How many calls can be nested when a formula is evaluated. -/
  callRoom : Nat
  /-- There is room for every formula that can be read from a text. -/
  limit_le_callRoom : defaultLimit.toNat + 3 ≤ callRoom
  /-- How many bytes the elements of an array can take. -/
  arrayRoom : Nat
  /-- Counts of bytes fit into a signed word. -/
  arrayRoom_lt : arrayRoom < Nat.pow 2 63
  /-- What a field of a template reaches by the attributes of a text. -/
  attributes : Template.Attributes

/-- A host with room for a thousand calls and for a quarter of a terabyte, where nothing is reached by
attributes. -/
instance Host.standard : Host where
  callRoom := 1000
  limit_le_callRoom := by decide
  arrayRoom := Nat.pow 2 38
  arrayRoom_lt := by decide
  attributes := .none

end RasterAlgebra
