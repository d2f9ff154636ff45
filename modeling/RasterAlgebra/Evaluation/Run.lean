import RasterAlgebra.Evaluation
import RasterAlgebra.Formula.Parser
/-!
# Running texts

A text is read and, if it has no fault, evaluated. `run` gives faults and failures as a value;
`runChecked` gives the same outcome with faults and failures kept apart from values.
-/

namespace RasterAlgebra

/-- The text is no formula. -/
def Failure.ofFaults (faults : List Fault) : Failure :=
  ⟨.malformed, "syntax error: " ++ Fault.textOfList faults⟩

namespace Environment

/-- Reads and evaluates a text. A text with a fault is not evaluated, and then the memo stays as it is;
otherwise it is that of the new walk. -/
def run [Host] (env : Environment) (source : String) (memo : Memo) : Outcome :=
  let parsed := parse source
  if parsed.faults.isEmpty then env.evaluate parsed.program
  else ⟨.error (.ofFaults parsed.faults), memo, []⟩

end Environment

/-- What kind of mistake a failure is. -/
inductive Failure.Category where
  | operandTypes
  | operandShapes
  | mask
  | dataSource
  | other
  deriving DecidableEq, Repr

/-- The category of a failure. -/
def Failure.category (f : Failure) : Category :=
  match f.kind with
  | .unknownOperator | .typeMismatch => .operandTypes
  | .dimensionMismatch | .compatibility => .operandShapes
  | .masking => .mask
  | .dataSource => .dataSource
  | .malformed => .other

/-- Why a text has no value. -/
inductive RunError where
  | faults (faults : List Fault)
  | failure (failure : Failure)

/-- A value that is no failure, or the failure. -/
def Value.toExcept : Value → Except RunError Value
  | .error failure => .error (.failure failure)
  | v => .ok v

/-- The outcome of a text, with what went wrong kept apart. -/
structure CheckedOutcome where
  result : Except RunError Value
  memo : Memo
  events : List Event

/-- Reads and evaluates a text as `run` does. -/
def Environment.runChecked [Host] (env : Environment) (source : String) (memo : Memo) : CheckedOutcome :=
  let parsed := parse source
  if parsed.faults.isEmpty then
    let o := env.evaluate parsed.program
    ⟨o.value.toExcept, o.memo, o.events⟩
  else ⟨.error (.faults parsed.faults), memo, []⟩

end RasterAlgebra
