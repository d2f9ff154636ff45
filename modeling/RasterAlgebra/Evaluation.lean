import RasterAlgebra.Algebra
import RasterAlgebra.Formula.Printer
import RasterAlgebra.Host
import RasterAlgebra.Source
/-!
# Evaluating formulas

Evaluation goes from left to right and stops at the first failure. Bands are asked for where they occur,
and remembered: within one walk over a formula no band is asked for twice. What is remembered and what
happened on the way belong to the outcome, next to the value.

Evaluation goes down into nodes by calls, and there is room for so many nested calls only. A node that needs
more of them is nested too deeply, which is a failure like others; what was remembered until then stays.
-/

namespace RasterAlgebra

/-- What evaluation needs to know. -/
structure Environment where
  policy : DivisionPolicy
  source : Source

/-- The bands that were had, with their grids, in the order in which they were asked for. -/
abbrev Memo : Type := List (String × Grid)

/-- The names in a memo, sorted by code points. -/
def Memo.names (memo : Memo) : List String := (memo.map (·.1)).mergeSort (fun a b => !(b < a))

/-- Something that happens while a formula is evaluated. -/
inductive Event where
  /-- The source is asked for a band. -/
  | requested (band : String)
  /-- The source could not give the band it was asked for. -/
  | unavailable (band : String) (error : SourceError)
  /-- A statement failed and ended its program. -/
  | stopped (statement : Node) (failure : Failure)
  /-- There was no room for another call. -/
  | outOfRoom

/-- The band that the source is asked for. -/
def Event.request? : Event → Option String
  | requested band => some band
  | _ => none

/-- The value of a formula, what is remembered behind it, and what happened on the way. -/
structure Outcome where
  value : Value
  memo : Memo
  events : List Event

/-- The bands that the source was asked for, in order. -/
def Outcome.requests (o : Outcome) : List String := o.events.filterMap Event.request?

/-- The same outcome with events before it. -/
def Outcome.after (events : List Event) (o : Outcome) : Outcome :=
  { o with events := events ++ o.events }

/-- What is left of an evaluation for which there is no room: what is remembered, and what happened before. -/
structure Interruption where
  memo : Memo
  events : List Event

/-- What comes of an evaluation, with events before it. -/
def Interruption.after (events : List Event) :
    Except Interruption Outcome → Except Interruption Outcome
  | .ok o => .ok (o.after events)
  | .error i => .error { i with events := events ++ i.events }

/-- The band cannot be had. -/
def Failure.bandFailed (band : String) : Failure :=
  ⟨.dataSource, "raster reading operation failed: " ++ band⟩

/-- The node is nested too deeply to be evaluated. -/
def Failure.nestedTooDeeply : Failure := ⟨.malformed, "expression nested too deeply to evaluate"⟩

/-- A band from the memo, or else from the source; then it is remembered. -/
def Environment.resolve (env : Environment) (band : String) (memo : Memo) :
    Except SourceError Grid × Memo × List Event :=
  match memo.lookup band with
  | some g => (.ok g, memo, [])
  | none =>
    match env.source band with
    | .ok g => (.ok g, memo ++ [(band, g)], [.requested band])
    | .error e => (.error e, memo, [.requested band, .unavailable band e])

/-- How many calls an operator nests by itself. Only comparing goes down into its operands, layer by layer. -/
def Value.binaryCalls (op : String) (v w : Value) : Nat :=
  if op = "==" ∨ op = "!=" then v.comparisonCalls w else 0

mutual
/-- Evaluates a node with room for `room` nested calls and the bands in `memo` remembered from before. A node
is one call, and the loop over the statements of a block or a program is another. -/
def Node.walkWithin (env : Environment) :
    Node → (room : Nat) → Memo → Except Interruption Outcome
  | _, 0, memo => .error ⟨memo, []⟩
  | .number x, _ + 1, memo => .ok ⟨.number x, memo, []⟩
  | .boolean b, _ + 1, memo => .ok ⟨.boolean b, memo, []⟩
  | .value v, _ + 1, memo => .ok ⟨v, memo, []⟩
  | .band name, _ + 1, memo =>
    match env.resolve name memo with
    | (.ok g, memo, events) => .ok ⟨.raster g, memo, events⟩
    | (.error _, memo, events) => .ok ⟨.error (.bandFailed name), memo, events⟩
  | .unary op operand, room + 1, memo => do
    let o ← operand.walkWithin env room memo
    if o.value.isError then .ok o else .ok { o with value := o.value.unary op }
  | .binary op left right, room + 1, memo => do
    let l ← left.walkWithin env room memo
    if l.value.isError then .ok l
    else do
      let r ← Interruption.after l.events (right.walkWithin env room l.memo)
      if r.value.isError then .ok r
      else if room < Value.binaryCalls op l.value r.value then .error ⟨r.memo, r.events⟩
      else .ok { r with value := Value.binary env.policy op l.value r.value }
  | .statement expression, room + 1, memo => expression.walkWithin env room memo
  | .block _, 1, memo | .program _, 1, memo => .error ⟨memo, []⟩
  | .block statements, room + 2, memo => Node.walkBlockWithin env statements .null room memo
  | .program statements, room + 2, memo => Node.walkProgramWithin env statements .null room memo
/-- Evaluates the statements of a block behind a value. A failure or a returned value ends it. -/
def Node.walkBlockWithin (env : Environment) :
    List Node → Value → (room : Nat) → Memo → Except Interruption Outcome
  | [], last, _, memo => .ok ⟨last, memo, []⟩
  | s :: rest, _, room, memo => do
    let o ← s.walkWithin env room memo
    match o.value with
    | .error _ | .returned _ => .ok o
    | v => Interruption.after o.events (Node.walkBlockWithin env rest v room o.memo)
/-- Evaluates the statements of a program behind a value. A failure ends it, and so does a returned value,
which the program hands on without the layer that marks it. -/
def Node.walkProgramWithin (env : Environment) :
    List Node → Value → (room : Nat) → Memo → Except Interruption Outcome
  | [], last, _, memo => .ok ⟨last, memo, []⟩
  | s :: rest, _, room, memo => do
    let o ← s.walkWithin env room memo
    match o.value with
    | .returned v => .ok { o with value := v }
    | .error failure => .ok { o with events := o.events ++ [.stopped s failure] }
    | v => Interruption.after o.events (Node.walkProgramWithin env rest v room o.memo)
end

namespace Environment

/-- Evaluates a node in a walk of its own, with nothing remembered from before and room for `room` nested
calls. -/
def evaluateWithin (env : Environment) (room : Nat) (node : Node) : Outcome :=
  match node.walkWithin env room [] with
  | .ok o => o
  | .error i => ⟨.error .nestedTooDeeply, i.memo, i.events ++ [.outOfRoom]⟩

/-- Evaluates a node in a walk of its own, with as much room as there is. -/
def evaluate [Host] (env : Environment) (node : Node) : Outcome := env.evaluateWithin Host.callRoom node

end Environment

end RasterAlgebra
