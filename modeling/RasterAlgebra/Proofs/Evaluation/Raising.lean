import RasterAlgebra.Evaluation

/-!
# Evaluation with operations that can fail

Not every operation that evaluation rests on is defined for all operands. A division by zero, the whole
part of what is no finite number, samples of two lists of different lengths side by side, a grid of too
few or too many samples: each of them is `Raised` here instead of a result, and so is what a source says
when it has no band. A lack of room for nested calls is raised, too.

`Node.walkRaising` evaluates with these operations as they are, next to the checks that the operators
make for other reasons. Two things that are raised are caught: a band that cannot be had, where it is
asked for, and a lack of room, where evaluation began (`Environment.evaluateRaising`). Everything else
would come out of the evaluation in place of a value.
-/

namespace RasterAlgebra

open Float.Model (UnpackedFloat)
open Float.Model.UnpackedFloat (Sign)

/-- What an operation can raise in place of a result. -/
inductive Raised where
  /-- The source does not have the band. -/
  | unavailable (e : SourceError)
  | zeroDivision
  /-- The scalar is infinite or no number, and so has no whole part. -/
  | noWholePart (x : Scalar)
  /-- Lists of different lengths cannot be put side by side. -/
  | lengths (m n : Nat)
  /-- The samples make no grid. -/
  | malformed (e : Grid.Error)
  /-- There is no room for another call. -/
  | tooDeep (i : Interruption)

/-- What is raised or had, with events before it. -/
def Raised.after (events : List Event) : Except Raised Outcome → Except Raised Outcome
  | .ok o => .ok (o.after events)
  | .error (.tooDeep i) => .error (.tooDeep { i with events := events ++ i.events })
  | .error raised => .error raised

namespace Scalar

/-- The sign that a number shows, a zero too. -/
def sign : UnpackedFloat → Sign
  | .infinity s | .zero s | .finite s .. => s
  | .notANumber => .positive

/-- The magnitude of one number under the sign of another. -/
def copySign (x y : Scalar) : Scalar :=
  match sign y.toModel.unpack with
  | .positive => x.abs
  | .negative => -x.abs

/-- Positive infinity. -/
def infinity : Scalar := .ofModel (.pack (.infinity .positive))

/-- What is no number. -/
def notANumber : Scalar := .ofModel (.pack .notANumber)

end Scalar

namespace Raising

/-! ## Numbers -/

/-- Division, which has no quotient by zero. -/
def divide (x y : Scalar) : Except Raised Scalar :=
  if y == 0 then .error .zeroDivision else .ok (x / y)

/-- Division with the quotients by zero spelled out. -/
def quotient (x y : Scalar) : Except Raised Scalar :=
  if y == 0 then
    if x == 0 || x.isNaN then .ok .notANumber
    else .ok (.copySign .infinity x * .copySign 1 y)
  else divide x y

/-- The whole part of a scalar, which only finite ones have. -/
def wholePart (x : Scalar) : Except Raised Int :=
  match x.toModel.unpack with
  | .infinity _ | .notANumber => .error (.noWholePart x)
  | u => .ok (RasterAlgebra.wholePart u)

/-- An operator between two numbers. -/
def numberBinary (op : String) (x y : Scalar) : Except Raised Value :=
  if op = "/" then (quotient x y).map .number else .ok (RasterAlgebra.numberBinary op x y)

/-! ## Samples and grids -/

/-- A function on the samples of two lists side by side. They have to be of one length, or one of them is a
single sample that goes with all of the other. -/
def sideBySide (f : Sample → Sample → Sample) (xs ys : List Sample) : Except Raised (List Sample) :=
  if xs.length = ys.length then .ok (xs.zipWith f ys)
  else
    match xs, ys with
    | [x], ys => .ok (ys.map (f x))
    | xs, [y] => .ok (xs.map (f · y))
    | xs, ys => .error (.lengths xs.length ys.length)

/-- A grid like `g` with other samples, made anew with all checks. -/
def remake (g : Grid) (samples : List Sample) (cellType : CellType) : Except Raised Value :=
  match g.withSamples (.ofList samples) cellType with
  | .ok h => .ok (.raster h)
  | .error e => .error (.malformed e)

/-- Under the no-data policy, quotients by zero give way to the no-data value. -/
def withoutQuotientsByZero (policy : DivisionPolicy) (op : Arithmetic) (noData : Sample)
    (samples divisors : List Sample) : Except Raised (List Sample) :=
  if op = .div ∧ policy = .noData then
    sideBySide (fun c y => if y == 0 then noData else c) samples divisors
  else .ok samples

/-- Marks the cells that share a set bit with a scalar. -/
def bitTest (g : Grid) (x : Scalar) : Except Raised Value :=
  if !g.cellType.isWord then .ok (.error (.noWords g.cellType))
  else if !x.isFinite then .ok (.error (.notFinite x))
  else do
    let word := wordOf (← wholePart x)
    remake g (g.cells.toList.map fun c => .ofBool (sharesBit c word)) .boolean

/-- An operator between a raster and a scalar. -/
def broadcast (policy : DivisionPolicy) (op : String) (side : ScalarSide) (g : Grid) (x : Scalar) :
    Except Raised Value :=
  if op = "==" then bitTest g x
  else
    match Arithmetic.ofSymbol? op, side with
    | none, .left => .ok (.error (.unknownBinary .number op .raster))
    | none, .right => .ok (.error (.unknownBinary .raster op .number))
    | some arithmetic, .left => do
      let samples := g.cells.toList.map (arithmetic.onSamples (.ofScalar x) ·)
      let samples ← withoutQuotientsByZero policy arithmetic g.noDataSample samples g.cells.toList
      remake g samples (arithmetic.cellType g.cellType)
    | some arithmetic, .right => do
      let samples := g.cells.toList.map (arithmetic.onSamples · (.ofScalar x))
      let divisors := g.cells.toList.map fun _ => .ofScalar x
      let samples ← withoutQuotientsByZero policy arithmetic g.noDataSample samples divisors
      remake g samples (arithmetic.cellType g.cellType)

/-- Puts the no-data value into the cells that a Boolean raster marks. -/
def applyMask (g mask : Grid) : Except Raised Value :=
  if g.SameExtents mask then
    if mask.cellType = .boolean then do
      let samples ← sideBySide (maskCell g.noDataSample) g.cells.toList mask.cells.toList
      remake g samples g.cellType
    else .ok (.error (.maskType mask.cellType))
  else .ok (.error (.maskExtents g mask))

/-- An operator between two rasters. -/
def rasterBinary (policy : DivisionPolicy) (op : String) (g h : Grid) : Except Raised Value :=
  if op = "#" then applyMask g h
  else
    match Arithmetic.ofSymbol? op with
    | none => .ok (.error (.unknownBinary .raster op .raster))
    | some arithmetic =>
      if g.SameExtents h then
        if g.cellType ≠ h.cellType then .ok (.error (.cellTypes op g h))
        else if !g.sameNoData h then .ok (.error (.noDataValues op g h))
        else do
          let samples ← sideBySide arithmetic.onSamples g.cells.toList h.cells.toList
          let samples ←
            withoutQuotientsByZero policy arithmetic g.noDataSample samples h.cells.toList
          remake g samples (arithmetic.cellType g.cellType)
      else .ok (.error (.extents op g h))

/-! ## Values -/

/-- An operator between two values. Without a number or a raster on each side it only compares. -/
def binary (policy : DivisionPolicy) (op : String) : Value → Value → Except Raised Value
  | .number x, .number y => numberBinary op x y
  | .raster g, .number x => broadcast policy op .right g x
  | .number x, .raster g => broadcast policy op .left g x
  | .raster g, .raster h => rasterBinary policy op g h
  | v, w => .ok (Value.binary policy op v w)

/-- A band from the memo, or else from the source. -/
def resolve (env : Environment) (band : String) (memo : Memo) : Except Raised Outcome :=
  match env.resolve band memo with
  | (.ok g, memo, events) => .ok ⟨.raster g, memo, events⟩
  | (.error e, _, _) => .error (.unavailable e)

end Raising

/-! ## Nodes -/

mutual
/-- Evaluates a node with room for `room` nested calls. -/
def Node.walkRaising (env : Environment) : Node → (room : Nat) → Memo → Except Raised Outcome
  | _, 0, memo => .error (.tooDeep ⟨memo, []⟩)
  | .number x, _ + 1, memo => .ok ⟨.number x, memo, []⟩
  | .boolean b, _ + 1, memo => .ok ⟨.boolean b, memo, []⟩
  | .value v, _ + 1, memo => .ok ⟨v, memo, []⟩
  | .band name, _ + 1, memo =>
    match Raising.resolve env name memo with
    | .error (.unavailable e) =>
      .ok ⟨.error (.bandFailed name), memo, [.requested name, .unavailable name e]⟩
    | answer => answer
  | .unary op operand, room + 1, memo => do
    let o ← operand.walkRaising env room memo
    if o.value.isError then .ok o else .ok { o with value := o.value.unary op }
  | .binary op left right, room + 1, memo => do
    let l ← left.walkRaising env room memo
    if l.value.isError then .ok l
    else do
      let r ← Raised.after l.events (right.walkRaising env room l.memo)
      if r.value.isError then .ok r
      else if room < Value.binaryCalls op l.value r.value then .error (.tooDeep ⟨r.memo, r.events⟩)
      else do
        let value ← Raising.binary env.policy op l.value r.value
        .ok { r with value }
  | .statement expression, room + 1, memo => expression.walkRaising env room memo
  | .block _, 1, memo | .program _, 1, memo => .error (.tooDeep ⟨memo, []⟩)
  | .block statements, room + 2, memo => Node.walkBlockRaising env statements .null room memo
  | .program statements, room + 2, memo => Node.walkProgramRaising env statements .null room memo
/-- Evaluates the statements of a block behind a value. -/
def Node.walkBlockRaising (env : Environment) :
    List Node → Value → (room : Nat) → Memo → Except Raised Outcome
  | [], last, _, memo => .ok ⟨last, memo, []⟩
  | s :: rest, _, room, memo => do
    let o ← s.walkRaising env room memo
    match o.value with
    | .error _ | .returned _ => .ok o
    | v => Raised.after o.events (Node.walkBlockRaising env rest v room o.memo)
/-- Evaluates the statements of a program behind a value. -/
def Node.walkProgramRaising (env : Environment) :
    List Node → Value → (room : Nat) → Memo → Except Raised Outcome
  | [], last, _, memo => .ok ⟨last, memo, []⟩
  | s :: rest, _, room, memo => do
    let o ← s.walkRaising env room memo
    match o.value with
    | .returned v => .ok { o with value := v }
    | .error failure => .ok { o with events := o.events ++ [.stopped s failure] }
    | v => Raised.after o.events (Node.walkProgramRaising env rest v room o.memo)
end

/-- Evaluates a node in a walk of its own. A lack of room is a failure like others; whatever else is raised
comes out. -/
def Environment.evaluateRaising (env : Environment) (room : Nat) (n : Node) : Except Raised Outcome :=
  match n.walkRaising env room [] with
  | .ok o => .ok o
  | .error (.tooDeep i) => .ok ⟨.error .nestedTooDeeply, i.memo, i.events ++ [.outOfRoom]⟩
  | .error raised => .error raised

/-- The grids that a value holds. -/
def Value.grids : Value → List Grid
  | .raster g => [g]
  | .returned v => v.grids
  | _ => []

end RasterAlgebra
