import RasterAlgebra.Proofs.Evaluation.Raising
import RasterAlgebra.Proofs.Evaluation.Steps
import RasterAlgebra.Proofs.Grid.Making

/-!
# Evaluation always yields a value

No operation that evaluation rests on is ever given operands for which it is not defined. The checks
that operators make first see to it: a division by zero is told apart before it is made, a scalar whose
bits are tested is finite, rasters that are combined have the same extents. And a grid that an operator
makes has as many samples as the grid it is made like, so it passes all checks.

* `Raising.quotient_eq`, `Raising.bitTest_eq`, `Raising.broadcast_eq`, `Raising.rasterBinary_eq`,
  `Raising.binary_eq`: each operator raises nothing and has the value that it has in `Value.binary`.
* `walkRaising_eq`: the walk over a node raises nothing but a lack of room.

So with whatever room, evaluation has a value (`evaluateRaising_eq_ok`).
-/

namespace RasterAlgebra

open Float.Model (UnpackedFloat)
open Float.Model.UnpackedFloat (Sign)

namespace Raising

/-! ## Numbers -/

theorem beq_zero (x : Scalar) : (x == 0) = x.toModel.unpack.beq (.zero .positive) := rfl

/-- What equals zero is one of the two zeros. -/
theorem eq_zero_of_beq {u : UnpackedFloat} (h : u.beq (.zero .positive)) : ∃ s, u = .zero s := by
  cases u with
  | zero s => exact ⟨s, rfl⟩
  | notANumber => exact absurd h Bool.false_ne_true
  | infinity s | finite s => cases s <;> exact absurd h Bool.false_ne_true

/-- The signs of both operands make up the sign of a quotient by zero. -/
theorem copySign_infinity_mul (x y : Scalar) :
    Scalar.copySign .infinity x * .copySign 1 y =
      .ofModel (.pack (.infinity
        (Scalar.sign x.toModel.unpack / Scalar.sign y.toModel.unpack))) := by
  rw [Scalar.copySign, Scalar.copySign]
  cases Scalar.sign x.toModel.unpack <;> cases Scalar.sign y.toModel.unpack <;> decide +kernel

/-- The quotients by zero that are spelled out are those of the division itself. -/
theorem quotient_eq (x y : Scalar) : quotient x y = .ok (x / y) := by
  have hdiv : x / y =
      .ofModel (.pack (UnpackedFloat.div .binary64 x.toModel.unpack y.toModel.unpack)) := rfl
  have hnan : x.isNaN = x.toModel.unpack.isNaN := rfl
  rw [quotient]
  by_cases hzero : (y == 0) = true
  · obtain ⟨s, hs⟩ := eq_zero_of_beq (beq_zero y ▸ hzero)
    rw [if_pos hzero, hdiv, copySign_infinity_mul, beq_zero, hnan, hs]
    cases x.toModel.unpack with
    | zero | notANumber => rfl
    | infinity s' | finite s' => cases s' <;> rfl
  · rw [if_neg hzero, divide, if_neg hzero]

/-- No operator between numbers divides by zero. -/
theorem numberBinary_eq (op : String) (x y : Scalar) :
    numberBinary op x y = .ok (RasterAlgebra.numberBinary op x y) := by
  rw [numberBinary]
  by_cases hdiv : op = "/"
  · rw [if_pos hdiv, quotient_eq, hdiv]
    rfl
  · rw [if_neg hdiv]

/-- Finite scalars have a whole part. -/
theorem wholePart_of_isFinite {x : Scalar} (h : x.isFinite) :
    wholePart x = .ok (RasterAlgebra.wholePart x.toModel.unpack) := by
  have hfinite : x.toModel.unpack.isFinite := h
  rw [wholePart]
  generalize x.toModel.unpack = u at hfinite ⊢
  cases u with
  | zero | finite => rfl
  | infinity | notANumber => exact absurd hfinite Bool.false_ne_true

/-! ## Samples and grids -/

variable {g h : Grid} {xs ys : List Sample}

/-- Samples that are computed one by one make a grid again. -/
theorem remake_map (g : Grid) (cellType : CellType) (f : Sample → Sample) :
    remake g (g.cells.toList.map f) cellType = .ok (.raster (g.map cellType f)) := by
  rw [remake, Grid.withSamples_map]

/-- So do samples that are computed from two grids of the same extents. -/
theorem remake_zipWith (same : g.SameExtents h) (cellType : CellType)
    (f : Sample → Sample → Sample) :
    remake g (g.cells.toList.zipWith f h.cells.toList) cellType =
      .ok (.raster (g.zipWith h same cellType f)) := by
  rw [remake, Grid.withSamples_zipWith g h same]

theorem length_eq_of_sameExtents (same : g.SameExtents h) :
    g.cells.toList.length = h.cells.toList.length := by
  rw [g.length_toList_cells, h.length_toList_cells, same.1, same.2]

/-- Lists of one length can be put side by side. -/
theorem sideBySide_of_length_eq (hlength : xs.length = ys.length) (f : Sample → Sample → Sample) :
    sideBySide f xs ys = .ok (xs.zipWith f ys) :=
  if_pos hlength

/-- Dividing and then replacing the quotients by zero is what is done to each cell at once. -/
theorem withoutQuotientsByZero_zipWith (policy : DivisionPolicy) (op : Arithmetic) (noData : Sample)
    (hlength : xs.length = ys.length) :
    withoutQuotientsByZero policy op noData (xs.zipWith op.onSamples ys) ys =
      .ok (xs.zipWith (op.onCells policy noData) ys) := by
  rw [withoutQuotientsByZero]
  by_cases hreplace : op = .div ∧ policy = .noData
  · have hquotients : (xs.zipWith op.onSamples ys).length = ys.length := by
      rw [List.length_zipWith, hlength, Nat.min_self]
    rw [if_pos hreplace, sideBySide_of_length_eq hquotients]
    refine congrArg Except.ok (List.ext_getElem ?_ ?_)
    · rw [List.length_zipWith, List.length_zipWith, List.length_zipWith, hlength, Nat.min_self,
        Nat.min_self]
    · intro i _ _
      simp only [List.getElem_zipWith, Arithmetic.onCells, hreplace, true_and]
  · rw [if_neg hreplace]
    refine congrArg Except.ok (congrArg (xs.zipWith · ys) ?_)
    funext x y
    rw [Arithmetic.onCells, if_neg]
    exact fun h => hreplace ⟨h.1, h.2.1⟩

/-- A bit test takes the whole part of finite scalars only. -/
theorem bitTest_eq (g : Grid) (x : Scalar) : bitTest g x = .ok (RasterAlgebra.bitTest g x) := by
  rw [bitTest, RasterAlgebra.bitTest]
  split
  · rfl
  · split
    · rfl
    · rename_i hfinite
      rw [wholePart_of_isFinite (by simpa using hfinite)]
      exact remake_map g .boolean _

/-- A scalar stands for a list of samples that are all the same. -/
theorem broadcast_eq (policy : DivisionPolicy) (op : String) (side : ScalarSide) (g : Grid)
    (x : Scalar) : broadcast policy op side g x = .ok (RasterAlgebra.broadcast policy op side g x) := by
  unfold broadcast RasterAlgebra.broadcast
  generalize Sample.ofScalar x = y
  split
  · exact bitTest_eq g x
  · cases Arithmetic.ofSymbol? op with
    | none => cases side <;> rfl
    | some arithmetic =>
      have hlength : (g.cells.toList.map fun _ => y).length = g.cells.toList.length :=
        List.length_map _
      cases side with
      | left =>
        have hcells := withoutQuotientsByZero_zipWith policy arithmetic g.noDataSample hlength
        rw [List.zipWith_map_left, List.zipWith_map_left, List.zipWith_self, List.zipWith_self]
          at hcells
        simp only [hcells]
        exact remake_map g _ _
      | right =>
        have hcells := withoutQuotientsByZero_zipWith policy arithmetic g.noDataSample hlength.symm
        rw [List.zipWith_map_right, List.zipWith_map_right, List.zipWith_self, List.zipWith_self]
          at hcells
        simp only [hcells]
        exact remake_map g _ _

/-- A mask is put on a raster of its own extents only. -/
theorem applyMask_eq (g mask : Grid) : applyMask g mask = .ok (RasterAlgebra.applyMask g mask) := by
  rw [applyMask, RasterAlgebra.applyMask]
  by_cases same : g.SameExtents mask
  · rw [if_pos same, dif_pos same]
    split
    · rw [sideBySide_of_length_eq (length_eq_of_sameExtents same)]
      exact remake_zipWith same _ _
    · rfl
  · rw [if_neg same, dif_neg same]

/-- Rasters are combined only if they have the same extents. -/
theorem rasterBinary_eq (policy : DivisionPolicy) (op : String) (g h : Grid) :
    rasterBinary policy op g h = .ok (RasterAlgebra.rasterBinary policy op g h) := by
  unfold rasterBinary RasterAlgebra.rasterBinary
  split
  · exact applyMask_eq g h
  · cases Arithmetic.ofSymbol? op with
    | none => rfl
    | some arithmetic =>
      by_cases same : g.SameExtents h
      · have hlength := length_eq_of_sameExtents same
        simp only [if_pos same, dif_pos same]
        split
        · rfl
        · split
          · rfl
          · have hcells := withoutQuotientsByZero_zipWith policy arithmetic g.noDataSample hlength
            rw [sideBySide_of_length_eq hlength]
            show (do
              let samples ← withoutQuotientsByZero policy arithmetic g.noDataSample _ _
              remake g samples _) = _
            rw [hcells]
            exact remake_zipWith same _ _
      · simp only [if_neg same, dif_neg same]

/-! ## Values -/

/-- No operator raises anything, whatever its operands. -/
theorem binary_eq (policy : DivisionPolicy) (op : String) (v w : Value) :
    binary policy op v w = .ok (Value.binary policy op v w) := by
  unfold binary
  split
  · exact numberBinary_eq op _ _
  · exact broadcast_eq policy op .right _ _
  · exact broadcast_eq policy op .left _ _
  · exact rasterBinary_eq policy op _ _
  · rfl

end Raising

/-! ## Nodes -/

/-- A band that cannot be had is caught where it is asked for. -/
theorem walkRaising_band (env : Environment) (name : String) (room : ℕ) (memo : Memo) :
    (Node.band name).walkRaising env (room + 1) memo =
      ((Node.band name).walkWithin env (room + 1) memo).mapError .tooDeep := by
  rw [Node.walkRaising, Node.walkWithin, Raising.resolve, Environment.resolve]
  cases memo.lookup name with
  | some g => rfl
  | none =>
    cases env.source name with
    | ok g => rfl
    | error e => rfl

/-- What is raised first is raised by both one after the other. -/
theorem Raised.mapError_bind (r : Except Interruption Outcome) (k : Outcome → Except Interruption Outcome) :
    (r >>= k).mapError Raised.tooDeep = r.mapError .tooDeep >>= fun o => (k o).mapError .tooDeep := by
  cases r <;> rfl

theorem Raised.mapError_after (events : List Event) (r : Except Interruption Outcome) :
    (Interruption.after events r).mapError Raised.tooDeep = Raised.after events (r.mapError .tooDeep) := by
  cases r <;> rfl

mutual

/-- The walk over a node raises nothing but a lack of room. -/
theorem walkRaising_eq (env : Environment) : (n : Node) → (room : ℕ) → (memo : Memo) →
    n.walkRaising env room memo = (n.walkWithin env room memo).mapError .tooDeep
  | n, 0, memo => by
    rw [Node.walkRaising, Node.walkWithin]
    rfl
  | .number _, _ + 1, _ | .boolean _, _ + 1, _ | .value _, _ + 1, _ => by
    rw [Node.walkRaising, Node.walkWithin]
    rfl
  | .band name, room + 1, memo => walkRaising_band env name room memo
  | .unary op operand, room + 1, memo => by
    rw [Node.walkRaising, Node.walkWithin, Raised.mapError_bind, walkRaising_eq env operand room memo]
    refine bind_congr fun o => ?_
    split <;> rfl
  | .binary op left right, room + 1, memo => by
    rw [Node.walkRaising, Node.walkWithin, Raised.mapError_bind, walkRaising_eq env left room memo]
    refine bind_congr fun l => ?_
    split
    · rfl
    · rw [Raised.mapError_bind, Raised.mapError_after, walkRaising_eq env right room l.memo]
      refine bind_congr fun r => ?_
      split
      · rfl
      · split
        · rfl
        · rw [Raising.binary_eq]
          rfl
  | .statement expression, room + 1, memo => by
    rw [Node.walkRaising, Node.walkWithin]
    exact walkRaising_eq env expression room memo
  | .block _, 1, _ | .program _, 1, _ => by
    rw [Node.walkRaising, Node.walkWithin]
    rfl
  | .block statements, room + 2, memo => by
    rw [Node.walkRaising, Node.walkWithin]
    exact walkBlockRaising_eq env statements .null room memo
  | .program statements, room + 2, memo => by
    rw [Node.walkRaising, Node.walkWithin]
    exact walkProgramRaising_eq env statements .null room memo

/-- Neither does the walk over a block raise anything else. -/
theorem walkBlockRaising_eq (env : Environment) : (ss : List Node) → (last : Value) → (room : ℕ) →
    (memo : Memo) → Node.walkBlockRaising env ss last room memo =
      (Node.walkBlockWithin env ss last room memo).mapError .tooDeep
  | [], last, room, memo => by
    rw [Node.walkBlockRaising, Node.walkBlockWithin]
    rfl
  | s :: rest, last, room, memo => by
    rw [Node.walkBlockRaising, Node.walkBlockWithin, Raised.mapError_bind, walkRaising_eq env s room memo]
    refine bind_congr fun o => ?_
    obtain ⟨value, memo, events⟩ := o
    cases value with
    | error | returned => rfl
    | number | boolean | raster | null =>
      dsimp only
      rw [Raised.mapError_after, walkBlockRaising_eq env rest _ room memo]

/-- Nor does the walk over a program. -/
theorem walkProgramRaising_eq (env : Environment) : (ss : List Node) → (last : Value) → (room : ℕ) →
    (memo : Memo) → Node.walkProgramRaising env ss last room memo =
      (Node.walkProgramWithin env ss last room memo).mapError .tooDeep
  | [], last, room, memo => by
    rw [Node.walkProgramRaising, Node.walkProgramWithin]
    rfl
  | s :: rest, last, room, memo => by
    rw [Node.walkProgramRaising, Node.walkProgramWithin, Raised.mapError_bind, walkRaising_eq env s room memo]
    refine bind_congr fun o => ?_
    obtain ⟨value, memo, events⟩ := o
    cases value with
    | error | returned => rfl
    | number | boolean | raster | null =>
      dsimp only
      rw [Raised.mapError_after, walkProgramRaising_eq env rest _ room memo]

end

/-- Evaluation has a value, whatever the node, the source and the room for nested calls. Nothing is raised on
the way but a lack of room, which the value then says; and that only with less room than the height of the node.
The grids in the value are well formed. -/
theorem evaluateRaising_eq_ok (env : Environment) (n : Node) (room : ℕ) :
    n.walkRaising env room [] = (n.walkWithin env room []).mapError .tooDeep ∧
    env.evaluateRaising room n = .ok (env.evaluateWithin room n) ∧
    (env.evaluateWithin room n = env.walk n ∨
      ((env.evaluateWithin room n).value = .error .nestedTooDeeply ∧ room < n.height)) ∧
    ∀ g ∈ (env.evaluateWithin room n).value.grids,
      0 < g.width ∧ 0 < g.height ∧ g.cells.size = g.width * g.height := by
  refine ⟨walkRaising_eq env n room [], ?_, evaluateWithin_eq_or env room n, fun g _ => ?_⟩
  · rw [Environment.evaluateRaising, Environment.evaluateWithin, walkRaising_eq]
    cases n.walkWithin env room [] <;> rfl
  · exact ⟨g.width_pos, g.height_pos, g.size_cells⟩

/-- A source that has one cell under every name. -/
def Source.onCell (x : Sample) : Source := fun _ =>
  .ok
    { cellType := .int16, width := 1, height := 1, noData := -1, cells := #[x]
      width_pos := Nat.one_pos
      height_pos := Nat.one_pos
      size_cells := Array.size_singleton }

/-- A band divided by a quotient by zero, in a block behind another one. -/
def infiniteDivisor : Node :=
  .block [.block [.statement (.band "q")],
    .statement (.binary "/" (.band "q") (.binary "/" (.number 1) (.number 0)))]

/-- A quotient by an infinite number, for which there is room. -/
theorem evaluateRaising_eq_ok_infiniteDivisor :
    let env : Environment := ⟨.noData, .onCell 3⟩
    ∃ g, (env.evaluate infiniteDivisor).value.grids = [g] ∧
      env.evaluateRaising Host.callRoom infiniteDivisor = .ok (env.evaluate infiniteDivisor) ∧
      env.evaluate infiniteDivisor = env.walk infiniteDivisor ∧
      0 < g.width ∧ 0 < g.height ∧ g.cells.size = g.width * g.height := by
  intro env
  obtain ⟨-, hraising, hroom, hgrids⟩ := evaluateRaising_eq_ok env infiniteDivisor Host.callRoom
  have hwalk : env.evaluate infiniteDivisor = env.walk infiniteDivisor :=
    hroom.resolve_right fun h => absurd h.2 (by decide)
  obtain ⟨g, hg⟩ : ∃ g, (env.walk infiniteDivisor).value.grids = [g] := ⟨_, rfl⟩
  rw [← hwalk] at hg
  exact ⟨g, hg, hraising, hwalk, hgrids g (hg ▸ List.mem_singleton_self g)⟩

end RasterAlgebra
