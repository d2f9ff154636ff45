import RasterAlgebra.Algebra
import RasterAlgebra.Proofs.Grid.Gather
import RasterAlgebra.Proofs.Number.Equality

/-!
# Operators whose operands can be swapped

Sums, products and both tests for equality have the same result in either order of the operands
(`binary_comm`), whatever the operands are. A result that is a raster takes its no-data value from the
operand on the left, so two such rasters may have different zeros there; a failure names its operands in
their order. `Value.Alike` says which results count as the same.

* `numberBinary_comm`, `broadcast_comm`, `rasterBinary_comm`: numbers and rasters.
* `Value.compare_comm`: any other two values, which are only compared.
-/

namespace RasterAlgebra

/-- The operators whose operands can be swapped. -/
def symmetricOperators : List String := ["+", "*", "==", "!="]

/-- Results that count as the same: grids that agree, equal numbers or none at all, the same truth value, or
failures of one kind. -/
inductive Value.Alike : Value → Value → Prop where
  | raster {g h : Grid} (agrees : g.agrees h) : Alike (.raster g) (.raster h)
  | number {x y : Scalar} (equal : x == y ∨ x.isNaN ∧ y.isNaN) : Alike (.number x) (.number y)
  | boolean (b : Bool) : Alike (.boolean b) (.boolean b)
  | error {f f' : Failure} (kind : f.kind = f'.kind) : Alike (.error f) (.error f')

variable {op : String} {g k : Grid}

theorem mem_symmetricOperators_iff :
    op ∈ symmetricOperators ↔ op = "+" ∨ op = "*" ∨ op = "==" ∨ op = "!=" := by
  simp only [symmetricOperators, List.mem_cons, List.not_mem_nil, or_false]

/-- Of the arithmetic operators, sums and products are symmetric. -/
theorem Arithmetic.of_symmetric (hop : op ∈ symmetricOperators) {arithmetic : Arithmetic}
    (h : ofSymbol? op = some arithmetic) : arithmetic = add ∨ arithmetic = mul := by
  rcases mem_symmetricOperators_iff.mp hop with rfl | rfl | rfl | rfl
  · exact .inl (Option.some.inj h).symm
  · exact .inr (Option.some.inj h).symm
  · cases h
  · cases h

/-! ## Numbers -/

theorem Value.Alike.number_refl (x : Scalar) : Alike (.number x) (.number x) := by
  refine .number ?_
  cases hx : x.isNaN with
  | true => exact .inr ⟨rfl, rfl⟩
  | false => exact .inl (Scalar.beq_refl hx)

/-- Between scalars they are commutative. -/
theorem Arithmetic.onScalars_comm {arithmetic : Arithmetic} (h : arithmetic = add ∨ arithmetic = mul)
    (x y : Scalar) : arithmetic.onScalars x y = arithmetic.onScalars y x := by
  rcases h with rfl | rfl
  · exact Scalar.add_comm x y
  · exact Scalar.mul_comm x y

/-- So symmetric operators are the same from both sides of two numbers. -/
theorem numberBinary_comm (hop : op ∈ symmetricOperators) (x y : Scalar) :
    (numberBinary op x y).Alike (numberBinary op y x) := by
  rw [numberBinary, numberBinary]
  cases h : Arithmetic.ofSymbol? op with
  | some arithmetic =>
    show Value.Alike (.number (arithmetic.onScalars x y)) (.number (arithmetic.onScalars y x))
    rw [Arithmetic.onScalars_comm (Arithmetic.of_symmetric hop h)]
    exact .number_refl _
  | none =>
    rcases mem_symmetricOperators_iff.mp hop with rfl | rfl | rfl | rfl
    · cases h
    · cases h
    · show Value.Alike (.boolean (x == y)) (.boolean (y == x))
      rw [Scalar.beq_comm]
      exact .boolean _
    · show Value.Alike (.boolean (!(x == y))) (.boolean (!(y == x)))
      rw [Scalar.beq_comm]
      exact .boolean _

/-! ## Rasters -/

namespace Grid

theorem sameNoData_comm (g h : Grid) : g.sameNoData h = h.sameNoData g := by
  rw [sameNoData, sameNoData, Scalar.beq_comm, Bool.and_comm]

/-- A no-data value equals itself, also if it is no number. -/
theorem sameNoData_refl (g : Grid) : g.sameNoData g := by
  rw [sameNoData]
  cases hnan : g.noData.isNaN with
  | true => rfl
  | false => exact Scalar.beq_refl hnan

theorem all_zip_self {p : Sample × Sample → Bool} (h : ∀ c, p (c, c)) (samples : List Sample) :
    (samples.zip samples).all p := by
  induction samples with
  | nil => rfl
  | cons c rest ih => rw [List.zip_cons_cons, List.all_cons, h, ih, Bool.and_true]

/-- Grids with the same samples agree if what they have in common does. -/
theorem agrees_of_cells_eq (htype : g.cellType = k.cellType) (same : g.SameExtents k)
    (hnoData : g.sameNoData k) (hcells : g.cells = k.cells) : g.agrees k := by
  rw [agrees, ← hcells, htype, hnoData, decide_eq_true same, beq_self_eq_true,
    all_zip_self Sample.agrees_refl]
  rfl

/-- A grid agrees with itself. -/
theorem agrees_refl (g : Grid) : g.agrees g :=
  agrees_of_cells_eq rfl ⟨rfl, rfl⟩ g.sameNoData_refl rfl

end Grid

/-- Neither sums nor products are quotients, so it does not matter what becomes of those by zero. -/
theorem Arithmetic.onCells_comm {arithmetic : Arithmetic} (h : arithmetic = add ∨ arithmetic = mul)
    (policy : DivisionPolicy) (noData noData' c d : Sample) :
    arithmetic.onCells policy noData c d = arithmetic.onCells policy noData' d c := by
  rcases h with rfl | rfl
  · exact Sample.add_comm c d
  · exact Sample.mul_comm c d

theorem Value.Alike.raster_of_eq (h : g = k) : Alike (.raster g) (.raster k) := by
  subst h
  exact .raster g.agrees_refl

/-- Rasters that are alike agree. -/
theorem Value.Alike.agrees_of_raster {v w : Value} (h : v.Alike w) (hv : v = .raster g)
    (hw : w = .raster k) : g.agrees k := by
  subst hv hw
  cases h with
  | raster agrees => exact agrees

/-- Equality with a number is the bit test, whichever side the number is on. -/
theorem bitTest_alike_self (g : Grid) (x : Scalar) : (bitTest g x).Alike (bitTest g x) := by
  unfold bitTest
  split
  · exact .error rfl
  · split
    · exact .error rfl
    · exact .raster_of_eq rfl

/-- A symmetric operator does not tell on which side of a raster a number stands. -/
theorem broadcast_comm (hop : op ∈ symmetricOperators) (policy : DivisionPolicy) (side side' : ScalarSide)
    (g : Grid) (x : Scalar) :
    (broadcast policy op side g x).Alike (broadcast policy op side' g x) := by
  unfold broadcast
  split
  · exact bitTest_alike_self g x
  · cases harithmetic : Arithmetic.ofSymbol? op with
    | none => cases side <;> cases side' <;> exact .error rfl
    | some arithmetic =>
      have hcells := Arithmetic.onCells_comm (Arithmetic.of_symmetric hop harithmetic) policy g.noDataSample
        g.noDataSample (.ofScalar x)
      -- the number is on the other side in two cases of four
      cases side <;> cases side' <;> refine .raster_of_eq ?_
      · rfl
      · exact congrArg _ (funext hcells)
      · exact congrArg _ (funext fun c => (hcells c).symm)
      · rfl

/-- A mask is no symmetric operator. -/
theorem ne_mask_of_symmetric (hop : op ∈ symmetricOperators) : op ≠ "#" := by
  rintro rfl
  revert hop
  decide

/-- Two functions that are each other turned round make grids that agree. -/
theorem Grid.zipWith_agrees {φ ψ : Sample → Sample → Sample} (hφ : ∀ c d, φ c d = ψ d c)
    (same : g.SameExtents k) (same' : k.SameExtents g) (hnoData : g.sameNoData k) (cellType : CellType) :
    (g.zipWith k same cellType φ).agrees (k.zipWith g same' cellType ψ) := by
  refine agrees_of_cells_eq rfl same hnoData ?_
  show g.cells.zipWith φ k.cells = k.cells.zipWith ψ g.cells
  refine Array.ext (by rw [Array.size_zipWith, Array.size_zipWith, Nat.min_comm]) fun i _ _ => ?_
  rw [Array.getElem_zipWith, Array.getElem_zipWith, hφ]

/-- Rasters that have everything but their samples in common are combined cell by cell. -/
theorem rasterBinary_of_compatible {arithmetic : Arithmetic} (hmask : op ≠ "#")
    (hop : Arithmetic.ofSymbol? op = some arithmetic) (same : g.SameExtents k)
    (htype : g.cellType = k.cellType) (hnoData : g.sameNoData k) (policy : DivisionPolicy) :
    rasterBinary policy op g k = .raster (g.zipWith k same (arithmetic.cellType g.cellType)
      (arithmetic.onCells policy g.noDataSample)) := by
  simp only [rasterBinary, hmask, hop, dif_pos same, htype, hnoData, ne_eq, not_true_eq_false, Bool.not_true,
    Bool.false_eq_true, ↓reduceIte]

/-- A symmetric operator is the same from both sides of two rasters. -/
theorem rasterBinary_comm (hop : op ∈ symmetricOperators) (policy : DivisionPolicy) (g k : Grid) :
    (rasterBinary policy op g k).Alike (rasterBinary policy op k g) := by
  have hmask := ne_mask_of_symmetric hop
  -- both orders make the same checks one after the other, so they fail at the same one
  cases harithmetic : Arithmetic.ofSymbol? op with
  | none =>
    simp only [rasterBinary, hmask, harithmetic, ↓reduceIte]
    exact .error rfl
  | some arithmetic =>
    by_cases same : g.SameExtents k
    · have same' : k.SameExtents g := ⟨same.1.symm, same.2.symm⟩
      by_cases htype : g.cellType = k.cellType
      · by_cases hnoData : g.sameNoData k
        · have hnoData' : k.sameNoData g := k.sameNoData_comm g ▸ hnoData
          have hcells := Arithmetic.onCells_comm (Arithmetic.of_symmetric hop harithmetic) policy
            g.noDataSample k.noDataSample
          rw [rasterBinary_of_compatible hmask harithmetic same htype hnoData,
            rasterBinary_of_compatible hmask harithmetic same' htype.symm hnoData', htype]
          exact .raster (Grid.zipWith_agrees hcells same same' hnoData _)
        · simp only [rasterBinary, hmask, harithmetic, htype, k.sameNoData_comm g, hnoData, ne_eq,
            not_true_eq_false, dif_pos same, dif_pos same', ↓reduceIte, Bool.not_false]
          exact .error rfl
      · have htype' := Ne.symm htype
        simp only [rasterBinary, hmask, harithmetic, htype, htype', dif_pos same, dif_pos same', ne_eq,
          not_false_eq_true, ↓reduceIte]
        exact .error rfl
    · have same' : ¬ k.SameExtents g := fun h => same ⟨h.1.symm, h.2.symm⟩
      simp only [rasterBinary, hmask, harithmetic, dif_neg same, dif_neg same', ↓reduceIte]
      exact .error rfl

/-! ## Other values -/

namespace Value

/-- Equality of values can be read in either direction. -/
theorem same_comm (v w : Value) : v.same w = w.same v := by
  induction v generalizing w with
  | number x =>
    cases w with
    | number y => exact Scalar.beq_comm x y
    | _ => rfl
  | boolean a =>
    cases w with
    | boolean b => exact Bool.beq_comm
    | _ => rfl
  | raster => cases w <;> rfl
  | null => cases w <;> rfl
  | error f =>
    cases w with
    | error f' => exact BEq.comm
    | _ => rfl
  | returned v ih =>
    cases w with
    | returned w => exact ih w
    | _ => rfl

/-- Two values of which one at most is a number or a raster are only compared. -/
theorem compare_comm (op : String) (v w : Value) : (compare op v w).Alike (compare op w v) := by
  unfold compare
  by_cases hkind : v.kind = w.kind
  · rw [if_neg (not_not_intro hkind), if_neg (not_not_intro hkind.symm), same_comm]
    split
    · exact .boolean _
    · split
      · exact .boolean _
      · exact .error rfl
  · rw [if_pos hkind, if_pos (Ne.symm hkind)]
    exact .error rfl

end Value

/-! ## All values -/

/-- Sums, products and tests for equality do not depend on the order of their operands. -/
theorem binary_comm (hop : op ∈ symmetricOperators) (policy : DivisionPolicy) (v w : Value) :
    (Value.binary policy op v w).Alike (Value.binary policy op w v) := by
  cases v with
  | number x =>
    cases w with
    | number y => exact numberBinary_comm hop x y
    | raster k => exact broadcast_comm hop policy .left .right k x
    | _ => exact Value.compare_comm op _ _
  | raster g =>
    cases w with
    | number y => exact broadcast_comm hop policy .right .left g y
    | raster k => exact rasterBinary_comm hop policy g k
    | _ => exact Value.compare_comm op _ _
  | _ => cases w <;> exact Value.compare_comm op _ _

/-- The two sums are not the same raster: the zeros that mark cells without data have different signs. -/
theorem binary_comm_zeros :
    let g := threeCells .float32 0 1 (0 / 0) 3
    let k := threeCells .float32 (-0) 2 5 (-3)
    "+" ∈ symmetricOperators ∧
    ∃ r r', Value.binary .ieee "+" (.raster g) (.raster k) = .raster r ∧
      Value.binary .ieee "+" (.raster k) (.raster g) = .raster r' ∧
      r.cell 0 0 = .ok 3 ∧ r.agrees r' ∧ r.noData = 0 ∧ r'.noData = -0 := by
  intro g k
  have hop : "+" ∈ symmetricOperators := by decide
  have hnoData : g.sameNoData k ∧ k.sameNoData g := by decide +kernel
  have hadd : Arithmetic.ofSymbol? "+" = some .add := rfl
  have same : g.SameExtents k := ⟨rfl, rfl⟩
  have same' : k.SameExtents g := ⟨rfl, rfl⟩
  have htype : g.cellType = k.cellType := rfl
  have hr := rasterBinary_of_compatible (ne_mask_of_symmetric hop) hadd same htype hnoData.1 .ieee
  have hr' := rasterBinary_of_compatible (ne_mask_of_symmetric hop) hadd same' htype.symm hnoData.2 .ieee
  refine ⟨hop, _, _, hr, hr', ?_, ?_, rfl, rfl⟩
  · have hg : g.cell 0 0 = .ok 1 := rfl
    have hk : k.cell 0 0 = .ok 2 := rfl
    have hsum : (1 : Sample) + 2 = 3 := by decide +kernel
    rw [Grid.cell_zipWith, hg, hk]
    exact congrArg Except.ok hsum
  · exact (binary_comm hop .ieee (.raster g) (.raster k)).agrees_of_raster hr hr'

end RasterAlgebra
