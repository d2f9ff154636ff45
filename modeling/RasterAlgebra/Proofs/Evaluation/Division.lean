import RasterAlgebra.Proofs.Algebra.Masking
import RasterAlgebra.Proofs.Evaluation.Frames
import RasterAlgebra.Proofs.Evaluation.Pointwise
import RasterAlgebra.Proofs.Evaluation.Recall

/-!
# Division by zero

The policy for divisions decides what stands in the cells that are divided by zero, and nothing else.

* `quotient_agree`: one quotient. Under the no-data policy it is the quotient that it would otherwise be,
  with its zero divisors masked.
* `Value.Agree.binary_sameAt`, `walk_sameAt`: an operator does not carry what happens in one cell into
  another one, so an expression has the same sample under both policies wherever it does not divide by
  zero.
* `walkProgram_value_of_last`: the value of a program is that of its last statement alone.

So the two policies cannot be told apart but in those cells (`run_policies`).
-/

namespace RasterAlgebra

open Grid

variable {g g' k k' : Grid} {v v' w w' : Value} {x y : ℤ} {policy policy' : DivisionPolicy} {op : String}

/-! ## Zero divisors -/

/-- One value is divided by the other, at least one of them is a raster, and in the cell there is a zero to
divide by. A number is rounded, and is the divisor of all cells. -/
inductive Value.DividesByZeroAt (x y : ℤ) : Value → Value → Prop where
  | byNumber {g : Grid} {s : Scalar} {c : Sample} (hcell : g.cell x y = .ok c)
      (hzero : Sample.ofScalar s == 0) : DividesByZeroAt x y (.raster g) (.number s)
  | ofNumber {s : Scalar} {g : Grid} {d : Sample} (hcell : g.cell x y = .ok d) (hzero : d == 0) :
      DividesByZeroAt x y (.number s) (.raster g)
  | rasters {g k : Grid} {d : Sample} (hcell : k.cell x y = .ok d) (hzero : d == 0) :
      DividesByZeroAt x y (.raster g) (.raster k)

/-- Some quotient in an expression, or in the expression that is a statement, divides by zero in the
cell. -/
def Node.DividesByZeroAt (env : Environment) (x y : ℤ) : Node → Prop
  | .binary op left right =>
    op = "/" ∧ (env.walk left).value.DividesByZeroAt x y (env.walk right).value ∨
      left.DividesByZeroAt env x y ∨ right.DividesByZeroAt env x y
  | .unary _ operand => operand.DividesByZeroAt env x y
  | .statement expression => expression.DividesByZeroAt env x y
  | .number _ | .boolean _ | .band _ | .block _ | .program _ | .value _ => False

/-! ## One quotient -/

namespace Arithmetic

variable {arithmetic : Arithmetic} {noData c d : Sample}

/-- Quotients by zero are what division makes of them. -/
theorem onCells_ieee (arithmetic : Arithmetic) (noData c d : Sample) :
    arithmetic.onCells .ieee noData c d = arithmetic.onSamples c d :=
  if_neg fun h => DivisionPolicy.noConfusion h.2.1

/-- Under the other policy a quotient by zero gives way to the no-data value. -/
theorem onCells_of_zero (hzero : d == 0) : div.onCells .noData noData c d = noData :=
  if_pos ⟨rfl, rfl, hzero⟩

/-- Without a zero under the bar the policy does not count. -/
theorem onCells_of_ne_zero (hzero : ¬ d == 0) :
    arithmetic.onCells policy noData c d = arithmetic.onSamples c d :=
  if_neg fun h => hzero h.2.2

/-- Neither does it for an operator that does not divide. -/
theorem onCells_of_ne_div (harithmetic : arithmetic ≠ div) :
    arithmetic.onCells policy noData c d = arithmetic.onSamples c d :=
  if_neg fun h => harithmetic h.1

theorem ne_div_of_ofSymbol? (h : ofSymbol? op = some arithmetic) (hop : op ≠ "/") : arithmetic ≠ div := by
  rintro rfl
  unfold ofSymbol? at h
  split at h
  case h_4 => exact hop rfl
  all_goals cases h

end Arithmetic

namespace Grid

/-- Cells can be masked before or behind what is done to all of them. -/
theorem maskedBy_map {marked : ℤ → ℤ → Prop} {φ φ' : Sample → Sample} (cellType : CellType)
    (hin : ∀ x y, marked x y → ∃ c, g.cell x y = .ok c ∧ φ' c = g.noDataSample)
    (hout : ∀ x y c, ¬ marked x y → g.cell x y = .ok c → φ' c = φ c) :
    (g.map cellType φ).MaskedBy marked (g.map cellType φ') := by
  refine ⟨rfl, ⟨rfl, rfl⟩, rfl, fun x y hxy => ?_, fun x y hxy => ?_⟩
  · obtain ⟨c, hcell, hc⟩ := hin x y hxy
    rw [cell_map, hcell]
    exact congrArg Except.ok hc
  · rw [cell_map, cell_map]
    cases hcell : g.cell x y with
    | ok c => exact congrArg Except.ok (hout x y c hxy hcell)
    | error e => rfl

/-- Two functions that agree outside of some cells, and give way to the no-data value in them. -/
theorem maskedBy_zipWith {marked : ℤ → ℤ → Prop} {φ φ' : Sample → Sample → Sample}
    (same : g.SameExtents k) (cellType : CellType)
    (hin : ∀ x y, marked x y → ∃ d, k.cell x y = .ok d ∧ ∀ c, φ' c d = g.noDataSample)
    (hout : ∀ x y c d, ¬ marked x y → k.cell x y = .ok d → φ' c d = φ c d) :
    (g.zipWith k same cellType φ).MaskedBy marked (g.zipWith k same cellType φ') := by
  refine ⟨rfl, ⟨rfl, rfl⟩, rfl, fun x y hxy => ?_, fun x y hxy => ?_⟩
  · obtain ⟨d, hcell, hd⟩ := hin x y hxy
    rw [cell_zipWith]
    rcases same.cells x y with ⟨c, d', hc, hd'⟩ | ⟨e, -, he⟩
    · obtain rfl : d' = d := Except.ok.inj (hd'.symm.trans hcell)
      rw [hc, hd']
      exact congrArg Except.ok (hd c)
    · cases he.symm.trans hcell
  · rw [cell_zipWith, cell_zipWith]
    rcases same.cells x y with ⟨c, d, hc, hd⟩ | ⟨e, hc, hd⟩
    · rw [hc, hd]
      exact congrArg Except.ok (hout x y c d hxy hd)
    · rw [hc]
      rfl

end Grid

section
open Arithmetic

/-- A raster that is divided by a number: all cells are masked, or none. -/
theorem quotient_byNumber_maskedBy (g : Grid) (s : Scalar) :
    (g.map .float32 (div.onCells .ieee g.noDataSample · (.ofScalar s))).MaskedBy
      (fun x y => (Value.raster g).DividesByZeroAt x y (.number s))
      (g.map .float32 (div.onCells .noData g.noDataSample · (.ofScalar s))) := by
  refine maskedBy_map .float32 ?_ ?_
  · intro x y hxy
    cases hxy with
    | byNumber hcell hzero => exact ⟨_, hcell, onCells_of_zero hzero⟩
  · intro x y c hxy hcell
    rw [onCells_ieee, onCells_of_ne_zero fun hzero => hxy (.byNumber hcell hzero)]

/-- A number that is divided by a raster: the cells with a zero under the bar are masked. -/
theorem quotient_ofNumber_maskedBy (s : Scalar) (g : Grid) :
    (g.map .float32 (div.onCells .ieee g.noDataSample (.ofScalar s) ·)).MaskedBy
      (fun x y => (Value.number s).DividesByZeroAt x y (.raster g))
      (g.map .float32 (div.onCells .noData g.noDataSample (.ofScalar s) ·)) := by
  refine maskedBy_map .float32 ?_ ?_
  · intro x y hxy
    cases hxy with
    | ofNumber hcell hzero => exact ⟨_, hcell, onCells_of_zero hzero⟩
  · intro x y c hxy hcell
    rw [onCells_ieee, onCells_of_ne_zero fun hzero => hxy (.ofNumber hcell hzero)]

/-- Two rasters: the cells in which the second one is zero are masked. -/
theorem quotient_rasters_maskedBy (same : g.SameExtents k) :
    (g.zipWith k same .float32 (div.onCells .ieee g.noDataSample)).MaskedBy
      (fun x y => (Value.raster g).DividesByZeroAt x y (.raster k))
      (g.zipWith k same .float32 (div.onCells .noData g.noDataSample)) := by
  refine maskedBy_zipWith same .float32 ?_ ?_
  · intro x y hxy
    cases hxy with
    | rasters hcell hzero => exact ⟨_, hcell, fun c => onCells_of_zero hzero⟩
  · intro x y c d hxy hcell
    rw [onCells_ieee, onCells_of_ne_zero fun hzero => hxy (.rasters hcell hzero)]

end

/-- Where two rasters cannot be divided, the failure is the same under both policies. -/
theorem rasterBinary_quotient_agree (g k : Grid) :
    (rasterBinary .ieee "/" g k).Agree
      (fun r r' => r.MaskedBy (fun x y => (Value.raster g).DividesByZeroAt x y (.raster k)) r')
      (rasterBinary .noData "/" g k) := by
  have hmask : "/" ≠ "#" := by decide
  have hop : Arithmetic.ofSymbol? "/" = some .div := rfl
  rw [rasterBinary, rasterBinary, if_neg hmask, if_neg hmask, hop]
  by_cases same : g.SameExtents k
  · simp only [dif_pos same]
    split
    · exact .error _
    · split
      · exact .error _
      · exact .raster (quotient_rasters_maskedBy same)
  · simp only [dif_neg same]
    exact .error _

/-- Under the no-data policy a quotient is the one that it is otherwise, with its zero divisors masked. A
quotient of numbers is the same. -/
theorem quotient_agree (v w : Value) :
    (Value.binary .ieee "/" v w).Agree (fun r r' => r.MaskedBy (fun x y => v.DividesByZeroAt x y w) r')
      (Value.binary .noData "/" v w) := by
  cases v with
  | number s =>
    cases w with
    | number t => exact Value.numberBinary_agree "/" s t
    | raster k => exact .raster (quotient_ofNumber_maskedBy s k)
    | _ => exact .error _
  | raster g =>
    cases w with
    | number t => exact .raster (quotient_byNumber_maskedBy g t)
    | raster k => exact rasterBinary_quotient_agree g k
    | _ => exact .error _
  | _ => cases w <;> exact .error _

/-! ## The same in one cell -/

namespace Grid

/-- Equal in everything but the samples, and in the sample of one cell. -/
structure SameAt (x y : ℤ) (g g' : Grid) : Prop extends g.SameFrame g' where
  cell : g'.cell x y = g.cell x y

namespace SameAt

theorem refl (g : Grid) : g.SameAt x y g := ⟨⟨rfl, rfl, rfl, rfl⟩, rfl⟩

theorem symm (h : g.SameAt x y g') : g'.SameAt x y g where
  cellType := h.cellType.symm
  width := h.width.symm
  height := h.height.symm
  noData := h.noData.symm
  cell := h.cell.symm

theorem trans {g'' : Grid} (h : g.SameAt x y g') (h' : g'.SameAt x y g'') : g.SameAt x y g'' where
  cellType := h'.cellType.trans h.cellType
  width := h'.width.trans h.width
  height := h'.height.trans h.height
  noData := h'.noData.trans h.noData
  cell := h'.cell.trans h.cell

end SameAt

/-- What is the same in one cell stays so under every operator that works cell by cell. -/
theorem sameAt_pointwise : Pointwise (SameAt x y) False where
  cellType h := h.cellType
  noData h := h.noData
  sameExtents_iff hg hk := hg.toSameFrame.sameExtents_iff hk.toSameFrame
  extentsText_eq hg hk _ := ⟨hg.toSameFrame.extentsText_eq, hk.toSameFrame.extentsText_eq⟩
  map {_ _} h cellType φ _ hφ := by
    obtain rfl := hφ.resolve_right id
    exact ⟨h.toSameFrame.map cellType φ φ, by rw [cell_map, cell_map, h.cell]⟩
  zipWith {_ _ _ _} hg hk same same' cellType φ _ hφ := by
    obtain rfl := hφ.resolve_right id
    exact ⟨hg.toSameFrame.zipWith same same' cellType φ φ,
      by rw [cell_zipWith, cell_zipWith, hg.cell, hk.cell]⟩

/-- Cells that are not masked are the same. -/
theorem MaskedBy.sameAt {marked : ℤ → ℤ → Prop} (h : g.MaskedBy marked g') (hxy : ¬ marked x y) :
    g.SameAt x y g' where
  cellType := h.cellType
  width := h.extents.1
  height := h.extents.2
  noData := h.noData
  cell := h.outside x y hxy

end Grid

namespace Value

variable {R S : Grid → Grid → Prop}

/-- Values agree in more than one way. -/
theorem Agree.mono (h : v.Agree R v')
    (hRS : ∀ {g g'}, v = .raster g → v' = .raster g' → R g g' → S g g') : v.Agree S v' := by
  cases h with
  | raster h => exact .raster (hRS rfl rfl h)
  | number | boolean | null | error => constructor

theorem Agree.sameAt_symm (h : v.Agree (SameAt x y) v') : v'.Agree (SameAt x y) v := by
  cases h with
  | raster h => exact .raster h.symm
  | number | boolean | null | error => constructor

theorem Agree.sameAt_trans {v'' : Value} (h : v.Agree (SameAt x y) v') (h' : v'.Agree (SameAt x y) v'') :
    v.Agree (SameAt x y) v'' := by
  cases h with
  | raster h =>
    cases h' with
    | raster h' => exact .raster (h.trans h')
  | number | boolean | null | error => exact h'

end Value

/-- Both environments serve the same bands. -/
theorem Environment.agree_sameAt (policy : DivisionPolicy) (source : Source) :
    Environment.Agree (SameAt x y) ⟨policy, source⟩ ⟨policy, source⟩ := by
  refine sameAt_pointwise.environment_agree (fun band => ?_) (.inl rfl)
  cases source band with
  | ok g => exact .ok (.refl g)
  | error e => exact .error e e

/-! ## Expressions under two policies -/

/-- Only division knows of the policy. -/
theorem Arithmetic.onCells_congr_policy {arithmetic : Arithmetic} (harithmetic : arithmetic ≠ div)
    (policy policy' : DivisionPolicy) (noData : Sample) :
    arithmetic.onCells policy noData = arithmetic.onCells policy' noData := by
  funext c d
  rw [onCells_of_ne_div harithmetic, onCells_of_ne_div harithmetic]

/-- So an operator with a scalar that is no division is the same under all policies. -/
theorem broadcast_congr_policy (hop : op ≠ "/") (policy policy' : DivisionPolicy) (side : ScalarSide)
    (g : Grid) (s : Scalar) : broadcast policy op side g s = broadcast policy' op side g s := by
  unfold broadcast
  cases h : Arithmetic.ofSymbol? op with
  | none => cases side <;> rfl
  | some arithmetic =>
    have hcells := Arithmetic.onCells_congr_policy (Arithmetic.ne_div_of_ofSymbol? h hop) policy policy'
    cases side <;> simp only [hcells]

/-- And so is one between rasters. -/
theorem rasterBinary_congr_policy (hop : op ≠ "/") (policy policy' : DivisionPolicy) (g k : Grid) :
    rasterBinary policy op g k = rasterBinary policy' op g k := by
  unfold rasterBinary
  cases h : Arithmetic.ofSymbol? op with
  | none => rfl
  | some arithmetic =>
    have hcells := Arithmetic.onCells_congr_policy (Arithmetic.ne_div_of_ofSymbol? h hop) policy policy'
    simp only [hcells]

/-- The policy only matters for quotients. -/
theorem Value.binary_congr_policy (hop : op ≠ "/") (policy policy' : DivisionPolicy) (v w : Value) :
    Value.binary policy op v w = Value.binary policy' op v w := by
  cases v with
  | number s =>
    cases w with
    | raster k => exact broadcast_congr_policy hop policy policy' .left k s
    | _ => rfl
  | raster g =>
    cases w with
    | number t => exact broadcast_congr_policy hop policy policy' .right g t
    | raster k => exact rasterBinary_congr_policy hop policy policy' g k
    | _ => rfl
  | _ => cases w <;> rfl

/-- An operator under two policies, between operands that are the same in one cell. -/
theorem Value.Agree.binary_sameAt (hv : v.Agree (SameAt x y) v') (hw : w.Agree (SameAt x y) w')
    (hop : op = "/" → ¬ v.DividesByZeroAt x y w) (policy policy' : DivisionPolicy) :
    (Value.binary policy op v w).Agree (SameAt x y) (Value.binary policy' op v' w') := by
  have hcongr : (Value.binary policy' op v w).Agree (SameAt x y) (Value.binary policy' op v' w') :=
    Agree.binary (Environment.agree_sameAt policy' fun band => .error ⟨.notFound, band, none⟩) op hv hw
  by_cases hdivision : op = "/"
  · subst hdivision
    have hmasked := (quotient_agree v w).mono fun _ _ h => h.sameAt (hop rfl)
    cases policy <;> cases policy'
    case ieee.ieee | noData.noData => exact hcongr
    case ieee.noData => exact hmasked.sameAt_trans hcongr
    case noData.ieee => exact hmasked.sameAt_symm.sameAt_trans hcongr
  · rw [Value.binary_congr_policy hdivision policy policy']
    exact hcongr

variable {source : Source} {left right n : Node}

theorem walk_band_value (env : Environment) (name : String) :
    (env.walk (.band name)).value =
      match env.source name with
      | .ok g => .raster g
      | .error _ => .error (.bandFailed name) := by
  rw [Environment.walk, Node.walk, Environment.resolve, List.lookup_nil]
  cases env.source name <;> rfl

theorem walk_unary_value (env : Environment) (op : String) (operand : Node) :
    (env.walk (.unary op operand)).value =
      if (env.walk operand).value.isError then (env.walk operand).value
      else (env.walk operand).value.unary op := by
  cases herror : (env.walk operand).value.isError with
  | true => exact congrArg Outcome.value (walk_unary_of_error herror)
  | false => exact congrArg Outcome.value (walk_unary_of_value herror)

/-- What is remembered of the left operand makes no difference to the value of the right one. -/
theorem walk_binary_value (env : Environment) (op : String) (left : Node)
    (hright : right.IsExpression) :
    (env.walk (.binary op left right)).value =
      if (env.walk left).value.isError then (env.walk left).value
      else if (env.walk right).value.isError then (env.walk right).value
      else Value.binary env.policy op (env.walk left).value (env.walk right).value := by
  have hmemo := (walk_remembers env left []).consistent (Memo.consistent_nil _)
  have hvalue : (right.walk env (left.walk env []).memo).value = (env.walk right).value :=
    (walk_recalls hright hmemo).value
  cases hl : (env.walk left).value.isError with
  | true => exact congrArg Outcome.value (walk_binary_of_left_error hl)
  | false =>
    cases hr : (env.walk right).value.isError with
    | true =>
      exact (congrArg Outcome.value (walk_binary_of_right_error hl (hvalue ▸ hr))).trans hvalue
    | false =>
      refine (congrArg Outcome.value (walk_binary_of_values hl (hvalue ▸ hr))).trans ?_
      exact congrArg (Value.binary env.policy op (env.walk left).value) hvalue

/-- An expression has the same sample in a cell under both policies, if it does not divide by zero there
under one of them. -/
theorem walk_sameAt (hn : n.IsExpression) {policy : DivisionPolicy}
    (hzero : ¬ n.DividesByZeroAt ⟨policy, source⟩ x y) (policy' : DivisionPolicy) :
    (Environment.walk ⟨policy, source⟩ n).value.Agree (SameAt x y)
      (Environment.walk ⟨policy', source⟩ n).value := by
  induction hn with
  | number s =>
    rw [Environment.walk, Environment.walk, Node.walk, Node.walk]
    exact .number s
  | boolean b =>
    rw [Environment.walk, Environment.walk, Node.walk, Node.walk]
    exact .boolean b
  | band name =>
    -- both policies ask the same source
    rw [walk_band_value, walk_band_value]
    dsimp only
    cases source name with
    | ok g => exact .raster (SameAt.refl g)
    | error e => exact .error _
  | @unary op operand _ ih =>
    have ho := ih hzero
    rw [walk_unary_value, walk_unary_value, ho.isError_eq]
    split
    · exact ho
    · exact ho.unary op
  | @binary op left right hl hr ihl ihr =>
    have hleft := ihl fun h => hzero (.inr (.inl h))
    have hright := ihr fun h => hzero (.inr (.inr h))
    rw [walk_binary_value _ op left hr, walk_binary_value _ op left hr, hleft.isError_eq,
      hright.isError_eq]
    split
    · exact hleft
    · split
      · exact hright
      · exact hleft.binary_sameAt hright (fun hop h => hzero (.inl ⟨hop, h⟩)) policy policy'

/-! ## Programs -/

/-- A program that does not fail has the value that its last statement has alone. -/
theorem walkProgram_value_of_last {env : Environment} {ss : List Node} (hss : ∀ s ∈ ss, s.IsStatement)
    (last : Value) {memo : Memo} (hmemo : memo.Consistent env.source)
    (hvalue : (Node.walkProgram env ss last memo).value.isError = false) {s : Node}
    (hs : s ∈ ss.getLast?) : (Node.walkProgram env ss last memo).value = (env.walk s).value := by
  induction ss generalizing last memo with
  | nil => cases hs
  | cons t rest ih =>
    obtain ⟨ht, hrest⟩ := List.forall_mem_cons.mp hss
    rcases walkProgram_cons env ht rest last memo with ⟨f, hf, heq⟩ | ⟨-, heq⟩
    · rw [heq] at hvalue
      exact absurd (Value.isError_of_eq hf) (Bool.not_eq_true _ ▸ hvalue)
    · rw [heq] at hvalue ⊢
      by_cases hempty : rest = []
      · -- the last statement starts from what the others have left
        subst hempty
        obtain rfl : t = s := Option.some.inj hs
        obtain ⟨hn⟩ := ht
        rw [Node.walkProgram.eq_1, Environment.walk, Node.walk, Node.walk]
        exact (walk_recalls hn hmemo).value
      · rw [List.getLast?_cons_of_ne_nil hempty] at hs
        exact ih hrest _ ((walk_remembers env t memo).consistent hmemo) hvalue hs

/-- A run that does not fail has the value of its last statement, evaluated by itself. -/
theorem run_value_of_last [Host] {env : Environment} {text : String} (memo : Memo)
    (hvalue : (env.run text memo).value.isError = false) {s : Node}
    (hs : s ∈ (parse text).statements.getLast?) :
    (env.run text memo).value = (env.walk s).value := by
  by_cases hread : (parse text).faults = []
  · rw [run_eq_walkProgram hread] at hvalue ⊢
    exact walkProgram_value_of_last (isStatement_of_mem_parse text) _ (Memo.consistent_nil _) hvalue hs
  · rw [run_of_faults hread] at hvalue
    cases hvalue

/-- Without statements there is nothing to make a raster of. -/
theorem exists_last_of_run_eq_raster [Host] {env : Environment} {text : String} {memo : Memo} {g : Grid}
    (hg : (env.run text memo).value = .raster g) : ∃ s, s ∈ (parse text).statements.getLast? := by
  cases hlast : (parse text).statements.getLast? with
  | some s => exact ⟨s, rfl⟩
  | none =>
    by_cases hread : (parse text).faults = []
    · rw [run_eq_walkProgram hread, List.getLast?_eq_none_iff.mp hlast, Node.walkProgram] at hg
      cases hg
    · rw [run_of_faults hread] at hg
      cases hg

/-- A cell in which nothing is divided by zero is the same under all policies. -/
theorem walk_statement_sameAt {s : Node} (hs : s.IsStatement) {policy : DivisionPolicy}
    (hzero : ¬ s.DividesByZeroAt ⟨policy, source⟩ x y) (policy' : DivisionPolicy) :
    (Environment.walk ⟨policy, source⟩ s).value.Agree (SameAt x y)
      (Environment.walk ⟨policy', source⟩ s).value := by
  obtain ⟨hn⟩ := hs
  rw [Environment.walk, Environment.walk, Node.walk, Node.walk]
  exact walk_sameAt hn hzero policy'

/-- A text over one source, under both policies and with anything remembered. It asks for the same bands, and
has the same number, truth value, null or failure, or rasters that differ in samples only: in those cells in
which the last statement divides by zero, under one policy or the other. Of a single quotient it is also
known what the samples are: under the no-data policy the zero divisors are masked. -/
theorem run_policies [Host] (source : Source) (text : String) (memo memo' : Memo) :
    (Environment.run ⟨.noData, source⟩ text memo').requests =
      (Environment.run ⟨.ieee, source⟩ text memo).requests ∧
    (Environment.run ⟨.ieee, source⟩ text memo).value.Agree
      (fun g g' => g.SameFrame g' ∧
        ∃ s ∈ (parse text).statements.getLast?, ∀ policy x y,
          ¬ s.DividesByZeroAt ⟨policy, source⟩ x y → g'.cell x y = g.cell x y)
      (Environment.run ⟨.noData, source⟩ text memo').value ∧
    ∀ v w : Value, (Value.binary .ieee "/" v w).Agree
      (fun r r' => r.MaskedBy (fun x y => v.DividesByZeroAt x y w) r') (Value.binary .noData "/" v w) := by
  have hsource (band : String) : Source.Agree SameFrame (source band) (source band) := by
    cases source band with
    | ok g => exact .ok ⟨rfl, rfl, rfl, rfl⟩
    | error e => exact .error e e
  obtain ⟨hvalue, hrequests⟩ :=
    run_agree (sameFrame_pointwise.environment_agree hsource (.inr trivial)) text memo memo'
  refine ⟨hrequests, hvalue.mono fun {g g'} hg hg' hframe => ⟨hframe, ?_⟩, quotient_agree⟩
  obtain ⟨s, hs⟩ := exists_last_of_run_eq_raster hg
  have hstatement := isStatement_of_mem_parse text s (List.mem_of_getLast? hs)
  -- the two rasters are the values of the last statement alone
  have hlast : (Environment.walk ⟨.ieee, source⟩ s).value = .raster g := by
    rw [← run_value_of_last memo (by rw [hg]; rfl) hs, hg]
  have hlast' : (Environment.walk ⟨.noData, source⟩ s).value = .raster g' := by
    rw [← run_value_of_last memo' (by rw [hg']; rfl) hs, hg']
  refine ⟨s, hs, fun policy x y hzero => ?_⟩
  cases policy with
  | ieee =>
    have hsame := walk_statement_sameAt hstatement hzero .noData
    rw [hlast, hlast'] at hsame
    cases hsame with
    | raster h => exact h.cell
  | noData =>
    have hsame := walk_statement_sameAt hstatement hzero .ieee
    rw [hlast, hlast'] at hsame
    cases hsame with
    | raster h => exact h.cell.symm

/-- A quotient of words, of which only the second one is divided by zero, and a quotient by a number that is
rounded to zero. -/
theorem run_policies_words :
    (∃ g g', (Environment.run ⟨.ieee, wordSource⟩ "q / (q - 5)" []).value = .raster g ∧
      (Environment.run ⟨.noData, wordSource⟩ "q / (q - 5)" []).value = .raster g' ∧
      g.SameFrame g' ∧ g'.cell 0 0 = g.cell 0 0) ∧
    ∃ r r', Value.binary .ieee "/" (.raster wordSample) (.number 1e-60) = .raster r ∧
      Value.binary .noData "/" (.raster wordSample) (.number 1e-60) = .raster r' ∧
      r.MaskedBy (fun x y => (Value.raster wordSample).DividesByZeroAt x y (.number 1e-60)) r' ∧
      r'.cell 1 0 = .ok (.ofScalar 7) := by
  have hread : (parse "q / (q - 5)").faults = [] := by decide +kernel
  have hparse : (parse "q / (q - 5)").statements =
      [.statement (.binary "/" (.band "q") (.binary "-" (.band "q") (.number 5)))] := by
    with_unfolding_all rfl
  obtain ⟨-, hvalue, hquotient⟩ := run_policies wordSource "q / (q - 5)" [] []
  constructor
  · have hg : ∃ g, (Environment.run ⟨.ieee, wordSource⟩ "q / (q - 5)" []).value = .raster g := by
      rw [run_eq_walkProgram hread, hparse]
      exact ⟨_, rfl⟩
    obtain ⟨g, hg⟩ := hg
    rw [hg] at hvalue
    generalize hg' : (Environment.run ⟨.noData, wordSource⟩ "q / (q - 5)" []).value = v at hvalue ⊢
    cases hvalue with
    | @raster _ g' h =>
      obtain ⟨hframe, s, hs, hcells⟩ := h
      refine ⟨g, g', hg, rfl, hframe, hcells .ieee 0 0 ?_⟩
      rw [hparse] at hs
      obtain rfl := Option.some.inj hs
      have hdivisor : ¬ Value.DividesByZeroAt 0 0 (.raster wordSample)
          (Value.binary .ieee "-" (.raster wordSample) (.number 5)) := by
        intro h
        cases h with
        | rasters hcell hzero =>
          obtain rfl := Except.ok.inj hcell
          exact absurd hzero (by decide +kernel)
      rintro (⟨-, h⟩ | h | ⟨h, -⟩ | h | h)
      · exact hdivisor h
      · exact h
      · exact absurd h (by decide)
      · exact h
      · exact h
  · have hquotient := hquotient (.raster wordSample) (.number 1e-60)
    cases hquotient with
    | raster h => exact ⟨_, _, rfl, rfl, h, h.inside 1 0 (.byNumber rfl (by decide +kernel))⟩

end RasterAlgebra
