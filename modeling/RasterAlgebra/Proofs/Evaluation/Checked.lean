import RasterAlgebra.Proofs.Evaluation.Requests
import RasterAlgebra.Proofs.Formula.FaultText

/-!
# Failures as values and failures kept apart

A text can be run for a value, with failures among the values, or with faults and failures kept apart from
values. Both ways say the same.

* `Node.Raises.kind_ne_malformed`, `run_kind_ne_malformed`: evaluation never fails as a text does that is no
  formula, so it is seen at the value whether there was a fault.
* `Value.toExcept_eq_ok`, `Value.toExcept_eq_failure`, `Value.toExcept_injective`: keeping failures apart
  loses nothing.

For faults this rests on their texts, which are all that the value has of them (`runChecked_run`).
-/

namespace RasterAlgebra

/-! ## Failures of operators -/

/-- If the value is a failure, it is not that of a text that is no formula. -/
def Value.WellFormed (v : Value) : Prop := ∀ f, v = .error f → f.kind ≠ .malformed

namespace Value

/-- What is no failure says nothing about a formula. -/
theorem wellFormed_of_value {v : Value} (h : v.isError = false) : v.WellFormed := by
  intro f hf
  rw [hf] at h
  cases h

/-- A failure of another kind says nothing about the form of a formula either. -/
theorem wellFormed_error {f : Failure} (kind : Failure.Kind) (hkind : f.kind = kind)
    (h : kind ≠ .malformed) : (error f).WellFormed := by
  intro g hg
  obtain rfl := Value.error.inj hg
  exact hkind ▸ h

/-- No operator finds fault with the form of a formula: first the operators between numbers. -/
theorem numberBinary_wellFormed (op : String) (x y : Scalar) : (numberBinary op x y).WellFormed := by
  unfold numberBinary
  split
  · exact wellFormed_of_value rfl
  · split
    · exact wellFormed_of_value rfl
    · exact wellFormed_error .unknownOperator rfl (by decide)

/-- Neither does a bit test, which fails because of a cell type or a scalar. -/
theorem bitTest_wellFormed (g : Grid) (x : Scalar) : (bitTest g x).WellFormed := by
  unfold bitTest
  split
  · exact wellFormed_error .masking rfl (by decide)
  · split
    · exact wellFormed_error .masking rfl (by decide)
    · exact wellFormed_of_value rfl

/-- Nor does an operator between a raster and a number. -/
theorem broadcast_wellFormed (policy : DivisionPolicy) (op : String) (side : ScalarSide) (g : Grid)
    (x : Scalar) : (broadcast policy op side g x).WellFormed := by
  unfold broadcast
  split
  · exact bitTest_wellFormed g x
  · split
    · exact wellFormed_error .unknownOperator rfl (by decide)
    · exact wellFormed_error .unknownOperator rfl (by decide)
    · exact wellFormed_of_value rfl
    · exact wellFormed_of_value rfl

/-- A mask fails because of its extents or its type. -/
theorem applyMask_wellFormed (g mask : Grid) : (applyMask g mask).WellFormed := by
  unfold applyMask
  split
  · split
    · exact wellFormed_of_value rfl
    · exact wellFormed_error .masking rfl (by decide)
  · exact wellFormed_error .masking rfl (by decide)

/-- Rasters that do not go together say so by a failure of its own kind. -/
theorem rasterBinary_wellFormed (policy : DivisionPolicy) (op : String) (g h : Grid) :
    (rasterBinary policy op g h).WellFormed := by
  unfold rasterBinary
  split
  · exact applyMask_wellFormed g h
  · split
    · exact wellFormed_error .unknownOperator rfl (by decide)
    · split
      · split
        · exact wellFormed_error .compatibility rfl (by decide)
        · split
          · exact wellFormed_error .compatibility rfl (by decide)
          · exact wellFormed_of_value rfl
      · exact wellFormed_error .dimensionMismatch rfl (by decide)

/-- Whatever the operands are. -/
theorem compare_wellFormed (op : String) (v w : Value) : (compare op v w).WellFormed := by
  unfold compare
  split
  · exact wellFormed_error .typeMismatch rfl (by decide)
  · split
    · exact wellFormed_of_value rfl
    · split
      · exact wellFormed_of_value rfl
      · exact wellFormed_error .unknownOperator rfl (by decide)

/-- No operator between two values is about the form of a formula. -/
theorem binary_wellFormed (policy : DivisionPolicy) (op : String) (v w : Value) :
    (binary policy op v w).WellFormed := by
  unfold binary
  split
  · exact numberBinary_wellFormed op _ _
  · exact broadcast_wellFormed policy op .right _ _
  · exact broadcast_wellFormed policy op .left _ _
  · exact rasterBinary_wellFormed policy op _ _
  · exact compare_wellFormed op _ _

/-- An operator in front of a value is not, either. -/
theorem unary_wellFormed (op : String) (v : Value) : (v.unary op).WellFormed := by
  unfold unary
  split
  · exact wellFormed_of_value rfl
  · split
    · split
      · exact wellFormed_of_value rfl
      · exact wellFormed_error .unknownOperator rfl (by decide)
    · exact wellFormed_error .unknownOperator rfl (by decide)

end Value

variable {env : Environment} {f : Failure}

/-- So a failure that comes out of an expression is never about its form. -/
theorem Node.Raises.kind_ne_malformed {m : Node} (h : m.Raises env f) : f.kind ≠ .malformed := by
  cases h with
  | band => exact Value.wellFormed_error .dataSource rfl (by decide) _ rfl
  | unary _ h => exact Value.unary_wellFormed _ _ f h
  | binary _ _ h => exact Value.binary_wellFormed _ _ _ _ f h

/-- A text without a fault does not fail like one with a fault. -/
theorem run_kind_ne_malformed [Host] {source : String} {memo : Memo} (hread : (parse source).faults = [])
    (h : (env.run source memo).value = .error f) : f.kind ≠ .malformed := by
  rw [run_eq_walkProgram hread] at h
  obtain ⟨m, front, -, hraises⟩ := walkProgram_exists_failsAt (isStatement_of_mem_parse source) rfl h
  exact hraises.kind_ne_malformed

/-! ## Keeping failures apart -/

namespace Value
variable {v w : Value}

theorem toExcept_of_value (h : v.isError = false) : v.toExcept = .ok v := by
  cases v with
  | error => cases h
  | number | boolean | raster | null | returned => rfl

/-- A value is handed out as it is if it is no failure. -/
theorem toExcept_eq_ok : v.toExcept = .ok w ↔ v = w ∧ w.isError = false := by
  constructor
  · intro h
    cases v with
    | error => cases h
    | number | boolean | raster | null | returned =>
      obtain rfl := Except.ok.inj h
      exact ⟨rfl, rfl⟩
  · rintro ⟨rfl, h⟩
    exact toExcept_of_value h

/-- A failure that is handed out is the one in the value. -/
theorem toExcept_eq_failure : v.toExcept = .error (.failure f) ↔ v = .error f := by
  constructor
  · intro h
    cases v with
    | error g =>
      obtain rfl := RunError.failure.inj (Except.error.inj h)
      rfl
    | number | boolean | raster | null | returned => cases h
  · rintro rfl
    rfl

theorem toExcept_ne_faults {faults : List Fault} : v.toExcept ≠ .error (.faults faults) := by
  intro h
  cases v <;> cases h

/-- Nothing is lost when failures are kept apart. -/
theorem toExcept_injective : Function.Injective toExcept := by
  intro v w h
  cases hw : w.toExcept with
  | ok u => rw [(toExcept_eq_ok.mp (h.trans hw)).1, (toExcept_eq_ok.mp hw).1]
  | error e =>
    cases e with
    | faults => exact absurd hw toExcept_ne_faults
    | failure f => rw [toExcept_eq_failure.mp (h.trans hw), toExcept_eq_failure.mp hw]

end Value

/-! ## Texts -/

/-- The kinds of failure that evaluation has, each with its category. -/
def Failure.categories : List (Failure.Kind × Failure.Category) :=
  [(.unknownOperator, .operandTypes), (.typeMismatch, .operandTypes),
    (.dimensionMismatch, .operandShapes), (.compatibility, .operandShapes), (.masking, .mask),
    (.dataSource, .dataSource)]

/-- Every failure that is not about the form has its category. -/
theorem Failure.mem_categories (h : f.kind ≠ .malformed) : (f.kind, f.category) ∈ categories := by
  obtain ⟨kind, message⟩ := f
  cases kind with
  | malformed => exact absurd rfl h
  | unknownOperator | typeMismatch | dimensionMismatch | compatibility | masking | dataSource =>
    simp [categories, category]

/-- The faults of two texts can be told apart by the failures that show them. -/
theorem Failure.ofFaults_inj {source source' : String}
    (h : ofFaults (parse source).faults = ofFaults (parse source').faults) :
    (parse source).faults = (parse source').faults := by
  obtain ⟨-, htext⟩ := Failure.mk.inj h
  exact Fault.faults_eq_of_textOfList ((String.append_right_inj _).mp htext)

/-- A text without a fault gives its value, with the failure kept apart. -/
theorem runChecked_result_of_read [Host] {source : String} {memo : Memo} (hread : (parse source).faults = []) :
    (env.runChecked source memo).result = (env.run source memo).value.toExcept := by
  rw [runChecked_of_read hread, run_of_read hread]

section
variable {source : String} {memo : Memo}

/-- Faults are handed out if there are any, and all of them. -/
theorem runChecked_faults_iff [Host] {faults : List Fault} :
    (env.runChecked source memo).result = .error (.faults faults) ↔
      faults ≠ [] ∧ faults = (parse source).faults := by
  by_cases hread : (parse source).faults = []
  · rw [runChecked_result_of_read hread, hread]
    exact iff_of_false Value.toExcept_ne_faults fun h => h.1 h.2
  · rw [runChecked_of_faults hread]
    constructor
    · rintro ⟨⟩
      exact ⟨hread, rfl⟩
    · rintro ⟨-, rfl⟩
      rfl

/-- A run says that a text is malformed where the checked run hands out its faults, with their texts. -/
theorem run_malformed_iff [Host] {message : String} :
    (env.run source memo).value = .error ⟨.malformed, message⟩ ↔
      ∃ faults, (env.runChecked source memo).result = .error (.faults faults) ∧
        message = "syntax error: " ++ Fault.textOfList faults := by
  by_cases hread : (parse source).faults = []
  · refine iff_of_false (fun h => run_kind_ne_malformed hread h rfl) ?_
    rintro ⟨faults, h, -⟩
    obtain ⟨hne, rfl⟩ := runChecked_faults_iff.mp h
    exact hne hread
  · rw [run_of_faults hread]
    constructor
    · rintro ⟨⟩
      exact ⟨_, runChecked_faults_iff.mpr ⟨hread, rfl⟩, rfl⟩
    · rintro ⟨faults, h, rfl⟩
      rw [(runChecked_faults_iff.mp h).2]
      rfl

/-- The checked run hands out the other failures of a run. -/
theorem runChecked_failure_iff [Host] :
    (env.runChecked source memo).result = .error (.failure f) ↔
      (env.run source memo).value = .error f ∧ f.kind ≠ .malformed := by
  by_cases hread : (parse source).faults = []
  · rw [runChecked_result_of_read hread, Value.toExcept_eq_failure]
    exact (and_iff_left_of_imp (run_kind_ne_malformed hread)).symm
  · rw [runChecked_of_faults hread, run_of_faults hread]
    refine iff_of_false (fun h => by cases h) ?_
    rintro ⟨⟨⟩, hkind⟩
    exact hkind rfl

/-- And it hands out a value where the run has one that is no failure. -/
theorem runChecked_ok_iff [Host] {v : Value} :
    (env.runChecked source memo).result = .ok v ↔
      (env.run source memo).value = v ∧ v.isError = false := by
  by_cases hread : (parse source).faults = []
  · rw [runChecked_result_of_read hread, Value.toExcept_eq_ok]
  · rw [runChecked_of_faults hread, run_of_faults hread]
    refine iff_of_false (fun h => by cases h) ?_
    rintro ⟨rfl, h⟩
    cases h

end

/-- Runs with the same value are the same as checked runs. -/
theorem runChecked_eq_of_run_eq [Host] {env env' : Environment} {source source' : String} {memo memo' : Memo}
    (h : (env.run source memo).value = (env'.run source' memo').value) :
    (env.runChecked source memo).result = (env'.runChecked source' memo').result := by
  by_cases hread : (parse source).faults = [] <;> by_cases hread' : (parse source').faults = []
  · rw [runChecked_result_of_read hread, runChecked_result_of_read hread', h]
  · rw [run_of_faults hread'] at h
    exact absurd rfl (run_kind_ne_malformed hread h)
  · rw [run_of_faults hread] at h
    exact absurd rfl (run_kind_ne_malformed hread' h.symm)
  · rw [run_of_faults hread, run_of_faults hread'] at h
    rw [runChecked_of_faults hread, runChecked_of_faults hread',
      Failure.ofFaults_inj (Value.error.inj h)]

/-- Checked runs with the same result have the same value as runs. -/
theorem run_eq_of_runChecked_eq [Host] {env env' : Environment} {source source' : String} {memo memo' : Memo}
    (h : (env.runChecked source memo).result = (env'.runChecked source' memo').result) :
    (env.run source memo).value = (env'.run source' memo').value := by
  by_cases hread : (parse source).faults = [] <;> by_cases hread' : (parse source').faults = []
  · rw [runChecked_result_of_read hread, runChecked_result_of_read hread'] at h
    exact Value.toExcept_injective h
  · rw [runChecked_result_of_read hread, runChecked_of_faults hread'] at h
    exact absurd h Value.toExcept_ne_faults
  · rw [runChecked_of_faults hread, runChecked_result_of_read hread'] at h
    exact absurd h.symm Value.toExcept_ne_faults
  · rw [runChecked_of_faults hread, runChecked_of_faults hread'] at h
    rw [run_of_faults hread, run_of_faults hread', RunError.faults.inj (Except.error.inj h)]

/-- Running a text for a value, and running it with faults and failures kept apart.

There are faults exactly if the value is a failure because the text is no formula; they are those of the
text, and the failure has their texts. There is a failure exactly if the value is any other failure, which
is the same and of the category of its kind. Otherwise the value is the same. The memo and all that happens
are the same as well, and of any two runs the values are the same exactly if the results are. -/
theorem runChecked_run [Host] (env : Environment) (source : String) (memo : Memo) :
    (∀ faults, (env.runChecked source memo).result = .error (.faults faults) ↔
      faults ≠ [] ∧ faults = (parse source).faults) ∧
    (∀ message, (env.run source memo).value = .error ⟨.malformed, message⟩ ↔
      ∃ faults, (env.runChecked source memo).result = .error (.faults faults) ∧
        message = "syntax error: " ++ Fault.textOfList faults) ∧
    (∀ f, (env.runChecked source memo).result = .error (.failure f) ↔
      (env.run source memo).value = .error f ∧ f.kind ≠ .malformed) ∧
    (∀ f, (env.runChecked source memo).result = .error (.failure f) →
      (f.kind, f.category) ∈ Failure.categories) ∧
    (∀ v, (env.runChecked source memo).result = .ok v ↔
      (env.run source memo).value = v ∧ v.isError = false) ∧
    (env.runChecked source memo).memo = (env.run source memo).memo ∧
    (env.runChecked source memo).events = (env.run source memo).events ∧
    ∀ env' source' memo', (env.run source memo).value = (Environment.run env' source' memo').value ↔
      (env.runChecked source memo).result = (Environment.runChecked env' source' memo').result := by
  obtain ⟨hmemo, hevents⟩ := runChecked_memo_events env source memo
  refine ⟨fun _ => runChecked_faults_iff, fun _ => run_malformed_iff, fun _ => runChecked_failure_iff,
    fun f h => Failure.mem_categories (runChecked_failure_iff.mp h).2, fun _ => runChecked_ok_iff, hmemo,
    hevents, fun _ _ _ => ⟨runChecked_eq_of_run_eq, run_eq_of_runChecked_eq⟩⟩

end RasterAlgebra
