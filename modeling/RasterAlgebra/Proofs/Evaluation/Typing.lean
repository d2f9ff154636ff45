import RasterAlgebra.Proofs.Evaluation.Agreement
import RasterAlgebra.Proofs.Evaluation.Steps

/-!
# Types of formulas

The operators of an expression and the kinds of its leaves decide its type before anything is evaluated
(`Node.staticKind?`). A value `Fits` a type if it is of this type, or a failure that lies with the bands;
where there is no type, only a failure fits.

* `Value.Fits.unary`, `Value.Fits.binary`: operators on values that fit.
* `walk_fits`: the value of an expression fits its type, by induction on the expression.
* `walkProgram_cons`, `walkProgram_fits`: one statement behind the other.

So a text whose statements all have types never fails because of the types of operands, and one with a
statement that has none always fails (`run_staticKind`).
-/

namespace RasterAlgebra

/-! ## Static types -/

namespace Value.Kind

/-- The type of an operator in front of an operand. -/
def unary? (op : String) (operand : Kind) : Option Kind :=
  if op = "!" then some boolean
  else if op = "-" ∧ operand = number then some number
  else none

/-- The type of an operator between two operands. -/
def binary? (op : String) : (left right : Kind) → Option Kind
  | number, number =>
    if op ∈ ["+", "-", "*", "/"] then some number
    else if op ∈ ["<", ">", "==", "!="] then some boolean
    else none
  | raster, number | number, raster =>
    if op ∈ ["+", "-", "*", "/", "=="] then some raster else none
  | raster, raster => if op ∈ ["+", "-", "*", "/", "#"] then some raster else none
  | boolean, boolean => if op ∈ ["==", "!="] then some boolean else none
  | _, _ => none

end Value.Kind

/-- The type of an expression, or of the expression that is a statement, if its operators apply. -/
def Node.staticKind? : Node → Option Value.Kind
  | .number _ => some .number
  | .boolean _ => some .boolean
  | .band _ => some .raster
  | .unary op operand => operand.staticKind?.bind (Value.Kind.unary? op)
  | .binary op left right =>
    left.staticKind?.bind fun l => right.staticKind?.bind (Value.Kind.binary? op l)
  | .statement expression => expression.staticKind?
  | .block _ | .program _ | .value _ => none

/-- Failures that types do not rule out: a band cannot be had, or rasters do not go together. -/
def Failure.OfBands (f : Failure) : Prop :=
  f.kind ∈ [.dataSource, .dimensionMismatch, .compatibility, .masking]

/-- What a type, or that there is none, says of a value. -/
inductive Value.Fits : Value → Option Value.Kind → Prop where
  | number (x : Scalar) : Fits (.number x) (some .number)
  | boolean (b : Bool) : Fits (.boolean b) (some .boolean)
  | raster (g : Grid) : Fits (.raster g) (some .raster)
  | ofBands {f : Failure} (h : f.OfBands) (k : Value.Kind) : Fits (.error f) (some k)
  | untyped (f : Failure) : Fits (.error f) none

/-! ## Operators -/

theorem Arithmetic.exists_ofSymbol? {op : String} (h : op ∈ ["+", "-", "*", "/"]) :
    ∃ arithmetic, ofSymbol? op = some arithmetic := by
  simp only [List.mem_cons, List.not_mem_nil, or_false] at h
  rcases h with rfl | rfl | rfl | rfl <;> exact ⟨_, rfl⟩

theorem Arithmetic.ofSymbol?_eq_none {op : String} (h : op ∉ ["+", "-", "*", "/"]) :
    ofSymbol? op = none := by
  unfold ofSymbol?
  split
  · simp at h
  · simp at h
  · simp at h
  · simp at h
  · rfl

theorem Comparison.exists_ofSymbol? {op : String} (h : op ∈ ["<", ">", "==", "!="]) :
    ∃ comparison, ofSymbol? op = some comparison := by
  simp only [List.mem_cons, List.not_mem_nil, or_false] at h
  rcases h with rfl | rfl | rfl | rfl <;> exact ⟨_, rfl⟩

theorem Comparison.ofSymbol?_eq_none {op : String} (h : op ∉ ["<", ">", "==", "!="]) :
    ofSymbol? op = none := by
  unfold ofSymbol?
  split
  · simp at h
  · simp at h
  · simp at h
  · simp at h
  · rfl

namespace Value

/-- A failure that fits the type of an operand fits the type of the operation. -/
theorem Fits.error_bind {f : Failure} {k? : Option Kind} (h : (error f).Fits k?)
    (type : Kind → Option Kind) : (error f).Fits (k?.bind type) := by
  cases h with
  | untyped => exact .untyped f
  | ofBands h k =>
    rw [Option.bind_some]
    cases type k with
    | none => exact .untyped f
    | some k' => exact .ofBands h k'

/-- A value that is no failure has the type that it fits. -/
theorem Fits.eq_some_kind {v : Value} {k? : Option Kind} (h : v.Fits k?) (herror : v.isError = false) :
    k? = some v.kind := by
  cases h with
  | number | boolean | raster => rfl
  | ofBands | untyped => simp [isError] at herror

theorem Fits.ofBands_of_ne_none {f : Failure} {k? : Option Kind} (h : (error f).Fits k?)
    (htyped : k? ≠ none) : f.OfBands := by
  cases h with
  | ofBands h => exact h
  | untyped => exact absurd rfl htyped

theorem Fits.kind_ne_returned {v : Value} {k? : Option Kind} (h : v.Fits k?) : v.kind ≠ .returned := by
  cases h <;> simp [kind]

theorem Fits.kind_ne_null {v : Value} {k? : Option Kind} (h : v.Fits k?) : v.kind ≠ .null := by
  cases h <;> simp [kind]

theorem numberBinary_fits (op : String) (x y : Scalar) :
    (numberBinary op x y).Fits (Kind.binary? op .number .number) := by
  rw [Kind.binary?]
  by_cases harithmetic : op ∈ ["+", "-", "*", "/"]
  · obtain ⟨arithmetic, h⟩ := Arithmetic.exists_ofSymbol? harithmetic
    rw [numberBinary, h, if_pos harithmetic]
    exact .number _
  · rw [numberBinary, Arithmetic.ofSymbol?_eq_none harithmetic, if_neg harithmetic]
    by_cases hcomparison : op ∈ ["<", ">", "==", "!="]
    · obtain ⟨comparison, h⟩ := Comparison.exists_ofSymbol? hcomparison
      rw [h, if_pos hcomparison]
      exact .boolean _
    · rw [Comparison.ofSymbol?_eq_none hcomparison, if_neg hcomparison]
      exact .untyped _

theorem bitTest_fits (g : Grid) (x : Scalar) : (bitTest g x).Fits (some .raster) := by
  rw [bitTest]
  split
  · exact .ofBands (by simp [Failure.OfBands, Failure.noWords]) .raster
  · split
    · exact .ofBands (by simp [Failure.OfBands, Failure.notFinite]) .raster
    · exact .raster _

/-- A scalar and a raster have the same type in either order. -/
theorem broadcast_fits (policy : DivisionPolicy) (op : String) (side : ScalarSide) (g : Grid)
    (x : Scalar) : (broadcast policy op side g x).Fits (Kind.binary? op .raster .number) := by
  rw [Kind.binary?]
  unfold broadcast
  by_cases htest : op = "=="
  · rw [if_pos htest, if_pos (by simp [htest])]
    exact bitTest_fits g x
  · rw [if_neg htest]
    by_cases harithmetic : op ∈ ["+", "-", "*", "/"]
    · obtain ⟨arithmetic, h⟩ := Arithmetic.exists_ofSymbol? harithmetic
      rw [if_pos (by simp only [List.mem_cons] at harithmetic ⊢; tauto), h]
      cases side <;> exact .raster _
    · rw [if_neg (by simp only [List.mem_cons] at harithmetic ⊢; tauto),
        Arithmetic.ofSymbol?_eq_none harithmetic]
      cases side <;> exact .untyped _

theorem applyMask_fits (g mask : Grid) : (applyMask g mask).Fits (some .raster) := by
  rw [applyMask]
  split
  · split
    · exact .raster _
    · exact .ofBands (by simp [Failure.OfBands, Failure.maskType]) .raster
  · exact .ofBands (by simp [Failure.OfBands, Failure.maskExtents]) .raster

theorem rasterBinary_fits (policy : DivisionPolicy) (op : String) (g h : Grid) :
    (rasterBinary policy op g h).Fits (Kind.binary? op .raster .raster) := by
  rw [Kind.binary?]
  by_cases hmask : op = "#"
  · rw [rasterBinary, if_pos hmask, if_pos (by simp [hmask])]
    exact applyMask_fits g h
  · rw [rasterBinary, if_neg hmask]
    by_cases harithmetic : op ∈ ["+", "-", "*", "/"]
    · obtain ⟨arithmetic, hsymbol⟩ := Arithmetic.exists_ofSymbol? harithmetic
      rw [if_pos (by simp only [List.mem_cons] at harithmetic ⊢; tauto), hsymbol]
      -- the type holds; what can fail is that the rasters do not go together
      simp only
      split
      · split
        · exact .ofBands (by simp [Failure.OfBands, Failure.cellTypes]) .raster
        · split
          · exact .ofBands (by simp [Failure.OfBands, Failure.noDataValues]) .raster
          · exact .raster _
      · exact .ofBands (by simp [Failure.OfBands, Failure.extents]) .raster
    · rw [if_neg (by simp only [List.mem_cons] at harithmetic ⊢; tauto),
        Arithmetic.ofSymbol?_eq_none harithmetic]
      exact .untyped _

/-- An operator between values that fit their types. -/
theorem Fits.binary {v w : Value} {k l : Kind} (hv : v.Fits (some k)) (hw : w.Fits (some l))
    (hverror : v.isError = false) (hwerror : w.isError = false) (policy : DivisionPolicy)
    (op : String) : (Value.binary policy op v w).Fits (Kind.binary? op k l) := by
  cases hv with
  | ofBands => simp [isError] at hverror
  | number x =>
    cases hw with
    | ofBands => simp [isError] at hwerror
    | number y => exact numberBinary_fits op x y
    | raster h => exact broadcast_fits policy op .left h x
    | boolean c => exact .untyped _
  | raster g =>
    cases hw with
    | ofBands => simp [isError] at hwerror
    | number y => exact broadcast_fits policy op .right g y
    | raster h => exact rasterBinary_fits policy op g h
    | boolean c => exact .untyped _
  | boolean b =>
    cases hw with
    | ofBands => simp [isError] at hwerror
    | number y => exact .untyped _
    | raster h => exact .untyped _
    | boolean c =>
      simp only [Value.binary, compare, Kind.binary?, kind, ne_eq, not_true_eq_false, if_false]
      by_cases hequal : op = "=="
      · rw [if_pos hequal, if_pos (by simp [hequal])]
        exact .boolean _
      · by_cases hdiffer : op = "!="
        · rw [if_neg hequal, if_pos hdiffer, if_pos (by simp [hdiffer])]
          exact .boolean _
        · rw [if_neg hequal, if_neg hdiffer, if_neg (by simp [hequal, hdiffer])]
          exact .untyped _

/-- An operator in front of a value that fits its type. -/
theorem Fits.unary {v : Value} {k : Kind} (hv : v.Fits (some k)) (herror : v.isError = false)
    (op : String) : (v.unary op).Fits (Kind.unary? op k) := by
  unfold Value.unary Kind.unary?
  split
  · exact .boolean _
  · cases hv with
    | ofBands => simp [isError] at herror
    | number x =>
      by_cases hminus : op = "-"
      · rw [if_pos hminus, if_pos ⟨hminus, rfl⟩]
        exact .number (-x)
      · rw [if_neg hminus, if_neg fun h => hminus h.1]
        exact .untyped _
    | boolean | raster =>
      simp only [reduceCtorEq, and_false, if_false]
      split <;> exact .untyped _

end Value

/-! ## Expressions -/

variable {env : Environment}

/-- A band is a raster, or cannot be had. -/
theorem walk_band_fits (name : String) (memo : Memo) :
    ((Node.band name).walk env memo).value.Fits (some .raster) := by
  rw [Node.walk]
  split
  · exact .raster _
  · exact .ofBands (by simp [Failure.OfBands, Failure.bandFailed]) .raster

/-- The value of an expression fits its type. -/
theorem walk_fits {n : Node} (hn : n.IsExpression) (memo : Memo) :
    (n.walk env memo).value.Fits n.staticKind? := by
  induction hn generalizing memo with
  | number x => exact .number x
  | boolean b => exact .boolean b
  | band name => exact walk_band_fits name memo
  | @unary op operand _ ih =>
    have ho := ih memo
    rw [Node.staticKind?]
    by_cases herror : (operand.walk env memo).value.isError
    · obtain ⟨f, hf⟩ := Value.exists_of_isError herror
      rw [walk_unary_of_error herror, hf]
      exact (hf ▸ ho).error_bind _
    · rw [Bool.not_eq_true] at herror
      have hkind := ho.eq_some_kind herror
      rw [walk_unary_of_value herror, hkind]
      exact (hkind ▸ ho).unary herror op
  | @binary op left right _ _ ihl ihr =>
    have hl := ihl memo
    have hr := ihr (left.walk env memo).memo
    rw [Node.staticKind?]
    by_cases hlerror : (left.walk env memo).value.isError
    · obtain ⟨f, hf⟩ := Value.exists_of_isError hlerror
      rw [walk_binary_of_left_error hlerror, hf]
      exact (hf ▸ hl).error_bind _
    · rw [Bool.not_eq_true] at hlerror
      have hlkind := hl.eq_some_kind hlerror
      rw [hlkind, Option.bind_some]
      by_cases hrerror : (right.walk env (left.walk env memo).memo).value.isError
      · obtain ⟨f, hf⟩ := Value.exists_of_isError hrerror
        rw [walk_binary_of_right_error hlerror hrerror, Outcome.after, hf]
        exact (hf ▸ hr).error_bind _
      · rw [Bool.not_eq_true] at hrerror
        have hrkind := hr.eq_some_kind hrerror
        rw [walk_binary_of_values hlerror hrerror, hrkind]
        exact (hlkind ▸ hl).binary (hrkind ▸ hr) hlerror hrerror env.policy op

/-! ## Programs -/

theorem walk_statement_fits (env : Environment) {s : Node} (hs : s.IsStatement) (memo : Memo) :
    (s.walk env memo).value.Fits s.staticKind? := by
  obtain ⟨hn⟩ := hs
  rw [Node.walk, Node.staticKind?]
  exact walk_fits hn memo

/-- A program goes on behind a statement that has a value. -/
theorem walkProgram_cons_of_value {s : Node} (hs : s.IsStatement) {memo : Memo}
    (hvalue : (s.walk env memo).value.isError = false) (rest : List Node) (last : Value) :
    Node.walkProgram env (s :: rest) last memo =
      (Node.walkProgram env rest (s.walk env memo).value (s.walk env memo).memo).after
        (s.walk env memo).events :=
  walkProgram_of_value (Value.kind_ne_error hvalue) (walk_statement_fits env hs memo).kind_ne_returned
    rest last

/-- A statement that is an expression fails and ends its program, or it has a value and the program goes
on behind it. -/
theorem walkProgram_cons (env : Environment) {s : Node} (hs : s.IsStatement) (rest : List Node)
    (last : Value) (memo : Memo) :
    (∃ f, (s.walk env memo).value = .error f ∧
      Node.walkProgram env (s :: rest) last memo =
        { s.walk env memo with events := (s.walk env memo).events ++ [.stopped s f] }) ∨
    ((s.walk env memo).value.isError = false ∧
      Node.walkProgram env (s :: rest) last memo =
        (Node.walkProgram env rest (s.walk env memo).value (s.walk env memo).memo).after
          (s.walk env memo).events) := by
  cases herror : (s.walk env memo).value.isError with
  | true =>
    obtain ⟨f, hf⟩ := Value.exists_of_isError herror
    exact .inl ⟨f, hf, walkProgram_of_error hf rest last⟩
  | false => exact .inr ⟨rfl, walkProgram_cons_of_value hs herror rest last⟩

/-- All statements have types. -/
def Node.AllTyped (statements : List Node) : Prop := ∀ s ∈ statements, s.staticKind? ≠ none

/-- Behind a value, a program fails, and then of the bands if all statements have types; or they all have
types, and the value that comes out fits that of the last statement. -/
theorem walkProgram_fits (env : Environment) {ss : List Node} (hss : ∀ s ∈ ss, s.IsStatement)
    (last : Value) (memo : Memo) :
    (∃ f, (Node.walkProgram env ss last memo).value = .error f ∧ (Node.AllTyped ss → f.OfBands)) ∨
      (Node.AllTyped ss ∧
        (ss = [] → (Node.walkProgram env ss last memo).value = last) ∧
        ∀ s, ss.getLast? = some s → (Node.walkProgram env ss last memo).value.isError = false ∧
          (Node.walkProgram env ss last memo).value.Fits s.staticKind?) := by
  induction ss generalizing last memo with
  | nil => exact .inr ⟨by simp [Node.AllTyped], fun _ => by rw [Node.walkProgram], by simp⟩
  | cons s rest ih =>
    obtain ⟨hs, hrest⟩ := List.forall_mem_cons.mp hss
    have hfits := walk_statement_fits env hs memo
    rcases walkProgram_cons env hs rest last memo with ⟨f, hf, heq⟩ | ⟨herror, heq⟩
    · rw [heq]
      refine .inl ⟨f, hf, fun htyped => ?_⟩
      rw [hf] at hfits
      exact hfits.ofBands_of_ne_none (htyped s List.mem_cons_self)
    · rw [heq]
      have hkind := hfits.eq_some_kind herror
      rcases ih hrest (s.walk env memo).value (s.walk env memo).memo with
        ⟨f, hf, hbands⟩ | ⟨htyped, hnil, hlast⟩
      · exact .inl ⟨f, hf, fun htyped => hbands fun t ht => htyped t (List.mem_cons_of_mem s ht)⟩
      · refine .inr ⟨List.forall_mem_cons.mpr ⟨by simp [hkind], htyped⟩, by simp, ?_⟩
        intro t ht
        by_cases hempty : rest = []
        · obtain rfl : s = t := by simpa [hempty] using ht
          rw [Outcome.after, hnil hempty]
          exact ⟨herror, hfits⟩
        · exact hlast t (List.getLast?_cons_of_ne_nil hempty ▸ ht)

/-! ## Texts -/

/-- A text without a fault, in any environment. Its value is not one on its way out, and null only if
there is no statement. If a statement has no type, the value is a failure; if all have types, failures are
those of the bands. Any other value has the type of the last statement. -/
theorem run_staticKind [Host] (env : Environment) (source : String) (memo : Memo)
    (hread : (parse source).faults = []) :
    (env.run source memo).value.kind ≠ .returned ∧
    ((env.run source memo).value = .null ↔ (parse source).statements = []) ∧
    ((∃ s ∈ (parse source).statements, s.staticKind? = none) →
      (env.run source memo).value.kind = .error) ∧
    (Node.AllTyped (parse source).statements →
      ∀ f, (env.run source memo).value = .error f → f.OfBands) ∧
    ((env.run source memo).value.kind ≠ .error →
      ∀ s, (parse source).statements.getLast? = some s →
        s.staticKind? = some (env.run source memo).value.kind) := by
  rw [run_eq_walkProgram hread]
  generalize hss : (parse source).statements = ss
  have hexpressions := hss ▸ isStatement_of_mem_parse source
  rcases walkProgram_fits env hexpressions .null [] with
    ⟨f, hf, hbands⟩ | ⟨htyped, hnil, hlast⟩
  · rw [hf]
    have hnonempty : ss ≠ [] := by
      rintro rfl
      simp [Node.walkProgram] at hf
    refine ⟨by simp [Value.kind], by simp [hnonempty], fun _ => rfl, ?_, by simp [Value.kind]⟩
    rintro htyped g hg
    obtain rfl : f = g := by simpa using hg
    exact hbands htyped
  · have huntyped : ¬ ∃ s ∈ ss, s.staticKind? = none := by
      rintro ⟨s, hs, hnone⟩
      exact htyped s hs hnone
    cases hend : ss.getLast? with
    | none =>
      obtain rfl : ss = [] := List.getLast?_eq_none_iff.mp hend
      rw [hnil rfl]
      simp [Value.kind]
    | some s =>
      obtain ⟨herror, hfits⟩ := hlast s hend
      have hnonempty : ss ≠ [] := by
        rintro rfl
        simp at hend
      refine ⟨hfits.kind_ne_returned, ?_, fun h => absurd h huntyped, ?_, ?_⟩
      · exact ⟨fun h => absurd (congrArg Value.kind h) hfits.kind_ne_null,
          fun h => absurd h hnonempty⟩
      · intro _ f hf
        simp [hf, Value.isError] at herror
      · rintro - t ht
        obtain rfl : s = t := by simpa using ht
        exact hfits.eq_some_kind herror

/-- A raster has no negative, whether there is such a band or not. -/
theorem run_staticKind_minus :
    (parse "1 < 2; -(q == 16); true").faults = [] ∧
    (∃ s ∈ (parse "1 < 2; -(q == 16); true").statements, s.staticKind? = none) ∧
    (Environment.run ⟨.ieee, Shelf.source []⟩ "1 < 2; -(q == 16); true" []).value.kind = .error := by
  have hread : (parse "1 < 2; -(q == 16); true").faults = [] := by decide +kernel
  have huntyped : ∃ s ∈ (parse "1 < 2; -(q == 16); true").statements, s.staticKind? = none := by
    decide +kernel
  have hrun := run_staticKind ⟨.ieee, Shelf.source []⟩ "1 < 2; -(q == 16); true" [] hread
  exact ⟨hread, huntyped, hrun.2.2.1 huntyped⟩

end RasterAlgebra
