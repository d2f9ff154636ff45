import Mathlib.Data.Nat.Notation
import Mathlib.Tactic.Common
import RasterAlgebra.Evaluation

/-!
# Enough room for nested calls

`Node.walk` evaluates a node as if calls could be nested without end. With room for some calls only, evaluation
comes to the same outcome from a certain room on, and before that to none (`walkWithin_settles`); how much is
enough can be told from the node (`Node.height`). So with two rooms there are never two outcomes, and more room
loses none (`walkWithin_mono`).
-/

namespace RasterAlgebra

/-! ## Walks without bound -/

mutual
/-- The outcome of a node with the bands in `memo` remembered from before, and with room for all calls. -/
def Node.walk (env : Environment) : Node → Memo → Outcome
  | .number x, memo => ⟨.number x, memo, []⟩
  | .boolean b, memo => ⟨.boolean b, memo, []⟩
  | .value v, memo => ⟨v, memo, []⟩
  | .band name, memo =>
    match env.resolve name memo with
    | (.ok g, memo, events) => ⟨.raster g, memo, events⟩
    | (.error _, memo, events) => ⟨.error (.bandFailed name), memo, events⟩
  | .unary op operand, memo =>
    let o := operand.walk env memo
    if o.value.isError then o else { o with value := o.value.unary op }
  | .binary op left right, memo =>
    let l := left.walk env memo
    if l.value.isError then l
    else
      let r := (right.walk env l.memo).after l.events
      if r.value.isError then r
      else { r with value := Value.binary env.policy op l.value r.value }
  | .statement expression, memo => expression.walk env memo
  | .block statements, memo => Node.walkBlock env statements .null memo
  | .program statements, memo => Node.walkProgram env statements .null memo
/-- The outcome of the statements of a block behind a value. -/
def Node.walkBlock (env : Environment) : List Node → Value → Memo → Outcome
  | [], last, memo => ⟨last, memo, []⟩
  | s :: rest, _, memo =>
    let o := s.walk env memo
    match o.value with
    | .error _ | .returned _ => o
    | v => (Node.walkBlock env rest v o.memo).after o.events
/-- The outcome of the statements of a program behind a value. -/
def Node.walkProgram (env : Environment) : List Node → Value → Memo → Outcome
  | [], last, memo => ⟨last, memo, []⟩
  | s :: rest, _, memo =>
    let o := s.walk env memo
    match o.value with
    | .returned v => { o with value := v }
    | .error failure => { o with events := o.events ++ [.stopped s failure] }
    | v => (Node.walkProgram env rest v o.memo).after o.events
end

/-- The outcome of a node with nothing remembered from before, and with room for all calls. -/
def Environment.walk (env : Environment) (node : Node) : Outcome := node.walk env []

/-! ## Height -/

/-- How often a value is marked as returned. -/
def Value.layers : Value → ℕ
  | returned v => v.layers + 1
  | _ => 0

mutual
/-- For how many nested calls there has to be room at the most. The layers of a value count, since it can be
compared. -/
def Node.height : Node → ℕ
  | .number _ | .boolean _ | .band _ => 1
  | .value v => 3 * v.layers + 1
  | .unary _ operand => operand.height + 1
  | .binary _ left right => max left.height right.height + 1
  | .statement expression => expression.height + 1
  | .block statements | .program statements => Node.heightOfList statements + 2
/-- The greatest height of the nodes of a list. -/
def Node.heightOfList : List Node → ℕ
  | [] => 0
  | n :: rest => max n.height (Node.heightOfList rest)
end

/-- Every node takes a call for itself. -/
theorem Node.height_pos (n : Node) : 0 < n.height := by
  cases n <;> rw [height] <;> omega

/-! ### Layers of outcomes -/

namespace Value

/-- Comparing does not go deeper than the value on the left has layers. -/
theorem comparisonCalls_le (v w : Value) : v.comparisonCalls w ≤ 3 * v.layers := by
  induction v generalizing w with
  | returned v ih =>
    cases w with
    | returned w =>
      have := ih w
      rw [comparisonCalls, layers]
      omega
    | _ => exact Nat.zero_le _
  | _ => exact Nat.zero_le _

/-- No operator goes deeper than the value on the left has layers. -/
theorem binaryCalls_le (op : String) (v w : Value) : binaryCalls op v w ≤ 3 * v.layers := by
  unfold binaryCalls
  split
  · exact comparisonCalls_le v w
  · exact Nat.zero_le _

/-- An operator in front of a value yields a value without a mark. -/
theorem layers_unary (op : String) (v : Value) : (v.unary op).layers = 0 := by
  unfold unary
  split
  · rfl
  · split
    · cases v <;> rfl
    · rfl

theorem layers_bitTest (g : Grid) (x : Scalar) : (bitTest g x).layers = 0 := by
  unfold bitTest
  split
  · rfl
  · split <;> rfl

theorem layers_applyMask (g mask : Grid) : (applyMask g mask).layers = 0 := by
  unfold applyMask
  split
  · split <;> rfl
  · rfl

theorem layers_broadcast (policy : DivisionPolicy) (op : String) (side : ScalarSide) (g : Grid) (x : Scalar) :
    (broadcast policy op side g x).layers = 0 := by
  unfold broadcast
  split
  · exact layers_bitTest g x
  · split <;> rfl

theorem layers_rasterBinary (policy : DivisionPolicy) (op : String) (g k : Grid) :
    (rasterBinary policy op g k).layers = 0 := by
  unfold rasterBinary
  split
  · exact layers_applyMask g k
  · split
    · rfl
    · split
      · split
        · rfl
        · split <;> rfl
      · rfl

/-- A comparison yields a truth value or a failure. -/
theorem layers_compare (op : String) (v w : Value) : (compare op v w).layers = 0 := by
  unfold compare
  split
  · rfl
  · split
    · rfl
    · split <;> rfl

/-- No operator marks a value as returned. -/
theorem layers_binary (policy : DivisionPolicy) (op : String) (v w : Value) :
    (binary policy op v w).layers = 0 := by
  unfold binary
  split
  · unfold numberBinary
    split
    · rfl
    · split <;> rfl
  · exact layers_broadcast policy op _ _ _
  · exact layers_broadcast policy op _ _ _
  · exact layers_rasterBinary policy op _ _
  · exact layers_compare op _ _

end Value

mutual

/-- The outcome of a node is not marked more often than the height of the node has room for. -/
theorem layers_walk_lt (env : Environment) : (n : Node) → (memo : Memo) →
    3 * (n.walk env memo).value.layers < n.height
  | .number x, memo => by
    rw [Node.walk]
    exact Node.height_pos _
  | .boolean b, memo => by
    rw [Node.walk]
    exact Node.height_pos _
  | .value v, memo => by
    rw [Node.walk, Node.height]
    exact Nat.lt_succ_self _
  | .band name, memo => by
    rw [Node.walk]
    split <;> exact Node.height_pos _
  | .unary op operand, memo => by
    have ho := layers_walk_lt env operand memo
    rw [Node.walk, Node.height]
    split
    · omega
    · rw [Value.layers_unary]
      omega
  | .binary op left right, memo => by
    have hl := layers_walk_lt env left memo
    have hr := layers_walk_lt env right (left.walk env memo).memo
    rw [Node.walk, Node.height]
    dsimp only
    split
    · omega
    · split
      · exact Nat.lt_of_lt_of_le hr (by omega)
      · rw [Value.layers_binary]
        omega
  | .statement expression, memo => by
    rw [Node.walk, Node.height]
    exact Nat.lt_succ_of_lt (layers_walk_lt env expression memo)
  | .block statements, memo => by
    rw [Node.walk, Node.height]
    refine Nat.lt_of_le_of_lt (layers_walkBlock_le env statements .null memo) ?_
    show max 0 (Node.heightOfList statements) < _
    omega
  | .program statements, memo => by
    rw [Node.walk, Node.height]
    refine Nat.lt_of_le_of_lt (layers_walkProgram_le env statements .null memo) ?_
    show max 0 (Node.heightOfList statements) < _
    omega

/-- A block hands on a mark of one of its statements, or of the value in front of it. -/
theorem layers_walkBlock_le (env : Environment) : (ss : List Node) → (last : Value) → (memo : Memo) →
    3 * (Node.walkBlock env ss last memo).value.layers ≤ max (3 * last.layers) (Node.heightOfList ss)
  | [], last, memo => by
    rw [Node.walkBlock]
    exact Nat.le_max_left _ _
  | s :: rest, last, memo => by
    have ho := layers_walk_lt env s memo
    have hrest := layers_walkBlock_le env rest (s.walk env memo).value (s.walk env memo).memo
    rw [Node.walkBlock, Node.heightOfList]
    split
    · omega
    · omega
    · exact Nat.le_trans hrest (by omega)

/-- A program takes a mark off, and adds none. -/
theorem layers_walkProgram_le (env : Environment) : (ss : List Node) → (last : Value) → (memo : Memo) →
    3 * (Node.walkProgram env ss last memo).value.layers ≤ max (3 * last.layers) (Node.heightOfList ss)
  | [], last, memo => by
    rw [Node.walkProgram]
    exact Nat.le_max_left _ _
  | s :: rest, last, memo => by
    have ho := layers_walk_lt env s memo
    have hrest := layers_walkProgram_le env rest (s.walk env memo).value (s.walk env memo).memo
    rw [Node.walkProgram, Node.heightOfList]
    split
    · rename_i v hvalue
      rw [hvalue, Value.layers] at ho
      dsimp only
      omega
    · dsimp only
      omega
    · exact Nat.le_trans hrest (by omega)

end

/-! ## How much room is enough -/

/-- With room for a certain number of calls, `bound` at the most, there is the outcome `o`; with less there is
none. -/
def Settles (bound : ℕ) (r : ℕ → Except Interruption Outcome) (o : Outcome) : Prop :=
  ∃ need ≤ bound, ∀ room, (need ≤ room → r room = .ok o) ∧ (room < need → ∃ i, r room = .error i)

namespace Settles

variable {r r' : ℕ → Except Interruption Outcome} {bound bound' room : ℕ} {o o' : Outcome}

/-- What takes no call has its outcome with any room. -/
theorem const (bound : ℕ) (o : Outcome) : Settles bound (fun _ => .ok o) o :=
  ⟨0, Nat.zero_le _, fun _ => ⟨fun _ => rfl, fun h => absurd h (Nat.not_lt_zero _)⟩⟩

/-- More room is enough, too. -/
theorem mono (h : Settles bound r o) (hbound : bound ≤ bound') : Settles bound' r o := by
  obtain ⟨need, hneed, hr⟩ := h
  exact ⟨need, Nat.le_trans hneed hbound, hr⟩

/-- What is called has room for one call less. -/
theorem call (h : Settles bound r' o) (hzero : ∃ i, r 0 = .error i) (hsucc : ∀ room, r (room + 1) = r' room) :
    Settles (bound + 1) r o := by
  obtain ⟨need, hneed, hr⟩ := h
  refine ⟨need + 1, Nat.succ_le_succ hneed, fun room => ?_⟩
  cases room with
  | zero => exact ⟨fun h => absurd h (Nat.not_succ_le_zero _), fun _ => hzero⟩
  | succ room =>
    rw [hsucc]
    exact ⟨fun h => (hr room).1 (Nat.le_of_succ_le_succ h), fun h => (hr room).2 (Nat.lt_of_succ_lt_succ h)⟩

/-- A loop that is called from there has room for one call less again. -/
theorem loop (h : Settles bound r' o) (hzero : ∃ i, r 0 = .error i) (hone : ∃ i, r 1 = .error i)
    (hsucc : ∀ room, r (room + 2) = r' room) : Settles (bound + 2) r o :=
  (h.call (r := fun room => r (room + 1)) hone hsucc).call hzero fun _ => rfl

/-- One evaluation behind the other, in the same room. -/
theorem bind {k : ℕ → Outcome → Except Interruption Outcome} (h : Settles bound r o)
    (hk : Settles bound (k · o) o') : Settles bound (fun room => r room >>= k room) o' := by
  obtain ⟨need, hneed, hr⟩ := h
  obtain ⟨need', hneed', hk⟩ := hk
  refine ⟨max need need', Nat.max_le.mpr ⟨hneed, hneed'⟩, fun room => ?_⟩
  dsimp only
  by_cases hlt : room < need
  · obtain ⟨i, hi⟩ := (hr room).2 hlt
    rw [hi]
    exact ⟨fun hroom => absurd hroom (by omega), fun _ => ⟨i, rfl⟩⟩
  · rw [(hr room).1 (Nat.le_of_not_lt hlt)]
    exact ⟨fun hroom => (hk room).1 (by omega), fun hroom => (hk room).2 (by omega)⟩

/-- Events in front take no calls. -/
theorem after (h : Settles bound r o) (events : List Event) :
    Settles bound (fun room => Interruption.after events (r room)) (o.after events) := by
  obtain ⟨need, hneed, hr⟩ := h
  refine ⟨need, hneed, fun room => ⟨fun hroom => ?_, fun hroom => ?_⟩⟩
  · exact congrArg (Interruption.after events) ((hr room).1 hroom)
  · obtain ⟨i, hi⟩ := (hr room).2 hroom
    exact ⟨_, congrArg (Interruption.after events) hi⟩

/-- An operator that nests calls by itself. -/
theorem operator {calls : ℕ} (hcalls : calls ≤ bound) (i : Interruption) (o : Outcome) :
    Settles bound (fun room => if room < calls then .error i else .ok o) o :=
  ⟨calls, hcalls, fun _ => ⟨fun hroom => if_neg (Nat.not_lt_of_le hroom), fun hroom => ⟨i, if_pos hroom⟩⟩⟩

/-- There is only one outcome, and more room does not change it. -/
theorem eq_ok_of_le (h : Settles bound r o) {room' : ℕ} (hr : r room = .ok o') (hroom : room ≤ room') :
    o' = o ∧ r room' = .ok o := by
  obtain ⟨need, -, hsettles⟩ := h
  have hneed : need ≤ room := by
    by_contra hlt
    obtain ⟨i, hi⟩ := (hsettles room).2 (Nat.lt_of_not_le hlt)
    cases hr.symm.trans hi
  exact ⟨Except.ok.inj (hr.symm.trans ((hsettles room).1 hneed)),
    (hsettles room').1 (Nat.le_trans hneed hroom)⟩

/-- Room up to the bound is enough. -/
theorem eq_ok_of_bound_le (h : Settles bound r o) (hroom : bound ≤ room) : r room = .ok o := by
  obtain ⟨need, hneed, hsettles⟩ := h
  exact (hsettles room).1 (Nat.le_trans hneed hroom)

/-- Without an outcome there is less room than would be enough. -/
theorem eq_ok_or_error (h : Settles bound r o) (room : ℕ) :
    r room = .ok o ∨ ∃ i, r room = .error i ∧ room < bound := by
  obtain ⟨need, hneed, hsettles⟩ := h
  by_cases hroom : need ≤ room
  · exact .inl ((hsettles room).1 hroom)
  · obtain ⟨i, hi⟩ := (hsettles room).2 (Nat.lt_of_not_le hroom)
    exact .inr ⟨i, hi, by omega⟩

end Settles

mutual

/-- From some room on a node has its outcome, and its height is enough. -/
theorem walkWithin_settles (env : Environment) : (n : Node) → (memo : Memo) →
    Settles n.height (n.walkWithin env · memo) (n.walk env memo)
  | .number x, memo => by
    rw [Node.walk]
    exact (Settles.const 0 _).call ⟨_, rfl⟩ fun _ => rfl
  | .boolean b, memo => by
    rw [Node.walk]
    exact (Settles.const 0 _).call ⟨_, rfl⟩ fun _ => rfl
  | .value v, memo => by
    rw [Node.walk, Node.height]
    exact (Settles.const _ _).call ⟨_, rfl⟩ fun _ => rfl
  | .band name, memo => by
    refine (Settles.const 0 _).call ⟨_, rfl⟩ fun room => ?_
    rw [Node.walkWithin, Node.walk]
    cases env.resolve name memo with
    | mk result rest => cases result <;> rfl
  | .unary op operand, memo => by
    have ho := walkWithin_settles env operand memo
    rw [Node.height]
    refine (ho.bind (k := fun _ o => if o.value.isError then .ok o
      else .ok { o with value := o.value.unary op }) ?_).call ⟨_, rfl⟩ fun _ => rfl
    rw [Node.walk]
    cases (operand.walk env memo).value.isError <;> exact .const _ _
  | .binary op left right, memo => by
    have hl := walkWithin_settles env left memo
    have hr := (walkWithin_settles env right (left.walk env memo).memo).after (left.walk env memo).events
    have hcalls := Value.binaryCalls_le op (left.walk env memo).value
      (right.walk env (left.walk env memo).memo).value
    have hlayers := layers_walk_lt env left memo
    refine Settles.call (?_ : Settles _ (fun room => (Node.binary op left right).walkWithin env (room + 1) memo) _)
      ⟨_, rfl⟩ fun _ => rfl
    simp only [Node.walkWithin, Node.walk]
    refine (hl.mono (Nat.le_max_left _ _)).bind ?_
    by_cases hlerror : (left.walk env memo).value.isError
    · simp only [hlerror, if_true]
      exact .const _ _
    · simp only [hlerror]
      refine (hr.mono (Nat.le_max_right _ _)).bind ?_
      by_cases hrerror : (right.walk env (left.walk env memo).memo).value.isError
      · simp only [Outcome.after, hrerror, if_true]
        exact .const _ _
      · simp only [Outcome.after, hrerror]
        exact .operator (Nat.le_trans hcalls (by omega)) _ _
  | .statement expression, memo => by
    rw [Node.walk, Node.height]
    exact (walkWithin_settles env expression memo).call ⟨_, rfl⟩ fun _ => rfl
  | .block statements, memo => by
    rw [Node.walk, Node.height]
    exact (walkBlockWithin_settles env statements .null memo).loop ⟨_, rfl⟩ ⟨_, rfl⟩ fun _ => rfl
  | .program statements, memo => by
    rw [Node.walk, Node.height]
    exact (walkProgramWithin_settles env statements .null memo).loop ⟨_, rfl⟩ ⟨_, rfl⟩ fun _ => rfl

/-- So has a block, with room for the highest of its statements. -/
theorem walkBlockWithin_settles (env : Environment) : (ss : List Node) → (last : Value) → (memo : Memo) →
    Settles (Node.heightOfList ss) (Node.walkBlockWithin env ss last · memo) (Node.walkBlock env ss last memo)
  | [], last, memo => by
    rw [Node.walkBlock]
    exact .const _ _
  | s :: rest, last, memo => by
    have ho := walkWithin_settles env s memo
    have hrest := (walkBlockWithin_settles env rest (s.walk env memo).value (s.walk env memo).memo).after
      (s.walk env memo).events
    unfold Node.walkBlockWithin Node.walkBlock
    rw [Node.heightOfList]
    refine (ho.mono (Nat.le_max_left _ _)).bind ?_
    cases hvalue : (s.walk env memo).value with
    | error | returned =>
      simp only [hvalue]
      exact .const _ _
    | number | boolean | raster | null =>
      simp only [hvalue]
      rw [hvalue] at hrest
      exact hrest.mono (Nat.le_max_right _ _)

/-- And so has a program. -/
theorem walkProgramWithin_settles (env : Environment) : (ss : List Node) → (last : Value) → (memo : Memo) →
    Settles (Node.heightOfList ss) (Node.walkProgramWithin env ss last · memo)
      (Node.walkProgram env ss last memo)
  | [], last, memo => by
    rw [Node.walkProgram]
    exact .const _ _
  | s :: rest, last, memo => by
    have ho := walkWithin_settles env s memo
    have hrest := (walkProgramWithin_settles env rest (s.walk env memo).value (s.walk env memo).memo).after
      (s.walk env memo).events
    unfold Node.walkProgramWithin Node.walkProgram
    rw [Node.heightOfList]
    refine (ho.mono (Nat.le_max_left _ _)).bind ?_
    cases hvalue : (s.walk env memo).value with
    | error | returned =>
      simp only [hvalue]
      exact .const _ _
    | number | boolean | raster | null =>
      simp only [hvalue]
      rw [hvalue] at hrest
      exact hrest.mono (Nat.le_max_right _ _)

end

/-! ## Evaluating -/

section
variable {env : Environment} {n : Node} {ss : List Node} {last : Value} {room room' : ℕ} {memo : Memo}
  {o : Outcome}

/-- More room does not change an outcome. -/
theorem walkWithin_mono (hroom : room ≤ room') (h : n.walkWithin env room memo = .ok o) :
    n.walkWithin env room' memo = .ok o := by
  obtain ⟨rfl, hmore⟩ := (walkWithin_settles env n memo).eq_ok_of_le h hroom
  exact hmore

/-- What evaluation comes to is what it would come to with more room. -/
theorem eq_walk_of_walkWithin (h : n.walkWithin env room memo = .ok o) : o = n.walk env memo :=
  ((walkWithin_settles env n memo).eq_ok_of_le h (Nat.le_refl _)).1

/-- With room for its height, a node is evaluated as if calls could be nested without end. -/
theorem walkWithin_of_height_le (h : n.height ≤ room) (memo : Memo) :
    n.walkWithin env room memo = .ok (n.walk env memo) :=
  (walkWithin_settles env n memo).eq_ok_of_bound_le h

/-- So is a node in a walk of its own. -/
theorem evaluateWithin_of_height_le (env : Environment) (h : n.height ≤ room) :
    env.evaluateWithin room n = env.walk n := by
  rw [Environment.evaluateWithin, walkWithin_of_height_le h]
  rfl

/-- If there is no room for a node, its value says so. -/
theorem evaluateWithin_eq_or (env : Environment) (room : ℕ) (n : Node) :
    env.evaluateWithin room n = env.walk n ∨
      (env.evaluateWithin room n).value = .error .nestedTooDeeply ∧ room < n.height := by
  rw [Environment.evaluateWithin]
  rcases (walkWithin_settles env n []).eq_ok_or_error room with h | ⟨i, h, hroom⟩
  · exact .inl (by rw [h]; rfl)
  · exact .inr ⟨by rw [h], hroom⟩

end

end RasterAlgebra
