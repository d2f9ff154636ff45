import RasterAlgebra.Evaluation.Run
import RasterAlgebra.Proofs.Evaluation.Room
import RasterAlgebra.Proofs.Formula.Programs

/-!
# Evaluating one node

What evaluation does at an operator and at a statement of a program, as equations between outcomes: the
operands have values, or one of them fails and the outcome ends there. Whatever is shown of evaluation by
induction takes its cases from here. A text without a fault is a program of expressions
(`isStatement_of_mem_parse`). It is not higher than the limit of the parser allows, and every host has room for
that (`height_program_parse_le`), so `run` walks through it with nothing remembered (`run_eq_walkProgram`).
-/

namespace RasterAlgebra

variable {env : Environment} {op : String} {operand left right s : Node} {memo : Memo}

/-! ## Failures -/

theorem Value.isError_of_eq {v : Value} {f : Failure} (h : v = .error f) : v.isError := by
  rw [h]
  rfl

theorem Value.exists_of_isError {v : Value} (h : v.isError) : ∃ f, v = .error f := by
  cases v with
  | error f => exact ⟨f, rfl⟩
  | number | boolean | raster | null | returned => simp [isError] at h

theorem Value.kind_ne_error {v : Value} (h : v.isError = false) : v.kind ≠ .error := by
  cases v with
  | error => simp [isError] at h
  | number | boolean | raster | null | returned => simp [kind]

/-! ## Requests -/

/-- The requests of events in front come first. -/
theorem Outcome.requests_after (events : List Event) (o : Outcome) :
    (o.after events).requests = events.filterMap Event.request? ++ o.requests := by
  rw [requests, after, List.filterMap_append]
  rfl

/-- Stopping a program is no request. -/
theorem Outcome.requests_stopped (o : Outcome) (s : Node) (failure : Failure) :
    Outcome.requests { o with events := o.events ++ [.stopped s failure] } = o.requests := by
  rw [requests, requests, List.filterMap_append]
  exact List.append_nil _

/-! ## Operators -/

/-- A failure of the operand goes through. -/
theorem walk_unary_of_error (h : (operand.walk env memo).value.isError) :
    (Node.unary op operand).walk env memo = operand.walk env memo := by
  rw [Node.walk]
  exact if_pos h

/-- An operator is put in front of any other value. -/
theorem walk_unary_of_value (h : (operand.walk env memo).value.isError = false) :
    (Node.unary op operand).walk env memo =
      { operand.walk env memo with value := (operand.walk env memo).value.unary op } := by
  rw [Node.walk]
  exact if_neg (Bool.not_eq_true _ ▸ h)

/-- Behind a failure on the left, the operand on the right is not evaluated. -/
theorem walk_binary_of_left_error (h : (left.walk env memo).value.isError) :
    (Node.binary op left right).walk env memo = left.walk env memo := by
  rw [Node.walk]
  exact if_pos h

/-- The right operand is evaluated behind a left operand that has a value. -/
theorem walk_binary_of_right_error (hl : (left.walk env memo).value.isError = false)
    (hr : (right.walk env (left.walk env memo).memo).value.isError) :
    (Node.binary op left right).walk env memo =
      (right.walk env (left.walk env memo).memo).after (left.walk env memo).events := by
  rw [Node.walk]
  exact (if_neg (Bool.not_eq_true _ ▸ hl)).trans (if_pos hr)

/-- The operator between two values, with the events of both operands. -/
theorem walk_binary_of_values (hl : (left.walk env memo).value.isError = false)
    (hr : (right.walk env (left.walk env memo).memo).value.isError = false) :
    (Node.binary op left right).walk env memo =
      { (right.walk env (left.walk env memo).memo).after (left.walk env memo).events with
        value := Value.binary env.policy op (left.walk env memo).value
          (right.walk env (left.walk env memo).memo).value } := by
  rw [Node.walk]
  exact (if_neg (Bool.not_eq_true _ ▸ hl)).trans (if_neg (Bool.not_eq_true _ ▸ hr))

/-! ## Programs -/

/-- A statement that fails ends its program. -/
theorem walkProgram_of_error {s : Node} {memo : Memo} {failure : Failure}
    (h : (s.walk env memo).value = .error failure) (rest : List Node) (last : Value) :
    Node.walkProgram env (s :: rest) last memo =
      { s.walk env memo with events := (s.walk env memo).events ++ [.stopped s failure] } := by
  rw [Node.walkProgram]
  simp only [h]

/-- A program goes on behind a statement that neither fails nor returns. -/
theorem walkProgram_of_value {s : Node} {memo : Memo}
    (herror : (s.walk env memo).value.kind ≠ .error)
    (hreturned : (s.walk env memo).value.kind ≠ .returned) (rest : List Node) (last : Value) :
    Node.walkProgram env (s :: rest) last memo =
      (Node.walkProgram env rest (s.walk env memo).value (s.walk env memo).memo).after
        (s.walk env memo).events := by
  rw [Node.walkProgram]
  generalize (s.walk env memo).value = v at herror hreturned ⊢
  cases v with
  | error => exact absurd rfl herror
  | returned => exact absurd rfl hreturned
  | number | boolean | raster | null => rfl

/-! ## Texts -/

/-- The statements that are read from a text are expressions. -/
theorem isStatement_of_mem_parse (source : String) :
    ∀ s ∈ (parse source).statements, s.IsStatement := by
  intro s hs
  obtain ⟨d, rfl, -⟩ := Parser.exists_derivation_of_mem_statements _ s hs
  exact .mk (Grammar.isExpression_node d)

/-- Expressions are as high as their trees are deep. -/
theorem Node.height_eq_depth {n : Node} (hn : n.IsExpression) : n.height = n.depth := by
  induction hn with
  | number | boolean | band => rfl
  | unary op _ ih => rw [height, depth, ih]
  | binary op _ _ ihl ihr => rw [height, depth, ihl, ihr]

/-- A list is as high as its highest node. -/
theorem Node.heightOfList_le {ss : List Node} {bound : ℕ} (h : ∀ s ∈ ss, s.height ≤ bound) :
    heightOfList ss ≤ bound := by
  induction ss with
  | nil => exact Nat.zero_le _
  | cons s ss ih =>
    obtain ⟨hs, hss⟩ := List.forall_mem_cons.mp h
    exact Nat.max_le.mpr ⟨hs, ih hss⟩

/-- What is read from a text is not much higher than the limit: beyond the tree of an expression there are one
call for its statement and two for the program. -/
theorem height_program_parse_le (source : String) :
    (parse source).program.height ≤ defaultLimit.toNat + 3 := by
  have hstatements : Node.heightOfList (parse source).statements ≤ defaultLimit.toNat + 1 := by
    refine Node.heightOfList_le fun s hs => ?_
    obtain ⟨d, rfl, -, hdepth⟩ := Parser.exists_derivation_of_mem_statements _ s hs
    rw [Grammar.Derivation.statement, Node.height, Node.height_eq_depth (Grammar.isExpression_node d)]
    have hlimit : (d.node.depth : ℤ) ≤ defaultLimit := hdepth
    omega
  rw [Parse.program, Node.height]
  omega

section
variable [Host]

/-- There is room for whatever is read from a text. -/
theorem run_of_read {source : String} (hread : (parse source).faults = []) :
    env.run source memo = env.walk (parse source).program := by
  have hroom := Nat.le_trans (height_program_parse_le source) Host.limit_le_callRoom
  rw [Environment.run, if_pos (List.isEmpty_iff.mpr hread)]
  exact evaluateWithin_of_height_le env hroom

/-- A text with a fault is not evaluated. -/
theorem run_of_faults {source : String} (hfaults : (parse source).faults ≠ []) :
    env.run source memo = ⟨.error (.ofFaults (parse source).faults), memo, []⟩ := by
  rw [Environment.run, if_neg (mt List.isEmpty_iff.mp hfaults)]

/-- A text without a fault is evaluated, and its failure is kept apart. -/
theorem runChecked_of_read {source : String} (hread : (parse source).faults = []) :
    env.runChecked source memo =
      ⟨(env.walk (parse source).program).value.toExcept, (env.walk (parse source).program).memo,
        (env.walk (parse source).program).events⟩ := by
  have hrun : env.run source memo = env.walk (parse source).program := run_of_read hread
  rw [Environment.run, if_pos (List.isEmpty_iff.mpr hread)] at hrun
  rw [Environment.runChecked, if_pos (List.isEmpty_iff.mpr hread), hrun]

theorem runChecked_of_faults {source : String} (hfaults : (parse source).faults ≠ []) :
    env.runChecked source memo = ⟨.error (.faults (parse source).faults), memo, []⟩ := by
  rw [Environment.runChecked, if_neg (mt List.isEmpty_iff.mp hfaults)]

/-- Keeping apart what went wrong changes neither the memo nor the events. -/
theorem runChecked_memo_events (env : Environment) (source : String) (memo : Memo) :
    (env.runChecked source memo).memo = (env.run source memo).memo ∧
      (env.runChecked source memo).events = (env.run source memo).events := by
  by_cases hread : (parse source).faults = []
  · rw [runChecked_of_read hread, run_of_read hread]
    exact ⟨rfl, rfl⟩
  · rw [runChecked_of_faults hread, run_of_faults hread]
    exact ⟨rfl, rfl⟩

/-- A text without a fault has the outcome of its statements, behind nothing. -/
theorem run_eq_walkProgram {source : String} (hread : (parse source).faults = []) :
    env.run source memo = Node.walkProgram env (parse source).statements .null [] := by
  rw [run_of_read hread, Environment.walk, Parse.program, Node.walk]

end

end RasterAlgebra
