import RasterAlgebra.Proofs.Evaluation.Typing

/-!
# What a run depends on

A run depends on its source only through the bands that it asks for: a source that answers these bands in the same
way makes the same outcome, whatever it says of all other bands (`run_congr_source`).
-/

namespace RasterAlgebra

variable {env : Environment} {source : Source} {memo : Memo}

/-- The answers of a source to the requests of an outcome are those of the environment. -/
def Environment.Answers (env : Environment) (source : Source) (o : Outcome) : Prop :=
  ∀ band ∈ o.requests, source band = env.source band

/-- Requests of two walks, one behind the other. -/
theorem Environment.answers_after {o p : Outcome} :
    env.Answers source (p.after o.events) ↔ env.Answers source o ∧ env.Answers source p := by
  unfold Answers
  rw [Outcome.requests_after]
  exact List.forall_mem_append

theorem walk_band_congr_source {name : String} (h : env.Answers source ((Node.band name).walk env memo)) :
    (Node.band name).walk ⟨env.policy, source⟩ memo = (Node.band name).walk env memo := by
  rw [Node.walk] at h
  rw [Node.walk, Node.walk]
  rw [Environment.resolve] at h
  rw [Environment.resolve, Environment.resolve]
  cases hlookup : memo.lookup name with
  | some g => rfl
  | none =>
    rw [hlookup] at h
    have hasked : source name = env.source name := by
      apply h
      simp only
      cases env.source name <;> exact List.mem_cons_self
    simp only [hasked]

/-- An expression. Where an operand fails, only the requests up to there are compared. -/
theorem walk_congr_source {n : Node} (hn : n.IsExpression) (h : env.Answers source (n.walk env memo)) :
    n.walk ⟨env.policy, source⟩ memo = n.walk env memo := by
  induction hn generalizing memo with
  | number x => rw [Node.walk, Node.walk]
  | boolean b => rw [Node.walk, Node.walk]
  | band name => exact walk_band_congr_source h
  | @unary op operand _ ih =>
    cases herror : (operand.walk env memo).value.isError with
    | true =>
      rw [walk_unary_of_error herror] at h ⊢
      have ho := ih h
      rw [walk_unary_of_error (ho ▸ herror), ho]
    | false =>
      rw [walk_unary_of_value herror] at h ⊢
      have ho := ih h
      rw [walk_unary_of_value (ho ▸ herror), ho]
  | @binary op left right _ _ ihl ihr =>
    cases hlerror : (left.walk env memo).value.isError with
    | true =>
      rw [walk_binary_of_left_error hlerror] at h ⊢
      have hl := ihl h
      rw [walk_binary_of_left_error (hl ▸ hlerror), hl]
    | false =>
      cases hrerror : (right.walk env (left.walk env memo).memo).value.isError with
      | true =>
        rw [walk_binary_of_right_error hlerror hrerror] at h ⊢
        obtain ⟨hleft, hright⟩ := Environment.answers_after.mp h
        have hl := ihl hleft
        have hr := ihr hright
        rw [walk_binary_of_right_error (by rw [hl, hlerror]) (by rw [hl, hr, hrerror]), hl, hr]
      | false =>
        rw [walk_binary_of_values hlerror hrerror] at h ⊢
        -- the value of an operator is no request
        obtain ⟨hleft, hright⟩ := Environment.answers_after.mp
          (show env.Answers source ((right.walk env (left.walk env memo).memo).after _) from h)
        have hl := ihl hleft
        have hr := ihr hright
        rw [walk_binary_of_values (by rw [hl, hlerror]) (by rw [hl, hr, hrerror]), hl, hr]

/-- The statements of a program. -/
theorem walkProgram_congr_source {ss : List Node} (hss : ∀ s ∈ ss, s.IsStatement) {last : Value}
    (h : env.Answers source (Node.walkProgram env ss last memo)) :
    Node.walkProgram ⟨env.policy, source⟩ ss last memo = Node.walkProgram env ss last memo := by
  induction ss generalizing last memo with
  | nil => rw [Node.walkProgram, Node.walkProgram]
  | cons s rest ih =>
    obtain ⟨hs, hrest⟩ := List.forall_mem_cons.mp hss
    have hstatement (ho : env.Answers source (s.walk env memo)) :
        s.walk ⟨env.policy, source⟩ memo = s.walk env memo := by
      obtain ⟨hn⟩ := hs
      rw [Node.walk] at ho
      rw [Node.walk, Node.walk]
      exact walk_congr_source hn ho
    rcases walkProgram_cons env hs rest last memo with ⟨f, hf, heq⟩ | ⟨hvalue, heq⟩
    · rw [heq] at h ⊢
      have ho := hstatement fun band hband => h band (by rwa [Outcome.requests_stopped])
      rw [walkProgram_of_error (by rw [ho, hf]), ho]
    · rw [heq] at h ⊢
      obtain ⟨hfirst, hbehind⟩ := Environment.answers_after.mp h
      have ho := hstatement hfirst
      rw [walkProgram_cons_of_value hs (by rw [ho, hvalue]), ho, ih hrest hbehind]

/-- A text has the same outcome with any source that gives the same answers to its requests. -/
theorem run_congr_source [Host] {formula : String} (h : env.Answers source (env.run formula memo)) :
    Environment.run ⟨env.policy, source⟩ formula memo = env.run formula memo := by
  by_cases hread : (parse formula).faults = []
  · rw [run_eq_walkProgram hread] at h ⊢
    rw [run_eq_walkProgram hread]
    exact walkProgram_congr_source (isStatement_of_mem_parse formula) h
  · rw [run_of_faults hread, run_of_faults hread]

end RasterAlgebra
