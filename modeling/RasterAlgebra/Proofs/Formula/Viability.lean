import RasterAlgebra.Proofs.Formula.Recovery

/-!
# Tokens that can become a program

Whether tokens can still become a program is seen by going through them once, from left to right: all that
counts is how many parentheses are open, and whether an operand has to come or has come (`Place`).

* `run_program`: programs are gone through to the end, so where there is no way to go on, no tokens behind
  help.
* `expression_treads`, `judged_statements`: the reader of formulas goes the same way. If the limit is larger
  than the number of tokens, it finds a fault exactly at the token with which there is no way to go on, or at
  the end of the text if something is missing there.
* `exists_derives_of_run`: wherever the way leads, closing what is open makes a program, because the reader
  finds no fault in it.
-/

namespace RasterAlgebra

open Grammar

namespace Grammar

/-! ## The way through the tokens of a program -/

/-- Where one is between two tokens. -/
inductive Place where
  /-- Nothing has come since the beginning, or since the last semicolon. -/
  | start
  /-- An operand has to come, within `depth` parentheses. -/
  | before (depth : ℕ)
  /-- An operand has come, within `depth` parentheses. -/
  | behind (depth : ℕ)
  deriving DecidableEq, Repr

namespace Place

/-- The way on from a place where an operand may begin. -/
def enter (depth : ℕ) (t : Token) : Option Place :=
  if t.leaf?.isSome then some (behind depth)
  else if t.kind ∈ unaryOperators then some (before depth)
  else if t.kind = .leftParen then some (before (depth + 1))
  else none

/-- The way on with a token. Outside of parentheses an operand may follow another one, as a statement of
its own. -/
def step : Place → Token → Option Place
  | start, t => enter 0 t
  | before depth, t => enter depth t
  | behind 0, t =>
    if t.kind.bindingPower?.isSome then some (before 0)
    else if t.kind = .semicolon then some start
    else enter 0 t
  | behind (depth + 1), t =>
    if t.kind.bindingPower?.isSome then some (before (depth + 1))
    else if t.kind = .rightParen then some (behind depth)
    else none

/-- The place behind a list of tokens. -/
def run (s : Place) (ts : List Token) : Option Place := ts.foldlM step s

/-- A statement may begin here, and the text may end. -/
def IsComplete (s : Place) : Prop := s = start ∨ s = behind 0

theorem run_cons (s : Place) (t : Token) (ts : List Token) :
    s.run (t :: ts) = (s.step t).bind (·.run ts) := rfl

/-- The way through two lists of tokens is the one behind the other. -/
theorem run_append (s : Place) (ts us : List Token) :
    s.run (ts ++ us) = (s.run ts).bind (·.run us) := List.foldlM_append

theorem run_of_step {s s' : Place} {t : Token} (h : s.step t = some s') (ts : List Token) :
    s.run (t :: ts) = s'.run ts := by
  rw [run_cons, h, Option.bind_some]

/-- The way through more tokens goes on from where the first ones led. -/
theorem run_append_of_run {s s' : Place} {ts : List Token} (h : s.run ts = some s')
    (us : List Token) : s.run (ts ++ us) = s'.run us := by
  rw [run_append, h, Option.bind_some]

/-! ### Single steps -/

theorem step_before (depth : ℕ) (t : Token) : (before depth).step t = enter depth t := rfl

/-- A token that is an operand by itself is behind one at once. -/
theorem enter_leaf {t : Token} {n : Node} (h : t.leaf? = some n) (depth : ℕ) :
    enter depth t = some (behind depth) := by
  rw [enter, h]
  rfl

/-- Behind a sign an operand has still to come. -/
theorem enter_unary {t : Token} (h : t.kind ∈ unaryOperators) (depth : ℕ) :
    enter depth t = some (before depth) := by
  have hleaf : t.leaf? = none := by
    simp only [unaryOperators, List.mem_cons, List.not_mem_nil, or_false] at h
    rcases h with h | h <;> rw [Token.leaf?, h]
  rw [enter, hleaf]
  exact if_pos h

/-- A parenthesis is opened, and an operand has to come in it. -/
theorem enter_leftParen {t : Token} (h : t.kind = .leftParen) (depth : ℕ) :
    enter depth t = some (before (depth + 1)) := by
  rw [enter, Token.leaf?, h]
  rfl

/-- Nothing else begins an operand. -/
theorem enter_eq_none {t : Token} (hleaf : t.leaf? = none) (hunary : t.kind ∉ unaryOperators)
    (hparen : t.kind ≠ .leftParen) (depth : ℕ) : enter depth t = none := by
  rw [enter, hleaf]
  exact (if_neg hunary).trans (if_neg hparen)

/-- An operator leads from an operand to the next one. -/
theorem step_operator {t : Token} {strength : ℕ} (h : t.kind.bindingPower? = some strength)
    (depth : ℕ) : (behind depth).step t = some (before depth) := by
  cases depth <;> rw [step, h] <;> rfl

/-- Behind an operand the innermost parenthesis can be closed. -/
theorem step_rightParen {t : Token} (h : t.kind = .rightParen) (depth : ℕ) :
    (behind (depth + 1)).step t = some (behind depth) := by
  rw [step, h]
  rfl

/-- Outside of parentheses a semicolon ends the statement. -/
theorem step_semicolon {t : Token} (h : t.kind = .semicolon) : (behind 0).step t = some start := by
  rw [step, h]
  rfl

/-- A semicolon leads to the beginning of a statement, if anywhere. -/
theorem eq_start_of_step_semicolon {s s' : Place} {t : Token} (ht : t.kind = .semicolon)
    (h : s.step t = some s') : s' = start := by
  have henter (depth : ℕ) : enter depth t = none := by
    rw [enter, Token.leaf?, ht]
    rfl
  cases s with
  | start => simp [step, henter] at h
  | before depth => simp [step, henter] at h
  | behind depth =>
    cases depth with
    | zero =>
      rw [step_semicolon ht] at h
      exact (Option.some.inj h).symm
    | succ depth => simp [step, ht, Token.Kind.bindingPower?] at h

/-- A way that ends with a semicolon leads to where a statement may begin. -/
theorem eq_start_of_run_semicolon {s s' : Place} {ts : List Token} {t : Token}
    (ht : t.kind = .semicolon) (h : s.run (ts ++ [t]) = some s') : s' = start := by
  rw [run_append, Option.bind_eq_some_iff] at h
  obtain ⟨s₁, -, hlast⟩ := h
  rw [run_cons, Option.bind_eq_some_iff] at hlast
  obtain ⟨s₂, hstep, hnil⟩ := hlast
  obtain rfl := Option.some.inj hnil
  exact eq_start_of_step_semicolon ht hstep

/-- A statement begins with a token that can begin an operand, and it makes no difference whether another
one stands in front: only a minus sign goes on with that as well. -/
theorem step_of_enter {s s' : Place} (hs : s.IsComplete) {t : Token} (h : enter 0 t = some s') :
    s.step t = some s' := by
  rcases hs with rfl | rfl
  · exact h
  · cases hkind : t.kind <;>
      simp_all [step, enter, Token.leaf?, Token.Kind.bindingPower?, unaryOperators]

/-- Where no operand begins, no statement does. -/
theorem step_eq_none_of_enter {s : Place} (hs : s.IsComplete) {t : Token} (h : enter 0 t = none)
    (hoperator : t.kind.bindingPower? = none) (hsemicolon : t.kind ≠ .semicolon) : s.step t = none := by
  rcases hs with rfl | rfl
  · exact h
  · rw [step, hoperator]
    exact (if_neg hsemicolon).trans h

/-! ### Derivations and programs -/

/-- The way through a phrase leads from before an operand to behind one. -/
theorem run_derivation {p : Phrase} (d : Derivation p) (depth : ℕ) :
    (before depth).run d.tokens = some (behind depth) := by
  induction d generalizing depth with
  | leaf t n hleaf => exact run_of_step (step_before depth t ▸ enter_leaf hleaf depth) []
  | group opening inner closing hopening hclosing ih =>
    rw [Derivation.tokens, run_of_step (step_before depth opening ▸ enter_leftParen hopening depth),
      run_append_of_run (ih _)]
    exact run_of_step (step_rightParen hclosing depth) []
  | atom inner ih => exact ih depth
  | unary op right hop ih =>
    rw [Derivation.tokens, run_of_step (step_before depth op ▸ enter_unary hop depth)]
    exact ih depth
  | tighter inner ih => exact ih depth
  | binary left op right hop ihl ihr =>
    rw [Derivation.tokens, run_append_of_run (ihl depth),
      run_of_step (step_operator (bindingPower?_of_mem hop) depth)]
    exact ihr depth

/-- A list of tokens that starts an operand starts a statement. -/
theorem run_of_run_before {s s' : Place} (hs : s.IsComplete) {t : Token} {ts : List Token}
    (h : (before 0).run (t :: ts) = some s') : s.run (t :: ts) = some s' := by
  rw [run_cons, Option.bind_eq_some_iff] at h
  obtain ⟨s₁, hstep, hrun⟩ := h
  rw [run_of_step (step_of_enter hs hstep)]
  exact hrun

/-- The tokens of an expression lead from the beginning of a statement to its end. -/
theorem run_expression {s : Place} (hs : s.IsComplete) (d : Derivation .expression) :
    s.run d.tokens = some (behind 0) := by
  have hrun := run_derivation d 0
  obtain ⟨t, ts, htokens, -⟩ := exists_head_tokens d
  rw [htokens] at hrun ⊢
  exact run_of_run_before hs hrun

/-- The way through a program leads to its end. -/
theorem run_program {cut : List Token → Prop} {ts : List Token} {ds : List (Derivation .expression)}
    (h : Program cut ts ds) {s : Place} (hs : s.IsComplete) :
    ∃ s', s.run ts = some s' ∧ s'.IsComplete := by
  induction h generalizing s with
  | nil => exact ⟨s, rfl, hs⟩
  | bare d _ _ ih =>
    rw [run_append_of_run (run_expression hs d)]
    exact ih (.inr rfl)
  | terminated d semicolon hsemicolon _ ih =>
    rw [run_append_of_run (run_expression hs d), run_of_step (step_semicolon hsemicolon)]
    exact ih (.inl rfl)

/-! ### Closing what is open -/

/-- Tokens that close what is open. -/
def closers : Place → List Token
  | start => []
  | before depth => ⟨.trueWord, "true", 0, 4⟩ :: List.replicate depth ⟨.rightParen, ")", 0, 1⟩
  | behind depth => List.replicate depth ⟨.rightParen, ")", 0, 1⟩

/-- From every place the tokens that close it lead to where the text may end. -/
theorem run_closers (s : Place) : ∃ s', s.run (closers s) = some s' ∧ s'.IsComplete := by
  have hbehind (depth : ℕ) : (behind depth).run (closers (.behind depth)) = some (.behind 0) := by
    induction depth with
    | zero => rfl
    | succ depth ih =>
      rw [closers, List.replicate_succ, run_of_step (step_rightParen rfl depth)]
      exact ih
  cases s with
  | start => exact ⟨.start, rfl, .inl rfl⟩
  | before depth =>
    have hstep : (before depth).step ⟨.trueWord, "true", 0, 4⟩ = some (.behind depth) :=
      enter_leaf rfl depth
    exact ⟨.behind 0, (run_of_step hstep _).trans (hbehind depth), .inr rfl⟩
  | behind depth => exact ⟨.behind 0, hbehind depth, .inr rfl⟩

/-- No statement is ended to close a place. -/
theorem ne_semicolon_of_mem_closers (s : Place) : ∀ t ∈ closers s, t.kind ≠ .semicolon := by
  have hreplicate (depth : ℕ) :
      ∀ t ∈ List.replicate depth (⟨.rightParen, ")", 0, 1⟩ : Token), t.kind ≠ .semicolon := by
    intro t ht
    rw [List.eq_of_mem_replicate ht]
    decide
  cases s with
  | start => simp [closers]
  | before depth => exact List.forall_mem_cons.mpr ⟨by decide, hreplicate depth⟩
  | behind depth => exact hreplicate depth

end Place

end Grammar

namespace Parser

variable {b : Bounds}

/-! ## The reader goes the same way -/

/-- An expression was read on the way from `s` to behind an operand; or reading stopped where there is no way
to go on with the next token; or it stopped because of the limit. -/
inductive Treads (b : Bounds) (s : Place) (depth power : ℕ) (ts : List Token) : Result Tree → Prop where
  | ok (tree : Tree) {taken rest : List Token} (h : taken ++ rest = ts)
      (hrun : s.run taken = some (.behind depth)) (hstop : Stops power rest) :
      Treads b s depth power ts (.ok tree, rest)
  | stuck {f : Fault} {taken rest : List Token} {s' : Place} (h : taken ++ rest = ts)
      (hrun : s.run taken = some s') (hinside : ¬ s'.IsComplete) (htoken : f.token = b.peek rest)
      (hstuck : s'.step f.token = none) : Treads b s depth power ts (.error f, rest)
  | tooDeep {f : Fault} {rest : List Token} (h : f.cause = .tooDeep b.limit) :
      Treads b s depth power ts (.error f, rest)

/-- What is read behind some tokens is read from their beginning, too. -/
theorem Treads.trans {s s' : Place} {depth power : ℕ} {taken rest ts : List Token} {r : Result Tree}
    (htaken : taken ++ rest = ts) (hrun : s.run taken = some s') (h : Treads b s' depth power rest r) :
    Treads b s depth power ts r := by
  subst htaken
  cases h with
  | ok tree h hrun' hstop =>
    subst h
    exact .ok tree (List.append_assoc ..) (by rw [Place.run_append_of_run hrun, hrun']) hstop
  | stuck h hrun' hinside htoken hstuck =>
    subst h
    exact .stuck (List.append_assoc ..) (by rw [Place.run_append_of_run hrun, hrun']) hinside htoken hstuck
  | tooDeep h => exact .tooDeep h

theorem Treads.cons {s s' : Place} {depth power : ℕ} {t : Token} {ts : List Token} {r : Result Tree}
    (hstep : s.step t = some s') (h : Treads b s' depth power ts r) :
    Treads b s depth power (t :: ts) r :=
  h.trans (show [t] ++ ts = t :: ts from rfl) (Place.run_of_step hstep [])

/-- What a fault shows does not depend on the expression that was to be read. -/
theorem Treads.of_error {s : Place} {depth power depth' power' : ℕ} {ts rest : List Token} {f : Fault}
    (h : Treads b s depth power ts (.error f, rest)) : Treads b s depth' power' ts (.error f, rest) := by
  cases h with
  | stuck h hrun hinside htoken hstuck => exact .stuck h hrun hinside htoken hstuck
  | tooDeep h => exact .tooDeep h

/-- An expression ends where it is. -/
theorem Treads.here {depth power : ℕ} {ts : List Token} (tree : Tree) (hstop : Stops power ts) :
    Treads b (.behind depth) depth power ts (.ok tree, ts) :=
  .ok tree (List.nil_append ts) rfl hstop

/-- There is no way to go on from where one is. -/
theorem Treads.stop {s : Place} {depth power : ℕ} {ts : List Token} {f : Fault}
    (hinside : ¬ s.IsComplete) (htoken : f.token = b.peek ts) (hstuck : s.step f.token = none) :
    Treads b s depth power ts (.error f, ts) :=
  .stuck (List.nil_append ts) rfl hinside htoken hstuck

/-- Where an operand has to come the text may not end. -/
theorem not_isComplete_before (depth : ℕ) : ¬ (Place.before depth).IsComplete := by
  rintro (h | h) <;> cases h

/-- Within a parenthesis the text may not end. -/
theorem not_isComplete_behind (depth : ℕ) : ¬ (Place.behind (depth + 1)).IsComplete := by
  rintro (h | h) <;> cases h

/-- Tokens that cut a statement do not start with an operator between two operands. -/
theorem bindingPower?_of_cuts {t : Token} {ts : List Token} (h : Cuts (t :: ts)) :
    t.kind.bindingPower? = none := by
  cases hs : t.kind.bindingPower? with
  | none => rfl
  | some strength =>
    obtain ⟨tier, hmem, -⟩ := exists_tier_of_bindingPower? hs
    exact absurd hmem (h t rfl tier)

/-- The parenthesis behind an expression is closed, or there is no way on without it. -/
theorem closing_treads (hlast : b.last.kind = .eof) (depth : ℕ) (inner : Tree) {ts : List Token}
    (hts : Stops 0 ts) : Treads b (.behind (depth + 1)) depth unaryPower ts (closing b inner ts) := by
  have hinside := not_isComplete_behind depth
  -- without an operator, there is no way out of parentheses but the closing one
  have hstuck {t : Token} (hpower : t.kind.bindingPower? = none) (hkind : t.kind ≠ .rightParen) :
      (Place.behind (depth + 1)).step t = none := by
    rw [Place.step, hpower]
    exact if_neg hkind
  cases ts with
  | nil => exact .stop hinside rfl (hstuck (by rw [hlast]; rfl) (by rw [hlast]; decide))
  | cons t ts =>
    rw [closing]
    split
    · rename_i hkind
      exact .cons (Place.step_rightParen hkind depth) (.here inner (stops_unaryPower ts))
    · rename_i hkind
      exact .stop hinside rfl (hstuck (bindingPower?_of_cuts (stops_zero_iff_cuts.mp hts)) hkind)

section
variable {expr : ℕ → List Token → Result Tree}

/-- An operand goes the way of the tokens if the expressions in its parentheses do. -/
theorem operand_treads (hlast : b.last.kind = .eof)
    (hexpr : ∀ depth power ts, Treads b (.before depth) depth power ts (expr power ts)) (depth : ℕ)
    (ts : List Token) : Treads b (.before depth) depth unaryPower ts (operand b expr ts) := by
  have hinside := not_isComplete_before depth
  cases ts with
  | nil =>
    refine .stop hinside rfl (Place.enter_eq_none ?_ ?_ ?_ depth)
    · rw [Token.leaf?, hlast]
    · rw [hlast]
      decide
    · rw [hlast]
      decide
  | cons t ts =>
    cases starts t with
    | leaf n hleaf =>
      rw [operand_leaf hleaf]
      exact .cons (Place.enter_leaf hleaf depth) (.here _ (stops_unaryPower ts))
    | unary hunary =>
      have hright := hexpr depth unaryPower ts
      rw [operand_unary hunary]
      generalize expr unaryPower ts = r at hright ⊢
      refine .cons (Place.enter_unary hunary depth) ?_
      rcases r with ⟨f | right, rest⟩
      · exact hright.of_error
      · cases hright with
        | ok right h hrun hstop =>
          simp only
          split
          · exact .tooDeep rfl
          · exact .ok _ h hrun hstop
    | leftParen hparen =>
      have hinner := hexpr (depth + 1) 0 ts
      rw [operand_leftParen hparen]
      generalize expr 0 ts = r at hinner ⊢
      refine .cons (Place.enter_leftParen hparen depth) ?_
      rcases r with ⟨f | inner, rest⟩
      · exact hinner.of_error
      · cases hinner with
        | ok inner h hrun hstop => exact (closing_treads hlast depth inner hstop).trans h hrun
    | none hleaf hunary hparen =>
      rw [operand_fault hleaf hunary hparen]
      exact .stop hinside rfl (Place.enter_eq_none hleaf hunary hparen depth)

/-- Operators go on from an operand, as far as they bind strongly enough. -/
theorem operators_treads
    (hexpr : ∀ depth power ts, Treads b (.before depth) depth power ts (expr power ts))
    (depth power : ℕ) (left : Tree) (ts : List Token) :
    Treads b (.behind depth) depth power ts (operators b expr power left ts) := by
  fun_induction operators b expr power left ts with
  | case1 left => exact .here left (stops_nil power)
  | case2 left t ts hs => exact .here left (stops_cons_of_none hs power ts)
  | case3 left t ts strength hs hle => exact .here left (stops_cons_of_le hs hle ts)
  | case4 left t ts strength hs _ fault rest heq =>
    have hright := hexpr depth strength ts
    rw [heq] at hright
    exact .cons (Place.step_operator hs depth) hright.of_error
  | case5 => exact .tooDeep rfl
  | case6 left t ts strength hs _ right rest heq _ _ ih =>
    have hright := hexpr depth strength ts
    rw [heq] at hright
    refine .cons (Place.step_operator hs depth) ?_
    cases hright with
    | ok right h hrun _ => exact ih.trans h hrun

end

/-- Reading an expression goes the way through its tokens. -/
theorem expression_treads (hlast : b.last.kind = .eof) (room depth power : ℕ) (ts : List Token) :
    Treads b (.before depth) depth power ts (expression b room power ts) := by
  induction room generalizing depth power ts with
  | zero => exact .tooDeep rfl
  | succ room ih =>
    have hleft := operand_treads hlast ih depth ts
    rw [expression]
    generalize operand b _ ts = r at hleft ⊢
    rcases r with ⟨f | left, rest⟩
    · exact hleft.of_error
    · cases hleft with
      | ok left h hrun _ => exact (operators_treads ih depth power left rest).trans h hrun

/-! ## Limits above the number of tokens -/

/-- The tree and the tokens that are left make up `n` at the most, and no fault is about the limit. -/
inductive Shallow (b : Bounds) (n : ℕ) : Result Tree → Prop where
  | ok {tree : Tree} {rest : List Token} (h : tree.depth + rest.length ≤ n) : Shallow b n (.ok tree, rest)
  | error {f : Fault} {rest : List Token} (h : f.cause ≠ .tooDeep b.limit) : Shallow b n (.error f, rest)

/-- Closing a parenthesis adds nothing to the depth of the tree in it. -/
theorem closing_shallow {n : ℕ} {inner : Tree} {ts : List Token} (h : inner.depth + ts.length ≤ n) :
    Shallow b n (closing b inner ts) := by
  cases ts with
  | nil => exact .error (by simp)
  | cons t ts =>
    rw [List.length_cons] at h
    rw [closing]
    split
    · exact .ok (by omega)
    · exact .error (by simp)

section
variable {room : ℕ} {expr : ℕ → List Token → Result Tree}

/-- An operand is not deeper than there are tokens for it, so its faults are not about the limit. -/
theorem operand_shallow (hlimit : room < b.limit.toNat)
    (hexpr : ∀ power ts, ts.length < room → Shallow b ts.length (expr power ts)) {ts : List Token}
    (hts : ts.length ≤ room) : Shallow b ts.length (operand b expr ts) := by
  cases ts with
  | nil => exact .error (by simp)
  | cons t ts =>
    rw [List.length_cons] at hts ⊢
    cases starts t with
    | leaf n hleaf =>
      rw [operand_leaf hleaf]
      exact .ok (by simp only; omega)
    | unary hunary =>
      have hright := hexpr unaryPower ts hts
      rw [operand_unary hunary]
      generalize expr unaryPower ts = r at hright ⊢
      cases hright with
      | error h => exact .error h
      | @ok right rest h =>
        simp only [if_neg (show ¬ b.limit < (right.depth + 1 : ℕ) by omega)]
        exact .ok (by simp only; omega)
    | leftParen hparen =>
      have hinner := hexpr 0 ts hts
      rw [operand_leftParen hparen]
      generalize expr 0 ts = r at hinner ⊢
      cases hinner with
      | error h => exact .error h
      | ok h => exact closing_shallow (Nat.le_succ_of_le h)
    | none hleaf hunary hparen =>
      rw [operand_fault hleaf hunary hparen]
      refine .error ?_
      rw [noOperand]
      split <;> simp

/-- Every operator that makes the tree deeper uses up a token. -/
theorem operators_shallow (hlimit : room < b.limit.toNat)
    (hexpr : ∀ power ts, ts.length < room → Shallow b ts.length (expr power ts)) (power : ℕ) {n : ℕ}
    (hn : n ≤ room) (left : Tree) (ts : List Token) (hleft : left.depth + ts.length ≤ n) :
    Shallow b n (operators b expr power left ts) := by
  fun_induction operators b expr power left ts with
  | case1 | case2 | case3 => exact .ok hleft
  | case4 left t ts strength _ _ fault rest heq =>
    rw [List.length_cons] at hleft
    have hright := hexpr strength ts (by omega)
    rw [heq] at hright
    cases hright with
    | error h => exact .error h
  | case5 left t ts strength _ _ right rest heq depth hdeep =>
    rw [List.length_cons] at hleft
    have hright := hexpr strength ts (by omega)
    rw [heq] at hright
    cases hright with
    | ok h => exact absurd hdeep (by omega)
  | case6 left t ts strength _ _ right rest heq depth _ ih =>
    rw [List.length_cons] at hleft
    have hright := hexpr strength ts (by omega)
    rw [heq] at hright
    cases hright with
    | ok h => exact ih (by simp only; omega)

end

/-- With more room than there are tokens, no fault is about the limit. -/
theorem expression_shallow {room : ℕ} (hroom : room ≤ b.limit.toNat) (power : ℕ) {ts : List Token}
    (hts : ts.length < room) : Shallow b ts.length (expression b room power ts) := by
  induction room generalizing power ts with
  | zero => exact absurd hts (Nat.not_lt_zero _)
  | succ room ih =>
    have hexpr : ∀ power ts, ts.length < room → Shallow b ts.length (expression b room power ts) :=
      fun power ts => ih (Nat.le_of_succ_le hroom) power
    have hleft := operand_shallow hroom hexpr (Nat.le_of_lt_succ hts)
    rw [expression]
    generalize operand b _ ts = r at hleft ⊢
    cases hleft with
    | error h => exact .error h
    | ok h => exact operators_shallow hroom hexpr power (Nat.le_of_lt_succ hts) _ _ h

/-! ## Segments -/

/-- At most the last one of the tokens is a semicolon. -/
def Undivided (ts : List Token) : Prop := ∀ t ∈ ts.dropLast, t.kind ≠ .semicolon

theorem Undivided.of_append {ts us : List Token} (h : Undivided (ts ++ us)) : Undivided us := by
  intro t ht
  have hne : us ≠ [] := by
    rintro rfl
    simp at ht
  refine h t ?_
  rw [List.dropLast_append_of_ne_nil hne]
  exact List.mem_append_right ts ht

/-- Nothing stands behind a semicolon. -/
theorem Undivided.eq_nil {t : Token} {ts : List Token} (h : Undivided (t :: ts))
    (ht : t.kind = .semicolon) : ts = [] := by
  by_contra hne
  refine h t ?_ ht
  rw [List.dropLast_cons_of_ne_nil hne]
  exact List.mem_cons_self

/-- Behind a fault no other statement follows if there is no semicolon before the end. -/
theorem resume_of_undivided {ts : List Token} (h : Undivided ts) : resume ts = [] := by
  induction ts with
  | nil => rfl
  | cons t ts ih =>
    by_cases ht : t.kind = .semicolon
    · rw [resume_cons_of_eq ht, h.eq_nil ht]
    · rw [resume_cons_of_ne ht]
      exact ih (Undivided.of_append (show Undivided ([t] ++ ts) from h))

/-- A statement may begin at `s`, and what cannot begin one is no way to go on with `ts` either. -/
def Ready (s : Place) (ts : List Token) : Prop :=
  s.IsComplete ∧ ∀ t ∈ ts.head?, Place.enter 0 t = none → s.step t = none

theorem ready_start (ts : List Token) : Ready .start ts := ⟨.inl rfl, fun _ _ h => h⟩

/-- Behind an operand a token that cuts begins a statement or nothing. -/
theorem ready_behind {t : Token} {ts : List Token} (hcut : Cuts (t :: ts)) (ht : t.kind ≠ .semicolon) :
    Ready (.behind 0) (t :: ts) := by
  refine ⟨.inr rfl, fun u hu henter => ?_⟩
  rw [List.head?_cons, Option.mem_def] at hu
  obtain rfl := Option.some.inj hu
  exact Place.step_eq_none_of_enter (.inr rfl) henter (bindingPower?_of_cuts hcut) ht

/-- What the faults of a segment say about the way through its tokens. -/
inductive Judged (b : Bounds) (s : Place) (ts : List Token) : List Fault → Prop where
  | accepted {s' : Place} (hrun : s.run ts = some s') (hcomplete : s'.IsComplete) : Judged b s ts []
  | wrong {f : Fault} {before rest : List Token} {s' : Place} (h : before ++ f.token :: rest = ts)
      (hrun : s.run before = some s') (hstuck : s'.step f.token = none) : Judged b s ts [f]
  | unfinished {f : Fault} {s' : Place} (htoken : f.token = b.last) (hrun : s.run ts = some s')
      (hinside : ¬ s'.IsComplete) : Judged b s ts [f]

/-- The faults say of a way what they say of the rest of it. -/
theorem Judged.trans {s s' : Place} {taken rest : List Token} {faults : List Fault}
    (hrun : s.run taken = some s') (h : Judged b s' rest faults) : Judged b s (taken ++ rest) faults := by
  cases h with
  | accepted hrun' hcomplete =>
    exact .accepted (by rw [Place.run_append_of_run hrun, hrun']) hcomplete
  | wrong h hrun' hstuck =>
    subst h
    exact .wrong (List.append_assoc ..) (by rw [Place.run_append_of_run hrun, hrun']) hstuck
  | unfinished htoken hrun' hinside =>
    exact .unfinished htoken (by rw [Place.run_append_of_run hrun, hrun']) hinside

/-- A fault of a statement at the beginning of a segment is one of the segment. -/
theorem judged_of_statement_error (hlast : b.last.kind = .eof) {s : Place} {ts rest : List Token}
    {f : Fault} (hready : Ready s ts) (hlimit : ts.length < b.limit.toNat) (hne : ts ≠ [])
    (hread : statement b ts = (.error f, rest)) : Judged b s ts [f] := by
  have htreads := expression_treads hlast b.limit.toNat 0 0 ts
  have hshallow := expression_shallow (Nat.le_refl _) 0 hlimit
  rw [statement] at hread
  generalize expression b b.limit.toNat 0 ts = r at htreads hshallow hread
  cases htreads with
  | ok tree => simp at hread
  | tooDeep hcause =>
    cases hshallow with
    | error hnot => exact absurd hcause hnot
  | @stuck f' taken rest' s' htaken hrun hinside htoken hstuck =>
    obtain ⟨rfl, rfl⟩ : f' = f ∧ rest' = rest := by simpa using hread
    subst htaken
    cases taken with
    | nil =>
      -- the token that begins no operand is the first one
      obtain ⟨t, ts, rfl⟩ := List.exists_cons_of_ne_nil hne
      obtain rfl := Option.some.inj hrun
      obtain rfl : f'.token = t := htoken
      exact .wrong rfl rfl (hready.2 _ rfl hstuck)
    | cons t taken =>
      have hrun' := Place.run_of_run_before hready.1 hrun
      cases rest' with
      | nil => exact .unfinished htoken (by rwa [List.append_nil]) hinside
      | cons u rest =>
        obtain rfl : f'.token = u := htoken
        exact .wrong rfl hrun' hstuck

/-- Whatever the way through the tokens of a segment says about them is what the reader says. -/
theorem judged_statements (hlast : b.last.kind = .eof) {s : Place} {ts : List Token}
    (hready : Ready s ts) (hts : Undivided ts) (hlimit : ts.length < b.limit.toNat) :
    Judged b s ts (statements b ts).2 := by
  induction ts using statements_induction (b := b) generalizing s with
  | nil =>
    rw [statements_nil]
    exact .accepted rfl hready.1
  | error ts f rest hne hread =>
    obtain ⟨taken, htaken, -⟩ := takes_of_statement_error hread
    have hrest : Undivided rest := Undivided.of_append (htaken.symm ▸ hts)
    rw [statements_of_error hne hread, resume_of_undivided hrest, statements_nil]
    exact judged_of_statement_error hlast hready hlimit hne hread
  | ok ts n rest hread ih =>
    obtain ⟨d, us, rfl, -, -, hcut, rfl⟩ := exists_derivation_of_statement hread
    rw [statements_of_ok hread]
    refine Judged.trans (Place.run_expression hready.1 d) ?_
    have hus := hts.of_append
    rw [List.length_append] at hlimit
    cases us with
    | nil =>
      rw [skipSemicolon, statements_nil]
      exact .accepted rfl (.inr rfl)
    | cons t us =>
      by_cases ht : t.kind = .semicolon
      · obtain rfl := hus.eq_nil ht
        rw [skipSemicolon, if_pos ht, statements_nil]
        exact .accepted (Place.run_of_step (Place.step_semicolon ht) []) (.inl rfl)
      · rw [skipSemicolon, if_neg ht] at ih ⊢
        exact ih (ready_behind hcut ht) hus (by omega)

/-! ## Programs by the reader -/

theorem undivided_of_forall {ts : List Token} (h : ∀ t ∈ ts, t.kind ≠ .semicolon) : Undivided ts :=
  fun t ht => h t ((List.dropLast_sublist ts).mem ht)

/-- Tokens through which there is a way to where the text may end are a program. -/
theorem exists_derives_of_run_complete {ts : List Token} (hts : Undivided ts) {s : Place}
    (hrun : Place.start.run ts = some s) (hcomplete : s.IsComplete) : ∃ ds, Derives ts ds := by
  -- read under a limit that makes no difference
  let b : Bounds := ⟨ts.length + 1, .endOfText 0⟩
  have hlimit : ts.length < b.limit.toNat := Nat.lt_succ_self _
  have hjudged := judged_statements (b := b) rfl (ready_start ts) hts hlimit
  have hnil : (statements b ts).2 = [] := by
    generalize (statements b ts).2 = faults at hjudged
    cases hjudged with
    | accepted => rfl
    | wrong h hrun' hstuck =>
      rw [← h, Place.run_append_of_run hrun', Place.run_cons, hstuck] at hrun
      simp at hrun
    | unfinished _ hrun' hinside =>
      obtain rfl := Option.some.inj (hrun'.symm.trans hrun)
      exact absurd hcomplete hinside
  obtain ⟨ds, hds, -⟩ := exists_derivesGreedily_of_statements hnil
  exact ⟨ds, hds.mono fun _ _ => trivial⟩

/-- Tokens through which there is a way can become a program. -/
theorem exists_derives_of_run {ts : List Token} (hts : ∀ t ∈ ts, t.kind ≠ .semicolon) {s : Place}
    (hrun : Place.start.run ts = some s) : ∃ us ds, Derives (ts ++ us) ds := by
  obtain ⟨s', hclosers, hcomplete⟩ := s.run_closers
  have hall : ∀ t ∈ ts ++ s.closers, t.kind ≠ .semicolon :=
    List.forall_mem_append.mpr ⟨hts, s.ne_semicolon_of_mem_closers⟩
  exact ⟨s.closers, exists_derives_of_run_complete (undivided_of_forall hall)
    ((Place.run_append_of_run hrun _).trans hclosers) hcomplete⟩

end Parser

end RasterAlgebra
