import Mathlib.Data.List.Basic
import RasterAlgebra.Proofs.Formula.Programs

/-!
# What the reader of formulas takes

* `expression_takes`: an expression takes tokens from the front of those it is given, never a semicolon,
  and a fault is at a token that was taken or at the one behind them.
* `sublist_tokens_faults`: the tokens of the faults stand in the text in the order of the faults.
-/

namespace RasterAlgebra

open Grammar

namespace Parser

variable {b : Bounds} {α : Type}

/-! ## Tokens that are taken -/

/-- Tokens of these kinds end an expression wherever they stand. -/
def outside : List Token.Kind := [.semicolon, .illegal, .eof]

/-- What is left of `ts` are the tokens behind some that belong to expressions, and a fault is at one of
these or at the token behind them. -/
def Takes (b : Bounds) (ts : List Token) (r : Result α) : Prop :=
  ∃ taken, taken ++ r.2 = ts ∧ (∀ t ∈ taken, t.kind ∉ outside) ∧
    ∀ f, r.1 = .error f → f.token ∈ taken ∨ f.token = b.peek r.2

theorem takes_ok (a : α) (ts : List Token) : Takes b ts (.ok a, ts) := by
  refine ⟨[], rfl, by simp, ?_⟩
  intro f hf
  simp at hf

theorem takes_error {f : Fault} {ts : List Token} (h : f.token = b.peek ts) :
    Takes b ts ((.error f, ts) : Result α) := by
  refine ⟨[], rfl, by simp, ?_⟩
  intro g hg
  obtain rfl := Except.error.inj hg
  exact .inr h

/-- A result with the tokens left by another one. -/
theorem Takes.of_error {ts rest : List Token} {f : Fault} {r : Result α}
    (h : Takes b ts r) (hf : r = (.error f, rest)) {β : Type} :
    Takes b ts ((.error f, rest) : Result β) := by
  subst hf
  obtain ⟨taken, htaken, houtside, hfault⟩ := h
  refine ⟨taken, htaken, houtside, fun g hg => ?_⟩
  exact hfault g (by rw [Except.error.inj hg])

/-- A token that may stand inside of an expression is taken. -/
theorem Takes.cons {t : Token} {ts : List Token} {r : Result α} (ht : t.kind ∉ outside)
    (h : Takes b ts r) : Takes b (t :: ts) r := by
  obtain ⟨taken, rfl, houtside, hfault⟩ := h
  refine ⟨t :: taken, rfl, ?_, fun f hf => (hfault f hf).imp_left (List.mem_cons_of_mem t)⟩
  intro u hu
  rcases List.mem_cons.mp hu with rfl | hu
  · exact ht
  · exact houtside u hu

/-- What is read one behind the other takes tokens from the front. -/
theorem Takes.trans {β : Type} {ts rest : List Token} {a : β} {r : Result α}
    (h : Takes b ts ((.ok a, rest) : Result β)) (hr : Takes b rest r) : Takes b ts r := by
  obtain ⟨taken, rfl, houtside, -⟩ := h
  obtain ⟨taken', rfl, houtside', hfault⟩ := hr
  refine ⟨taken ++ taken', List.append_assoc .., ?_, ?_⟩
  · intro t ht
    rcases List.mem_append.mp ht with ht | ht
    · exact houtside t ht
    · exact houtside' t ht
  · intro f hf
    exact (hfault f hf).imp_left (List.mem_append_right taken)

/-- An operator that was taken, and at which the tree became too deep. -/
theorem Takes.tooDeep {β : Type} {t : Token} {ts rest : List Token} {a : β}
    (ht : t.kind ∉ outside) (h : Takes b ts ((.ok a, rest) : Result β)) :
    Takes b (t :: ts) ((.error (b.tooDeep t), rest) : Result α) := by
  obtain ⟨taken, htaken, houtside, -⟩ := h.cons ht
  obtain ⟨taken', rfl, -⟩ := h
  refine ⟨t :: taken', rfl, ?_, ?_⟩
  · obtain rfl : taken = t :: taken' := List.append_cancel_right htaken
    exact houtside
  · intro f hf
    obtain rfl := Except.error.inj hf
    exact .inl List.mem_cons_self

/-- Closing a parenthesis takes it, or nothing. -/
theorem closing_takes (inner : Tree) (ts : List Token) : Takes b ts (closing b inner ts) := by
  unfold closing
  split
  · exact takes_error rfl
  · rename_i t rest
    split
    · rename_i hkind
      exact (takes_ok inner rest).cons (by rw [hkind]; decide)
    · exact takes_error rfl

/-- A leaf may stand inside of an expression. -/
theorem not_outside_of_leaf? {t : Token} {n : Node} (h : t.leaf? = some n) : t.kind ∉ outside := by
  unfold Token.leaf? at h
  split at h <;> rename_i hkind <;> first | (rw [hkind]; decide) | simp at h

/-- So may a sign. -/
theorem not_outside_of_unary {t : Token} (h : t.kind ∈ unaryOperators) : t.kind ∉ outside := by
  simp only [unaryOperators, List.mem_cons, List.not_mem_nil, or_false] at h
  rcases h with h | h <;> rw [h] <;> decide

/-- So may an operator between operands. -/
theorem not_outside_of_bindingPower? {t : Token} {strength : ℕ}
    (h : t.kind.bindingPower? = some strength) : t.kind ∉ outside := by
  obtain ⟨tier, hmem, -⟩ := exists_tier_of_bindingPower? h
  intro houtside
  simp only [outside, List.mem_cons, List.not_mem_nil, or_false] at houtside
  rcases houtside with hkind | hkind | hkind <;> rw [hkind] at h <;> simp [Token.Kind.bindingPower?] at h

theorem ne_semicolon_of_not_outside {t : Token} (h : t.kind ∉ outside) : t.kind ≠ .semicolon := by
  intro hkind
  exact h (hkind ▸ List.mem_cons_self)

/-- All tokens of a derivation belong to expressions. -/
theorem not_outside_of_mem_tokens {p : Phrase} (d : Derivation p) :
    ∀ t ∈ d.tokens, t.kind ∉ outside := by
  induction d with
  | leaf t n hleaf =>
    intro u hu
    rw [List.mem_singleton.mp hu]
    exact not_outside_of_leaf? hleaf
  | group opening inner closing hopening hclosing ih =>
    intro u hu
    simp only [Derivation.tokens, List.mem_cons, List.mem_append, List.not_mem_nil, or_false] at hu
    rcases hu with rfl | hu | rfl
    · rw [hopening]
      decide
    · exact ih u hu
    · rw [hclosing]
      decide
  | atom inner ih => exact ih
  | unary op right hop ih =>
    intro u hu
    rcases List.mem_cons.mp hu with rfl | hu
    · exact not_outside_of_unary hop
    · exact ih u hu
  | tighter inner ih => exact ih
  | binary left op right hop ihl ihr =>
    intro u hu
    simp only [Derivation.tokens, List.mem_append, List.mem_cons] at hu
    rcases hu with hu | rfl | hu
    · exact ihl u hu
    · exact not_outside_of_bindingPower? (bindingPower?_of_mem hop)
    · exact ihr u hu

section
variable {expr : ℕ → List Token → Result Tree}

/-- An operand takes its tokens from the front. -/
theorem operand_takes (hexpr : ∀ power ts, Takes b ts (expr power ts)) (ts : List Token) :
    Takes b ts (operand b expr ts) := by
  cases ts with
  | nil => exact takes_error rfl
  | cons t ts =>
    cases starts t with
    | leaf n hleaf =>
      rw [operand_leaf hleaf]
      exact (takes_ok _ ts).cons (not_outside_of_leaf? hleaf)
    | unary hunary =>
      have h := hexpr unaryPower ts
      have ht := not_outside_of_unary hunary
      rw [operand_unary hunary]
      split
      · rename_i heq
        exact (h.of_error heq).cons ht
      · rename_i heq
        rw [heq] at h
        split
        · exact h.tooDeep ht
        · exact (h.trans (takes_ok _ _)).cons ht
    | leftParen hparen =>
      have h := hexpr 0 ts
      have ht : t.kind ∉ outside := by
        rw [hparen]
        decide
      rw [operand_leftParen hparen]
      split
      · rename_i heq
        exact (h.of_error heq).cons ht
      · rename_i inner rest heq
        rw [heq] at h
        exact (h.trans (closing_takes inner rest)).cons ht
    | none hleaf hunary hparen =>
      rw [operand_fault hleaf hunary hparen]
      exact takes_error rfl

/-- So do the operators behind it. -/
theorem operators_takes (hexpr : ∀ power ts, Takes b ts (expr power ts)) (power : ℕ) (left : Tree)
    (ts : List Token) : Takes b ts (operators b expr power left ts) := by
  fun_induction operators b expr power left ts with
  | case1 left => exact takes_ok left []
  | case2 left t ts => exact takes_ok left (t :: ts)
  | case3 left t ts => exact takes_ok left (t :: ts)
  | case4 left t ts strength hs _ fault rest heq =>
    exact ((hexpr strength ts).of_error heq).cons (not_outside_of_bindingPower? hs)
  | case5 left t ts strength hs _ right rest heq =>
    have h := hexpr strength ts
    rw [heq] at h
    exact h.tooDeep (not_outside_of_bindingPower? hs)
  | case6 left t ts strength hs _ right rest heq depth _ =>
    rename_i ih
    have h := hexpr strength ts
    rw [heq] at h
    exact (h.trans ih).cons (not_outside_of_bindingPower? hs)

end

/-- An expression takes tokens of expressions only, and a fault is at one of them or right behind. -/
theorem expression_takes (b : Bounds) (room power : ℕ) (ts : List Token) :
    Takes b ts (expression b room power ts) := by
  induction room generalizing power ts with
  | zero => exact takes_error rfl
  | succ room ih =>
    have h := operand_takes ih ts
    rw [expression]
    split
    · rename_i heq
      exact h.of_error heq
    · rename_i left rest heq
      rw [heq] at h
      exact h.trans (operators_takes ih power left rest)

/-- A statement with a fault has taken tokens of expressions only. -/
theorem takes_of_statement_error {ts rest : List Token} {f : Fault}
    (h : statement b ts = (.error f, rest)) : Takes b ts ((.error f, rest) : Result Node) := by
  have htakes := expression_takes b b.limit.toNat 0 ts
  rw [statement] at h
  split at h
  · rename_i heq
    obtain ⟨rfl, rfl⟩ : f = _ ∧ rest = _ := by simpa using h.symm
    exact htakes.of_error heq
  · simp at h

/-! ## Where faults stand -/

theorem resume_cons_of_eq {t : Token} (h : t.kind = .semicolon) (ts : List Token) :
    resume (t :: ts) = ts := by
  simp [resume, skipSemicolon, h]

theorem resume_cons_of_ne {t : Token} (h : t.kind ≠ .semicolon) (ts : List Token) :
    resume (t :: ts) = resume ts := by
  simp [resume, h]

/-- Reading is resumed behind the next semicolon, wherever it stopped in front of it. -/
theorem resume_append {taken : List Token} (htaken : ∀ t ∈ taken, t.kind ≠ .semicolon)
    (rest : List Token) : resume (taken ++ rest) = resume rest := by
  induction taken with
  | nil => rfl
  | cons t taken ih =>
    rw [List.cons_append, resume_cons_of_ne (htaken t List.mem_cons_self)]
    exact ih fun u hu => htaken u (List.mem_cons_of_mem t hu)

/-- What is left behind a fault is the end of the tokens. -/
theorem resume_suffix (ts : List Token) : resume ts <:+ ts :=
  (skipSemicolon_suffix _).trans (List.dropWhile_suffix _)

/-- Reading goes on behind the token of a fault, unless that is the end of the text. -/
theorem sublist_of_statement_error {ts rest : List Token} {f : Fault}
    (h : statement b ts = (.error f, rest)) :
    (f.token :: resume rest).Sublist ts ∨ f.token = b.last ∧ resume rest = [] := by
  obtain ⟨taken, rfl, -, hfault⟩ := takes_of_statement_error h
  -- a token that was taken lies in front of all that is left
  rcases hfault f rfl with htaken | hpeek
  · have hall := (List.singleton_sublist.mpr htaken).append (resume_suffix rest).sublist
    exact .inl hall
  · cases rest with
    | nil => exact .inr ⟨hpeek, rfl⟩
    | cons t rest =>
      obtain hpeek : f.token = t := hpeek
      -- the token behind those that were taken is skipped, whether or not it is a semicolon
      have hresume : (resume (t :: rest)).Sublist rest := by
        by_cases hsemicolon : t.kind = .semicolon
        · rw [resume_cons_of_eq hsemicolon]
        · rw [resume_cons_of_ne hsemicolon]
          exact (resume_suffix rest).sublist
      rw [hpeek]
      exact .inl ((hresume.cons_cons t).trans (List.sublist_append_right taken _))

/-- The tokens of the faults stand in the text in the order of the faults; the last one may be the token
that ends the text. -/
theorem sublist_tokens_faults (b : Bounds) (ts : List Token) :
    ((statements b ts).2.map Fault.token).Sublist (ts ++ [b.last]) := by
  induction ts using statements_induction (b := b) with
  | nil =>
    rw [statements_nil]
    exact List.nil_sublist _
  | ok ts n rest hread ih =>
    have htail := (statement_tail b ts).1
    rw [hread] at htail
    rw [statements_of_ok hread]
    exact ih.trans (htail.sublist.append_right [b.last])
  | error ts f rest hne hread ih =>
    rw [statements_of_error hne hread, List.map_cons]
    rcases sublist_of_statement_error hread with h | ⟨hlast, hresume⟩
    · exact (ih.cons_cons f.token).trans (h.append_right [b.last])
    · rw [hresume, statements_nil, hlast]
      exact List.sublist_append_right ts _

end Parser

end RasterAlgebra
