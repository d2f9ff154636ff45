import Mathlib.Data.List.Forall2
import RasterAlgebra.Proofs.Formula.Consumption

/-!
# What the reader of formulas looks at

Of a token the reader looks at kind and text only, and no statement in front of a semicolon depends on
what stands behind it. So the statements of tokens that stand for others, with further tokens behind a
semicolon, are those of the others, and then those of the further ones (`Copy.statements_eq`).

A `Copy` says how tokens stand for others. Between statements the tokens that are left are related by
`Copy.Extends`, and within a statement by `Copy.Shields`, which asks for a semicolon in front of the
further tokens.
-/

namespace RasterAlgebra

open Grammar

namespace Parser

/-! ## Tokens that stand for others -/

/-- Empty, or with a semicolon at the end. -/
def Closed (ts : List Token) : Prop := ∀ t ∈ ts.getLast?, t.kind = .semicolon

/-- The end of closed tokens is closed. -/
theorem Closed.suffix {ts us : List Token} (h : Closed ts) (hsuffix : us <:+ ts) : Closed us := by
  obtain ⟨pre, rfl⟩ := hsuffix
  intro t ht
  refine h t ?_
  rw [Option.mem_def] at ht ⊢
  rw [List.getLast?_append, ht]
  rfl

/-- A closed list goes on behind every token that is no semicolon. -/
theorem Closed.ne_nil {t : Token} {ts : List Token} (h : Closed (t :: ts))
    (ht : t.kind ≠ .semicolon) : ts ≠ [] := by
  rintro rfl
  exact ht (h t rfl)

/-- How the tokens of one text stand for those of another: under the same limit, with the same kinds and
texts, and with the tokens `behind` at the end. -/
structure Copy where
  source : Bounds
  target : Bounds
  token : Token → Token → Prop
  behind : List Token
  limit_eq : target.limit = source.limit
  kind_eq : ∀ {t u}, token t u → u.kind = t.kind
  text_eq : ∀ {t u}, token t u → u.text = t.text

namespace Copy

variable (m : Copy)

/-- The texts end with the same token. -/
def EndsAlike : Prop := m.behind = [] ∧ m.token m.source.last m.target.last

/-- The tokens `us` stand for `ts`, and what is behind them comes after a semicolon. -/
def Extends (ts us : List Token) : Prop :=
  ∃ front, List.Forall₂ m.token ts front ∧ us = front ++ m.behind ∧ (m.EndsAlike ∨ Closed ts)

/-- Within a statement, there is a semicolon in front of what is behind. -/
def Shields (ts us : List Token) : Prop := m.Extends ts us ∧ (m.EndsAlike ∨ ts ≠ [])

/-- Faults that differ in nothing but the place of their token. -/
def SameFault (f g : Fault) : Prop := g.cause = f.cause ∧ m.token f.token g.token

/-- What was read is the same, and what is left stands for what is left. -/
inductive Same {α : Type} : Result α → Result α → Prop where
  | ok (a : α) {ts us : List Token} (h : m.Shields ts us) : Same (.ok a, ts) (.ok a, us)
  | error {f g : Fault} {ts us : List Token} (hfault : m.SameFault f g) (h : m.Shields ts us) :
      Same (.error f, ts) (.error g, us)

variable {m}

theorem shields_nil {us : List Token} (h : m.Shields [] us) :
    us = [] ∧ m.token m.source.last m.target.last := by
  obtain ⟨⟨front, hfront, rfl, -⟩, hend⟩ := h
  -- there is no semicolon left that could shield anything
  obtain ⟨hbehind, hlast⟩ := hend.resolve_right (by simp)
  obtain rfl := List.forall₂_nil_left_iff.mp hfront
  exact ⟨by rw [hbehind]; rfl, hlast⟩

/-- The first token of one list stands for the first token of the other. -/
theorem Extends.cons {t : Token} {ts us : List Token} (h : m.Extends (t :: ts) us) :
    ∃ u vs, us = u :: vs ∧ m.token t u ∧ m.Extends ts vs := by
  obtain ⟨front, hfront, rfl, hend⟩ := h
  obtain ⟨u, front', htoken, hfront', rfl⟩ := List.forall₂_cons_left_iff.mp hfront
  refine ⟨u, front' ++ m.behind, rfl, htoken, front', hfront', rfl, ?_⟩
  exact hend.imp_right fun h => h.suffix (List.suffix_cons t ts)

/-- Behind a token that is no semicolon the rest of the statement is shielded as well. -/
theorem Shields.cons {t : Token} {ts us : List Token} (h : m.Shields (t :: ts) us) :
    ∃ u vs, us = u :: vs ∧ m.token t u ∧ m.Extends ts vs ∧
      (t.kind ≠ .semicolon → m.Shields ts vs) := by
  obtain ⟨u, vs, rfl, htoken, hextends⟩ := h.1.cons
  refine ⟨u, vs, rfl, htoken, hextends, fun hkind => ⟨hextends, ?_⟩⟩
  obtain ⟨front, -, -, hend⟩ := h.1
  exact hend.imp_right fun hclosed => hclosed.ne_nil hkind

/-- A parenthesis is closed in the same way. -/
theorem closing_same (inner : Tree) {ts us : List Token} (h : m.Shields ts us) :
    m.Same (closing m.source inner ts) (closing m.target inner us) := by
  cases ts with
  | nil =>
    obtain ⟨rfl, hlast⟩ := shields_nil h
    exact .error ⟨rfl, hlast⟩ h
  | cons t ts =>
    obtain ⟨u, vs, rfl, htoken, -, hrest⟩ := h.cons
    by_cases hkind : t.kind = .rightParen
    · rw [closing, closing, if_pos hkind, if_pos (m.kind_eq htoken ▸ hkind)]
      exact .ok inner (hrest (by rw [hkind]; decide))
    · rw [closing, closing, if_neg hkind, if_neg (m.kind_eq htoken ▸ hkind)]
      exact .error ⟨rfl, htoken⟩ h

theorem leaf?_eq {t u : Token} (h : m.token t u) : u.leaf? = t.leaf? := by
  rw [Token.leaf?, Token.leaf?, m.kind_eq h, m.text_eq h]

theorem noOperand_eq {t u : Token} (h : m.token t u) : noOperand u = noOperand t := by
  rw [noOperand, noOperand, m.kind_eq h, m.text_eq h]

/-- The limit is reached at tokens that stand for each other. -/
theorem tooDeep_same {t u : Token} (h : m.token t u) :
    m.SameFault (m.source.tooDeep t) (m.target.tooDeep u) := by
  refine ⟨?_, h⟩
  rw [Bounds.tooDeep, Bounds.tooDeep, m.limit_eq]

section
variable {expr expr' : ℕ → List Token → Result Tree}

/-- An operand is read in the same way, if the expressions in it are. -/
theorem operand_same
    (hexpr : ∀ power ts us, m.Shields ts us → m.Same (expr power ts) (expr' power us))
    {ts us : List Token} (h : m.Shields ts us) :
    m.Same (operand m.source expr ts) (operand m.target expr' us) := by
  cases ts with
  | nil =>
    obtain ⟨rfl, hlast⟩ := shields_nil h
    exact .error ⟨rfl, hlast⟩ h
  | cons t ts =>
    obtain ⟨u, vs, rfl, htoken, -, hrest⟩ := h.cons
    have hkind := m.kind_eq htoken
    have hleaf' := leaf?_eq htoken
    cases starts t with
    | leaf n hleaf =>
      rw [operand_leaf hleaf, operand_leaf (hleaf'.trans hleaf)]
      exact .ok _ (hrest (ne_semicolon_of_not_outside (not_outside_of_leaf? hleaf)))
    | unary hunary =>
      have hbehind := hrest (ne_semicolon_of_not_outside (not_outside_of_unary hunary))
      have hright := hexpr unaryPower ts vs hbehind
      rw [operand_unary hunary, operand_unary (hkind ▸ hunary), m.limit_eq, m.text_eq htoken]
      generalize expr unaryPower ts = r at hright ⊢
      generalize expr' unaryPower vs = r' at hright ⊢
      cases hright with
      | error hfault h => exact .error hfault h
      | ok right h =>
        simp only
        split
        · exact .error (tooDeep_same htoken) h
        · exact .ok _ h
    | leftParen hparen =>
      have hbehind := hrest (by rw [hparen]; decide)
      have hinner := hexpr 0 ts vs hbehind
      rw [operand_leftParen hparen, operand_leftParen (hkind ▸ hparen)]
      generalize expr 0 ts = r at hinner ⊢
      generalize expr' 0 vs = r' at hinner ⊢
      cases hinner with
      | error hfault h => exact .error hfault h
      | ok inner h => exact closing_same inner h
    | none hleaf hunary hparen =>
      rw [operand_fault hleaf hunary hparen,
        operand_fault (hleaf'.trans hleaf) (hkind ▸ hunary) (hkind ▸ hparen), noOperand_eq htoken]
      exact .error ⟨rfl, htoken⟩ h

/-- So are the operators behind it. -/
theorem operators_same
    (hexpr : ∀ power ts us, m.Shields ts us → m.Same (expr power ts) (expr' power us))
    (power : ℕ) (left : Tree) (ts : List Token) {us : List Token} (h : m.Shields ts us) :
    m.Same (operators m.source expr power left ts) (operators m.target expr' power left us) := by
  fun_induction operators m.source expr power left ts generalizing us with
  | case1 left =>
    obtain ⟨rfl, -⟩ := shields_nil h
    rw [operators_of_stops (stops_nil power)]
    exact .ok left h
  | case2 left t ts hs =>
    obtain ⟨u, vs, rfl, htoken, -⟩ := h.cons
    rw [operators_of_stops (stops_cons_of_none (m.kind_eq htoken ▸ hs) power vs)]
    exact .ok left h
  | case3 left t ts strength hs hle =>
    obtain ⟨u, vs, rfl, htoken, -⟩ := h.cons
    rw [operators_of_stops (stops_cons_of_le (m.kind_eq htoken ▸ hs) hle vs)]
    exact .ok left h
  | case4 left t ts strength hs hlt fault rest heq =>
    obtain ⟨u, vs, rfl, htoken, -, hrest⟩ := h.cons
    have hkind := ne_semicolon_of_not_outside (not_outside_of_bindingPower? hs)
    have hright := hexpr strength ts vs (hrest hkind)
    rw [operators_cons (m.kind_eq htoken ▸ hs) (Nat.lt_of_not_le hlt)]
    rw [heq] at hright
    generalize expr' strength vs = r' at hright ⊢
    cases hright with
    | error hfault h => exact .error hfault h
  | case5 left t ts strength hs hlt right rest heq depth =>
    rename_i hdeep
    obtain ⟨u, vs, rfl, htoken, -, hrest⟩ := h.cons
    have hkind := ne_semicolon_of_not_outside (not_outside_of_bindingPower? hs)
    have hright := hexpr strength ts vs (hrest hkind)
    rw [operators_cons (m.kind_eq htoken ▸ hs) (Nat.lt_of_not_le hlt), m.limit_eq]
    rw [heq] at hright
    generalize expr' strength vs = r' at hright ⊢
    cases hright with
    | ok right h =>
      simp only
      rw [if_pos hdeep]
      exact .error (tooDeep_same htoken) h
  | case6 left t ts strength hs hlt right rest heq depth hdeep =>
    rename_i ih
    obtain ⟨u, vs, rfl, htoken, -, hrest⟩ := h.cons
    have hkind := ne_semicolon_of_not_outside (not_outside_of_bindingPower? hs)
    have hright := hexpr strength ts vs (hrest hkind)
    rw [operators_cons (m.kind_eq htoken ▸ hs) (Nat.lt_of_not_le hlt), m.limit_eq,
      m.text_eq htoken]
    rw [heq] at hright
    generalize expr' strength vs = r' at hright ⊢
    cases hright with
    | ok right h =>
      simp only
      rw [if_neg hdeep]
      exact ih h

end

/-- Expressions are read alike. -/
theorem expression_same (room power : ℕ) {ts us : List Token} (h : m.Shields ts us) :
    m.Same (expression m.source room power ts) (expression m.target room power us) := by
  induction room generalizing power ts us with
  | zero =>
    refine .error ⟨?_, ?_⟩ h
    · rw [Bounds.tooDeep, Bounds.tooDeep, m.limit_eq]
    · cases ts with
      | nil =>
        obtain ⟨rfl, hlast⟩ := shields_nil h
        exact hlast
      | cons t ts =>
        obtain ⟨u, vs, rfl, htoken, -⟩ := h.cons
        exact htoken
  | succ room ih =>
    have hleft := operand_same (fun power ts us => ih power) h
    rw [expression, expression]
    generalize operand m.source _ ts = r at hleft ⊢
    generalize operand m.target _ us = r' at hleft ⊢
    cases hleft with
    | error hfault h => exact .error hfault h
    | ok left h => exact operators_same (fun power ts us => ih power) power left _ h

/-! ## Statements of tokens that stand for others -/

/-- Behind a statement a semicolon is skipped on both sides. -/
theorem Shields.skipSemicolon {ts us : List Token} (h : m.Shields ts us) :
    m.Extends (skipSemicolon ts) (skipSemicolon us) := by
  cases ts with
  | nil =>
    obtain ⟨rfl, -⟩ := shields_nil h
    exact h.1
  | cons t ts =>
    obtain ⟨u, vs, rfl, htoken, hextends, -⟩ := h.cons
    by_cases hkind : t.kind = .semicolon
    · rw [Parser.skipSemicolon, Parser.skipSemicolon, if_pos hkind,
        if_pos (m.kind_eq htoken ▸ hkind)]
      exact hextends
    · rw [Parser.skipSemicolon, Parser.skipSemicolon, if_neg hkind,
        if_neg (m.kind_eq htoken ▸ hkind)]
      exact h.1

/-- Behind a fault reading is resumed at the same place. -/
theorem Shields.resume {ts us : List Token} (h : m.Shields ts us) :
    m.Extends (resume ts) (resume us) := by
  induction ts generalizing us with
  | nil =>
    obtain ⟨rfl, -⟩ := shields_nil h
    exact h.1
  | cons t ts ih =>
    obtain ⟨u, vs, rfl, htoken, hextends, hrest⟩ := h.cons
    by_cases hkind : t.kind = .semicolon
    · rw [resume_cons_of_eq hkind, resume_cons_of_eq (m.kind_eq htoken ▸ hkind)]
      exact hextends
    · rw [resume_cons_of_ne hkind, resume_cons_of_ne (m.kind_eq htoken ▸ hkind)]
      exact ih (hrest hkind)

theorem Extends.shields {ts us : List Token} (h : m.Extends ts us) (hne : ts ≠ []) :
    m.Shields ts us := ⟨h, .inr hne⟩

/-- A statement is read in the same way. -/
theorem statement_ok {ts us rest : List Token} {n : Node} (h : m.Shields ts us)
    (hread : statement m.source ts = (.ok n, rest)) :
    ∃ rest', statement m.target us = (.ok n, rest') ∧ m.Extends rest rest' := by
  have hsame := expression_same m.source.limit.toNat 0 h
  rw [statement] at hread ⊢
  rw [m.limit_eq]
  generalize expression m.source _ 0 ts = r at hsame hread
  generalize expression m.target _ 0 us = r' at hsame ⊢
  cases hsame with
  | error => simp at hread
  | ok tree h =>
    obtain ⟨rfl, rfl⟩ : Node.statement tree.node = n ∧ _ = rest := by simpa using hread
    exact ⟨_, rfl, h.skipSemicolon⟩

/-- A statement with a fault has the same fault. -/
theorem statement_error {ts us rest : List Token} {f : Fault} (h : m.Shields ts us)
    (hread : statement m.source ts = (.error f, rest)) :
    ∃ g rest', statement m.target us = (.error g, rest') ∧ m.SameFault f g ∧
      m.Shields rest rest' := by
  have hsame := expression_same m.source.limit.toNat 0 h
  rw [statement] at hread ⊢
  rw [m.limit_eq]
  generalize expression m.source _ 0 ts = r at hsame hread
  generalize expression m.target _ 0 us = r' at hsame ⊢
  cases hsame with
  | ok => simp at hread
  | error hfault h =>
    obtain ⟨rfl, rfl⟩ : _ = f ∧ _ = rest := by simpa using hread
    exact ⟨_, _, rfl, hfault, h⟩

/-- The statements of tokens that stand for others are those of the others, and behind them those of
what is behind. -/
theorem statements_eq (m : Copy) {ts us : List Token} (h : m.Extends ts us) :
    ∃ faults, List.Forall₂ m.SameFault (statements m.source ts).2 faults ∧
      statements m.target us = ((statements m.source ts).1 ++ (statements m.target m.behind).1,
        faults ++ (statements m.target m.behind).2) := by
  induction ts using statements_induction (b := m.source) generalizing us with
  | nil =>
    -- only what is behind is left
    obtain ⟨front, hfront, rfl, -⟩ := h
    obtain rfl := List.forall₂_nil_left_iff.mp hfront
    rw [statements_nil]
    exact ⟨[], .nil, rfl⟩
  | ok ts n rest hread ih =>
    obtain ⟨rest', hread', hrest⟩ := statement_ok (h.shields (ne_nil_of_statement_ok hread)) hread
    obtain ⟨faults, hfaults, heq⟩ := ih hrest
    refine ⟨faults, ?_, ?_⟩
    · rwa [statements_of_ok hread]
    · rw [statements_of_ok hread, statements_of_ok hread', heq]
      rfl
  | error ts f rest hne hread ih =>
    obtain ⟨g, rest', hread', hfault, hrest⟩ := statement_error (h.shields hne) hread
    have hne' : us ≠ [] := by
      obtain ⟨t, ts, rfl⟩ := List.exists_cons_of_ne_nil hne
      obtain ⟨u, vs, rfl, -⟩ := h.cons
      exact List.cons_ne_nil u vs
    obtain ⟨faults, hfaults, heq⟩ := ih hrest.resume
    refine ⟨g :: faults, ?_, ?_⟩
    · rw [statements_of_error hne hread]
      exact .cons hfault hfaults
    · rw [statements_of_error hne hread, statements_of_error hne' hread', heq]
      rfl

end Copy

end Parser

end RasterAlgebra
