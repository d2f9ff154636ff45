import RasterAlgebra.Proofs.Formula.Derivations

/-!
# Reading expressions by the grammar

The reader of expressions compares binding powers; the grammar has tiers. Both give the same trees:

* `expression_of_derivation`: the tokens of a derivation within the limits are read as its node, from any
  power that does not exceed that of its phrase and with any tokens behind it that leave it whole;
* `expression_tooDeep`: the tokens of a derivation beyond a limit end in a fault that says so;
* `exists_derivation_of_expression`: whatever is read has a derivation, and it is within the limits.
-/

namespace RasterAlgebra

open Grammar

namespace Parser

/-! ## Where expressions stop -/

/-- The tokens do not start with an operator that binds more tightly than `power`. -/
def Stops (power : ℕ) (ts : List Token) : Prop :=
  ∀ t ∈ ts.head?, ∀ strength ∈ t.kind.bindingPower?, strength ≤ power

theorem Stops.mono {m n : ℕ} {ts : List Token} (h : Stops m ts) (hle : m ≤ n) : Stops n ts :=
  fun t ht strength hs => Nat.le_trans (h t ht strength hs) hle

theorem stops_nil (power : ℕ) : Stops power [] := by
  intro t ht
  simp at ht

theorem stops_cons_of_none {t : Token} (h : t.kind.bindingPower? = none) (power : ℕ)
    (ts : List Token) : Stops power (t :: ts) := by
  intro u hu strength hs
  simp only [List.head?_cons, Option.mem_def, Option.some.injEq] at hu
  subst hu
  simp [h] at hs

theorem stops_cons_of_le {t : Token} {strength power : ℕ}
    (h : t.kind.bindingPower? = some strength) (hle : strength ≤ power) (ts : List Token) :
    Stops power (t :: ts) := by
  intro u hu s hs
  simp only [List.head?_cons, Option.mem_def, Option.some.injEq] at hu
  subst hu
  rw [h] at hs
  exact Option.some.inj hs ▸ hle

theorem stops_cons_of_mem {t : Token} {tier : Tier} (h : t.kind ∈ tier.operators)
    (ts : List Token) : Stops (tier.power + 1) (t :: ts) :=
  stops_cons_of_le (bindingPower?_of_mem h) (Nat.le_refl _) ts

/-- Nothing binds more tightly than an operator in front of an operand. -/
theorem stops_unaryPower (ts : List Token) : Stops unaryPower ts :=
  fun _ _ _ hs => Nat.le_of_lt (bindingPower?_lt_unaryPower hs)

/-- Tokens that cut a statement stop every expression. -/
theorem stops_zero_iff_cuts {ts : List Token} : Stops 0 ts ↔ Cuts ts := by
  constructor
  · intro h t ht tier hmem
    have hle := h t ht _ (bindingPower?_of_mem hmem)
    omega
  · intro h t ht strength hs
    obtain ⟨tier, hmem, -⟩ := exists_tier_of_bindingPower? hs
    exact absurd hmem (h t ht tier)

section
variable {b : Bounds} {expr : ℕ → List Token → Result Tree}

theorem operators_of_stops {power : ℕ} {ts : List Token} (h : Stops power ts) (left : Tree) :
    operators b expr power left ts = (.ok left, ts) := by
  unfold operators
  split
  · rfl
  · rename_i t rest
    split
    · rfl
    · rename_i strength hs
      have hle : strength ≤ power := h t rfl strength hs
      rw [if_pos hle]

/-- An operator that binds more tightly than `power` takes the expression behind it. -/
theorem operators_cons {power strength : ℕ} {t : Token} {ts : List Token}
    (hs : t.kind.bindingPower? = some strength) (hlt : power < strength) (left : Tree) :
    operators b expr power left (t :: ts) =
      match expr strength ts with
      | (.error fault, rest) => (.error fault, rest)
      | (.ok right, rest) =>
        if b.limit < (max left.depth right.depth + 1 : ℕ) then (.error (b.tooDeep t), rest)
        else operators b expr power
          ⟨.binary t.text left.node right.node, max left.depth right.depth + 1⟩ rest := by
  have hnot : ¬ strength ≤ power := by omega
  rw [operators]
  simp only [hs]
  exact if_neg hnot

end

/-! ## From derivations to trees -/

variable {b : Bounds}

/-- What a leaf is read as. -/
theorem operand_leaf {t : Token} {n : Node} (h : t.leaf? = some n)
    (expr : ℕ → List Token → Result Tree) (ts : List Token) :
    operand b expr (t :: ts) = (.ok ⟨n, 1⟩, ts) := by
  unfold Token.leaf? at h
  simp only [operand]
  split at h <;> rename_i hkind <;>
    simp only [Option.some.injEq, reduceCtorEq] at h <;> subst h <;> simp only [hkind]

/-- What an operator in front of an operand is read as, once the operand has been. -/
theorem operand_unary {t : Token} (h : t.kind ∈ unaryOperators)
    (expr : ℕ → List Token → Result Tree) (ts : List Token) :
    operand b expr (t :: ts) =
      match expr unaryPower ts with
      | (.error fault, rest) => (.error fault, rest)
      | (.ok right, rest) =>
        if b.limit < (right.depth + 1 : ℕ) then (.error (b.tooDeep t), rest)
        else (.ok ⟨.unary t.text right.node, right.depth + 1⟩, rest) := by
  obtain ⟨kind, text, pos, stop⟩ := t
  simp only [unaryOperators, List.mem_cons, List.not_mem_nil, or_false] at h
  rcases h with rfl | rfl <;> rfl

/-- What an opening parenthesis is read as, once the expression behind it has been. -/
theorem operand_leftParen {t : Token} (h : t.kind = .leftParen)
    (expr : ℕ → List Token → Result Tree) (ts : List Token) :
    operand b expr (t :: ts) =
      match expr 0 ts with
      | (.error fault, rest) => (.error fault, rest)
      | (.ok inner, rest) => closing b inner rest := by
  obtain ⟨kind, text, pos, stop⟩ := t
  obtain rfl : kind = .leftParen := h
  rfl

/-- How an operand starts with a token, if it does. -/
inductive Starts (t : Token) : Prop where
  | leaf (n : Node) (h : t.leaf? = some n)
  | unary (h : t.kind ∈ unaryOperators)
  | leftParen (h : t.kind = .leftParen)
  | none (hleaf : t.leaf? = none) (hunary : t.kind ∉ unaryOperators) (hparen : t.kind ≠ .leftParen)

theorem starts (t : Token) : Starts t := by
  cases hleaf : t.leaf? with
  | some n => exact .leaf n hleaf
  | none =>
    by_cases hunary : t.kind ∈ unaryOperators
    · exact .unary hunary
    · by_cases hparen : t.kind = .leftParen
      · exact .leftParen hparen
      · exact .none hleaf hunary hparen

/-- Why no operand starts with a token. -/
def noOperand (t : Token) : Fault.Cause :=
  if t.kind = .illegal then .illegalCharacter t.text else .noExpression t.kind

/-- A token that starts no operand is a fault by itself. -/
theorem operand_fault {t : Token} (hleaf : t.leaf? = none) (hunary : t.kind ∉ unaryOperators)
    (hparen : t.kind ≠ .leftParen) (expr : ℕ → List Token → Result Tree) (ts : List Token) :
    operand b expr (t :: ts) = (.error ⟨noOperand t, t⟩, t :: ts) := by
  unfold Token.leaf? at hleaf
  simp only [operand]
  split <;> rename_i hkind <;> simp_all [unaryOperators, noOperand]

theorem closing_eq_ok {inner tree : Tree} {ts rest : List Token}
    (h : closing b inner ts = (.ok tree, rest)) :
    tree = inner ∧ ∃ t, t.kind = .rightParen ∧ ts = t :: rest := by
  unfold closing at h
  split at h
  · simp at h
  · rename_i t ts
    split at h
    · rename_i hkind
      obtain ⟨rfl, rfl⟩ : inner = tree ∧ ts = rest := by simpa using h
      exact ⟨rfl, t, hkind, rfl⟩
    · simp at h

/-- A derivation is within the limits if `room` expressions may be nested in each other. -/
def Fits (b : Bounds) (room : ℕ) {p : Phrase} (d : Derivation p) : Prop :=
  d.nesting ≤ room ∧ (d.node.depth : ℤ) ≤ b.limit

/-- The tokens of a derivation within the limits are read as its tree, and reading goes on behind them.
The tokens behind must not take an operand away from the derivation, so no operator that binds more
tightly than those of its phrase may come first. -/
theorem expression_of_derivation {p : Phrase} (d : Derivation p) :
    ∀ {power room : ℕ} {rest : List Token}, power ≤ p.power → Stops (p.power + 1) rest →
      Fits b (room + 1) d →
      expression b (room + 1) power (d.tokens ++ rest) =
        operators b (expression b room) power ⟨d.node, d.node.depth⟩ rest := by
  induction d with
  | leaf t n hleaf =>
    intro power room rest _ _ _
    simp only [Derivation.tokens, Derivation.node, List.cons_append, List.nil_append, expression,
      operand_leaf hleaf, depth_of_leaf? hleaf]
  | group opening inner closing hopening hclosing ih =>
    intro power room rest _ _ hfits
    obtain ⟨hnesting, hdepth⟩ := hfits
    simp only [Derivation.nesting, Nat.add_le_add_iff_right] at hnesting
    have hpos := nesting_pos inner
    obtain ⟨room, rfl⟩ : ∃ n, room = n + 1 := ⟨room - 1, by omega⟩
    -- a closing parenthesis stops the expression inside, from whatever power it is read
    have hstop : ∀ power, Stops power (closing :: rest) :=
      fun power => stops_cons_of_none (by rw [hclosing]; rfl) power rest
    have hinner : expression b (room + 1) 0 (inner.tokens ++ closing :: rest) =
        (.ok ⟨inner.node, inner.node.depth⟩, closing :: rest) := by
      rw [ih (Nat.zero_le _) (hstop _) ⟨hnesting, hdepth⟩, operators_of_stops (hstop 0)]
    simp only [Derivation.tokens, Derivation.node, List.cons_append, List.append_assoc,
      List.nil_append]
    rw [expression, operand_leftParen hopening, hinner]
    simp only [Parser.closing, if_pos hclosing]
  | atom inner ih => exact ih
  | unary op right hop ih =>
    intro power room rest _ _ hfits
    obtain ⟨hnesting, hdepth⟩ := hfits
    simp only [Derivation.nesting, Nat.add_le_add_iff_right] at hnesting
    simp only [Derivation.node, Node.depth] at hdepth
    have hpos := nesting_pos right
    obtain ⟨room, rfl⟩ : ∃ n, room = n + 1 := ⟨room - 1, by omega⟩
    have hright : expression b (room + 1) unaryPower (right.tokens ++ rest) =
        (.ok ⟨right.node, right.node.depth⟩, rest) := by
      rw [ih (show unaryPower ≤ _ from Nat.le_refl _) ((stops_unaryPower rest).mono (Nat.le_succ _))
        ⟨hnesting, by omega⟩, operators_of_stops (stops_unaryPower rest)]
    simp only [Derivation.tokens, Derivation.node, List.cons_append, Node.depth]
    rw [expression, operand_unary hop, hright]
    simp only [if_neg (show ¬ b.limit < (right.node.depth + 1 : ℕ) by omega)]
  | @tighter t inner ih =>
    intro power room rest hpower hstop hfits
    have hle := t.power_lt_tighter
    rw [Phrase.power_tier] at hpower hstop
    exact ih (by omega) (hstop.mono (by omega)) hfits
  | @binary t left op right hop ihl ihr =>
    intro power room rest hpower hstop hfits
    obtain ⟨hnesting, hdepth⟩ := hfits
    simp only [Derivation.nesting, Nat.max_le, Nat.add_le_add_iff_right] at hnesting
    simp only [Derivation.node, Node.depth] at hdepth
    have hpos := nesting_pos right
    obtain ⟨room, rfl⟩ : ∃ n, room = n + 1 := ⟨room - 1, by omega⟩
    have hle := t.power_lt_tighter
    rw [Phrase.power_tier] at hpower hstop
    have hright : expression b (room + 1) (t.power + 1) (right.tokens ++ rest) =
        (.ok ⟨right.node, right.node.depth⟩, rest) := by
      rw [ihr hle (hstop.mono (by omega)) ⟨hnesting.2, by omega⟩,
        operators_of_stops hstop]
    simp only [Derivation.tokens, Derivation.node, Node.depth, List.append_assoc, List.cons_append]
    -- the loop over the operators stands behind `left`, and takes this one with its operand
    rw [ihl hpower (stops_cons_of_mem hop _) ⟨hnesting.1, by omega⟩,
      operators_cons (bindingPower?_of_mem hop) (Nat.lt_succ_of_le hpower), hright]
    simp only [if_neg (show ¬ b.limit < (max left.node.depth right.node.depth + 1 : ℕ) by omega)]

/-- From a power at which it stops, a derivation within the limits is all that is read. -/
theorem expression_eq_ok {p : Phrase} {d : Derivation p} {power room : ℕ} {rest : List Token}
    (hpower : power ≤ p.power) (hstop : Stops power rest) (hfits : Fits b room d) :
    expression b room power (d.tokens ++ rest) = (.ok ⟨d.node, d.node.depth⟩, rest) := by
  have hpos := nesting_pos d
  obtain ⟨room, rfl⟩ : ∃ n, room = n + 1 := ⟨room - 1, by have := hfits.1; omega⟩
  rw [expression_of_derivation d hpower (hstop.mono (Nat.le_succ_of_le hpower)) hfits,
    operators_of_stops hstop]

/-! ## Derivations beyond a limit -/

/-- What was read ended in a fault about the limit. -/
def IsTooDeep (b : Bounds) (r : Result Tree) : Prop := ∃ t rest, r = (.error (b.tooDeep t), rest)

/-- The tokens of a derivation beyond a limit end in a fault that says so. -/
theorem expression_tooDeep {p : Phrase} (d : Derivation p) :
    ∀ (power room : ℕ) (rest : List Token), room ≤ b.limit.toNat → power ≤ p.power →
      Stops (p.power + 1) rest → ¬ Fits b room d →
      IsTooDeep b (expression b room power (d.tokens ++ rest)) := by
  induction d with
  | leaf t n hleaf =>
    intro power room rest hroom _ _ hfits
    cases room with
    | zero => exact ⟨_, _, rfl⟩
    | succ room =>
      -- a leaf has nesting and depth one, and there is room for one
      refine absurd ⟨Nat.succ_le_succ (Nat.zero_le _), ?_⟩ hfits
      rw [Derivation.node, depth_of_leaf? hleaf]
      omega
  | group opening inner closing hopening hclosing ih =>
    intro power room rest hroom _ _ hfits
    cases room with
    | zero => exact ⟨_, _, rfl⟩
    | succ room =>
      have hinner : ¬ Fits b room inner := fun h => hfits ⟨Nat.succ_le_succ h.1, h.2⟩
      obtain ⟨t, rest', h⟩ := ih 0 room (closing :: rest) (by omega) (Nat.zero_le _)
        (stops_cons_of_none (by rw [hclosing]; rfl) _ _) hinner
      refine ⟨t, rest', ?_⟩
      simp only [Derivation.tokens, List.cons_append, List.append_assoc, List.nil_append]
      rw [expression, operand_leftParen hopening, h]
  | atom inner ih => exact ih
  | unary op right hop ih =>
    intro power room rest hroom _ _ hfits
    cases room with
    | zero => exact ⟨_, _, rfl⟩
    | succ room =>
      simp only [Derivation.tokens, List.cons_append]
      rw [IsTooDeep, expression, operand_unary hop]
      by_cases hright : Fits b room right
      · -- the operand is read, and the operator in front of it makes the tree too deep
        have hdepth : b.limit < (right.node.depth + 1 : ℕ) := by
          by_contra hle
          exact hfits ⟨Nat.succ_le_succ hright.1, by simp only [Derivation.node, Node.depth]; omega⟩
        rw [expression_eq_ok (show unaryPower ≤ _ from Nat.le_refl _) (stops_unaryPower rest) hright]
        simp only [if_pos hdepth]
        exact ⟨_, _, rfl⟩
      · obtain ⟨t, rest', h⟩ := ih unaryPower room rest (by omega) (Nat.le_refl _)
          ((stops_unaryPower rest).mono (Nat.le_succ _)) hright
        rw [h]
        exact ⟨_, _, rfl⟩
  | @tighter t inner ih =>
    intro power room rest hroom hpower hstop hfits
    have hle := t.power_lt_tighter
    rw [Phrase.power_tier] at hpower hstop
    exact ih power room rest hroom (by omega) (hstop.mono (by omega)) hfits
  | @binary t left op right hop ihl ihr =>
    intro power room rest hroom hpower hstop hfits
    have hle := t.power_lt_tighter
    have hmem := stops_cons_of_mem hop (right.tokens ++ rest)
    simp only [Derivation.tokens, List.append_assoc, List.cons_append]
    by_cases hleft : Fits b room left
    · cases room with
      | zero => exact ⟨_, _, rfl⟩
      | succ room =>
        rw [IsTooDeep, expression_of_derivation left hpower hmem hleft,
          operators_cons (bindingPower?_of_mem hop) (Nat.lt_succ_of_le hpower)]
        by_cases hright : Fits b room right
        · -- both operands are read, and the operator between them makes the tree too deep
          have hdepth : b.limit < (max left.node.depth right.node.depth + 1 : ℕ) := by
            by_contra hle
            refine hfits ⟨Nat.max_le.mpr ⟨hleft.1, Nat.succ_le_succ hright.1⟩, ?_⟩
            simp only [Derivation.node, Node.depth]
            omega
          rw [expression_eq_ok hle hstop hright]
          simp only [if_pos hdepth]
          exact ⟨_, _, rfl⟩
        · obtain ⟨t', rest', h⟩ := ihr (t.power + 1) room rest (by omega) hle
            (hstop.mono (by rw [Phrase.power_tier]; omega)) hright
          rw [h]
          exact ⟨_, _, rfl⟩
    · exact ihl power room _ hroom hpower hmem hleft

/-! ## From trees to derivations -/

/-- `tree` stands for the tokens of `ts` in front of `rest`, which are a phrase within the limits that is
as tight as `power` asks for and as long as it can be. -/
def Reads (b : Bounds) (room power : ℕ) (ts : List Token) (tree : Tree) (rest : List Token) : Prop :=
  ∃ (p : Phrase) (d : Derivation p), power ≤ p.power ∧ d.tokens ++ rest = ts ∧
    tree = ⟨d.node, d.node.depth⟩ ∧ Fits b room d ∧ Stops power rest

/-- Whatever `expr` reads has a derivation. -/
def ReadsDerivations (b : Bounds) (room : ℕ) (expr : ℕ → List Token → Result Tree) : Prop :=
  ∀ (power : ℕ) (ts : List Token) (tree : Tree) (rest : List Token), power ≤ unaryPower →
    expr power ts = (.ok tree, rest) → Reads b room power ts tree rest

section
variable {expr : ℕ → List Token → Result Tree} {room : ℕ}

/-- What is read as an operand has a derivation if the expressions inside of it have. -/
theorem exists_derivation_of_operand (hroom : room < b.limit.toNat)
    (hexpr : ReadsDerivations b room expr)
    {ts rest : List Token} {tree : Tree} (h : operand b expr ts = (.ok tree, rest)) :
    ∃ d : Derivation .operand, d.tokens ++ rest = ts ∧ tree = ⟨d.node, d.node.depth⟩ ∧
      Fits b (room + 1) d := by
  cases ts with
  | nil => simp [operand] at h
  | cons t ts =>
    cases starts t with
    | leaf n hleaf =>
      rw [operand_leaf hleaf] at h
      obtain ⟨rfl, rfl⟩ : Tree.mk n 1 = tree ∧ ts = rest := by simpa using h
      have hdepth := depth_of_leaf? hleaf
      refine ⟨.atom (.leaf t n hleaf), rfl, ?_, Nat.succ_le_succ (Nat.zero_le _), ?_⟩
      · rw [Derivation.node, Derivation.node, hdepth]
      · rw [Derivation.node, Derivation.node, hdepth]
        omega
    | unary hunary =>
      rw [operand_unary hunary] at h
      split at h
      · simp at h
      · rename_i right rest' heq
        split at h
        · simp at h
        · rename_i hle
          -- what was read behind the operator is as tight as an operand
          obtain ⟨p, d, hpower, rfl, rfl, hfits, -⟩ := hexpr _ _ _ _ (Nat.le_refl _) heq
          obtain ⟨d', htokens, hnode, hnesting⟩ :=
            exists_operand d (Nat.lt_of_lt_of_le (by decide) hpower)
          obtain ⟨rfl, rfl⟩ : Tree.mk (.unary t.text d.node) (d.node.depth + 1) = tree ∧
            rest' = rest := by simpa using h
          refine ⟨.unary t d' hunary, ?_, ?_, ?_, ?_⟩
          · rw [Derivation.tokens, htokens, List.cons_append]
          · rw [Derivation.node, hnode, Node.depth]
          · rw [Derivation.nesting, hnesting]
            exact Nat.succ_le_succ hfits.1
          · rw [Derivation.node, hnode, Node.depth]
            exact Int.not_lt.mp hle
    | leftParen hparen =>
      rw [operand_leftParen hparen] at h
      split at h
      · simp at h
      · rename_i inner rest' heq
        obtain ⟨p, d, hpower, rfl, rfl, hfits, -⟩ := hexpr _ _ _ _ (Nat.zero_le _) heq
        obtain ⟨d', htokens, hnode, hnesting⟩ := exists_tier d .mask (Nat.zero_le _)
        obtain ⟨rfl, closing, hclosing, rfl⟩ := closing_eq_ok h
        refine ⟨.atom (.group t d' closing hparen hclosing), ?_, ?_, ?_, ?_⟩
        · simp only [Derivation.tokens, htokens, List.cons_append, List.append_assoc,
            List.nil_append]
        · rw [Derivation.node, Derivation.node, hnode]
        · rw [Derivation.nesting, Derivation.nesting, hnesting]
          exact Nat.succ_le_succ hfits.1
        · rw [Derivation.node, Derivation.node, hnode]
          exact hfits.2
    | none hleaf hunary hparen =>
      rw [operand_fault hleaf hunary hparen] at h
      simp at h

/-- What is read as a chain of operators has a derivation if the expressions inside of it have. The
operators behind `left` are no tighter than those of its phrase, so `left` can stand to the left of each of
them. -/
theorem exists_derivation_of_operators
    (hexpr : ReadsDerivations b room expr)
    (power : ℕ) (left : Tree) (ts : List Token) :
    ∀ {q : Phrase} (e : Derivation q) {tree : Tree} {rest : List Token},
      left = ⟨e.node, e.node.depth⟩ → power ≤ q.power → Stops (q.power + 1) ts →
      Fits b (room + 1) e → operators b expr power left ts = (.ok tree, rest) →
      Reads b (room + 1) power (e.tokens ++ ts) tree rest := by
  fun_induction operators b expr power left ts with
  | case1 left =>
    intro q e tree rest hleft hpower _ hfits h
    obtain ⟨rfl, rfl⟩ : left = tree ∧ [] = rest := by simpa using h
    exact ⟨q, e, hpower, rfl, hleft, hfits, stops_nil power⟩
  | case2 left t ts hs =>
    intro q e tree rest hleft hpower _ hfits h
    obtain ⟨rfl, rfl⟩ : left = tree ∧ t :: ts = rest := by simpa using h
    exact ⟨q, e, hpower, rfl, hleft, hfits, stops_cons_of_none hs power ts⟩
  | case3 left t ts strength hs hle =>
    intro q e tree rest hleft hpower _ hfits h
    obtain ⟨rfl, rfl⟩ : left = tree ∧ t :: ts = rest := by simpa using h
    exact ⟨q, e, hpower, rfl, hleft, hfits, stops_cons_of_le hs hle ts⟩
  | case4 left t ts strength _ _ fault rest heq =>
    intro q e tree rest' _ _ _ _ h
    simp at h
  | case5 left t ts strength _ _ right rest heq depth =>
    intro q e tree rest' _ _ _ _ h
    simp at h
  | case6 left t ts strength hs hlt right rest heq depth hle =>
    rename_i ih
    intro q e tree rest' hleft hpower hstop hfits h
    subst hleft
    obtain ⟨p, d, hright, rfl, rfl, hfits', hstop'⟩ :=
      hexpr _ _ _ _ (Nat.le_of_lt (bindingPower?_lt_unaryPower hs)) heq
    obtain ⟨tier, hmem, rfl⟩ := exists_tier_of_bindingPower? hs
    have hle' : tier.power + 1 ≤ q.power + 1 := hstop t rfl _ hs
    obtain ⟨e', htokens, hnode, hnesting⟩ := exists_tier e tier (by omega)
    obtain ⟨d', htokens', hnode', hnesting'⟩ := exists_tighter d tier hright
    -- the operator, and what stands on either side of it, are a derivation of the operator's tier
    have hread := ih (.binary e' t d' hmem) ?_ ?_ ?_ ?_ h
    · rw [Derivation.tokens, htokens, htokens'] at hread
      simpa using hread
    · rw [Derivation.node, hnode, hnode']
      rfl
    · rw [Phrase.power_tier]
      omega
    · exact hstop'
    · refine ⟨?_, ?_⟩
      · rw [Derivation.nesting, hnesting, hnesting']
        exact Nat.max_le.mpr ⟨hfits.1, Nat.succ_le_succ hfits'.1⟩
      · rw [Derivation.node, hnode, hnode']
        exact Int.not_lt.mp hle

end

/-- Whatever is read has a derivation within the limits. -/
theorem exists_derivation_of_expression {room : ℕ} (hroom : room ≤ b.limit.toNat) :
    ReadsDerivations b room (expression b room) := by
  induction room with
  | zero =>
    intro power ts tree rest _ h
    simp [expression] at h
  | succ room ih =>
    intro power ts tree rest hpower h
    rw [expression] at h
    split at h
    · simp at h
    · rename_i left rest' heq
      have hexpr := ih (Nat.le_of_succ_le hroom)
      obtain ⟨d, rfl, hleft, hfits⟩ := exists_derivation_of_operand hroom hexpr heq
      exact exists_derivation_of_operators hexpr power left rest' d hleft hpower
        ((stops_unaryPower _).mono (Nat.le_succ _)) hfits h

end Parser

end RasterAlgebra
