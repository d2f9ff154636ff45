import RasterAlgebra.Proofs.Formula.Grammar

/-!
# Derivations

Facts about derivation trees that the reader of formulas has no part in.

* Tiers and binding powers: the operators of a tier bind by one more than its power.
* A derivation of a tight phrase is one of every looser phrase (`exists_tier`, `exists_tighter`).
* A derivation has at least as many tokens as its nesting and as the depth of its tree, and the tree
  has its leaves and operators in the order of the tokens (`inOrder_node`).
* Two expressions of which the second starts with a minus sign are one expression (`exists_merge`).
-/

namespace RasterAlgebra

namespace Grammar

/-! ## Powers of tiers and phrases -/

/-- The power that the operators of a tier exceed by one. -/
def Tier.power : Tier → ℕ
  | mask => 0
  | equality => 1
  | order => 2
  | sum => 3
  | product => 4

/-- The largest power from which a phrase is still read as a whole. -/
def Phrase.power : Phrase → ℕ
  | tier t => t.power
  | operand | atom => Parser.unaryPower

@[simp] theorem Phrase.power_tier (t : Tier) : (Phrase.tier t).power = t.power := rfl

/-- The operators of a tier bind by its power. -/
theorem bindingPower?_of_mem {t : Tier} {k : Token.Kind} (h : k ∈ t.operators) :
    k.bindingPower? = some (t.power + 1) := by
  cases t <;> simp only [Tier.operators, List.mem_cons, List.not_mem_nil, or_false] at h <;>
    rcases h with rfl | rfl <;> rfl

/-- Every operator belongs to a tier. -/
theorem exists_tier_of_bindingPower? {k : Token.Kind} {strength : ℕ}
    (h : k.bindingPower? = some strength) :
    ∃ t : Tier, k ∈ t.operators ∧ strength = t.power + 1 := by
  cases k <;> simp only [Token.Kind.bindingPower?, reduceCtorEq, Option.some.injEq] at h <;> subst h
  case hash => exact ⟨.mask, by decide, rfl⟩
  case equal => exact ⟨.equality, by decide, rfl⟩
  case notEqual => exact ⟨.equality, by decide, rfl⟩
  case less => exact ⟨.order, by decide, rfl⟩
  case greater => exact ⟨.order, by decide, rfl⟩
  case plus => exact ⟨.sum, by decide, rfl⟩
  case minus => exact ⟨.sum, by decide, rfl⟩
  case asterisk => exact ⟨.product, by decide, rfl⟩
  case slash => exact ⟨.product, by decide, rfl⟩

/-- The operands of a tier bind more tightly than the tier itself. -/
theorem Tier.power_lt_tighter (t : Tier) : t.power + 1 ≤ t.tighter.power := by
  cases t <;> decide

/-- No operator between two operands binds as tightly as one in front of an operand. -/
theorem bindingPower?_lt_unaryPower {k : Token.Kind} {strength : ℕ}
    (h : k.bindingPower? = some strength) : strength < Parser.unaryPower := by
  obtain ⟨t, -, rfl⟩ := exists_tier_of_bindingPower? h
  cases t <;> decide

/-! ## Looser phrases -/

/-- A derivation of one phrase says the same as a derivation of another. -/
structure SameReading {p q : Phrase} (d : Derivation p) (e : Derivation q) : Prop where
  tokens : d.tokens = e.tokens
  node : d.node = e.node
  nesting : d.nesting = e.nesting

/-- A phrase that binds more tightly than all operators is an operand. -/
theorem exists_operand {q : Phrase} (e : Derivation q) (h : Tier.product.power < q.power) :
    ∃ d : Derivation .operand, SameReading d e := by
  cases q with
  | tier t => cases t <;> exact absurd h (by decide)
  | operand => exact ⟨e, rfl, rfl, rfl⟩
  | atom => exact ⟨.atom e, rfl, rfl, rfl⟩

/-- Tiers differ in their powers. -/
theorem Tier.eq_of_power_eq {s t : Tier} (h : s.power = t.power) : s = t := by
  revert h
  cases s <;> cases t <;> decide

/-- A phrase with the power of a tier is this tier. -/
theorem eq_tier_of_power_eq {q : Phrase} {t : Tier} (h : t.power = q.power) : q = .tier t := by
  cases q with
  | tier s => exact congrArg Phrase.tier (Tier.eq_of_power_eq h).symm
  | operand => cases t <;> exact absurd h (by decide)
  | atom => cases t <;> exact absurd h (by decide)

/-- A derivation is one of a tier if it is one of something as tight. -/
theorem exists_tier_of_tighter {q : Phrase} {e : Derivation q} {t : Tier}
    (htighter : t.power < q.power → ∃ d : Derivation t.tighter, SameReading d e)
    (h : t.power ≤ q.power) : ∃ d : Derivation (.tier t), SameReading d e := by
  rcases Nat.lt_or_eq_of_le h with hlt | heq
  · obtain ⟨d, htokens, hnode, hnesting⟩ := htighter hlt
    exact ⟨.tighter d, htokens, hnode, hnesting⟩
  · obtain rfl := eq_tier_of_power_eq heq
    exact ⟨e, rfl, rfl, rfl⟩

/-- A derivation of something tighter than the operators of a tier can stand between them. -/
theorem exists_tighter {q : Phrase} (e : Derivation q) (t : Tier) (h : t.power < q.power) :
    ∃ d : Derivation t.tighter, SameReading d e := by
  -- from the tightest tier outwards
  have hproduct := exists_operand e
  have hsum := exists_tier_of_tighter (t := .product) hproduct
  have horder := exists_tier_of_tighter (t := .sum) hsum
  have hequality := exists_tier_of_tighter (t := .order) horder
  have hmask := exists_tier_of_tighter (t := .equality) hequality
  cases t with
  | mask => exact hmask h
  | equality => exact hequality h
  | order => exact horder h
  | sum => exact hsum h
  | product => exact hproduct h

/-- A phrase can be read as one that binds less tightly. -/
theorem exists_tier {q : Phrase} (e : Derivation q) (t : Tier) (h : t.power ≤ q.power) :
    ∃ d : Derivation (.tier t), SameReading d e :=
  exists_tier_of_tighter (exists_tighter e t) h

/-! ## The tokens of a derivation -/

/-- An expression starts with a leaf, an operator in front of an operand, or a parenthesis. -/
theorem exists_head_tokens {p : Phrase} (d : Derivation p) :
    ∃ t ts, d.tokens = t :: ts ∧ t.kind ∈ Fault.expressionStart := by
  induction d with
  | leaf t n hleaf =>
    refine ⟨t, [], rfl, ?_⟩
    unfold Token.leaf? at hleaf
    split at hleaf <;> rename_i hkind <;> simp_all [Fault.expressionStart]
  | group opening inner closing hopening _ _ =>
    exact ⟨opening, _, rfl, by rw [hopening]; decide⟩
  | atom inner ih => exact ih
  | unary op right hop _ =>
    refine ⟨op, _, rfl, ?_⟩
    simp only [unaryOperators, List.mem_cons, List.not_mem_nil, or_false] at hop
    rcases hop with h | h <;> rw [h] <;> decide
  | tighter inner ih => exact ih
  | binary left op right hop ihl _ =>
    obtain ⟨t, ts, htokens, hkind⟩ := ihl
    exact ⟨t, _, by rw [Derivation.tokens, htokens, List.cons_append], hkind⟩

/-- An operator between two operands that can start an expression is a minus sign. -/
theorem eq_minus_of_mem {t : Tier} {k : Token.Kind} (h : k ∈ t.operators)
    (hstart : k ∈ Fault.expressionStart) : k = .minus := by
  revert h hstart
  cases t <;> cases k <;> decide

theorem depth_of_leaf? {t : Token} {n : Node} (h : t.leaf? = some n) : n.depth = 1 := by
  unfold Token.leaf? at h
  split at h <;> simp only [Option.some.injEq, reduceCtorEq] at h <;> subst h <;> rfl

/-- A leaf is an expression. -/
theorem isExpression_of_leaf? {t : Token} {n : Node} (h : t.leaf? = some n) : n.IsExpression := by
  unfold Token.leaf? at h
  split at h
  · exact Option.some.inj h ▸ .band _
  · exact Option.some.inj h ▸ .number _
  · exact Option.some.inj h ▸ .boolean _
  · exact Option.some.inj h ▸ .boolean _
  · simp at h

/-- Derivations stand for expressions. -/
theorem isExpression_node {p : Phrase} (d : Derivation p) : d.node.IsExpression := by
  induction d with
  | leaf t n hleaf => exact isExpression_of_leaf? hleaf
  | group _ inner _ _ _ ih => exact ih
  | atom inner ih => exact ih
  | unary op right _ ih => exact .unary op.text ih
  | tighter inner ih => exact ih
  | binary left op right _ ihl ihr => exact .binary op.text ihl ihr

/-- Every phrase is inside of itself. -/
theorem nesting_pos {p : Phrase} (d : Derivation p) : 0 < d.nesting := by
  induction d with
  | leaf => exact Nat.one_pos
  | group => exact Nat.succ_pos _
  | atom _ ih => exact ih
  | unary => exact Nat.succ_pos _
  | tighter _ ih => exact ih
  | binary left _ _ _ ihl _ => exact Nat.lt_of_lt_of_le ihl (Nat.le_max_left ..)

/-- Phrases that are inside of each other each have a token of their own. -/
theorem nesting_le_length {p : Phrase} (d : Derivation p) : d.nesting ≤ d.tokens.length := by
  induction d with
  | leaf => exact Nat.le_refl _
  | group _ _ _ _ _ ih =>
    simp only [Derivation.nesting, Derivation.tokens, List.length_cons, List.length_append]
    omega
  | atom _ ih => exact ih
  | unary _ _ _ ih => exact Nat.succ_le_succ ih
  | tighter _ ih => exact ih
  | binary _ _ _ _ ihl ihr =>
    simp only [Derivation.nesting, Derivation.tokens, List.length_cons, List.length_append]
    omega

/-- A tree is not deeper than it has tokens. -/
theorem depth_le_length {p : Phrase} (d : Derivation p) : d.node.depth ≤ d.tokens.length := by
  induction d with
  | leaf _ _ hleaf => exact Nat.le_of_eq (depth_of_leaf? hleaf)
  | group _ _ _ _ _ ih =>
    simp only [Derivation.node, Derivation.tokens, List.length_cons, List.length_append]
    omega
  | atom _ ih => exact ih
  | unary _ _ _ ih => exact Nat.succ_le_succ ih
  | tighter _ ih => exact ih
  | binary _ _ _ _ ihl ihr =>
    simp only [Derivation.node, Node.depth, Derivation.tokens, List.length_cons,
      List.length_append]
    omega

/-! ## The symbols of a derivation -/

/-- A leaf is a symbol that stands for itself. -/
theorem symbol?_of_leaf? {t : Token} {n : Node} (h : t.leaf? = some n) :
    t.symbol? = some (.leaf n) := by
  rw [Token.symbol?, h]

/-- In order, a leaf is the only symbol of its tree. -/
theorem inOrder_of_leaf? {t : Token} {n : Node} (h : t.leaf? = some n) : n.inOrder = [.leaf n] := by
  unfold Token.leaf? at h
  split at h <;> simp only [Option.some.injEq, reduceCtorEq] at h <;> subst h <;> rfl

/-- An operator between operands is the symbol of its text. -/
theorem symbol?_of_operator {t : Token} {tier : Tier} (h : t.kind ∈ tier.operators) :
    t.symbol? = some (.operator t.text) := by
  have hpower := bindingPower?_of_mem h
  cases hkind : t.kind <;>
    simp_all [Token.symbol?, Token.leaf?, Token.Kind.bindingPower?]

/-- So is an operator in front of one. -/
theorem symbol?_of_unary {t : Token} (h : t.kind ∈ unaryOperators) :
    t.symbol? = some (.operator t.text) := by
  simp only [unaryOperators, List.mem_cons, List.not_mem_nil, or_false] at h
  rcases h with h | h <;> simp [Token.symbol?, Token.leaf?, h]

/-- A parenthesis or a semicolon leaves no trace in a tree. -/
theorem symbol?_eq_none {t : Token} (h : t.kind ∈ [.leftParen, .rightParen, .semicolon]) :
    t.symbol? = none := by
  simp only [List.mem_cons, List.not_mem_nil, or_false] at h
  rcases h with h | h | h <;> simp [Token.symbol?, Token.leaf?, h]

/-- Leaves and operators stand in the tree in the order in which they stand in the text. -/
theorem inOrder_node {p : Phrase} (d : Derivation p) :
    d.node.inOrder = d.tokens.filterMap Token.symbol? := by
  induction d with
  | leaf t n hleaf =>
    simp only [Derivation.node, Derivation.tokens, inOrder_of_leaf? hleaf,
      List.filterMap_cons_some (symbol?_of_leaf? hleaf), List.filterMap_nil]
  | group opening inner closing hopening hclosing ih =>
    have hopening' : opening.symbol? = none := symbol?_eq_none (by rw [hopening]; decide)
    have hclosing' : closing.symbol? = none := symbol?_eq_none (by rw [hclosing]; decide)
    rw [Derivation.node, Derivation.tokens, List.filterMap_cons_none hopening',
      List.filterMap_append, List.filterMap_cons_none hclosing', List.filterMap_nil,
      List.append_nil, ih]
  | atom _ ih => exact ih
  | unary op right hop ih =>
    rw [Derivation.node, Derivation.tokens, Node.inOrder, ih,
      List.filterMap_cons_some (symbol?_of_unary hop)]
  | tighter _ ih => exact ih
  | binary left op right hop ihl ihr =>
    rw [Derivation.node, Derivation.tokens, Node.inOrder, ihl, ihr, List.filterMap_append,
      List.filterMap_cons_some (symbol?_of_operator hop)]

/-! ## Expressions that go on -/

/-- Between a tier and its operands there is no other one. -/
theorem Tier.power_tighter_le {s t : Tier} (h : s.power < t.power) :
    s.tighter.power ≤ t.power := by
  revert h
  cases s <;> cases t <;> decide

/-- A phrase of the operators of a tier goes on behind each of them. -/
theorem exists_binary {s tier : Tier} (left : Derivation (.tier s)) {t : Token}
    (hop : t.kind ∈ tier.operators) (heq : s.power = tier.power) (right : Derivation .operand) :
    ∃ d : Derivation (.tier s), d.tokens = left.tokens ++ t :: right.tokens := by
  obtain rfl := Tier.eq_of_power_eq heq
  obtain ⟨right', htokens, -, -⟩ := exists_tighter right s (by cases s <;> decide)
  exact ⟨.binary left t right' hop, by rw [Derivation.tokens, htokens]⟩

/-- A phrase goes on behind an operator that is no looser than those of the phrase. -/
theorem exists_append_operand {q : Phrase} (d : Derivation q) {tier : Tier} {t : Token}
    (hop : t.kind ∈ tier.operators) (hle : q.power ≤ tier.power) (right : Derivation .operand) :
    ∃ d' : Derivation q, d'.tokens = d.tokens ++ t :: right.tokens := by
  have hunary : ¬ Parser.unaryPower ≤ tier.power := by cases tier <;> decide
  induction d with
  | leaf => exact absurd hle hunary
  | group => exact absurd hle hunary
  | atom => exact absurd hle hunary
  | unary => exact absurd hle hunary
  | @tighter s inner ih =>
    rcases Nat.lt_or_eq_of_le hle with hlt | heq
    · -- the operator belongs to what stands inside
      obtain ⟨d', htokens⟩ := ih (Tier.power_tighter_le hlt)
      exact ⟨.tighter d', htokens⟩
    · exact exists_binary (.tighter inner) hop heq right
  | @binary s left op r hop' _ ihr =>
    rcases Nat.lt_or_eq_of_le hle with hlt | heq
    · -- the operator belongs to the right side of the last one
      obtain ⟨r', htokens⟩ := ihr (Tier.power_tighter_le hlt)
      refine ⟨.binary left op r' hop', ?_⟩
      simp only [Derivation.tokens, htokens, List.append_assoc, List.cons_append]
    · exact exists_binary (.binary left op r hop') hop heq right

/-- An expression goes on behind every operator, with every phrase behind it. -/
theorem exists_append {q : Phrase} (right : Derivation q) :
    ∀ (d : Derivation .expression) {tier : Tier} {t : Token}, t.kind ∈ tier.operators →
      ∃ d' : Derivation .expression, d'.tokens = d.tokens ++ t :: right.tokens := by
  induction right with
  | leaf t n hleaf =>
    intro d tier op hop
    exact exists_append_operand d hop (Nat.zero_le _) (.atom (.leaf t n hleaf))
  | group opening inner closing hopening hclosing _ =>
    intro d tier op hop
    exact exists_append_operand d hop (Nat.zero_le _)
      (.atom (.group opening inner closing hopening hclosing))
  | atom inner ih => exact ih
  | unary t right ht _ =>
    intro d tier op hop
    exact exists_append_operand d hop (Nat.zero_le _) (.unary t right ht)
  | tighter inner ih => exact ih
  | binary left t right ht ihl ihr =>
    intro d tier op hop
    obtain ⟨d₁, h₁⟩ := ihl d hop
    obtain ⟨d₂, h₂⟩ := ihr d₁ ht
    exact ⟨d₂, by simp only [h₂, h₁, Derivation.tokens, List.append_assoc, List.cons_append]⟩

/-- Two expressions of which the second starts with a minus sign are one expression. -/
theorem exists_merge {q : Phrase} (e : Derivation q) :
    ∀ (d : Derivation .expression) {t : Token} {ts : List Token}, e.tokens = t :: ts →
      t.kind = .minus → ∃ d' : Derivation .expression, d'.tokens = d.tokens ++ e.tokens := by
  induction e with
  | leaf u n hleaf =>
    intro d t ts htokens hminus
    obtain ⟨rfl, -⟩ := List.cons.inj htokens
    simp [Token.leaf?, hminus] at hleaf
  | group opening inner closing hopening _ _ =>
    intro d t ts htokens hminus
    obtain ⟨rfl, -⟩ := List.cons.inj htokens
    rw [hminus] at hopening
    exact absurd hopening (by decide)
  | atom inner ih => exact ih
  | unary op right _ _ =>
    intro d t ts htokens hminus
    obtain ⟨rfl, -⟩ := List.cons.inj htokens
    exact exists_append right d (show op.kind ∈ Tier.operators .sum by rw [hminus]; decide)
  | tighter inner ih => exact ih
  | binary left op right hop ihl _ =>
    intro d t ts htokens hminus
    obtain ⟨u, us, hleft, -⟩ := exists_head_tokens left
    rw [Derivation.tokens, hleft, List.cons_append] at htokens
    obtain ⟨rfl, -⟩ := List.cons.inj htokens
    obtain ⟨d₁, h₁⟩ := ihl d hleft hminus
    obtain ⟨d₂, h₂⟩ := exists_append right d₁ hop
    exact ⟨d₂, by simp only [h₂, h₁, Derivation.tokens, List.append_assoc]⟩

end Grammar

end RasterAlgebra
