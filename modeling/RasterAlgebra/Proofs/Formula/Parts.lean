import RasterAlgebra.Proofs.Formula.Programs

/-!
# Parts of a formula in its text

A formula names its bands in the order in which the identifiers stand in its text
(`Program.bandsOfList_eq`). A part of a formula (`Node.PartOf`) is written in one piece, and the bands that
are named in front of the part are the identifiers in front of that piece (`Program.exists_tokens_of_part`).
-/

namespace RasterAlgebra

/-! ## Identifiers -/

/-- The name that a token is, if it is an identifier. -/
def Token.identifier? (t : Token) : Option String := if t.kind = .ident then some t.text else none

/-- The names of the identifiers among tokens, in order. -/
def Token.identifiers (ts : List Token) : List String := ts.filterMap identifier?

namespace Node

/-- The band that a leaf names. -/
def Symbol.band? : Symbol → Option String
  | leaf (.band name) => some name
  | _ => none

/-- The bands of an expression stand among its leaves. -/
theorem IsExpression.bands_eq {n : Node} (hn : n.IsExpression) :
    n.bands = n.inOrder.filterMap Symbol.band? := by
  induction hn with
  | number | boolean | band => rfl
  | unary op _ ih => exact ih
  | binary op _ _ ihl ihr =>
    rw [bands, inOrder, List.filterMap_append, ihl, ihr]
    rfl

/-! ## Parts -/

variable {p : Node → Prop} {m : Node}

/-- The expression `m` is a part of the expression `n`. In front of it stand operands of which `p` holds,
and these name the bands `front`. -/
inductive PartOf (p : Node → Prop) (m : Node) : Node → List String → Prop where
  | here : PartOf p m m []
  | unary (op : String) {operand : Node} {front : List String} (h : PartOf p m operand front) :
      PartOf p m (.unary op operand) front
  | left (op : String) {left : Node} (right : Node) {front : List String}
      (h : PartOf p m left front) : PartOf p m (.binary op left right) front
  | right (op : String) {left right : Node} {front : List String} (hleft : p left)
      (h : PartOf p m right front) : PartOf p m (.binary op left right) (left.bands ++ front)

/-- The expression `m` is a part of one of the statements. In front of it stand operands and statements of
which `p` holds, and these name the bands `front`. -/
inductive PartOfList (p : Node → Prop) (m : Node) : List Node → List String → Prop where
  | first {n : Node} (rest : List Node) {front : List String} (h : PartOf p m n front) :
      PartOfList p m (.statement n :: rest) front
  | later {s : Node} {rest : List Node} {front : List String} (hs : p s)
      (h : PartOfList p m rest front) : PartOfList p m (s :: rest) (s.bands ++ front)

/-- A part of an expression is an expression. -/
theorem PartOf.isExpression {n : Node} {front : List String} (h : PartOf p m n front)
    (hn : n.IsExpression) : m.IsExpression := by
  induction h with
  | here => exact hn
  | unary op _ ih =>
    cases hn with
    | unary _ hoperand => exact ih hoperand
  | left op right _ ih =>
    cases hn with
    | binary _ hl _ => exact ih hl
  | right op _ _ ih =>
    cases hn with
    | binary _ _ hr => exact ih hr

theorem PartOfList.isExpression {ss : List Node} {front : List String} (h : PartOfList p m ss front)
    (hss : ∀ s ∈ ss, s.IsStatement) : m.IsExpression := by
  induction h with
  | first rest h =>
    obtain ⟨⟨hn⟩, -⟩ := List.forall_mem_cons.mp hss
    exact h.isExpression hn
  | later _ _ ih => exact ih (List.forall_mem_cons.mp hss).2

/-- A part and what stands in front of it name the first bands of the whole. -/
theorem PartOf.isPrefix_bands {n : Node} {front : List String} (h : PartOf p m n front) :
    front ++ m.bands <+: n.bands := by
  induction h with
  | here => exact List.prefix_refl _
  | unary op _ ih => exact ih
  | left op right _ ih => exact ih.trans (List.prefix_append _ _)
  | @right op left right front _ _ ih =>
    rw [List.append_assoc]
    exact (List.prefix_append_right_inj left.bands).mpr ih

theorem PartOfList.isPrefix_bands {ss : List Node} {front : List String} (h : PartOfList p m ss front) :
    front ++ m.bands <+: bandsOfList ss := by
  induction h with
  | first rest h => exact h.isPrefix_bands.trans (List.prefix_append _ _)
  | @later s rest front _ _ ih =>
    rw [List.append_assoc]
    exact (List.prefix_append_right_inj s.bands).mpr ih

end Node

/-! ## Parts in the text -/

namespace Grammar

open Node Token

variable {p : Node → Prop} {m : Node} {cut : List Token → Prop} {ts : List Token}
  {ds : List (Derivation .expression)}

theorem band?_symbol? (t : Token) : t.symbol?.bind Symbol.band? = t.identifier? := by
  rw [symbol?, leaf?, identifier?]
  cases t.kind <;> rfl

theorem identifiers_eq (ts : List Token) :
    identifiers ts = (ts.filterMap symbol?).filterMap Symbol.band? := by
  rw [List.filterMap_filterMap, identifiers]
  exact congrArg (List.filterMap · ts) (funext fun t => (band?_symbol? t).symm)

/-- An expression names the identifiers of its text. -/
theorem bands_node {q : Phrase} (d : Derivation q) : d.node.bands = identifiers d.tokens := by
  rw [(isExpression_node d).bands_eq, inOrder_node, identifiers_eq]

/-- A program names the identifiers of its text. -/
theorem Program.bandsOfList_eq (h : Program cut ts ds) :
    bandsOfList (ds.map Derivation.statement) = identifiers ts := by
  have hbands (ds : List (Derivation .expression)) : bandsOfList (ds.map Derivation.statement) =
      ((ds.map Derivation.statement).flatMap Node.inOrder).filterMap Symbol.band? := by
    induction ds with
    | nil => rfl
    | cons d ds ih =>
      rw [List.map_cons, bandsOfList, ih, List.flatMap_cons, List.filterMap_append]
      exact congrArg (· ++ _) (isExpression_node d).bands_eq
  rw [hbands, h.inOrder, identifiers_eq]

theorem identifiers_append (ts us : List Token) :
    identifiers (ts ++ us) = identifiers ts ++ identifiers us :=
  List.filterMap_append

theorem identifiers_cons {t : Token} (h : t.kind ≠ .ident) (ts : List Token) :
    identifiers (t :: ts) = identifiers ts :=
  List.filterMap_cons_none (if_neg h)

theorem ne_ident_of_unary {t : Token} (h : t.kind ∈ unaryOperators) : t.kind ≠ .ident := by
  intro hident
  rw [hident] at h
  exact absurd h (by decide)

theorem ne_ident_of_operator {t : Token} {tier : Tier} (h : t.kind ∈ tier.operators) :
    t.kind ≠ .ident := by
  intro hident
  rw [hident] at h
  cases tier <;> exact absurd h (by decide)

/-- A part of an expression is written in one piece, behind the identifiers in front of it. -/
theorem exists_tokens_of_part {q : Phrase} (d : Derivation q) {front : List String}
    (h : PartOf p m d.node front) :
    ∃ (r : Phrase) (e : Derivation r) (us vs : List Token),
      d.tokens = us ++ e.tokens ++ vs ∧ e.node = m ∧ identifiers us = front := by
  induction d generalizing front with
  | leaf t n hleaf =>
    obtain ⟨rfl, rfl⟩ : n = m ∧ front = [] := by
      rw [Derivation.node] at h
      unfold leaf? at hleaf
      split at hleaf <;> simp only [Option.some.injEq, reduceCtorEq] at hleaf <;> subst hleaf <;>
        cases h <;> exact ⟨rfl, rfl⟩
    exact ⟨_, .leaf t n hleaf, [], [], by simp, rfl, rfl⟩
  | group opening inner closing hopening hclosing ih =>
    obtain ⟨r, e, us, vs, htokens, hnode, hfront⟩ := ih h
    refine ⟨r, e, opening :: us, vs ++ [closing], ?_, hnode, ?_⟩
    · rw [Derivation.tokens, htokens]
      simp only [List.cons_append, List.append_assoc]
    · rw [identifiers_cons (by rw [hopening]; decide), hfront]
  | atom inner ih => exact ih h
  | tighter inner ih => exact ih h
  | unary op right hop ih =>
    rw [Derivation.node] at h
    cases h with
    | here => exact ⟨_, .unary op right hop, [], [], by simp, rfl, rfl⟩
    | unary _ h =>
      obtain ⟨r, e, us, vs, htokens, hnode, hfront⟩ := ih h
      refine ⟨r, e, op :: us, vs, ?_, hnode, ?_⟩
      · rw [Derivation.tokens, htokens]
        simp only [List.cons_append]
      · rw [identifiers_cons (ne_ident_of_unary hop), hfront]
  | binary left op right hop ihl ihr =>
    rw [Derivation.node] at h
    cases h with
    | here => exact ⟨_, .binary left op right hop, [], [], by simp, rfl, rfl⟩
    | left _ _ h =>
      obtain ⟨r, e, us, vs, htokens, hnode, hfront⟩ := ihl h
      refine ⟨r, e, us, vs ++ op :: right.tokens, ?_, hnode, hfront⟩
      rw [Derivation.tokens, htokens]
      simp only [List.append_assoc]
    | @right _ _ _ front _ h =>
      obtain ⟨r, e, us, vs, htokens, hnode, hfront⟩ := ihr h
      refine ⟨r, e, left.tokens ++ op :: us, vs, ?_, hnode, ?_⟩
      · rw [Derivation.tokens, htokens]
        simp only [List.append_assoc, List.cons_append]
      · rw [identifiers_append, identifiers_cons (ne_ident_of_operator hop), hfront, bands_node]

/-- A part of a program is written in one piece, behind the identifiers in front of it. -/
theorem Program.exists_tokens_of_part (h : Program cut ts ds) {front : List String}
    (hpart : PartOfList p m (ds.map Derivation.statement) front) :
    ∃ (r : Phrase) (e : Derivation r) (us vs : List Token),
      ts = us ++ e.tokens ++ vs ∧ e.node = m ∧ identifiers us = front := by
  induction h generalizing front with
  | nil => cases hpart
  | @bare d ts ds _ rest ih =>
    rw [List.map_cons, Derivation.statement] at hpart
    cases hpart with
    | first _ hpart =>
      obtain ⟨r, e, us, vs, htokens, hnode, hfront⟩ := Grammar.exists_tokens_of_part d hpart
      exact ⟨r, e, us, vs ++ ts, by rw [htokens, List.append_assoc], hnode, hfront⟩
    | @later _ _ front _ hpart =>
      obtain ⟨r, e, us, vs, htokens, hnode, hfront⟩ := ih hpart
      refine ⟨r, e, d.tokens ++ us, vs, ?_, hnode, ?_⟩
      · rw [htokens]
        simp only [List.append_assoc]
      · rw [identifiers_append, hfront, ← bands_node]
        rfl
  | @terminated d semicolon hsemicolon ts ds rest ih =>
    rw [List.map_cons, Derivation.statement] at hpart
    cases hpart with
    | first _ hpart =>
      obtain ⟨r, e, us, vs, htokens, hnode, hfront⟩ := Grammar.exists_tokens_of_part d hpart
      exact ⟨r, e, us, vs ++ semicolon :: ts, by rw [htokens, List.append_assoc], hnode, hfront⟩
    | @later _ _ front _ hpart =>
      obtain ⟨r, e, us, vs, htokens, hnode, hfront⟩ := ih hpart
      refine ⟨r, e, d.tokens ++ semicolon :: us, vs, ?_, hnode, ?_⟩
      · rw [htokens]
        simp only [List.append_assoc, List.cons_append]
      · rw [identifiers_append, identifiers_cons (by rw [hsemicolon]; decide), hfront,
          ← bands_node]
        rfl

end Grammar

end RasterAlgebra
