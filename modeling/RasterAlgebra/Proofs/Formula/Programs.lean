import RasterAlgebra.Proofs.Formula.Reading

/-!
# Reading programs by the grammar

A text is read without a fault exactly if its tokens are a program, and then its statements are the
trees of the program whose statements are as long as they can be (`parseWithin_eq_trees_of_derives`).

* `exists_derivesGreedily_of_derives`: cutting statements greedily loses no program. Where a statement
  could end in front of an operator, that operator is a minus sign, and the two statements on its sides
  are one expression as well.
* `statements_of_derivesGreedily`, `exists_derivesGreedily_of_statements`: the loop over the statements
  follows the greedy cut.
* `inOrder_node`: leaves and operators stand in the tree in the order in which they stand in the text.
-/

namespace RasterAlgebra

namespace Grammar

theorem Program.inOrder {cut : List Token → Prop} {ts : List Token}
    {ds : List (Derivation .expression)} (h : Program cut ts ds) :
    (ds.map Derivation.statement).flatMap Node.inOrder = ts.filterMap Token.symbol? := by
  induction h with
  | nil => rfl
  | bare d _ _ ih =>
    rw [List.map_cons, List.flatMap_cons, ih, List.filterMap_append, ← inOrder_node]
    rfl
  | terminated d semicolon hsemicolon _ ih =>
    have hnone : semicolon.symbol? = none := symbol?_eq_none (by rw [hsemicolon]; decide)
    rw [List.map_cons, List.flatMap_cons, ih, List.filterMap_append,
      List.filterMap_cons_none hnone, ← inOrder_node]
    rfl

/-- No statement of a program has more tokens than the program. -/
theorem Program.length_tokens_le {cut : List Token → Prop} {ts : List Token}
    {ds : List (Derivation .expression)} (h : Program cut ts ds) :
    ∀ d ∈ ds, d.tokens.length ≤ ts.length := by
  induction h with
  | nil => simp
  | bare d _ _ ih =>
    intro e he
    rw [List.length_append]
    rcases List.mem_cons.mp he with rfl | he
    · omega
    · have := ih e he
      omega
  | terminated d _ _ _ ih =>
    intro e he
    rw [List.length_append, List.length_cons]
    rcases List.mem_cons.mp he with rfl | he
    · omega
    · have := ih e he
      omega

/-! ## Cutting statements greedily -/

theorem cuts_nil : Cuts [] := by
  intro t ht
  simp at ht

theorem cuts_semicolon {t : Token} (h : t.kind = .semicolon) (ts : List Token) : Cuts (t :: ts) := by
  intro u hu tier hmem
  rw [List.head?_cons, Option.mem_def] at hu
  obtain rfl := Option.some.inj hu
  rw [h] at hmem
  cases tier <;> exact absurd hmem (by decide)

theorem Program.mono {cut cut' : List Token → Prop} (hcut : ∀ ts, cut ts → cut' ts)
    {ts : List Token} {ds : List (Derivation .expression)} (h : Program cut ts ds) :
    Program cut' ts ds := by
  induction h with
  | nil => exact .nil
  | bare d hc _ ih => exact .bare d (hcut _ hc) ih
  | terminated d semicolon hsemicolon _ ih => exact .terminated d semicolon hsemicolon ih

/-- A program whose tokens start with an operator between two operands starts with a minus sign. -/
theorem exists_minus_of_not_cuts {p : Phrase} {d : Derivation p} {ts : List Token}
    (h : ¬ Cuts (d.tokens ++ ts)) : ∃ t us, d.tokens = t :: us ∧ t.kind = .minus := by
  obtain ⟨t, us, htokens, hstart⟩ := exists_head_tokens d
  refine ⟨t, us, htokens, ?_⟩
  by_contra hkind
  refine h fun u hu tier hmem => hkind ?_
  rw [htokens, List.cons_append, List.head?_cons, Option.mem_def] at hu
  obtain rfl := Option.some.inj hu
  exact eq_minus_of_mem hmem hstart

/-- Cutting statements greedily loses no program. -/
theorem exists_derivesGreedily_of_derives {ts : List Token} {ds : List (Derivation .expression)}
    (h : Derives ts ds) : ∃ ds', DerivesGreedily ts ds' := by
  induction h with
  | nil => exact ⟨[], .nil⟩
  | terminated d semicolon hsemicolon _ ih =>
    obtain ⟨ds', h'⟩ := ih
    exact ⟨d :: ds', .terminated d semicolon hsemicolon h'⟩
  | @bare d ts _ _ _ ih =>
    obtain ⟨ds', h'⟩ := ih
    by_cases hcut : Cuts ts
    · exact ⟨d :: ds', .bare d hcut h'⟩
    · -- the next statement starts with a minus sign and belongs to this one
      cases h' with
      | nil => exact absurd cuts_nil hcut
      | bare e hcut' rest =>
        obtain ⟨t, us, htokens, hminus⟩ := exists_minus_of_not_cuts hcut
        obtain ⟨d', h'⟩ := exists_merge e d htokens hminus
        rw [← List.append_assoc, ← h']
        exact ⟨d' :: _, .bare d' hcut' rest⟩
      | terminated e semicolon hsemicolon rest =>
        obtain ⟨t, us, htokens, hminus⟩ := exists_minus_of_not_cuts hcut
        obtain ⟨d', h'⟩ := exists_merge e d htokens hminus
        rw [← List.append_assoc, ← h']
        exact ⟨d' :: _, .terminated d' semicolon hsemicolon rest⟩

/-- No program starts with a semicolon. -/
theorem Program.skipSemicolon_eq {cut : List Token → Prop} {ts : List Token}
    {ds : List (Derivation .expression)} (h : Program cut ts ds) :
    Parser.skipSemicolon ts = ts := by
  have hexpression : ∀ (d : Derivation .expression) (us : List Token),
      Parser.skipSemicolon (d.tokens ++ us) = d.tokens ++ us := by
    intro d us
    obtain ⟨t, ts', htokens, hstart⟩ := exists_head_tokens d
    have hkind : t.kind ≠ .semicolon := by
      intro hkind
      rw [hkind] at hstart
      exact absurd hstart (by decide)
    rw [htokens, List.cons_append, Parser.skipSemicolon, if_neg hkind]
  cases h with
  | nil => rfl
  | bare d _ _ => exact hexpression d _
  | terminated d _ _ _ => exact hexpression d _

end Grammar

open Grammar

namespace Parser

variable {b : Bounds}

/-! ## One statement -/

/-- A statement within the limits is read as what it is. -/
theorem statement_eq_ok {d : Derivation .expression} {ts : List Token} (hcut : Cuts ts)
    (hfits : Fits b b.limit.toNat d) :
    statement b (d.tokens ++ ts) = (.ok d.statement, skipSemicolon ts) := by
  rw [statement, expression_eq_ok (Nat.zero_le _) (stops_zero_iff_cuts.mpr hcut) hfits]
  rfl

/-- A statement beyond a limit ends in a fault that says so. -/
theorem statement_tooDeep {d : Derivation .expression} {ts : List Token} (hcut : Cuts ts)
    (hfits : ¬ Fits b b.limit.toNat d) :
    ∃ t rest, statement b (d.tokens ++ ts) = (.error (b.tooDeep t), rest) := by
  obtain ⟨t, rest, h⟩ := expression_tooDeep d 0 b.limit.toNat ts (Nat.le_refl _) (Nat.zero_le _)
    ((stops_zero_iff_cuts.mpr hcut).mono (Nat.zero_le _)) hfits
  exact ⟨t, rest, by rw [statement, h]⟩

/-- Whatever is read as a statement has a derivation that cannot go on. -/
theorem exists_derivation_of_statement {ts rest : List Token} {n : Node}
    (h : statement b ts = (.ok n, rest)) :
    ∃ (d : Derivation .expression) (us : List Token), d.tokens ++ us = ts ∧ n = d.statement ∧
      Fits b b.limit.toNat d ∧ Cuts us ∧ rest = skipSemicolon us := by
  rw [statement] at h
  split at h
  · simp at h
  · rename_i tree us heq
    obtain ⟨p, e, -, rfl, rfl, hfits, hstop⟩ :=
      exists_derivation_of_expression (Nat.le_refl _) 0 ts tree us (Nat.zero_le _) heq
    obtain ⟨d, htokens, hnode, hnesting⟩ := exists_tier e .mask (Nat.zero_le _)
    obtain ⟨rfl, rfl⟩ : Node.statement e.node = n ∧ skipSemicolon us = rest := by simpa using h
    refine ⟨d, us, by rw [htokens], ?_, ?_, stops_zero_iff_cuts.mp hstop, rfl⟩
    · rw [Derivation.statement, hnode]
    · rwa [Fits, hnode, hnesting]

/-! ## All statements -/

theorem statements_nil (b : Bounds) : statements b [] = ([], []) := by
  rw [statements]
  rfl

theorem ne_nil_of_statement_ok {ts rest : List Token} {n : Node}
    (h : statement b ts = (.ok n, rest)) : ts ≠ [] := by
  have hlt := (statement_tail b ts).2
  rw [h] at hlt
  exact List.ne_nil_of_length_pos (Nat.zero_lt_of_lt (hlt rfl))

theorem statements_of_ok {ts rest : List Token} {n : Node} (h : statement b ts = (.ok n, rest)) :
    statements b ts = (n :: (statements b rest).1, (statements b rest).2) := by
  rw [statements, dif_neg (ne_nil_of_statement_ok h)]
  split <;> rename_i heq <;> rw [h] at heq
  · obtain ⟨rfl, rfl⟩ : n = _ ∧ rest = _ := by simpa using heq
    rfl
  · simp at heq

theorem statements_of_error {ts rest : List Token} {f : Fault} (hne : ts ≠ [])
    (h : statement b ts = (.error f, rest)) :
    statements b ts =
      ((statements b (resume rest)).1, f :: (statements b (resume rest)).2) := by
  rw [statements, dif_neg hne]
  split <;> rename_i heq <;> rw [h] at heq
  · simp at heq
  · obtain ⟨rfl, rfl⟩ : f = _ ∧ rest = _ := by simpa using heq
    rfl

/-- Going on behind a fault uses up a token, if there was one in front of the statement. -/
theorem length_resume_lt_of_suffix {ts rest : List Token} (hne : ts ≠ []) (h : rest <:+ ts) :
    (resume rest).length < ts.length := by
  cases rest with
  | nil => exact List.length_pos_iff.mpr hne
  | cons t rest =>
    exact Nat.lt_of_lt_of_le (resume_length_lt (List.cons_ne_nil t rest)) h.length_le

/-- Induction along the statements of a text: it is empty, or starts with a statement, or starts with a
fault. -/
@[elab_as_elim]
theorem statements_induction {motive : List Token → Prop} (nil : motive [])
    (ok : ∀ ts n rest, statement b ts = (.ok n, rest) → motive rest → motive ts)
    (error : ∀ ts f rest, ts ≠ [] → statement b ts = (.error f, rest) → motive (resume rest) →
      motive ts)
    (ts : List Token) : motive ts := by
  induction hn : ts.length using Nat.strongRecOn generalizing ts with
  | _ n ih =>
    subst hn
    by_cases hne : ts = []
    · exact hne ▸ nil
    · have htail := statement_tail b ts
      cases hread : statement b ts with
      | mk r rest =>
        rw [hread] at htail
        cases r with
        | ok node => exact ok ts node rest hread (ih rest.length (htail.2 rfl) rest rfl)
        | error f =>
          have hlt := length_resume_lt_of_suffix hne htail.1
          exact error ts f rest hne hread (ih _ hlt _ rfl)

/-- Whatever else a text holds, the statements that are read have derivations within the limits. -/
theorem exists_derivation_of_mem_statements (ts : List Token) :
    ∀ n ∈ (statements b ts).1, ∃ d : Derivation .expression,
      n = d.statement ∧ Fits b b.limit.toNat d := by
  induction ts using statements_induction (b := b) with
  | nil => simp [statements_nil]
  | ok ts n rest hread ih =>
    rw [statements_of_ok hread]
    refine List.forall_mem_cons.mpr ⟨?_, ih⟩
    obtain ⟨d, -, -, hnode, hfits, -⟩ := exists_derivation_of_statement hread
    exact ⟨d, hnode, hfits⟩
  | error ts f rest hne hread ih =>
    rw [statements_of_error hne hread]
    exact ih

/-- A program within the limits is read without a fault, as its statements. -/
theorem statements_of_derivesGreedily {ts : List Token} {ds : List (Derivation .expression)}
    (h : DerivesGreedily ts ds) (hfits : ∀ d ∈ ds, Fits b b.limit.toNat d) :
    statements b ts = (ds.map Derivation.statement, []) := by
  induction h with
  | nil => exact statements_nil b
  | bare d hcut rest ih =>
    have htail := ih fun e he => hfits e (List.mem_cons_of_mem d he)
    rw [statements_of_ok (statement_eq_ok hcut (hfits d List.mem_cons_self)), rest.skipSemicolon_eq,
      htail]
    rfl
  | terminated d semicolon hsemicolon rest ih =>
    have htail := ih fun e he => hfits e (List.mem_cons_of_mem d he)
    have hfit := hfits d List.mem_cons_self
    rw [statements_of_ok (statement_eq_ok (cuts_semicolon hsemicolon _) hfit), skipSemicolon,
      if_pos hsemicolon, htail]
    rfl

/-- A program is read without a fault exactly if all its statements are within the limits. -/
theorem faults_eq_nil_iff_of_derivesGreedily {ts : List Token} {ds : List (Derivation .expression)}
    (h : DerivesGreedily ts ds) :
    (statements b ts).2 = [] ↔ ∀ d ∈ ds, Fits b b.limit.toNat d := by
  -- a first statement beyond a limit leaves a fault
  have hfirst : ∀ (d : Derivation .expression) (us : List Token), Cuts us →
      (statements b (d.tokens ++ us)).2 = [] → Fits b b.limit.toNat d := by
    intro d us hcut hnil
    by_contra hfits
    obtain ⟨t, rest, hread⟩ := statement_tooDeep hcut hfits
    obtain ⟨u, vs, htokens, -⟩ := exists_head_tokens d
    have hne : d.tokens ++ us ≠ [] := by simp [htokens]
    rw [statements_of_error hne hread] at hnil
    simp at hnil
  refine ⟨?_, fun hfits => by rw [statements_of_derivesGreedily h hfits]⟩
  induction h with
  | nil => simp
  | @bare d ts ds hcut rest ih =>
    intro hnil
    have hfits := hfirst d ts hcut hnil
    rw [statements_of_ok (statement_eq_ok hcut hfits), rest.skipSemicolon_eq] at hnil
    exact List.forall_mem_cons.mpr ⟨hfits, ih hnil⟩
  | @terminated d semicolon hsemicolon ts ds rest ih =>
    intro hnil
    have hcut := cuts_semicolon hsemicolon ts
    have hfits := hfirst d (semicolon :: ts) hcut hnil
    rw [statements_of_ok (statement_eq_ok hcut hfits), skipSemicolon, if_pos hsemicolon] at hnil
    exact List.forall_mem_cons.mpr ⟨hfits, ih hnil⟩

/-- What is read without a fault is a program within the limits. -/
theorem exists_derivesGreedily_of_statements {ts : List Token} (h : (statements b ts).2 = []) :
    ∃ ds, DerivesGreedily ts ds ∧ (∀ d ∈ ds, Fits b b.limit.toNat d) := by
  induction ts using statements_induction (b := b) with
  | nil => exact ⟨[], .nil, by simp⟩
  | error ts f rest hne hread =>
    rw [statements_of_error hne hread] at h
    simp at h
  | ok ts n rest hread ih =>
    rw [statements_of_ok hread] at h
    obtain ⟨ds, hprogram, hfits⟩ := ih h
    obtain ⟨d, us, rfl, -, hfit, hcut, rfl⟩ := exists_derivation_of_statement hread
    have hall : ∀ e ∈ d :: ds, Fits b b.limit.toNat e := by
      intro e he
      rcases List.mem_cons.mp he with rfl | he
      · exact hfit
      · exact hfits e he
    refine ⟨d :: ds, ?_, hall⟩
    -- the statement took a semicolon with it exactly if one stands behind it
    cases us with
    | nil => exact .bare d hcut hprogram
    | cons t us =>
      by_cases hsemicolon : t.kind = .semicolon
      · rw [skipSemicolon, if_pos hsemicolon] at hprogram
        exact .terminated d t hsemicolon hprogram
      · rw [skipSemicolon, if_neg hsemicolon] at hprogram
        exact .bare d hcut hprogram

end Parser

/-! ## Whole texts -/

/-- A limit above the number of tokens of a text is no limit. -/
theorem fits_of_length_lt {b : Parser.Bounds} {cut : List Token → Prop} {ts : List Token}
    {ds : List (Derivation .expression)} (h : Program cut ts ds)
    (hlimit : (ts.length : ℤ) < b.limit) : ∀ d ∈ ds, Parser.Fits b b.limit.toNat d := by
  intro d hd
  have hlength := h.length_tokens_le d hd
  have hnesting := nesting_le_length d
  have hdepth := depth_le_length d
  exact ⟨by omega, by omega⟩

/-- A text is read without a fault exactly if its tokens are a program, and then its statements are the
trees of that program: without parentheses, with every operator between two operands grouped to the
left, and with the leaves and operators of the text in the order of the text. It makes no difference
whether statements may end anywhere or have to be as long as they can be; which trees a text has is
what the latter decides. -/
theorem parseWithin_eq_trees_of_derives (source : String) (limit : ℤ)
    (hlimit : ((Cursor.start source).lexemes.length : ℤ) < limit) :
    ((parseWithin limit source).faults = [] ↔ ∃ ds, Derives (Cursor.start source).lexemes ds) ∧
    ((parseWithin limit source).faults = [] ↔
      ∃ ds, DerivesGreedily (Cursor.start source).lexemes ds) ∧
    ∀ ds, DerivesGreedily (Cursor.start source).lexemes ds →
      (parseWithin limit source).statements = ds.map Derivation.statement ∧
      (parseWithin limit source).statements.flatMap Node.inOrder =
        (Cursor.start source).lexemes.filterMap Token.symbol? := by
  let b : Parser.Bounds := ⟨limit, (Cursor.start source).endToken⟩
  have hread : ∀ ds, DerivesGreedily (Cursor.start source).lexemes ds →
      parseWithin limit source = ⟨ds.map Derivation.statement, []⟩ := by
    intro ds h
    rw [parseWithin, Parser.statements_of_derivesGreedily (b := b) h (fits_of_length_lt h hlimit)]
  have hgreedy : (parseWithin limit source).faults = [] ↔
      ∃ ds, DerivesGreedily (Cursor.start source).lexemes ds := by
    constructor
    · intro h
      obtain ⟨ds, hds, -⟩ := Parser.exists_derivesGreedily_of_statements (b := b) h
      exact ⟨ds, hds⟩
    · rintro ⟨ds, hds⟩
      rw [hread ds hds]
  refine ⟨hgreedy.trans ⟨?_, ?_⟩, hgreedy, ?_⟩
  · rintro ⟨ds, hds⟩
    exact ⟨ds, hds.mono fun _ _ => trivial⟩
  · rintro ⟨ds, hds⟩
    exact exists_derivesGreedily_of_derives hds
  · intro ds hds
    rw [hread ds hds]
    exact ⟨rfl, hds.inOrder⟩

/-- Two statements without a semicolon between them, with six of the eight tokens in the trees. -/
theorem parseWithin_eq_trees_of_derives_masks :
    ((Cursor.start "a -b # (c) d").lexemes.length : ℤ) < 9 ∧
    ∃ ds, DerivesGreedily (Cursor.start "a -b # (c) d").lexemes ds ∧
      (parseWithin 9 "a -b # (c) d").statements = ds.map Derivation.statement ∧
      (parseWithin 9 "a -b # (c) d").statements.flatMap Node.inOrder =
        (Cursor.start "a -b # (c) d").lexemes.filterMap Token.symbol? := by
  have hlimit : ((Cursor.start "a -b # (c) d").lexemes.length : ℤ) < 9 := by decide +kernel
  have hread := parseWithin_eq_trees_of_derives "a -b # (c) d" 9 hlimit
  obtain ⟨ds, hds⟩ := hread.2.1.mp (by decide +kernel)
  exact ⟨hlimit, ds, hds, hread.2.2 ds hds⟩

end RasterAlgebra
