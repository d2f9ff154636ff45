import RasterAlgebra.Proofs.Formula.Recovery

/-!
# The limit on nesting and depth

What the limit of the reader does, on every text.

* `expressionCounted` reads an expression as `expression` does, and keeps count of the expressions that are
  being read at one time (`result_expressionCounted`). They are never more than one beyond the limit
  (`most_expressionCounted_le`), and nor are they for a whole text (`mostActive_le`).
* `tooDeep_of_derivesGreedily`: on a program the limit is the only thing that a fault can be about. A fault
  ends the statements in front of the next semicolon, and what is left is a program again.

So the limit decides whether a program is read, and nothing else about it
(`parseWithin_eq_iff_within_limit`).
-/

namespace RasterAlgebra

open Grammar

/-- Neither the depth of the tree nor the nesting in the text goes beyond the limit. -/
def Grammar.Derivation.Within (limit : ℤ) (d : Derivation .expression) : Prop :=
  (d.node.depth : ℤ) ≤ limit ∧ (d.nesting : ℤ) ≤ limit

namespace Parser

variable {b : Bounds}

/-! ## Counting the expressions that are being read -/

/-- What was read, and how many expressions were being read at one time at the most. -/
structure Counted (α : Type) where
  result : Result α
  most : ℕ

/-- An operand, where `expr` counts the expressions inside of it. -/
def operandCounted (b : Bounds) (expr : ℕ → List Token → Counted Tree) (ts : List Token) :
    Counted Tree where
  result := operand b (fun power ts => (expr power ts).result) ts
  most := match ts with
    | [] => 0
    | t :: rest =>
      if t.kind ∈ unaryOperators then (expr unaryPower rest).most
      else if t.kind = .leftParen then (expr 0 rest).most
      else 0

/-- Operators behind `left`, where `expr` counts the expressions to the right of them. -/
def operatorsCounted (b : Bounds) (expr : ℕ → List Token → Counted Tree) (power : ℕ) (left : Tree)
    (ts : List Token) : Counted Tree :=
  match ts with
  | [] => ⟨(.ok left, []), 0⟩
  | t :: rest =>
    match t.kind.bindingPower? with
    | none => ⟨(.ok left, t :: rest), 0⟩
    | some strength =>
      if strength ≤ power then ⟨(.ok left, t :: rest), 0⟩
      else
        match expr strength rest with
        | ⟨(.error fault, rest), most⟩ => ⟨(.error fault, rest), most⟩
        | ⟨(.ok right, rest), most⟩ =>
          let depth := max left.depth right.depth + 1
          if b.limit < depth then ⟨(.error (b.tooDeep t), rest), most⟩
          else
            let others := operatorsCounted b expr power ⟨.binary t.text left.node right.node, depth⟩ rest
            ⟨others.result, max most others.most⟩
  termination_by b.limit.toNat - left.depth
  decreasing_by all_goals omega

/-- An expression that is read while `active` expressions are being read, itself among them. -/
def expressionCounted (b : Bounds) (active power : ℕ) (ts : List Token) : Counted Tree :=
  if b.limit < active then ⟨(.error (b.tooDeep (b.peek ts)), ts), active⟩
  else
    match operandCounted b (expressionCounted b (active + 1)) ts with
    | ⟨(.error fault, rest), most⟩ => ⟨(.error fault, rest), max active most⟩
    | ⟨(.ok left, rest), most⟩ =>
      let others := operatorsCounted b (expressionCounted b (active + 1)) power left rest
      ⟨others.result, max active (max most others.most)⟩
  termination_by b.limit.toNat + 1 - active
  decreasing_by all_goals omega

section
variable {expr : ℕ → List Token → Counted Tree}

theorem result_operandCounted (ts : List Token) :
    (operandCounted b expr ts).result = operand b (fun power ts => (expr power ts).result) ts := rfl

theorem result_operatorsCounted (power : ℕ) (left : Tree) (ts : List Token) :
    (operatorsCounted b expr power left ts).result =
      operators b (fun power ts => (expr power ts).result) power left ts := by
  fun_induction operatorsCounted b expr power left ts with
  | case1 left => exact (operators_of_stops (stops_nil power) left).symm
  | case2 left t rest hs => exact (operators_of_stops (stops_cons_of_none hs power rest) left).symm
  | case3 left t rest strength hs hle =>
    exact (operators_of_stops (stops_cons_of_le hs hle rest) left).symm
  | case4 left t rest strength hs hlt fault rest' most heq =>
    rw [operators_cons hs (Nat.lt_of_not_le hlt), heq]
  | case5 left t rest strength hs hlt right rest' most heq depth hdeep =>
    rw [operators_cons hs (Nat.lt_of_not_le hlt), heq]
    exact (if_pos hdeep).symm
  | case6 left t rest strength hs hlt right rest' most heq depth hdeep others ih =>
    rw [operators_cons hs (Nat.lt_of_not_le hlt), heq]
    exact ih.trans (if_neg hdeep).symm

/-- If no expression inside of an operand counts more than `n`, neither does the operand. -/
theorem most_operandCounted_le {n : ℕ} (hexpr : ∀ power ts, (expr power ts).most ≤ n)
    (ts : List Token) : (operandCounted b expr ts).most ≤ n := by
  simp only [operandCounted]
  split
  · exact Nat.zero_le n
  · split
    · exact hexpr _ _
    · split
      · exact hexpr _ _
      · exact Nat.zero_le n

theorem most_operatorsCounted_le {n : ℕ} (hexpr : ∀ power ts, (expr power ts).most ≤ n) (power : ℕ)
    (left : Tree) (ts : List Token) : (operatorsCounted b expr power left ts).most ≤ n := by
  fun_induction operatorsCounted b expr power left ts with
  | case1 | case2 | case3 => exact Nat.zero_le n
  | case4 left t rest strength _ _ fault rest' most heq
  | case5 left t rest strength _ _ right rest' most heq =>
    have hmost := hexpr strength rest
    rwa [heq] at hmost
  | case6 left t rest strength _ _ right rest' most heq depth _ others ih =>
    have hmost := hexpr strength rest
    rw [heq] at hmost
    exact Nat.max_le.mpr ⟨hmost, ih⟩

end

/-- Counting does not change what is read. -/
theorem result_expressionCounted {active room : ℕ} (hactive : 0 < active)
    (hroom : active + room = b.limit.toNat + 1) (power : ℕ) (ts : List Token) :
    (expressionCounted b active power ts).result = expression b room power ts := by
  induction room generalizing active power ts with
  | zero =>
    rw [expressionCounted, if_pos (by omega), expression]
  | succ room ih =>
    have hexpr : (fun power ts => (expressionCounted b (active + 1) power ts).result) =
        expression b room := by
      funext power ts
      exact ih (Nat.succ_pos active) (by omega) power ts
    have hleft : (operandCounted b (expressionCounted b (active + 1)) ts).result =
        operand b (expression b room) ts := by
      rw [result_operandCounted, hexpr]
    rw [expressionCounted, if_neg (by omega), expression, ← hleft]
    split
    · rename_i heq
      rw [heq]
    · rename_i left rest most heq
      rw [heq]
      exact (result_operatorsCounted power left rest).trans (by rw [hexpr])

/-- While an expression is read, no more expressions are being read than one beyond the limit. -/
theorem most_expressionCounted_le {active : ℕ} (hactive : active ≤ b.limit.toNat + 1) (power : ℕ)
    (ts : List Token) : (expressionCounted b active power ts).most ≤ b.limit.toNat + 1 := by
  -- on how many expressions may still be entered
  induction hroom : b.limit.toNat + 1 - active generalizing active power ts with
  | zero =>
    rw [expressionCounted, if_pos (by omega)]
    exact hactive
  | succ room ih =>
    rw [expressionCounted]
    split
    · exact hactive
    · have hexpr : ∀ power ts, (expressionCounted b (active + 1) power ts).most ≤ b.limit.toNat + 1 :=
        fun power ts => ih (by omega) power ts (by omega)
      have hleft := most_operandCounted_le (b := b) hexpr ts
      split
      · rename_i heq
        rw [heq] at hleft
        exact Nat.max_le.mpr ⟨hactive, hleft⟩
      · rename_i left rest most heq
        rw [heq] at hleft
        have hothers := most_operatorsCounted_le (b := b) hexpr power left rest
        exact Nat.max_le.mpr ⟨hactive, Nat.max_le.mpr ⟨hleft, hothers⟩⟩

/-- The tokens with which reading goes on behind a statement, or behind the fault in it. -/
def afterStatement (b : Bounds) (ts : List Token) : List Token :=
  match statement b ts with
  | (.ok _, rest) => rest
  | (.error _, rest) => resume rest

/-- Every statement uses up a token, and so does every fault. -/
theorem length_afterStatement_lt {ts : List Token} (hne : ts ≠ []) :
    (afterStatement b ts).length < ts.length := by
  have htail := statement_tail b ts
  rw [afterStatement]
  split
  · rename_i heq
    rw [heq] at htail
    exact htail.2 rfl
  · rename_i heq
    rw [heq] at htail
    exact length_resume_lt_of_suffix hne htail.1

/-- How many expressions are being read at one time at the most, while all statements of a list of tokens
are read. -/
def mostActive (b : Bounds) (ts : List Token) : ℕ :=
  if _hne : ts = [] then 0
  else max (expressionCounted b 1 0 ts).most (mostActive b (afterStatement b ts))
  termination_by ts.length
  decreasing_by exact length_afterStatement_lt _hne

theorem mostActive_le (b : Bounds) (ts : List Token) : mostActive b ts ≤ b.limit.toNat + 1 := by
  fun_induction mostActive b ts with
  | case1 => exact Nat.zero_le _
  | case2 ts _ ih => exact Nat.max_le.mpr ⟨most_expressionCounted_le (by omega) 0 ts, ih⟩

/-! ## Programs beyond the limit -/

theorem resume_derivation {p : Phrase} (d : Derivation p) (rest : List Token) :
    resume (d.tokens ++ rest) = resume rest :=
  resume_append (fun t ht => ne_semicolon_of_not_outside (not_outside_of_mem_tokens d t ht)) rest

/-- What stands behind a semicolon of a program is a program. -/
theorem exists_program_resume {cut : List Token → Prop} {ts : List Token}
    {ds : List (Derivation .expression)} (h : Program cut ts ds) : ∃ ds', Program cut (resume ts) ds' := by
  induction h with
  | nil => exact ⟨[], .nil⟩
  | bare d _ _ ih => rwa [resume_derivation]
  | @terminated d semicolon hsemicolon _ ds rest _ =>
    rw [resume_derivation, resume_cons_of_eq hsemicolon]
    exact ⟨ds, rest⟩

/-- A program that is not empty starts with a statement, and goes on with a program. -/
theorem exists_first_statement {ts : List Token} {ds : List (Derivation .expression)}
    (h : DerivesGreedily ts ds) (hne : ts ≠ []) :
    ∃ (d : Derivation .expression) (us : List Token) (ds' : List (Derivation .expression)),
      ts = d.tokens ++ us ∧ Cuts us ∧ DerivesGreedily (skipSemicolon us) ds' := by
  cases h with
  | nil => exact absurd rfl hne
  | bare d hcut rest => exact ⟨d, _, _, rfl, hcut, rest.skipSemicolon_eq.symm ▸ rest⟩
  | @terminated d semicolon hsemicolon ts ds rest =>
    refine ⟨d, semicolon :: ts, ds, rfl, cuts_semicolon hsemicolon ts, ?_⟩
    rw [skipSemicolon, if_pos hsemicolon]
    exact rest

/-- On a program, the limit is the only thing that a fault can be about. -/
theorem tooDeep_of_derivesGreedily {ts : List Token} {ds : List (Derivation .expression)}
    (h : DerivesGreedily ts ds) : ∀ f ∈ (statements b ts).2, f.cause = .tooDeep b.limit := by
  induction ts using statements_induction (b := b) generalizing ds with
  | nil => simp [statements_nil]
  | ok ts n rest hread ih =>
    obtain ⟨d, us, ds', rfl, hcut, hrest⟩ := exists_first_statement h (ne_nil_of_statement_ok hread)
    have hfits : Fits b b.limit.toNat d := by
      by_contra hfits
      obtain ⟨t, rest', hdeep⟩ := statement_tooDeep hcut hfits
      simp [hread] at hdeep
    have hok := statement_eq_ok hcut hfits
    obtain ⟨-, rfl⟩ : n = d.statement ∧ rest = skipSemicolon us := by simpa [hread] using hok
    rw [statements_of_ok hread]
    exact ih hrest
  | error ts f rest hne hread ih =>
    obtain ⟨taken, htaken, houtside, -⟩ := takes_of_statement_error hread
    have hresume : resume ts = resume rest := by
      rw [← htaken]
      exact resume_append (fun t ht => ne_semicolon_of_not_outside (houtside t ht)) rest
    obtain ⟨ds', hrest⟩ := exists_program_resume h
    obtain ⟨d, us, -, rfl, hcut, -⟩ := exists_first_statement h hne
    have hfits : ¬ Fits b b.limit.toNat d := by
      intro hfits
      simp [statement_eq_ok hcut hfits] at hread
    obtain ⟨t, rest', hdeep⟩ := statement_tooDeep hcut hfits
    obtain ⟨rfl, -⟩ : f = b.tooDeep t ∧ rest = rest' := by simpa [hread] using hdeep
    rw [statements_of_error hne hread]
    exact List.forall_mem_cons.mpr ⟨rfl, ih (hresume ▸ hrest)⟩

/-- A derivation is within the limits of a reader at the beginning of a statement. -/
theorem fits_iff_within {d : Derivation .expression} :
    Fits b b.limit.toNat d ↔ d.Within b.limit := by
  have hpos := nesting_pos d
  rw [Fits, Derivation.Within]
  omega

end Parser

/-! ## Whole texts -/

/-- A program whose statements are within the limit is read as its statements. -/
theorem parseWithin_of_within {source : String} {ds : List (Derivation .expression)}
    (h : DerivesGreedily (Cursor.start source).lexemes ds) {limit : ℤ} (hds : ∀ d ∈ ds, d.Within limit) :
    parseWithin limit source = ⟨ds.map Derivation.statement, []⟩ := by
  have hread := Parser.statements_of_derivesGreedily (b := .within limit source) h
    fun d hd => Parser.fits_iff_within.mpr (hds d hd)
  exact congrArg (fun r => Parse.mk r.1 r.2) hread

theorem faults_eq_nil_iff_within {source : String} {ds : List (Derivation .expression)}
    (h : DerivesGreedily (Cursor.start source).lexemes ds) (limit : ℤ) :
    (parseWithin limit source).faults = [] ↔ ∀ d ∈ ds, d.Within limit :=
  (Parser.faults_eq_nil_iff_of_derivesGreedily (b := .within limit source) h).trans
    (forall₂_congr fun _ _ => Parser.fits_iff_within)

/-- What is read without a fault is a program within the limit. -/
theorem exists_within_of_faults_eq_nil {source : String} {limit : ℤ}
    (h : (parseWithin limit source).faults = []) :
    ∃ ds, DerivesGreedily (Cursor.start source).lexemes ds ∧ ∀ d ∈ ds, d.Within limit := by
  obtain ⟨ds, hds, -⟩ := Parser.exists_derivesGreedily_of_statements (b := .within limit source) h
  exact ⟨ds, hds, (faults_eq_nil_iff_within hds limit).mp h⟩

/-- The limit is kept by every tree and by the reader itself, whatever the text. If a text is a program, it
is read under a limit exactly if no statement goes beyond the limit, neither with the depth of its tree nor
with the nesting in the text; and then it is read as under any other limit. Otherwise it has faults, and all
of them are about the limit. -/
theorem parseWithin_eq_iff_within_limit (source : String) :
    (∀ limit : ℤ,
      (∀ s ∈ (parseWithin limit source).statements,
        ∃ e, s = .statement e ∧ (e.depth : ℤ) ≤ limit) ∧
      (∀ ts, (Parser.expressionCounted (.within limit source) 1 0 ts).result =
        Parser.expression (.within limit source) limit.toNat 0 ts) ∧
      (Parser.mostActive (.within limit source) (Cursor.start source).lexemes : ℤ) ≤
        max limit 0 + 1) ∧
    (∀ above : ℤ, (Cursor.start source).lexemes.length < above →
      (parseWithin above source).faults = [] →
      (∃ ds, DerivesGreedily (Cursor.start source).lexemes ds) ∧
      ∀ ds, DerivesGreedily (Cursor.start source).lexemes ds → ∀ limit : ℤ,
        ((parseWithin limit source).faults = [] ∧
            (parseWithin limit source).statements = (parseWithin above source).statements ↔
          ∀ d ∈ ds, d.Within limit) ∧
        ((¬ ∀ d ∈ ds, d.Within limit) →
          (parseWithin limit source).faults ≠ [] ∧
          ∀ f ∈ (parseWithin limit source).faults, f.diagnostic.message =
            "expression nested too deeply (limit " ++ toString limit ++ ")")) ∧
    ∀ limit above : ℤ, limit ≤ above → (parseWithin limit source).faults = [] →
      (parseWithin above source).faults = [] ∧
      (parseWithin above source).statements = (parseWithin limit source).statements := by
  refine ⟨fun limit => ⟨?_, ?_, ?_⟩, ?_, ?_⟩
  · intro s hs
    obtain ⟨d, rfl, -, hdepth⟩ :=
      Parser.exists_derivation_of_mem_statements (b := .within limit source) _ s hs
    exact ⟨d.node, rfl, hdepth⟩
  · exact Parser.result_expressionCounted Nat.one_pos (Nat.add_comm 1 _) 0
  · have hmost := Parser.mostActive_le (.within limit source) (Cursor.start source).lexemes
    have hlimit : (Parser.Bounds.within limit source).limit = limit := rfl
    rw [hlimit] at hmost
    omega
  · intro above hlength hread
    obtain ⟨ds, hds, -⟩ := exists_within_of_faults_eq_nil hread
    refine ⟨⟨ds, hds⟩, fun ds hds limit => ?_⟩
    have hnil := faults_eq_nil_iff_within hds limit
    have habove := parseWithin_of_within hds ((faults_eq_nil_iff_within hds above).mp hread)
    refine ⟨⟨fun h => hnil.mp h.1, fun h => ?_⟩, fun h => ⟨mt hnil.mp h, fun f hf => ?_⟩⟩
    · rw [parseWithin_of_within hds h, habove]
      exact ⟨rfl, rfl⟩
    · have hcause : f.cause = .tooDeep limit :=
        Parser.tooDeep_of_derivesGreedily (b := .within limit source) hds f hf
      rw [Fault.diagnostic, hcause]
      rfl
  · intro limit above hle hread
    obtain ⟨ds, hds, hwithin⟩ := exists_within_of_faults_eq_nil hread
    have habove : ∀ d ∈ ds, d.Within above := fun d hd =>
      ⟨Int.le_trans (hwithin d hd).1 hle, Int.le_trans (hwithin d hd).2 hle⟩
    rw [parseWithin_of_within hds hwithin, parseWithin_of_within hds habove]
    exact ⟨rfl, rfl⟩

/-- A tree of depth two that is nested three times in the text, in front of one for which two is enough. -/
theorem parseWithin_eq_iff_within_limit_parenthesis :
    ((Cursor.start "a + (b); !c").lexemes.length : ℤ) < 9 ∧
    (parseWithin 9 "a + (b); !c").faults = [] ∧
    (∃ ds, DerivesGreedily (Cursor.start "a + (b); !c").lexemes ds ∧
      (∀ d ∈ ds, d.Within 3) ∧ (¬ ∀ d ∈ ds, d.Within 2) ∧
      ∀ f ∈ (parseWithin 2 "a + (b); !c").faults,
        f.diagnostic.message = "expression nested too deeply (limit 2)") ∧
    (2 : ℤ) ≤ 9 ∧ (parseWithin 2 "!c").faults = [] ∧
    (parseWithin 9 "!c").statements = (parseWithin 2 "!c").statements := by
  have hlength : ((Cursor.start "a + (b); !c").lexemes.length : ℤ) < 9 := by decide +kernel
  have hread : (parseWithin 9 "a + (b); !c").faults = [] := by decide +kernel
  have hthree : (parseWithin 3 "a + (b); !c").faults = [] := by decide +kernel
  have htwo : (parseWithin 2 "a + (b); !c").faults ≠ [] := by decide +kernel
  have hunary : (parseWithin 2 "!c").faults = [] := by decide +kernel
  obtain ⟨-, hprogram, -⟩ := parseWithin_eq_iff_within_limit "a + (b); !c"
  obtain ⟨⟨ds, hds⟩, hlimit⟩ := hprogram 9 hlength hread
  obtain ⟨-, -, habove⟩ := parseWithin_eq_iff_within_limit "!c"
  have hnot : ¬ ∀ d ∈ ds, d.Within 2 := fun hwithin => htwo ((hlimit ds hds 2).1.mpr hwithin).1
  have hwithin : ∀ d ∈ ds, d.Within 3 := by
    by_contra hwithin
    exact ((hlimit ds hds 3).2 hwithin).1 hthree
  exact ⟨hlength, hread, ⟨ds, hds, hwithin, hnot, ((hlimit ds hds 2).2 hnot).2⟩, by decide, hunary,
    (habove 2 9 (by decide) hunary).2⟩

end RasterAlgebra
