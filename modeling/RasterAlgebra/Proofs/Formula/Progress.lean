import RasterAlgebra.Proofs.Formula.Lookahead

/-!
# What every call and every round of the parser does

From whatever state an expression or an operand is read, the call ends. Whether it returns a tree or a fault,
it has used up some of the next tokens, none of which can only stand outside of an expression, and has changed
nothing else; a tree is behind at least one token, and of the depth that is reported for it (`Settles`).

A round of the loop over statements uses up at least one token, also where the statement used up none, and
adds one statement or one fault (`Advances`). So the loop ends, with no more of both than there were tokens
(`Ends`).
-/

namespace RasterAlgebra

open Grammar

namespace Parser

/-! ## The depth that is reported -/

/-- The depth that `expr` reports for a tree is the depth of the tree. -/
def ReportsDepth (expr : ℕ → List Token → Result Tree) : Prop :=
  ∀ (power : ℕ) (ts : List Token) (tree : Tree) (rest : List Token),
    expr power ts = (.ok tree, rest) → tree.depth = tree.node.depth

section
variable {b : Bounds} {expr : ℕ → List Token → Result Tree} {tree : Tree} {ts rest : List Token}

theorem depth_operand (hexpr : ReportsDepth expr) (h : operand b expr ts = (.ok tree, rest)) :
    tree.depth = tree.node.depth := by
  cases ts with
  | nil => simp [operand] at h
  | cons t ts =>
    cases starts t with
    | leaf n hleaf =>
      rw [operand_leaf hleaf] at h
      obtain ⟨rfl, -⟩ : Tree.mk n 1 = tree ∧ ts = rest := by simpa using h
      exact (depth_of_leaf? hleaf).symm
    | unary hunary =>
      rw [operand_unary hunary] at h
      split at h
      · simp at h
      · rename_i right rest' hright
        split at h
        · simp at h
        · obtain ⟨rfl, -⟩ : Tree.mk (.unary t.text right.node) (right.depth + 1) = tree ∧
            rest' = rest := by simpa using h
          exact congrArg (· + 1) (hexpr _ _ _ _ hright)
    | leftParen hparen =>
      rw [operand_leftParen hparen] at h
      split at h
      · simp at h
      · rename_i inner rest' hinner
        obtain ⟨rfl, -⟩ := closing_eq_ok h
        exact hexpr _ _ _ _ hinner
    | none hleaf hunary hparen =>
      rw [operand_fault hleaf hunary hparen] at h
      simp at h

theorem depth_operators (hexpr : ReportsDepth expr) {power : ℕ} {left : Tree}
    (hleft : left.depth = left.node.depth)
    (h : operators b expr power left ts = (.ok tree, rest)) : tree.depth = tree.node.depth := by
  fun_induction operators b expr power left ts with
  | case1 left =>
    obtain ⟨rfl, -⟩ : left = tree ∧ [] = rest := by simpa using h
    exact hleft
  | case2 left t ts =>
    obtain ⟨rfl, -⟩ : left = tree ∧ t :: ts = rest := by simpa using h
    exact hleft
  | case3 left t ts =>
    obtain ⟨rfl, -⟩ : left = tree ∧ t :: ts = rest := by simpa using h
    exact hleft
  | case4 => simp at h
  | case5 => simp at h
  | case6 left t ts strength _ _ right rest' hright depth _ =>
    rename_i ih
    refine ih ?_ h
    rw [Node.depth, ← hleft, ← hexpr _ _ _ _ hright]

end

theorem reportsDepth_expression (b : Bounds) (room : ℕ) : ReportsDepth (expression b room) := by
  induction room with
  | zero =>
    intro power ts tree rest h
    simp [expression] at h
  | succ room ih =>
    intro power ts tree rest h
    rw [expression] at h
    split at h
    · simp at h
    · rename_i left rest' hleft
      exact depth_operators ih (depth_operand ih hleft) h

namespace State

variable {limit : ℤ} {s s' : State}

/-- The tokens that are still to come, with the one that ends the text. -/
def ahead (s : State) : List Token := s.tokens ++ [s.last]

theorem ahead_eq_append (hkeeps : Keeps s s') {taken : List Token}
    (h : taken ++ s'.tokens = s.tokens) : s.ahead = taken ++ s'.ahead := by
  rw [ahead, ahead, ← h, hkeeps.last, List.append_assoc]

/-! ## Calls -/

/-- What a call from the state `s` leaves behind it, whether it returns a tree or a fault. -/
structure Settles (s : State) (read : Except Fault Tree) (s' : State) : Prop extends Keeps s s' where
  exists_taken : ∃ taken, s.ahead = taken ++ s'.ahead ∧ (∀ t ∈ taken, t.kind ∉ outside) ∧
    ∀ tree, read = .ok tree → taken ≠ [] ∧ tree.depth = tree.node.depth

/-- A call settles if it reads some of the next tokens, and reports the depth of its tree. -/
theorem Matches.exists_settles {p : Result Tree} {call : Option (Except Fault Tree × State)}
    (h : Matches s p call) (htakes : Takes (s.bounds limit) s.tokens p)
    (htail : LeavesTail s.tokens p)
    (hdepth : ∀ tree rest, p = (.ok tree, rest) → tree.depth = tree.node.depth) :
    ∃ read s', call = some (read, s') ∧ Settles s read s' ∧ p = (read, s'.tokens) := by
  obtain ⟨read, s', rfl, rfl, hkeeps⟩ := h.exists_eq
  obtain ⟨taken, htaken, houtside, -⟩ := htakes
  refine ⟨read, s', rfl, ⟨hkeeps, taken, ahead_eq_append hkeeps htaken, houtside, ?_⟩, rfl⟩
  rintro tree rfl
  refine ⟨?_, hdepth tree _ rfl⟩
  rintro rfl
  have hlt : s'.tokens.length < s.tokens.length := htail.2 rfl
  rw [← htaken] at hlt
  exact absurd hlt (Nat.lt_irrefl _)

/-- An expression ends from every state. -/
theorem exists_settles_expression (limit : ℤ) (power : ℕ) (s : State) :
    ∃ read s', s.expression limit power = some (read, s') ∧ Settles s read s' ∧
      Parser.expression (s.bounds limit) (s.room limit) power s.tokens = (read, s'.tokens) :=
  (expression_matches limit power s).exists_settles
    (expression_takes (s.bounds limit) (s.room limit) power s.tokens)
    (expression_tail (s.bounds limit) (s.room limit) power s.tokens)
    (reportsDepth_expression (s.bounds limit) (s.room limit) power s.tokens)

/-- An operand ends from every state. -/
theorem exists_settles_operand (limit : ℤ) (s : State) :
    ∃ read s', s.operand limit = some (read, s') ∧ Settles s read s' ∧
      Parser.operand (s.bounds limit) (Parser.expression (s.bounds limit) (s.room limit)) s.tokens =
        (read, s'.tokens) :=
  (operand_matches limit s).exists_settles
    (operand_takes (expression_takes (s.bounds limit) (s.room limit)) s.tokens)
    (operand_tail (s.bounds limit) (expression_tail (s.bounds limit) (s.room limit)) s.tokens)
    fun _ _ => depth_operand (reportsDepth_expression (s.bounds limit) (s.room limit))

/-! ## Rounds -/

/-- A round from `s` to `s'` uses up at least one token, and adds one statement or one fault. -/
structure Advances (s : State) (node? : Option Node) (s' : State) : Prop where
  exists_taken : ∃ taken, taken ≠ [] ∧ s.ahead = taken ++ s'.ahead
  exists_faults : ∃ faults, Keeps (s.note faults) s' ∧ node?.toList.length + faults.length = 1

variable {node? : Option Node} {nodes : List Node} {faults others : List Fault}

theorem Rounds.keeps (h : Rounds limit s node? faults s') : Keeps (s.note faults) s' := by
  cases h with
  | statement _ _ hkeeps => exact s.note_nil.symm ▸ hkeeps
  | fault _ _ hkeeps => exact hkeeps

theorem Rounds.length_eq_one (h : Rounds limit s node? faults s') :
    node?.toList.length + faults.length = 1 := by
  cases h <;> rfl

theorem Rounds.suffix (h : Rounds limit s node? faults s') : s'.tokens <:+ s.tokens := by
  have htail := expression_tail (s.bounds limit) (s.room limit) 0 s.tokens
  cases h with
  | statement hread htokens =>
    rw [hread] at htail
    exact htokens ▸ (skipSemicolon_suffix _).trans htail.1
  | fault hread htokens =>
    rw [hread] at htail
    exact htokens ▸ (resume_suffix _).trans htail.1

/-- A statement that was read has used up a token, and going on behind a fault uses one up. -/
theorem Rounds.length_lt (h : Rounds limit s node? faults s') (hne : s.tokens ≠ []) :
    s'.tokens.length < s.tokens.length := by
  have htail := expression_tail (s.bounds limit) (s.room limit) 0 s.tokens
  cases h with
  | @statement tree rest _ hread htokens =>
    rw [hread] at htail
    have hlt : rest.length < s.tokens.length := htail.2 rfl
    rw [htokens]
    exact Nat.lt_of_le_of_lt (skipSemicolon_suffix rest).length_le hlt
  | fault hread htokens =>
    rw [hread] at htail
    rw [htokens]
    exact length_resume_lt_of_suffix hne htail.1

theorem Rounds.advances (h : Rounds limit s node? faults s') (hne : s.tokens ≠ []) :
    Advances s node? s' := by
  obtain ⟨taken, htaken⟩ := h.suffix
  have hlt := h.length_lt hne
  refine ⟨⟨taken, ?_, ahead_eq_append h.keeps htaken⟩, faults, h.keeps, h.length_eq_one⟩
  rintro rfl
  rw [← htaken] at hlt
  exact absurd hlt (Nat.lt_irrefl _)

/-! ## The loop over statements -/

/-- The rounds from `s` end in `s'`, with these statements and faults. From a state that is inside of no
expression they are those of `Parser.statements`. -/
structure Ends (limit : ℤ) (s : State) (nodes : List Node) (faults : List Fault) (s' : State) : Prop where
  tokens : s'.tokens = []
  keeps : Keeps (s.note faults) s'
  length_le : nodes.length + faults.length ≤ s.tokens.length
  statements_eq : s.nesting = 0 → statements (s.bounds limit) s.tokens = (nodes, faults)

variable {s₁ : State}

theorem Ends.of_keeps (hkeeps : Keeps s s₁) (htokens : s₁.tokens = s.tokens)
    (h : Ends limit s₁ nodes faults s') : Ends limit s nodes faults s' where
  tokens := h.tokens
  keeps := (hkeeps.note faults).trans h.keeps
  length_le := htokens ▸ h.length_le
  statements_eq hnesting := by
    rw [← htokens, ← hkeeps.bounds]
    exact h.statements_eq (hkeeps.nesting.trans hnesting)

theorem ends_of_nil (h : s.tokens = []) : Ends limit s [] [] s where
  tokens := h
  keeps := s.note_nil.symm ▸ .refl s
  length_le := Nat.zero_le _
  statements_eq _ := by rw [h, statements_nil]

/-- A round in front of others puts its statement or its fault in front of theirs. -/
theorem Rounds.ends (h : Rounds limit s node? faults s₁) (hne : s.tokens ≠ [])
    (hrest : Ends limit s₁ nodes others s') :
    Ends limit s (node?.toList ++ nodes) (faults ++ others) s' where
  tokens := hrest.tokens
  keeps := s.note_note faults others ▸ (h.keeps.note others).trans hrest.keeps
  length_le := by
    have hone := h.length_eq_one
    have hlt := h.length_lt hne
    have hle := hrest.length_le
    simp only [List.length_append]
    omega
  statements_eq hnesting := by
    have hroom : s.room limit = (s.bounds limit).limit.toNat := by
      rw [State.room, hnesting, Int.sub_zero]
      rfl
    have hstatements := hrest.statements_eq (h.keeps.nesting.trans hnesting)
    rw [h.keeps.bounds] at hstatements
    cases h with
    | @statement tree rest _ hread htokens =>
      have hstatement : Parser.statement (s.bounds limit) s.tokens =
          (.ok (.statement tree.node), s₁.tokens) := by
        rw [Parser.statement, ← hroom, hread, htokens]
      rw [statements_of_ok hstatement, show statements (s.bounds limit) s₁.tokens = _ from hstatements]
      rfl
    | @fault f rest _ hread htokens =>
      have hstatement : Parser.statement (s.bounds limit) s.tokens = (.error f, rest) := by
        rw [Parser.statement, ← hroom, hread]
      rw [statements_of_error hne hstatement, ← htokens,
        show statements (s.bounds limit) s₁.tokens = _ from hstatements]
      rfl

/-- The loop over statements ends from every state. -/
theorem exists_ends (limit : ℤ) (s : State) :
    ∃ nodes faults s', s.program limit = some (nodes, s') ∧ Ends limit s nodes faults s' := by
  -- on the tokens that are still to come, of which every round uses one up
  induction hlength : s.tokens.length using Nat.strongRecOn generalizing s with
  | _ length ih =>
    subst hlength
    rw [program]
    by_cases hend : s.peek.1.kind = .eof
    · have hnil := s.tokens_peek.trans (tokens_eq_nil_iff.mpr hend)
      rw [if_pos hend]
      exact ⟨[], [], _, rfl, (ends_of_nil hnil).of_keeps s.keeps_peek s.tokens_peek⟩
    · have hne : s.peek.2.tokens ≠ [] := s.tokens_peek ▸ mt tokens_eq_nil_iff.mp hend
      obtain ⟨node?, faults, s₁, hround, hrounds⟩ := s.peek.2.exists_rounds limit
      have hlt := hrounds.length_lt hne
      rw [s.tokens_peek] at hlt
      obtain ⟨nodes, others, s', hprogram, hends⟩ := ih _ hlt s₁ rfl
      refine ⟨_, _, s', ?_, (hrounds.ends hne hends).of_keeps s.keeps_peek s.tokens_peek⟩
      rw [if_neg hend, hround]
      simp only [Option.bind_eq_bind, Option.bind_some, if_pos hlt, hprogram, Option.pure_def]

/-! ## Whole texts -/

theorem tokens_start (source : String) :
    (start source).tokens = (Cursor.start source).lexemes :=
  List.takeWhile_eq_self_iff.mpr fun t ht =>
    decide_eq_true (Cursor.kind_ne_eof_of_mem_lexemes 0 source.toList t ht)

end State

end Parser

theorem length_filter_tokenize (source : String) :
    ((tokenize source).filter fun t => t.kind ≠ .eof).length = (Cursor.start source).lexemes.length := by
  have hlexemes : (Cursor.start source).lexemes.filter (fun t => t.kind ≠ .eof) =
      (Cursor.start source).lexemes :=
    List.filter_eq_self.mpr fun t ht =>
      decide_eq_true (Cursor.kind_ne_eof_of_mem_lexemes 0 source.toList t ht)
  have hend : [(Cursor.start source).endToken].filter (fun t => t.kind ≠ .eof) = [] := rfl
  rw [tokenize, Cursor.tokens, List.filter_append, hlexemes, hend, List.append_nil]

namespace Parser.State

/-- Every call of the parts that read expressions and operands ends, from every state of the parser; and
whether it returns a tree or a fault, it leaves the counter of expressions as it was and uses up a run of
the next tokens without a semicolon, an illegal character or the end of the text. With a tree, it has used
up a token, and reports the depth of the tree. Every round of the loop over statements uses up a token,
whatever the limit, and adds one statement or one fault. So the loop ends on every text, as
`parseWithin`, with no more statements and faults than there are tokens. -/
theorem calls_settle_rounds_advance :
    (∀ (limit : ℤ) (power : ℕ) (s : State),
      (∃ read s', s.expression limit power = some (read, s') ∧ Settles s read s' ∧
        Parser.expression (s.bounds limit) (s.room limit) power s.tokens = (read, s'.tokens)) ∧
      ∃ read s', s.operand limit = some (read, s') ∧ Settles s read s' ∧
        Parser.operand (s.bounds limit) (Parser.expression (s.bounds limit) (s.room limit))
          s.tokens = (read, s'.tokens)) ∧
    (∀ (limit : ℤ) (s : State), s.peek.1.kind ≠ .eof →
      ∃ node? s', s.round limit = some (node?, s') ∧ Advances s node? s') ∧
    (∀ (limit : ℤ) (s : State), ∃ nodes faults s', s.program limit = some (nodes, s') ∧
      s'.peek.1.kind = .eof ∧ Keeps (s.note faults) s' ∧
      nodes.length + faults.length ≤ s.tokens.length) ∧
    ∀ (limit : ℤ) (source : String),
      (∃ s', (start source).program limit = some ((parseWithin limit source).statements, s') ∧
        s'.faults = (parseWithin limit source).faults) ∧
      (parseWithin limit source).statements.length + (parseWithin limit source).faults.length ≤
        ((tokenize source).filter fun t => t.kind ≠ .eof).length := by
  refine ⟨fun limit power s =>
    ⟨s.exists_settles_expression limit power, s.exists_settles_operand limit⟩, ?_, ?_, ?_⟩
  · intro limit s hend
    obtain ⟨node?, faults, s', hround, hrounds⟩ := s.exists_rounds limit
    exact ⟨node?, s', hround, hrounds.advances (mt tokens_eq_nil_iff.mp hend)⟩
  · intro limit s
    obtain ⟨nodes, faults, s', hprogram, hends⟩ := s.exists_ends limit
    exact ⟨nodes, faults, s', hprogram, tokens_eq_nil_iff.mp hends.tokens, hends.keeps,
      hends.length_le⟩
  · intro limit source
    obtain ⟨nodes, faults, s', hprogram, hends⟩ := (start source).exists_ends limit
    have hlength := hends.length_le
    have hstatements := hends.statements_eq rfl
    rw [tokens_start] at hlength hstatements
    have hread : parseWithin limit source = ⟨nodes, faults⟩ :=
      congrArg (fun r => Parse.mk r.1 r.2) hstatements
    rw [hread, length_filter_tokenize]
    exact ⟨⟨s', hprogram, hends.keeps.faults⟩, hlength⟩

/-- Under a limit below zero a statement uses nothing up, and the round goes on behind the semicolon; under a
limit of four there is a tree, of depth three. -/
theorem calls_settle_rounds_advance_noRoom :
    (∃ fault s', (start "a b; c").expression (-1) 0 = some (.error fault, s') ∧
      s'.tokens = (start "a b; c").tokens) ∧
    (start "a b; c").peek.1.kind ≠ .eof ∧
    (∃ node? s', (start "a b; c").round (-1) = some (node?, s') ∧
      Advances (start "a b; c") node? s') ∧
    ∃ tree s', (start "-(a # b)").expression 4 0 = some (.ok tree, s') ∧ tree.depth = 3 ∧
      Settles (start "-(a # b)") (.ok tree) s' := by
  obtain ⟨hcalls, hrounds, -⟩ := calls_settle_rounds_advance
  have hpeek : (start "a b; c").peek.1.kind ≠ .eof := by decide +kernel
  obtain ⟨⟨read, s', hcall, -, hread⟩, -⟩ := hcalls (-1) 0 (start "a b; c")
  -- there is no room for any expression
  obtain ⟨rfl, htokens⟩ := Prod.mk.inj hread
  obtain ⟨⟨read, s'', hcall', hsettles, hread⟩, -⟩ := hcalls 4 0 (start "-(a # b)")
  have hdepth : (Parser.expression ((start "-(a # b)").bounds 4) ((start "-(a # b)").room 4) 0
      (start "-(a # b)").tokens).1.toOption.map Tree.depth = some 3 := by decide +kernel
  rw [hread] at hdepth
  refine ⟨⟨_, s', hcall, htokens.symm⟩, hpeek, hrounds (-1) _ hpeek, ?_⟩
  cases read with
  | ok tree => exact ⟨tree, s'', hcall', Option.some.inj hdepth, hsettles⟩
  | error fault => exact absurd hdepth (by simp [Except.toOption])

end Parser.State

end RasterAlgebra
