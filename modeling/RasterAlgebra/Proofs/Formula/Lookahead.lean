import RasterAlgebra.Proofs.Formula.Consumption
import RasterAlgebra.Proofs.Token.Munch

/-!
# Reading with a token of lookahead

The parser as it goes along a text. Its state is a place in the text, the tokens that were taken from there
but not used up, and a counter of the expressions that are being read. The counter goes up when an
expression is begun, and down again whichever way it ends.

A call for an expression comes to an end if it is counted above the one that it is made from, and the loop
over statements if every round uses up a token. Neither is built into the parser: a call or a round that does
otherwise has the value `none`. That there is none is what is proved.

* `expression_matches`, `operand_matches`: from every state an expression and an operand are read as by
  `Parser.expression` and `Parser.operand`, with as much room as there is between the counter and the limit.
* `exists_rounds`: a round of the loop over statements takes a statement, or notes a fault and goes on behind
  the next semicolon.
-/

namespace RasterAlgebra

open Grammar

/-! ## The end of a text -/

namespace Cursor

/-- Blanks do not count for the token that ends the text. -/
theorem endToken_skipBlanks (c : Cursor) : c.skipBlanks.endToken = c.endToken := by
  have hsplit := congrArg List.length (List.takeWhile_append_dropWhile (p := isBlank) (l := c.rest))
  rw [List.length_append] at hsplit
  rw [endToken, endToken, skipBlanks, ← hsplit, Nat.add_assoc]

/-- A text that is used up gives the token that ends it. -/
theorem next_fst_eq_endToken {c : Cursor} (h : c.next.1.kind = .eof) : c.next.1 = c.endToken := by
  rw [← endToken_skipBlanks]
  rw [next] at h ⊢
  split at h
  · rename_i hnone
    rw [endToken, lexeme?_eq_none_iff.mp hnone]
    rfl
  · rename_i hsome
    exact absurd h (kind_ne_eof_of_lexeme? hsome)

/-- Neither does a token that is taken from the text. -/
theorem endToken_next (c : Cursor) : c.next.2.endToken = c.endToken := by
  rw [← c.endToken_skipBlanks, next]
  split
  · rfl
  · rename_i kind n hsome
    have hle := lexeme?_length_le hsome
    have hlength : c.skipBlanks.index + n + (c.skipBlanks.rest.length - n) =
        c.skipBlanks.index + c.skipBlanks.rest.length := by omega
    rw [endToken, endToken, advance, List.length_drop, hlength]

end Cursor

/-- A sign is no operand by itself. -/
theorem Grammar.leaf?_eq_none_of_unary {t : Token} (h : t.kind ∈ unaryOperators) :
    t.leaf? = none := by
  simp only [unaryOperators, List.mem_cons, List.not_mem_nil, or_false] at h
  rcases h with h | h <;> rw [Token.leaf?, h]

namespace Parser

/-- What a parser remembers between two steps. -/
structure State where
  /-- The place behind all tokens that were taken from the text. -/
  cursor : Cursor
  /-- Tokens that were taken from the text, but are not used up. -/
  lookahead : List Token
  /-- How many expressions are being read. -/
  nesting : ℤ
  /-- The faults that were found. -/
  faults : List Fault

namespace State

/-- The parser in front of a text. -/
def start (source : String) : State where
  cursor := .start source
  lookahead := []
  nesting := 0
  faults := []

/-! ## Single tokens -/

/-- The next token, which is now in the lookahead. -/
def peek (s : State) : Token × State :=
  match s.lookahead with
  | [] => (s.cursor.next.1, { s with cursor := s.cursor.next.2, lookahead := [s.cursor.next.1] })
  | t :: _ => (t, s)

/-- Uses up a token, unless it is the one that ends the text. -/
def advance (s : State) : State :=
  let (t, s) := s.peek
  if t.kind = .eof then s else { s with lookahead := s.lookahead.tail }

/-- Uses up a token if it is of the given kind. -/
def accept (kind : Token.Kind) (s : State) : State :=
  let (t, s) := s.peek
  if t.kind = kind then s.advance else s

/-- Uses up a token of the given kind; any other is a fault. -/
def expect (kind : Token.Kind) (s : State) : Except Fault Token × State :=
  let (t, s) := s.peek
  if t.kind = kind then (.ok t, s.advance) else (.error ⟨.missing kind, t⟩, s)

/-! ### The tokens that are still to come -/

/-- The tokens that are still to come, up to the one that ends the text. -/
def tokens (s : State) : List Token := (s.lookahead ++ s.cursor.lexemes).takeWhile (·.kind ≠ .eof)

/-- The token that ends the text. -/
def last (s : State) : Token := (s.lookahead.find? (·.kind = .eof)).getD s.cursor.endToken

/-- What the parts of the parser know in this state. -/
def bounds (limit : ℤ) (s : State) : Bounds := ⟨limit, s.last⟩

/-- Nothing but the place in the text has changed. -/
structure Keeps (s s' : State) : Prop where
  nesting : s'.nesting = s.nesting
  faults : s'.faults = s.faults
  last : s'.last = s.last

variable {limit : ℤ} {s s' s'' : State}

theorem Keeps.refl (s : State) : Keeps s s := ⟨rfl, rfl, rfl⟩

theorem Keeps.trans (h : Keeps s s') (h' : Keeps s' s'') : Keeps s s'' where
  nesting := h'.nesting.trans h.nesting
  faults := h'.faults.trans h.faults
  last := h'.last.trans h.last

/-- Where nothing else has changed, the parts of the parser know the same. -/
theorem Keeps.bounds (h : Keeps s s') : s'.bounds limit = s.bounds limit := by
  rw [State.bounds, State.bounds, h.last]

section
variable {t : Token} {ts : List Token}

/-- With the end of the text in the lookahead nothing is to come. -/
theorem tokens_of_eof (hlookahead : s.lookahead = t :: ts) (ht : t.kind = .eof) : s.tokens = [] := by
  rw [tokens, hlookahead, List.cons_append, List.takeWhile_cons_of_neg (by simp [ht])]

theorem last_of_eof (hlookahead : s.lookahead = t :: ts) (ht : t.kind = .eof) : s.last = t := by
  rw [last, hlookahead, List.find?_cons_of_pos (by simp [ht])]
  rfl

/-- Any other token in the lookahead is the first one to come. -/
theorem tokens_of_ne_eof (hlookahead : s.lookahead = t :: ts) (ht : t.kind ≠ .eof) :
    s.tokens = t :: tokens { s with lookahead := ts } := by
  rw [tokens, hlookahead, List.cons_append, List.takeWhile_cons_of_pos (by simp [ht])]
  rfl

theorem last_of_ne_eof (hlookahead : s.lookahead = t :: ts) (ht : t.kind ≠ .eof) :
    last { s with lookahead := ts } = s.last := by
  rw [last, last, hlookahead, List.find?_cons_of_neg (by simp [ht])]

end

/-- The token that is looked at comes first in the lookahead. -/
theorem exists_lookahead_peek (s : State) : ∃ ts, s.peek.2.lookahead = s.peek.1 :: ts := by
  unfold peek
  split
  · exact ⟨[], rfl⟩
  · rename_i t ts hlookahead
    exact ⟨ts, hlookahead⟩

/-- Looking at the next token takes nothing from those to come. -/
theorem tokens_peek (s : State) : s.peek.2.tokens = s.tokens := by
  unfold peek
  split
  · rename_i hlookahead
    rw [tokens, tokens, hlookahead, List.nil_append]
    by_cases hend : s.cursor.next.1.kind = .eof
    · rw [Cursor.lexemes.eq_def s.cursor, if_pos hend]
      exact List.takeWhile_cons_of_neg (by simp [hend])
    · rw [Cursor.lexemes.eq_def s.cursor, if_neg hend]
      rfl
  · rfl

/-- Looking at the next token only fills the lookahead. -/
theorem keeps_peek (s : State) : Keeps s s.peek.2 := by
  unfold peek
  split
  · rename_i hlookahead
    refine ⟨rfl, rfl, ?_⟩
    rw [last, last, hlookahead]
    by_cases hend : s.cursor.next.1.kind = .eof
    · rw [List.find?_cons_of_pos (by simp [hend])]
      exact Cursor.next_fst_eq_endToken hend
    · rw [List.find?_cons_of_neg (by simp [hend])]
      exact s.cursor.endToken_next
  · exact .refl s

/-- Looking at a token uses nothing up. It is the first one that is to come, or the one that ends the
text. -/
theorem exists_peek (limit : ℤ) (s : State) :
    ∃ s', s.peek = ((s.bounds limit).peek s.tokens, s') ∧ s'.tokens = s.tokens ∧ Keeps s s' := by
  obtain ⟨ts, hlookahead⟩ := s.exists_lookahead_peek
  refine ⟨s.peek.2, Prod.ext ?_ rfl, s.tokens_peek, s.keeps_peek⟩
  have hbounds : s.peek.2.bounds limit = s.bounds limit := s.keeps_peek.bounds
  rw [← hbounds, ← s.tokens_peek]
  by_cases hend : s.peek.1.kind = .eof
  · rw [tokens_of_eof hlookahead hend]
    exact (last_of_eof hlookahead hend).symm
  · rw [tokens_of_ne_eof hlookahead hend]
    rfl

/-- The text is used up exactly if its last token is looked at. -/
theorem tokens_eq_nil_iff : s.tokens = [] ↔ s.peek.1.kind = .eof := by
  obtain ⟨ts, hlookahead⟩ := s.exists_lookahead_peek
  rw [← s.tokens_peek]
  by_cases hend : s.peek.1.kind = .eof
  · exact iff_of_true (tokens_of_eof hlookahead hend) hend
  · refine iff_of_false ?_ hend
    rw [tokens_of_ne_eof hlookahead hend]
    exact List.cons_ne_nil _ _

/-- With nothing to come, what is seen is the end of the text. -/
theorem exists_peek_of_nil (h : s.tokens = []) :
    ∃ s', s.peek = (s.last, s') ∧ s.last.kind = .eof ∧ s'.tokens = [] ∧ Keeps s s' := by
  have hend := tokens_eq_nil_iff.mp h
  obtain ⟨s', hpeek, htokens, hkeeps⟩ := s.exists_peek 0
  rw [h] at hpeek htokens
  rw [hpeek] at hend
  exact ⟨s', hpeek, hend, htokens, hkeeps⟩

/-- What is seen is the first token to come. -/
theorem exists_peek_of_cons {t : Token} {ts : List Token} (h : s.tokens = t :: ts) :
    ∃ s', s.peek = (t, s') ∧ t.kind ≠ .eof ∧ s'.tokens = t :: ts ∧ Keeps s s' := by
  have hend := mt tokens_eq_nil_iff.mpr (h ▸ List.cons_ne_nil t ts)
  obtain ⟨s', hpeek, htokens, hkeeps⟩ := s.exists_peek 0
  rw [h] at hpeek htokens
  rw [hpeek] at hend
  exact ⟨s', hpeek, hend, htokens, hkeeps⟩

theorem advance_of_eof (h : s.peek.1.kind = .eof) : s.advance = s.peek.2 := if_pos h

theorem advance_of_ne_eof (h : s.peek.1.kind ≠ .eof) :
    s.advance = { s.peek.2 with lookahead := s.peek.2.lookahead.tail } := if_neg h

/-- Using up a token changes nothing but the place in the text. -/
theorem keeps_advance (s : State) : Keeps s s.advance := by
  refine s.keeps_peek.trans ?_
  by_cases hend : s.peek.1.kind = .eof
  · rw [advance_of_eof hend]
    exact .refl _
  · obtain ⟨ts, hlookahead⟩ := s.exists_lookahead_peek
    rw [advance_of_ne_eof hend, hlookahead, List.tail_cons]
    exact ⟨rfl, rfl, last_of_ne_eof hlookahead hend⟩

/-- One token is used up, if there is one. -/
theorem tokens_advance (s : State) : s.advance.tokens = s.tokens.tail := by
  obtain ⟨ts, hlookahead⟩ := s.exists_lookahead_peek
  rw [← s.tokens_peek]
  by_cases hend : s.peek.1.kind = .eof
  · rw [advance_of_eof hend, tokens_of_eof hlookahead hend]
    rfl
  · rw [advance_of_ne_eof hend, tokens_of_ne_eof hlookahead hend, hlookahead]
    rfl

/-- Using up a token leaves the others. -/
theorem tokens_advance_of_cons {t : Token} {ts : List Token} (h : s.tokens = t :: ts) :
    s.advance.tokens = ts := by
  rw [tokens_advance, h, List.tail_cons]

/-- Neither does accepting a token change anything else, whether it is there or not. -/
theorem keeps_accept (kind : Token.Kind) (s : State) : Keeps s (s.accept kind) := by
  refine s.keeps_peek.trans ?_
  show Keeps s.peek.2 (if s.peek.1.kind = kind then s.peek.2.advance else s.peek.2)
  split
  · exact s.peek.2.keeps_advance
  · exact .refl _

/-- A semicolon is skipped if it is there. -/
theorem tokens_accept_semicolon (s : State) : (s.accept .semicolon).tokens = skipSemicolon s.tokens := by
  cases htokens : s.tokens with
  | nil =>
    obtain ⟨s', hpeek, hend, htokens', -⟩ := exists_peek_of_nil htokens
    have hkind : s.last.kind ≠ .semicolon := by rw [hend]; decide
    simp only [accept, hpeek, if_neg hkind]
    exact htokens'
  | cons t ts =>
    obtain ⟨s', hpeek, -, htokens', -⟩ := exists_peek_of_cons htokens
    simp only [accept, hpeek, skipSemicolon]
    split
    · exact tokens_advance_of_cons htokens'
    · exact htokens'

/-! ## Expressions -/

/-- The fault of a token that goes beyond the limit. -/
def tooDeep (limit : ℤ) (t : Token) : Fault := ⟨.tooDeep limit, t⟩

/-- An operand: a leaf, an operator in front of an operand, or an expression in parentheses. Expressions
inside of it are read by `expr`. -/
def operandBy (limit : ℤ) (expr : ℕ → State → Option (Except Fault Tree × State)) (s : State) :
    Option (Except Fault Tree × State) := do
  let (t, s) := s.peek
  match t.leaf? with
  | some leaf => return (.ok ⟨leaf, 1⟩, s.advance)
  | none =>
    if t.kind ∈ unaryOperators then
      match ← expr unaryPower s.advance with
      | (.error fault, s) => return (.error fault, s)
      | (.ok right, s) =>
        if limit < (right.depth + 1 : ℕ) then return (.error (tooDeep limit t), s)
        else return (.ok ⟨.unary t.text right.node, right.depth + 1⟩, s)
    else if t.kind = .leftParen then
      match ← expr 0 s.advance with
      | (.error fault, s) => return (.error fault, s)
      | (.ok inner, s) =>
        match s.expect .rightParen with
        | (.error fault, s) => return (.error fault, s)
        | (.ok _, s) => return (.ok inner, s)
    else return (.error ⟨noOperand t, t⟩, s)

/-- The operators behind `left` that bind more tightly than `power`, with their right operands. -/
def operatorsBy (limit : ℤ) (expr : ℕ → State → Option (Except Fault Tree × State)) (power : ℕ)
    (left : Tree) (s : State) : Option (Except Fault Tree × State) := do
  let (t, s) := s.peek
  match t.kind.bindingPower? with
  | none => return (.ok left, s)
  | some strength =>
    if strength ≤ power then return (.ok left, s)
    else
      match ← expr strength s.advance with
      | (.error fault, s) => return (.error fault, s)
      | (.ok right, s) =>
        let depth := max left.depth right.depth + 1
        if limit < (depth : ℕ) then return (.error (tooDeep limit t), s)
        else operatorsBy limit expr power ⟨.binary t.text left.node right.node, depth⟩ s
  termination_by limit.toNat - left.depth
  decreasing_by all_goals omega

/-- An operand and the operators behind it. -/
def chainBy (limit : ℤ) (expr : ℕ → State → Option (Except Fault Tree × State)) (power : ℕ)
    (s : State) : Option (Except Fault Tree × State) := do
  match ← operandBy limit expr s with
  | (.error fault, s) => return (.error fault, s)
  | (.ok left, s) => operatorsBy limit expr power left s

/-- An expression whose operators bind more tightly than `power`. It is counted while it is being read, and
no longer, whether it was read or has a fault. An expression inside of it has to be counted above it. -/
def expression (limit : ℤ) (power : ℕ) (s : State) : Option (Except Fault Tree × State) := do
  let entered := { s with nesting := s.nesting + 1 }
  let (read, s') ←
    if limit < s.nesting + 1 then
      let (t, s') := entered.peek
      some (.error (tooDeep limit t), s')
    else
      chainBy limit
        (fun power s' => if s.nesting < s'.nesting then expression limit power s' else none)
        power entered
  return (read, { s' with nesting := s'.nesting - 1 })
  termination_by (limit - s.nesting).toNat
  decreasing_by all_goals omega

/-- An operand, whose expressions are counted above the ones that are being read. -/
def operand (limit : ℤ) (s : State) : Option (Except Fault Tree × State) :=
  operandBy limit (expression limit) s

/-! ### Expressions by what is still to come -/

/-- How many expressions may be begun inside of each other. -/
def room (limit : ℤ) (s : State) : ℕ := (limit - s.nesting).toNat

/-- A call ends, with what was read and what is left as given, and nothing else has changed. -/
inductive Matches {α : Type} (s : State) : Result α → Option (Except Fault α × State) → Prop where
  | intro (read : Except Fault α) {s' : State} (h : Keeps s s') :
      Matches s (read, s'.tokens) (some (read, s'))

section
variable {α : Type} {p : Result α} {call : Option (Except Fault α × State)}

/-- A call can begin earlier, as long as nothing else has changed since. -/
theorem Matches.of_keeps (hkeeps : Keeps s s') (h : Matches s' p call) : Matches s p call := by
  obtain ⟨read, hkeeps'⟩ := h
  exact .intro read (hkeeps.trans hkeeps')

/-- A call that matches ends, and its state holds the tokens that are left. -/
theorem Matches.exists_eq (h : Matches s p call) :
    ∃ read s', p = (read, s'.tokens) ∧ call = some (read, s') ∧ Keeps s s' := by
  obtain ⟨read, hkeeps⟩ := h
  exact ⟨read, _, rfl, rfl, hkeeps⟩

theorem matches_of_tokens_eq {read : Except Fault α} {ts : List Token} (htokens : s'.tokens = ts)
    (hkeeps : Keeps s s') : Matches s (read, ts) (some (read, s')) :=
  htokens ▸ .intro read hkeeps

end

/-- What the parenthesis behind an expression does. -/
theorem closing_matches (limit : ℤ) (inner : Tree) (s : State) :
    Matches s (closing (s.bounds limit) inner s.tokens)
      (match s.expect .rightParen with
        | (.error fault, s) => some (.error fault, s)
        | (.ok _, s) => some (.ok inner, s)) := by
  cases htokens : s.tokens with
  | nil =>
    obtain ⟨s', hpeek, hend, htokens', hkeeps⟩ := exists_peek_of_nil htokens
    have hkind : s.last.kind ≠ .rightParen := by rw [hend]; decide
    simp only [expect, hpeek, if_neg hkind]
    exact matches_of_tokens_eq htokens' hkeeps
  | cons t ts =>
    obtain ⟨s', hpeek, -, htokens', hkeeps⟩ := exists_peek_of_cons htokens
    by_cases hkind : t.kind = .rightParen
    · simp only [closing, expect, hpeek, if_pos hkind]
      exact matches_of_tokens_eq (tokens_advance_of_cons htokens') (hkeeps.trans s'.keeps_advance)
    · simp only [closing, expect, hpeek, if_neg hkind]
      exact matches_of_tokens_eq htokens' hkeeps

/-- With so many expressions being read, `expr` reads as `Parser.expression` with so much room. -/
def ReadsExpression (limit nesting : ℤ) (room : ℕ)
    (expr : ℕ → State → Option (Except Fault Tree × State)) : Prop :=
  ∀ (s : State) (power : ℕ), s.nesting = nesting →
    Matches s (Parser.expression (s.bounds limit) room power s.tokens) (expr power s)

section
variable {nesting : ℤ} {room : ℕ} {expr : ℕ → State → Option (Except Fault Tree × State)}

/-- An expression behind a token that is used up. -/
theorem ReadsExpression.behind (hexpr : ReadsExpression limit nesting room expr)
    (hnesting : s.nesting = nesting) (hkeeps : Keeps s s') {t : Token} {ts : List Token}
    (htokens : s'.tokens = t :: ts) (power : ℕ) :
    Matches s (Parser.expression (s.bounds limit) room power ts) (expr power s'.advance) := by
  have hadvance := hkeeps.trans s'.keeps_advance
  have h := hexpr s'.advance power (hadvance.nesting.trans hnesting)
  rw [hadvance.bounds, tokens_advance_of_cons htokens] at h
  exact h.of_keeps hadvance

/-- An operand is read as by what is still to come, if the expressions in it are. -/
theorem operandBy_matches (hexpr : ReadsExpression limit nesting room expr)
    (hnesting : s.nesting = nesting) :
    Matches s (Parser.operand (s.bounds limit) (Parser.expression (s.bounds limit) room) s.tokens)
      (operandBy limit expr s) := by
  rw [operandBy]
  cases htokens : s.tokens with
  | nil =>
    obtain ⟨s', hpeek, hend, htokens', hkeeps⟩ := exists_peek_of_nil htokens
    have hleaf : s.last.leaf? = none := by rw [Token.leaf?, hend]
    have hunary : s.last.kind ∉ unaryOperators := by rw [hend]; decide
    have hparen : s.last.kind ≠ .leftParen := by rw [hend]; decide
    have hcause : noOperand s.last = .noExpression .eof := by rw [noOperand, hend]; rfl
    simp only [hpeek, hleaf, if_neg hunary, if_neg hparen, hcause]
    exact matches_of_tokens_eq htokens' hkeeps
  | cons t ts =>
    obtain ⟨s', hpeek, -, htokens', hkeeps⟩ := exists_peek_of_cons htokens
    have hbehind := hexpr.behind hnesting hkeeps htokens'
    simp only [hpeek]
    cases starts t with
    | leaf n hleaf =>
      rw [operand_leaf hleaf]
      simp only [hleaf]
      exact matches_of_tokens_eq (tokens_advance_of_cons htokens') (hkeeps.trans s'.keeps_advance)
    | unary hunary =>
      obtain ⟨read, s₁, hread, hcall, hkeeps₁⟩ := (hbehind unaryPower).exists_eq
      rw [operand_unary hunary, hread]
      simp only [leaf?_eq_none_of_unary hunary, if_pos hunary, hcall]
      cases read with
      | error fault => exact .intro _ hkeeps₁
      | ok right =>
        show Matches s (if limit < (right.depth + 1 : ℕ) then _ else _)
          (if limit < (right.depth + 1 : ℕ) then _ else _)
        split
        · exact .intro _ hkeeps₁
        · exact .intro _ hkeeps₁
    | leftParen hparen =>
      have hleaf : t.leaf? = none := by rw [Token.leaf?, hparen]
      have hunary : t.kind ∉ unaryOperators := by rw [hparen]; decide
      obtain ⟨read, s₁, hread, hcall, hkeeps₁⟩ := (hbehind 0).exists_eq
      rw [operand_leftParen hparen, hread]
      simp only [hleaf, if_neg hunary, if_pos hparen, hcall]
      cases read with
      | error fault => exact .intro _ hkeeps₁
      | ok inner =>
        have hclosing := closing_matches limit inner s₁
        rw [hkeeps₁.bounds] at hclosing
        exact hclosing.of_keeps hkeeps₁
    | none hleaf hunary hparen =>
      rw [operand_fault hleaf hunary hparen]
      simp only [hleaf, if_neg hunary, if_neg hparen]
      exact matches_of_tokens_eq htokens' hkeeps

/-- An operator that binds tightly enough is used up, and the expression behind it is read. -/
theorem exists_operatorsBy_eq (hexpr : ReadsExpression limit nesting room expr)
    (hnesting : s.nesting = nesting) {t : Token} {ts : List Token} (htokens : s.tokens = t :: ts)
    {power strength : ℕ} (hs : t.kind.bindingPower? = some strength) (hlt : ¬ strength ≤ power)
    (left : Tree) :
    ∃ read s', Parser.expression (s.bounds limit) room strength ts = (read, s'.tokens) ∧
      Keeps s s' ∧ operatorsBy limit expr power left s =
        match read with
        | .error fault => some (.error fault, s')
        | .ok right =>
          if limit < (max left.depth right.depth + 1 : ℕ) then some (.error (tooDeep limit t), s')
          else operatorsBy limit expr power
            ⟨.binary t.text left.node right.node, max left.depth right.depth + 1⟩ s' := by
  obtain ⟨s₁, hpeek, -, htokens₁, hkeeps₁⟩ := exists_peek_of_cons htokens
  obtain ⟨read, s₂, hread, hcall, hkeeps₂⟩ :=
    (hexpr.behind hnesting hkeeps₁ htokens₁ strength).exists_eq
  refine ⟨read, s₂, hread, hkeeps₂, ?_⟩
  rw [operatorsBy]
  simp only [hpeek, hs, if_neg hlt, hcall]
  cases read with
  | error fault => rfl
  | ok right => rfl

/-- So are operators behind an operand. -/
theorem operatorsBy_matches (hexpr : ReadsExpression limit nesting room expr) {b : Bounds}
    (power : ℕ) (left : Tree) (ts : List Token) (hb : s.bounds limit = b) (htokens : s.tokens = ts)
    (hnesting : s.nesting = nesting) :
    Matches s (Parser.operators b (Parser.expression b room) power left ts)
      (operatorsBy limit expr power left s) := by
  fun_induction Parser.operators b (Parser.expression b room) power left ts generalizing s with
  | case1 left =>
    obtain ⟨s', hpeek, hend, htokens', hkeeps⟩ := exists_peek_of_nil htokens
    rw [operatorsBy]
    simp only [hpeek, hend, Token.Kind.bindingPower?]
    exact matches_of_tokens_eq htokens' hkeeps
  | case2 left t ts hs =>
    obtain ⟨s', hpeek, -, htokens', hkeeps⟩ := exists_peek_of_cons htokens
    rw [operatorsBy]
    simp only [hpeek, hs]
    exact matches_of_tokens_eq htokens' hkeeps
  | case3 left t ts strength hs hle =>
    obtain ⟨s', hpeek, -, htokens', hkeeps⟩ := exists_peek_of_cons htokens
    rw [operatorsBy]
    simp only [hpeek, hs, if_pos hle]
    exact matches_of_tokens_eq htokens' hkeeps
  | case4 left t ts strength hs hlt fault rest hread =>
    obtain ⟨read, s', hread', hkeeps, hcall⟩ :=
      exists_operatorsBy_eq hexpr hnesting htokens hs hlt left
    rw [hb, hread] at hread'
    obtain ⟨rfl, rfl⟩ := Prod.mk.inj hread'
    rw [hcall]
    exact .intro _ hkeeps
  | case5 left t ts strength hs hlt right rest hread depth =>
    rename_i hdeep
    obtain ⟨read, s', hread', hkeeps, hcall⟩ :=
      exists_operatorsBy_eq hexpr hnesting htokens hs hlt left
    rw [hb, hread] at hread'
    obtain ⟨rfl, rfl⟩ := Prod.mk.inj hread'
    subst hb
    rw [hcall]
    simp only [if_pos (show limit < (max left.depth right.depth + 1 : ℕ) from hdeep)]
    exact .intro _ hkeeps
  | case6 left t ts strength hs hlt right rest hread depth hdeep =>
    rename_i ih
    obtain ⟨read, s', hread', hkeeps, hcall⟩ :=
      exists_operatorsBy_eq hexpr hnesting htokens hs hlt left
    rw [hb, hread] at hread'
    obtain ⟨rfl, rfl⟩ := Prod.mk.inj hread'
    subst hb
    rw [hcall]
    simp only [if_neg (show ¬ limit < (max left.depth right.depth + 1 : ℕ) from hdeep)]
    exact (ih hkeeps.bounds rfl (hkeeps.nesting.trans hnesting)).of_keeps hkeeps

/-- An operand and the operators behind it are read with one more room than the expressions inside of
them. -/
theorem chainBy_matches (hexpr : ReadsExpression limit nesting room expr)
    (hnesting : s.nesting = nesting) (power : ℕ) :
    Matches s (Parser.expression (s.bounds limit) (room + 1) power s.tokens)
      (chainBy limit expr power s) := by
  obtain ⟨read, s', hread, hcall, hkeeps⟩ := (operandBy_matches hexpr hnesting).exists_eq
  rw [chainBy, Parser.expression, hread, hcall]
  cases read with
  | error fault => exact .intro _ hkeeps
  | ok left =>
    have hoperators := operatorsBy_matches hexpr power left s'.tokens hkeeps.bounds rfl
      (hkeeps.nesting.trans hnesting)
    exact hoperators.of_keeps hkeeps

end

/-- Beyond the limit an expression is a fault at its first token. -/
theorem noRoom_matches (limit : ℤ) (power : ℕ) (s : State) :
    Matches s (Parser.expression (s.bounds limit) 0 power s.tokens)
      (some (.error (tooDeep limit s.peek.1), s.peek.2)) := by
  obtain ⟨s', hpeek, htokens, hkeeps⟩ := s.exists_peek limit
  rw [Parser.expression, hpeek]
  exact matches_of_tokens_eq htokens hkeeps

/-- The counter goes down again by as much as it went up. -/
theorem Matches.leave {p : Result Tree} {call : Option (Except Fault Tree × State)}
    (h : Matches { s with nesting := s.nesting + 1 } p call) :
    Matches s p (do
      let (read, s') ← call
      return (read, { s' with nesting := s'.nesting - 1 })) := by
  obtain ⟨read, s', rfl, rfl, hnesting, hfaults, hlast⟩ := h.exists_eq
  have hkeeps : Keeps s { s' with nesting := s'.nesting - 1 } := by
    refine ⟨?_, hfaults, hlast⟩
    rw [hnesting]
    exact Int.add_sub_cancel s.nesting 1
  exact .intro read hkeeps

/-- With as much room as there is between the counter and the limit, expressions are read as by
`Parser.expression`. -/
theorem readsExpression (limit : ℤ) (room : ℕ) (nesting : ℤ) (hroom : (limit - nesting).toNat = room) :
    ReadsExpression limit nesting room (expression limit) := by
  induction room generalizing nesting with
  | zero =>
    rintro s power rfl
    have hlimit : limit < s.nesting + 1 := by omega
    rw [expression, if_pos hlimit]
    exact (noRoom_matches limit power { s with nesting := s.nesting + 1 }).leave
  | succ room ih =>
    rintro s power rfl
    have hlimit : ¬ limit < s.nesting + 1 := by omega
    -- every call inside is counted above this one
    have hinner : ReadsExpression limit (s.nesting + 1) room
        (fun power s' => if s.nesting < s'.nesting then expression limit power s' else none) := by
      intro s' power hnesting
      have habove : s.nesting < s'.nesting := by omega
      simp only [if_pos habove]
      exact ih (s.nesting + 1) (by omega) s' power hnesting
    rw [expression, if_neg hlimit]
    exact (chainBy_matches (s := { s with nesting := s.nesting + 1 }) hinner rfl power).leave

/-- From every state expressions are read as by `Parser.expression`. -/
theorem expression_matches (limit : ℤ) (power : ℕ) (s : State) :
    Matches s (Parser.expression (s.bounds limit) (s.room limit) power s.tokens)
      (s.expression limit power) :=
  readsExpression limit (s.room limit) s.nesting rfl s power rfl

/-- From every state operands are read as by `Parser.operand`. -/
theorem operand_matches (limit : ℤ) (s : State) :
    Matches s (Parser.operand (s.bounds limit) (Parser.expression (s.bounds limit) (s.room limit))
      s.tokens) (s.operand limit) :=
  operandBy_matches (readsExpression limit (s.room limit) s.nesting rfl) rfl

/-! ## Statements -/

/-- A statement: an expression, and the semicolon behind it if there is one. -/
def statement (limit : ℤ) (s : State) : Option (Except Fault Node × State) := do
  match ← s.expression limit 0 with
  | (.error fault, s) => return (.error fault, s)
  | (.ok tree, s) => return (.ok (.statement tree.node), s.accept .semicolon)

/-- Goes on behind the next semicolon. -/
def synchronize (s : State) : State :=
  if s.peek.1.kind = .semicolon ∨ s.peek.1.kind = .eof then s.accept .semicolon
  else s.advance.synchronize
  termination_by s.tokens.length
  decreasing_by
    rename_i h
    have hne : s.tokens ≠ [] := mt tokens_eq_nil_iff.mp (not_or.mp h).2
    rw [tokens_advance, List.length_tail]
    exact Nat.sub_lt (List.length_pos_iff.mpr hne) Nat.one_pos

/-- The same state with further faults. -/
def note (s : State) (faults : List Fault) : State := { s with faults := s.faults ++ faults }

/-- One round of the loop over statements: a statement, or a fault, which is noted. -/
def round (limit : ℤ) (s : State) : Option (Option Node × State) := do
  match ← s.statement limit with
  | (.ok node, s) => return (some node, s)
  | (.error fault, s) => return (none, (s.note [fault]).synchronize)

/-- Rounds up to the end of the text, and the statements that were read in them. Every round has to use up a
token. -/
def program (limit : ℤ) (s : State) : Option (List Node × State) := do
  if s.peek.1.kind = .eof then return ([], s.peek.2)
  else
    let (node?, s') ← s.peek.2.round limit
    if s'.tokens.length < s.tokens.length then
      let (nodes, s'') ← program limit s'
      return (node?.toList ++ nodes, s'')
    else none
  termination_by s.tokens.length

/-! ### Statements by what is still to come -/

/-- Faults that are noted on both sides make no difference. -/
theorem Keeps.note (h : Keeps s s') (faults : List Fault) : Keeps (s.note faults) (s'.note faults) where
  nesting := h.nesting
  faults := congrArg (· ++ faults) h.faults
  last := h.last

theorem note_nil (s : State) : s.note [] = s := by rw [note, List.append_nil]

/-- Faults are noted behind the earlier ones. -/
theorem note_note (s : State) (faults others : List Fault) :
    (s.note faults).note others = s.note (faults ++ others) := by
  simp only [note, List.append_assoc]

/-- Skipping to the next statement changes nothing but the place in the text. -/
theorem keeps_synchronize (s : State) : Keeps s s.synchronize := by
  fun_induction synchronize s with
  | case1 s => exact s.keeps_accept .semicolon
  | case2 s _ ih => exact s.keeps_advance.trans ih

/-- What is skipped is what the parser by tokens leaves out. -/
theorem tokens_synchronize (s : State) : s.synchronize.tokens = resume s.tokens := by
  fun_induction synchronize s with
  | case1 s h =>
    rw [tokens_accept_semicolon]
    cases htokens : s.tokens with
    | nil => rfl
    | cons t ts =>
      obtain ⟨s', hpeek, hne, -, -⟩ := exists_peek_of_cons htokens
      rw [hpeek] at h
      have hsemicolon := h.resolve_right hne
      rw [resume_cons_of_eq hsemicolon, skipSemicolon, if_pos hsemicolon]
  | case2 s h ih =>
    obtain ⟨t, ts, htokens⟩ := List.exists_cons_of_ne_nil (mt tokens_eq_nil_iff.mp (not_or.mp h).2)
    obtain ⟨s', hpeek, -, -, -⟩ := exists_peek_of_cons htokens
    rw [hpeek] at h
    rw [ih, tokens_advance_of_cons htokens, htokens, resume_cons_of_ne (not_or.mp h).1]

/-- What a round does, by what is read of its statement. -/
inductive Rounds (limit : ℤ) (s : State) : Option Node → List Fault → State → Prop where
  | statement {tree : Tree} {rest : List Token} {s' : State}
      (hread : Parser.expression (s.bounds limit) (s.room limit) 0 s.tokens = (.ok tree, rest))
      (htokens : s'.tokens = skipSemicolon rest) (hkeeps : Keeps s s') :
      Rounds limit s (some (.statement tree.node)) [] s'
  | fault {f : Fault} {rest : List Token} {s' : State}
      (hread : Parser.expression (s.bounds limit) (s.room limit) 0 s.tokens = (.error f, rest))
      (htokens : s'.tokens = resume rest) (hkeeps : Keeps (s.note [f]) s') :
      Rounds limit s none [f] s'

/-- Every round ends. -/
theorem exists_rounds (limit : ℤ) (s : State) :
    ∃ node? faults s', s.round limit = some (node?, s') ∧ Rounds limit s node? faults s' := by
  obtain ⟨read, s', hread, hcall, hkeeps⟩ := (expression_matches limit 0 s).exists_eq
  rw [round, statement, hcall]
  cases read with
  | ok tree =>
    exact ⟨_, _, s'.accept .semicolon, rfl, .statement hread s'.tokens_accept_semicolon
      (hkeeps.trans (s'.keeps_accept _))⟩
  | error f =>
    exact ⟨_, _, (s'.note [f]).synchronize, rfl, .fault hread (s'.note [f]).tokens_synchronize
      ((hkeeps.note [f]).trans (s'.note [f]).keeps_synchronize)⟩

end State

end Parser

end RasterAlgebra
