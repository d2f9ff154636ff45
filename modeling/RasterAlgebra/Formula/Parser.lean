import RasterAlgebra.Decimal.Reader
import RasterAlgebra.Formula.Fault
import RasterAlgebra.Formula.Node
import RasterAlgebra.Token.Lexer
/-!
# Reading formulas

Operators bind with five strengths, operators in front of an operand more tightly than all of them. An
`expression` is an operand and the operators behind it that bind more tightly than what stands in front
of it. Both the nesting of expressions in the text and the depth of the tree are limited.

A statement with a fault is left out, and reading goes on behind the next semicolon. Every part of the
parser leaves a tail of the tokens it was given (`expression_tail`), and a part that yields a tree has
used up a token; so `statements` ends.
-/

namespace RasterAlgebra

/-- How tightly an operator between two operands binds. -/
def Token.Kind.bindingPower? : Token.Kind → Option Nat
  | .hash => some 1
  | .equal | .notEqual => some 2
  | .less | .greater => some 3
  | .plus | .minus => some 4
  | .asterisk | .slash => some 5
  | _ => none

namespace Parser

/-- How tightly an operator in front of an operand binds. -/
def unaryPower : Nat := 6

/-- An expression and the depth of its tree. -/
structure Tree where
  node : Node
  depth : Nat

/-- What was read from a list of tokens, or the fault that stopped it, and the tokens that are left. -/
abbrev Result (α : Type) : Type := Except Fault α × List Token

/-- What all parts of the parser know: the limit on nesting and depth, and the token that ends the
text. -/
structure Bounds where
  limit : Int
  last : Token

/-- The fault of a token that goes beyond the limit. -/
def Bounds.tooDeep (b : Bounds) (t : Token) : Fault := ⟨.tooDeep b.limit, t⟩

/-- The token that is looked at next. -/
def Bounds.peek (b : Bounds) (ts : List Token) : Token := ts.headD b.last

/-- The parenthesis that closes an expression. -/
def closing (b : Bounds) (inner : Tree) : List Token → Result Tree
  | [] => (.error ⟨.missing .rightParen, b.last⟩, [])
  | t :: rest =>
    if t.kind = .rightParen then (.ok inner, rest)
    else (.error ⟨.missing .rightParen, t⟩, t :: rest)

/-- An operand: a leaf, an operator in front of an operand, or an expression in parentheses. Expressions
inside of it are read by `expr`, which takes the strength of what stands in front of them. -/
def operand (b : Bounds) (expr : Nat → List Token → Result Tree) : List Token → Result Tree
  | [] => (.error ⟨.noExpression .eof, b.last⟩, [])
  | t :: rest =>
    match t.kind with
    | .ident => (.ok ⟨.band t.text, 1⟩, rest)
    | .number => (.ok ⟨.number (Decimal.ofLexeme t.text.toList), 1⟩, rest)
    | .trueWord => (.ok ⟨.boolean true, 1⟩, rest)
    | .falseWord => (.ok ⟨.boolean false, 1⟩, rest)
    | .bang | .minus =>
      match expr unaryPower rest with
      | (.error fault, rest) => (.error fault, rest)
      | (.ok right, rest) =>
        if b.limit < right.depth + 1 then (.error (b.tooDeep t), rest)
        else (.ok ⟨.unary t.text right.node, right.depth + 1⟩, rest)
    | .leftParen =>
      match expr 0 rest with
      | (.error fault, rest) => (.error fault, rest)
      | (.ok inner, rest) => closing b inner rest
    | .illegal => (.error ⟨.illegalCharacter t.text, t⟩, t :: rest)
    | kind => (.error ⟨.noExpression kind, t⟩, t :: rest)

/-- The operators behind `left` that bind more tightly than `power`, with their right operands. Equal
strengths group to the left. -/
def operators (b : Bounds) (expr : Nat → List Token → Result Tree) (power : Nat) (left : Tree)
    (ts : List Token) : Result Tree :=
  match ts with
  | [] => (.ok left, [])
  | t :: rest =>
    match t.kind.bindingPower? with
    | none => (.ok left, t :: rest)
    | some strength =>
      if strength ≤ power then (.ok left, t :: rest)
      else
        match expr strength rest with
        | (.error fault, rest) => (.error fault, rest)
        | (.ok right, rest) =>
          let depth := max left.depth right.depth + 1
          if b.limit < depth then (.error (b.tooDeep t), rest)
          else operators b expr power ⟨.binary t.text left.node right.node, depth⟩ rest
  termination_by b.limit.toNat - left.depth
  decreasing_by all_goals omega

/-- An expression whose operators bind more tightly than `power`, with at most `room` expressions nested
in each other. -/
def expression (b : Bounds) : (room : Nat) → (power : Nat) → List Token → Result Tree
  | 0, _, ts => (.error (b.tooDeep (b.peek ts)), ts)
  | room + 1, power, ts =>
    match operand b (expression b room) ts with
    | (.error fault, rest) => (.error fault, rest)
    | (.ok left, rest) => operators b (expression b room) power left rest

/-! ## What is left of the tokens -/

/-- The tokens left are a tail of those given, and a proper one if something was read. -/
def LeavesTail {α : Type} (ts : List Token) (r : Result α) : Prop :=
  r.2 <:+ ts ∧ (r.1.isOk → r.2.length < ts.length)

/-- A tail of a tail of the tokens behind the first one is a proper tail of all. -/
theorem LeavesTail.cons {α : Type} {t : Token} {ts : List Token} {r : Result α}
    (h : r.2 <:+ ts) : LeavesTail (t :: ts) r := by
  have hle := h.length_le
  exact ⟨h.trans (List.suffix_cons t ts), fun _ => by simp only [List.length_cons]; omega⟩

/-- A fault that uses up nothing. -/
theorem LeavesTail.error {α : Type} (ts : List Token) (f : Fault) :
    LeavesTail ts ((.error f, ts) : Result α) :=
  ⟨List.suffix_refl ts, fun h => by simp [Except.isOk, Except.toBool] at h⟩

theorem closing_suffix (b : Bounds) (inner : Tree) (ts : List Token) :
    (closing b inner ts).2 <:+ ts := by
  unfold closing
  split
  · exact List.suffix_refl _
  · split
    · exact List.suffix_cons _ _
    · exact List.suffix_refl _

theorem operand_tail (b : Bounds) {expr : Nat → List Token → Result Tree}
    (hexpr : ∀ power ts, LeavesTail ts (expr power ts)) (ts : List Token) :
    LeavesTail ts (operand b expr ts) := by
  unfold operand
  split
  · exact .error _ _
  · rename_i t rest
    split
    case _ => exact .cons (List.suffix_refl _)
    case _ => exact .cons (List.suffix_refl _)
    case _ => exact .cons (List.suffix_refl _)
    case _ => exact .cons (List.suffix_refl _)
    case h_5 | h_6 =>
      have h := (hexpr unaryPower rest).1
      split
      · rename_i heq
        rw [heq] at h
        exact .cons h
      · rename_i heq
        rw [heq] at h
        split
        · exact .cons h
        · exact .cons h
    case h_7 =>
      have h := (hexpr 0 rest).1
      split
      · rename_i heq
        rw [heq] at h
        exact .cons h
      · rename_i heq
        rw [heq] at h
        exact .cons ((closing_suffix b _ _).trans h)
    case _ => exact .error _ _
    case _ => exact .error _ _

theorem operators_suffix (b : Bounds) {expr : Nat → List Token → Result Tree}
    (hexpr : ∀ power ts, LeavesTail ts (expr power ts)) (power : Nat) (left : Tree)
    (ts : List Token) : (operators b expr power left ts).2 <:+ ts := by
  fun_induction operators b expr power left ts with
  | case1 => exact List.suffix_refl _
  | case2 => exact List.suffix_refl _
  | case3 => exact List.suffix_refl _
  | case4 left t rest strength _ _ fault rest' heq =>
    have h := (hexpr strength rest).1
    rw [heq] at h
    exact h.trans (List.suffix_cons _ _)
  | case5 left t rest strength _ _ right rest' heq depth _ =>
    have h := (hexpr strength rest).1
    rw [heq] at h
    exact h.trans (List.suffix_cons _ _)
  | case6 left t rest strength _ _ right rest' heq depth _ ih =>
    have h := (hexpr strength rest).1
    rw [heq] at h
    exact ih.trans (h.trans (List.suffix_cons _ _))

/-- An expression leaves a tail of its tokens, and a proper one if it was read. -/
theorem expression_tail (b : Bounds) (room power : Nat) (ts : List Token) :
    LeavesTail ts (expression b room power ts) := by
  induction room generalizing power ts with
  | zero => exact .error _ _
  | succ room ih =>
    have h := operand_tail b ih ts
    unfold expression
    split
    · rename_i heq
      rw [heq] at h
      exact ⟨h.1, fun hok => by simp [Except.isOk, Except.toBool] at hok⟩
    · rename_i left rest heq
      rw [heq] at h
      have hlt : rest.length < ts.length := h.2 rfl
      have htail := operators_suffix b ih power left rest
      have hle := htail.length_le
      exact ⟨htail.trans h.1, fun _ => by omega⟩

/-! ## Statements -/

/-- The tokens behind a semicolon, if they start with one. -/
def skipSemicolon : List Token → List Token
  | [] => []
  | t :: rest => if t.kind = .semicolon then rest else t :: rest

/-- The tokens behind the next semicolon. -/
def resume (ts : List Token) : List Token :=
  skipSemicolon (ts.dropWhile (·.kind ≠ .semicolon))

/-- A statement: an expression, and the semicolon behind it if there is one. -/
def statement (b : Bounds) (ts : List Token) : Result Node :=
  match expression b b.limit.toNat 0 ts with
  | (.error fault, rest) => (.error fault, rest)
  | (.ok tree, rest) => (.ok (.statement tree.node), skipSemicolon rest)

theorem skipSemicolon_suffix (ts : List Token) : skipSemicolon ts <:+ ts := by
  unfold skipSemicolon
  split
  · exact List.suffix_refl _
  · split
    · exact List.suffix_cons _ _
    · exact List.suffix_refl _

/-- A statement that was read has used up a token. -/
theorem statement_tail (b : Bounds) (ts : List Token) : LeavesTail ts (statement b ts) := by
  have h := expression_tail b b.limit.toNat 0 ts
  unfold statement
  split
  · rename_i heq
    rw [heq] at h
    exact ⟨h.1, fun hok => by simp [Except.isOk, Except.toBool] at hok⟩
  · rename_i tree rest heq
    rw [heq] at h
    have hlt : rest.length < ts.length := h.2 rfl
    have hle := (skipSemicolon_suffix rest).length_le
    exact ⟨(skipSemicolon_suffix rest).trans h.1, fun _ => Nat.lt_of_le_of_lt hle hlt⟩

/-- Going on behind a fault uses up a token. -/
theorem resume_length_lt {ts : List Token} (h : ts ≠ []) : (resume ts).length < ts.length := by
  unfold resume
  cases ts with
  | nil => exact absurd rfl h
  | cons t rest =>
    by_cases hsemicolon : t.kind = .semicolon
    · simp [skipSemicolon, hsemicolon]
    · have hdrop := (List.dropWhile_suffix (·.kind ≠ .semicolon) (l := rest)).length_le
      have hskip := (skipSemicolon_suffix (rest.dropWhile (·.kind ≠ .semicolon))).length_le
      simp only [ne_eq, hsemicolon, not_false_eq_true, decide_true, List.dropWhile_cons_of_pos,
        List.length_cons]
      simp only [ne_eq] at hdrop hskip
      omega

/-- All statements of a list of tokens, and the faults of those left out, both in order. -/
def statements (b : Bounds) (ts : List Token) : List Node × List Fault :=
  if _hne : ts = [] then ([], [])
  else
    match _h : statement b ts with
    | (.ok node, rest) =>
      let (nodes, faults) := statements b rest
      (node :: nodes, faults)
    | (.error fault, rest) =>
      let (nodes, faults) := statements b (resume rest)
      (nodes, fault :: faults)
  termination_by ts.length
  decreasing_by
    · have := (statement_tail b ts).2
      rw [_h] at this
      exact this rfl
    · have htail := (statement_tail b ts).1
      rw [_h] at htail
      have hle := htail.length_le
      cases rest with
      | nil => exact List.length_pos_iff.mpr _hne
      | cons t rest =>
        have := resume_length_lt (List.cons_ne_nil t rest)
        simp only at hle
        omega

end Parser

/-! ## Whole texts -/

/-- What was read from a text: the statements without a fault, and the faults of the others. -/
structure Parse where
  statements : List Node
  faults : List Fault

/-- How deeply expressions may be nested if nothing else is asked for. -/
def defaultLimit : Int := 200

/-- Reads a text as a formula, with a limit on nesting and depth. -/
def parseWithin (limit : Int) (source : String) : Parse :=
  let start := Cursor.start source
  let (statements, faults) := Parser.statements ⟨limit, start.endToken⟩ start.lexemes
  ⟨statements, faults⟩

/-- Reads a text as a formula. -/
def parse (source : String) : Parse := parseWithin defaultLimit source

/-- The tree of all statements that were read. -/
def Parse.program (p : Parse) : Node := .program p.statements

end RasterAlgebra
