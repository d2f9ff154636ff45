import Mathlib.Data.List.TakeWhile
import RasterAlgebra.Formula.Printer
import RasterAlgebra.Proofs.Formula.Programs
import RasterAlgebra.Proofs.Token.Scanning

/-!
# Reading the canonical text of a formula

The canonical text of a formula reads back as the formula, with its blocks flattened, as long as the
limit allows for the parentheses of the text (`parseWithin_text`).

* `exists_derivation_of_written`: the tokens of the text of an expression are an operand of the grammar,
  and its nesting is `Node.textNesting`.
* `exists_program_of_writtenStatements`: the tokens of the text of a list of statements are a program in
  which every statement has its semicolon.
-/

namespace RasterAlgebra

open Grammar Cursor

/-! ## Formulas whose text can be read -/

/-- A word that is not reserved. -/
def IsName (name : String) : Prop :=
  ∃ c rest, name.toList = c :: rest ∧ isWordStart c ∧ (∀ d ∈ rest, isWordPart d) ∧
    name ≠ "true" ∧ name ≠ "false"

/-- The text of the number is one lexeme, and reads back as the number. -/
def IsNumeral (x : Scalar) : Prop :=
  lexeme? (numberText x).toList = some (.number, (numberText x).length) ∧
    Decimal.ofLexeme (numberText x).toList = x

namespace Node

/-- Expressions over names, numerals and the operators of the grammar. -/
inductive Written : Node → Prop where
  | number (x : Scalar) (h : IsNumeral x) : Written (.number x)
  | boolean (b : Bool) : Written (.boolean b)
  | band (name : String) (h : IsName name) : Written (.band name)
  | unary (op : String) (right : Node) (hop : op ∈ ["!", "-"]) (hright : Written right) :
      Written (.unary op right)
  | binary (op : String) (left right : Node)
      (hop : op ∈ ["#", "==", "!=", "<", ">", "+", "-", "*", "/"])
      (hleft : Written left) (hright : Written right) : Written (.binary op left right)

/-- Statements over such expressions: single ones, and blocks of statements. -/
inductive WrittenStatement : Node → Prop where
  | statement (expression : Node) (h : Written expression) :
      WrittenStatement (.statement expression)
  | block (statements : List Node) (h : ∀ s ∈ statements, WrittenStatement s) :
      WrittenStatement (.block statements)

mutual
/-- The statements of a statement that are no blocks, in order. -/
def flatten : Node → List Node
  | block statements => flattenOfList statements
  | n => [n]
/-- The statements of a list of statements that are no blocks, in order. -/
def flattenOfList : List Node → List Node
  | [] => []
  | s :: rest => s.flatten ++ flattenOfList rest
end

/-- How many phrases a reader of the text of an expression is inside of at the deepest leaf. The
parentheses of an operation count, and the place of an operand behind an operator counts once more. -/
def textNesting : Node → ℕ
  | unary _ right => 2 + right.textNesting
  | binary _ left right => max (1 + left.textNesting) (2 + right.textNesting)
  | statement expression => expression.textNesting
  | _ => 1

theorem textNesting_pos (n : Node) : 0 < n.textNesting := by
  cases n <;> simp only [textNesting] <;> first | omega | exact textNesting_pos _

/-- An expression is not deeper than its text is nested. -/
theorem Written.depth_le {n : Node} (h : Written n) : n.depth ≤ n.textNesting := by
  induction h with
  | number | boolean | band => exact Nat.le_refl 1
  | unary op right _ _ ih =>
    simp only [depth, textNesting]
    omega
  | binary op left right _ _ _ ihl ihr =>
    simp only [depth, textNesting]
    omega

end Node

/-! ## Lexemes of a text -/

/-- A name is one lexeme. -/
theorem lexeme?_of_isName {name : String} (h : IsName name) :
    lexeme? name.toList = some (.ident, name.length) := by
  obtain ⟨c, rest, htext, hc, hrest, htrue, hfalse⟩ := h
  -- the word takes the whole text, so it is compared with the reserved words as a whole
  have hword : Token.Kind.ofWord name.toList = .ident := by
    rw [Token.Kind.ofWord, if_neg (fun h => htrue (String.toList_inj.mp h)),
      if_neg (fun h => hfalse (String.toList_inj.mp h))]
  have htake : (c :: rest).take (1 + rest.length) = c :: rest :=
    List.take_of_length_le (by rw [List.length_cons]; omega)
  rw [htext, lexeme?_of_isWordStart hc, wordLength_eq hrest, htake, ← htext, hword,
    ← String.length_toList, htext, List.length_cons, Nat.add_comm]

/-- A text that is a legal lexeme has one token. -/
theorem lexemes_of_lexeme?_length {s : String} {kind : Token.Kind} (hkind : kind ≠ .illegal)
    (h : lexeme? s.toList = some (kind, s.length)) (i : ℕ) :
    lexemes ⟨i, s.toList⟩ = [⟨kind, s, i, i + s.length⟩] := by
  have hblank : ∀ c ∈ s.toList.head?, isBlank c = false := by
    intro c hc
    obtain ⟨rest, htext⟩ := List.head?_eq_some_iff.mp hc
    exact isBlank_eq_false_of_lexeme? (htext ▸ h) hkind
  rw [← String.length_toList] at h ⊢
  rw [lexemes_single hblank h, String.ofList_toList]

theorem breaks_space (s : List Char) : Breaks (' ' :: s) :=
  breaks_cons rfl (by decide) (by decide) s

theorem breaks_rightParen (s : List Char) : Breaks (')' :: s) :=
  breaks_cons rfl (by decide) (by decide) s

/-- The tokens of a text in parentheses. -/
theorem lexemes_parentheses (i : ℕ) (s : List Char) :
    lexemes ⟨i, '(' :: (s ++ [')'])⟩ = ⟨.leftParen, "(", i, i + 1⟩ ::
      (lexemes ⟨i + 1, s⟩ ++ [⟨.rightParen, ")", i + 1 + s.length, i + 1 + s.length + 1⟩]) := by
  have hopening : lexeme? ('(' :: (s ++ [')'])) = some (.leftParen, 1) := rfl
  have hclosing : lexeme? [')'] = some (.rightParen, 1) := rfl
  rw [lexemes_cons i (by decide) hopening, List.drop_one, List.tail_cons,
    lexemes_append (breaks_rightParen []), lexemes_cons _ (by decide) hclosing, List.drop_one,
    List.tail_cons, lexemes_nil]
  rfl

/-- The token of an operator in front of an operand. -/
theorem exists_unary_token {op : String} (hop : op ∈ ["!", "-"]) (i : ℕ) {s : List Char}
    (hs : s.head? ≠ some '=') :
    ∃ t, t.kind ∈ unaryOperators ∧ t.text = op ∧
      lexemes ⟨i, op.toList ++ s⟩ = t :: lexemes ⟨i + 1, s⟩ := by
  simp only [List.mem_cons, List.not_mem_nil, or_false] at hop
  rcases hop with rfl | rfl
  · have hbang : lexeme? ('!' :: s) = some (.bang, 1) := by
      rw [lexeme?_cons, if_neg (by simp), if_neg (fun h => hs h.2)]
      rfl
    exact ⟨⟨.bang, "!", i, i + 1⟩, List.mem_cons_self, rfl, lexemes_cons i (by decide) hbang⟩
  · have hminus : lexeme? ('-' :: s) = some (.minus, 1) := rfl
    exact ⟨⟨.minus, "-", i, i + 1⟩, List.mem_cons_of_mem _ List.mem_cons_self, rfl, lexemes_cons i (by decide) hminus⟩

/-- The token of an operator between two operands, with blanks on either side. -/
theorem exists_binary_token {op : String}
    (hop : op ∈ ["#", "==", "!=", "<", ">", "+", "-", "*", "/"]) (i : ℕ) (s : List Char) :
    ∃ t, ∃ tier : Tier, t.kind ∈ tier.operators ∧ t.text = op ∧
      lexemes ⟨i, ' ' :: (op.toList ++ ' ' :: s)⟩ =
        t :: lexemes ⟨i + (op.length + 2), s⟩ := by
  -- the operator is one lexeme, whatever stands behind the blank
  have htoken : ∀ (kind : Token.Kind) (tier : Tier), kind ∈ tier.operators →
      lexeme? op.toList = some (kind, op.length) → ∃ t, ∃ tier : Tier,
      t.kind ∈ tier.operators ∧ t.text = op ∧ lexemes ⟨i, ' ' :: (op.toList ++ ' ' :: s)⟩ =
        t :: lexemes ⟨i + (op.length + 2), s⟩ := by
    intro kind tier hmem hlexeme
    have hkind : kind ≠ .illegal := by
      rintro rfl
      cases tier <;> exact absurd hmem (by decide)
    refine ⟨⟨kind, op, i + 1, i + 1 + op.length⟩, tier, hmem, rfl, ?_⟩
    rw [lexemes_blank i (by decide), lexemes_append (breaks_space s),
      lexemes_of_lexeme?_length hkind hlexeme, lexemes_blank _ (by decide), String.length_toList,
      show i + 1 + op.length + 1 = i + (op.length + 2) by omega]
    rfl
  simp only [List.mem_cons, List.not_mem_nil, or_false] at hop
  rcases hop with rfl | rfl | rfl | rfl | rfl | rfl | rfl | rfl | rfl
  · exact htoken .hash .mask (by decide) rfl
  · exact htoken .equal .equality (by decide) rfl
  · exact htoken .notEqual .equality (by decide) rfl
  · exact htoken .less .order (by decide) rfl
  · exact htoken .greater .order (by decide) rfl
  · exact htoken .plus .sum (by decide) rfl
  · exact htoken .minus .sum (by decide) rfl
  · exact htoken .asterisk .product (by decide) rfl
  · exact htoken .slash .product (by decide) rfl

/-! ## Expressions -/

/-- The text of a sign and its operand. -/
theorem toList_text_unary (op : String) (right : Node) :
    (Node.unary op right).text.toList = '(' :: (op.toList ++ right.text.toList ++ [')']) := by
  rw [Node.text, String.toList_append, String.toList_append, String.toList_append]
  rfl

/-- The text of an operator between its operands. -/
theorem toList_text_binary (op : String) (left right : Node) :
    (Node.binary op left right).text.toList =
      '(' :: (left.text.toList ++ ' ' :: (op.toList ++ ' ' :: right.text.toList) ++ [')']) := by
  simp only [Node.text, String.toList_append, List.append_assoc, List.cons_append]
  rfl

/-- No text of an expression makes an operator in front of it longer. -/
theorem head?_text_ne_equal {n : Node} (h : n.Written) : n.text.toList.head? ≠ some '=' := by
  intro hhead
  obtain ⟨rest, htext⟩ := List.head?_eq_some_iff.mp hhead
  cases h with
  | number x h =>
    have hlexeme := h.1
    rw [show (numberText x).toList = '=' :: rest from htext, lexeme?_cons] at hlexeme
    split at hlexeme
    · simp at hlexeme
    · rw [if_neg (by simp)] at hlexeme
      simp [Token.Kind.ofSymbol?, isWordStart] at hlexeme
  | boolean value => cases value <;> exact absurd hhead (by decide)
  | band name h =>
    obtain ⟨c, rest', hname, hc, -⟩ := h
    rw [show name.toList = '=' :: rest from htext] at hname
    obtain rfl := (List.cons.inj hname).1
    exact absurd hc (by decide)
  | unary => simp [toList_text_unary] at htext
  | binary => simp [toList_text_binary] at htext

/-- An expression in parentheses is an operand that is nested once more. -/
theorem exists_group (i : ℕ) {s : List Char} {d : Derivation .expression}
    (h : lexemes ⟨i + 1, s⟩ = d.tokens) :
    ∃ e : Derivation .atom, e.node = d.node ∧ e.nesting = d.nesting + 1 ∧
      lexemes ⟨i, '(' :: (s ++ [')'])⟩ = e.tokens := by
  refine ⟨.group ⟨.leftParen, "(", i, i + 1⟩ d
    ⟨.rightParen, ")", i + 1 + s.length, i + 1 + s.length + 1⟩ rfl rfl, rfl, rfl, ?_⟩
  rw [lexemes_parentheses, h]
  rfl

/-- The text of an expression is an operand, wherever it stands. -/
theorem exists_derivation_of_written {n : Node} (h : n.Written) (i : ℕ) :
    ∃ d : Derivation .atom, d.node = n ∧ d.nesting = n.textNesting ∧
      lexemes ⟨i, n.text.toList⟩ = d.tokens := by
  induction h generalizing i with
  | number x h =>
    have htoken := lexemes_of_lexeme?_length (by decide) h.1 i
    have hleaf : Token.leaf? ⟨.number, numberText x, i, i + (numberText x).length⟩ =
        some (.number x) := by
      rw [Token.leaf?, h.2]
    refine ⟨.leaf _ _ hleaf, rfl, rfl, ?_⟩
    rw [Node.text, htoken, Derivation.tokens]
  | boolean value =>
    have hlexeme : lexeme? (Value.boolText value).toList =
        some (if value then .trueWord else .falseWord, (Value.boolText value).length) := by
      cases value <;> rfl
    have htoken := lexemes_of_lexeme?_length (by cases value <;> decide) hlexeme i
    have hleaf : Token.leaf? ⟨if value then .trueWord else .falseWord, Value.boolText value, i,
        i + (Value.boolText value).length⟩ = some (.boolean value) := by
      cases value <;> rfl
    refine ⟨.leaf _ _ hleaf, rfl, rfl, ?_⟩
    rw [Node.text, htoken, Derivation.tokens]
  | band name h =>
    have htoken := lexemes_of_lexeme?_length (by decide) (lexeme?_of_isName h) i
    exact ⟨.leaf ⟨.ident, name, i, i + name.length⟩ (.band name) rfl, rfl, rfl, htoken⟩
  | unary op right hop hright ih =>
    have hhead : right.text.toList.head? ≠ some '=' := head?_text_ne_equal hright
    obtain ⟨t, ht, htext, htoken⟩ := exists_unary_token hop (i + 1) hhead
    obtain ⟨d, hnode, hnesting, htokens⟩ := ih (i + 1 + 1)
    -- parentheses hold an expression of any tier
    obtain ⟨e, hetokens, henode, henesting⟩ := exists_tier (.unary t (.atom d) ht) .mask (by decide)
    have hlexemes : lexemes ⟨i + 1, op.toList ++ right.text.toList⟩ = e.tokens := by
      rw [htoken, htokens, hetokens]
      rfl
    obtain ⟨g, hgnode, hgnesting, hgtokens⟩ := exists_group i hlexemes
    refine ⟨g, ?_, ?_, ?_⟩
    · rw [hgnode, henode, Derivation.node, Derivation.node, htext, hnode]
    · rw [hgnesting, henesting, Derivation.nesting, Derivation.nesting, hnesting, Node.textNesting]
      omega
    · rw [toList_text_unary, hgtokens]
  | binary op left right hop hleft hright ihl ihr =>
    obtain ⟨l, hlnode, hlnesting, hltokens⟩ := ihl (i + 1)
    obtain ⟨t, tier, ht, htext, htoken⟩ :=
      exists_binary_token hop (i + 1 + left.text.toList.length) right.text.toList
    obtain ⟨r, hrnode, hrnesting, hrtokens⟩ :=
      ihr (i + 1 + left.text.toList.length + (op.length + 2))
    -- operands in parentheses are tight enough for the operator of every tier, on either side
    obtain ⟨l', hl'tokens, hl'node, hl'nesting⟩ := exists_tier l tier (by cases tier <;> decide)
    obtain ⟨r', hr'tokens, hr'node, hr'nesting⟩ := exists_tighter r tier (by cases tier <;> decide)
    obtain ⟨e, hetokens, henode, henesting⟩ := exists_tier (.binary l' t r' ht) .mask (Nat.zero_le _)
    have hlexemes : lexemes ⟨i + 1, left.text.toList ++ ' ' :: (op.toList ++
        ' ' :: right.text.toList)⟩ = e.tokens := by
      rw [lexemes_append (breaks_space _), htoken, hltokens, hrtokens, hetokens, Derivation.tokens,
        hl'tokens, hr'tokens]
    obtain ⟨g, hgnode, hgnesting, hgtokens⟩ := exists_group i hlexemes
    refine ⟨g, ?_, ?_, ?_⟩
    · rw [hgnode, henode, Derivation.node, hl'node, hr'node, htext, hlnode, hrnode]
    · rw [hgnesting, henesting, Derivation.nesting, hl'nesting, hr'nesting, hlnesting, hrnesting,
        Node.textNesting]
      omega
    · rw [toList_text_binary, hgtokens]

/-! ## Statements -/

/-- The tokens are the statements `nodes`, each with its semicolon, and each nested as its text is. -/
def WritesOut (ts : List Token) (nodes : List Node) : Prop :=
  ∃ ds, Program (fun _ => False) ts ds ∧ ds.map Derivation.statement = nodes ∧
    ∀ d ∈ ds, d.node.Written ∧ d.nesting = d.node.textNesting

theorem WritesOut.nil : WritesOut [] [] := ⟨[], .nil, rfl, by simp⟩

/-- A program whose statements all end with semicolons, and any program behind it. -/
theorem program_append {cut : List Token → Prop} {ts us : List Token}
    {ds es : List (Derivation .expression)} (h : Program (fun _ => False) ts ds)
    (h' : Program cut us es) : Program cut (ts ++ us) (ds ++ es) := by
  induction h with
  | nil => exact h'
  | bare _ hcut => exact hcut.elim
  | terminated d semicolon hsemicolon _ ih =>
    rw [List.append_assoc]
    exact .terminated d semicolon hsemicolon ih

/-- Texts that write statements out do so one behind the other. -/
theorem WritesOut.append {ts us : List Token} {ms ns : List Node} (h : WritesOut ts ms)
    (h' : WritesOut us ns) : WritesOut (ts ++ us) (ms ++ ns) := by
  obtain ⟨ds, hprogram, rfl, hds⟩ := h
  obtain ⟨es, hprogram', rfl, hes⟩ := h'
  refine ⟨ds ++ es, program_append hprogram hprogram', List.map_append, ?_⟩
  intro d hd
  rcases List.mem_append.mp hd with hd | hd
  · exact hds d hd
  · exact hes d hd

/-- The text of a statement writes it out. -/
theorem writesOut_statement {n : Node} (h : n.Written) (i : ℕ) :
    WritesOut (lexemes ⟨i, (Node.statement n).text.toList⟩) [.statement n] := by
  obtain ⟨d, hnode, hnesting, htokens⟩ := exists_derivation_of_written h i
  obtain ⟨e, hetokens, henode, henesting⟩ := exists_tier d .mask (Nat.zero_le _)
  have hlexemes : lexemes ⟨i, (Node.statement n).text.toList⟩ =
      e.tokens ++ ⟨.semicolon, ";", i + n.text.toList.length, i + n.text.toList.length + 1⟩ :: [] := by
    rw [Node.text, String.toList_append, show ";".toList = ';' :: [] from rfl,
      lexemes_append (breaks_semicolon []), lexemes_semicolon, lexemes_nil, htokens, hetokens]
  refine ⟨[e], hlexemes ▸ .terminated e _ rfl .nil, ?_, ?_⟩
  · rw [List.map_singleton, Derivation.statement, henode, hnode]
  · intro f hf
    rw [List.mem_singleton.mp hf, henode, henesting, hnode, hnesting]
    exact ⟨h, rfl⟩

theorem toList_textOfList_cons (s t : Node) (ss : List Node) :
    (Node.textOfList (s :: t :: ss)).toList =
      s.text.toList ++ ' ' :: (Node.textOfList (t :: ss)).toList := by
  rw [Node.textOfList, String.toList_append, String.toList_append, List.append_assoc]
  · rfl
  · simp

/-- Statements are written one behind the other, with blanks between them that leave no token. -/
theorem writesOut_list {ss : List Node}
    (h : ∀ s ∈ ss, ∀ i, WritesOut (lexemes ⟨i, s.text.toList⟩) s.flatten) (i : ℕ) :
    WritesOut (lexemes ⟨i, (Node.textOfList ss).toList⟩) (Node.flattenOfList ss) := by
  induction ss generalizing i with
  | nil =>
    rw [Node.textOfList, Node.flattenOfList, String.toList_empty, lexemes_nil]
    exact .nil
  | cons s ss ih =>
    have hs := h s List.mem_cons_self
    cases ss with
    | nil =>
      rw [Node.textOfList, Node.flattenOfList, Node.flattenOfList, List.append_nil]
      exact hs i
    | cons t ss =>
      have hrest := ih fun u hu => h u (List.mem_cons_of_mem s hu)
      -- this holds of an empty block as well: its text is empty, and the blank leaves no token
      rw [toList_textOfList_cons, lexemes_append (breaks_space _), lexemes_blank _ (by decide), Node.flattenOfList]
      exact (hs i).append (hrest _)

/-- The text of a block writes out the statements in it. -/
theorem writesOut_of_writtenStatement {s : Node} (h : s.WrittenStatement) (i : ℕ) :
    WritesOut (lexemes ⟨i, s.text.toList⟩) s.flatten := by
  induction h generalizing i with
  | statement n h => exact writesOut_statement h i
  | block ss _ ih =>
    rw [Node.text, Node.flatten]
    exact writesOut_list ih i

/-- A derivation that is nested as its text is, is within the limits if the text is. -/
theorem fits_iff_of_written {b : Parser.Bounds} {d : Derivation .expression}
    (hwritten : d.node.Written) (hnesting : d.nesting = d.node.textNesting) :
    Parser.Fits b b.limit.toNat d ↔ (d.statement.textNesting : ℤ) ≤ b.limit := by
  have hdepth := hwritten.depth_le
  have hpos := d.node.textNesting_pos
  rw [Parser.Fits, Derivation.statement, Node.textNesting, hnesting]
  omega

/-- The canonical text of a program is read without a fault exactly if the text of each of its
statements is nested within the limit, and then what is read is the program with its blocks
flattened. -/
theorem parseWithin_text {statements : List Node} (h : ∀ s ∈ statements, s.WrittenStatement)
    (limit : ℤ) :
    ((parseWithin limit (Node.program statements).text).faults = [] ↔
      ∀ s ∈ Node.flattenOfList statements, (s.textNesting : ℤ) ≤ limit) ∧
    ((parseWithin limit (Node.program statements).text).faults = [] →
      (parseWithin limit (Node.program statements).text).statements =
        Node.flattenOfList statements) := by
  let b : Parser.Bounds := ⟨limit, (Cursor.start (Node.program statements).text).endToken⟩
  have htokens := writesOut_list (fun s hs => writesOut_of_writtenStatement (h s hs)) 0
  obtain ⟨ds, hprogram, hnodes, hwritten⟩ := htokens
  have hgreedy : DerivesGreedily _ ds := hprogram.mono fun _ hfalse => hfalse.elim
  have hfaults := Parser.faults_eq_nil_iff_of_derivesGreedily (b := b) hgreedy
  rw [← hnodes]
  refine ⟨?_, ?_⟩
  · refine hfaults.trans ?_
    rw [List.forall_mem_map]
    refine forall₂_congr fun d hd => ?_
    exact fits_iff_of_written (hwritten d hd).1 (hwritten d hd).2
  · intro hnil
    have hread := Parser.statements_of_derivesGreedily (b := b) hgreedy (hfaults.mp hnil)
    exact congrArg Prod.fst hread

/-- Two statements in nested blocks, of which the first is nested five times. -/
def blockSample : List Node :=
  [.block [], .statement (.binary "-" (.band "a") (.unary "!" (.number 1.5))),
    .block [.block [.statement (.boolean true)]]]

/-- Statements in blocks, with a limit that is just enough, and with one that is not. -/
theorem parseWithin_text_blocks :
    (∀ s ∈ blockSample, s.WrittenStatement) ∧
      (parseWithin 5 (Node.program blockSample).text).statements =
        Node.flattenOfList blockSample ∧
      (parseWithin 4 (Node.program blockSample).text).faults ≠ [] := by
  have hnumeral : IsNumeral 1.5 := ⟨by decide +kernel, by decide +kernel⟩
  have hname : IsName "a" := ⟨'a', [], rfl, by decide, by simp, by decide, by decide⟩
  have hwritten : ∀ s ∈ blockSample, s.WrittenStatement := by
    intro s hs
    simp only [blockSample, List.mem_cons, List.not_mem_nil, or_false] at hs
    rcases hs with rfl | rfl | rfl
    · exact .block [] (by simp)
    · exact .statement _ (.binary "-" _ _ (by decide) (.band "a" hname)
        (.unary "!" _ (by decide) (.number 1.5 hnumeral)))
    · refine .block _ fun s hs => List.mem_singleton.mp hs ▸ .block _ fun s hs => ?_
      exact List.mem_singleton.mp hs ▸ .statement _ (.boolean true)
  have hfive : ∀ s ∈ Node.flattenOfList blockSample, (s.textNesting : ℤ) ≤ 5 := by decide
  have hfour : ¬ ∀ s ∈ Node.flattenOfList blockSample, (s.textNesting : ℤ) ≤ 4 := by decide
  have hread := parseWithin_text hwritten 5
  exact ⟨hwritten, hread.2 (hread.1.mpr hfive), mt (parseWithin_text hwritten 4).1.mp hfour⟩

end RasterAlgebra
