import RasterAlgebra.Proofs.Formula.FaultText
import RasterAlgebra.Proofs.Number.Numerals

/-!
# Which formulas survive their text

The text of a formula that was read is read as the formula again exactly if the text of each of its numbers is
(`text_readsBack_iff`).

* `spelled_node`: in a formula that was read, names and operators are lexemes, so only numbers can go wrong.
* `covers_text`: the text of a formula has a symbol for every symbol of the formula, and has more or others as
  soon as one of its numbers is not plain.
-/

namespace RasterAlgebra

open Grammar Cursor
open Token (Kind Lexeme)

/-! ## Names and operators that were read -/

namespace Node

/-- Expressions over names and the operators of the grammar, with any numbers. -/
inductive Spelled : Node → Prop where
  | number (x : Scalar) : Spelled (.number x)
  | boolean (b : Bool) : Spelled (.boolean b)
  | band (name : String) (h : IsName name) : Spelled (.band name)
  | unary (op : String) (right : Node) (hop : op ∈ ["!", "-"]) (hright : Spelled right) :
      Spelled (.unary op right)
  | binary (op : String) (left right : Node)
      (hop : op ∈ ["#", "==", "!=", "<", ">", "+", "-", "*", "/"])
      (hleft : Spelled left) (hright : Spelled right) : Spelled (.binary op left right)

/-- The number that a symbol is. -/
def Symbol.number? : Symbol → Option Scalar
  | .leaf (.number x) => some x
  | _ => none

/-- The numbers of an expression in the order in which they are written. -/
def numbers (n : Node) : List Scalar := n.inOrder.filterMap Symbol.number?

theorem numbers_binary (op : String) (left right : Node) :
    (binary op left right).numbers = left.numbers ++ right.numbers := by
  rw [numbers, inOrder, List.filterMap_append, List.filterMap_cons_none rfl, numbers, numbers]

/-- An expression that is spelled out is written if its numbers can be read back. -/
theorem Spelled.written {n : Node} (h : n.Spelled) (hplain : ∀ x ∈ n.numbers, IsPlain x) :
    n.Written := by
  induction h with
  | number x => exact .number x (hplain x List.mem_cons_self).isNumeral
  | boolean b => exact .boolean b
  | band name h => exact .band name h
  | unary op right hop _ ih =>
    exact .unary op right hop (ih hplain)
  | binary op left right hop _ _ ihl ihr =>
    rw [numbers_binary, List.forall_mem_append] at hplain
    exact .binary op left right hop (ihl hplain.1) (ihr hplain.2)

end Node

/-- The shape of a token is that of its kind. -/
theorem lexeme_of_written {t : Token} (ht : t.Written) (hkind : t.kind ≠ .eof ∧ t.kind ≠ .illegal) :
    Lexeme t.kind t.text.toList := by
  cases ht with
  | lexeme hlexeme _ => simpa using lexeme_of_lexeme? hlexeme hkind.2
  | endOfText => exact absurd rfl hkind.1

/-- The text of an identifier is a name. -/
theorem isName_of_written {t : Token} (ht : t.Written) (hkind : t.kind = .ident) : IsName t.text := by
  have hlexeme := lexeme_of_written ht (by rw [hkind]; decide)
  rw [hkind] at hlexeme
  generalize hword : t.text.toList = word at hlexeme
  cases hlexeme with
  | ident hc hcs htrue hfalse =>
    refine ⟨_, _, hword, isLetter_iff.mp hc, fun d hd => isWordPart_iff.mp (hcs d hd), ?_, ?_⟩
    · exact fun h => htrue (hword.symm.trans (congrArg String.toList h))
    · exact fun h => hfalse (hword.symm.trans (congrArg String.toList h))
  | symbol h => simp [Token.symbols] at h

/-- The lexemes that are no words and no numbers, with their kinds. -/
def signs : List (Kind × String) :=
  (.equal, "==") :: (.notEqual, "!=") :: Token.symbols.map fun s => (s.2, String.ofList [s.1])

/-- A token whose kind has one text has this text. -/
theorem text_mem_of_written {t : Token} {kinds : List Kind} {words : List String} (ht : t.Written)
    (hmem : t.kind ∈ kinds)
    (hkinds : ∀ kind ∈ kinds, kind ∉ [.ident, .number, .trueWord, .falseWord, .illegal, .eof])
    (hwords : ∀ s ∈ signs, s.1 ∈ kinds → s.2 ∈ words) : t.text ∈ words := by
  have hkind := hkinds t.kind hmem
  have hlexeme := lexeme_of_written ht ⟨fun h => by simp [h] at hkind, fun h => by simp [h] at hkind⟩
  suffices hsign : (t.kind, String.ofList t.text.toList) ∈ signs by
    rw [String.ofList_toList] at hsign
    exact hwords _ hsign hmem
  generalize t.text.toList = word at hlexeme ⊢
  generalize t.kind = kind at hlexeme hkind ⊢
  cases hlexeme with
  | symbol hsymbol => exact List.mem_cons_of_mem _ (List.mem_cons_of_mem _ (List.mem_map_of_mem hsymbol))
  | equal => exact List.mem_cons_self
  | notEqual => exact List.mem_cons_of_mem _ List.mem_cons_self
  | _ => exact absurd hkind (by decide)

/-- A sign has one of two texts. -/
theorem text_of_unary {t : Token} (ht : t.Written) (h : t.kind ∈ unaryOperators) :
    t.text ∈ ["!", "-"] :=
  text_mem_of_written ht h (by decide) (by decide)

/-- An operator has the text of its symbol. -/
theorem text_of_operator {t : Token} {tier : Tier} (ht : t.Written) (h : t.kind ∈ tier.operators) :
    t.text ∈ ["#", "==", "!=", "<", ">", "+", "-", "*", "/"] :=
  text_mem_of_written ht h (by cases tier <;> decide) (by cases tier <;> decide)

/-- What is read from lexemes has names and operators that are lexemes. -/
theorem spelled_node {p : Phrase} (d : Derivation p) (h : ∀ t ∈ d.tokens, t.Written) :
    d.node.Spelled := by
  induction d with
  | leaf t n hleaf =>
    have ht := h t List.mem_cons_self
    unfold Token.leaf? at hleaf
    split at hleaf
    · rename_i hkind
      obtain rfl := Option.some.inj hleaf
      exact .band _ (isName_of_written ht hkind)
    · obtain rfl := Option.some.inj hleaf
      exact .number _
    · obtain rfl := Option.some.inj hleaf
      exact .boolean _
    · obtain rfl := Option.some.inj hleaf
      exact .boolean _
    · cases hleaf
  | group opening inner closing _ _ ih =>
    exact ih fun t ht => h t (List.mem_cons_of_mem _ (List.mem_append_left _ ht))
  | atom inner ih => exact ih h
  | unary op right hop ih =>
    obtain ⟨hwritten, hright⟩ := List.forall_mem_cons.mp h
    exact .unary _ _ (text_of_unary hwritten hop) (ih hright)
  | tighter inner ih => exact ih h
  | binary left op right hop ihl ihr =>
    obtain ⟨hleft, hrest⟩ := List.forall_mem_append.mp h
    obtain ⟨hwritten, hright⟩ := List.forall_mem_cons.mp hrest
    exact .binary _ _ _ (text_of_operator hwritten hop) (ihl hleft) (ihr hright)

/-! ## Symbols of a text -/

/-- The leaves and operators that the lexemes of a text are. -/
def symbolsFrom (i : ℕ) (s : List Char) : List Node.Symbol :=
  (lexemes ⟨i, s⟩).filterMap Token.symbol?

/-- There are as many symbols as expected, or more, and they are the expected ones only if all expected
numbers are plain. -/
structure Covers (found expected : List Node.Symbol) : Prop where
  length_le : expected.length ≤ found.length
  plain : found = expected → ∀ x ∈ expected.filterMap Node.Symbol.number?, IsPlain x

/-- Symbols whose numbers are plain cover themselves. -/
theorem covers_refl {symbols : List Node.Symbol}
    (h : ∀ x ∈ symbols.filterMap Node.Symbol.number?, IsPlain x) : Covers symbols symbols :=
  ⟨Nat.le_refl _, fun _ => h⟩

/-- Symbols are covered part by part. -/
theorem Covers.append {found expected found' expected' : List Node.Symbol} (h : Covers found expected)
    (h' : Covers found' expected') : Covers (found ++ found') (expected ++ expected') := by
  have hlength := h.length_le
  have hlength' := h'.length_le
  refine ⟨by simp only [List.length_append]; omega, ?_⟩
  intro heq
  -- neither part has more symbols than expected, since both together have not
  have htotal := congrArg List.length heq
  simp only [List.length_append] at htotal
  obtain ⟨hleft, hright⟩ := List.append_inj heq (by omega)
  rw [List.filterMap_append, List.forall_mem_append]
  exact ⟨h.plain hleft, h'.plain hright⟩

theorem Covers.cons {found expected : List Node.Symbol} (op : String) (h : Covers found expected) :
    Covers (.operator op :: found) (.operator op :: expected) :=
  (covers_refl (by simp [Node.Symbol.number?]) : Covers [.operator op] [.operator op]).append h

/-- Parentheses are no symbols. -/
theorem symbolsFrom_parentheses (i : ℕ) (s : List Char) :
    symbolsFrom i ('(' :: (s ++ [')'])) = symbolsFrom (i + 1) s := by
  rw [symbolsFrom, lexemes_parentheses, List.filterMap_cons_none rfl, List.filterMap_append]
  exact List.append_nil _

theorem head?_text_of_spelled {n : Node} (h : n.Spelled) : n.text.toList.head? ≠ some '=' := by
  cases h with
  | number x =>
    by_cases hplain : IsPlain x
    · exact head?_text_ne_equal (.number x hplain.isNumeral)
    · exact (misreads_of_not_isPlain hplain).head
  | boolean b => exact head?_text_ne_equal (.boolean b)
  | band name h => exact head?_text_ne_equal (.band name h)
  | unary op right => simp [toList_text_unary]
  | binary op left right => simp [toList_text_binary]

/-- The text of an expression with numerals has the symbols of the expression. -/
theorem symbolsFrom_of_written {n : Node} (h : n.Written) (i : ℕ) :
    symbolsFrom i n.text.toList = n.inOrder := by
  obtain ⟨d, hnode, -, htokens⟩ := exists_derivation_of_written h i
  rw [symbolsFrom, htokens, ← inOrder_node, hnode]

/-- The text of an expression has the symbols of the expression, or else more or others. -/
theorem covers_text {n : Node} (h : n.Spelled) (i : ℕ) :
    Covers (symbolsFrom i n.text.toList) n.inOrder := by
  induction h generalizing i with
  | number x =>
    by_cases hplain : IsPlain x
    · rw [symbolsFrom_of_written (.number x hplain.isNumeral)]
      exact covers_refl (by simpa [Node.inOrder, Node.Symbol.number?] using hplain)
    · obtain ⟨first, rest, hsymbols, hne⟩ := (misreads_of_not_isPlain hplain).symbols i
      rw [symbolsFrom, Node.text, hsymbols]
      exact ⟨by simp [Node.inOrder], fun heq => absurd heq hne⟩
  | boolean b =>
    rw [symbolsFrom_of_written (.boolean b)]
    exact covers_refl (by simp [Node.inOrder, Node.Symbol.number?])
  | band name h =>
    rw [symbolsFrom_of_written (.band name h)]
    exact covers_refl (by simp [Node.inOrder, Node.Symbol.number?])
  | unary op right hop hright ih =>
    obtain ⟨t, ht, htext, htoken⟩ := exists_unary_token hop (i + 1) (head?_text_of_spelled hright)
    have hsymbols : symbolsFrom i (Node.unary op right).text.toList =
        .operator op :: symbolsFrom (i + 1 + 1) right.text.toList := by
      rw [toList_text_unary, symbolsFrom_parentheses, symbolsFrom, htoken,
        List.filterMap_cons_some (symbol?_of_unary ht), htext, symbolsFrom]
    rw [hsymbols]
    exact (ih _).cons op
  | binary op left right hop hleft hright ihl ihr =>
    obtain ⟨t, tier, ht, htext, htoken⟩ :=
      exists_binary_token hop (i + 1 + left.text.toList.length) right.text.toList
    have hsymbols : symbolsFrom i (Node.binary op left right).text.toList =
        symbolsFrom (i + 1) left.text.toList ++ .operator op ::
          symbolsFrom (i + 1 + left.text.toList.length + (op.length + 2)) right.text.toList := by
      rw [toList_text_binary, symbolsFrom_parentheses, symbolsFrom, lexemes_append (breaks_space _),
        htoken, List.filterMap_append, List.filterMap_cons_some (symbol?_of_operator ht), htext,
        symbolsFrom, symbolsFrom]
    rw [hsymbols]
    exact (ihl _).append ((ihr _).cons op)

/-! ## Statements -/

theorem symbolsFrom_nil (i : ℕ) : symbolsFrom i [] = [] := by
  rw [symbolsFrom, lexemes_nil, List.filterMap_nil]

/-- The semicolon behind a statement is no symbol. -/
theorem symbolsFrom_statement (i : ℕ) (n : Node) (s : List Char) :
    symbolsFrom i ((Node.statement n).text.toList ++ s) =
      symbolsFrom i n.text.toList ++ symbolsFrom (i + n.text.toList.length + 1) s := by
  rw [Node.text, String.toList_append, List.append_assoc, show ";".toList ++ s = ';' :: s from rfl,
    symbolsFrom, lexemes_append (breaks_semicolon s), lexemes_semicolon, List.filterMap_append,
    List.filterMap_cons_none rfl, symbolsFrom, symbolsFrom]

/-- Statements are written one behind the other, with their symbols in the same order. -/
theorem covers_textOfList {nodes : List Node} (h : ∀ n ∈ nodes, n.Spelled) (i : ℕ) :
    Covers (symbolsFrom i (Node.textOfList (nodes.map .statement)).toList)
      (nodes.flatMap Node.inOrder) := by
  have hnil (j : ℕ) : Covers (symbolsFrom j []) [] := by
    rw [symbolsFrom_nil]
    exact covers_refl (by simp)
  induction nodes generalizing i with
  | nil => exact hnil i
  | cons n nodes ih =>
    obtain ⟨hn, hnodes⟩ := List.forall_mem_cons.mp h
    cases nodes with
    | nil =>
      rw [List.map_singleton, Node.textOfList, ← List.append_nil (Node.text _).toList,
        symbolsFrom_statement]
      exact (covers_text hn i).append (hnil _)
    | cons n' nodes =>
      rw [List.map_cons, List.map_cons, toList_textOfList_cons, symbolsFrom_statement]
      have hblank (j : ℕ) (s : List Char) : symbolsFrom j (' ' :: s) = symbolsFrom (j + 1) s := by
        rw [symbolsFrom, lexemes_blank j (by decide), symbolsFrom]
      rw [hblank]
      exact (covers_text hn i).append (ih hnodes _)

/-- Without blocks there is nothing to flatten. -/
theorem flattenOfList_statements (nodes : List Node) :
    Node.flattenOfList (nodes.map .statement) = nodes.map .statement := by
  induction nodes with
  | nil => rfl
  | cons n nodes ih =>
    rw [List.map_cons, Node.flattenOfList, ih]
    rfl

/-- Statements with numerals are read from their text, unless it is nested too deeply. -/
theorem parseWithin_text_iff_of_written {nodes : List Node} (h : ∀ n ∈ nodes, n.Written) (limit : ℤ) :
    parseWithin limit (Node.program (nodes.map .statement)).text = ⟨nodes.map .statement, []⟩ ↔
      ∀ n ∈ nodes, (n.textNesting : ℤ) ≤ limit := by
  let b : Parser.Bounds :=
    ⟨limit, (Cursor.start (Node.program (nodes.map .statement)).text).endToken⟩
  have hwrites : ∀ s ∈ nodes.map Node.statement, ∀ i,
      WritesOut (lexemes ⟨i, s.text.toList⟩) s.flatten := by
    refine List.forall_mem_map.mpr fun n hn i => ?_
    exact writesOut_statement (h n hn) i
  obtain ⟨ds, hprogram, hnodes, hds⟩ := writesOut_list hwrites 0
  rw [flattenOfList_statements] at hnodes
  have hgreedy : DerivesGreedily _ ds := hprogram.mono fun _ hfalse => hfalse.elim
  have hfits : (∀ d ∈ ds, Parser.Fits b b.limit.toNat d) ↔
      ∀ s ∈ nodes.map Node.statement, (s.textNesting : ℤ) ≤ limit := by
    rw [← hnodes, List.forall_mem_map]
    exact forall₂_congr fun d hd => fits_iff_of_written (hds d hd).1 (hds d hd).2
  have hfaults := Parser.faults_eq_nil_iff_of_derivesGreedily (b := b) hgreedy
  refine Iff.trans ?_ (hfits.trans List.forall_mem_map)
  constructor
  · intro hread
    exact hfaults.mp (congrArg Parse.faults hread)
  · intro hall
    have hread := Parser.statements_of_derivesGreedily (b := b) hgreedy hall
    rw [hnodes] at hread
    exact congrArg (fun r : List Node × List Fault => Parse.mk r.1 r.2) hread

/-! ## Formulas that were read -/

/-- The statements that are read from lexemes are expressions whose names and operators are lexemes. -/
theorem exists_spelled_of_written (b : Parser.Bounds) {ts : List Token} (h : ∀ t ∈ ts, t.Written) :
    ∃ nodes : List Node, (∀ n ∈ nodes, n.Spelled) ∧
      (Parser.statements b ts).1 = nodes.map .statement := by
  induction ts using Parser.statements_induction (b := b) with
  | nil => exact ⟨[], by simp, by rw [Parser.statements_nil]; rfl⟩
  | ok ts n rest hread ih =>
    have hsuffix := (Parser.statement_tail b ts).1
    rw [hread] at hsuffix
    -- a statement leaves a suffix of the lexemes to the ones behind it
    obtain ⟨nodes, hnodes, hstatements⟩ := ih fun t ht => h t (hsuffix.subset ht)
    obtain ⟨d, us, rfl, rfl, -, -, -⟩ := Parser.exists_derivation_of_statement hread
    have hspelled := spelled_node d fun t ht => h t (List.mem_append_left _ ht)
    refine ⟨d.node :: nodes, List.forall_mem_cons.mpr ⟨hspelled, hnodes⟩, ?_⟩
    rw [Parser.statements_of_ok hread, hstatements]
    rfl
  | error ts f rest hne hread ih =>
    have hsuffix := (Parser.statement_tail b ts).1
    rw [hread] at hsuffix
    rw [Parser.statements_of_error hne hread]
    exact ih fun t ht => h t (((Parser.resume_suffix rest).trans hsuffix).subset ht)

/-- The symbols of the statements that are read without a fault are those of the text. -/
theorem inOrder_of_faults_eq_nil {source : String} {limit : ℤ}
    (h : (parseWithin limit source).faults = []) :
    (parseWithin limit source).statements.flatMap Node.inOrder = symbolsFrom 0 source.toList := by
  let b : Parser.Bounds := ⟨limit, (Cursor.start source).endToken⟩
  obtain ⟨ds, hprogram, hfits⟩ := Parser.exists_derivesGreedily_of_statements (b := b) h
  have hread := Parser.statements_of_derivesGreedily hprogram hfits
  have hstatements : (parseWithin limit source).statements = ds.map Derivation.statement :=
    congrArg Prod.fst hread
  rw [hstatements]
  exact hprogram.inOrder

/-- A number is read back from its text exactly if it is zero, or finite and not below a ten-thousandth. What
was read of a text is read back from its own text exactly if all its numbers are, and the parentheses are not
nested too deeply. -/
theorem text_readsBack_iff (x : Scalar) (source : String) (limit limit' : ℤ) :
    (ReadsBack x ↔ x = 0 ∨ (0.0001 : Scalar) ≤ x ∧ x.isFinite) ∧
    (parseWithin limit' (parseWithin limit source).program.text =
        ⟨(parseWithin limit source).statements, []⟩ ↔
      ∀ s ∈ (parseWithin limit source).statements,
        (s.textNesting : ℤ) ≤ limit' ∧ ∀ y ∈ s.numbers, ReadsBack y) := by
  refine ⟨readsBack_iff_isPlain x, ?_⟩
  have hlexemes : ∀ t ∈ (Cursor.start source).lexemes, t.Written := fun t ht =>
    written_of_mem_tokens source t (List.mem_append_left _ ht)
  obtain ⟨nodes, hspelled, hnodes⟩ :=
    exists_spelled_of_written ⟨limit, (Cursor.start source).endToken⟩ hlexemes
  have hstatements : (parseWithin limit source).statements = nodes.map .statement := hnodes
  rw [Parse.program, hstatements]
  have hwritten (hplain : ∀ n ∈ nodes, ∀ x ∈ n.numbers, IsPlain x) : ∀ n ∈ nodes, n.Written :=
    fun n hn => (hspelled n hn).written (hplain n hn)
  simp only [List.forall_mem_map, readsBack_iff_isPlain]
  constructor
  · intro hread
    -- what is read has the symbols of its text, so this text has no others
    have hsymbols := inOrder_of_faults_eq_nil (congrArg Parse.faults hread)
    rw [hread, List.flatMap_map] at hsymbols
    have hplain := (covers_textOfList hspelled 0).plain hsymbols.symm
    rw [List.filterMap_flatMap] at hplain
    have hplain' : ∀ n ∈ nodes, ∀ x ∈ n.numbers, IsPlain x := fun n hn x hx =>
      hplain x (List.mem_flatMap.mpr ⟨n, hn, hx⟩)
    have hlimit := (parseWithin_text_iff_of_written (hwritten hplain') limit').mp hread
    exact fun n hn => ⟨hlimit n hn, hplain' n hn⟩
  · intro hall
    have hplain : ∀ n ∈ nodes, ∀ x ∈ n.numbers, IsPlain x := fun n hn => (hall n hn).2
    exact (parseWithin_text_iff_of_written (hwritten hplain) limit').mpr fun n hn => (hall n hn).1

/-- The exponent of a hundred-thousandth is read as another statement. -/
example : (parse (parse "0.00001;").program.text).statements.length = 2 := by decide +kernel

theorem not_readsBack_lexeme :
    ¬ ∀ t : String, lexeme? t.toList = some (.number, t.length) →
      ReadsBack (Decimal.ofLexeme t.toList) := by
  intro h
  have hplain := (readsBack_iff_isPlain _).mp (h "0.00001" (by decide +kernel))
  exact absurd hplain (by decide +kernel)

end RasterAlgebra
