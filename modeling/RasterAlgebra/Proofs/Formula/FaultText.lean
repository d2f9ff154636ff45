import RasterAlgebra.Proofs.Formula.Consumption
import RasterAlgebra.Proofs.Token.Munch

/-!
# What faults look like

The faults of a text are written on one line, with a semicolon between them. A semicolon, a blank or a
parenthesis may as well be part of what a fault shows, but the line can still be read from the left.

* `arises_of_mem_faults`: the parser has four complaints, and each is about the token at which it is made.
* `foundText_append_inj`: a token is told by what was found, up to its place; the closing parenthesis
  cannot belong to its lexeme, because the lexeme is as long as it can be.
* `message_append_inj`, `text_append_inj`: so a fault is told from what stands behind it.

Hence different lists of faults make different lines (`textOfList_inj`).
-/

namespace RasterAlgebra

/-! ## What the parser complains about -/

/-- The complaints of the parser, each about the token at which it is made. -/
inductive Fault.Arises (limit : ℤ) : Fault → Prop where
  | tooDeep (t : Token) : Arises limit ⟨.tooDeep limit, t⟩
  | missing (t : Token) : Arises limit ⟨.missing .rightParen, t⟩
  | illegalCharacter (t : Token) (h : t.kind = .illegal) : Arises limit ⟨.illegalCharacter t.text, t⟩
  | noExpression (t : Token) : Arises limit ⟨.noExpression t.kind, t⟩

namespace Parser
variable {α : Type} {b : Bounds}

/-- If reading stopped, it did so with one of the complaints. -/
def Complains (b : Bounds) (r : Result α) : Prop := ∀ f, r.1 = .error f → f.Arises b.limit

theorem complains_ok (a : α) (ts : List Token) : Complains b (.ok a, ts) := by
  intro f hf
  cases hf

theorem complains_error {f : Fault} (hf : f.Arises b.limit) (ts : List Token) :
    Complains b ((.error f, ts) : Result α) := by
  intro g hg
  obtain rfl := Except.error.inj hg
  exact hf

/-- What is read does not count for the fault in its place. -/
theorem Complains.of_error {r : Result α} {f : Fault} {rest : List Token} (h : Complains b r)
    (hf : r = (.error f, rest)) {β : Type} : Complains b ((.error f, rest) : Result β) :=
  complains_error (h f (by rw [hf])) rest

/-- A parenthesis that is not closed. -/
theorem closing_complains (inner : Tree) (ts : List Token) : Complains b (closing b inner ts) := by
  unfold closing
  split
  · exact complains_error (.missing _) _
  · split
    · exact complains_ok _ _
    · exact complains_error (.missing _) _

/-- Something that is no operand, where one has to come. -/
theorem arises_noOperand (t : Token) : Fault.Arises b.limit ⟨noOperand t, t⟩ := by
  rw [noOperand]
  split
  · rename_i hkind
    exact .illegalCharacter t hkind
  · exact .noExpression t

section
variable {expr : ℕ → List Token → Result Tree}

/-- An operand complains as the expressions in it do, or about its own token. -/
theorem operand_complains (hlast : b.last.kind = .eof)
    (hexpr : ∀ power ts, Complains b (expr power ts)) (ts : List Token) :
    Complains b (operand b expr ts) := by
  cases ts with
  | nil => exact complains_error (hlast ▸ .noExpression b.last) []
  | cons t ts =>
    cases starts t with
    | leaf n hleaf =>
      rw [operand_leaf hleaf]
      exact complains_ok _ _
    | unary hunary =>
      rw [operand_unary hunary]
      split
      · rename_i heq
        exact (hexpr _ _).of_error heq
      · split
        · exact complains_error (.tooDeep t) _
        · exact complains_ok _ _
    | leftParen hparen =>
      rw [operand_leftParen hparen]
      split
      · rename_i heq
        exact (hexpr _ _).of_error heq
      · exact closing_complains _ _
    | none hleaf hunary hparen =>
      rw [operand_fault hleaf hunary hparen]
      exact complains_error (arises_noOperand t) _

/-- Operators complain as their operands do. -/
theorem operators_complains (hexpr : ∀ power ts, Complains b (expr power ts)) (power : ℕ) (left : Tree)
    (ts : List Token) : Complains b (operators b expr power left ts) := by
  fun_induction operators b expr power left ts with
  | case1 | case2 | case3 => exact complains_ok _ _
  | case4 left t ts strength _ _ fault rest heq => exact (hexpr _ _).of_error heq
  | case5 left t => exact complains_error (.tooDeep t) _
  | case6 left t ts strength _ _ right rest heq depth _ ih => exact ih

end

/-- So every fault in an expression is one of those that arise. -/
theorem expression_complains (hlast : b.last.kind = .eof) (room power : ℕ) (ts : List Token) :
    Complains b (expression b room power ts) := by
  induction room generalizing power ts with
  | zero => exact complains_error (.tooDeep _) ts
  | succ room ih =>
    rw [expression]
    split
    · rename_i heq
      exact (operand_complains hlast ih ts).of_error heq
    · exact operators_complains ih power _ _

/-- And so is every fault in a statement. -/
theorem arises_of_statement_error (hlast : b.last.kind = .eof) {ts rest : List Token} {f : Fault}
    (h : statement b ts = (.error f, rest)) : f.Arises b.limit := by
  rw [statement] at h
  split at h
  · rename_i heq
    obtain ⟨rfl, -⟩ : _ = f ∧ _ = rest := by simpa using h
    exact expression_complains hlast _ 0 ts _ (by rw [heq])
  · cases h

/-- Every fault is one of the complaints. -/
theorem arises_of_mem_statements (hlast : b.last.kind = .eof) (ts : List Token) :
    ∀ f ∈ (statements b ts).2, f.Arises b.limit := by
  induction ts using statements_induction (b := b) with
  | nil => simp [statements_nil]
  | ok ts n rest hread ih => rwa [statements_of_ok hread]
  | error ts f rest hne hread ih =>
    rw [statements_of_error hne hread]
    exact List.forall_mem_cons.mpr ⟨arises_of_statement_error hlast hread, ih⟩

end Parser

/-- All faults of a text arise from its tokens. -/
theorem arises_of_mem_faults (source : String) :
    ∀ f ∈ (parse source).faults, f.Arises defaultLimit :=
  Parser.arises_of_mem_statements (b := ⟨defaultLimit, (Cursor.start source).endToken⟩) rfl _

/-! ## Tokens by themselves -/

open Token

/-- A token as a text has it: its text by itself would be this token, or it is the end of the text. -/
inductive Token.Written : Token → Prop where
  | lexeme {t : Token} (hlexeme : lexeme? t.text.toList = some (t.kind, t.text.toList.length))
      (hstart : ∀ c ∈ t.text.toList.head?, ¬ IsSpace c) : Written t
  | endOfText (n : ℕ) : Written (.endOfText n)

/-- A word that was cut off is cut off in the same way where it stands alone. -/
theorem Token.Munched.alone {s word : List Char} {kind : Kind} (h : Munched s kind word) :
    Munched word kind word := by
  cases h with
  | lexeme h _ _ => exact .lexeme h (List.prefix_refl _) fun _ _ _ hfront => hfront.length_le
  | illegal hfront hnone =>
    exact .illegal (List.prefix_refl _) fun _ _ h hword => hnone _ _ h (hword.trans hfront)

/-- A word that stands alone is its own lexeme. -/
theorem lexeme?_of_munched {word : List Char} {kind : Kind} (h : Munched word kind word) :
    lexeme? word = some (kind, word.length) := by
  obtain ⟨n, hfound, htake⟩ := munched_iff.mp h
  have hle := lexeme?_length_le hfound
  have hlength := congrArg List.length htake
  rw [List.length_take_of_le hle] at hlength
  rw [hfound, hlength]

/-- The tokens of a text, and the one that ends it. -/
theorem written_of_mem_tokens (source : String) :
    ∀ t ∈ (Cursor.start source).lexemes ++ [(Cursor.start source).endToken], t.Written := by
  have hcut := (cut_iff_eq_lexemes 0 source.toList rfl (Cursor.start source).lexemes).mpr rfl
  intro t ht
  rcases List.mem_append.mp ht with ht | ht
  · obtain ⟨-, hstands⟩ := hcut.stands t ht
    refine .lexeme (lexeme?_of_munched hstands.munched.alone) fun c hc => hstands.starts c ?_
    have hpos := hstands.pos_lt
    rw [hstands.text_eq, List.head?_take, if_neg (by omega), List.head?_drop] at hc
    exact hc
  · rw [List.mem_singleton.mp ht]
    exact .endOfText _

/-- The token that ends a text has no characters. -/
theorem Token.Written.text_of_eof {t : Token} (h : t.Written) (hkind : t.kind = .eof) : t.text = "" := by
  cases h with
  | lexeme hlexeme _ => exact absurd hkind (Cursor.kind_ne_eof_of_lexeme? hlexeme)
  | endOfText n => rfl

/-- An illegal token is one character, and this is no blank. -/
theorem Token.Written.blank_not_mem {t : Token} (h : t.Written) (hkind : t.kind = .illegal) :
    ' ' ∉ t.text.toList := by
  cases h with
  | lexeme hlexeme hstart =>
    rw [hkind] at hlexeme
    obtain ⟨c, hc⟩ := List.length_eq_one_iff.mp (length_of_illegal hlexeme)
    rw [hc] at hstart ⊢
    intro hmem
    obtain rfl := List.mem_singleton.mp hmem
    exact hstart ' ' rfl (by decide)
  | endOfText n => cases hkind

theorem Token.eq_of_fields {t u : Token} (hkind : t.kind = u.kind) (htext : t.text = u.text)
    (hpos : t.pos = u.pos) (hstop : t.stop = u.stop) : t = u := by
  obtain ⟨kind, text, pos, stop⟩ := t
  obtain rfl : kind = u.kind := hkind
  obtain rfl : text = u.text := htext
  obtain rfl : pos = u.pos := hpos
  obtain rfl : stop = u.stop := hstop
  rfl

/-! ## Texts in front of others -/

/-- What stands in front of the first `c` is known. -/
theorem eq_of_append_cons {c : Char} {a b s t : List Char} (ha : c ∉ a) (hb : c ∉ b)
    (h : a ++ c :: s = b ++ c :: t) : a = b ∧ s = t := by
  induction a generalizing b with
  | nil =>
    cases b with
    | nil => exact ⟨rfl, List.cons_inj_right c |>.mp h⟩
    | cons d b =>
      obtain ⟨rfl, -⟩ := List.cons.inj h
      exact absurd List.mem_cons_self hb
  | cons d a ih =>
    cases b with
    | nil =>
      obtain ⟨rfl, -⟩ := List.cons.inj h
      exact absurd List.mem_cons_self ha
    | cons e b =>
      obtain ⟨rfl, h'⟩ := List.cons.inj h
      obtain ⟨rfl, rfl⟩ := ih (List.not_mem_of_not_mem_cons ha) (List.not_mem_of_not_mem_cons hb) h'
      exact ⟨rfl, rfl⟩

/-- A number in front of something that is no digit. -/
theorem natText_append_inj {m n : ℕ} {c : Char} (hc : c.isDigit = false) {s t : List Char}
    (h : (toString (m : ℤ)).toList ++ c :: s = (toString (n : ℤ)).toList ++ c :: t) : m = n ∧ s = t := by
  have htext (n : ℕ) : (toString (n : ℤ)).toList = Nat.toDigits 10 n := String.toList_ofList
  have hdigits (n : ℕ) : c ∉ Nat.toDigits 10 n := by
    intro hmem
    exact absurd (Nat.isDigit_of_mem_toDigits (by decide) (by decide) hmem) (Bool.not_eq_true _ ▸ hc)
  rw [htext, htext] at h
  obtain ⟨hnumber, rfl⟩ := eq_of_append_cons (hdigits m) (hdigits n) h
  refine ⟨?_, rfl⟩
  rw [← Nat.ofDigitChars_ten_toDigits (n := m), hnumber, Nat.ofDigitChars_ten_toDigits]

/-! ## Quoted text -/

namespace Text

/-- Digits are no blanks. -/
theorem blank_not_mem_hexDigits (width n : ℕ) : ' ' ∉ hexDigits width n := by
  have hdigit : ∀ digit : Fin 16, Nat.digitChar digit ≠ ' ' := by decide
  rw [hexDigits, List.mem_reverse, List.mem_map]
  rintro ⟨i, -, hi⟩
  exact hdigit ⟨_, Nat.mod_lt _ (by decide)⟩ hi

/-- A character that is no blank is escaped without one. -/
theorem blank_not_mem_escapeChar {shown : Char → Bool} {quote c : Char} (hc : c ≠ ' ') :
    ' ' ∉ escapeChar shown quote c := by
  have hhex := blank_not_mem_hexDigits
  unfold escapeChar escapeCode
  split_ifs <;> simp [hhex, hc.symm]

theorem quoteFor_ne_blank (s : List Char) : quoteFor s ≠ ' ' := by
  unfold quoteFor
  split <;> decide

/-- Quotes and escapes bring in no blank. -/
theorem blank_not_mem_quoted {s : String} (hs : ' ' ∉ s.toList) : ' ' ∉ (quoted s).toList := by
  have hquote := quoteFor_ne_blank s.toList
  rw [quoted, quotedWith, String.toList_ofList, List.mem_append, List.mem_cons, List.mem_flatMap,
    List.mem_singleton]
  rintro ((h | ⟨c, hc, h⟩) | h)
  · exact hquote h.symm
  · exact blank_not_mem_escapeChar (fun hblank => hs (hblank ▸ hc)) h
  · exact hquote h.symm

end Text

/-! ## Kinds of tokens -/

namespace Token.Kind

/-- All kinds of token. -/
def all : List Kind :=
  [illegal, eof, ident, number, plus, minus, asterisk, slash, bang, less, greater, equal, notEqual, hash,
    semicolon, leftParen, rightParen, trueWord, falseWord]

/-- The list of all kinds of tokens is complete. -/
theorem mem_all (kind : Kind) : kind ∈ all := by cases kind <;> decide

/-- Kinds of tokens differ in their names. -/
theorem name_injective : Function.Injective name := by
  have hall : ∀ k ∈ all, ∀ l ∈ all, k.name = l.name → k = l := by decide +kernel
  exact fun k l => hall k (mem_all k) l (mem_all l)

/-- A name of a kind ends at the parenthesis behind it. -/
theorem not_mem_name (kind : Kind) : ' ' ∉ kind.name.toList ∧ '(' ∉ kind.name.toList := by
  cases kind <;> decide

/-- The end of the text is not told like a token of another kind. -/
theorem name_eof_append_ne {kind : Kind} (hkind : kind ≠ eof) (s t : List Char) :
    "EOF".toList ++ s ≠ kind.name.toList ++ '(' :: t := by
  intro h
  cases kind with
  | eof => exact hkind rfl
  | _ => simp [name] at h

end Token.Kind

/-! ## Faults in front of others -/

namespace Fault
variable {f g : Fault} {limit : ℤ} {s s' : List Char}

/-- A lexeme in front of a closing parenthesis. -/
theorem lexeme_append_inj {t u : Token} (ht : t.Written) (hu : u.Written) (hteof : t.kind ≠ .eof)
    (hueof : u.kind ≠ .eof) (h : t.text.toList ++ ')' :: s = u.text.toList ++ ')' :: s') :
    t.text = u.text ∧ s = s' := by
  -- the parenthesis makes no lexeme longer
  have hbreaks (s : List Char) : Breaks (')' :: s) := breaks_cons rfl (by decide) (by decide) s
  have hfound {t : Token} (ht : t.Written) (hteof : t.kind ≠ .eof) (s : List Char) :
      lexeme? (t.text.toList ++ ')' :: s) = some (t.kind, t.text.toList.length) := by
    cases ht with
    | endOfText => exact absurd rfl hteof
    | lexeme hlexeme _ =>
      have hne : t.text.toList ≠ [] := by
        intro hnil
        rw [hnil] at hlexeme
        cases hlexeme
      rw [lexeme?_append (hbreaks s) hne, hlexeme]
  have hsame := hfound ht hteof s
  rw [h, hfound hu hueof] at hsame
  obtain ⟨-, hlength⟩ := Prod.mk.inj (Option.some.inj hsame)
  obtain ⟨htext, hrest⟩ := List.append_inj h hlength.symm
  exact ⟨String.toList_inj.mp htext, (List.cons.inj hrest).2⟩

/-- What was found: the kind and, in parentheses, the text of the token. -/
theorem toList_foundText {t : Token} (ht : t.kind ≠ .eof) (s : List Char) :
    (foundText t).toList ++ s = t.kind.name.toList ++ '(' :: (t.text.toList ++ ')' :: s) := by
  rw [foundText, if_neg ht]
  simp

/-- A token is told from what was found. -/
theorem foundText_append_inj {t u : Token} (ht : t.Written) (hu : u.Written)
    (h : (foundText t).toList ++ s = (foundText u).toList ++ s') :
    t.kind = u.kind ∧ t.text = u.text ∧ s = s' := by
  by_cases hteof : t.kind = .eof <;> by_cases hueof : u.kind = .eof
  · rw [foundText, if_pos hteof, foundText, if_pos hueof] at h
    exact ⟨hteof.trans hueof.symm, (ht.text_of_eof hteof).trans (hu.text_of_eof hueof).symm,
      List.append_cancel_left h⟩
  · rw [foundText, if_pos hteof, toList_foundText hueof] at h
    exact absurd h (Token.Kind.name_eof_append_ne hueof _ _)
  · rw [foundText.eq_1 u, if_pos hueof, toList_foundText hteof] at h
    exact absurd h.symm (Token.Kind.name_eof_append_ne hteof _ _)
  · rw [toList_foundText hteof, toList_foundText hueof] at h
    obtain ⟨hname, h⟩ := eq_of_append_cons (Token.Kind.not_mem_name _).2 (Token.Kind.not_mem_name _).2 h
    obtain ⟨htext, h⟩ := lexeme_append_inj ht hu hteof hueof h
    exact ⟨Token.Kind.name_injective (String.toList_inj.mp hname), htext, h⟩

/-- The words with which a message starts. -/
def Cause.lead : Cause → String
  | tooDeep _ => "expression nested too deeply (limit "
  | missing _ => "expected "
  | illegalCharacter _ => "illegal character "
  | noExpression _ => "no prefix parse rule for "

/-- What a message is about. -/
def Cause.subject : Cause → String
  | tooDeep limit => toString limit ++ ")"
  | missing kind => kind.name
  | illegalCharacter text => Text.quoted text
  | noExpression kind => kind.name

/-- A message leads in the same way for all causes of one sort, and then says what it is about. -/
theorem Cause.message_eq (c : Cause) : c.message = c.lead ++ c.subject := by
  cases c with
  | tooDeep limit => exact String.append_assoc
  | missing | illegalCharacter | noExpression => rfl

/-- The lead of a message is told, whatever stands behind it. -/
theorem Cause.lead_append_inj {c d : Cause} (h : c.lead.toList ++ s = d.lead.toList ++ s') :
    c.lead = d.lead ∧ s = s' := by
  cases c with
  | tooDeep limit =>
    cases d with
    | tooDeep limit' => exact ⟨rfl, List.append_cancel_left h⟩
    | missing | illegalCharacter | noExpression => simp [lead] at h
  | missing kind =>
    cases d with
    | missing kind' => exact ⟨rfl, List.append_cancel_left h⟩
    | tooDeep | illegalCharacter | noExpression => simp [lead] at h
  | illegalCharacter text =>
    cases d with
    | illegalCharacter text' => exact ⟨rfl, List.append_cancel_left h⟩
    | tooDeep | missing | noExpression => simp [lead] at h
  | noExpression kind =>
    cases d with
    | noExpression kind' => exact ⟨rfl, List.append_cancel_left h⟩
    | tooDeep | missing | illegalCharacter => simp [lead] at h

/-- Whether two complaints are the same is known once their tokens are. -/
theorem message_append_inj (hf : f.Arises limit) (hg : g.Arises limit) (hft : f.token.Written)
    (hgt : g.token.Written)
    (h : f.cause.message.toList ++ ' ' :: s = g.cause.message.toList ++ ' ' :: s') :
    f.cause.expected = g.cause.expected ∧ (f.token = g.token → f = g) ∧ s = s' := by
  rw [Cause.message_eq, Cause.message_eq, String.toList_append, String.toList_append, List.append_assoc,
    List.append_assoc] at h
  obtain ⟨hlead, h⟩ := Cause.lead_append_inj h
  cases hf with
  | tooDeep t =>
    cases hg with
    | tooDeep u =>
      exact ⟨rfl, congrArg _, (List.cons.inj (List.append_cancel_left h)).2⟩
    | missing | illegalCharacter | noExpression => simp [Cause.lead] at hlead
  | missing t =>
    cases hg with
    | missing u =>
      exact ⟨rfl, congrArg _, (List.cons.inj (List.append_cancel_left h)).2⟩
    | tooDeep | illegalCharacter | noExpression => simp [Cause.lead] at hlead
  | illegalCharacter t ht =>
    cases hg with
    | illegalCharacter u hu =>
      have hblank := Text.blank_not_mem_quoted (hft.blank_not_mem ht)
      have hblank' := Text.blank_not_mem_quoted (hgt.blank_not_mem hu)
      refine ⟨rfl, ?_, (eq_of_append_cons hblank hblank' h).2⟩
      rintro (rfl : t = u)
      rfl
    | tooDeep | missing | noExpression => simp [Cause.lead] at hlead
  | noExpression t =>
    cases hg with
    | noExpression u =>
      refine ⟨rfl, ?_, (eq_of_append_cons (Token.Kind.not_mem_name _).1 (Token.Kind.not_mem_name _).1 h).2⟩
      rintro (rfl : t = u)
      rfl
    | tooDeep | missing | illegalCharacter => simp [Cause.lead] at hlead

/-- What a message says could have stood there. -/
def Cause.expectedText (c : Cause) : String :=
  if (c.expected.map Token.Kind.name).isEmpty then ""
  else "; expected " ++ ", ".intercalate (c.expected.map Token.Kind.name)

/-- The parts of the text of a fault, with something behind it. -/
theorem toList_text_append (f : Fault) (s : List Char) :
    f.text.toList ++ s = f.cause.message.toList ++ ' ' :: ("at span [".toList ++
      ((toString (f.token.pos : ℤ)).toList ++ ',' :: ' ' ::
        ((toString (f.token.stop : ℤ)).toList ++ ')' :: (f.cause.expectedText.toList ++
          ("; found ".toList ++ ((foundText f.token).toList ++ s)))))) := by
  have hspan : " at span [".toList = ' ' :: "at span [".toList := rfl
  have hcomma : ", ".toList = [',', ' '] := rfl
  have hclose : ")".toList = [')'] := rfl
  show (f.cause.message ++ " at span [" ++ toString (f.token.pos : ℤ) ++ ", " ++
    toString (f.token.stop : ℤ) ++ ")" ++ f.cause.expectedText ++
      ("; found " ++ foundText f.token)).toList ++ s = _
  simp only [String.toList_append, List.append_assoc, hspan, hcomma, hclose, List.cons_append,
    List.nil_append]

/-- A fault is told from its text, whatever stands behind it. -/
theorem text_append_inj (hf : f.Arises limit) (hg : g.Arises limit) (hft : f.token.Written)
    (hgt : g.token.Written) (h : f.text.toList ++ s = g.text.toList ++ s') : f = g ∧ s = s' := by
  rw [toList_text_append, toList_text_append] at h
  obtain ⟨hexpected, hfault, h⟩ := message_append_inj hf hg hft hgt h
  obtain ⟨hpos, h⟩ := natText_append_inj rfl (List.append_cancel_left h)
  obtain ⟨hstop, h⟩ := natText_append_inj rfl (List.cons.inj h).2
  rw [Cause.expectedText, Cause.expectedText, hexpected] at h
  have hfound := List.append_cancel_left (List.append_cancel_left h)
  obtain ⟨hkind, htext, hrest⟩ := foundText_append_inj hft hgt hfound
  have htoken := Token.eq_of_fields hkind htext hpos hstop
  exact ⟨hfault htoken, hrest⟩

/-! ## Lists of faults -/

/-- What stands behind the first fault of a line. -/
def furtherText : List Fault → List Char
  | [] => []
  | f :: fs => ';' :: ' ' :: (textOfList (f :: fs)).toList

/-- The texts of several faults stand one behind the other. -/
theorem toList_textOfList_cons (f : Fault) (fs : List Fault) :
    (textOfList (f :: fs)).toList = f.text.toList ++ furtherText fs := by
  cases fs with
  | nil => exact (List.append_nil _).symm
  | cons g fs =>
    have hsemicolon : "; ".toList = [';', ' '] := rfl
    rw [textOfList, List.map_cons, List.map_cons, String.intercalate_cons_cons, String.toList_append,
      String.toList_append, hsemicolon, List.append_assoc]
    rfl

theorem toList_text_ne_nil (f : Fault) : f.text.toList ≠ [] := by
  have h := toList_text_append f []
  rw [List.append_nil] at h
  rw [h]
  exact List.append_ne_nil_of_right_ne_nil _ (List.cons_ne_nil _ _)

/-- From the texts behind the first one all further faults can be told. -/
theorem furtherText_inj {fs gs : List Fault} (hfs : ∀ f ∈ fs, f.Arises limit ∧ f.token.Written)
    (hgs : ∀ g ∈ gs, g.Arises limit ∧ g.token.Written) (h : furtherText fs = furtherText gs) :
    fs = gs := by
  induction fs generalizing gs with
  | nil =>
    cases gs with
    | nil => rfl
    | cons g gs => cases h
  | cons f fs ih =>
    cases gs with
    | nil => cases h
    | cons g gs =>
      obtain ⟨⟨hf, hft⟩, hfs'⟩ := List.forall_mem_cons.mp hfs
      obtain ⟨⟨hg, hgt⟩, hgs'⟩ := List.forall_mem_cons.mp hgs
      obtain ⟨-, hline⟩ := List.cons.inj (List.cons.inj h).2
      rw [toList_textOfList_cons, toList_textOfList_cons] at hline
      obtain ⟨rfl, hfurther⟩ := text_append_inj hf hg hft hgt hline
      rw [ih hfs' hgs' hfurther]

/-- Different faults make different lines. -/
theorem textOfList_inj {fs gs : List Fault} (hfs : ∀ f ∈ fs, f.Arises limit ∧ f.token.Written)
    (hgs : ∀ g ∈ gs, g.Arises limit ∧ g.token.Written) (h : textOfList fs = textOfList gs) :
    fs = gs := by
  cases fs with
  | nil =>
    cases gs with
    | nil => rfl
    | cons g gs =>
      have hline := congrArg String.toList h
      rw [toList_textOfList_cons] at hline
      exact absurd hline.symm (List.append_ne_nil_of_left_ne_nil (toList_text_ne_nil g) _)
  | cons f fs =>
    cases gs with
    | nil =>
      have hline := congrArg String.toList h
      rw [toList_textOfList_cons] at hline
      exact absurd hline (List.append_ne_nil_of_left_ne_nil (toList_text_ne_nil f) _)
    | cons g gs =>
      refine furtherText_inj hfs hgs ?_
      rw [furtherText, furtherText, h]

/-- The faults of texts are told from the lines that they make. -/
theorem faults_eq_of_textOfList {source source' : String}
    (h : textOfList (parse source).faults = textOfList (parse source').faults) :
    (parse source).faults = (parse source').faults := by
  have hfaults (source : String) :
      ∀ f ∈ (parse source).faults, f.Arises defaultLimit ∧ f.token.Written := by
    intro f hf
    have htokens := Parser.sublist_tokens_faults ⟨defaultLimit, (Cursor.start source).endToken⟩
      (Cursor.start source).lexemes
    have hmem := htokens.subset (List.mem_map_of_mem hf)
    exact ⟨arises_of_mem_faults source f hf, written_of_mem_tokens source _ hmem⟩
  exact textOfList_inj (hfaults source) (hfaults source') h

end Fault

end RasterAlgebra
