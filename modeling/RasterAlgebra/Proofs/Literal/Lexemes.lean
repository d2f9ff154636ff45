import RasterAlgebra.Literal.Lexeme
import RasterAlgebra.Proofs.Number.Positional

/-!
# Texts that are cut into lexemes

How the text of a literal is cut, said without fuel: `Cuts` puts one lexeme in front of the other, with blanks
in between and the end of the line behind the last one. Whatever is so put together is cut back into its
lexemes (`lexemes?_of_cuts`).

* `spells_mark`, `spells_quotation`: marks and quotations are lexemes whatever stands behind them.
* `spells_truth`, `spells_whole`: words and numbers are, where nothing behind them goes on (`Ends`).
-/

namespace RasterAlgebra.Literal

variable {s rest : List Char} {l : Lexeme} {ls : List Lexeme} {depth depth' fuel : ℕ}

/-- No number and no word goes on in the text. -/
def Ends (rest : List Char) : Prop := ∀ c ∈ rest.head?, isWordChar c = false ∧ c ≠ '.'

/-- The text is the lexeme if `rest` stands behind it. -/
structure Spells (s : List Char) (l : Lexeme) (rest : List Char) : Prop where
  /-- A lexeme does not start like a blank, a comment or a new line. -/
  head : ∃ c s', s = c :: s' ∧ isBlank c = false ∧ c ∉ ['#', '\n', '\\']
  read : readLexeme? (s ++ rest) = some (l, rest)

/-- The text, in front of which `depth` brackets are open, consists of lexemes with blanks between them and the
end of the line behind them. -/
inductive Cuts : (depth : ℕ) → List Char → List Lexeme → Prop where
  | lineEnd : Cuts 0 ['\n'] [.lineEnd]
  | blank {depth : ℕ} {s : List Char} {ls : List Lexeme} (h : Cuts depth s ls) : Cuts depth (' ' :: s) ls
  | lexeme {depth depth' : ℕ} {s rest : List Char} {l : Lexeme} {ls : List Lexeme} (hl : Spells s l rest)
      (hdepth : depthBehind? depth l = some depth') (h : Cuts depth' rest ls) :
      Cuts depth (s ++ rest) (l :: ls)

/-! ## Cutting -/

/-- Only a hash begins a comment. -/
theorem skipComment_cons {c : Char} (hc : c ≠ '#') (s : List Char) : skipComment (c :: s) = c :: s :=
  if_neg fun h => hc (Option.some.inj h)

/-- A blank in front of a lexeme is skipped. -/
theorem lexemesWithin?_blank (fuel depth : ℕ) (s : List Char) :
    lexemesWithin? (fuel + 1) depth false (' ' :: s) = lexemesWithin? (fuel + 1) depth false s := by
  rw [lexemesWithin?, lexemesWithin?]
  rfl

/-- A lexeme that is spelled out is cut off, and cutting goes on behind it. -/
theorem lexemesWithin?_lexeme (hl : Spells s l rest) (hdepth : depthBehind? depth l = some depth')
    (fuel : ℕ) :
    lexemesWithin? (fuel + 1) depth false (s ++ rest) =
      (lexemesWithin? fuel depth' false rest).map (l :: ·) := by
  obtain ⟨c, s', rfl, hblank, hc⟩ := hl.head
  have hread := hl.read
  simp only [List.mem_cons, List.not_mem_nil, or_false, not_or] at hc
  obtain ⟨hcomment, hline, hjoin⟩ := hc
  rw [List.cons_append] at hread ⊢
  rw [lexemesWithin?]
  simp only [Bool.false_eq_true, ↓reduceIte, List.dropWhile_cons_of_neg (Bool.eq_false_iff.mp hblank),
    skipComment_cons hcomment]
  split
  · rename_i h
    cases h
  · rename_i h
    exact absurd (List.cons.inj h).1 hline
  · rename_i h
    exact absurd (List.cons.inj h).1 hjoin
  · rw [hread]
    simp only [hdepth, Option.bind_eq_bind, Option.bind_some]
    cases lexemesWithin? fuel depth' false rest <;> rfl

/-- Lexemes are not cut from nothing. -/
theorem Cuts.ne_nil (h : Cuts depth s ls) : s ≠ [] := by
  induction h with
  | lineEnd | blank => exact List.cons_ne_nil _ _
  | lexeme _ _ _ ih => exact List.append_ne_nil_of_right_ne_nil _ ih

/-- A lexeme has at least one character. -/
theorem Spells.ne_nil (h : Spells s l rest) : s ≠ [] := by
  obtain ⟨c, s', rfl, -⟩ := h.head
  exact List.cons_ne_nil _ _

/-- Every lexeme has a character, and the end of the line is looked at twice more. -/
theorem lexemesWithin?_of_cuts (h : Cuts depth s ls) (hfuel : s.length + 2 ≤ fuel) :
    lexemesWithin? fuel depth false s = some ls := by
  induction h generalizing fuel with
  | lineEnd =>
    obtain ⟨fuel, rfl⟩ : ∃ n, fuel = n + 3 := ⟨fuel - 3, by simp at hfuel; omega⟩
    rfl
  | @blank depth s ls h ih =>
    obtain ⟨fuel, rfl⟩ : ∃ n, fuel = n + 1 := ⟨fuel - 1, by omega⟩
    rw [lexemesWithin?_blank, ih (by simp at hfuel ⊢; omega)]
  | @lexeme depth depth' s rest l ls hl hdepth h ih =>
    obtain ⟨fuel, rfl⟩ : ∃ n, fuel = n + 1 := ⟨fuel - 1, by omega⟩
    have hpos := List.length_pos_iff.mpr hl.ne_nil
    rw [List.length_append] at hfuel
    rw [lexemesWithin?_lexeme hl hdepth, ih (by omega), Option.map_some]

/-- A line that does not begin with a blank is not indented. -/
theorem takeIndentation?_cons {c : Char} (hblank : isBlank c = false) (hjoin : c ≠ '\\') (s : List Char) :
    takeIndentation? 0 0 (c :: s) = some (0, c :: s) := by
  simp only [isBlank, Bool.or_eq_false_iff, beq_eq_false_iff_ne] at hblank
  unfold takeIndentation?
  split
  all_goals rename_i h
  · exact absurd (List.cons.inj h).1 hblank.1.1
  · exact absurd (List.cons.inj h).1 hblank.1.2
  · exact absurd (List.cons.inj h).1 hblank.2
  · exact absurd (List.cons.inj h).1 hjoin
  · exact absurd (List.cons.inj h).1 hjoin
  · rfl

/-- A text that starts with a lexeme in its first column. -/
theorem lexemes?_of_cuts (hl : Spells s l rest) (hdepth : depthBehind? 0 l = some depth)
    (h : Cuts depth rest ls) : lexemes? (s ++ rest) = some (l :: ls) := by
  have hfuel : (s ++ rest).length + 2 ≤ 2 * (s ++ rest).length := by
    have hspells := List.length_pos_iff.mpr hl.ne_nil
    have hrest := List.length_pos_iff.mpr h.ne_nil
    rw [List.length_append]
    omega
  have hlexemes := lexemesWithin?_of_cuts (.lexeme hl hdepth h) hfuel
  obtain ⟨c, s', rfl, hblank, hc⟩ := hl.head
  simp only [List.mem_cons, List.not_mem_nil, or_false, not_or] at hc
  obtain ⟨hcomment, hline, hjoin⟩ := hc
  rw [List.cons_append] at hlexemes ⊢
  rw [lexemes?, lexemesWithin?]
  simp only [↓reduceIte, takeIndentation?_cons hblank hjoin, skipComment_cons hcomment, Option.bind_eq_bind,
    Option.bind_some]
  split
  · rename_i h
    exact absurd (List.cons.inj h).1 hline
  · rw [if_neg (Nat.lt_irrefl _), if_neg (not_not_intro rfl)]
    exact hlexemes

/-! ## Marks and words -/

/-- The marks between the values of a literal. -/
def marks : List Char := ['\x7b', '\x7d', '(', ')', ',', ':']

/-- A mark is its own spelling. -/
theorem spells_mark {c : Char} (hc : c ∈ marks) (rest : List Char) : Spells [c] (.mark c) rest := by
  simp only [marks, List.mem_cons, List.not_mem_nil, or_false] at hc
  rcases hc with rfl | rfl | rfl | rfl | rfl | rfl
  all_goals exact ⟨⟨_, [], rfl, by decide, by decide⟩, rfl⟩

/-- A word ends where something follows that ends it. -/
theorem takeWhile_isWordChar_append {w : List Char} (hw : ∀ c ∈ w, isWordChar c) (hends : Ends rest) :
    (w ++ rest).takeWhile isWordChar = w ∧ (w ++ rest).dropWhile isWordChar = rest := by
  rw [List.takeWhile_append_of_pos hw, List.dropWhile_append_of_pos hw]
  cases rest with
  | nil => exact ⟨List.append_nil w, rfl⟩
  | cons c rest =>
    have hc := (hends c rfl).1
    rw [List.takeWhile_cons_of_neg (by rw [hc]; decide), List.dropWhile_cons_of_neg (by rw [hc]; decide)]
    exact ⟨List.append_nil w, rfl⟩

/-- The words for truth values. -/
theorem spells_truth (b : Bool) (hends : Ends rest) :
    Spells (if b then "True" else "False").toList (.word (if b then "True" else "False")) rest := by
  have hread (word : String) (hchars : ∀ c ∈ word.toList, isWordChar c)
      (hword : readLexeme? (word.toList ++ rest) =
        some (.word (String.ofList ((word.toList ++ rest).takeWhile isWordChar)),
          (word.toList ++ rest).dropWhile isWordChar)) :
      readLexeme? (word.toList ++ rest) = some (.word word, rest) := by
    obtain ⟨htake, hdrop⟩ := takeWhile_isWordChar_append hchars hends
    rw [hword, htake, hdrop, String.ofList_toList]
  cases b with
  | true => exact ⟨⟨'T', _, rfl, by decide, by decide⟩, hread "True" (List.all_eq_true.mp rfl) rfl⟩
  | false => exact ⟨⟨'F', _, rfl, by decide, by decide⟩, hread "False" (List.all_eq_true.mp rfl) rfl⟩

/-! ## Quotations -/

/-- A character that stands for itself between single quotes. -/
def isPlain (c : Char) : Bool := c != '\'' && c != '\\' && c != '\n'

/-- The plain characters are those that stand for themselves between single quotes. -/
theorem isPlain_iff {c : Char} : isPlain c ↔ c ≠ '\'' ∧ c ≠ '\\' ∧ c ≠ '\n' := by
  simp only [isPlain, Bool.and_eq_true, bne_iff_ne, and_assoc]

/-- A quotation of plain characters reaches to the next quote. -/
theorem takeLine?_plain {content : List Char} (h : ∀ c ∈ content, isPlain c) (rest : List Char) :
    takeLine? '\'' (content ++ '\'' :: rest) = some (content, rest) := by
  induction content with
  | nil => rfl
  | cons c content ih =>
    obtain ⟨hc, hcontent⟩ := List.forall_mem_cons.mp h
    obtain ⟨hquote, hescape, hline⟩ := isPlain_iff.mp hc
    rw [List.cons_append]
    unfold takeLine?
    split
    · rename_i h
      cases h
    · rename_i h
      exact absurd (List.cons.inj h).1 hescape
    · rename_i h
      obtain ⟨rfl, rfl⟩ := List.cons.inj h
      rw [if_neg hquote, if_neg hline, ih hcontent, Option.map_some]

/-- Plain characters stand for themselves. -/
theorem unescape?_plain {content : List Char} (h : ∀ c ∈ content, isPlain c) (bytes : Bool) :
    unescape? bytes content = some (content.map Char.toNat) := by
  induction content with
  | nil => rw [unescape?, List.map_nil]
  | cons c content ih =>
    obtain ⟨hc, hcontent⟩ := List.forall_mem_cons.mp h
    obtain ⟨-, hescape, -⟩ := isPlain_iff.mp hc
    rw [unescape?, ih hcontent, Option.map_some, List.map_cons]
    exact hescape

/-- So a quotation of them is taken as it is. -/
theorem takeQuoted?_plain {content : List Char} (h : ∀ c ∈ content, isPlain c) (hne : content ≠ [])
    (rest : List Char) : takeQuoted? '\'' (content ++ '\'' :: rest) = some (content, rest) := by
  have hline := takeLine?_plain h rest
  cases content with
  | nil => exact absurd rfl hne
  | cons a content =>
    have ha := (isPlain_iff.mp (List.forall_mem_cons.mp h).1).1
    -- three quotes would be the start of a longer quotation, but `a` is none
    cases content with
    | nil => exact (if_neg fun h => ha h.1).trans hline
    | cons b content => exact (if_neg fun h => ha h.1).trans hline

/-- A text between single quotes in which every character stands for itself. -/
theorem spells_quotation {content : List Char} (h : ∀ c ∈ content, isPlain c) (hne : content ≠ [])
    (rest : List Char) :
    Spells ('\'' :: content ++ ['\'']) (.quotation (.text (content.map Char.toNat))) rest := by
  refine ⟨⟨'\'', _, rfl, by decide, by decide⟩, ?_⟩
  have hquotation : readQuotation? ('\'' :: (content ++ '\'' :: rest)) =
      some (some (.text (content.map Char.toNat), rest)) := by
    show some ((takeQuoted? '\'' (content ++ '\'' :: rest)).bind fun r =>
      (Quotation.ofContent? ⟨false, false, false⟩ r.1).bind fun q => some (q, r.2)) = _
    rw [takeQuoted?_plain h hne]
    show some (((unescape? false content).bind _).bind _) = _
    rw [unescape?_plain h]
    rfl
  rw [List.append_assoc, List.cons_append, List.singleton_append, readLexeme?, hquotation]
  rfl

/-! ## Whole numbers -/

/-- The digits of the decimal system. -/
theorem isDigit_ten (c : Char) : Text.isDigit 10 c = c.isDigit := by
  have hle (a b : Char) : a ≤ b ↔ a.toNat ≤ b.toNat := Iff.rfl
  rw [Bool.eq_iff_iff, Char.isDigit_iff_toNat, Text.isDigit, Text.digit?, Text.hexDigit?]
  simp only [hle, Bool.and_eq_true, decide_eq_true_eq, Char.reduceToNat]
  split_ifs with hdigit hlower hupper
  · have hvalue : c.toNat - 48 < 10 := by omega
    simp [Option.filter, hvalue, hdigit]
  · have hvalue : ¬ c.toNat - 97 + 10 < 10 := by omega
    simp [Option.filter, hvalue]
    omega
  · simp [Option.filter]
    omega
  · simp [hdigit]

theorem Ends.ne {c d : Char} (h : Ends (c :: rest)) (hd : isWordChar d) : c ≠ d := by
  rintro rfl
  rw [(h c rfl).1] at hd
  cases hd

/-- Behind the end of a word no digit follows. -/
theorem Ends.isDigit_eq {c : Char} (h : Ends (c :: rest)) : c.isDigit = false := by
  have hc := (h c rfl).1
  simp only [isWordChar, Char.isAlphanum, Bool.or_eq_false_iff] at hc
  exact hc.1.1.2

/-- Digits are taken up to the end of the word. -/
theorem takeDigits?_append {digits : List Char} (hdigits : ∀ c ∈ digits, c.isDigit) (hends : Ends rest) :
    takeDigits? 10 (digits ++ rest) = some (digits, rest) := by
  induction digits with
  | nil =>
    cases rest with
    | nil => rfl
    | cons c rest =>
      have hunderscore : (c != '_') = true := bne_iff_ne.mpr (hends.ne (by decide))
      rw [List.nil_append, takeDigits?, isDigit_ten, hends.isDigit_eq, hunderscore]
      rfl
  | cons c digits ih =>
    obtain ⟨hc, hdigits⟩ := List.forall_mem_cons.mp hdigits
    rw [List.cons_append, takeDigits?, isDigit_ten, if_pos hc, ih hdigits, Option.map_some]

/-- Behind the end of a number there is no power of ten. -/
theorem takePower?_of_ends (hends : Ends rest) : takePower? rest = some (none, rest) := by
  cases rest with
  | nil => rfl
  | cons c rest =>
    have hlower : (c == 'e') = false := beq_eq_false_iff_ne.mpr (hends.ne (by decide))
    have hupper : (c == 'E') = false := beq_eq_false_iff_ne.mpr (hends.ne (by decide))
    rw [takePower?, hlower, hupper]
    rfl

/-- Digits without a point, a power or a letter behind them. -/
theorem readDecimal?_digits {digits : List Char} (hdigits : ∀ c ∈ digits, c.isDigit) (hne : digits ≠ [])
    (hends : Ends rest) : readDecimal? (digits ++ rest) = (ofDigits? digits).map (·, rest) := by
  have htake : takeFraction? (digits ++ rest) = some (digits, rest) := by
    obtain ⟨c, tail, rfl⟩ := List.exists_cons_of_ne_nil hne
    have hc : Text.isDigit 10 c := isDigit_ten c ▸ hdigits c List.mem_cons_self
    exact (if_pos hc).trans (takeDigits?_append hdigits hends)
  rw [readDecimal?, htake]
  cases rest with
  | nil => exact Option.map_eq_bind.symm
  | cons c rest =>
    have hpoint : c ≠ '.' := (hends c rfl).2
    have hlower : c ≠ 'j' := hends.ne (by decide)
    have hupper : c ≠ 'J' := hends.ne (by decide)
    simp only [Option.bind_eq_bind, Option.bind_some]
    split
    · rename_i h
      exact absurd (List.cons.inj h).1 hpoint
    · simp only [Option.pure_def, Option.bind_some, takePower?_of_ends hends]
      split
      · rename_i h
        exact absurd (List.cons.inj h).1 hlower
      · rename_i h
        exact absurd (List.cons.inj h).1 hupper
      · exact Option.map_eq_bind.symm

/-- A positive number does not begin with a zero. -/
theorem head?_toDigits {n : ℕ} (hn : 0 < n) : (Nat.toDigits 10 n).head? ≠ some '0' := by
  induction n using Nat.strongRecOn with
  | ind n ih =>
    rcases Nat.lt_or_ge n 10 with hlt | hge
    · have hdigit : ∀ k < 10, 0 < k → k.digitChar ≠ '0' := by decide
      rw [Nat.toDigits_of_lt_base hlt, List.head?_cons]
      exact fun h => hdigit n hlt hn (Option.some.inj h)
    · rw [Nat.toDigits_of_base_le (by decide) hge, List.head?_append_of_ne_nil _ Nat.toDigits_ne_nil]
      exact ih (n / 10) (by omega) (by omega)

theorem not_mem_of_isDigit {c : Char} {cs : List Char} (hc : c.isDigit) (hcs : cs.any Char.isDigit = false) :
    c ∉ cs :=
  fun hmem => List.any_eq_false.mp hcs c hmem hc

/-- A quotation begins with a quote, or with a letter that may stand in front of one. -/
theorem readQuotation?_eq_none {c : Char} (hletter : c ∉ "bfruBFRU".toList) (hquote : c ∉ ['\'', '"'])
    (s : List Char) : readQuotation? (c :: s) = none := by
  have hneg : readQuotation?.isQuotationLetter c = false := by
    simpa only [readQuotation?.isQuotationLetter, List.contains_eq_mem, decide_eq_false_iff_not] using hletter
  simp only [List.mem_cons, List.not_mem_nil, or_false] at hquote
  rw [readQuotation?, List.dropWhile_cons_of_neg (by rw [hneg]; decide)]
  exact if_neg hquote

/-- Digits without a zero in front are read as a whole number. -/
theorem readNumber?_digits {digits : List Char} (hdigits : ∀ c ∈ digits, c.isDigit) (hne : digits ≠ [])
    (hzero : digits.head? ≠ some '0') (hends : Ends rest) :
    readNumber? (digits ++ rest) = (ofDigits? digits).map (·, rest) := by
  have hdecimal := readDecimal?_digits hdigits hne hends
  have hword : ¬ rest.head?.any isWordChar := by
    cases rest with
    | nil => exact Bool.false_ne_true
    | cons c rest => exact Bool.eq_false_iff.mp (hends c rfl).1
  rw [readNumber?, hdecimal]
  · cases ofDigits? digits with
    | none => rfl
    | some n => exact if_neg hword
  · -- a number in another base starts with a zero
    intro letter rest' htext
    obtain ⟨c, tail, rfl⟩ := List.exists_cons_of_ne_nil hne
    exact hzero (congrArg some (List.cons.inj htext).1)

/-- A positive number, written to base ten. -/
theorem spells_whole {n : ℕ} (hn : 0 < n) (hlength : (Nat.toDigits 10 n).length ≤ Decimal.maxIntDigits)
    (hends : Ends rest) : Spells (Nat.toDigits 10 n) (.number (.whole n)) rest := by
  have hdigits : ∀ c ∈ Nat.toDigits 10 n, c.isDigit :=
    fun c => Nat.isDigit_of_mem_toDigits (by decide) (by decide)
  have hzero := head?_toDigits hn
  have hnumber : readNumber? (Nat.toDigits 10 n ++ rest) = some (.whole n, rest) := by
    rw [readNumber?_digits hdigits Nat.toDigits_ne_nil hzero hends, ofDigits?, if_neg hzero,
      if_neg (Nat.not_lt.mpr hlength), natOfDigits_toDigits, Option.map_some]
  obtain ⟨c, tail, htext⟩ := List.exists_cons_of_ne_nil (Nat.toDigits_ne_nil (n := n) (b := 10))
  rw [htext] at hdigits hnumber ⊢
  have hc : c.isDigit := hdigits c List.mem_cons_self
  refine ⟨⟨c, tail, rfl, ?_, not_mem_of_isDigit hc rfl⟩, ?_⟩
  · have hblank : c ∉ [' ', '\t', '\x0c'] := not_mem_of_isDigit hc rfl
    simpa [isBlank, and_assoc] using hblank
  · have hquotation := readQuotation?_eq_none (not_mem_of_isDigit hc rfl)
      (not_mem_of_isDigit hc rfl) (tail ++ rest)
    rw [List.cons_append] at hnumber ⊢
    rw [readLexeme?, hquotation]
    exact (if_pos (.inl hc)).trans (by rw [hnumber, Option.map_some])

end RasterAlgebra.Literal
