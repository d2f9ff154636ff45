import RasterAlgebra.Proofs.Token.Scanning

/-!
# Tokens are longest lexemes

What the tokens of a text are, said without scanning it. The lexemes are given by their shape
(`Token.Lexeme`). At a place of a text stands the longest lexeme that the text goes on with, or, if it
goes on with none, a single illegal character (`Token.Munched`). The tokens of a text stand in order,
apart from each other, and whatever is not covered by them is blank (`Token.Cut`).

* `lexeme?_append_of_lexeme`: a lexeme is found in front of any text, unless a longer one is.
* `munched_iff`: what `lexeme?` finds is what stands there.
* `standsIn_iff`: so one token can stand at a place.
* `Cut.nil_iff`, `Cut.blank_iff`, `Cut.lexeme_iff`: which tokens there are from a place on, step by step;
  `cut_iff_eq_lexemes` follows the whole text.

`tokenize` yields the tokens of a text, and no other list is one (`isTokenization_iff`).
-/

namespace RasterAlgebra

/-! ## Shapes of lexemes -/

namespace Token

/-- The letters that words are made of, among them the underscore. -/
def IsLetter (c : Char) : Prop := ('A' ≤ c ∧ c ≤ 'Z') ∨ ('a' ≤ c ∧ c ≤ 'z') ∨ c = '_'

/-- The digits that numbers are made of. -/
def IsDigit (c : Char) : Prop := '0' ≤ c ∧ c ≤ '9'

/-- The characters that may stand between tokens. -/
def IsSpace (c : Char) : Prop := c ∈ [' ', '\t', '\r', '\n', '\x0c', '\x0b']

instance (c : Char) : Decidable (IsLetter c) := inferInstanceAs (Decidable (_ ∨ _))

instance (c : Char) : Decidable (IsDigit c) := inferInstanceAs (Decidable (_ ∧ _))

instance (c : Char) : Decidable (IsSpace c) := inferInstanceAs (Decidable (_ ∈ _))

/-- The lexemes of one character. -/
def symbols : List (Char × Kind) :=
  [('+', .plus), ('-', .minus), ('*', .asterisk), ('/', .slash), ('<', .less), ('>', .greater),
    ('#', .hash), (';', .semicolon), ('(', .leftParen), (')', .rightParen), ('!', .bang)]

/-- The lexemes of each kind. -/
inductive Lexeme : Kind → List Char → Prop where
  | trueWord : Lexeme .trueWord ['t', 'r', 'u', 'e']
  | falseWord : Lexeme .falseWord ['f', 'a', 'l', 's', 'e']
  | ident {c : Char} {cs : List Char} (hc : IsLetter c) (hcs : ∀ d ∈ cs, IsLetter d ∨ IsDigit d)
      (htrue : c :: cs ≠ ['t', 'r', 'u', 'e']) (hfalse : c :: cs ≠ ['f', 'a', 'l', 's', 'e']) :
      Lexeme .ident (c :: cs)
  | whole {c : Char} {cs : List Char} (hcs : ∀ d ∈ c :: cs, IsDigit d) : Lexeme .number (c :: cs)
  | fraction {c : Char} {cs fs : List Char} (hcs : ∀ d ∈ c :: cs, IsDigit d)
      (hfs : ∀ d ∈ fs, IsDigit d) : Lexeme .number (c :: cs ++ '.' :: fs)
  | equal : Lexeme .equal ['=', '=']
  | notEqual : Lexeme .notEqual ['!', '=']
  | symbol {c : Char} {kind : Kind} (h : (c, kind) ∈ symbols) : Lexeme kind [c]

/-- What stands at the front of a text: the longest lexeme with which it starts, or else one character
that is illegal. -/
inductive Munched (s : List Char) : Kind → List Char → Prop where
  | lexeme {kind : Kind} {word : List Char} (h : Lexeme kind word) (hfront : word <+: s)
      (hlongest : ∀ kind' word', Lexeme kind' word' → word' <+: s → word'.length ≤ word.length) :
      Munched s kind word
  | illegal {c : Char} (hfront : [c] <+: s) (hnone : ∀ kind word, Lexeme kind word → ¬ word <+: s) :
      Munched s .illegal [c]

/-! ## Tokens of a text -/

/-- A token of a text: it covers what its span says, and what it covers is what stands there. -/
structure StandsIn (text : List Char) (t : Token) : Prop where
  pos_lt : t.pos < t.stop
  stop_le : t.stop ≤ text.length
  text_eq : t.text.toList = (text.drop t.pos).take (t.stop - t.pos)
  starts : ∀ c, text[t.pos]? = some c → ¬ IsSpace c
  munched : Munched (text.drop t.pos) t.kind t.text.toList

/-- The tokens of a text from the place `i` on. -/
structure Cut (text : List Char) (i : ℕ) (ts : List Token) : Prop where
  stands : ∀ t ∈ ts, i ≤ t.pos ∧ t.StandsIn text
  ordered : ts.Pairwise fun t u => t.stop ≤ u.pos
  covered : ∀ j c, i ≤ j → text[j]? = some c → IsSpace c ∨ ∃ t ∈ ts, t.pos ≤ j ∧ j < t.stop

end Token

/-- The tokens of a text, and behind them the one that ends it. -/
def IsTokenization (source : String) (ts : List Token) : Prop :=
  ∃ us, ts = us ++ [.endOfText source.length] ∧ (∀ t ∈ us, t.kind ≠ .eof) ∧
    Token.Cut source.toList 0 us

open Token

/-! ## Character classes -/

theorem isLetter_iff {c : Char} : IsLetter c ↔ isWordStart c := isWordStart_iff_le.symm

theorem isDigit_iff {c : Char} : IsDigit c ↔ c.isDigit := isDigit_iff_le.symm

theorem isWordPart_iff {c : Char} : IsLetter c ∨ IsDigit c ↔ isWordPart c := by
  rw [isLetter_iff, isDigit_iff]
  simp [isWordPart, isWordStart, Char.isAlphanum]
  tauto

theorem isLetter_or_isDigit_of_all {cs : List Char} (h : cs.all isWordPart) :
    ∀ d ∈ cs, IsLetter d ∨ IsDigit d :=
  fun d hd => isWordPart_iff.mpr (List.all_eq_true.mp h d hd)

theorem isSpace_iff {c : Char} : IsSpace c ↔ isBlank c := by
  simp [IsSpace, isBlank, or_assoc]

/-- The symbols are the characters that are tokens by themselves. -/
theorem mem_symbols_iff {c : Char} {kind : Kind} :
    (c, kind) ∈ symbols ↔ Kind.ofSymbol? c = some kind := by
  unfold Kind.ofSymbol?
  split <;> simp_all [symbols, eq_comm]

/-! ## The lexeme at the front of a text -/

/-- Every word is a token of the language. -/
theorem Kind.ofWord_ne_illegal (word : List Char) : Kind.ofWord word ≠ .illegal := by
  unfold Kind.ofWord
  split
  · simp
  · split <;> simp

/-- A word goes on with every character that can go on a word. -/
theorem wordLength_append_of_all {word : List Char} (h : ∀ d ∈ word, isWordPart d) (t : List Char) :
    wordLength (word ++ t) = word.length + wordLength t := by
  rw [wordLength, List.takeWhile_append_of_pos h, List.length_append, wordLength]

/-- A lexeme of a kind and a length is at the front of a text, or a longer one. -/
def Finds (s : List Char) (kind : Kind) (length : ℕ) : Prop :=
  ∃ kind' n, lexeme? s = some (kind', n) ∧ kind' ≠ .illegal ∧ length ≤ n ∧
    (n = length → kind' = kind)

/-- A word is found, or a longer one that it starts. -/
theorem finds_word {c : Char} {cs : List Char} (hc : IsLetter c)
    (hcs : ∀ d ∈ cs, IsLetter d ∨ IsDigit d) (t : List Char) :
    Finds (c :: cs ++ t) (.ofWord (c :: cs)) (c :: cs).length := by
  have hparts : ∀ d ∈ cs, isWordPart d := fun d hd => isWordPart_iff.mp (hcs d hd)
  have hlength := wordLength_append_of_all hparts t
  refine ⟨_, _, lexeme?_of_isWordStart (isLetter_iff.mp hc) (cs ++ t), Kind.ofWord_ne_illegal _, ?_, ?_⟩
  · rw [hlength, List.length_cons]
    omega
  · intro hn
    rw [hn, ← List.cons_append, List.take_left]

/-- A number is found, or a longer one that it starts. -/
theorem finds_number {c : Char} {cs t : List Char} (hc : IsDigit c)
    (hlength : (c :: cs).length ≤ numberLength (c :: cs ++ t)) :
    Finds (c :: cs ++ t) .number (c :: cs).length :=
  ⟨_, _, lexeme?_of_isDigit (isDigit_iff.mp hc) (cs ++ t), by decide, hlength, fun _ => rfl⟩

/-- A number takes all digits that it begins with. -/
theorem length_le_numberLength {ds : List Char} (hds : ∀ d ∈ ds, IsDigit d) (t : List Char) :
    ds.length ≤ numberLength (ds ++ t) := by
  rw [numberLength, List.takeWhile_append_of_pos fun d hd => isDigit_iff.mp (hds d hd),
    List.length_append]
  omega

/-- A point behind the first digits belongs to a number, and so do the digits behind the point. -/
theorem numberLength_point {ds : List Char} (hds : ∀ d ∈ ds, IsDigit d) (s : List Char) :
    numberLength (ds ++ '.' :: s) = ds.length + (1 + (s.takeWhile Char.isDigit).length) := by
  have hdigits : ∀ d ∈ ds, d.isDigit := fun d hd => isDigit_iff.mp (hds d hd)
  have hpoint : ¬ '.'.isDigit := by decide
  rw [numberLength, List.takeWhile_append_of_pos hdigits, List.dropWhile_append_of_pos hdigits,
    List.takeWhile_cons_of_neg hpoint, List.dropWhile_cons_of_neg hpoint, List.append_nil]
  rfl

/-- A lexeme is found in front of any text, unless a longer one is. -/
theorem lexeme?_append_of_lexeme {kind : Kind} {word : List Char} (h : Lexeme kind word)
    (t : List Char) : Finds (word ++ t) kind word.length := by
  cases h with
  | trueWord => exact finds_word (by decide) (isLetter_or_isDigit_of_all rfl) t
  | falseWord => exact finds_word (by decide) (isLetter_or_isDigit_of_all rfl) t
  | ident hc hcs htrue hfalse =>
    have hword : Kind.ofWord (_ :: _) = .ident := (if_neg htrue).trans (if_neg hfalse)
    exact hword ▸ finds_word hc hcs t
  | @whole c cs hcs => exact finds_number (hcs c List.mem_cons_self) (length_le_numberLength hcs t)
  | @fraction c cs fs hcs hfs =>
    refine finds_number (hcs c List.mem_cons_self) ?_
    have hdigits : ∀ d ∈ fs, d.isDigit := fun d hd => isDigit_iff.mp (hfs d hd)
    show (c :: cs ++ '.' :: fs).length ≤ numberLength (c :: cs ++ '.' :: fs ++ t)
    rw [List.append_assoc, List.cons_append (a := '.'), numberLength_point hcs,
      List.takeWhile_append_of_pos hdigits, List.length_append, List.length_append,
      List.length_cons (a := '.')]
    omega
  | equal => exact ⟨.equal, 2, rfl, by decide, Nat.le_refl 2, fun _ => rfl⟩
  | notEqual => exact ⟨.notEqual, 2, rfl, by decide, Nat.le_refl 2, fun _ => rfl⟩
  | @symbol c kind h =>
    by_cases hlonger : c = '!' ∧ t.head? = some '='
    · obtain ⟨rfl, ht⟩ := hlonger
      obtain ⟨rest, rfl⟩ := List.head?_eq_some_iff.mp ht
      exact ⟨.notEqual, 2, rfl, by decide, by decide, fun h => by cases h⟩
    · have hkind : kind ≠ .illegal := by
        rintro rfl
        simp [symbols] at h
      exact ⟨kind, 1, lexeme?_of_ofSymbol? (mem_symbols_iff.mp h) hlonger, hkind, Nat.le_refl 1,
        fun _ => rfl⟩

/-- A number takes its digits, and a point with the digits behind it if there is one. -/
theorem lexeme_take_numberLength {c : Char} (hc : c.isDigit) (s : List Char) :
    Lexeme .number ((c :: s).take (numberLength (c :: s))) := by
  have htaken (s : List Char) : ∀ d ∈ s.takeWhile Char.isDigit, IsDigit d :=
    fun d hd => isDigit_iff.mpr (List.mem_takeWhile_imp hd)
  have hcs : ∀ d ∈ c :: s.takeWhile Char.isDigit, IsDigit d :=
    List.forall_mem_cons.mpr ⟨isDigit_iff.mpr hc, htaken s⟩
  have hsplit : c :: s = c :: s.takeWhile Char.isDigit ++ s.dropWhile Char.isDigit := by
    rw [List.cons_append, List.takeWhile_append_dropWhile]
  by_cases hpoint : ∃ fraction, s.dropWhile Char.isDigit = '.' :: fraction
  · obtain ⟨fraction, hrest⟩ := hpoint
    have hfront : c :: s = (c :: s.takeWhile Char.isDigit ++ '.' :: fraction.takeWhile Char.isDigit) ++
        fraction.dropWhile Char.isDigit := by
      rw [List.append_assoc, List.cons_append (a := '.'), List.takeWhile_append_dropWhile, ← hrest]
      exact hsplit
    have hlength : numberLength (c :: s) =
        (c :: s.takeWhile Char.isDigit ++ '.' :: fraction.takeWhile Char.isDigit).length := by
      rw [hsplit, hrest, numberLength_point hcs, List.length_append, List.length_cons (a := '.'),
        Nat.add_comm 1]
    rw [hlength, hfront, List.take_left]
    exact .fraction hcs (htaken fraction)
  · have hlength : numberLength (c :: s) = (c :: s.takeWhile Char.isDigit).length := by
      rw [numberLength, List.takeWhile_cons_of_pos hc, List.dropWhile_cons_of_pos hc]
      split
      · rename_i fraction hrest
        exact absurd ⟨fraction, hrest⟩ hpoint
      · rfl
    rw [hlength, hsplit, List.take_left]
    exact .whole hcs

/-- A word takes all letters and digits, and is reserved or an identifier. -/
theorem lexeme_take_wordLength {c : Char} (hc : isWordStart c) (s : List Char) :
    Lexeme (.ofWord ((c :: s).take (1 + wordLength s))) ((c :: s).take (1 + wordLength s)) := by
  have htake : (c :: s).take (1 + wordLength s) = c :: s.takeWhile isWordPart := by
    rw [Nat.add_comm, List.take_succ_cons, wordLength]
    exact congrArg (c :: ·) (List.prefix_iff_eq_take.mp (List.takeWhile_prefix _)).symm
  rw [htake, Kind.ofWord]
  split
  · rename_i htrue
    rw [htrue]
    exact .trueWord
  · rename_i htrue
    split
    · rename_i hfalse
      rw [hfalse]
      exact .falseWord
    · rename_i hfalse
      have hparts : ∀ d ∈ s.takeWhile isWordPart, IsLetter d ∨ IsDigit d :=
        fun d hd => isWordPart_iff.mpr (List.mem_takeWhile_imp hd)
      exact .ident (isLetter_iff.mpr hc) hparts htrue hfalse

/-- What is found has the shape of its kind. -/
theorem lexeme_of_lexeme? {s : List Char} {kind : Kind} {n : ℕ} (h : lexeme? s = some (kind, n))
    (hkind : kind ≠ .illegal) : Lexeme kind (s.take n) := by
  cases s with
  | nil => simp [lexeme?] at h
  | cons c s =>
    by_cases hword : isWordStart c
    · obtain ⟨rfl, rfl⟩ : _ = kind ∧ _ = n := by simpa [lexeme?_of_isWordStart hword] using h
      exact lexeme_take_wordLength hword s
    · by_cases hdigit : c.isDigit
      · obtain ⟨rfl, rfl⟩ : _ = kind ∧ _ = n := by simpa [lexeme?_of_isDigit hdigit] using h
        exact lexeme_take_numberLength hdigit s
      · rw [lexeme?_cons] at h
        split at h
        · rename_i hequal
          obtain ⟨rest, rfl⟩ := List.head?_eq_some_iff.mp hequal.2
          obtain ⟨rfl, rfl⟩ : _ = kind ∧ _ = n := by simpa using h
          exact hequal.1 ▸ .equal
        · split at h
          · rename_i hbang
            obtain ⟨rest, rfl⟩ := List.head?_eq_some_iff.mp hbang.2
            obtain ⟨rfl, rfl⟩ : _ = kind ∧ _ = n := by simpa using h
            exact hbang.1 ▸ .notEqual
          · split at h
            · rename_i kind' hsymbol
              obtain ⟨rfl, rfl⟩ : kind' = kind ∧ 1 = n := by simpa using h
              exact .symbol (mem_symbols_iff.mpr hsymbol)
            · obtain ⟨rfl, -⟩ : .illegal = kind ∧ 1 = n := by simpa [hword, hdigit] using h
              exact absurd rfl hkind

/-- A character that is no token is left out by itself. -/
theorem length_of_illegal {s : List Char} {n : ℕ} (h : lexeme? s = some (.illegal, n)) :
    n = 1 := by
  cases s with
  | nil => simp [lexeme?] at h
  | cons c s =>
    rw [lexeme?_cons] at h
    split at h
    · simp at h
    · split at h
      · simp at h
      · split at h
        · simp at h; omega
        · split at h
          · simp [Kind.ofWord_ne_illegal] at h
          · split at h <;> simp at h; omega

/-- What is found is what stands there. -/
theorem munched_iff {s word : List Char} {kind : Kind} :
    Munched s kind word ↔ ∃ n, lexeme? s = some (kind, n) ∧ word = s.take n := by
  constructor
  · intro h
    cases h with
    | lexeme h hfront hlongest =>
      obtain ⟨t, rfl⟩ := hfront
      obtain ⟨kind', n, hfound, hkind, hle, heq⟩ := lexeme?_append_of_lexeme h t
      have hlength : ((word ++ t).take n).length = n :=
        List.length_take_of_le (lexeme?_length_le hfound)
      have hge := hlongest kind' _ (lexeme_of_lexeme? hfound hkind) (List.take_prefix n _)
      have hn : n = word.length := Nat.le_antisymm (hlength ▸ hge) hle
      exact ⟨n, heq hn ▸ hfound, by rw [hn, List.take_left]⟩
    | @illegal c hfront hnone =>
      obtain ⟨t, rfl⟩ := hfront
      cases hfound : lexeme? ([c] ++ t) with
      | none => exact absurd (lexeme?_eq_none_iff.mp hfound) (List.cons_ne_nil c t)
      | some found =>
        obtain ⟨kind, n⟩ := found
        have hkind : kind = .illegal := by
          by_contra hkind
          exact hnone kind _ (lexeme_of_lexeme? hfound hkind) (List.take_prefix n _)
        obtain rfl := hkind
        obtain rfl := length_of_illegal hfound
        exact ⟨1, rfl, rfl⟩
  · rintro ⟨n, hfound, rfl⟩
    by_cases hkind : kind = .illegal
    · obtain rfl := hkind
      obtain rfl := length_of_illegal hfound
      cases s with
      | nil => simp [lexeme?] at hfound
      | cons c s =>
        refine .illegal (List.prefix_append [c] s) fun kind word hword hfront => ?_
        obtain ⟨t, ht⟩ := hfront
        obtain ⟨kind', n, hfound', hkind', -⟩ := lexeme?_append_of_lexeme hword t
        rw [ht, hfound] at hfound'
        cases hfound'
        exact hkind' rfl
    · refine .lexeme (lexeme_of_lexeme? hfound hkind) (List.take_prefix n s) ?_
      rintro kind' word' hword ⟨t, rfl⟩
      obtain ⟨kind'', n', hfound', -, hle, -⟩ := lexeme?_append_of_lexeme hword t
      rw [hfound] at hfound'
      cases hfound'
      rwa [List.length_take_of_le (lexeme?_length_le hfound)]

/-! ## The tokens of a text from a place on -/

section
variable {text : List Char} {i : ℕ} {c : Char} {s : List Char} {kind : Kind} {n : ℕ}

theorem getElem?_of_drop_eq_cons (h : text.drop i = c :: s) : text[i]? = some c := by
  rw [← List.head?_drop, h, List.head?_cons]

theorem drop_add_of_drop_eq (h : text.drop i = s) (n : ℕ) : text.drop (i + n) = s.drop n := by
  rw [← h, List.drop_drop]

/-- One token can stand at a place: the lexeme found there. -/
theorem standsIn_iff (h : text.drop i = c :: s) (hc : isBlank c = false)
    (hlexeme : lexeme? (c :: s) = some (kind, n)) {t : Token} :
    t.pos = i ∧ t.StandsIn text ↔ t = ⟨kind, String.ofList ((c :: s).take n), i, i + n⟩ := by
  have hle := lexeme?_length_le hlexeme
  have hlength : (c :: s).length = text.length - i := by rw [← h, List.length_drop]
  constructor
  · rintro ⟨rfl, hpos, hstop, htext, -, hmunched⟩
    rw [h] at htext hmunched
    obtain ⟨n', hfound, htake⟩ := munched_iff.mp hmunched
    obtain ⟨hkind, rfl⟩ : kind = t.kind ∧ n = n' := by simpa [hlexeme] using hfound
    -- the span is as long as what it covers
    have hspan := congrArg List.length (htake.symm.trans htext)
    rw [List.length_take_of_le hle, List.length_take_of_le (by omega)] at hspan
    have hword : t.text = String.ofList ((c :: s).take n) := by rw [← htake, String.ofList_toList]
    have hend : t.stop = t.pos + n := by omega
    rw [hkind, ← hword, ← hend]
  · rintro rfl
    have hpos := lexeme?_length_pos hlexeme
    rw [List.length_cons] at hle hlength
    refine ⟨rfl, ?_, ?_, ?_, ?_, ?_⟩
    · exact Nat.lt_add_of_pos_right hpos
    · show i + n ≤ text.length
      omega
    · rw [String.toList_ofList, h, Nat.add_sub_cancel_left]
    · intro d hd
      obtain rfl : c = d := Option.some.inj ((getElem?_of_drop_eq_cons h).symm.trans hd)
      rw [isSpace_iff, hc]
      exact Bool.false_ne_true
    · rw [String.toList_ofList, h]
      exact munched_iff.mpr ⟨n, hlexeme, rfl⟩

namespace Token.Cut
variable {ts : List Token}

theorem nil_iff (h : text.drop i = []) : Cut text i ts ↔ ts = [] := by
  have hle := List.drop_eq_nil_iff.mp h
  constructor
  · intro hcut
    refine List.eq_nil_iff_forall_not_mem.mpr fun t ht => ?_
    obtain ⟨hi, hstands⟩ := hcut.stands t ht
    have := hstands.pos_lt
    have := hstands.stop_le
    omega
  · rintro rfl
    refine ⟨by simp, List.Pairwise.nil, fun j d hj hd => ?_⟩
    have := (List.getElem?_eq_some_iff.mp hd).1
    omega

/-- No token starts with a blank. -/
theorem blank_iff (h : text.drop i = c :: s) (hc : isBlank c) : Cut text i ts ↔ Cut text (i + 1) ts := by
  have hget := getElem?_of_drop_eq_cons h
  have hspace := isSpace_iff.mpr hc
  constructor
  · rintro ⟨hstands, hordered, hcovered⟩
    refine ⟨fun t ht => ?_, hordered, fun j d hj hd => hcovered j d (by omega) hd⟩
    obtain ⟨hi, ht⟩ := hstands t ht
    refine ⟨Nat.lt_of_le_of_ne hi ?_, ht⟩
    rintro rfl
    exact ht.starts c hget hspace
  · rintro ⟨hstands, hordered, hcovered⟩
    refine ⟨fun t ht => ?_, hordered, fun j d hj hd => ?_⟩
    · obtain ⟨hi, ht⟩ := hstands t ht
      exact ⟨by omega, ht⟩
    · by_cases hij : j = i
      · obtain rfl := hij
        obtain rfl : c = d := Option.some.inj (hget.symm.trans hd)
        exact .inl hspace
      · exact hcovered j d (by omega) hd

/-- Where there is no blank, the lexeme found there is the first token. -/
theorem lexeme_iff (h : text.drop i = c :: s) (hc : isBlank c = false)
    (hlexeme : lexeme? (c :: s) = some (kind, n)) :
    Cut text i ts ↔ ∃ us, ts = ⟨kind, String.ofList ((c :: s).take n), i, i + n⟩ :: us ∧
      Cut text (i + n) us := by
  have hfirst {t : Token} := standsIn_iff h hc hlexeme (t := t)
  constructor
  · rintro ⟨hstands, hordered, hcovered⟩
    have hspace : ¬ IsSpace c := by rw [isSpace_iff, hc]; exact Bool.false_ne_true
    obtain ⟨t, ht, hpos, hstop⟩ :=
      (hcovered i c (Nat.le_refl i) (getElem?_of_drop_eq_cons h)).resolve_left hspace
    obtain ⟨hi, ht'⟩ := hstands t ht
    obtain rfl := hfirst.mp ⟨Nat.le_antisymm hpos hi, ht'⟩
    cases ts with
    | nil => cases ht
    | cons u us =>
      rw [List.pairwise_cons] at hordered
      -- the token that covers the place is the first one: the tokens behind the first start later
      have hu : _ = u := (List.mem_cons.mp ht).resolve_right fun hmem => by
        have hle : u.stop ≤ i := hordered.1 _ hmem
        obtain ⟨hi, hu⟩ := hstands u List.mem_cons_self
        have := hu.pos_lt
        omega
      subst hu
      refine ⟨us, rfl, fun t ht => ?_, hordered.2, fun j d hj hd => ?_⟩
      · exact ⟨hordered.1 t ht, (hstands t (List.mem_cons_of_mem _ ht)).2⟩
      · refine (hcovered j d (by omega) hd).imp_right ?_
        rintro ⟨t, ht, hle, hlt⟩
        rcases List.mem_cons.mp ht with rfl | ht
        · exact absurd hj (Nat.not_le_of_lt hlt)
        · exact ⟨t, ht, hle, hlt⟩
  · rintro ⟨us, rfl, hstands, hordered, hcovered⟩
    refine ⟨List.forall_mem_cons.mpr ⟨⟨Nat.le_refl i, (hfirst.mpr rfl).2⟩, fun t ht => ?_⟩,
      List.pairwise_cons.mpr ⟨fun t ht => (hstands t ht).1, hordered⟩, fun j d hj hd => ?_⟩
    · obtain ⟨hi, ht⟩ := hstands t ht
      exact ⟨by omega, ht⟩
    · by_cases hlt : j < i + n
      · exact .inr ⟨_, List.mem_cons_self, hj, hlt⟩
      · refine (hcovered j d (by omega) hd).imp_right ?_
        rintro ⟨t, ht, hspan⟩
        exact ⟨t, List.mem_cons_of_mem _ ht, hspan⟩

end Token.Cut

end

/-- From every place on, the tokens are those that scanning finds. -/
theorem cut_iff_eq_lexemes {text : List Char} (i : ℕ) (s : List Char) (h : text.drop i = s)
    (ts : List Token) : Cut text i ts ↔ ts = Cursor.lexemes ⟨i, s⟩ := by
  induction i, s using Cursor.scan_induction generalizing ts with
  | nil i => rw [Cut.nil_iff h, Cursor.lexemes_nil]
  | blank i c s hc ih =>
    rw [Cut.blank_iff h hc, Cursor.lexemes_blank i hc]
    exact ih (drop_add_of_drop_eq h 1) ts
  | lexeme i c s kind n hc hlexeme ih =>
    rw [Cut.lexeme_iff h hc hlexeme, Cursor.lexemes_cons i hc hlexeme]
    simp only [ih (drop_add_of_drop_eq h n), exists_eq_right]

/-- No token but the last ends the text. -/
theorem Cursor.kind_ne_eof_of_mem_lexemes (i : ℕ) (s : List Char) :
    ∀ t ∈ lexemes ⟨i, s⟩, t.kind ≠ .eof := by
  induction i, s using scan_induction with
  | nil i => simp [lexemes_nil]
  | blank i c s hc ih => rwa [lexemes_blank i hc]
  | lexeme i c s kind n hc hlexeme ih =>
    rw [lexemes_cons i hc hlexeme]
    exact List.forall_mem_cons.mpr ⟨kind_ne_eof_of_lexeme? hlexeme, ih⟩

/-- The tokens of a text are its lexemes, and the end. -/
theorem tokenize_eq (source : String) :
    tokenize source = Cursor.lexemes ⟨0, source.toList⟩ ++ [.endOfText source.length] := by
  have hend : (Cursor.start source).endToken = .endOfText source.length := by
    rw [Cursor.endToken, Cursor.start, Nat.zero_add, String.length_toList]
  rw [tokenize, Cursor.tokens, hend, Cursor.start]

/-- A text is cut into longest lexemes and illegal characters, blanks apart, and in no other way. -/
theorem isTokenization_iff (source : String) (ts : List Token) :
    IsTokenization source ts ↔ ts = tokenize source := by
  have hcut (us : List Token) : Cut source.toList 0 us ↔ us = Cursor.lexemes ⟨0, source.toList⟩ :=
    cut_iff_eq_lexemes 0 _ rfl us
  rw [tokenize_eq]
  constructor
  · rintro ⟨us, rfl, -, hus⟩
    rw [(hcut us).mp hus]
  · rintro rfl
    exact ⟨_, rfl, Cursor.kind_ne_eof_of_mem_lexemes 0 _, (hcut _).mpr rfl⟩

end RasterAlgebra
