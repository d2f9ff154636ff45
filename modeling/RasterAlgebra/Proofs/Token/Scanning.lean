import Mathlib.Data.List.TakeWhile
import Mathlib.Tactic.Common
import RasterAlgebra.Token.Lexer

/-!
# Tokens of texts that are put together

The tokens of a text do not depend on the text around it, up to the place where they stand:

* `lexemes_append`: a text keeps its tokens in front of every text that cannot make its last lexeme
  longer (`Breaks`);
* `lexemes_shift`: tokens that stand further on in a text are the same tokens, moved;
* `pos_lexemes`, `pairwise_pos_lexemes`: they stand in order, within the text.
-/

namespace RasterAlgebra

/-! ## Where lexemes end -/

/-- No lexeme in front of the text takes a character from it. -/
def Breaks (s : List Char) : Prop := ∀ c ∈ s.head?, isWordPart c = false ∧ c ≠ '.' ∧ c ≠ '='

/-- Neither a word nor a number nor a pair of symbols goes on with such a character. -/
theorem breaks_cons {c : Char} (hword : isWordPart c = false) (hpoint : c ≠ '.') (hequal : c ≠ '=')
    (s : List Char) : Breaks (c :: s) := by
  intro d hd
  rw [List.head?_cons, Option.mem_def] at hd
  obtain rfl := Option.some.inj hd
  exact ⟨hword, hpoint, hequal⟩

/-- The digits, as a range of characters. -/
theorem isDigit_iff_le {c : Char} : c.isDigit ↔ '0' ≤ c ∧ c ≤ '9' := by
  rw [show c.isDigit = (decide ('0' ≤ c) && decide (c ≤ '9')) from rfl, Bool.and_eq_true,
    decide_eq_true_iff, decide_eq_true_iff]

/-- The characters that begin a word, as ranges. -/
theorem isWordStart_iff_le {c : Char} :
    isWordStart c ↔ ('A' ≤ c ∧ c ≤ 'Z') ∨ ('a' ≤ c ∧ c ≤ 'z') ∨ c = '_' := by
  rw [show isWordStart c = (decide ('A' ≤ c ∧ c ≤ 'Z') ||
      (decide ('a' ≤ c) && decide (c ≤ 'z')) || c == '_') from rfl,
    Bool.or_eq_true, Bool.or_eq_true, Bool.and_eq_true, decide_eq_true_iff, decide_eq_true_iff,
    decide_eq_true_iff, beq_iff_eq, or_assoc]

theorem isWordPart_of_isDigit {c : Char} (h : c.isDigit) : isWordPart c := by
  simp [isWordPart, Char.isAlphanum, h]

section
variable {p : Char → Bool} {s : List Char}

/-- What is taken from the front does not reach into a text that begins otherwise. -/
theorem takeWhile_append_of_head (h : ∀ c ∈ s.head?, p c = false) (a : List Char) :
    (a ++ s).takeWhile p = a.takeWhile p := by
  induction a with
  | nil =>
    cases s with
    | nil => rfl
    | cons c s => simp [h c rfl]
  | cons c a ih =>
    simp only [List.cons_append, List.takeWhile_cons, ih]

/-- What is dropped from the front does not reach into a text that begins otherwise. -/
theorem dropWhile_append_of_head (h : ∀ c ∈ s.head?, p c = false) (a : List Char) :
    (a ++ s).dropWhile p = a.dropWhile p ++ s := by
  induction a with
  | nil =>
    cases s with
    | nil => rfl
    | cons c s => simp [h c rfl]
  | cons c a ih =>
    simp only [List.cons_append, List.dropWhile_cons, ih]
    split <;> rfl

end

theorem Breaks.isDigit_eq_false {s : List Char} (h : Breaks s) :
    ∀ c ∈ s.head?, c.isDigit = false := by
  intro c hc
  by_contra hdigit
  have hword := isWordPart_of_isDigit (Bool.not_eq_false _ ▸ hdigit)
  rw [(h c hc).1] at hword
  exact absurd hword (by decide)

/-- A word is as long as it was without the text behind it. -/
theorem wordLength_append {s : List Char} (h : Breaks s) (a : List Char) :
    wordLength (a ++ s) = wordLength a := by
  rw [wordLength, takeWhile_append_of_head (fun c hc => (h c hc).1), wordLength]

/-- A number is as long as it was without the text behind it. -/
theorem numberLength_append {s : List Char} (h : Breaks s) (a : List Char) :
    numberLength (a ++ s) = numberLength a := by
  have hdigit := h.isDigit_eq_false
  rw [numberLength, takeWhile_append_of_head hdigit, dropWhile_append_of_head hdigit, numberLength]
  congr 1
  cases hrest : a.dropWhile Char.isDigit with
  | nil =>
    cases s with
    | nil => rfl
    | cons c s =>
      have hpoint := (h c rfl).2.1
      simp [hpoint]
  | cons c rest =>
    by_cases hpoint : c = '.'
    · subst hpoint
      simp only [List.cons_append, takeWhile_append_of_head hdigit]
    · simp [hpoint]

/-! ## Lexemes in front of another text -/

/-- How the first character of a text decides what its first lexeme is. -/
theorem lexeme?_cons (c : Char) (s : List Char) :
    lexeme? (c :: s) =
      if c = '=' ∧ s.head? = some '=' then some (.equal, 2)
      else if c = '!' ∧ s.head? = some '=' then some (.notEqual, 2)
      else match Token.Kind.ofSymbol? c with
        | some kind => some (kind, 1)
        | none =>
          if isWordStart c then
            some (.ofWord ((c :: s).take (1 + wordLength s)), 1 + wordLength s)
          else if c.isDigit then some (.number, numberLength (c :: s))
          else some (.illegal, 1) := by
  unfold lexeme?
  split
  · simp_all
  · simp_all
  · simp_all
  · rename_i hequal hnotEqual heq
    obtain ⟨rfl, rfl⟩ := List.cons.inj heq
    have hnot₁ : ¬ (c = '=' ∧ s.head? = some '=') := by
      rintro ⟨hc, hs⟩
      obtain ⟨rest, hrest⟩ := List.head?_eq_some_iff.mp hs
      exact hequal rest hc hrest
    have hnot₂ : ¬ (c = '!' ∧ s.head? = some '=') := by
      rintro ⟨hc, hs⟩
      obtain ⟨rest, hrest⟩ := List.head?_eq_some_iff.mp hs
      exact hnotEqual rest hc hrest
    exact ((if_neg hnot₁).trans (if_neg hnot₂)).symm

/-- A blank that is not skipped is no lexeme of the language. -/
theorem lexeme?_of_isBlank {c : Char} (hc : isBlank c) (s : List Char) :
    lexeme? (c :: s) = some (.illegal, 1) := by
  simp only [isBlank, Bool.or_eq_true, beq_iff_eq] at hc
  rcases hc with ((((rfl | rfl) | rfl) | rfl) | rfl) | rfl <;> rfl

/-- No lexeme but an illegal one starts with a blank. -/
theorem isBlank_eq_false_of_lexeme? {c : Char} {s : List Char} {kind : Token.Kind} {n : ℕ}
    (h : lexeme? (c :: s) = some (kind, n)) (hkind : kind ≠ .illegal) : isBlank c = false := by
  by_contra hblank
  rw [lexeme?_of_isBlank (Bool.not_eq_false _ ▸ hblank)] at h
  simp only [Option.some.injEq, Prod.mk.injEq] at h
  exact hkind h.1.symm

/-- No part of a word is a symbol. -/
theorem ofSymbol?_eq_none_of_isWordPart {c : Char} (hc : isWordPart c) :
    Token.Kind.ofSymbol? c = none := by
  unfold Token.Kind.ofSymbol?
  split <;> first | rfl | exact absurd hc (by decide)

theorem ne_equal_of_isWordPart {c : Char} (hc : isWordPart c) : c ≠ '=' ∧ c ≠ '!' := by
  constructor <;> rintro rfl <;> exact absurd hc (by decide)

theorem isWordPart_of_isWordStart {c : Char} (hc : isWordStart c) : isWordPart c := by
  simp only [isWordStart, Bool.or_eq_true] at hc
  simp only [isWordPart, Char.isAlphanum, Bool.or_eq_true]
  exact hc.imp_left .inl

/-- A word begins with a letter or an underscore and goes on as long as it can. -/
theorem lexeme?_of_isWordStart {c : Char} (hc : isWordStart c) (s : List Char) :
    lexeme? (c :: s) =
      some (.ofWord ((c :: s).take (1 + wordLength s)), 1 + wordLength s) := by
  have hpart := isWordPart_of_isWordStart hc
  obtain ⟨hequal, hbang⟩ := ne_equal_of_isWordPart hpart
  rw [lexeme?_cons, if_neg (fun h => hequal h.1), if_neg (fun h => hbang h.1),
    ofSymbol?_eq_none_of_isWordPart hpart]
  exact if_pos hc

theorem isWordStart_eq_false_of_isDigit {c : Char} (hc : c.isDigit) : isWordStart c = false := by
  obtain ⟨-, hle⟩ := isDigit_iff_le.mp hc
  by_contra hword
  rw [Bool.not_eq_false, isWordStart_iff_le] at hword
  rcases hword with ⟨hge, -⟩ | ⟨hge, -⟩ | rfl
  · exact absurd (Char.le_trans hge hle) (by decide)
  · exact absurd (Char.le_trans hge hle) (by decide)
  · exact absurd hc (by decide)

/-- A number begins with a digit and goes on as long as it can. -/
theorem lexeme?_of_isDigit {c : Char} (hc : c.isDigit) (s : List Char) :
    lexeme? (c :: s) = some (.number, numberLength (c :: s)) := by
  have hpart := isWordPart_of_isDigit hc
  obtain ⟨hequal, hbang⟩ := ne_equal_of_isWordPart hpart
  rw [lexeme?_cons, if_neg (fun h => hequal h.1), if_neg (fun h => hbang h.1),
    ofSymbol?_eq_none_of_isWordPart hpart]
  simp only [isWordStart_eq_false_of_isDigit hc, hc, if_true]
  rfl

/-- An exclamation mark in front of an equals sign is another operator. -/
theorem lexeme?_of_ofSymbol? {c : Char} {kind : Token.Kind} (hc : Token.Kind.ofSymbol? c = some kind)
    {s : List Char} (hs : ¬ (c = '!' ∧ s.head? = some '=')) : lexeme? (c :: s) = some (kind, 1) := by
  have hequal : c ≠ '=' := by
    rintro rfl
    simp [Token.Kind.ofSymbol?] at hc
  rw [lexeme?_cons, if_neg (fun h => hequal h.1), if_neg hs, hc]

/-- A text that could go on a word does so to its end. -/
theorem wordLength_eq {s : List Char} (h : ∀ c ∈ s, isWordPart c) : wordLength s = s.length := by
  rw [wordLength, List.takeWhile_eq_self_iff.mpr h]

theorem wordLength_le (s : List Char) : wordLength s ≤ s.length :=
  (List.takeWhile_prefix isWordPart).length_le

/-- A number ends with the text at the latest. -/
theorem numberLength_le (s : List Char) : numberLength s ≤ s.length := by
  have hsplit := congrArg List.length (List.takeWhile_append_dropWhile (p := Char.isDigit) (l := s))
  rw [List.length_append] at hsplit
  rw [numberLength]
  split
  · rename_i fraction hrest
    have hle := (List.takeWhile_prefix (l := fraction) Char.isDigit).length_le
    rw [hrest, List.length_cons] at hsplit
    show _ + (1 + _) ≤ _
    omega
  · omega

/-- A lexeme lies within the text. -/
theorem lexeme?_length_le {s : List Char} {kind : Token.Kind} {n : ℕ}
    (h : lexeme? s = some (kind, n)) : n ≤ s.length := by
  cases s with
  | nil => simp [lexeme?] at h
  | cons c s =>
    have hword := wordLength_le s
    have hnumber := numberLength_le (c :: s)
    -- only the operators of two characters need more than `c` itself
    have htwo : s.head? = some '=' → 0 < s.length := by
      rintro hs
      obtain ⟨rest, rfl⟩ := List.head?_eq_some_iff.mp hs
      exact Nat.succ_pos _
    rw [lexeme?_cons] at h
    simp only [List.length_cons] at hnumber ⊢
    split at h
    · rename_i hs
      have := htwo hs.2
      simp only [Option.some.injEq, Prod.mk.injEq] at h
      omega
    · split at h
      · rename_i hs
        have := htwo hs.2
        simp only [Option.some.injEq, Prod.mk.injEq] at h
        omega
      · split at h
        · simp only [Option.some.injEq, Prod.mk.injEq] at h
          omega
        · split at h
          · simp only [Option.some.injEq, Prod.mk.injEq] at h
            omega
          · split at h <;> simp only [Option.some.injEq, Prod.mk.injEq] at h <;> omega

/-- A text keeps its first lexeme in front of a text that takes no character from it. -/
theorem lexeme?_append {a s : List Char} (hs : Breaks s) (ha : a ≠ []) :
    lexeme? (a ++ s) = lexeme? a := by
  cases a with
  | nil => exact absurd rfl ha
  | cons c a =>
    have hhead : ((a ++ s).head? = some '=') = (a.head? = some '=') := by
      cases a with
      | nil =>
        have hne : s.head? ≠ some '=' := fun h => (hs _ h).2.2 rfl
        simpa using hne
      | cons d a => rfl
    have htake : (c :: (a ++ s)).take (1 + wordLength a) = (c :: a).take (1 + wordLength a) := by
      have hword := wordLength_le a
      rw [← List.cons_append, List.take_append_of_le_length]
      rw [List.length_cons]
      omega
    rw [List.cons_append, lexeme?_cons, lexeme?_cons, wordLength_append hs, htake,
      ← List.cons_append, numberLength_append hs]
    simp only [hhead]

/-! ## Tokens in front of another text -/

/-- A token that stands `k` characters further on. -/
def Token.shift (k : ℕ) (t : Token) : Token := { t with pos := k + t.pos, stop := k + t.stop }

namespace Cursor

/-- Where only blanks are left there are no lexemes. -/
theorem lexemes_of_lexeme?_none {c : Cursor} (h : lexeme? c.skipBlanks.rest = none) :
    c.lexemes = [] := by
  rw [lexemes, if_pos]
  simp only [next, h]
  rfl

/-- The first lexeme, and the lexemes of the text behind it. -/
theorem lexemes_of_lexeme? {c : Cursor} {kind : Token.Kind} {n : ℕ}
    (h : lexeme? c.skipBlanks.rest = some (kind, n)) :
    c.lexemes = ⟨kind, String.ofList (c.skipBlanks.rest.take n), c.skipBlanks.index,
      c.skipBlanks.index + n⟩ :: (c.skipBlanks.advance n).lexemes := by
  have hnext : c.next = (⟨kind, String.ofList (c.skipBlanks.rest.take n), c.skipBlanks.index,
      c.skipBlanks.index + n⟩, c.skipBlanks.advance n) := by
    simp only [next, h]
  rw [lexemes, hnext, if_neg]
  exact kind_ne_eof_of_lexeme? h

/-- The lexemes depend on the next token only, and on what is left behind it. -/
theorem lexemes_congr {c d : Cursor} (h : c.next = d.next) : c.lexemes = d.lexemes := by
  rw [lexemes.eq_def c, lexemes.eq_def d, h]

/-- Blanks in front of a text move its tokens. -/
theorem lexemes_blank (i : ℕ) {c : Char} (hc : isBlank c) (s : List Char) :
    lexemes ⟨i, c :: s⟩ = lexemes ⟨i + 1, s⟩ := by
  have hskip : skipBlanks ⟨i, c :: s⟩ = skipBlanks ⟨i + 1, s⟩ := by
    simp only [skipBlanks, List.takeWhile_cons, List.dropWhile_cons, hc, if_true, List.length_cons,
      Cursor.mk.injEq, and_true]
    omega
  apply lexemes_congr
  simp only [next, hskip]

theorem lexemes_nil (i : ℕ) : lexemes ⟨i, []⟩ = [] := lexemes_of_lexeme?_none rfl

/-- The first token of a text that does not start with a blank. -/
theorem lexemes_cons (i : ℕ) {c : Char} (hc : isBlank c = false) {s : List Char}
    {kind : Token.Kind} {n : ℕ} (h : lexeme? (c :: s) = some (kind, n)) :
    lexemes ⟨i, c :: s⟩ = ⟨kind, String.ofList ((c :: s).take n), i, i + n⟩ ::
      lexemes ⟨i + n, (c :: s).drop n⟩ := by
  have hskip : skipBlanks ⟨i, c :: s⟩ = ⟨i, c :: s⟩ := by
    simp [skipBlanks, hc]
  rw [lexemes_of_lexeme? (by rw [hskip]; exact h), hskip]
  rfl

/-- A text that is one lexeme has one token. -/
theorem lexemes_single {s : List Char} {kind : Token.Kind} (hblank : ∀ c ∈ s.head?, isBlank c = false)
    (h : lexeme? s = some (kind, s.length)) (i : ℕ) :
    lexemes ⟨i, s⟩ = [⟨kind, String.ofList s, i, i + s.length⟩] := by
  cases s with
  | nil => simp [lexeme?] at h
  | cons c cs =>
    rw [lexemes_cons i (hblank c rfl) h, List.take_length, List.drop_length, lexemes_nil]

/-- Induction along the tokens of a text: it is empty, or starts with a blank, or starts with a
lexeme. -/
@[elab_as_elim]
theorem scan_induction {motive : ℕ → List Char → Prop} (nil : ∀ i, motive i [])
    (blank : ∀ i c s, isBlank c = true → motive (i + 1) s → motive i (c :: s))
    (lexeme : ∀ i c s kind n, isBlank c = false → lexeme? (c :: s) = some (kind, n) →
      motive (i + n) ((c :: s).drop n) → motive i (c :: s))
    (i : ℕ) (s : List Char) : motive i s := by
  -- on the length, since a lexeme takes any number of characters
  induction hlength : s.length using Nat.strongRecOn generalizing i s with
  | _ length ih =>
    subst hlength
    cases s with
    | nil => exact nil i
    | cons c s =>
      cases hc : isBlank c with
      | true => exact blank i c s hc (ih s.length (Nat.lt_succ_self _) (i + 1) s rfl)
      | false =>
        cases hlexeme : lexeme? (c :: s) with
        | none => exact absurd (lexeme?_eq_none_iff.mp hlexeme) (List.cons_ne_nil c s)
        | some found =>
          obtain ⟨kind, n⟩ := found
          have hpos := lexeme?_length_pos hlexeme
          have hlt : ((c :: s).drop n).length < (c :: s).length := by
            rw [List.length_drop, List.length_cons]
            omega
          exact lexeme i c s kind n hc hlexeme (ih _ hlt (i + n) _ rfl)

/-- A text keeps its tokens in front of a text that takes no character from it. -/
theorem lexemes_append {s : List Char} (hs : Breaks s) (i : ℕ) (a : List Char) :
    lexemes ⟨i, a ++ s⟩ = lexemes ⟨i, a⟩ ++ lexemes ⟨i + a.length, s⟩ := by
  induction i, a using scan_induction with
  | nil i =>
    rw [lexemes_nil]
    rfl
  | blank i c a hc ih =>
    rw [List.cons_append, lexemes_blank i hc, lexemes_blank i hc, ih, List.length_cons,
      Nat.add_right_comm, Nat.add_assoc i]
  | lexeme i c a kind n hc hlexeme ih =>
    have hle := lexeme?_length_le hlexeme
    have happend := lexeme?_append hs (List.cons_ne_nil c a)
    rw [hlexeme, List.cons_append] at happend
    -- the lexeme ends within `a`, so what is left of `a` still stands in front of `s`
    have hdrop : i + n + ((c :: a).drop n).length = i + (c :: a).length := by
      rw [List.length_drop]
      omega
    rw [lexemes_cons i hc hlexeme, List.cons_append, lexemes_cons i hc happend,
      ← List.cons_append, List.take_append_of_le_length hle, List.drop_append_of_le_length hle,
      ih, hdrop, List.cons_append]

/-- Tokens that stand further on are the same tokens, moved. -/
theorem lexemes_shift (k i : ℕ) (s : List Char) :
    lexemes ⟨k + i, s⟩ =
      (lexemes ⟨i, s⟩).map (Token.shift k) := by
  induction i, s using scan_induction with
  | nil i => simp only [lexemes_nil, List.map_nil]
  | blank i c s hc ih => rw [lexemes_blank _ hc, lexemes_blank _ hc, Nat.add_assoc, ih]
  | lexeme i c s kind n hc hlexeme ih =>
    rw [lexemes_cons _ hc hlexeme, lexemes_cons _ hc hlexeme, Nat.add_assoc, ih, List.map_cons]
    rfl

/-- Tokens stand within the text. -/
theorem pos_lexemes (i : ℕ) (s : List Char) :
    ∀ t ∈ lexemes ⟨i, s⟩, i ≤ t.pos ∧ t.pos < i + s.length := by
  induction i, s using scan_induction with
  | nil i => simp [lexemes_nil]
  | blank i c s hc ih =>
    intro t ht
    rw [lexemes_blank i hc] at ht
    have := ih t ht
    rw [List.length_cons]
    omega
  | lexeme i c s kind n hc hlexeme ih =>
    intro t ht
    have hle := lexeme?_length_le hlexeme
    rw [lexemes_cons i hc hlexeme] at ht
    rcases List.mem_cons.mp ht with rfl | ht
    · exact ⟨Nat.le_refl i, Nat.lt_add_of_pos_right (Nat.succ_pos s.length)⟩
    · have := ih t ht
      rw [List.length_drop] at this
      omega

/-- Tokens stand in order. -/
theorem pairwise_pos_lexemes (i : ℕ) (s : List Char) :
    (lexemes ⟨i, s⟩).Pairwise fun t u => t.pos < u.pos := by
  induction i, s using scan_induction with
  | nil i => simp [lexemes_nil]
  | blank i c s hc ih => rwa [lexemes_blank i hc]
  | lexeme i c s kind n hc hlexeme ih =>
    have hpos := lexeme?_length_pos hlexeme
    rw [lexemes_cons i hc hlexeme, List.pairwise_cons]
    refine ⟨?_, ih⟩
    intro t ht
    have := pos_lexemes (i + n) _ t ht
    show i < t.pos
    omega

/-! ## Semicolons -/

/-- A semicolon is a lexeme whatever stands behind it. -/
theorem lexemes_semicolon (i : ℕ) (s : List Char) :
    lexemes ⟨i, ';' :: s⟩ = ⟨.semicolon, ";", i, i + 1⟩ :: lexemes ⟨i + 1, s⟩ := by
  rw [lexemes_cons i (by decide) (show lexeme? (';' :: s) = some (.semicolon, 1) from rfl)]
  rfl

theorem breaks_semicolon (s : List Char) : Breaks (';' :: s) :=
  breaks_cons rfl (by decide) (by decide) s

/-- The lexeme of a semicolon is this character. -/
theorem eq_semicolon_of_lexeme? {c : Char} {s : List Char} {n : ℕ}
    (h : lexeme? (c :: s) = some (.semicolon, n)) : c = ';' := by
  rw [lexeme?_cons] at h
  split at h
  · simp at h
  · split at h
    · simp at h
    · split at h
      · rename_i kind hsymbol
        obtain ⟨rfl, -⟩ : kind = .semicolon ∧ 1 = n := by simpa using h
        unfold Token.Kind.ofSymbol? at hsymbol
        split at hsymbol <;> simp_all
      · split at h
        · simp only [Token.Kind.ofWord] at h
          split at h
          · simp at h
          · split at h <;> simp at h
        · split at h <;> simp at h

/-- A semicolon among the tokens is one of the text. -/
theorem semicolon_mem_of_mem_lexemes (i : ℕ) (s : List Char) :
    ∀ t ∈ lexemes ⟨i, s⟩, t.kind = .semicolon → ';' ∈ s := by
  induction i, s using scan_induction with
  | nil i => simp [lexemes_nil]
  | blank i c s hc ih =>
    intro t ht hkind
    rw [lexemes_blank i hc] at ht
    exact List.mem_cons_of_mem c (ih t ht hkind)
  | lexeme i c s kind n hc hlexeme ih =>
    intro t ht hkind
    rw [lexemes_cons i hc hlexeme] at ht
    rcases List.mem_cons.mp ht with rfl | ht
    · obtain rfl : kind = .semicolon := hkind
      exact eq_semicolon_of_lexeme? hlexeme ▸ List.mem_cons_self
    · exact List.mem_of_mem_drop (ih t ht hkind)

end Cursor

end RasterAlgebra
