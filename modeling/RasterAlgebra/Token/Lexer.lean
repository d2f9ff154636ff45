import RasterAlgebra.Token
/-!
# Cutting a text into tokens

`lexeme?` finds the kind and the length of the lexeme that a text starts with; a lexeme is always as
long as its class allows. `Cursor.next` skips blanks and takes one token, and `tokenize` does so until
the text is used up. Every step but the last uses up at least one character (`next_rest_length_lt`).
-/

namespace RasterAlgebra

/-! ## Character classes -/

/-- The six characters that may stand between tokens. -/
def isBlank (c : Char) : Bool :=
  c == ' ' || c == '\t' || c == '\r' || c == '\n' || c == '\x0c' || c == '\x0b'

/-- Words start with an ASCII letter or an underscore. -/
def isWordStart (c : Char) : Bool := c.isAlpha || c == '_'

/-- Behind its first character a word may also hold ASCII digits. -/
def isWordPart (c : Char) : Bool := c.isAlphanum || c == '_'

/-! ## Lexemes -/

namespace Token

/-- The kind of a lexeme that is one character long, `!` included. -/
def Kind.ofSymbol? : Char → Option Kind
  | '+' => some .plus
  | '-' => some .minus
  | '*' => some .asterisk
  | '/' => some .slash
  | '<' => some .less
  | '>' => some .greater
  | '#' => some .hash
  | ';' => some .semicolon
  | '(' => some .leftParen
  | ')' => some .rightParen
  | '!' => some .bang
  | _ => none

/-- Two words are reserved, in lower case only; every other word is an identifier. -/
def Kind.ofWord (word : List Char) : Kind :=
  if word = "true".toList then .trueWord
  else if word = "false".toList then .falseWord
  else .ident

end Token

/-- How many characters of `s` belong to the word it starts with. -/
def wordLength (s : List Char) : Nat := (s.takeWhile isWordPart).length

/-- How many characters of `s` belong to the number it starts with: digits, and then at most one point
with any count of digits behind it. -/
def numberLength (s : List Char) : Nat :=
  (s.takeWhile Char.isDigit).length +
    match s.dropWhile Char.isDigit with
    | '.' :: fraction => 1 + (fraction.takeWhile Char.isDigit).length
    | _ => 0

/-- The kind and the length of the lexeme at the head of a text. Two-character operators win over
one-character ones, and a character that starts no lexeme is an illegal token by itself. -/
def lexeme? : List Char → Option (Token.Kind × Nat)
  | [] => none
  | '=' :: '=' :: _ => some (.equal, 2)
  | '!' :: '=' :: _ => some (.notEqual, 2)
  | c :: rest =>
    match Token.Kind.ofSymbol? c with
    | some kind => some (kind, 1)
    | none =>
      if isWordStart c then
        let n := 1 + wordLength rest
        some (.ofWord ((c :: rest).take n), n)
      else if c.isDigit then some (.number, numberLength (c :: rest))
      else some (.illegal, 1)

/-- A number has at least the digit it starts with. -/
theorem numberLength_pos {c : Char} (h : c.isDigit) (rest : List Char) :
    0 < numberLength (c :: rest) := by
  simp only [numberLength, List.takeWhile_cons, h, if_true, List.length_cons]
  omega

/-- A lexeme is never empty. -/
theorem lexeme?_length_pos {s : List Char} {kind : Token.Kind} {n : Nat}
    (h : lexeme? s = some (kind, n)) : 0 < n := by
  unfold lexeme? at h
  split at h
  · simp at h
  · simp at h; omega
  · simp at h; omega
  · rename_i c rest _ _
    split at h
    · simp at h; omega
    · split at h
      · simp at h; omega
      · split at h
        · rename_i hdigit
          simp at h
          exact h.2 ▸ numberLength_pos hdigit rest
        · simp at h; omega

/-- Only the empty text has no lexeme. -/
theorem lexeme?_eq_none_iff {s : List Char} : lexeme? s = none ↔ s = [] := by
  constructor
  · intro h
    unfold lexeme? at h
    split at h
    · rfl
    · simp at h
    · simp at h
    · split at h
      · simp at h
      · split at h
        · simp at h
        · split at h <;> simp at h
  · rintro rfl
    rfl

/-! ## Tokens of a text -/

/-- A place in a text: how many characters stand before it, and those that follow. -/
structure Cursor where
  index : Nat
  rest : List Char
  deriving DecidableEq, Repr

namespace Cursor

/-- The start of a text. -/
def start (source : String) : Cursor := ⟨0, source.toList⟩

/-- The place behind the blanks that follow. -/
def skipBlanks (c : Cursor) : Cursor :=
  ⟨c.index + (c.rest.takeWhile isBlank).length, c.rest.dropWhile isBlank⟩

/-- The place `n` characters further on. -/
def advance (c : Cursor) (n : Nat) : Cursor := ⟨c.index + n, c.rest.drop n⟩

/-- Skips blanks and takes one token. At the end of the text that is the end token, again and again. -/
def next (c : Cursor) : Token × Cursor :=
  let c := c.skipBlanks
  match lexeme? c.rest with
  | none => (.endOfText c.index, c)
  | some (kind, n) => (⟨kind, String.ofList (c.rest.take n), c.index, c.index + n⟩, c.advance n)

theorem skipBlanks_rest_length_le (c : Cursor) : c.skipBlanks.rest.length ≤ c.rest.length := by
  have := List.takeWhile_append_dropWhile (p := isBlank) (l := c.rest)
  have := congrArg List.length this
  simp only [List.length_append] at this
  simp only [skipBlanks]
  omega

/-- No lexeme has the kind of the end token. -/
theorem kind_ne_eof_of_lexeme? {s : List Char} {kind : Token.Kind} {n : Nat}
    (h : lexeme? s = some (kind, n)) : kind ≠ .eof := by
  rintro rfl
  unfold lexeme? at h
  split at h
  · simp at h
  · simp at h
  · simp at h
  · rename_i c rest _ _
    split at h
    · rename_i hsymbol
      simp at h
      obtain ⟨rfl, -⟩ := h
      unfold Token.Kind.ofSymbol? at hsymbol
      split at hsymbol <;> simp at hsymbol
    · split at h
      · simp only [Option.some.injEq, Prod.mk.injEq] at h
        have := h.1
        unfold Token.Kind.ofWord at this
        split at this
        · simp at this
        · split at this <;> simp at this
      · split at h <;> simp at h

/-- A step that does not end the text leaves less of it. -/
theorem next_rest_length_lt {c : Cursor} (h : c.next.1.kind ≠ .eof) :
    c.next.2.rest.length < c.rest.length := by
  have hle := c.skipBlanks_rest_length_le
  simp only [next] at h ⊢
  split at h
  · simp [Token.endOfText] at h
  · rename_i kind n hlex
    have hpos := lexeme?_length_pos hlex
    have hne : c.skipBlanks.rest ≠ [] := by
      intro hnil
      rw [hnil] at hlex
      simp [lexeme?] at hlex
    have := List.length_pos_iff.mpr hne
    simp only [advance, List.length_drop]
    omega

/-- The tokens from a place on, without the end token. -/
def lexemes (c : Cursor) : List Token :=
  if c.next.1.kind = .eof then []
  else c.next.1 :: c.next.2.lexemes
  termination_by c.rest.length
  decreasing_by exact next_rest_length_lt ‹_›

/-- The token that ends the text. -/
def endToken (c : Cursor) : Token := .endOfText (c.index + c.rest.length)

/-- All tokens from a place on, the end token last. -/
def tokens (c : Cursor) : List Token := c.lexemes ++ [c.endToken]

end Cursor

/-- All tokens of a text, the end token last. -/
def tokenize (source : String) : List Token := (Cursor.start source).tokens

end RasterAlgebra
