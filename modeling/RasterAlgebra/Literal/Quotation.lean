import RasterAlgebra.Literal
import RasterAlgebra.Text.CharacterName
/-!
# Quotations in literals

A text is written between quotes, single or double ones, or three of a kind, between which it can have
several lines. Letters in front of the quotes tell how it is read: as text or as bytes, and whether
backslashes escape anything. `readQuotation?` reads a quotation at the head of a text.
-/

namespace RasterAlgebra.Literal

/-! ## Between the quotes -/

/-- What the letters in front of a quotation tell. -/
structure QuotationStyle where
  /-- Backslashes stand for themselves. -/
  raw : Bool
  bytes : Bool
  /-- Expressions are filled in, so it is no literal. -/
  formatted : Bool
  deriving DecidableEq, Repr

/-- The style that letters tell, in either case. -/
def QuotationStyle.ofLetters? (letters : List Char) : Option QuotationStyle :=
  match String.ofList (letters.map Char.toLower) with
  | "" | "u" => some ⟨false, false, false⟩
  | "r" => some ⟨true, false, false⟩
  | "b" => some ⟨false, true, false⟩
  | "br" | "rb" => some ⟨true, true, false⟩
  | "f" => some ⟨false, false, true⟩
  | "fr" | "rf" => some ⟨true, false, true⟩
  | _ => none

/-- What stands before the quote that ends a quotation in one line, and what stands behind it. A character
behind a backslash ends nothing. -/
def takeLine? (quote : Char) : List Char → Option (List Char × List Char)
  | [] => none
  | '\\' :: c :: rest => (takeLine? quote rest).map fun (s, rest) => ('\\' :: c :: s, rest)
  | c :: rest =>
    if c = quote then some ([], rest)
    else if c = '\n' then none
    else (takeLine? quote rest).map fun (s, rest) => (c :: s, rest)

/-- What stands before the three quotes that end a quotation, and what stands behind them. -/
def takeLines? (quote : Char) : List Char → Option (List Char × List Char)
  | [] => none
  | '\\' :: c :: rest => (takeLines? quote rest).map fun (s, rest) => ('\\' :: c :: s, rest)
  | c :: rest =>
    if c = quote ∧ rest.take 2 = [quote, quote] then some ([], rest.drop 2)
    else (takeLines? quote rest).map fun (s, rest) => (c :: s, rest)

/-- The content of a quotation that starts with a given quote, and what stands behind it. -/
def takeQuoted? (quote : Char) : List Char → Option (List Char × List Char)
  | a :: b :: rest =>
    if a = quote ∧ b = quote then takeLines? quote rest else takeLine? quote (a :: b :: rest)
  | s => takeLine? quote s

/-! ## Escapes -/

/-- The characters that a letter behind a backslash stands for. -/
def plainEscape? : Char → Option Nat
  | 'a' => some 0x07
  | 'b' => some 0x08
  | 't' => some 0x09
  | 'n' => some 0x0a
  | 'v' => some 0x0b
  | 'f' => some 0x0c
  | 'r' => some 0x0d
  | '\\' => some 0x5c
  | '\'' => some 0x27
  | '"' => some 0x22
  | _ => none

/-- The code point that exactly `count` hexadecimal digits at the head of a text write. -/
def fixedCode? (count : Nat) (s : List Char) : Option Nat :=
  let digits := s.take count
  if digits.length = count then (Text.number? 16 digits).filter (· ≤ 0x10ffff) else none

/-- What stands behind a backslash, as code points, and how many characters of it there are. An escape
that stands for nothing stands for itself. -/
def escape? (bytes : Bool) : List Char → Option (List Nat × Nat)
  | [] => none
  | '\n' :: _ => some ([], 1)
  | c :: rest =>
    let octal := ((c :: rest).take 3).takeWhile (Text.isDigit 8)
    if !octal.isEmpty then
      let code := (Text.number? 8 octal).getD 0
      some ([if bytes then code % 256 else code], octal.length)
    else match plainEscape? c with
      | some code => some ([code], 1)
      | none =>
        if c = 'x' then (fixedCode? 2 rest).map fun code => ([code], 3)
        else if bytes then some (['\\'.toNat, c.toNat], 1)
        else if c = 'u' then (fixedCode? 4 rest).map fun code => ([code], 5)
        else if c = 'U' then (fixedCode? 8 rest).map fun code => ([code], 9)
        else if c = 'N' then
          match rest with
          | '\x7b' :: rest =>
            let name := rest.takeWhile (· != '\x7d')
            if name.length = rest.length then none
            else (Text.characterNamed? name).map fun code => ([code], name.length + 3)
          | _ => none
        else some (['\\'.toNat, c.toNat], 1)

/-- The code points of a content with escapes. -/
def unescape? (bytes : Bool) : List Char → Option (List Nat)
  | [] => some []
  | '\\' :: rest => do
    let (codes, used) ← escape? bytes rest
    return codes ++ (← unescape? bytes (rest.drop used))
  | c :: rest => (unescape? bytes rest).map (c.toNat :: ·)
  termination_by s => s.length
  decreasing_by all_goals (simp only [List.length_cons, List.length_drop]; omega)

/-! ## Quotations -/

/-- A quotation: a text, bytes, or one with expressions in it. -/
inductive Quotation where
  | text (codes : List Nat)
  | bytes (bytes : List UInt8)
  | formatted
  deriving DecidableEq, Repr

/-- A quotation from its style and its content. Bytes are written with ASCII characters. -/
def Quotation.ofContent? (style : QuotationStyle) (content : List Char) : Option Quotation :=
  if style.formatted then some .formatted
  else if style.bytes && content.any (fun c => 0x80 ≤ c.toNat) then none
  else do
    let codes ← if style.raw then pure (content.map Char.toNat) else unescape? style.bytes content
    return if style.bytes then .bytes (codes.map Nat.toUInt8) else .text codes

/-- The quotation at the head of a text, and the rest. The first result is missing if the text does not
start like a quotation. -/
def readQuotation? (s : List Char) : Option (Option (Quotation × List Char)) :=
  let letters := s.takeWhile isQuotationLetter
  match s.dropWhile isQuotationLetter with
  | quote :: rest =>
    if quote = '\'' ∨ quote = '"' then
      (QuotationStyle.ofLetters? letters).map fun style => do
        let (content, rest) ← takeQuoted? quote rest
        return (← Quotation.ofContent? style content, rest)
    else none
  | [] => none
where
  /-- The letters that can stand in front of a quotation. -/
  isQuotationLetter (c : Char) : Bool := "bfruBFRU".toList.contains c

/-- Quotations side by side are one, unless some are bytes and others are not. -/
def Quotation.join? : Quotation → Quotation → Option Quotation
  | .text a, .text b => some (.text (a ++ b))
  | .bytes a, .bytes b => some (.bytes (a ++ b))
  | .bytes _, _ | _, .bytes _ => none
  | _, _ => some .formatted

end RasterAlgebra.Literal
