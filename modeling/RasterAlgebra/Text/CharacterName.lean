import RasterAlgebra.Text.CharacterName.Aliases
import RasterAlgebra.Text.CharacterName.Alphabets
import RasterAlgebra.Text.CharacterName.AncientScripts
import RasterAlgebra.Text.CharacterName.EastAsia
import RasterAlgebra.Text.CharacterName.Hieroglyphs
import RasterAlgebra.Text.CharacterName.Notations
import RasterAlgebra.Text.CharacterName.Pictographs
import RasterAlgebra.Text.CharacterName.Supplements
import RasterAlgebra.Text.CharacterName.Syllabaries
import RasterAlgebra.Text.CharacterName.Symbols
import RasterAlgebra.Text.Pieces
import RasterAlgebra.Text.Radix
/-!
# Characters by name

Every assigned character has a name, and some have others besides (Unicode 14). Most names are listed in
tables; those of syllables and ideographs follow rules. `characterNamed?` finds the code point of a name.

The entries of a table stand in lines, with commas between them. An entry is the code point of a character
with a colon, which is left out if it is the one after the entry before; a small letter, which says how
many words of the name before stay, one for `a`; and the words that follow those. The first table lists
other names, so there several entries have one code point.
-/

namespace RasterAlgebra.Text

namespace CharacterName

/-! ## Tables -/

/-- What is written in a table about one name. -/
structure Entry where
  code : Option Nat
  /-- How many words of the name before stay. -/
  kept : Nat
  words : List (List Char)

/-- The words of a text. -/
def wordsOf (s : List Char) : List (List Char) := if s.isEmpty then [] else pieces (· == ' ') s

/-- An entry from its text. -/
def Entry.ofText (s : List Char) : Entry :=
  let (code, s) := match pieces (· == ':') s with
    | [digits, rest] => (number? 16 digits, rest)
    | _ => (none, s)
  match s with
  | [] => ⟨code, 0, []⟩
  | c :: rest =>
    if c.isLower then ⟨code, c.toNat - 'a'.toNat + 1, wordsOf rest⟩ else ⟨code, 0, wordsOf s⟩

/-- The entries of a table. -/
def entries (table : String) : List Entry :=
  ((pieces (fun c => c == ',' || c == '\n') table.toList).filter (!·.isEmpty)).map Entry.ofText

/-- The code point of a name among entries, given the code point and the words of the entry before
them. -/
def find? (name : List (List Char)) (code : Nat) (words : List (List Char)) :
    List Entry → Option Nat
  | [] => none
  | e :: rest =>
    let code := e.code.getD (code + 1)
    let words := words.take e.kept ++ e.words
    if words = name then some code else find? name code words rest

/-- All tables. -/
def tables : List String :=
  [aliases, alphabets, syllabaries, symbols, eastAsia, ancientScripts, hieroglyphs, supplements,
    notations, pictographs]

/-- The code point that a table gives to a name, in either letter case. -/
def listed? (name : List Char) : Option Nat :=
  let words := wordsOf (name.map Char.toUpper)
  tables.findSome? fun table => find? words 0 [] (entries table)

/-! ## Rules -/

/-- What is left of a text behind a beginning that it has. -/
def behind? (start : String) (s : List Char) : Option (List Char) :=
  if start.toList.isPrefixOf s then some (s.drop start.length) else none

/-- Whether a code point lies in one of several ranges. -/
def isWithin (ranges : List (Nat × Nat)) (code : Nat) : Bool :=
  ranges.any fun (first, last) => first ≤ code && code ≤ last

/-- The code point that four or five digits write, if it lies in one of several ranges. -/
def coded? (ranges : List (Nat × Nat)) (digits : List Char) : Option Nat :=
  if digits.length = 4 ∨ digits.length = 5 then (number? 16 digits).filter (isWithin ranges) else none

/-- The ideographs that are named by their code points. -/
def ideographs : List (Nat × Nat) :=
  [(0x3400, 0x4dbf), (0x4e00, 0x9fff), (0x20000, 0x2a6df), (0x2a700, 0x2b738), (0x2b740, 0x2b81d),
    (0x2b820, 0x2cea1), (0x2ceb0, 0x2ebe0), (0x30000, 0x3134a)]

/-- An ideograph by its name, in capital letters. -/
def ideograph? (name : List Char) : Option Nat := do
  let digits ← behind? "CJK UNIFIED IDEOGRAPH-" name
  if digits.any Char.isLower then none else coded? ideographs digits

/-- Other characters that are named by their code points. -/
def families : List (String × List (Nat × Nat)) :=
  [("CJK COMPATIBILITY IDEOGRAPH-", [(0xf900, 0xfa6d), (0xfa70, 0xfad9), (0x2f800, 0x2fa1d)]),
    ("KHITAN SMALL SCRIPT CHARACTER-", [(0x18b00, 0x18cd5)]),
    ("NUSHU CHARACTER-", [(0x1b170, 0x1b2fb)])]

/-- A character of those families by its name, in either letter case, with as many digits as it takes. -/
def numbered? (name : List Char) : Option Nat :=
  families.findSome? fun (start, ranges) => do
    let digits ← behind? start (name.map Char.toUpper)
    if digits.head? = some '0' then none else coded? ranges digits

/-- The letters that a syllable starts with. -/
def leads : List String :=
  ["G", "GG", "N", "D", "DD", "R", "M", "B", "BB", "S", "SS", "", "J", "JJ", "C", "K", "T", "P", "H"]

/-- The vowels of syllables. -/
def vowels : List String :=
  ["A", "AE", "YA", "YAE", "EO", "E", "YEO", "YE", "O", "WA", "WAE", "OE", "YO", "U", "WEO", "WE", "WI",
    "YU", "EU", "YI", "I"]

/-- The letters that a syllable ends with. -/
def tails : List String :=
  ["", "G", "GG", "GS", "N", "NJ", "NH", "D", "L", "LG", "LM", "LB", "LS", "LT", "LP", "LH", "M", "B",
    "BS", "S", "SS", "NG", "J", "C", "K", "T", "P", "H"]

/-- The first of the Hangul syllables. They are ordered by their lead, then by their vowel, then by their
tail. -/
def firstSyllable : Nat := 0xac00

/-- A Hangul syllable by its name, in capital letters. -/
def syllable? (name : List Char) : Option Nat := do
  let sound := String.ofList (← behind? "HANGUL SYLLABLE " name)
  leads.zipIdx.findSome? fun (lead, l) => vowels.zipIdx.findSome? fun (vowel, v) =>
    tails.zipIdx.findSome? fun (tail, t) =>
      if lead ++ vowel ++ tail = sound then
        some (firstSyllable + (l * vowels.length + v) * tails.length + t)
      else none

end CharacterName

open CharacterName in
/-- The code point of the character with a name. -/
def characterNamed? (name : List Char) : Option Nat :=
  syllable? name <|> ideograph? name <|> numbered? name <|> listed? name

end RasterAlgebra.Text
