import RasterAlgebra.Text.DecimalDigit
import RasterAlgebra.Text.Quoted
/-!
# Templates for names

A template is text with fields in braces; `fill` puts the name of a band into the fields. A field names
what it takes (`band`), may pick single characters of it (`band[0]`), may say how that is shown (`!r` quoted,
`!a` quoted in ASCII, `!s` as it is), and may ask for a width, an alignment, a filling character and a
greatest length (`band:_<8.3`). What follows the colon may hold fields itself. Doubled braces stand for
themselves. A template that cannot be filled has a `Fault`; the faults are met from left to right.

A field may also take an attribute (`band.name`). Which attributes a text has, and what they are, is not
settled here: they are handed in as `Attributes`, and what a field takes is any `Thing` that can be shown.
-/

namespace RasterAlgebra

/-- Why a template cannot be filled. -/
inductive Template.Fault where
  /-- The field takes something that is not there. -/
  | unknownName (name : String)
  /-- The field takes something by its number, and nothing is numbered. -/
  | unknownIndex (index : Nat)
  /-- A text has no parts with names. -/
  | noAttribute (name : String)
  /-- The characters of a text have numbers and no names. -/
  | characterName
  /-- A text has fewer characters. -/
  | characterIndex
  | singleBrace (brace : Char)
  | braceInName
  | unclosedField
  | noConversion
  | textAfterConversion
  | unclosedFormat
  | unknownConversion (c : Char)
  | longIndex
  | textAfterBracket
  | emptyAttribute
  | unclosedBracket
  | nestedTooDeeply
  | badFormat (format : String)
  | unknownFormat (c : Char)
  | twoSeparators
  | separator (mark type : Char)
  | noPrecision
  | spaceSign
  | sign
  | negativeZero
  | alternateForm
  | signAlignment
  /-- Something that was reached by an attribute cannot be followed further or be shown. -/
  | foreign (message : String)
  deriving DecidableEq, Repr

namespace Template

/-- A character as it is between the blank and `limit`, or else by its code point. -/
def shownChar (limit : Nat) (c : Char) : String :=
  let n := c.toNat
  if 32 < n && n < limit then c.toString
  else "\\x" ++ String.ofList (Nat.toDigits 16 n)

/-- The text of a fault. -/
def Fault.message : Fault → String
  | unknownName name => Text.quoted name
  | unknownIndex index =>
    "Replacement index " ++ Nat.repr index ++ " out of range for positional args tuple"
  | noAttribute name => "'str' object has no attribute " ++ "'" ++ name ++ "'"
  | characterName => "string indices must be integers, not 'str'"
  | characterIndex => "string index out of range"
  | singleBrace brace => "Single '" ++ brace.toString ++ "' encountered in format string"
  | braceInName => "unexpected '\x7b' in field name"
  | unclosedField => "expected '\x7d' before end of string"
  | noConversion => "end of string while looking for conversion specifier"
  | textAfterConversion => "expected ':' after conversion specifier"
  | unclosedFormat => "unmatched '\x7b' in format spec"
  | unknownConversion c => "Unknown conversion specifier " ++ shownChar 127 c
  | longIndex => "Too many decimal digits in format string"
  | textAfterBracket => "Only '.' or '[' may follow ']' in format field specifier"
  | emptyAttribute => "Empty attribute in format string"
  | unclosedBracket => "Missing ']' in format string"
  | nestedTooDeeply => "Max string recursion exceeded"
  | badFormat format => "Invalid format specifier '" ++ format ++ "' for object of type 'str'"
  | unknownFormat c => "Unknown format code '" ++ shownChar 128 c ++ "' for object of type 'str'"
  | twoSeparators => "Cannot specify both ',' and '_'."
  | separator mark type =>
    "Cannot specify '" ++ mark.toString ++ "' with '" ++ shownChar 128 type ++ "'."
  | noPrecision => "Format specifier missing precision"
  | spaceSign => "Space not allowed in string format specifier"
  | sign => "Sign not allowed in string format specifier"
  | negativeZero => "Negative zero coercion (z) not allowed in string format specifier"
  | alternateForm => "Alternate form (#) not allowed in string format specifier"
  | signAlignment => "'=' alignment not allowed in string format specifier"
  | foreign message => message

/-! ## Whole numbers -/

/-- The largest number that can be written in a template. -/
def maxIndex : Nat := Nat.pow 2 63 - 1

/-- The digits at the head of a text, of any script, as a number; and the rest. A text without digits has
no number. -/
def readIndex (s : List Char) : Except Fault (Option Nat × List Char) :=
  let digits := s.takeWhile fun c => (Text.decimalDigit? c).isSome
  let n := digits.foldl (fun n c => 10 * n + (Text.decimalDigit? c).getD 0) 0
  if maxIndex < n then .error .longIndex
  else .ok (if digits.isEmpty then none else some n, s.dropWhile fun c => (Text.decimalDigit? c).isSome)

/-- The number that a text is, if it is all digits. The digits that come before another character count
against the largest number too. -/
def wholeIndex (s : List Char) : Except Fault (Option Nat) := do
  let (n, rest) ← readIndex s
  return if rest.isEmpty then n else none

/-! ## The text of a field -/

/-- Where the text of a field is put. -/
inductive Alignment where
  | left
  | right
  | center
  /-- Between a sign and digits, which texts do not have. -/
  | behindSign
  deriving DecidableEq, Repr

/-- The alignment that a character asks for. -/
def Alignment.ofChar? : Char → Option Alignment
  | '<' => some left
  | '>' => some right
  | '^' => some center
  | '=' => some behindSign
  | _ => none

/-- What can be asked for behind the colon of a field. -/
structure Format where
  filler : Char
  alignment : Alignment
  sign : Option Char
  noNegativeZero : Bool
  alternate : Bool
  width : Option Nat
  separator : Option Char
  precision : Option Nat
  type : Char
  deriving DecidableEq, Repr

/-- Takes one character off a text if it is the one looked for. -/
def takeChar (c : Char) (s : List Char) : Bool × List Char :=
  match s with
  | d :: rest => if d = c then (true, rest) else (false, s)
  | [] => (false, [])

/-- The filling character and the alignment at the head of a format, as far as they are given. -/
def takeAlignment (s : List Char) : Option Char × Option Alignment × List Char :=
  match s with
  | filler :: mark :: rest =>
    match Alignment.ofChar? mark with
    | some a => (some filler, some a, rest)
    | none =>
      match Alignment.ofChar? filler with
      | some a => (none, some a, mark :: rest)
      | none => (none, none, s)
  | [mark] =>
    match Alignment.ofChar? mark with
    | some a => (none, some a, [])
    | none => (none, none, s)
  | [] => (none, none, [])

/-- The sign that a format asks for. -/
def takeSign (s : List Char) : Option Char × List Char :=
  match s with
  | c :: rest => if c = ' ' ∨ c = '+' ∨ c = '-' then (some c, rest) else (none, s)
  | [] => (none, [])

/-- The mark between groups of digits. -/
def takeSeparator (s : List Char) : Except Fault (Option Char × List Char) :=
  let (comma, s) := takeChar ',' s
  let (underscore, s) := takeChar '_' s
  if comma && underscore then .error .twoSeparators
  else if underscore && s.head? = some ',' then .error .twoSeparators
  else .ok (if comma then some ',' else if underscore then some '_' else none, s)

/-- The greatest length that a format asks for. -/
def takePrecision (s : List Char) : Except Fault (Option Nat × List Char) := do
  let (dot, rest) := takeChar '.' s
  if dot then
    match ← readIndex rest with
    | (some n, rest) => return (some n, rest)
    | (none, _) => throw .noPrecision
  else return (none, s)

/-- Whether groups of digits can be set off in what a type character stands for. -/
def separatorAllowed (mark type : Char) : Bool :=
  ['d', 'e', 'f', 'g', 'E', 'G', '%', 'F', '\x00'].contains type ||
    (mark == '_' && ['b', 'o', 'x', 'X'].contains type)

/-- A format from its text. -/
def Format.ofText (text : List Char) : Except Fault Format := do
  let (filler, alignment, s) := takeAlignment text
  let (sign, s) := takeSign s
  let (noNegativeZero, s) := takeChar 'z' s
  let (alternate, s) := takeChar '#' s
  let (zero, s) := if filler.isNone then takeChar '0' s else (false, s)
  let (width, s) ← readIndex s
  let (separator, s) ← takeSeparator s
  let (precision, s) ← takePrecision s
  let type ← match s with
    | [] => pure 's'
    | [c] => pure c
    | _ => throw (.badFormat (String.ofList text))
  if let some mark := separator then
    if !separatorAllowed mark type then throw (.separator mark type)
  return {
    filler := filler.getD (if zero then '0' else ' ')
    alignment := alignment.getD .left
    sign, noNegativeZero, alternate, width, separator, precision, type }

/-- A text cut to the length that a format allows and filled up to the width that it asks for. -/
def Format.apply (f : Format) (text : List Char) : Except Fault (List Char) := do
  if f.type ≠ 's' then throw (.unknownFormat f.type)
  if let some c := f.sign then throw (if c = ' ' then .spaceSign else .sign)
  if f.noNegativeZero then throw .negativeZero
  if f.alternate then throw .alternateForm
  if f.alignment = .behindSign then throw .signAlignment
  let cut := match f.precision with
    | some n => text.take n
    | none => text
  let missing := f.width.getD 0 - cut.length
  let before := match f.alignment with
    | .right => missing
    | .center => missing / 2
    | _ => 0
  return List.replicate before f.filler ++ cut ++ List.replicate (missing - before) f.filler

/-- A text shown as the format with the given text asks. An empty format asks for nothing. -/
def formatText (format text : List Char) : Except Fault (List Char) := do
  if format.isEmpty then return text
  (← Format.ofText format).apply text

/-! ## What a field takes -/

/-- How a thing is turned into text. -/
inductive Conversion where
  | plain
  | quoted
  | quotedAscii
  deriving DecidableEq, Repr

/-- The conversion that a letter behind an exclamation mark asks for. -/
def Conversion.ofChar? : Char → Option Conversion
  | 's' => some plain
  | 'r' => some quoted
  | 'a' => some quotedAscii
  | _ => none

/-- What a conversion makes of a text. -/
def Conversion.onText (text : List Char) : Conversion → List Char
  | plain => text
  | quoted => (Text.quoted (String.ofList text)).toList
  | quotedAscii => (Text.quotedAscii (String.ofList text)).toList

/-- Something that a field can take: what is shown of it. -/
structure Thing where
  converted : Conversion → Except Fault (List Char)
  formatted : (format : List Char) → Except Fault (List Char)

/-- A text as a thing. -/
def Thing.ofText (text : List Char) : Thing where
  converted c := .ok (c.onText text)
  formatted format := formatText format text

/-- What steps lead to from an attribute of a text: the text, the name of the attribute, and the steps behind
it as they are written. -/
abbrev Attributes : Type := (text : List Char) → (name : String) → (steps : List Char) → Except Fault Thing

/-- Texts without any attributes. -/
def Attributes.none : Attributes := fun _ name _ => .error (.noAttribute name)

/-- The steps from a text to a part of it: the steps themselves, read one after the other. A character is
picked by its number in brackets; behind the name of an attribute, what the text has there decides. -/
def follow (attributes : Attributes) (s : List Char) (text : List Char) : Except Fault Thing :=
  match s with
  | [] => .ok (.ofText text)
  | '.' :: rest =>
    let name := rest.takeWhile fun c => c != '.' && c != '['
    if name.isEmpty then .error .emptyAttribute
    else attributes text (String.ofList name) (rest.dropWhile fun c => c != '.' && c != '[')
  | '[' :: rest =>
    let name := rest.takeWhile (· != ']')
    match _h : rest.dropWhile (· != ']') with
    | [] => .error .unclosedBracket
    | _ :: behind =>
      match wholeIndex name with
      | .error fault => .error fault
      | .ok index =>
        if name.isEmpty then .error .emptyAttribute
        else match index with
          | none => .error .characterName
          | some n => match text[n]? with
            | none => .error .characterIndex
            | some c => follow attributes behind [c]
  | _ => .error .textAfterBracket
  termination_by s.length
  decreasing_by
    have := (List.dropWhile_suffix (· != ']') (l := rest)).length_le
    rw [_h] at this
    simp only [List.length_cons] at this ⊢
    omega

/-- What a field takes: the band, or what steps lead to from there. -/
def fieldThing (attributes : Attributes) (field : List Char) (band : List Char) : Except Fault Thing := do
  let name := field.takeWhile fun c => c != '.' && c != '['
  let rest := field.dropWhile fun c => c != '.' && c != '['
  match ← wholeIndex name with
  | some index => throw (.unknownIndex index)
  | none =>
    if name.isEmpty then throw (.unknownIndex 0)
    else if name = "band".toList then follow attributes rest band
    else throw (.unknownName (String.ofList name))

/-- What a letter behind an exclamation mark makes of a thing: a text. -/
def Thing.convert (thing : Thing) (letter : Char) : Except Fault Thing :=
  match Conversion.ofChar? letter with
  | some c => (thing.converted c).map .ofText
  | none => .error (.unknownConversion letter)

/-! ## Templates -/

/-- A field as it stands in a template. -/
structure Field where
  /-- What it takes. -/
  path : List Char
  conversion : Option Char
  format : List Char
  /-- Whether its format holds fields. -/
  hasFields : Bool
  deriving DecidableEq, Repr

/-- What a field takes, the character that ends it, and the rest. What stands in brackets ends nothing. -/
def takePath : List Char → Except Fault (List Char × Option Char × List Char)
  | [] => .ok ([], none, [])
  | '\x7b' :: _ => .error .braceInName
  | '[' :: rest =>
    if (rest.dropWhile (· != ']')).isEmpty then .ok ('[' :: rest, none, [])
    else do
      let (path, stop, behind) ← takePath (rest.dropWhile (· != ']'))
      return ('[' :: rest.takeWhile (· != ']') ++ path, stop, behind)
  | c :: rest =>
    if c = '\x7d' ∨ c = ':' ∨ c = '!' then .ok ([], some c, rest)
    else do
      let (path, stop, behind) ← takePath rest
      return (c :: path, stop, behind)
  termination_by s => s.length
  decreasing_by
    · have := (List.dropWhile_suffix (· != ']') (l := rest)).length_le
      simp only [List.length_cons]
      omega
    · simp

/-- The format of a field up to the brace that closes the field, given how many braces are open; whether
it holds braces; and the rest. -/
def takeFormat (depth : Nat) : List Char → Except Fault (List Char × Bool × List Char)
  | [] => .error .unclosedFormat
  | '\x7b' :: rest => do
    let (format, _, behind) ← takeFormat (depth + 1) rest
    return ('\x7b' :: format, true, behind)
  | '\x7d' :: rest =>
    match depth with
    | 0 => .ok ([], false, rest)
    | depth + 1 => do
      let (format, fields, behind) ← takeFormat depth rest
      return ('\x7d' :: format, fields, behind)
  | c :: rest => do
    let (format, fields, behind) ← takeFormat depth rest
    return (c :: format, fields, behind)

/-- The field behind an opening brace, and the rest of the template. -/
def takeField (s : List Char) : Except Fault (Field × List Char) := do
  match ← takePath s with
  | (path, some '\x7d', rest) => return (⟨path, none, [], false⟩, rest)
  | (path, some ':', rest) =>
    let (format, hasFields, rest) ← takeFormat 0 rest
    return (⟨path, none, format, hasFields⟩, rest)
  | (path, some _, rest) =>
    match rest with
    | [] => throw .noConversion
    | [_] => throw .unclosedFormat
    | letter :: '\x7d' :: rest => return (⟨path, some letter, [], false⟩, rest)
    | letter :: ':' :: rest =>
      let (format, hasFields, rest) ← takeFormat 0 rest
      return (⟨path, some letter, format, hasFields⟩, rest)
    | _ => throw .textAfterConversion
  | (_, none, _) => throw .unclosedField

/-- A template in pieces: text, and fields. Reading stops at the first fault, which then is the last
piece. -/
inductive Piece where
  | text (c : Char)
  | field (f : Field)
  | fault (f : Fault)
  deriving DecidableEq, Repr

/-- The pieces of a template; every piece uses up a character, so as many as there are characters are
enough. -/
def piecesWithin : Nat → List Char → List Piece
  | 0, _ => []
  | _, [] => []
  | n + 1, '\x7b' :: rest =>
    match rest with
    | [] => [.fault (.singleBrace '\x7b')]
    | '\x7b' :: rest => .text '\x7b' :: piecesWithin n rest
    | rest =>
      match takeField rest with
      | .error fault => [.fault fault]
      | .ok (field, rest) => .field field :: piecesWithin n rest
  | n + 1, '\x7d' :: rest =>
    match rest with
    | '\x7d' :: rest => .text '\x7d' :: piecesWithin n rest
    | _ => [.fault (.singleBrace '\x7d')]
  | n + 1, c :: rest => .text c :: piecesWithin n rest

/-- The pieces of a template. -/
def pieces (s : List Char) : List Piece := piecesWithin s.length s

section

variable (attributes : Attributes) (band : List Char)

/-- The text of one piece, where `expand` fills the fields within formats. -/
def pieceText (expand : List Char → Except Fault (List Char)) : Piece → Except Fault (List Char)
  | .text c => .ok [c]
  | .fault fault => .error fault
  | .field f => do
    let thing ← fieldThing attributes f.path band
    let thing ← match f.conversion with
      | some letter => thing.convert letter
      | none => pure thing
    let format ← if f.hasFields then expand f.format else pure f.format
    thing.formatted format

/-- Fills a template whose fields may be nested `depth` deep. -/
def fillWithin : (depth : Nat) → List Char → Except Fault (List Char)
  | 0, _ => .error .nestedTooDeeply
  | depth + 1, s => do
    return (← (pieces s).mapM (pieceText attributes band (fillWithin depth))).flatten

end

/-- Puts the name of a band into the fields of a template. Formats may hold fields, and the formats of
those may not. -/
def fill (attributes : Attributes) (template band : String) : Except Fault String :=
  (fillWithin attributes band.toList 2 template.toList).map String.ofList

end Template

end RasterAlgebra
