import RasterAlgebra.Literal.Lexeme
/-!
# Reading literals

Lexemes make up an expression, and some expressions write a value: a number can have one sign, and a real
number and an imaginary one can be added up; parentheses without a comma only group. `Literal.read` reads
a text and tells why there is no value.
-/

namespace RasterAlgebra.Literal

/-! ## Expressions -/

/-- How a value is written. -/
inductive Expression where
  | constant (v : Literal)
  | signed (negative : Bool) (e : Expression)
  | sum (negative : Bool) (left right : Expression)
  | tuple (items : List Expression)
  | list (items : List Expression)
  | set (items : List Expression)
  | dictionary (entries : List (Expression × Expression))
  /-- Anything else, such as a name. -/
  | other

/-- The constant that a word is, or something else. -/
def Expression.ofWord : String → Expression
  | "None" => constant .nothing
  | "True" => constant (.truth true)
  | "False" => constant (.truth false)
  | _ => other

/-- What a quotation is. -/
def Expression.ofQuotation : Quotation → Expression
  | .text codes => constant (.text codes)
  | .bytes bs => constant (.bytes bs)
  | .formatted => other

/-- The quotations that follow one, joined to it, and the rest. -/
def joinQuotations? (q : Quotation) : List Lexeme → Option (Quotation × List Lexeme)
  | .quotation next :: rest => do joinQuotations? (← q.join? next) rest
  | rest => some (q, rest)

/-- Whether the first lexeme is a given mark. -/
def startsWith (c : Char) : List Lexeme → Bool
  | .mark d :: _ => d == c
  | _ => false

mutual
/-- Reads an expression. Every call uses up one unit of `fuel`. -/
def expression? : (fuel : Nat) → List Lexeme → Option (Expression × List Lexeme)
  | 0, _ => none
  | fuel + 1, s => do
    let (left, rest) ← operand? fuel s
    sum? fuel left rest
/-- Reads what is added to an expression. -/
def sum? : (fuel : Nat) → Expression → List Lexeme → Option (Expression × List Lexeme)
  | 0, _, _ => none
  | fuel + 1, left, s =>
    match s with
    | .mark '+' :: rest => do
      let (right, rest) ← operand? fuel rest
      sum? fuel (.sum false left right) rest
    | .mark '-' :: rest => do
      let (right, rest) ← operand? fuel rest
      sum? fuel (.sum true left right) rest
    | rest => some (left, rest)
/-- Reads an expression with signs in front of it. -/
def operand? : (fuel : Nat) → List Lexeme → Option (Expression × List Lexeme)
  | 0, _ => none
  | fuel + 1, s =>
    match s with
    | .mark '+' :: rest => (operand? fuel rest).map fun (e, rest) => (.signed false e, rest)
    | .mark '-' :: rest => (operand? fuel rest).map fun (e, rest) => (.signed true e, rest)
    | .number n :: rest => some (.constant n, rest)
    | .ellipsis :: rest => some (.constant .ellipsis, rest)
    | .quotation q :: rest =>
      (joinQuotations? q rest).map fun (q, rest) => (.ofQuotation q, rest)
    | .word "set" :: .mark '(' :: .mark ')' :: rest => some (.set [], rest)
    | .word s :: rest => some (.ofWord s, rest)
    | .mark '(' :: rest => do
      let (items, comma, rest) ← items? fuel ')' rest
      match items, comma with
      | [item], false => return (item, rest)
      | items, _ => return (.tuple items, rest)
    | .mark '[' :: rest => do
      let (items, _, rest) ← items? fuel ']' rest
      return (.list items, rest)
    | .mark '\x7b' :: .mark '\x7d' :: rest => some (.dictionary [], rest)
    | .mark '\x7b' :: rest => do
      let (first, rest) ← expression? fuel rest
      match rest with
      | .mark ':' :: rest =>
        let (item, rest) ← expression? fuel rest
        let (entries, rest) ← moreEntries? fuel rest
        return (.dictionary ((first, item) :: entries), rest)
      | rest =>
        let (items, _, rest) ← moreItems? fuel '\x7d' rest
        return (.set (first :: items), rest)
    | _ => none
/-- Reads expressions with commas between them, up to the mark that closes them. A comma may stand behind
the last one; whether it does decides if a single one in parentheses is a tuple. -/
def items? : (fuel : Nat) → (close : Char) → List Lexeme →
    Option (List Expression × Bool × List Lexeme)
  | 0, _, _ => none
  | fuel + 1, close, s =>
    if startsWith close s then some ([], true, s.drop 1)
    else do
      let (first, rest) ← expression? fuel s
      let (items, comma, rest) ← moreItems? fuel close rest
      return (first :: items, comma, rest)
/-- Reads what stands behind an expression, up to the mark that closes it: nothing, a comma, or commas
with expressions behind them. -/
def moreItems? : (fuel : Nat) → (close : Char) → List Lexeme →
    Option (List Expression × Bool × List Lexeme)
  | 0, _, _ => none
  | fuel + 1, close, s =>
    if startsWith close s then some ([], false, s.drop 1)
    else match s with
    | .mark ',' :: rest => items? fuel close rest
    | _ => none
/-- Reads what stands behind an entry of a dictionary, up to its end. -/
def moreEntries? : (fuel : Nat) → List Lexeme → Option (List (Expression × Expression) × List Lexeme)
  | 0, _ => none
  | fuel + 1, s =>
    match s with
    | .mark '\x7d' :: rest | .mark ',' :: .mark '\x7d' :: rest => some ([], rest)
    | .mark ',' :: rest => do
      let (key, rest) ← expression? fuel rest
      let .mark ':' :: rest := rest | none
      let (item, rest) ← expression? fuel rest
      let (entries, rest) ← moreEntries? fuel rest
      return ((key, item) :: entries, rest)
    | _ => none
end

/-- The expression that lexemes make up. Without parentheses around it, it may be a tuple. -/
def wholeExpression? (lexemes : List Lexeme) : Option Expression := do
  let body := match lexemes.reverse with
    | .lineEnd :: rest => rest.reverse
    | _ => lexemes
  let closed := body ++ [.mark ')']
  match ← items? (4 * closed.length + 4) ')' closed with
  | ([], _, _) => none
  | ([item], false, []) => return item
  | (items, _, []) => return .tuple items
  | _ => none

/-! ## Values -/

/-- Why a text writes no value. -/
inductive Error where
  /-- The text is no expression. -/
  | misspelt
  /-- The expression is not one of those that write a value. -/
  | valueless
  /-- A key of a dictionary or an item of a set is a value that can change. -/
  | changeableKey
  /-- A whole number in a sum is too large for a real number. -/
  | tooLarge
  deriving DecidableEq, Repr

/-- The number that an expression is, without a sign. -/
def Expression.number? : Expression → Option Literal
  | constant (.whole n) => some (.whole n)
  | constant (.real x) => some (.real x)
  | constant (.complex re im) => some (.complex re im)
  | _ => none

/-- The opposite of a number. -/
def negate : Literal → Literal
  | whole n => whole (-n)
  | real x => real (-x)
  | complex re im => complex (-re) (-im)
  | v => v

/-- The number that an expression is, with a sign or without. -/
def Expression.signedNumber? : Expression → Option Literal
  | signed negative e => e.number?.map fun n => if negative then negate n else n
  | e => e.number?

/-- The sum or the difference of a real number and a complex one. -/
def addComplex (negative : Bool) (x re im : Scalar) : Literal :=
  if negative then complex (x - re) (0 - im) else complex (x + re) (0 + im)

/-- The value of a sum: of a real number and an imaginary one. -/
def sumOf (negative : Bool) : Option Literal → Option Literal → Except Error Literal
  | some (whole n), some (complex re im) =>
    let x : Scalar := .ofInt n
    if x.isInf then .error .tooLarge else .ok (addComplex negative x re im)
  | some (real x), some (complex re im) => .ok (addComplex negative x re im)
  | _, _ => .error .valueless

mutual
/-- The value that an expression writes. -/
def Expression.value : Expression → Except Error Literal
  | .constant v => .ok v
  | .signed negative e =>
    match (Expression.signed negative e).signedNumber? with
    | some n => .ok n
    | none => .error .valueless
  | .sum negative left right => sumOf negative left.signedNumber? right.number?
  | .tuple items => (valuesOf items).map .tuple
  | .list items => (valuesOf items).map .list
  | .set items => (keysOf [] items).map .set
  | .dictionary entries => (entriesOf [] entries).map .dictionary
  | .other => .error .valueless
/-- The values that expressions write. -/
def valuesOf : List Expression → Except Error (List Literal)
  | [] => .ok []
  | e :: rest => do return (← e.value) :: (← valuesOf rest)
/-- The items of a set, added to those in front of them. -/
def keysOf (found : List Literal) : List Expression → Except Error (List Literal)
  | [] => .ok found
  | e :: rest => do
    let key ← e.value
    if !key.isKey then throw .changeableKey
    keysOf (if found.any key.same then found else found ++ [key]) rest
/-- The entries of a dictionary, put behind those in front of them. -/
def entriesOf (found : List (Literal × Literal)) :
    List (Expression × Expression) → Except Error (List (Literal × Literal))
  | [] => .ok found
  | (key, item) :: rest => do
    let key ← key.value
    let item ← item.value
    if !key.isKey then throw .changeableKey
    entriesOf (put found key item) rest
end

/-- A text in which every line ends with a line feed alone. -/
def plainLines : List Char → List Char
  | '\r' :: '\n' :: rest => '\n' :: plainLines rest
  | '\r' :: rest => '\n' :: plainLines rest
  | c :: rest => c :: plainLines rest
  | [] => []

/-- The expression that a text is. Blanks in front of it say nothing, and no text with a null character is
an expression. -/
def readExpression? (s : List Char) : Option Expression :=
  if s.contains '\x00' then none
  else (lexemes? (plainLines (s.dropWhile fun c => c == ' ' || c == '\t'))).bind wholeExpression?

/-- The value that a text writes. -/
def read (s : List Char) : Except Error Literal :=
  match readExpression? s with
  | some e => e.value
  | none => .error .misspelt

end RasterAlgebra.Literal
