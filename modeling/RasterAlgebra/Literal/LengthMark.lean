import RasterAlgebra.Literal.Lexeme
import RasterAlgebra.Text.Blank
/-!
# Length marks in literals

In old literals a letter `L` stands behind a whole number. `dropLengthMarks` takes these letters out. It
cuts the text loosely, line by line, into numbers, words, quotations and whatever else there is, leaves the
marks away, and writes every other piece where it stood. What stood between pieces becomes blanks, and
line ends that are part of no piece get a backslash.

Cutting fails if brackets, a quotation in several lines or a backslash at the end of a line are left
unfinished, and if a statement steps back to a column where none before it started.
-/

namespace RasterAlgebra.Literal

/-! ## Pieces -/

/-- A place in a text: a line, counted from zero, and a column. -/
structure Place where
  row : Nat
  column : Nat
  deriving DecidableEq, Repr

/-- What a piece is, as far as it matters. -/
inductive PieceKind where
  | number
  | word
  | lineEnd
  /-- The blanks in front of a statement that stands further in than the one before. -/
  | indent
  /-- The step back before a statement that stands further out. -/
  | dedent
  | other
  deriving DecidableEq, Repr

/-- A piece of a text. -/
structure Piece where
  kind : PieceKind
  text : List Char
  start : Place
  stop : Place
  deriving DecidableEq, Repr

/-- Why length marks cannot be taken out. -/
inductive LengthMarkError where
  | unfinished
  | badStep
  /-- A piece would start in front of the end of the one before. -/
  | outOfOrder
  deriving DecidableEq, Repr

/-! ## Numbers, loosely -/

/-- Digits with single underscores between them, and the rest. -/
def looseDigits (base : Nat) : List Char → List Char × List Char
  | [] => ([], [])
  | c :: rest =>
    if Text.isDigit base c || (c == '_' && rest.head?.any (Text.isDigit base)) then
      let (digits, rest) := looseDigits base rest
      (c :: digits, rest)
    else ([], c :: rest)

/-- The same where no underscore can stand at the head. -/
def looseFraction (s : List Char) : List Char × List Char :=
  if s.head?.any Char.isDigit then looseDigits 10 s else ([], s)

/-- A power of ten, if there is one. -/
def loosePower (s : List Char) : List Char × List Char :=
  match s with
  | [] => ([], [])
  | c :: rest =>
    let sign := (rest.take 1).filter fun c => c == '+' || c == '-'
    let (digits, behind) := looseFraction (rest.drop sign.length)
    if (c == 'e' || c == 'E') && !digits.isEmpty then (c :: sign ++ digits, behind) else ([], s)

/-- A `j`, if there is one. -/
def looseUnit (s : List Char) : List Char × List Char :=
  match s with
  | c :: rest => if c == 'j' || c == 'J' then ([c], rest) else ([], s)
  | [] => ([], [])

/-- A number to base ten. Without a point, a power or a `j`, a zero at its head is followed by zeros
only. -/
def looseDecimal (s : List Char) : List Char × List Char :=
  let (digits, behind) := looseFraction s
  let (fraction, behind) := match behind with
    | '.' :: rest =>
      let (fraction, rest) := looseFraction rest
      ('.' :: fraction, rest)
    | _ => ([], behind)
  let (power, behind) := loosePower behind
  let (unit, behind) := looseUnit behind
  let number := digits ++ fraction ++ power ++ unit
  if digits.head? = some '0' ∧ number.length = digits.length then looseZeros s else (number, behind)
where
  /-- Zeros with single underscores between them. -/
  looseZeros (s : List Char) : List Char × List Char := looseDigits 1 s

/-- The number at the head of a text, which may be empty, and the rest. -/
def looseNumber (s : List Char) : List Char × List Char :=
  match s with
  | '0' :: letter :: rest =>
    match base? letter with
    | some base =>
      let (digits, behind) := looseDigits base rest
      if digits.isEmpty then looseDecimal s else ('0' :: letter :: digits, behind)
    | none => looseDecimal s
  | c :: rest =>
    if c.isDigit || (c == '.' && rest.head?.any Char.isDigit) then looseDecimal s else ([], s)
  | [] => ([], [])

/-! ## Quotations, loosely -/

/-- How many quotes end a quotation, and which. -/
structure Ending where
  quote : Char
  triple : Bool
  deriving DecidableEq, Repr

/-- A line up to the end of a quotation, and the rest of it. There is none if the quotation does not end in
the line. -/
def Ending.take? (e : Ending) : List Char → Option (List Char × List Char)
  | [] => none
  | '\\' :: c :: rest =>
    if c = '\n' then none else (e.take? rest).map fun (s, rest) => ('\\' :: c :: s, rest)
  | c :: rest =>
    if c = e.quote && (!e.triple || rest.take 2 == [e.quote, e.quote]) then
      let more := if e.triple then 2 else 0
      some (c :: rest.take more, rest.drop more)
    else (e.take? rest).map fun (s, rest) => (c :: s, rest)

/-- Whether a line ends with a backslash. -/
def isJoined (line : List Char) : Bool :=
  ['\\', '\n'].isSuffixOf line || ['\\', '\r', '\n'].isSuffixOf line

/-- The letters and the quote that a quotation starts with, and its ending. -/
def opening? (s : List Char) : Option (List Char × Ending) :=
  let letters := s.takeWhile readQuotation?.isQuotationLetter
  match s.drop letters.length with
  | quote :: rest =>
    if (quote = '\'' ∨ quote = '"') ∧ (QuotationStyle.ofLetters? letters).isSome then
      if rest.take 2 = [quote, quote] then some (letters ++ [quote, quote, quote], ⟨quote, true⟩)
      else some (letters ++ [quote], ⟨quote, false⟩)
    else none
  | [] => none

/-- What is found at a place of a line where no blank stands. -/
inductive Finding where
  | piece (kind : PieceKind) (text : List Char)
  /-- A quotation that goes on in the next line. -/
  | open (e : Ending)
  /-- A backslash that joins the next line. -/
  | join

/-- Whether a line that ends no quotation ends with a backslash that nothing escapes. -/
def goesOn : List Char → Bool
  | [] => false
  | ['\\', '\n'] => true
  | ['\\', '\r', '\n'] => true
  | '\\' :: _ :: rest => goesOn rest
  | _ :: rest => goesOn rest

/-- The quotation behind its opening. It ends in the line; or it goes on in the next line, for which a
single quote needs a backslash. Otherwise it is none. -/
def quotationBehind? (opening : List Char) (e : Ending) (s : List Char) : Option Finding :=
  match e.take? s with
  | some (content, _) => some (.piece .other (opening ++ content))
  | none => if e.triple || goesOn s then some (.open e) else none

/-- What is found at the head of the rest of a line. -/
def find (s : List Char) : Finding :=
  if s = ['\\', '\n'] ∨ s = ['\\', '\r', '\n'] then .join
  else if s = ['\n'] ∨ s = ['\r', '\n'] then .piece .lineEnd s
  else if s.head? = some '#' then .piece .other (s.takeWhile fun c => c != '\r' && c != '\n')
  else
    let number := (looseNumber s).1
    let quotation := (opening? s).bind fun (opening, e) =>
      quotationBehind? opening e (s.drop opening.length)
    let word := s.takeWhile isWordChar
    if !number.isEmpty then .piece .number number
    else if s.take 3 = ['.', '.', '.'] then .piece .other (s.take 3)
    else quotation.getD (if word.isEmpty then .piece .other (s.take 1) else .piece .word word)

/-! ## Cutting -/

/-- What is known between two lines. -/
structure CutState where
  /-- The pieces so far, the last one first. -/
  pieces : List Piece
  /-- How many more brackets have been opened than closed. -/
  depth : Int
  /-- Whether a backslash joins the next line. -/
  joined : Bool
  /-- The quotation that goes on: how it ends, where it starts, and its text so far. -/
  quotation : Option (Ending × Place × List Char)
  /-- Whether the last quotation in several lines was broken off. Then the next one is too where a line does
  not end with a backslash, even between three quotes. -/
  broken : Bool
  /-- The columns of the statements that the next one stands within, the innermost first. -/
  columns : List Nat

/-- Before the first line. -/
def CutState.start : CutState := ⟨[], 0, false, none, false, [0]⟩

/-- A piece put behind the others, in one line. -/
def CutState.add (state : CutState) (kind : PieceKind) (text : List Char) (row column : Nat) :
    CutState :=
  { state with
    pieces := ⟨kind, text, ⟨row, column⟩, ⟨row, column + text.length⟩⟩ :: state.pieces
    depth :=
      if text.length = 1 ∧ kind = .other then
        if text.any isOpening then state.depth + 1
        else if text.any isClosing then state.depth - 1
        else state.depth
      else state.depth }

/-- Cuts the rest of a line, which starts in a given column. Every piece uses up a character. -/
def cutRest (row : Nat) : (fuel column : Nat) → List Char → CutState → CutState
  | 0, _, _, state => state
  | fuel + 1, column, s, state =>
    let blanks := s.takeWhile isBlank
    let s := s.drop blanks.length
    let column := column + blanks.length
    if s.isEmpty then state
    else match find s with
      | .join => { state with joined := true }
      | .open e => { state with quotation := some (e, ⟨row, column⟩, s) }
      | .piece kind found =>
        cutRest row fuel (column + found.length) (s.drop found.length)
          (state.add kind found row column)

/-- The column that the blanks in front of a statement lead to. -/
def columnBehind (blanks : List Char) : Nat :=
  blanks.foldl
    (fun column c => if c = '\x0c' then 0 else if c = '\t' then (column / 8 + 1) * 8 else column + 1) 0

/-- Steps back to a column. -/
def stepBack (row width column : Nat) : List Nat → List Piece →
    Except LengthMarkError (List Nat × List Piece)
  | [], found => .ok ([], found)
  | inner :: outer, found =>
    if inner ≤ column then .ok (inner :: outer, found)
    else if !outer.contains column then .error .badStep
    else stepBack row width column outer (⟨.dedent, [], ⟨row, width⟩, ⟨row, width⟩⟩ :: found)

/-- Steps in or back to the statement in front of which there are the given blanks. -/
def CutState.step (state : CutState) (row : Nat) (blanks : List Char) :
    Except LengthMarkError CutState := do
  let column := columnBehind blanks
  if state.columns.head?.any (· < column) then
    let state := state.add .indent blanks row 0
    return { state with columns := column :: state.columns }
  let (columns, found) ← stepBack row blanks.length column state.columns state.pieces
  return { state with columns, pieces := found }

/-- Cuts a line that starts a statement, or holds none. -/
def CutState.cutStatement (state : CutState) (row : Nat) (line : List Char) :
    Except LengthMarkError CutState := do
  let blanks := line.takeWhile isBlank
  let rest := line.drop blanks.length
  match rest with
  | [] => return state
  | c :: _ =>
    if c = '#' then
      let comment := trimEnd rest
      let state := state.add .other comment row blanks.length
      return state.add .lineEnd (rest.drop comment.length) row (blanks.length + comment.length)
    else if c = '\r' ∨ c = '\n' then return state.add .lineEnd rest row blanks.length
    else return cutRest row (rest.length + 1) blanks.length rest (← state.step row blanks)
where
  /-- A line without its end. -/
  trimEnd (s : List Char) : List Char :=
    (s.reverse.dropWhile fun c => c == '\r' || c == '\n').reverse

/-- A quotation put behind the other pieces, broken off or not. -/
def CutState.addQuotation (state : CutState) (text : List Char) (start stop : Place) (broken : Bool) :
    CutState :=
  { state with pieces := ⟨.other, text, start, stop⟩ :: state.pieces, quotation := none, broken }

/-- Cuts a line. -/
def CutState.cutLine (state : CutState) (row : Nat) (line : List Char) :
    Except LengthMarkError CutState :=
  match state.quotation with
  | some (e, start, before) =>
    match e.take? line with
    | some (found, rest) =>
      let column := found.length
      .ok (cutRest row (line.length + 1) column rest
        (state.addQuotation (before ++ found) start ⟨row, column⟩ false))
    | none =>
      if (!e.triple || state.broken) && !isJoined line then
        .ok (state.addQuotation (before ++ line) start ⟨row, line.length⟩ true)
      else .ok { state with quotation := some (e, start, before ++ line) }
  | none =>
    if state.depth = 0 ∧ !state.joined then state.cutStatement row line
    else .ok (cutRest row (line.length + 1) 0 line { state with joined := false })

/-- The lines of a text, each with its end. -/
def linesOf : List Char → List (List Char)
  | [] => []
  | c :: rest =>
    if c = '\n' then ['\n'] :: linesOf rest
    else match linesOf rest with
      | [] => [[c]]
      | line :: others => (c :: line) :: others

/-- Whether the last line of a text lacks its end. A line with nothing but a comment needs none. -/
def lacksEnd (line : List Char) : Bool :=
  line.getLast?.any (fun c => c != '\r' && c != '\n') && (line.dropWhile Text.isSpace).head? != some '#'

/-- Cuts the last line. Its end is a piece of its own even if it lacks one, unless the line starts no
statement because it is all blanks. -/
def CutState.cutLast (state : CutState) (row : Nat) (line : List Char) :
    Except LengthMarkError CutState := do
  let starts := state.quotation.isNone && state.depth == 0 && !state.joined
  let state ← state.cutLine row line
  return if lacksEnd line && !(starts && line.all isBlank) then state.add .lineEnd [] row line.length
    else state

/-- Cuts lines from a given one on. -/
def CutState.cutLines (state : CutState) (row : Nat) :
    List (List Char) → Except LengthMarkError CutState
  | [] => .ok state
  | [line] => state.cutLast row line
  | line :: rest => do (← state.cutLine row line).cutLines (row + 1) rest

/-- The pieces of a text. -/
def cut (s : List Char) : Except LengthMarkError (List Piece) := do
  let state ← CutState.start.cutLines 0 (linesOf s)
  if state.quotation.isSome ∨ state.depth ≠ 0 ∨ state.joined then throw .unfinished
  return state.pieces.reverse

/-! ## Writing -/

/-- Pieces without the words `L` behind a number. -/
def dropMarks (behindNumber : Bool) : List Piece → List Piece
  | [] => []
  | p :: rest =>
    if behindNumber && p.kind == .word && p.text == ['L'] then dropMarks true rest
    else p :: dropMarks (p.kind == .number) rest

/-- Blanks, and line ends with a backslash, from one place to another. -/
def gap (start stop : Place) : Except LengthMarkError (List Char) :=
  if stop.row < start.row ∨ stop.row = start.row ∧ stop.column < start.column then .error .outOfOrder
  else
    let column := if stop.row = start.row then start.column else 0
    .ok ((List.replicate (stop.row - start.row) ['\\', '\n']).flatten ++
      List.replicate (stop.column - column) ' ')

/-- Writes pieces where they stood, given the place that has been reached, the blanks in front of the
statements that are open, the innermost first, and whether these blanks are still to be written. -/
def write (reached : Place) (indents : List (List Char)) (lineStart : Bool) :
    List Piece → Except LengthMarkError (List Char)
  | [] => .ok []
  | p :: rest =>
    match p.kind with
    | .indent => write reached (p.text :: indents) lineStart rest
    | .dedent => write p.stop (indents.drop 1) lineStart rest
    | .lineEnd => do
      return (← gap reached p.start) ++ p.text ++
        (← write ⟨p.stop.row + 1, 0⟩ indents true rest)
    | _ =>
      match lineStart, indents with
      | true, indent :: _ => do
        let indented := indent.length ≤ p.start.column
        let reached := if indented then ⟨reached.row, indent.length⟩ else reached
        return (if indented then indent else []) ++ (← gap reached p.start) ++ p.text ++
          (← write p.stop indents false rest)
      | _, _ => do
        return (← gap reached p.start) ++ p.text ++ (← write p.stop indents lineStart rest)

/-- A text without its length marks. -/
def dropLengthMarks (s : List Char) : Except LengthMarkError (List Char) := do
  write ⟨0, 0⟩ [] false (dropMarks false (← cut s))

end RasterAlgebra.Literal
