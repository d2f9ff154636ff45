import RasterAlgebra.CommandLine.Options
import RasterAlgebra.Text.DecimalDigit
/-!
# Arguments of the command line

Arguments are looked at twice. First every argument is told apart by its looks: an option, also shortened
as far as it stays unique, the divider behind which there are no more options, or a plain argument. Then
they are taken from left to right: an option takes the plain argument behind it as its value unless a
value is attached to it, the first plain argument that is left is the formula, and nothing may be left
after that.
-/

namespace RasterAlgebra.CommandLine

/-- What an argument is by its looks. -/
inductive Look where
  | plain
  /-- Two dashes alone: all that follows is plain. -/
  | divider
  /-- An option, perhaps with a value attached to it. -/
  | flag (flag : Flag) (attached : Option String)
  /-- Something with a dash that is no option. -/
  | unknown
  deriving DecidableEq, Repr

/-! ## Looks -/

/-- Whether a text behind a dash is a number of decimal digits, perhaps with a point before the last ones.
A single line end may stand behind it. -/
def isUnsignedNumber (s : List Char) : Bool :=
  let isDigit (c : Char) := (Text.decimalDigit? c).isSome
  let body := if s.getLast? = some '\n' then s.dropLast else s
  match body.dropWhile isDigit with
  | [] => !body.isEmpty
  | '.' :: fraction => !fraction.isEmpty && fraction.all isDigit
  | _ => false

/-- What is attached to the short form of the option for help, if anything is. The short form can be
repeated behind itself, and other letters say nothing. -/
def helpAttachment : List Char → Option String
  | 'h' :: rest => helpAttachment rest
  | '=' :: value => some (String.ofList value)
  | '-' :: rest => some (String.ofList ('-' :: rest))
  | _ => none

/-- The options that begin with a text. -/
def flagsFrom (start : String) : List Flag :=
  Flag.all.filter fun flag => start.toList.isPrefixOf flag.name.toList

/-- The looks of an argument that starts with a dash and is no option. -/
def lookBehindDash (rest : List Char) : Look :=
  if isUnsignedNumber rest || rest.contains ' ' then .plain else .unknown

/-- The looks of an argument before the divider. -/
def lookOf (argument : String) : Except UsageError Look :=
  match argument.toList with
  | '-' :: 'h' :: rest => .ok (.flag .help (helpAttachment rest))
  | ['-'] => .ok .plain
  | '-' :: '-' :: rest =>
    let (name, attached) := Options.splitEquals argument
    match Flag.all.find? (·.name == name) with
    | some flag => .ok (.flag flag attached)
    | none =>
      match flagsFrom name with
      | [] => .ok (lookBehindDash ('-' :: rest))
      | [flag] => .ok (.flag flag attached)
      | flags => .error (.ambiguous argument flags)
  | '-' :: rest => .ok (lookBehindDash rest)
  | _ => .ok .plain

/-- The looks of all arguments. -/
def looks : List String → Except UsageError (List (String × Look))
  | [] => .ok []
  | argument :: rest =>
    if argument = "--" then .ok ((argument, .divider) :: rest.map (·, .plain))
    else do
      let look ← lookOf argument
      return (argument, look) :: (← looks rest)

/-! ## Taking arguments -/

/-- Why the arguments are no command: help is asked for, or they are wrong. -/
inductive Stop where
  | help
  | misuse (error : UsageError)
  deriving DecidableEq, Repr

/-- What was taken from the arguments so far. -/
structure Taken where
  formula : Option String
  options : Options
  /-- The arguments that nothing took. -/
  extras : List String

namespace Taken

/-- Leaves an argument to nothing. -/
def leave (t : Taken) (argument : String) : Taken := { t with extras := t.extras ++ [argument] }

/-- Takes a plain argument as the formula if there is none. -/
def offer (t : Taken) (argument : String) : Taken :=
  if t.formula.isNone then { t with formula := some argument } else t.leave argument

/-- Gives an option its value. -/
def setOption (t : Taken) (flag : Flag) (value : String) : Except Stop Taken :=
  match t.options.set flag value with
  | .ok options => .ok { t with options }
  | .error fault => .error (.misuse (.badValue flag fault))

end Taken

/-- Takes arguments from left to right. The divider is dropped next to the formula that it is taken with,
and otherwise it is taken by nothing. -/
def take : List (String × Look) → Taken → Except Stop Taken
  | [], t => .ok t
  | (x, .plain) :: (y, .divider) :: rest, t =>
    if t.formula.isNone then take rest (t.offer x) else take ((y, .divider) :: rest) (t.leave x)
  | (x, .plain) :: rest, t => take rest (t.offer x)
  | (x, .divider) :: (y, .plain) :: rest, t =>
    if t.formula.isNone then take rest (t.offer y) else take ((y, .plain) :: rest) (t.leave x)
  | (x, .divider) :: rest, t => take rest (t.leave x)
  | (x, .unknown) :: rest, t => take rest (t.leave x)
  | (_, .flag .help none) :: _, _ => .error .help
  | (_, .flag .help (some value)) :: _, _ => .error (.misuse (.ignoredValue .help value))
  | (_, .flag flag (some value)) :: rest, t => do take rest (← t.setOption flag value)
  | (_, .flag flag none) :: (value, .plain) :: rest, t => do take rest (← t.setOption flag value)
  | (_, .flag flag none) :: _, _ => .error (.misuse (.noValue flag))

/-- What the program is asked to do: evaluate a formula. -/
structure Command where
  formula : String
  options : Options

/-- The command that arguments make. -/
def read (logLevel : LogLevel) (arguments : List String) : Except Stop Command := do
  let looks ← (looks arguments).mapError .misuse
  let taken ← take looks ⟨none, .default logLevel, []⟩
  match taken.formula with
  | none => throw (.misuse .noFormula)
  | some formula =>
    if taken.extras.isEmpty then return ⟨formula, taken.options⟩
    else throw (.misuse (.unrecognized taken.extras))

end RasterAlgebra.CommandLine
