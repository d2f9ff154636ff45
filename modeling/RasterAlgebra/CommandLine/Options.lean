import RasterAlgebra.CellType
import RasterAlgebra.Path
import RasterAlgebra.Settings
/-!
# Options of the command line

The options that the program knows, what they set, and what can be wrong with an argument. All options
but the one for help take a value. An option that is given again replaces what it said before; the paths
and the cell types of bands are kept band by band.
-/

namespace RasterAlgebra.CommandLine

/-- The options. -/
inductive Flag where
  | help
  | bands
  | pattern
  | band
  | cellType
  | noData
  | output
  | logLevel
  deriving DecidableEq, Repr

namespace Flag

/-- All options, in the order in which they are listed. -/
def all : List Flag := [help, bands, pattern, band, cellType, noData, output, logLevel]

/-- An option as it is written. -/
def name : Flag → String
  | help => "--help"
  | bands => "--bands"
  | pattern => "--pattern"
  | band => "--band"
  | cellType => "--cell-type"
  | noData => "--no-data"
  | output => "--output"
  | logLevel => "--log-level"

/-- An option as errors name it, with its short form if there is one. -/
def label : Flag → String
  | help => "-h/" ++ help.name
  | f => f.name

end Flag

/-- What is wrong with the value of an option. -/
inductive ValueFault where
  | noReal (value : String)
  /-- The value is no band and something for it, with a sign of equality between them. -/
  | noPair (form value : String)
  | unknownCellType (name : String)
  | noLevel (name : String)
  deriving DecidableEq, Repr

/-- The text of a fault. -/
def ValueFault.message : ValueFault → String
  | noReal value => "invalid float value: " ++ Text.quoted value
  | noPair form value => "expected " ++ form ++ ", got " ++ Text.quoted value
  | unknownCellType name => "Unknown cell type " ++ Text.quoted name
  | noLevel name =>
    "invalid choice: " ++ Text.quoted name ++ " (choose from " ++
      ", ".intercalate (LogLevel.all.map fun level => Text.quoted level.name) ++ ")"

/-- What is wrong with the arguments. -/
inductive UsageError where
  /-- The beginning of an option that several options begin with. -/
  | ambiguous (argument : String) (flags : List Flag)
  | noValue (flag : Flag)
  /-- A value for an option that takes none. -/
  | ignoredValue (flag : Flag) (value : String)
  | badValue (flag : Flag) (fault : ValueFault)
  | noFormula
  | unrecognized (arguments : List String)
  deriving DecidableEq, Repr

/-- The text of an error. -/
def UsageError.message : UsageError → String
  | ambiguous argument flags =>
    "ambiguous option: " ++ argument ++ " could match " ++ ", ".intercalate (flags.map Flag.name)
  | noValue flag => "argument " ++ flag.label ++ ": expected one argument"
  | ignoredValue flag value =>
    "argument " ++ flag.label ++ ": ignored explicit argument " ++ Text.quoted value
  | badValue flag fault => "argument " ++ flag.label ++ ": " ++ fault.message
  | noFormula => "the following arguments are required: expression"
  | unrecognized arguments => "unrecognized arguments: " ++ " ".intercalate arguments

/-- What the options set. -/
structure Options where
  /-- The directory with the files of bands. -/
  directory : Path
  /-- The template for the names of these files. -/
  template : String
  /-- The files of single bands. -/
  paths : List (String × Path)
  /-- The cell types of single bands. -/
  cellTypes : List (String × CellType)
  noData : Scalar
  /-- Where a grid is saved. -/
  output : Option Path
  logLevel : LogLevel

namespace Options

/-- The options where none are given. -/
def default (logLevel : LogLevel) : Options :=
  { directory := .ofText ".", template := "\x7bband\x7d.npy", paths := [], cellTypes := [], noData := 0
    output := none, logLevel }

/-- A text before and behind its first sign of equality, if there is one. -/
def splitEquals (s : String) : String × Option String :=
  let name := String.ofList (s.toList.takeWhile (· != '='))
  match s.toList.dropWhile (· != '=') with
  | [] => (name, none)
  | _ :: value => (name, some (String.ofList value))

/-- A band and its path. -/
def readPath (value : String) : Except ValueFault (String × Path) :=
  match splitEquals value with
  | (band, some path) =>
    if band = "" ∨ path = "" then .error (.noPair "BAND=PATH" value) else .ok (band, .ofText path)
  | _ => .error (.noPair "BAND=PATH" value)

/-- A band and its cell type. -/
def readCellType (value : String) : Except ValueFault (String × CellType) :=
  match splitEquals value with
  | (band, some name) =>
    if band = "" then .error (.noPair "BAND=TYPE" value)
    else match CellType.ofName? name with
      | some cellType => .ok (band, cellType)
      | none => .error (.unknownCellType name)
  | _ => .error (.noPair "BAND=TYPE" value)

/-- A real number. -/
def readReal (value : String) : Except ValueFault Scalar :=
  match Decimal.readFloat? value with
  | some x => .ok x
  | none => .error (.noReal value)

/-- A level of the log, in any letter case. -/
def readLevel (value : String) : Except ValueFault LogLevel :=
  let name := Text.toUpper value
  match LogLevel.ofName? name with
  | some level => .ok level
  | none => .error (.noLevel name)

/-- Sets an option to a value. What was said last comes first. -/
def set (o : Options) (flag : Flag) (value : String) : Except ValueFault Options :=
  match flag with
  | .help => .ok o
  | .bands => .ok { o with directory := .ofText value }
  | .pattern => .ok { o with template := value }
  | .band => do return { o with paths := (← readPath value) :: o.paths }
  | .cellType => do return { o with cellTypes := (← readCellType value) :: o.cellTypes }
  | .noData => do return { o with noData := ← readReal value }
  | .output => .ok { o with output := some (.ofText value) }
  | .logLevel => do return { o with logLevel := ← readLevel value }

end Options

end RasterAlgebra.CommandLine
