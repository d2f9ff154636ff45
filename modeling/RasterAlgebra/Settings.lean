import RasterAlgebra.Algebra.Raster
import RasterAlgebra.Decimal.Reader
import RasterAlgebra.Text.LetterCase
/-!
# Settings

What the surroundings of the program can set: the division policy, how much is logged, and how many
parsed formulas are kept. A setting that is missing or blank has its default. The policy is looked at
first, then the level of the log, then the count.
-/

namespace RasterAlgebra

/-- How important a line of the log is, and from where on lines are shown. -/
inductive LogLevel where
  | debug
  | info
  | warning
  | error
  | critical
  deriving DecidableEq, Repr

namespace LogLevel

/-- The name of a level. -/
def name : LogLevel → String
  | debug => "DEBUG"
  | info => "INFO"
  | warning => "WARNING"
  | error => "ERROR"
  | critical => "CRITICAL"

/-- All levels, the least important first. -/
def all : List LogLevel := [debug, info, warning, error, critical]

/-- The level with a given name. -/
def ofName? (name : String) : Option LogLevel := all.find? (·.name == name)

/-- The place of a level among all. -/
def rank : LogLevel → Nat
  | debug => 0
  | info => 1
  | warning => 2
  | error => 3
  | critical => 4

end LogLevel

/-- The settings of the program. -/
structure Settings where
  /-- How many parsed formulas are kept. -/
  cacheSize : Int
  policy : DivisionPolicy
  logLevel : LogLevel
  deriving DecidableEq, Repr

/-- A setting with a value that it cannot have. -/
inductive Settings.Error where
  | notOneOf (key : String) (choices : List String) (value : String)
  | notWhole (key : String) (value : String)
  deriving DecidableEq, Repr

/-- The text of an error. -/
def Settings.Error.message : Settings.Error → String
  | notOneOf key choices value =>
    key ++ " must be one of " ++ ", ".intercalate choices ++ ", got " ++ Text.quoted value
  | notWhole key value => key ++ " must be an integer, got " ++ Text.quoted value

namespace Settings

/-- The variable that sets the division policy. -/
def policyVariable : String := "BANDCALC_DIVISION_POLICY"

/-- The variable that sets the level of the log. -/
def logVariable : String := "BANDCALC_LOG_LEVEL"

/-- The variable that sets how many parsed formulas are kept. -/
def cacheVariable : String := "BANDCALC_PROGRAM_CACHE_MAX"

/-- All variables that set something. -/
def variableNames : List String := [policyVariable, logVariable, cacheVariable]

/-- The settings where nothing is set. -/
def default : Settings := ⟨256, .ieee, .warning⟩

/-- A variable's value without blanks around it, empty if the variable is missing. -/
def stripped (environ : List (String × String)) (key : String) : String :=
  Text.strip ((environ.lookup key).getD "")

/-- The division policy that is set, in any letter case. -/
def readPolicy (raw : String) : Except Error DivisionPolicy :=
  let name := Text.toLower raw
  if name = "" then .ok default.policy
  else match DivisionPolicy.ofName? name with
    | some policy => .ok policy
    | none => .error (.notOneOf policyVariable (DivisionPolicy.all.map (·.name)) name)

/-- The level of the log that is set, in any letter case. -/
def readLogLevel (raw : String) : Except Error LogLevel :=
  let name := Text.toUpper raw
  if name = "" then .ok default.logLevel
  else match LogLevel.ofName? name with
    | some level => .ok level
    | none => .error (.notOneOf logVariable (LogLevel.all.map (·.name)) name)

/-- How many parsed formulas are kept: at least one. -/
def readCacheSize (raw : String) : Except Error Int :=
  if raw = "" then .ok default.cacheSize
  else match Decimal.readInt? raw with
    | some n => .ok (max 1 n)
    | none => .error (.notWhole cacheVariable raw)

/-- The settings that a list of variables makes. -/
def load (environ : List (String × String)) : Except Error Settings := do
  let policy ← readPolicy (stripped environ policyVariable)
  let logLevel ← readLogLevel (stripped environ logVariable)
  let cacheSize ← readCacheSize (stripped environ cacheVariable)
  return { cacheSize, policy, logLevel }

end Settings

end RasterAlgebra
