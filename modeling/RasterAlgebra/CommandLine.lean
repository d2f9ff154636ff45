import RasterAlgebra.CommandLine.Arguments
import RasterAlgebra.FileSource
/-!
# The command line

What the program does when it is called: it evaluates a formula with the bands in files, prints the value,
and may save a grid. All that it does is a `Report`: lines for the two outputs, files to save, and the
code with which it ends. Along the way it writes to a log, whose lines are shown from a level on.
-/

namespace RasterAlgebra.CommandLine

/-! ## Log -/

/-- The parts of the program that write to the log. -/
inductive Topic where
  | parser
  | evaluator
  | raster
  | cli
  deriving DecidableEq, Repr

/-- The name of a part. -/
def Topic.name : Topic → String
  | parser => "bandcalc.parser"
  | evaluator => "bandcalc.evaluator"
  | raster => "bandcalc.raster"
  | cli => "bandcalc.cli"

/-- An entry of the log. -/
structure LogEntry where
  level : LogLevel
  topic : Topic
  message : String
  deriving DecidableEq, Repr

/-- An entry as it is shown. -/
def LogEntry.text (e : LogEntry) : String :=
  e.level.name ++ " " ++ e.topic.name ++ ": " ++ e.message

/-- The entries about the faults of a formula. -/
def faultEntries (formula : String) (faults : List Fault) : List LogEntry :=
  let each := faults.map fun fault => ⟨.debug, .parser, "Parse error: " ++ fault.diagnostic.text⟩
  let count := Nat.repr faults.length ++ " syntax error(s)"
  if faults.isEmpty then []
  else each ++ [⟨.debug, .evaluator, "Not evaluating " ++ Text.quoted formula ++ ": " ++ count⟩]

/-- The entries about an event. A file that is there is read when its band is asked for. -/
def eventEntries [Host] (source : FileSource) (files : FileReader) : Event → List LogEntry
  | .requested band =>
    let loading := match source.pathFor band with
      | .ok path =>
        if (files path).isFile then
          [⟨.debug, .raster, "Loading band " ++ band ++ " from " ++ path.text⟩]
        else []
      | .error _ => []
    ⟨.debug, .evaluator, "Resolving band " ++ band⟩ :: loading
  | .unavailable band error =>
    [⟨.warning, .evaluator, "Raster reading operation failed for " ++ band ++ ": " ++ error.text⟩]
  | .stopped statement failure =>
    [⟨.debug, .evaluator, "Program stopped at " ++ statement.text ++ ": " ++ failure.message⟩]
  | .outOfRoom => [⟨.warning, .evaluator, "Expression too deep to evaluate"⟩]

/-! ## Reports -/

/-- What the program does to the world. -/
inductive Effect where
  /-- Prints a line to the standard output. -/
  | print (line : String)
  /-- Prints a line to the standard error output. -/
  | note (line : String)
  /-- Saves the samples of a grid in an array file. -/
  | save (path : Path) (g : Grid)

/-- What the program does, in order, and the code with which it ends. -/
structure Report where
  effects : List Effect
  code : Nat

/-- The notes that entries of the log make from a level on. -/
def notes (least : LogLevel) (entries : List LogEntry) : List Effect :=
  (entries.filter fun e => least.rank ≤ e.level.rank).map fun e => .note e.text

/-- The path of an array file, with the ending of its name. -/
def arrayPath (p : Path) : Path :=
  .ofText (if ".npy".toList.isSuffixOf p.text.toList then p.text else p.text ++ ".npy")

/-- The files that a command reads. -/
def Options.source (o : Options) : FileSource :=
  { directory := o.directory, template := o.template, cellTypes := o.cellTypes, noData := o.noData
    paths := o.paths }

/-- The paths of the bands that a command names. -/
def Command.paths [Host] (c : Command) : List Path :=
  (parse c.formula).program.bands.filterMap fun band => (c.options.source.pathFor band).toOption

/-- What is done with the value of a formula. -/
def Options.finish (o : Options) (v : Value) : Report :=
  let shown := Effect.print v.inspect
  match v, o.output with
  | .error _, _ => ⟨[shown], 1⟩
  | _, none => ⟨[shown], 0⟩
  | .raster g, some path =>
    let wrote : LogEntry :=
      ⟨.info, .cli, "Wrote " ++ g.extentsText ++ " result to " ++ path.text⟩
    ⟨shown :: .save (arrayPath path) g :: notes o.logLevel [wrote], 0⟩
  | _, some _ =>
    ⟨[shown, .note ("--output needs a raster result, got " ++ v.kind.name)], 1⟩

/-- Carries out a command. -/
def Command.run [Host] (c : Command) (policy : DivisionPolicy) (files : FileReader) :
    Except FileSource.Error Report := do
  let source := c.options.source
  let outcome ← source.run policy files c.formula
  let entries := faultEntries c.formula (parse c.formula).faults ++
    outcome.events.flatMap (eventEntries source files)
  let report := c.options.finish outcome.value
  return { report with effects := notes c.options.logLevel entries ++ report.effects }

/-- How the program is called. -/
def usage : String := "usage: bandcalc [options] expression"

/-- What the options are for. -/
def helpText : String :=
  "\n".intercalate [
    usage,
    "",
    "Evaluate a band-math formula against bands stored as .npy files.",
    "",
    "  expression             formula such as '(B5 - B4) / (B5 + B4);'",
    "  -h, --help             show this help",
    "  --bands DIRECTORY      directory of the files of bands, by default the current one",
    "  --pattern PATTERN      pattern of file names, with '\x7bband\x7d' for the band",
    "  --band BAND=PATH       file of a single band",
    "  --cell-type BAND=TYPE  cell type of a single band",
    "  --no-data NUMBER       no-data value of all bands",
    "  --output FILE          file in which a raster is saved",
    "  --log-level LEVEL      least level of the log entries that are shown"]

/-- What is done instead of a command. -/
def Stop.report : Stop → Report
  | .help => ⟨[.print helpText], 0⟩
  | .misuse error => ⟨[.note usage, .note ("bandcalc: error: " ++ error.message)], 2⟩

/-- Everything that the program does with its arguments. -/
def perform [Host] (settings : Settings) (files : FileReader) (arguments : List String) :
    Except FileSource.Error Report :=
  match read settings.logLevel arguments with
  | .ok command => command.run settings.policy files
  | .error stop => .ok stop.report

end RasterAlgebra.CommandLine
