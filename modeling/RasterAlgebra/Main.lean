import RasterAlgebra.CommandLine
/-!
# The program

Everything that touches the world: the variables, the files of the bands, the two outputs, and the file in
which a grid is saved. What is done is decided before, by a report.
-/

namespace RasterAlgebra.CommandLine

/-- The variables of the surroundings that set something. -/
def readVariables : IO (List (String × String)) :=
  Settings.variableNames.filterMapM fun name => do
    return (← IO.getEnv name).map fun value => (name, value)

/-- The system's code for a path that is too long. Codes of errors are negative. -/
def longPathCode : UInt32 := -36

/-- What is at a path that the system does not give access to: a file that is kept closed, or nothing that
could be looked up. -/
def findClosed (path : Path) : IO Finding := do
  try
    discard <| IO.FS.realPath path.text
    return .unopened
  catch _ => return .forbidden

/-- What is at a path. -/
def find (path : Path) : IO Finding := do
  try
    return .file (← IO.FS.readBinFile path.text).toList
  catch
    | .invalidArgument _ code _ => return if code = longPathCode then .tooLong else .nothing
    | .permissionDenied .. => findClosed path
    | _ => return .nothing

/-- The files at the given paths, as far as they can be read. -/
def readFiles (paths : List Path) : IO FileReader := do
  let found ← paths.mapM fun path => return (path, ← find path)
  return fun path => (found.lookup path).getD .nothing

/-- Does what a report says. -/
def Effect.perform : Effect → IO Unit
  | .print line => IO.println line
  | .note line => IO.eprintln line
  | .save path g => IO.FS.writeBinFile path.text g.arrayFile.toByteArray

/-- Does what the reports of a run say, and gives the code of its end. -/
def Report.perform (report : Report) : IO UInt32 := do
  report.effects.forM Effect.perform
  return report.code.toUInt32

end RasterAlgebra.CommandLine

open RasterAlgebra CommandLine in
/-- Runs the program. -/
def main (arguments : List String) : IO UInt32 := do
  match Settings.load (← readVariables) with
  | .error e =>
    IO.eprintln e.message
    return 1
  | .ok settings =>
    match read settings.logLevel arguments with
    | .error stop => stop.report.perform
    | .ok command =>
      match command.run settings.policy (← readFiles command.paths) with
      | .ok report => report.perform
      | .error error =>
        IO.eprintln error.message
        return 1
