import RowSql.Command
import Std.Time.DateTime.Timestamp
/-!
# Main — the program

What a command can find is collected: the files at its paths, standard input if it reads it, and the time.  What
it leaves is written.
-/
namespace RowSql

/-- What is said of a path that cannot be read. -/
def whyUnreadable : IO.Error → String
  | .noFileOrDirectory _ _ _ => Files.notFound
  | e => toString e

/-- What is found at some paths. -/
def readPaths (paths : List String) : IO (List (String × Except String (List UInt8))) :=
  paths.mapM fun (path : String) => do
    match ← (IO.FS.readBinFile path).toBaseIO with
    | .ok bytes => return (path, .ok bytes.toList)
    | .error e => return (path, .error (whyUnreadable e))

/-- The files of what was found. -/
def filesOf (found : List (String × Except String (List UInt8))) : Files := fun path =>
  (found.lookup path).getD (.error Files.notFound)

/-- The files that a command looks for: those that it names, then those that its configuration names. -/
def collectFiles (c : Command) : IO Files := do
  let named ← readPaths (c.paths fun _ => .error Files.notFound)
  return filesOf (← readPaths (c.paths (filesOf named)))

/-- The current time. -/
def currentMoment : IO Calendar.Moment := do
  let seconds := (← Std.Time.Timestamp.now).toSecondsSinceUnixEpoch.val
  return (Calendar.Moment.ofSeconds? seconds).getD default

/-- What a command finds. -/
def collect (c : Command) : IO Surroundings := do
  let input ← if c.readsInput then (← IO.getStdin).readBinToEnd else pure ByteArray.empty
  return ⟨← collectFiles c, input.toList, ← currentMoment⟩

/-- Writes what a command left. -/
def leave (o : Outcome) : IO UInt32 := do
  IO.print o.output
  (← IO.getStdout).flush
  o.message.forM IO.eprintln
  return o.exit.toUInt32

end RowSql

open RowSql in
/-- **The program.** -/
def main (words : List String) : IO UInt32 := do
  let config := (← IO.getEnv Command.configVariable).getD Command.defaultConfig
  match Command.ofWords config words with
  | .ok c => leave (c.perform (← collect c))
  | .error r => leave r.outcome
