import Vivarium.Headless
import Vivarium.Lineage.Log

/-!
# The program

Gathers what an invocation depends on, carries it out and puts its result into
effect.
-/
namespace Vivarium

/-- The variables that an invocation looks at, as far as they are set. -/
def readEnvironment : IO (List (String × String)) := do
  let names := CommandLine.environmentSettings.map (·.2)
    ++ [CommandLine.forceStyles, CommandLine.forbidStyles]
  let entries ← names.mapM fun name => do
    return (← IO.getEnv name).map fun text => (name, text)
  return entries.filterMap id

/-- The text of the configuration file, if one is named and can be read. -/
def readConfigFile (options : CommandLine.Options) : IO (Option String) := do
  match options.config with
  | none => return none
  | some path =>
    try
      let text ← IO.FS.readFile path
      return some text
    catch _ => return none

/-- Whether a file can be opened for appending; it exists afterwards. -/
def tryAppend (path : String) : IO Bool := do
  try
    IO.FS.withFile path .append fun _ => pure ()
    return true
  catch _ => return false

/-- Whether the log that the options name can be opened. A configuration that does
not load comes first, so the log is left alone then. -/
def tryLog (options : CommandLine.Options) (text : Option String) : IO Bool := do
  match options.lineage, Headless.loadConfig (fun _ => text) options with
  | some path, .ok _ => tryAppend path
  | _, _ => return true

/-- A seed that differs from run to run. -/
def freshSeed : IO Nat := do
  let bytes ← IO.getRandomBytes 8
  return bytes.toList.foldl (fun seed byte => seed * 256 + byte.toNat) 0

/-- Append the lines of some births to a file. -/
def appendBirths (path : String) (births : List BirthRecord) : IO Unit :=
  IO.FS.withFile path .append fun handle =>
    handle.putStr (births.foldl Lineage.Log.add (.openOn "")).close

/-- What is said about an ending on standard error. -/
def complaint? : Headless.Ending → Option String
  | .success => none
  | .refused reason => some ("Error: " ++ reason.message)
  | .usage .helpAsked => none
  | .usage .versionAsked => none
  | .usage _ => some "error: the command line is not understood; try --help"
  | .fault fault => some fault.message

/-- Put a result into effect. -/
def perform (result : Headless.Result) : IO UInt32 := do
  for text in result.printed do
    IO.print text
  if let some (path, births) := result.log then
    appendBirths path births
  if let some text := complaint? result.ending then
    IO.eprintln text
  return UInt32.ofNat result.ending.exitCode

end Vivarium

open Vivarium in
def main (words : List String) : IO UInt32 := do
  let environment ← readEnvironment
  let (text, open?) ← match CommandLine.parse environment words with
    | .error _ => pure (none, true)
    | .ok options => do
      let text ← readConfigFile options
      let open? ← tryLog options text
      pure (text, open?)
  let entropy ← freshSeed
  perform (Headless.invoke
    { environment, fileText := fun _ => text, canAppend := fun _ => open?, entropy } words)
