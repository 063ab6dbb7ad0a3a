import Vivarium.CommandLine.Help
import Vivarium.Draw.Generator
import Vivarium.Lineage
import Vivarium.World.Interrupted

/-!
# Headless runs

A whole invocation as a function: from the words of the command line, the
environment and what the files hold to what is printed, what is logged and the
exit code. A fault ends the program in the middle of a run; what was printed and
logged before it stays.
-/
namespace Vivarium.Headless

/-- What an invocation finds around it. -/
structure Surroundings where
  environment : List (String × String)
  /-- The text of a file, if it can be read. -/
  fileText : String → Option String
  /-- Whether a file can be opened for appending. -/
  canAppend : String → Bool
  /-- The seed of a world that is given none. -/
  entropy : Nat

/-- Why no world is run. -/
inductive Refusal where
  | unreadableConfig (path : String)
  | badConfig (path : String)
  | closedLog (path : String)
  | invalidConfig
  deriving DecidableEq, Repr

def Refusal.message : Refusal → String
  | unreadableConfig path => "failed to read config " ++ path
  | badConfig path => "failed to parse config " ++ path
  | closedLog path => "failed to open lineage log " ++ path
  | invalidConfig => "invalid configuration"

/-- How an invocation ends. -/
inductive Ending where
  | success
  | refused (reason : Refusal)
  | usage (error : CommandLine.UsageError)
  | fault (fault : Fault)
  deriving DecidableEq, Repr

/-- The exit code of an ending. Help and version are no errors. -/
def Ending.exitCode : Ending → Nat
  | success => 0
  | refused _ => 1
  | usage .helpAsked => 0
  | usage .versionAsked => 0
  | usage _ => 2
  | fault _ => 101

/-- What an invocation leaves behind. -/
structure Result where
  ending : Ending
  printed : List String
  /-- The log opened and the births to append to it. -/
  log : Option (String × List BirthRecord)

/-- Put what the command line sets in place of what the configuration says. -/
def override (options : CommandLine.Options) (config : Config) : Config :=
  { config with
    worldWidth := options.width.getD config.worldWidth
    worldHeight := options.height.getD config.worldHeight
    orgAmount := options.orgAmount.getD config.orgAmount
    iterationsPerRun := options.iterations.getD config.iterationsPerRun
    rngSeed := options.seed.or config.rngSeed }

def loadConfig (fileText : String → Option String) (options : CommandLine.Options) :
    Except Refusal Config :=
  match options.config with
  | none => .ok (override options .standard)
  | some path =>
    match fileText path with
    | none => .error (.unreadableConfig path)
    | some text =>
      match Config.codec.ofText text with
      | .error _ => .error (.badConfig path)
      | .ok config => .ok (override options config)

/-- Run so many times. The summaries come newest first, then the births kept and the
fault that ended the runs, if one did. -/
def runMany {ρ : Type} [DrawSource ρ] : (runs : Nat) → (summaries : List RunSummary) → World ρ →
    List RunSummary × KeptBirths × Option Fault
  | 0, summaries, world => (summaries, world.lineage, none)
  | runs + 1, summaries, world =>
    match world.run with
    | .error fault => (summaries, world.birthsInRun, some fault)
    | .ok (summary, world) => runMany runs (summary :: summaries) world

def runConfig (options : CommandLine.Options) (config : Config) (entropy : Nat) : Result :=
  let log (births : List BirthRecord) := options.lineage.map fun path => (path, births)
  let source := Generator.ofSeed (config.rngSeed.getD entropy)
  match World.create config source options.lineage.isSome with
  | .error fault => { ending := .fault fault, printed := [], log := log [] }
  | .ok (.error _) => { ending := .refused .invalidConfig, printed := [], log := log [] }
  | .ok (.ok world) =>
    let (summaries, births, fault) := runMany options.runs [] world
    { ending := match fault with
        | none => .success
        | some fault => .fault fault
      printed := if options.json then summaries.reverse.map (·.line) else []
      log := log (births.getD []).reverse }

/-- What is printed instead of a run. -/
def usagePrinted (environment : List (String × String)) : CommandLine.UsageError → List String
  | .helpAsked => [CommandLine.helpText environment]
  | .versionAsked => [CommandLine.versionText]
  | _ => []

def invoke (surroundings : Surroundings) (words : List String) : Result :=
  match CommandLine.parse surroundings.environment words with
  | .error error =>
    { ending := .usage error, printed := usagePrinted surroundings.environment error, log := none }
  | .ok options =>
    match loadConfig surroundings.fileText options with
    | .error reason => { ending := .refused reason, printed := [], log := none }
    | .ok config =>
      match options.lineage.filter (!surroundings.canAppend ·) with
      | some path => { ending := .refused (.closedLog path), printed := [], log := none }
      | none => runConfig options config surroundings.entropy

end Vivarium.Headless
