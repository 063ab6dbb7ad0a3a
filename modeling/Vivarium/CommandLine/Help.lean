import Vivarium.CommandLine
import Vivarium.Terminal

/-!
# Help and version

The texts shown instead of a run. The help names the variables that settings may
come from, with the values they have. It is laid out with styles for a terminal and
shown without them unless the environment insists; values of variables that hold
control sequences lose those together with the styles.
-/
namespace Vivarium.CommandLine

def versionText : String := "irma 0.1.0\n"

def variableText (environment : List (String × String)) (name : String) : String :=
  "[env: " ++ name ++ "=" ++ (environment.lookup name).getD "" ++ "]"

structure HelpEntry where
  short : Option Char
  long : String
  /-- What stands for the value of a setting. -/
  placeholder : Option String
  about : String

namespace HelpEntry

/-- The short name of an option, or the space it would take. -/
def shortText (entry : HelpEntry) (style : String → String) : String :=
  match entry.short with
  | none => "      "
  | some c => "  " ++ style ("-" ++ String.singleton c) ++ ", "

/-- The names of an option, with the placeholder of its value. -/
def nameText (entry : HelpEntry) (style : String → String) : String :=
  entry.shortText style ++ style ("--" ++ entry.long)
    ++ match entry.placeholder with
      | none => ""
      | some placeholder => " <" ++ placeholder ++ ">"

def column : Nat := 33

def spaces (amount : Nat) : String := String.ofList (List.replicate amount ' ')

/-- A description; its further lines begin below the first one. -/
def aboutText (entry : HelpEntry) : String :=
  ("\n" ++ spaces column).intercalate (entry.about.splitOn "\n")

def line (entry : HelpEntry) : String :=
  entry.nameText Terminal.bold ++ spaces (column - (entry.nameText id).length) ++ entry.aboutText

end HelpEntry

def helpEntries (environment : List (String × String)) : List HelpEntry :=
  [ { short := some 'c', long := "config", placeholder := some "CONFIG",
      about := "JSON configuration file; missing fields take their defaults "
        ++ variableText environment "IRMA_CONFIG" },
    { short := some 'r', long := "runs", placeholder := some "RUNS",
      about := "Number of runs to execute before exiting [default: 10]" },
    { short := none, long := "width", placeholder := some "WIDTH",
      about := "Override the world width" },
    { short := none, long := "height", placeholder := some "HEIGHT",
      about := "Override the world height" },
    { short := none, long := "org-amount", placeholder := some "ORG_AMOUNT",
      about := "Override the organism pool capacity" },
    { short := none, long := "iterations", placeholder := some "ITERATIONS",
      about := "Override the iterations executed per run" },
    { short := none, long := "seed", placeholder := some "SEED",
      about := "Seed the RNG for a reproducible run " ++ variableText environment "IRMA_SEED" },
    { short := none, long := "lineage", placeholder := some "LINEAGE",
      about := "Append one JSON line per organism birth to this file" },
    { short := none, long := "json", placeholder := none,
      about := "Print every run summary as JSON on stdout" },
    { short := some 'h', long := "help", placeholder := none, about := "Print help" },
    { short := some 'V', long := "version", placeholder := none, about := "Print version" } ]

def styledHelp (environment : List (String × String)) : String :=
  "Run an IRMA artificial-life world headless\n\n"
    ++ Terminal.heading "Usage:" ++ " " ++ Terminal.bold "irma" ++ " [OPTIONS]\n\n"
    ++ Terminal.heading "Options:" ++ "\n"
    ++ "\n".intercalate ((helpEntries environment).map HelpEntry.line) ++ "\n"

/-- The variable that asks for styles wherever the help goes, and the one that forbids
them. -/
def forceStyles : String := "CLICOLOR_FORCE"
def forbidStyles : String := "NO_COLOR"

/-- Whether a variable has a value; an empty text is none, any other is one. -/
def hasValue (environment : List (String × String)) (name : String) : Bool :=
  !((environment.lookup name).getD "").isEmpty

def keepsStyles (environment : List (String × String)) : Bool :=
  hasValue environment forceStyles && !hasValue environment forbidStyles

def helpText (environment : List (String × String)) : String :=
  if keepsStyles environment then styledHelp environment
  else Terminal.plain (styledHelp environment)

end Vivarium.CommandLine
