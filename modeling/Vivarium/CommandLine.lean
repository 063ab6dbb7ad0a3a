import Vivarium.Bounded

/-!
# The command line

Words are read from left to right. A setting takes its value from the same word,
after `=` (after a short name also directly), or from the next one. A value in a
word of its own is only looked at when the next option comes, or at the end, so
a word that is no option at all is reported first. What the command line does
not set may come from the environment.
-/
namespace Vivarium.CommandLine

/-- Why a command line is not carried out. -/
inductive UsageError where
  | unknownArgument
  | badValue
  | missingValue
  | repeated
  | unwantedValue
  | helpAsked
  | versionAsked
  deriving DecidableEq, Repr

/-- Options that take a value. -/
inductive Setting where
  | config
  | runs
  | width
  | height
  | orgAmount
  | iterations
  | seed
  | lineage
  deriving DecidableEq, Repr

/-- Options that take none. -/
inductive Flag where
  | json
  | help
  | version
  deriving DecidableEq, Repr

structure Given where
  config : Option String
  runs : Option Nat
  width : Option Nat
  height : Option Nat
  orgAmount : Option Nat
  iterations : Option Nat
  seed : Option Nat
  lineage : Option String
  json : Bool
  deriving DecidableEq, Repr

def Given.nothing : Given :=
  { config := none, runs := none, width := none, height := none, orgAmount := none,
    iterations := none, seed := none, lineage := none, json := false }

structure Options where
  config : Option String
  runs : Nat
  width : Option Nat
  height : Option Nat
  orgAmount : Option Nat
  iterations : Option Nat
  seed : Option Nat
  lineage : Option String
  json : Bool
  deriving DecidableEq, Repr

def standardRuns : Nat := 10

/-! ### Values -/

/-- The number that some digits stand for; at least one, and nothing else. -/
def digits? (text : List Char) : Option Nat :=
  if text.isEmpty || !text.all Char.isDigit then none
  else some (text.foldl (fun number c => number * 10 + (c.toNat - '0'.toNat)) 0)

/-- A number below `limit`, with or without a plus sign. -/
def count? (limit : Nat) (text : List Char) : Option Nat :=
  let digits := match text with
    | '+' :: rest => rest
    | text => text
  (digits? digits).filter (· < limit)

/-- A signed number that lies in `0 .. limit - 1`; zero may have a minus sign. -/
def signedCount? (limit : Nat) (text : List Char) : Option Nat :=
  match text with
  | '-' :: rest => (digits? rest).filter (· == 0)
  | text => count? limit text

/-- A path; it is not empty. -/
def readPath (text : String) : Except UsageError String :=
  if text.isEmpty then .error .missingValue else .ok text

def orBad : Option Nat → Except UsageError Nat
  | none => .error .badValue
  | some value => .ok value

def Given.has (given : Given) : Setting → Bool
  | .config => given.config.isSome
  | .runs => given.runs.isSome
  | .width => given.width.isSome
  | .height => given.height.isSome
  | .orgAmount => given.orgAmount.isSome
  | .iterations => given.iterations.isSome
  | .seed => given.seed.isSome
  | .lineage => given.lineage.isSome

/-- Give a setting a value, as far as it has none yet. -/
def Given.assign (given : Given) (setting : Setting) (text : String) : Except UsageError Given := do
  if given.has setting then throw .repeated
  match setting with
  | .config => return { given with config := some (← readPath text) }
  | .runs => return { given with runs := some (← orBad (count? limit64 text.toList)) }
  | .width => return { given with width := some (← orBad (signedCount? limit32 text.toList)) }
  | .height => return { given with height := some (← orBad (signedCount? limit32 text.toList)) }
  | .orgAmount => return { given with orgAmount := some (← orBad (count? limit64 text.toList)) }
  | .iterations => return { given with iterations := some (← orBad (count? limit64 text.toList)) }
  | .seed => return { given with seed := some (← orBad (count? limit64 text.toList)) }
  | .lineage => return { given with lineage := some (← readPath text) }

def Given.raise (given : Given) : Flag → Except UsageError Given
  | .json => if given.json then .error .repeated else .ok { given with json := true }
  | .help => .error .helpAsked
  | .version => .error .versionAsked

/-! ### Words -/

def longName? (name : String) : Option (Setting ⊕ Flag) :=
  [ ("config", .inl .config), ("runs", .inl .runs), ("width", .inl .width),
    ("height", .inl .height), ("org-amount", .inl .orgAmount),
    ("iterations", .inl .iterations), ("seed", .inl .seed), ("lineage", .inl .lineage),
    ("json", .inr .json), ("help", .inr .help), ("version", .inr .version) ].lookup name

def shortName? : Char → Option (Setting ⊕ Flag)
  | 'c' => some (.inl .config)
  | 'r' => some (.inl .runs)
  | 'h' => some (.inr .help)
  | 'V' => some (.inr .version)
  | _ => none

/-- How far the words have been read. -/
structure Progress where
  given : Given
  /-- The setting that came last, if its value is not looked at yet, and that value
  if it has come. -/
  pending : Option (Setting × Option String)
  ended : Bool

def Progress.start : Progress := { given := .nothing, pending := none, ended := false }

def Progress.resolve (progress : Progress) : Except UsageError Given :=
  match progress.pending with
  | none => .ok progress.given
  | some (_, none) => .error .missingValue
  | some (setting, some text) => progress.given.assign setting text

/-- An option, with the value of its word if it has one. -/
def Progress.option (progress : Progress) (found : Setting ⊕ Flag) (value : Option String) :
    Except UsageError Progress :=
  match found, value with
  | .inl setting, some text => do
    let given ← progress.resolve
    let given ← given.assign setting text
    return { progress with given, pending := none }
  | .inl setting, none => do
    let given ← progress.resolve
    return { progress with given, pending := some (setting, none) }
  -- Reported whatever the value pending before it.
  | .inr _, some _ => .error .unwantedValue
  | .inr flag, none => do
    let given ← progress.resolve
    let given ← given.raise flag
    return { progress with given, pending := none }

/-- A word after `--`: a long name, perhaps with a value. -/
def Progress.long (progress : Progress) (body : List Char) : Except UsageError Progress :=
  let name := String.ofList (body.takeWhile (· ≠ '='))
  let value := match body.dropWhile (· ≠ '=') with
    | [] => none
    | _ :: text => some (String.ofList text)
  match longName? name with
  | none => .error .unknownArgument
  | some found => progress.option found value

/-- A word after `-`: short names, the last of them perhaps with a value. -/
def Progress.short (progress : Progress) : List Char → Except UsageError Progress
  | [] => .ok progress
  | name :: rest =>
    match shortName? name with
    | none => .error .unknownArgument
    | some (.inl setting) =>
      let value := match rest with
        | [] => none
        | '=' :: text => some (String.ofList text)
        | text => some (String.ofList text)
      progress.option (.inl setting) value
    | some (.inr flag) => do
      let progress ← progress.option (.inr flag) none
      progress.short rest

/-- A word that looks like no option: the value of the setting before it. -/
def Progress.plain (progress : Progress) (word : String) : Except UsageError Progress :=
  match progress.pending with
  | some (setting, none) => .ok { progress with pending := some (setting, some word) }
  | _ => .error .unknownArgument

def Progress.read (progress : Progress) (word : String) : Except UsageError Progress :=
  if progress.ended then .error .unknownArgument
  else
    match word.toList with
    | ['-', '-'] => .ok { progress with ended := true }
    | '-' :: '-' :: body => progress.long body
    | '-' :: c :: rest => progress.short (c :: rest)
    | _ => progress.plain word

/-- The settings that may come from the environment, with their variables there. -/
def environmentSettings : List (Setting × String) :=
  [(.config, "IRMA_CONFIG"), (.seed, "IRMA_SEED")]

/-- Take what is not given from the environment. -/
def Given.fromEnvironment (given : Given) (environment : List (String × String)) :
    List (Setting × String) → Except UsageError Given
  | [] => .ok given
  | (setting, name) :: rest => do
    let given ← match environment.lookup name with
      | none => pure given
      | some text => if given.has setting then pure given else given.assign setting text
    given.fromEnvironment environment rest

def Given.options (given : Given) : Options :=
  { config := given.config, runs := given.runs.getD standardRuns, width := given.width,
    height := given.height, orgAmount := given.orgAmount, iterations := given.iterations,
    seed := given.seed, lineage := given.lineage, json := given.json }

/-- The options that words and environment ask for. -/
def parse (environment : List (String × String)) (words : List String) :
    Except UsageError Options := do
  let progress ← words.foldlM Progress.read .start
  let given ← progress.resolve
  let given ← given.fromEnvironment environment environmentSettings
  return given.options

end Vivarium.CommandLine
