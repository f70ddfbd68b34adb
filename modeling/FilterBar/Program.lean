import FilterBar.CommandLine
import FilterBar.Console
import FilterBar.Catalog.Load

/-!
# The program

The program reads its settings and the registry file, and then sums up one query, lists the
suggestions for one fragment, or opens the console.

- `prepare`: settings, log and catalog, which the language service prepares in its own way.
- `start`: everything up to the console.
- `run`: a whole run on a given input.
-/

namespace FilterBar.Program

open CommandLine (Spec Given)

/-! ## Options -/

def specs : List Spec :=
  [ CommandLine.help,
    ⟨some 'c', "command", true⟩,
    ⟨some 's', "suggest", true⟩,
    ⟨some 'r', "registry", true⟩,
    ⟨none, "config", true⟩,
    ⟨some 'v', "verbose", false⟩ ]

/-- The name of an option whose value is part of a query, written out in full. -/
def queryOption? (arg : Text) : Option Text :=
  if arg = "-c" ∨ arg = "--command" then some "--command"
  else if arg = "-s" ∨ arg = "--suggest" then some "--suggest"
  else none

/-- Joins each such option with the argument after it, which may begin with a dash. -/
def attachQueries : List Text → List Text
  | [] => []
  | [t] => [t]
  | t :: u :: ts =>
    match queryOption? t with
    | some name => (name ++ "=" ++ u) :: attachQueries ts
    | none => t :: attachQueries (u :: ts)

/-! ## Preparation -/

def loadSettings (h : Host) (given : Given) : Except Fault (Host × Settings) := do
  let path := (← given.value? "config").map Path.ofText
  let (settings, warnings) ← Settings.load h.disk path h.environment
  .ok (h.recordAll Log.warning (warnings.map Settings.Warning.message), settings)

def registryPath? (h : Host) (given : Given) (settings : Settings) :
    Except Fault (Option Path) := do
  match ← given.value? "registry" with
  | some t => .ok (some (Path.ofText t))
  | none => match settings.registryFile.filter fun t => !t.isEmpty with
    | some t => (h.expandHome (Path.ofText t)).map some
    | none => .ok none

def loadCatalog (h : Host) (given : Given) (settings : Settings) :
    Except Catalog.Failure (Host × Catalog) := do
  match ← (registryPath? h given settings).mapError .fault with
  | none => .ok (h, {})
  | some p =>
    let catalog ← Catalog.load h.disk p
    let message := "loaded registries from " ++ p.text ++ ": " ++ catalog.counts
    .ok (h.record Log.debug message, catalog)

/-! ## Runs -/

inductive Outcome where
  /-- The command line ends it. -/
  | exit (e : CommandLine.Exit)
  | failed (f : Fault)
  | done (code : Nat)

/-- What the command line asks for, if it is not the console. -/
inductive Task where
  | summary (query : Text)
  | suggestions (fragment : Text)

/-- The task of a command line. A query goes before a fragment. -/
def task? (given : Given) : Except Fault (Option Task) := do
  match ← given.value? "command" with
  | some query => .ok (some (.summary query))
  | none => .ok ((← given.value? "suggest").map .suggestions)

def Task.run (h : Host) (catalog : Catalog) (settings : Settings) : Task → Host
  | summary query => h.printSummary query
  | suggestions fragment =>
    let r : Request := ⟨fragment, [], catalog, settings.limit, settings.entityLimit⟩
    h.printLines (Suggestion.lines r.suggestions none)

/-- The host after the preparation, and the end of the run or the console that is opened. -/
def start (h : Host) (args : List Text) : Host × (Outcome ⊕ (Catalog × Settings)) :=
  match CommandLine.read specs (attachQueries args) with
  | .error e => (h, .inl (.exit e))
  | .ok given =>
    match loadSettings h given with
    | .error f => (h, .inl (.failed f))
    | .ok (h, settings) =>
      match h.startLog (some settings.logging) (given.has "verbose") with
      | (h, some f) => (h, .inl (.failed f))
      | (h, none) =>
        match loadCatalog h given settings with
        | .error (.fault f) => (h, .inl (.failed f))
        | .error (.error e) => (h.printError ("Error: " ++ e.message), .inl (.done 1))
        | .ok (h, catalog) =>
          match task? given with
          | .error f => (h, .inl (.failed f))
          | .ok (some task) => (task.run h catalog settings, .inl (.done 0))
          | .ok none => (h, .inr (catalog, settings))

def run (h : Host) (args : List Text) (input : Text) : Host × Outcome :=
  match start h args with
  | (h, .inl outcome) => (h, outcome)
  | (h, .inr (catalog, settings)) =>
    ((Console.start h catalog settings).run (Console.inputLines input), .done 0)

end FilterBar.Program
