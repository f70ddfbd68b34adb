import FilterBar.Value
import FilterBar.Disk
import FilterBar.Yaml.Read
import FilterBar.Text.Numeral
import FilterBar.Suggestion

/-!
# Settings

Settings come from a file and from environment variables, which go before the file. What cannot be
used is passed over with a warning and the default holds; only the faults of a file stop a program.

- `Settings.ofEntries`: the settings of a mapping.
- `Overrides.ofEnvironment`, `Overrides.apply`: what the environment sets, and the mapping with it.
- `Settings.load`: both together.
-/

namespace FilterBar

/-- What is said about logging. It is looked at only when logging starts. -/
structure Logging where
  /-- The level below which nothing is logged. -/
  level : Value := .null
  /-- The file that is logged to. -/
  file : Value := .null

structure Settings where
  registryFile : Option Text := none
  limit : Int := Suggestion.defaultLimit
  entityLimit : Int := Suggestion.defaultEntityLimit
  logging : Logging := {}

namespace Settings

inductive Warning where
  | invalidFile (path : Path) (cause : Yaml.Error)
  | unreadableFile (path : Path) (cause : OpenFailure)
  | notAnInteger (name written : Text)
  | invalidRegistry (v : Value)
  | invalidBound (name : Text) (v : Value) (default : Nat)

def Warning.message : Warning → Text
  | .invalidFile path cause => "Invalid YAML in " ++ path.text ++ ": " ++ cause.message
  | .unreadableFile path cause =>
    "Error reading " ++ path.text ++ ": " ++ cause.message (Text.shown path.text)
  | .notAnInteger name written =>
    "Ignoring non-integer " ++ name ++ "=" ++ Text.shown written
  | .invalidRegistry v => "Ignoring invalid registry_file=" ++ v.shown
  | .invalidBound name v default =>
    "Ignoring invalid " ++ name ++ "=" ++ v.shown ++ ", using " ++ Text.ofNat default

/-! ## From a mapping -/

def part (es : Value.Entries) (name : Text) : Value.Entries :=
  ((es.get? name).bind Value.entries?).getD []

/-- A bound has to be a positive whole number. One that is missing has its default. -/
def bound (es : Value.Entries) (key name : Text) (default : Nat) : Int × List Warning :=
  match es.get? key with
  | none => (default, [])
  | some (.int n) => if 0 < n then (n, []) else (default, [.invalidBound name (.int n) default])
  | some v => (default, [.invalidBound name v default])

/-- The registry file has to be a text. -/
def registry (es : Value.Entries) : Option Text × List Warning :=
  match es.get? "registry_file" with
  | none | some .null => (none, [])
  | some (.text t) => (some t, [])
  | some v => (none, [.invalidRegistry v])

/-- The settings of a mapping, with a warning for each entry that was passed over. -/
def ofEntries (es : Value.Entries) : Settings × List Warning :=
  let suggestions := part es "suggestions"
  let logging := part es "logging"
  let (registryFile, w₁) := registry es
  let (limit, w₂) := bound suggestions "limit" "suggestions.limit" Suggestion.defaultLimit
  let (entityLimit, w₃) :=
    bound suggestions "entity_limit" "suggestions.entity_limit" Suggestion.defaultEntityLimit
  ({ registryFile := registryFile
     limit := limit
     entityLimit := entityLimit
     logging := ⟨(logging.get? "level").getD .null, (logging.get? "file").getD .null⟩ },
    w₁ ++ w₂ ++ w₃)

end Settings

/-! ## From the environment -/

abbrev Environment := List (Text × Text)

/-- The value of a variable. An empty one counts as missing. -/
def Environment.get? (env : Environment) (name : Text) : Option Text :=
  (env.lookup name).filter fun t => !t.isEmpty

/-- What the environment sets. -/
structure Overrides where
  registryFile : Option Text := none
  logFile : Option Text := none
  logLevel : Option Text := none
  limit : Option Int := none
deriving DecidableEq

namespace Overrides

def limitVariable : Text := "GRAPH_FILTER_SUGGESTION_LIMIT"

def ofEnvironment (env : Environment) : Overrides × List Settings.Warning :=
  let written := env.get? limitVariable
  let limit := written.bind Text.readInt?
  ({ registryFile := env.get? "GRAPH_FILTER_REGISTRY"
     logFile := env.get? "GRAPH_FILTER_LOG"
     logLevel := env.get? "GRAPH_FILTER_LOG_LEVEL"
     limit := limit },
    match written, limit with
    | some t, none => [.notAnInteger limitVariable t]
    | _, _ => [])

/-- The entries with a value set under a key of a part. What is no mapping gives way to one. -/
def setIn (es : Value.Entries) (part key : Text) (v : Value) : Value.Entries :=
  es.put part (.map ((Settings.part es part).put key v))

/-- The entries with a value set, if there is one. -/
def setIf {α : Type} (set : Value.Entries → α → Value.Entries) (given : Option α)
    (es : Value.Entries) : Value.Entries :=
  match given with
  | some a => set es a
  | none => es

/-- A mapping with what the environment sets. -/
def apply (o : Overrides) (es : Value.Entries) : Value.Entries :=
  setIf (fun es n => setIn es "suggestions" "limit" (.int n)) o.limit <|
    setIf (fun es t => setIn es "logging" "level" (.text t)) o.logLevel <|
      setIf (fun es t => setIn es "logging" "file" (.text t)) o.logFile <|
        setIf (fun es t => es.put "registry_file" (.text t)) o.registryFile es

end Overrides

/-! ## Loading -/

namespace Settings

/-- The mapping in a file. A file that is missing or holds no mapping is empty. -/
def readFile (d : Disk) (p : Path) : Except Fault (Value.Entries × List Warning) := do
  if !(← d.has p) then .ok ([], [])
  else match d.read p with
    | .error cause => .ok ([], [.unreadableFile p cause])
    | .ok t =>
      match Yaml.read t with
      | .error (.error cause) => .ok ([], [.invalidFile p cause])
      | .error (.fault f) => .error f
      | .ok v => .ok (v.entries?.getD [], [])

def defaultFile : Text := "graph-filter.yaml"

def fileOr (d : Disk) (p : Option Path) : Path :=
  p.getD { d.workingDirectory with names := d.workingDirectory.names ++ [defaultFile] }

def load (d : Disk) (p : Option Path) (env : Environment) :
    Except Fault (Settings × List Warning) := do
  let (es, w₁) ← readFile d (fileOr d p)
  let (o, w₂) := Overrides.ofEnvironment env
  let (s, w₃) := ofEntries (o.apply es)
  .ok (s, w₁ ++ w₂ ++ w₃)

end Settings

end FilterBar
