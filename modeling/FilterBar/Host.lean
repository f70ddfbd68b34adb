import FilterBar.Settings
import FilterBar.Text.Case

/-!
# The host and its log

A host is what a program finds around it: a disk, the environment, a clock and a console. What the
program writes is collected.

Logging starts once. A line is written if its level is not below the level of the log, to every
sink of the log. While the log has no sink, warnings and what is worse go to the console as they
are.

- `Host.startLog`: opens the log.
- `Host.record`: one line for the log.
-/

namespace FilterBar

namespace Log

/-! ## Levels -/

def debug : Int := 10

def warning : Int := 30

def error : Int := 40

def levels : List (Text × Int) :=
  [("DEBUG", 10), ("INFO", 20), ("WARNING", 30), ("WARN", 30), ("ERROR", 40), ("CRITICAL", 50)]

def upperLetter (c : Char) : Char :=
  if 'a' ≤ c && c ≤ 'z' then Char.ofNat (c.toNat - 32) else if c == 'ı' then 'I' else c

def levelName (n : Int) : Text :=
  match levels.find? fun l => l.2 == n with
  | some l => Text.lower l.1
  | none => "level " ++ Text.ofInt n

/-- The level with a name, in any case, if the name is given and known. Bytes are never known. -/
def level? (name : Value) : Except Fault (Option Int) :=
  if !name.isTruthy then .ok none
  else match name with
    | .text t => .ok (levels.lookup (t.map upperLetter))
    | .bytes _ => .ok none
    | v => .error (.levelNotText v.kindName)

inductive Sink where
  | file (l : Location)
  | console
deriving DecidableEq

end Log

/-- A log. Until it is started it has level 0 and no sink. -/
structure Log where
  started : Bool := false
  level : Int := 0
  sinks : List Log.Sink := []
deriving DecidableEq

namespace Log

/-- The level from which on lines are written. -/
def threshold (l : Log) : Int := if l.level = 0 then warning else l.level

end Log

structure Host where
  disk : Disk
  /-- The home directory of the person who runs the program. -/
  home : Text
  /-- The home directories of other people, by their names. -/
  homes : List (Text × Text) := []
  environment : Environment := []
  /-- Whether a person reads the console. -/
  interactive : Bool := false
  /-- The time of day that log lines begin with. -/
  clock : Text
  log : Log := {}
  /-- What has been written to the output. -/
  out : Text := []
  /-- What has been written to the console. -/
  err : Text := []

namespace Host

/-! ## Writing -/

def print (h : Host) (t : Text) : Host := { h with out := h.out ++ t }

def printLine (h : Host) (t : Text) : Host := h.print (t ++ "\n")

def printLines (h : Host) (ts : List Text) : Host := ts.foldl printLine h

def printError (h : Host) (t : Text) : Host := { h with err := h.err ++ (t ++ "\n") }

def write (line : Text) (h : Host) : Log.Sink → Host
  | .console => h.printError line
  | .file l => { h with disk := h.disk.append l (line ++ "\n") }

def record (h : Host) (level : Int) (message : Text) : Host :=
  if level < h.log.threshold then h
  else if h.log.sinks.isEmpty then
    if Log.warning ≤ level then h.printError message else h
  else
    h.log.sinks.foldl (write (h.clock ++ " " ++ Log.levelName level ++ ": " ++ message)) h

def recordAll (h : Host) (level : Int) (messages : List Text) : Host :=
  messages.foldl (fun h m => h.record level m) h

/-! ## Home directories -/

/-- The home directories of a list of people. A line of it tells of one: the name comes first, the
directory sixth, with colons between. -/
def homesOf (list : Text) : List (Text × Text) :=
  (Text.splitAll '\n' list).filterMap fun line =>
    match Text.splitAll ':' line with
    | name :: _ :: _ :: _ :: _ :: home :: _ => some (name, home)
    | _ => none

/-- A text with a home directory in place of the tilde at its beginning and the name after it, up
to the first slash. The name of a person who is not known is left as it is. -/
def expandTilde (h : Host) (t : Text) : Text :=
  match t with
  | '~' :: r =>
    let name := r.takeWhile (· != '/')
    match if name.isEmpty then some h.home else h.homes.lookup name with
    | some home =>
      let expanded := Text.dropEnd (· == '/') home ++ r.drop name.length
      if expanded.isEmpty then "/" else expanded
    | none => t
  | t => t

/-- A path with a home directory in place of a tilde at its beginning. -/
def expandHome (h : Host) (p : Path) : Except Fault Path :=
  match p.names with
  | ('~' :: name) :: ns =>
    if p.isAbsolute then .ok p
    else if name.contains '\x00' then .error .pathHoldsZero
    else
      let home := h.expandTilde ('~' :: name)
      if home.head? = some '~' then .error (.unknownPerson home)
      else
        let home := Path.ofText home
        .ok { home with names := home.names ++ ns }
  | _ => .ok p

/-! ## Starting the log -/

def addSink (h : Host) (s : Log.Sink) : Host :=
  { h with log := { h.log with sinks := h.log.sinks ++ [s] } }

/-- The name of a log file. One that is given in bytes is shown in bytes. -/
structure LogName where
  text : Text
  inBytes : Bool := false

/-- How a message about the log file shows its path. -/
def LogName.shown (name : LogName) (path : Text) : Text :=
  if name.inBytes then Text.shownBytes (String.ofList path).toUTF8.toList else Text.shown path

/-- The name of the log file, if there is one: the one that is given, or that the environment has. -/
def logName? (h : Host) (file : Value) : Except Fault (Option LogName) :=
  if file.isTruthy then
    match file with
    | .text name => .ok (some ⟨name, false⟩)
    | .bytes bs => .ok (some ⟨Text.ofBytes bs, true⟩)
    | v => .error (.fileNotText v.kindName)
  else .ok ((h.environment.get? "GRAPH_FILTER_LOG").map fun name => ⟨name, false⟩)

def logPath (h : Host) (name : Text) : Path :=
  (Path.ofText (h.expandTilde name)).absolute h.disk.workingDirectory

/-- Whether a log file can be looked up: neither its path nor the name after a tilde at the beginning
holds a zero character. -/
def isLookedUp (h : Host) (name : Text) : Bool :=
  !(h.logPath name).holdsZero &&
    !(name.head? == some '~' && (name.takeWhile (· != '/')).contains '\x00')

/-- Opens the log file. If that fails, an interactive console takes its place. -/
def openLogFile (h : Host) (name : LogName) : Host × Option Fault :=
  let p := h.logPath name.text
  if !h.isLookedUp name.text then (h, some .pathHoldsZero)
  else match h.disk.openLog p with
    | .ok (l, disk) => ({ h with disk := disk }.addSink (.file l), none)
    | .error cause =>
      if h.interactive then
        ((h.printError ("[graph-filter] Failed to open log file: " ++
          cause.message (name.shown p.text))).addSink .console, none)
      else (h, none)

/-- Starts the log at a level, into the file that is given or that the environment names. Without
a file an interactive console is written to. -/
def openLog (h : Host) (level : Int) (file : Value) : Host × Option Fault :=
  let h := { h with log := { h.log with level := level } }
  match h.logName? file with
  | .ok (some name) => h.openLogFile name
  | .ok none => (if h.interactive then h.addSink .console else h, none)
  | .error fault => (h, some fault)

/-- Starts the log if it has not been started. A fault in what is said about logging comes to light
after that. -/
def startLog (h : Host) (given : Option Logging) (verbose : Bool) : Host × Option Fault :=
  if h.log.started then (h, none)
  else
    let h := { h with log := { h.log with started := true } }
    let given := given.getD {}
    if verbose then h.openLog Log.debug given.file
    else match Log.level? given.level with
      | .ok level? => h.openLog (level?.getD Log.warning) given.file
      | .error fault => (h, some fault)

end Host

end FilterBar
