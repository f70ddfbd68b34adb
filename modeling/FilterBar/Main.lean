import FilterBar.Program
import Std.Time.Zoned

/-!
# The command line

What the program needs of its surroundings is looked up first: the environment, the files that the
arguments and the settings name, and whether a person reads the console. The run itself is
`Program.start` and `Console.enter`; what they write is passed on after each step.
-/

namespace FilterBar.Main

open Console (start)

def clock : IO Text := do
  let now ← Std.Time.PlainTime.now
  let two (n : Int) : Text := Text.ofNatPadded 2 n.toNat
  return two now.hour.val ++ ":" ++ two now.minute.val ++ ":" ++ two now.second.val

def environment : IO Environment := do
  let names := ["GRAPH_FILTER_REGISTRY", "GRAPH_FILTER_LOG", "GRAPH_FILTER_LOG_LEVEL",
    "GRAPH_FILTER_SUGGESTION_LIMIT"]
  names.filterMapM fun name => do
    return (← IO.getEnv name).map fun value => ((name : Text), (value : Text))

def homes : IO (List (Text × Text)) := do
  let file := (← IO.currentDir) / "/etc/passwd"
  if ← file.pathExists then
    let t ← IO.FS.readFile file
    return Host.homesOf t
  else return []

def fileName (l : Location) : String := String.ofList ("/" ++ Text.joinWith "/" l)

/-- The disk with what is found at a path and on the way to it. -/
def look (d : Disk) (p : Path) : IO Disk := do
  let root ← IO.currentDir
  let l := (p.absolute d.workingDirectory).names
  let above ← (List.range l.length).filterMapM fun n => do
    let up := l.take n
    return if ← (root / fileName up).isDir then some up else none
  let d := { d with directories := above ++ d.directories }
  let file := root / fileName l
  if ← file.isDir then return { d with directories := l :: d.directories }
  else if ← file.pathExists then
    let t ← IO.FS.readFile file
    return { d with files := (l, (t : Text)) :: d.files }
  else return d

/-- The host with the files that a run with these arguments looks at. -/
def host (args : List Text) : IO Host := do
  let directory := Path.ofText (← IO.currentDir).toString
  let h : Host :=
    { disk := { workingDirectory := directory }
      home := (← IO.getEnv "HOME").getD "/"
      homes := ← homes
      environment := ← environment
      interactive := ← (← IO.getStderr).isTty
      clock := ← clock }
  match CommandLine.read Program.specs (Program.attachQueries args) with
  | .error _ => return h
  | .ok given =>
    let config := Settings.fileOr h.disk ((given.last? "config").map Path.ofText)
    let h := { h with disk := ← look h.disk config }
    match Program.loadSettings h given with
    | .error _ => return h
    | .ok (_, settings) =>
      let logFile := match h.logName? settings.logging.file with
        | .ok name? => name?.map Host.LogName.text
        | .error _ => none
      let registry := match Program.registryPath? h given settings with
        | .ok p? => p?.toList
        | .error _ => []
      let paths := registry ++ (logFile.map h.logPath).toList
      return { h with disk := ← paths.foldlM look h.disk }

def flush (earlier h : Host) : IO Host := do
  let out ← IO.getStdout
  let err ← IO.getStderr
  out.putStr (String.ofList h.out)
  out.flush
  err.putStr (String.ofList h.err)
  err.flush
  for (l, t) in h.disk.files do
    let known := earlier.disk.file? l
    if known ≠ some t then
      IO.FS.withFile (fileName l) .append fun file =>
        file.putStr (String.ofList (t.drop (known.getD []).length))
  return { h with out := [], err := [], clock := ← clock }

/-- Takes lines until the person leaves or there are no more. -/
partial def converse (c : Console) : IO Unit := do
  let asked := c.ask
  let c := { asked with host := ← flush c.host asked.host }
  let line ← (← IO.getStdin).getLine
  if line.isEmpty then
    discard <| flush c.host c.endInput.finish
  else
    match c.enter line with
    | (next, true) => converse { next with host := ← flush c.host next.host }
    | (next, false) => discard <| flush c.host next.finish

def run (args : List Text) : IO UInt32 := do
  let h ← host args
  let (after, next) := Program.start h args
  let now ← flush h after
  match next with
  | .inr (catalog, settings) =>
    converse (start now catalog settings)
    return 0
  | .inl (.done code) => return code.toUInt32
  | .inl (.exit e) =>
    let lines := CommandLine.usage "graph-filter" Program.specs
    let shown := match e with
      | .help => now.printLines lines
      | .usage => lines.foldl Host.printError now
    discard <| flush now shown
    return e.code.toUInt32
  | .inl (.failed f) =>
    discard <| flush now (now.printError f.message)
    return 1

end FilterBar.Main

def main (args : List String) : IO UInt32 :=
  FilterBar.Main.run (args.map String.toList)
