import FilterBar.Host
import FilterBar.Session.Prompt
import FilterBar.Query.Summary

/-!
# The console

At the console a person edits a query line by line. A line is a command or a piece of the query;
after each change the query is summed up. At the end the query is printed.
-/

namespace FilterBar

def Host.recordReading (h : Host) (query : Text) : Host :=
  let es := Query.entries query
  h.record Log.debug ("parsed " ++ Text.ofNat es.length ++ " filter tokens (" ++
    Text.ofNat (es.filter fun e => !e.isValid).length ++ " invalid)")

def Host.printSummary (h : Host) (query : Text) : Host :=
  (h.recordReading query).printLines (Query.summary query)

structure Console where
  host : Host
  session : Session

namespace Console

def banner : Text :=
  "graph-filter REPL - type filter tokens, TAB completes
Type 'help' for commands, 'exit' to quit.

"

def helpText : Text :=
  "
graph-filter - graph filter query language

TOKENS:
  +node:<id> / -node:<id>          Include only / exclude nodes by entity id
  +location:<src> / -location:..   Include only / exclude source locations
  +crate:<name> / -crate:<name>    Include only / exclude crates
  +process:<id> / -process:<id>    Include only / exclude processes
  +kind:<kind> / -kind:<kind>      Include only / exclude kinds
  +module:<path> / -module:<path>  Include only / exclude module paths
  focus:<id>                       Focus the subgraph around a node
  loners:on|off                    Show or hide unconnected nodes
  source:on|off                    Show or hide source locations
  colorBy:process|crate            Node coloring
  groupBy:process|crate|none       Subgraph grouping
  labelBy:process|crate|location   Node labels

  Values containing spaces or quotes must be double-quoted: +crate:\"my crate\"

COMMANDS:
  show       Print the current filter
  suggest    List suggestions for an empty draft
  undo       Drop the pending draft, or else the last token
  clear      Remove every token
  help       Show this help
  exit       Quit and print the final filter text

"

def start (h : Host) (catalog : Catalog) (settings : Settings) : Console :=
  let s := Session.start [] catalog settings.limit settings.entityLimit
  { host := h.print banner, session := (s.dispatch .focus false).1 }

def ask (c : Console) : Console :=
  { c with host := c.host.print ("filter [" ++ c.session.text ++ "]> ") }

/-- The console with a later state of its session. What the session told is logged. -/
def advance (c : Console) (s : Session) : Console :=
  let told := (s.notices.drop c.session.notices.length).filterMap fun n => match n with
    | .told query => some ("emitting filter text " ++ Text.shown query)
    | .echoed _ => none
  { host := c.host.recordAll Log.debug told, session := s }

def printSummary (c : Console) : Console :=
  { c with host := (c.host.printSummary c.session.text).print "\n" }

/-- Takes a line. The flag says whether the person goes on. -/
def enter (c : Console) (line : Text) : Console × Bool :=
  let line := Text.strip line
  let command := Text.lower line
  if line.isEmpty then (c, true)
  else if command = "exit" ∨ command = "quit" then (c, false)
  else if command = "help" then ({ c with host := c.host.print helpText }, true)
  else if command = "clear" then
    ((c.advance (c.session.dispatch .clear true).1).printSummary, true)
  else if command = "undo" then ((c.advance c.session.undoLast).printSummary, true)
  else if command = "suggest" then
    ({ c with host := c.host.printLines (Suggestion.lines c.session.suggestions none) }, true)
  else if command = "show" then (c.printSummary, true)
  else ((c.advance (c.session.enterLine line)).printSummary, true)

/-- Ends the line that was asked for when there are no more lines. -/
def endInput (c : Console) : Console := { c with host := c.host.print "\n" }

def finish (c : Console) : Host := c.host.printLine c.session.text

/-- Takes lines until the person leaves or there are no more. -/
def run (c : Console) : List Text → Host
  | [] => c.ask.endInput.finish
  | line :: lines =>
    match c.ask.enter line with
    | (c, true) => c.run lines
    | (c, false) => c.finish

/-- The lines of an input. Only line feeds end one. -/
def inputLines : Text → List Text
  | [] => []
  | c :: r =>
    if c == '\n' then [] :: inputLines r
    else match inputLines r with
      | [] => [[c]]
      | l :: ls => (c :: l) :: ls

end Console

end FilterBar
