import FilterBar.Program
import FilterBar.Document

/-!
# The language service

The service keeps queries as documents for an editor. It answers with diagnostics when a document
is opened or changed, and with completions and help when it is asked for them.
-/

namespace FilterBar

structure Service where
  host : Host
  catalog : Catalog := {}
  settings : Settings := {}
  documents : List (Text × Text) := []

namespace Service

open Document (Place Diagnostic Completion)

def specs : List CommandLine.Spec :=
  [CommandLine.help, ⟨some 'r', "registry", true⟩, ⟨none, "config", true⟩]

/-- Prepares the service. The output belongs to the editor, so that logging starts only if the
settings name a file. What could not be loaded stays at its default. -/
def start (h : Host) (args : List Text) : Service × Program.Outcome :=
  match CommandLine.read specs args with
  | .error e => ({ host := h }, .exit e)
  | .ok given =>
    match Program.loadSettings h given with
    | .error f => ({ host := h }, .failed f)
    | .ok (h, settings) =>
      let (h, fault) :=
        if settings.logging.file.isTruthy then h.startLog (some settings.logging) false
        else (h, none)
      match fault with
      | some f => ({ host := h, settings := settings }, .failed f)
      | none =>
        match Program.loadCatalog h given settings with
        | .error (.fault f) => ({ host := h, settings := settings }, .failed f)
        | .error (.error e) =>
          ({ host := h.record Log.error e.message, settings := settings }, .done 1)
        | .ok (h, catalog) => ({ host := h, catalog := catalog, settings := settings }, .done 0)

/-- The text of a document. One that was never opened is empty. -/
def source (s : Service) (uri : Text) : Text := (s.documents.lookup uri).getD []

def update (s : Service) (uri text : Text) : Service × List Diagnostic :=
  let found := Document.diagnostics text
  let h := (s.host.recordReading text).record Log.debug
    (uri ++ ": " ++ Text.ofNat found.length ++ " invalid filter tokens")
  ({ s with host := h, documents := (uri, text) :: s.documents }, found)

def completions (s : Service) (uri : Text) (place : Place) : List Completion :=
  let source := s.source uri
  let line := (Cut.at? place.line (Document.lines source)).getD []
  Document.completions source (Document.chomp line) place s.catalog s.settings.limit
    s.settings.entityLimit

def hover? (s : Service) (uri : Text) (place : Place) : Option Text :=
  (Cut.at? place.line (Document.lines (s.source uri))).bind fun line =>
    Document.hover? line place.column

end Service

end FilterBar
