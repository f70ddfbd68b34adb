import FilterBar.Editor
import FilterBar.Query.Selection
import FilterBar.Suggestion.Completion

/-!
# Sessions

A session is an editor together with the parent that holds the query text. It tells the parent of
a new text only if the text changed, and knows the parent's reply to its own text for an echo, so
that an echo never moves the cursor or drops the draft.

- `dispatch`, `receive`: an action of the user, a text from the parent.
- `suggestions`, `accept`: what completes the draft, and taking one of it.
- `handleKey`: the keys that the input understands.

Notices record what the parent was told, oldest first.
-/

namespace FilterBar

/-- What passed between a session and its parent. -/
inductive Notice where
  /-- The parent was told this text. -/
  | told (query : Text)
  /-- The parent handed the text back at once. The flag says whether the editor was rebuilt. -/
  | echoed (rebuilt : Bool)
deriving DecidableEq

structure Session where
  editor : Editor
  /-- The text that the parent holds. -/
  held : Text
  /-- The last text told to the parent, until its echo arrives. -/
  pending : Option Text := none
  catalog : Catalog := {}
  limit : Int := Suggestion.defaultLimit
  entityLimit : Int := Suggestion.defaultEntityLimit
  /-- Whether the parent hands every text back at once. -/
  echoes : Bool := false
  notices : List Notice := []

namespace Session

/-- The one way in which an operation of a session can fail. -/
inductive Error where
  /-- There is nothing at this place of a list. -/
  | outOfRange (index : Int)
deriving DecidableEq

/-- A session on a query that the parent holds already. -/
def start (query : Text) (catalog : Catalog) (limit entityLimit : Int) : Session :=
  { editor := .ofText query false
    held := query
    catalog := catalog
    limit := limit
    entityLimit := entityLimit }

def text (s : Session) : Text := s.editor.text

/-! ## Actions and the parent -/

/-- Takes a text from the parent. The flag says whether the editor was rebuilt. -/
def receive (s : Session) (query : Text) : Session × Bool :=
  if s.pending = some query then ({ s with pending := none, held := query }, false)
  else
    let s := { s with held := query }
    if query = s.text then (s, false)
    else ({ s with editor := s.editor.reduce (.sync query) }, true)

def tell (s : Session) (query : Text) : Session :=
  let s := { s with
    pending := some query, held := query, notices := s.notices ++ [Notice.told query] }
  if s.echoes then
    let (s, rebuilt) := s.receive query
    { s with notices := s.notices ++ [Notice.echoed rebuilt] }
  else s

/-- Runs an action. The flag says whether the editor changed. With `emit` off the parent is told
nothing. -/
def dispatch (s : Session) (a : Editor.Action) (emit : Bool) : Session × Bool :=
  match s.editor.step a with
  | none => (s, false)
  | some e =>
    let s := { s with editor := e }
    (if emit && s.text ≠ s.held then s.tell s.text else s, true)

/-! ## Suggestions -/

/-- The chips other than the one that is edited. -/
def otherChips (s : Session) : List Text :=
  match s.editor.editing with
  | some i => if 0 ≤ i then s.editor.chips.eraseIdx i.toNat else s.editor.chips
  | none => s.editor.chips

def request (s : Session) (fragment : Text) (existing : List Text) : Request :=
  ⟨fragment, existing, s.catalog, s.limit, s.entityLimit⟩

def suggestions (s : Session) : List Suggestion :=
  (s.request (Text.strip s.editor.draft) s.otherChips).suggestions

/-- The place of the highlighted suggestion among `count`. -/
def activeAmong (s : Session) (count : Int) : Int :=
  if count = 0 then 0 else min s.editor.suggestion (count - 1)

def active (s : Session) : Int := s.activeAmong s.suggestions.length

def panelOpen (s : Session) : Bool := s.editor.showsPanel s.suggestions.length

/-- Highlights the first suggestion if the highlighted one is gone. -/
def clampSuggestion (s : Session) : Session :=
  if (s.suggestions.length : Int) ≤ s.editor.suggestion ∧ s.editor.suggestion ≠ 0 then
    (s.dispatch (.setSuggestion 0) false).1
  else s

/-- Takes a text: a stage becomes the draft, anything else a chip. -/
def acceptText (s : Session) (t : Text) : Session × Bool :=
  if isStage t then s.dispatch (.setDraft t) true else s.dispatch (.apply t) true

def accept (s : Session) (chosen : Suggestion) : Session × Bool := s.acceptText chosen.inserted

/-- Accepts the candidate at a place, which counts from the end when it is negative. -/
def acceptAmong (s : Session) (candidates : List Suggestion) (index : Int) :
    Except Error (Session × Bool) :=
  match Cut.at? index candidates with
  | some chosen => .ok (s.accept chosen)
  | none => .error (.outOfRange index)

def acceptIndex (s : Session) (index : Int) : Except Error (Session × Bool) :=
  s.acceptAmong s.suggestions index

/-! ## Chips and keys -/

def chips (s : Session) : List Query.Entry :=
  s.editor.chips.map fun raw => (Query.entries raw).headD ⟨raw, .keyless⟩

/-- The keys that an input hands on. Any other key is named by its text. -/
def handleKey (s : Session) (key : Text) (shift : Bool) : Except Error (Session × Bool) :=
  let e := s.editor
  if key = "Backspace" ∧ e.draft = [] ∧ (0 < e.cursor ∨ e.editing.isSome) then
    .ok ((s.dispatch .backspace true).1, true)
  else
    match e.selected with
    | some i =>
      if key = "Delete" ∧ e.draft = [] then .ok ((s.dispatch (.removeChip i) true).1, true)
      else panelKey s.suggestions
    | none => panelKey s.suggestions
where
  quietly (a : Editor.Action) : Except Error (Session × Bool) := .ok ((s.dispatch a false).1, true)
  acceptActive (candidates : List Suggestion) : Except Error (Session × Bool) :=
    (s.acceptAmong candidates (s.activeAmong candidates.length)).map fun r => (r.1, true)
  panelKey (candidates : List Suggestion) : Except Error (Session × Bool) :=
    let total : Int := candidates.length
    let closed := !s.editor.panelOpen || candidates.isEmpty
    if key = "Tab" then
      if closed then quietly .openPanel
      else if shift then quietly (.moveSuggestion (-1) total)
      else acceptActive candidates
    else if closed then .ok (s, false)
    else if key = "ArrowDown" then quietly (.moveSuggestion 1 total)
    else if key = "ArrowUp" then quietly (.moveSuggestion (-1) total)
    else if key = "Escape" then quietly .closePanel
    else if key = "Enter" then acceptActive candidates
    else .ok (s, false)

end Session

end FilterBar
