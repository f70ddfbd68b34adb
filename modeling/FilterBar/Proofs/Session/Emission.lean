import FilterBar.Proofs.Session.Echo

/-!
# What the parent hears

The parent holds a text of its own. It takes over every text that it is told, and it hands over
texts itself. `Exchange` is one event between the two, and `history` all events of a row of calls.
The text that `held` records is the one that the parent has after them, and nothing is told to it
that it has already: `Informed` says this of a row of dispatches, `emission_exact` of all calls.

A parent that hands back what it was told makes a difference to the pending text only, which
nothing but `receive` looks at: `Alike`.
-/

namespace FilterBar

/-! ## Exchanges -/

/-- An event between a session and its parent. -/
inductive Exchange where
  | notice (n : Notice)
  /-- The parent hands over a text. -/
  | handed (query : Text)

/-- The text that the parent has after an event. What it hands back at once it has already. -/
def Exchange.leaves (had : Text) : Exchange → Text
  | .notice (.told query) => query
  | .notice (.echoed _) => had
  | .handed query => query

/-- The text that the parent has after a row of events. -/
def heldAfter (had : Text) (xs : List Exchange) : Text := xs.foldl Exchange.leaves had

/-- The parent is told nothing that it has already. -/
def Fresh (had : Text) (xs : List Exchange) : Prop :=
  ∀ pre x, pre ++ [x] <+: xs → x ≠ .notice (.told (heldAfter had pre))

variable {had : Text} {xs ys : List Exchange}

theorem heldAfter_append : heldAfter had (xs ++ ys) = heldAfter (heldAfter had xs) ys :=
  List.foldl_append

theorem fresh_nil : Fresh had [] := by simp [Fresh]

theorem fresh_cons {x : Exchange} :
    Fresh had (x :: xs) ↔ x ≠ .notice (.told had) ∧ Fresh (x.leaves had) xs :=
  Session.forall_next_cons

theorem fresh_append : Fresh had (xs ++ ys) ↔ Fresh had xs ∧ Fresh (heldAfter had xs) ys := by
  induction xs generalizing had with
  | nil => exact (and_iff_right fresh_nil).symm
  | cons x xs ih => rw [List.cons_append, fresh_cons, fresh_cons, ih, and_assoc]; rfl

namespace Session

variable {s t u : Session}

/-! ## From one state to another -/

/-- What the parent heard on the way from one state to another. -/
def heardSince (s t : Session) : List Exchange := (t.notices.drop s.notices.length).map .notice

/-- The parent ends up with the text that `t` takes it to hold, and each text it was told on the way
was new to it. -/
structure Informed (s t : Session) : Prop where
  grows : s.notices <+: t.notices
  held : heldAfter s.held (s.heardSince t) = t.held
  fresh : Fresh s.held (s.heardSince t)

theorem heardSince_of_append {ns : List Notice} (h : t.notices = s.notices ++ ns) :
    s.heardSince t = ns.map .notice := by
  rw [heardSince, h, List.drop_left]

theorem heardSince_trans (hst : s.notices <+: t.notices) (htu : t.notices <+: u.notices) :
    s.heardSince u = s.heardSince t ++ t.heardSince u := by
  obtain ⟨ns, hns⟩ := hst
  obtain ⟨ms, hms⟩ := htu
  have hsu : u.notices = s.notices ++ (ns ++ ms) := by rw [← hms, ← hns, List.append_assoc]
  rw [heardSince_of_append hsu, heardSince_of_append hns.symm, heardSince_of_append hms.symm,
    List.map_append]

theorem Informed.refl (s : Session) : Informed s s := by
  have h : s.heardSince s = [] := by simp [heardSince]
  exact ⟨List.prefix_rfl, by rw [h]; rfl, by rw [h]; exact fresh_nil⟩

theorem Informed.trans (hst : Informed s t) (htu : Informed t u) : Informed s u := by
  have hheard := heardSince_trans hst.grows htu.grows
  refine ⟨hst.grows.trans htu.grows, ?_, ?_⟩
  · rw [hheard, heldAfter_append, hst.held, htu.held]
  · rw [hheard, fresh_append, hst.held]
    exact ⟨hst.fresh, htu.fresh⟩

/-! ## Dispatches -/

theorem informed_showing (s : Session) (a : Editor.Action) : Informed s (s.showing a) := by
  have h : s.heardSince (s.showing a) = [] := by simp [heardSince, showing]
  exact ⟨List.prefix_rfl, by rw [h]; rfl, by rw [h]; exact fresh_nil⟩

theorem informed_tell {query : Text} (h : query ≠ s.held) : Informed s (s.tell query) := by
  have hnotices : (s.tell query).notices =
      s.notices ++ .told query :: if s.echoes then [.echoed false] else [] := by rw [tell_eq]
  have hheld : (s.tell query).held = query := by rw [tell_eq]
  refine ⟨⟨_, hnotices.symm⟩, ?_, ?_⟩
  · rw [heardSince_of_append hnotices, hheld]
    split <;> rfl
  · rw [heardSince_of_append hnotices, List.map_cons, fresh_cons]
    refine ⟨by simpa using h, ?_⟩
    split
    · exact fresh_cons.2 ⟨by simp, fresh_nil⟩
    · exact fresh_nil

theorem informed_dispatch_emit (s : Session) (a : Editor.Action) :
    Informed s (s.dispatch a true).1 := by
  rcases dispatch_emit s a with ⟨hs, -⟩ | ⟨hs, hne⟩
  · rw [hs]
    exact informed_showing s a
  · rw [hs]
    exact (informed_showing s a).trans (informed_tell (s := s.showing a) hne)

theorem informed_dispatch_quiet (s : Session) (a : Editor.Action) :
    Informed s (s.dispatch a false).1 := by
  rw [dispatch_quiet]
  exact informed_showing s a

theorem Moves.informed (h : Moves s t) : Informed s t := by
  refine h.keeps (P := Informed s) ?_ ?_ (.refl s)
  · exact fun u a hu => hu.trans (informed_dispatch_emit u a)
  · exact fun u a _ hu => hu.trans (informed_dispatch_quiet u a)

theorem held_of_dispatch_eq_true {a : Editor.Action} (h : (s.dispatch a true).2 = true) :
    (s.dispatch a true).1.held = (s.dispatch a true).1.text := by
  rw [dispatch_eq] at h ⊢
  split
  · rw [tell_eq]
    rfl
  · next hheld => exact (Decidable.of_not_not fun htext => hheld ⟨h, rfl, htext⟩).symm

/-! ## Calls -/

def exchanges (s : Session) : Call → List Exchange
  | .op (.receive query) => [.handed query]
  | c => s.heardSince (s.call c)

def history (s : Session) : List Call → List Exchange
  | [] => []
  | c :: cs => s.exchanges c ++ (s.call c).history cs

theorem held_receive (s : Session) (query : Text) : (s.receive query).1.held = query := by
  unfold receive
  split
  · rfl
  · simp only
    split <;> rfl

theorem heldAfter_exchanges (s : Session) (c : Call) :
    heldAfter s.held (s.exchanges c) = (s.call c).held ∧ Fresh s.held (s.exchanges c) := by
  have hinformed : (∀ query, c ≠ .op (.receive query)) → Informed s (s.call c) := by
    intro hc
    cases c with
    | op op => exact (perform_moves s fun query h => hc query (h ▸ rfl)).informed
    | quiet a => exact informed_dispatch_quiet s a
  unfold exchanges
  split
  · exact ⟨(held_receive s _).symm, fresh_cons.2 ⟨by simp, fresh_nil⟩⟩
  · next hc => exact ⟨(hinformed hc).held, (hinformed hc).fresh⟩

/-- Through a row of calls `held` is the text that the parent has, and the parent is told new texts
only. -/
theorem heldAfter_history (s : Session) (cs : List Call) :
    heldAfter s.held (s.history cs) = (s.calls cs).held ∧ Fresh s.held (s.history cs) := by
  induction cs generalizing s with
  | nil => exact ⟨rfl, fresh_nil⟩
  | cons c cs ih =>
    obtain ⟨hheld, hfresh⟩ := heldAfter_exchanges s c
    obtain ⟨hheld', hfresh'⟩ := ih (s.call c)
    rw [history, heldAfter_append, fresh_append, hheld, calls_cons]
    exact ⟨hheld', hfresh, hfresh'⟩

/-! ## Two parents -/

/-- Sessions that have told their parents the same, and differ at most in what came back. -/
structure Alike (s t : Session) : Prop where
  editor : t.editor = s.editor
  held : t.held = s.held
  catalog : t.catalog = s.catalog
  limit : t.limit = s.limit
  entityLimit : t.entityLimit = s.entityLimit
  told : t.told = s.told

theorem Alike.text_eq (h : Alike s t) : t.text = s.text := congrArg Editor.text h.editor

theorem Alike.suggestions_eq (h : Alike s t) : t.suggestions = s.suggestions := by
  simp only [suggestions, otherChips, request, h.editor, h.catalog, h.limit, h.entityLimit]

theorem Alike.showing (h : Alike s t) (a : Editor.Action) : Alike (s.showing a) (t.showing a) where
  editor := congrArg (Editor.reduce · a) h.editor
  held := h.held
  catalog := h.catalog
  limit := h.limit
  entityLimit := h.entityLimit
  told := h.told

theorem Alike.tell (h : Alike s t) (query : Text) : Alike (s.tell query) (t.tell query) where
  editor := by simpa only [tell_eq] using h.editor
  held := by simp only [tell_eq]
  catalog := by simpa only [tell_eq] using h.catalog
  limit := by simpa only [tell_eq] using h.limit
  entityLimit := by simpa only [tell_eq] using h.entityLimit
  told := by rw [Relay.told_tell, Relay.told_tell, h.told]

theorem Alike.dispatch (h : Alike s t) (a : Editor.Action) (emit : Bool) :
    Alike (s.dispatch a emit).1 (t.dispatch a emit).1 := by
  have hs := h.showing a
  rw [dispatch_eq, dispatch_eq, h.editor, h.held, hs.text_eq]
  split
  · exact hs.tell _
  · exact hs

theorem Alike.acceptText (h : Alike s t) (text : Text) :
    Alike (s.acceptText text).1 (t.acceptText text).1 := by
  rw [acceptText_eq, acceptText_eq]
  exact h.dispatch _ true

theorem Alike.clampSuggestion (h : Alike s t) : Alike s.clampSuggestion t.clampSuggestion := by
  unfold Session.clampSuggestion
  rw [h.suggestions_eq, h.editor]
  split
  · exact h.dispatch _ false
  · exact h

theorem Alike.enterTokens (h : Alike s t) (ts : List Text) :
    Alike (s.enterTokens ts) (t.enterTokens ts) := by
  induction ts generalizing s t with
  | nil => exact h
  | cons v vs ih =>
    cases vs with
    | nil => exact h.acceptText v
    | cons w ws => exact ih (h.dispatch _ true)

theorem Alike.undoLast (h : Alike s t) : Alike s.undoLast t.undoLast := by
  unfold Session.undoLast
  rw [h.editor]
  split <;> exact h.dispatch _ true

/-! ## Keys of two sessions -/

theorem Alike.keyEffect_eq (h : Alike s t) (key : Text) (shift : Bool) :
    t.keyEffect key shift = s.keyEffect key shift := by
  have hopen : t.panelOpen = s.panelOpen := by rw [panelOpen, panelOpen, h.editor, h.suggestions_eq]
  have hactive : t.active = s.active := by
    rw [active, active, activeAmong, activeAmong, h.editor, h.suggestions_eq]
  unfold keyEffect panelEffect acceptEffect
  rw [h.editor, h.suggestions_eq, hopen, hactive]

theorem Alike.on (h : Alike s t) (effect : KeyEffect) : Alike (effect.on s).1 (effect.on t).1 := by
  cases effect with
  | passed => exact h
  | told a => exact h.dispatch a true
  | quiet a => exact h.dispatch a false

theorem Alike.call (h : Alike s t) {c : Call} (hc : ∀ query, c ≠ .op (.receive query)) :
    Alike (s.call c) (t.call c) := by
  cases c with
  | quiet a => exact h.dispatch a false
  | op op =>
    cases op with
    | act a => exact h.dispatch a true
    | key key shift =>
      simp only [Session.call, perform, handleKey_eq, h.keyEffect_eq]
      cases s.keyEffect key shift with
      | error _ => exact h
      | ok effect => exact h.on effect
    | accept chosen => exact h.acceptText chosen.inserted
    | acceptText text => exact h.acceptText text
    | clampSuggestion => exact h.clampSuggestion
    | enterLine line =>
      have htokens : t.lineTokens line = s.lineTokens line := by
        simp only [lineTokens, h.editor]
      simp only [Session.call, perform, Session.enterLine, htokens]
      exact h.enterTokens _
    | undoLast => exact h.undoLast
    | receive query => exact absurd rfl (hc query)

theorem Alike.calls (h : Alike s t) {cs : List Call}
    (hcs : ∀ c ∈ cs, ∀ query, c ≠ .op (.receive query)) : Alike (s.calls cs) (t.calls cs) := by
  induction cs generalizing s t with
  | nil => exact h
  | cons c cs ih =>
    exact ih (h.call (hcs c (by simp))) fun d hd => hcs d (by simp [hd])

/-! ## Runs -/

/-- Let a parent hold the first text of a session, take over each text that it is told and hand over
texts itself. After any calls it has the text in `held`, and it was told no text that it had. In the
middle of an operation it has the text in `held` too, and after an action that changed something it
has what shows. Whether it hands back what it is told makes no difference, as long as it hands over
nothing else. -/
theorem emission_exact (query : Text) (catalog : Catalog) (limit entityLimit : Int)
    (echoes : Bool) (cs : List Call) :
    let s (back : Bool) := { start query catalog limit entityLimit with echoes := back }
    let t := (s echoes).calls cs
    let history := (s echoes).history cs
    heldAfter query history = t.held ∧
      (∀ pre text, pre ++ [.notice (.told text)] <+: history → text ≠ heldAfter query pre) ∧
      (∀ u, Moves t u → heldAfter query (history ++ t.heardSince u) = u.held ∧
        ∀ a, (u.dispatch a true).2 = true →
          heldAfter query (history ++ t.heardSince (u.dispatch a true).1) =
            (u.dispatch a true).1.text) ∧
      ((∀ c ∈ cs, ∀ text, c ≠ .op (.receive text)) →
        ((s true).calls cs).editor = ((s false).calls cs).editor ∧
          ((s true).calls cs).held = ((s false).calls cs).held ∧
          ((s true).calls cs).told = ((s false).calls cs).told) := by
  intro s t history
  obtain ⟨hheld, hfresh⟩ := heldAfter_history (s echoes) cs
  have hmiddle : ∀ u, Informed t u → heldAfter query (history ++ t.heardSince u) = u.held := by
    intro u hu
    rw [heldAfter_append, ← hu.held]
    exact congrArg (heldAfter · _) hheld
  refine ⟨hheld, fun pre text hpre htext => ?_, fun u hu => ⟨?_, fun a hchanged => ?_⟩, fun hcs => ?_⟩
  · exact hfresh pre _ hpre (by rw [htext]; rfl)
  · exact hmiddle u hu.informed
  · rw [← held_of_dispatch_eq_true hchanged]
    exact hmiddle _ (hu.informed.trans (informed_dispatch_emit u a))
  · have h : Alike (s false) (s true) := ⟨rfl, rfl, rfl, rfl, rfl, rfl⟩
    have := h.calls hcs
    exact ⟨this.editor, this.held, this.told⟩

end Session

end FilterBar
