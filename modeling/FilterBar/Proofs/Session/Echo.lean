import FilterBar.Proofs.Session.Run

/-!
# Echoes on their way

A relay is a session whose parent hands back every text it was told, in order and some time later,
and nothing else. The session knows one text for its echo, the last one told. So a delivery is quiet
as long as what arrives is that text, and the first older text that differs from it rebuilds the
editor: `deliveries_quiet_iff`.

While deliveries are quiet the session shows the text last told, and the parent is taken to hold it:
`Calm`.
-/

namespace FilterBar

def Notice.told? : Notice → Option Text
  | .told query => some query
  | .echoed _ => none

def Session.told (s : Session) : List Text := s.notices.filterMap Notice.told?

/-- A session with the number of told texts that have come back. -/
structure Relay where
  session : Session
  delivered : Nat := 0

namespace Relay

variable {r : Relay}

def start (query : Text) (catalog : Catalog) (limit entityLimit : Int) : Relay :=
  { session := .start query catalog limit entityLimit }

/-- The told texts that have not come back, oldest first. -/
def inFlight (r : Relay) : List Text := r.session.told.drop r.delivered

def act (r : Relay) (a : Editor.Action) : Relay :=
  { r with session := (r.session.dispatch a true).1 }

/-- The oldest text in flight comes back, if there is one. -/
def deliver (r : Relay) : Relay :=
  match r.inFlight with
  | [] => r
  | query :: _ => { session := (r.session.receive query).1, delivered := r.delivered + 1 }

inductive Event where
  | act (a : Editor.Action)
  | deliver

def step (r : Relay) : Event → Relay
  | .act a => r.act a
  | .deliver => r.deliver

def run (r : Relay) (es : List Event) : Relay := es.foldl step r

/-- The next delivery reports no rebuilding and leaves the editor as it is. -/
def Quiet (r : Relay) : Prop :=
  ∀ query ∈ r.inFlight.head?,
    (r.session.receive query).2 = false ∧ (r.session.receive query).1.editor = r.session.editor

instance (r : Relay) : Decidable r.Quiet :=
  inferInstanceAs (Decidable (∀ query ∈ r.inFlight.head?, _ ∧ _))

/-- Once a text was told, the session shows the one told last and takes the parent to hold it, and
it waits for the echo of no other. -/
structure Calm (r : Relay) : Prop where
  apart : r.session.echoes = false
  shown : ∀ query, r.session.told.getLast? = some query → r.session.text = query
  held : ∀ query, r.session.told.getLast? = some query → r.session.held = query
  pending : ∀ query, r.session.pending = some query → r.session.told.getLast? = some query

/-! ## Actions -/

theorem told_tell (s : Session) (query : Text) : (s.tell query).told = s.told ++ [query] := by
  cases h : s.echoes <;> simp [Session.told, Session.tell_eq, h, Notice.told?]

theorem Calm.act (h : r.Calm) (a : Editor.Action) : (r.act a).Calm := by
  rcases Session.dispatch_emit r.session a with ⟨hs, hsame⟩ | ⟨hs, -⟩
  · have htext : ∀ query, r.session.told.getLast? = some query →
        (r.session.showing a).text = query := by
      intro query hq
      rcases hsame with hsame | htext
      · rw [Session.text, Session.showing, hsame]
        exact h.shown query hq
      · rw [htext]
        exact h.held query hq
    unfold Relay.act
    rw [hs]
    exact ⟨h.apart, htext, h.held, h.pending⟩
  · have hlast : ((r.session.showing a).tell (r.session.showing a).text).told.getLast? =
        some (r.session.showing a).text := by
      rw [told_tell, List.getLast?_append]
      rfl
    unfold Relay.act
    rw [hs]
    refine ⟨?_, ?_, ?_, ?_⟩
    · rw [Session.tell_eq]; exact h.apart
    · intro query hq
      rw [hlast] at hq
      rw [Session.tell_eq]
      exact Option.some.inj hq
    · intro query hq
      rw [hlast] at hq
      rw [Session.tell_eq]
      exact Option.some.inj hq
    · intro query hq
      rw [hlast]
      simpa [Session.tell_eq, Session.showing, h.apart] using hq

/-! ## Deliveries -/

/-- The editor is left alone just by the pending text and by the text that shows. -/
theorem receive_quiet_iff (s : Session) (query : Text) :
    ((s.receive query).2 = false ∧ (s.receive query).1.editor = s.editor) ↔
      s.pending = some query ∨ query = s.text := by
  unfold Session.receive
  split
  · next hp => simp [hp]
  · next hp =>
    by_cases hq : query = s.text
    · simp [hq, Session.text]
    · have : query ≠ ({ s with held := query } : Session).text := hq
      simp [hp, hq, this]

theorem receive_of_quiet {s : Session} {query : Text} (h : s.pending = some query ∨ query = s.text) :
    ∃ p, (p = none ∨ p = s.pending) ∧
      (s.receive query).1 = { s with pending := p, held := query } := by
  unfold Session.receive
  split
  · exact ⟨none, .inl rfl, rfl⟩
  · next hp =>
    have hq : query = ({ s with held := query } : Session).text := h.resolve_left hp
    exact ⟨s.pending, .inr rfl, by simp only [if_pos hq]⟩

theorem getLast?_inFlight {query : Text} (h : query ∈ r.inFlight.head?) :
    r.inFlight.getLast? = r.session.told.getLast? := by
  unfold inFlight at *
  rw [List.getLast?_drop, if_neg]
  intro hle
  simp [List.drop_eq_nil_of_le hle] at h

theorem Calm.quiet_iff (h : r.Calm) : r.Quiet ↔ r.inFlight.head? = r.inFlight.getLast? := by
  unfold Quiet
  cases hf : r.inFlight with
  | nil => simp
  | cons query rest =>
    have hmem : query ∈ r.inFlight.head? := by simp [hf]
    have hlast : (query :: rest).getLast? = r.session.told.getLast? :=
      hf ▸ getLast?_inFlight hmem
    obtain ⟨last, hl⟩ : ∃ last, (query :: rest).getLast? = some last :=
      ⟨_, List.getLast?_eq_some_getLast (List.cons_ne_nil query rest)⟩
    have hl' := hlast.symm.trans hl
    rw [hl]
    simp only [List.head?_cons, Option.mem_some_iff, forall_eq', receive_quiet_iff,
      Option.some.injEq, h.shown last hl']
    constructor
    · rintro (hp | hq)
      · exact Option.some.inj ((h.pending query hp).symm.trans hl')
      · exact hq
    · exact .inr

theorem Calm.deliver (h : r.Calm) (hq : r.Quiet) : r.deliver.Calm := by
  have heq := h.quiet_iff.1 hq
  unfold Relay.deliver
  split
  · exact h
  · next query rest hf =>
    have hmem : query ∈ r.inFlight.head? := by simp [hf]
    have hlast : r.session.told.getLast? = some query := by
      rw [← getLast?_inFlight hmem, ← heq]
      exact hmem
    obtain ⟨p, hp, hs⟩ := receive_of_quiet ((receive_quiet_iff _ _).1 (hq query hmem))
    simp only [hs]
    refine ⟨h.apart, h.shown, fun q hq => Option.some.inj (hlast.symm.trans hq), fun q hq => ?_⟩
    rcases hp with rfl | rfl
    · cases hq
    · exact h.pending q hq

/-! ## Runs -/

theorem Calm.step (h : r.Calm) {e : Event} (hq : e = .deliver → r.Quiet) : (r.step e).Calm := by
  cases e with
  | act a => exact h.act a
  | deliver => exact h.deliver (hq rfl)

theorem run_quiet_iff (h : r.Calm) (es : List Event) :
    (∀ pre e, pre ++ [e] <+: es → e = .deliver → (r.run pre).Quiet) ↔
      ∀ pre e, pre ++ [e] <+: es → e = .deliver →
        (r.run pre).inFlight.head? = (r.run pre).inFlight.getLast? := by
  induction es generalizing r with
  | nil => simp
  | cons e es ih =>
    rw [Session.forall_next_cons, Session.forall_next_cons]
    have hnow : (e = .deliver → r.Quiet) ↔
        (e = .deliver → r.inFlight.head? = r.inFlight.getLast?) :=
      imp_congr_right fun _ => h.quiet_iff
    constructor
    · rintro ⟨h₀, h₁⟩
      exact ⟨hnow.1 h₀, (ih (h.step h₀)).1 h₁⟩
    · rintro ⟨h₀, h₁⟩
      exact ⟨hnow.2 h₀, (ih (h.step (hnow.2 h₀))).2 h₁⟩

theorem calm_start (query : Text) (catalog : Catalog) (limit entityLimit : Int) :
    (start query catalog limit entityLimit).Calm :=
  ⟨rfl, nofun, nofun, nofun⟩

/-- From whatever text, all deliveries of a run are quiet just if each brings back the text told
last. One text in flight at a time is enough. -/
theorem deliveries_quiet_iff (query : Text) (catalog : Catalog) (limit entityLimit : Int)
    (es : List Event) :
    let r := start query catalog limit entityLimit
    (∀ pre, pre ++ [.deliver] <+: es → (r.run pre).Quiet) ↔
      ∀ pre, pre ++ [.deliver] <+: es →
        (r.run pre).inFlight.head? = (r.run pre).inFlight.getLast? := by
  intro r
  have h := run_quiet_iff (calm_start query catalog limit entityLimit) es
  constructor
  · intro hq pre hpre
    exact h.1 (fun pre' _ hpre' he => hq pre' (he ▸ hpre')) pre .deliver hpre rfl
  · intro hq pre hpre
    exact h.2 (fun pre' _ hpre' he => hq pre' (he ▸ hpre')) pre .deliver hpre rfl

/-- The echo of the first of two texts in flight rebuilds the editor. -/
theorem not_quiet_of_two_in_flight :
    ¬ ((start [] {} 12 3).run [.act (.setDraft "a"), .act (.setDraft "b")]).Quiet := by
  decide

end Relay

end FilterBar
