import Mathlib.Tactic.ByContra
import FilterBar.Proofs.Settings.Logging

/-!
# Starting the log again

A log counts as started from the moment that the first start begins, so every start after it does
nothing (`logAfter_cons`). If the first one fails, on a level or a file that cannot be used, it has marked
the log already and may have set its level, and no later start makes up for it:
`starts_atomic_iff` says that a failed start leaves the log as it was just if none fails.

- `Attempt`: a start with the host as it is at the time.
- `Attempt.Usable`: whether what is said about logging can be used.
-/

namespace FilterBar

namespace Host

variable {h : Host} {file : Value} {level : Int}

/-! ## Where a start fails -/

theorem startLog_getD (h : Host) (given : Option Logging) (verbose : Bool) :
    h.startLog given verbose = h.startLog (some (given.getD {})) verbose := rfl

theorem openLog_of_unusable_file (hfile : ¬ (file.isName = true ∧ h.FileLookedUp file)) :
    (h.openLog level file).2 ≠ none ∧
      (h.openLog level file).1.log = { h.log with level := level } := by
  refine ⟨mt openLog_completes_iff.1 hfile, ?_⟩
  rw [openLog_eq]
  cases hname : file.isName with
  | false =>
    rw [logName?_of_not_isName hname]
    rfl
  | true =>
    rw [logName?_of_isName hname]
    cases hgiven : h.namedFile? file with
    | none => exact absurd ⟨hname, by simp [FileLookedUp, hgiven]⟩ hfile
    | some name =>
      have hlook : h.isLookedUp name.text = false := by
        simpa [hname, FileLookedUp, hgiven] using hfile
      have hsame : (h.withLog { h.log with level := level }).openLogFile name =
          (h.withLog { h.log with level := level }, some .pathHoldsZero) :=
        openLogFile_eq_self hlook
      exact congrArg (fun r : Host × Option Fault => r.1.log) hsame

/-! ## One attempt -/

/-- An attempt to start a log: the host as it is then, whatever log it has, and what is given. -/
structure Attempt where
  host : Host
  given : Option Logging
  verbose : Bool

namespace Attempt

variable {a : Attempt} {l : Log}

def on (a : Attempt) (l : Log) : Host × Option Fault :=
  (a.host.withLog l).startLog a.given a.verbose

def logging (a : Attempt) : Logging := a.given.getD {}

/-- The level is not looked at, or it is absent or of a kind that names have. -/
def HasLevel (a : Attempt) : Prop := a.verbose = true ∨ a.logging.level.isName = true

instance (a : Attempt) : Decidable a.HasLevel := inferInstanceAs (Decidable (_ ∨ _))

/-- What is said about logging can be used. -/
structure Usable (a : Attempt) : Prop where
  hasLevel : a.HasLevel
  file : a.logging.file.isName = true
  lookedUp : a.host.FileLookedUp a.logging.file

theorem on_of_started (h : l.started = true) : a.on l = (a.host.withLog l, none) := by
  have hstarted : (a.host.withLog l).log.started = true := h
  rw [on, startLog, if_pos hstarted]

theorem on_of_hasLevel (hnew : l.started = false) (h : a.HasLevel) :
    a.on l = (a.host.withLog { l with started := true }).openLog
      (startLevel a.verbose a.logging.level) a.logging.file := by
  rw [on, startLog_getD]
  exact startLog_eq hnew a.logging h

theorem on_of_usable (hnew : l.started = false) (h : a.Usable) :
    (a.on l).2 = none ∧ (a.on l).1.log =
      { started := true
        level := startLevel a.verbose a.logging.level
        sinks := l.sinks ++ a.host.sinksFor (a.host.namedFile? a.logging.file) } := by
  rw [on_of_hasLevel hnew h.hasLevel]
  exact openLog_of_isName h.file h.lookedUp

def levelLeft (a : Attempt) (l : Log) : Int :=
  if a.HasLevel then startLevel a.verbose a.logging.level else l.level

/-- Any other attempt fails. The log counts as started, and has no sink more than before. -/
theorem on_of_not_usable (hnew : l.started = false) (h : ¬ a.Usable) :
    (a.on l).2 ≠ none ∧
      (a.on l).1.log = { started := true, level := a.levelLeft l, sinks := l.sinks } := by
  by_cases hlevel : a.HasLevel
  · have hfile : ¬ (a.logging.file.isName = true ∧ a.host.FileLookedUp a.logging.file) :=
      fun hfile => h ⟨hlevel, hfile.1, hfile.2⟩
    rw [on_of_hasLevel hnew hlevel, levelLeft, if_pos hlevel]
    exact openLog_of_unusable_file hfile
  · obtain ⟨hverbose, hname⟩ := not_or.1 hlevel
    have heq : a.on l = (a.host.withLog { l with started := true },
        some (.levelNotText a.logging.level.kindName)) := by
      rw [on, startLog_getD, Bool.eq_false_iff.2 hverbose]
      exact startLog_of_unnamed_level hnew (Bool.eq_false_iff.2 hname)
    rw [heq, levelLeft, if_neg hlevel]
    exact ⟨Option.some_ne_none _, rfl⟩

theorem fails_iff (hnew : l.started = false) : (a.on l).2 ≠ none ↔ ¬ a.Usable :=
  ⟨fun hfault h => hfault (on_of_usable hnew h).1, fun h => (on_of_not_usable hnew h).1⟩

theorem started_on (a : Attempt) (l : Log) : (a.on l).1.log.started = true := by
  cases hl : l.started with
  | true =>
    rw [on_of_started hl]
    exact hl
  | false =>
    by_cases h : a.Usable
    · rw [(on_of_usable hl h).2]
    · rw [(on_of_not_usable hl h).2]

end Attempt

/-! ## One after the other -/

/-- The log after a number of attempts, on hosts that may be different each time. -/
def logAfter (l : Log) (as : List Attempt) : Log := as.foldl (fun l a => (a.on l).1.log) l

variable {a : Attempt} {as : List Attempt} {l : Log}

theorem logAfter_of_started (h : l.started = true) (as : List Attempt) : logAfter l as = l := by
  induction as with
  | nil => rfl
  | cons a as ih =>
    rw [logAfter, List.foldl_cons, Attempt.on_of_started h]
    exact ih

/-- Only the first attempt does something to the log. -/
theorem logAfter_cons (l : Log) (a : Attempt) (as : List Attempt) :
    logAfter l (a :: as) = (a.on l).1.log := by
  rw [logAfter, List.foldl_cons]
  exact logAfter_of_started (a.started_on l) as

theorem started_logAfter (h : as ≠ []) (l : Log) : (logAfter l as).started = true := by
  obtain ⟨a, as, rfl⟩ := List.exists_cons_of_ne_nil h
  rw [logAfter_cons]
  exact a.started_on l

theorem length_sinksFor_le (h : Host) (name? : Option LogName) : (h.sinksFor name?).length ≤ 1 := by
  unfold sinksFor
  split
  · exact Nat.le_refl 1
  · split
    · exact Nat.le_refl 1
    · exact Nat.zero_le 1

theorem length_sinks_logAfter_le (as : List Attempt) : (logAfter {} as).sinks.length ≤ 1 := by
  cases as with
  | nil => exact Nat.zero_le 1
  | cons a as =>
    rw [logAfter_cons]
    by_cases h : a.Usable
    · rw [(Attempt.on_of_usable rfl h).2]
      exact length_sinksFor_le a.host _
    · rw [(Attempt.on_of_not_usable rfl h).2]
      exact Nat.zero_le 1

/-- Each attempt that fails leaves the log as it was. -/
def Atomic (as : List Attempt) : Prop :=
  ∀ before a, before ++ [a] <+: as → (a.on (logAfter {} before)).2 ≠ none →
    (a.on (logAfter {} before)).1.log = logAfter {} before

/-- After any attempts to start a log there is one sink at most, and one more attempt leaves the host as
it is unless it is the first. That an attempt which fails leaves the log as it was is so just if the
first one can use what it is given. If it cannot, it sets the level unless it fails on it, and the log
stays without a sink. -/
theorem starts_atomic_iff (as : List Attempt) :
    (logAfter {} as).sinks.length ≤ 1 ∧
      (as ≠ [] → ∀ a : Attempt, a.on (logAfter {} as) = (a.host.withLog (logAfter {} as), none)) ∧
      (Atomic as ↔ ∀ a ∈ as.head?, a.Usable) ∧
      ∀ a ∈ as.head?, ¬ a.Usable →
        logAfter {} as = { started := true, level := a.levelLeft {}, sinks := [] } := by
  refine ⟨length_sinks_logAfter_le as, fun hne a => ?_, ⟨fun h a ha => ?_, ?_⟩,
    fun a ha hunusable => ?_⟩
  · exact Attempt.on_of_started (started_logAfter hne {})
  · -- An attempt that fails has marked the log.
    by_contra hunusable
    obtain ⟨as, rfl⟩ := List.head?_eq_some_iff.1 ha
    obtain ⟨hfault, hlog⟩ := Attempt.on_of_not_usable (l := {}) rfl hunusable
    have hsame := h [] a (by simp) hfault
    rw [show logAfter {} [] = {} from rfl, hlog] at hsame
    exact Bool.noConfusion (congrArg Log.started hsame)
  · intro h before a hprefix hfault
    cases before with
    | nil =>
      obtain ⟨later, rfl⟩ := hprefix
      exact absurd (h a rfl) ((Attempt.fails_iff rfl).1 hfault)
    | cons b before =>
      rw [Attempt.on_of_started (started_logAfter (List.cons_ne_nil b before) {})] at hfault
      exact absurd rfl hfault
  · obtain ⟨as, rfl⟩ := List.head?_eq_some_iff.1 ha
    rw [logAfter_cons]
    exact (Attempt.on_of_not_usable rfl hunusable).2

/-- After a level or a file that is a number, a level and a file that can be used are not looked at. -/
theorem failed_start_marks_log :
    let host : Host := { disk := { workingDirectory := ⟨"/", []⟩ }, home := "/", clock := "00:00:00" }
    let level : Attempt := ⟨host, some { level := .int 5 }, false⟩
    let file : Attempt := ⟨host, some { level := .text "info", file := .int 5 }, false⟩
    let good : Attempt := ⟨host, some { level := .text "debug", file := .text "a.log" }, false⟩
    ¬ Atomic [level, good] ∧
      (level.on {}).2 = some (.levelNotText "int") ∧ (file.on {}).2 = some (.fileNotText "int") ∧
      logAfter {} [level, good] = { started := true, level := 0, sinks := [] } ∧
      logAfter {} [file, good] = { started := true, level := 20, sinks := [] } ∧
      logAfter {} [good] = { started := true, level := 10, sinks := [.file ["a.log"]] } := by
  intro host level file good
  have hlevel : (level.on {}).2 = some (.levelNotText "int") := by decide
  refine ⟨fun h => ?_, hlevel, by decide, by decide, by decide, by decide⟩
  have hsame := h [] level (by simp) (by rw [show logAfter {} [] = {} from rfl, hlevel]; simp)
  exact absurd hsame (by decide)

end Host

end FilterBar
