import FilterBar.Host

/-!
# What settings make of the log

The settings of a mapping are read without a fault, whatever it holds: what cannot be used gives way to
a default. The entries about logging are the exception. They are passed on as they are, and starting
the log finds the fault: `startLog_completes_iff` says when that happens, and how the log starts if it
does not.

- `logging_apply`: the entries about logging, with the variables that go before them.
- `Value.isName`: whether a value is absent or of a kind that names have.
- `Host.sinksFor`: where the lines of a log go.
-/

namespace FilterBar

/-! ## Variables before entries -/

namespace Overrides

open Settings (part)

variable {α : Type} {set : Value.Entries → α → Value.Entries} {name : Text}

theorem part_setIn_same (es : Value.Entries) (name key : Text) (v : Value) :
    part (setIn es name key v) name = (part es name).put key v := by
  rw [part, setIn, Value.Entries.get?_put_same]
  rfl

theorem part_put_ne (es : Value.Entries) {name other : Text} (h : name ≠ other) (v : Value) :
    part (es.put name v) other = part es other := by
  rw [part, Value.Entries.get?_put_ne _ h, part]

theorem part_setIn_ne (es : Value.Entries) {name other : Text} (h : name ≠ other) (key : Text)
    (v : Value) : part (setIn es name key v) other = part es other :=
  part_put_ne es h _

theorem part_setIf_same (value : α → Value) (name key : Text) (given : Option α)
    (es : Value.Entries) :
    part (setIf (fun es a => setIn es name key (value a)) given es) name =
      setIf (fun es a => es.put key (value a)) given (part es name) := by
  cases given with
  | none => rfl
  | some a => exact part_setIn_same es name key (value a)

theorem part_setIf_ne (h : ∀ es a, part (set es a) name = part es name) (given : Option α)
    (es : Value.Entries) : part (setIf set given es) name = part es name := by
  cases given with
  | none => rfl
  | some a => exact h es a

theorem part_logging_apply (o : Overrides) (es : Value.Entries) :
    part (o.apply es) "logging" =
      setIf (fun es t => es.put "level" (.text t)) o.logLevel
        (setIf (fun es t => es.put "file" (.text t)) o.logFile (part es "logging")) := by
  rw [apply, part_setIf_ne fun es n => part_setIn_ne es (by decide) _ _, part_setIf_same,
    part_setIf_same, part_setIf_ne fun es t => part_put_ne es (by decide) _]

/-- A value with a text before it. -/
def orValue (given : Option Text) (v : Option Value) : Value :=
  match given with
  | some t => .text t
  | none => v.getD .null

theorem logging_apply (o : Overrides) (es : Value.Entries) :
    (Settings.ofEntries (o.apply es)).1.logging =
      ⟨orValue o.logLevel ((part es "logging").get? "level"),
        orValue o.logFile ((part es "logging").get? "file")⟩ := by
  have hlevel : ∀ es : Value.Entries, ∀ t, (es.put "level" (.text t)).get? "file" = es.get? "file" :=
    fun es t => es.get?_put_ne (by decide) _
  have hfile : ∀ es : Value.Entries, ∀ t, (es.put "file" (.text t)).get? "level" = es.get? "level" :=
    fun es t => es.get?_put_ne (by decide) _
  simp only [Settings.ofEntries, part_logging_apply]
  cases o.logLevel <;> cases o.logFile <;>
    simp only [setIf, orValue, hlevel, hfile, Value.Entries.get?_put_same, Option.getD_some]

end Overrides

/-! ## Names -/

/-- Whether a value is absent or of a kind that names have. -/
def Value.isName (v : Value) : Bool :=
  match v with
  | .text _ | .bytes _ => true
  | v => !v.isTruthy

namespace Log

def known? : Value → Option Int
  | .text t => levels.lookup (t.map upperLetter)
  | _ => none

theorem level?_of_isName {v : Value} (h : v.isName = true) : level? v = .ok (known? v) := by
  cases v with
  | text t =>
    cases t with
    | nil => rfl
    | cons c t => rfl
  | bytes bs => cases bs <;> rfl
  | _ => simp_all [Value.isName, level?, known?]

theorem level?_of_not_isName {v : Value} (h : v.isName = false) :
    level? v = .error (.levelNotText v.kindName) := by
  cases v <;> simp_all [Value.isName, level?]

end Log

namespace Host

variable {h : Host} {name : LogName} {file : Value} {level : Int}

/-- The name of the log file, if there is one. What is given may be of a kind that no name has. -/
def namedFile? (h : Host) (file : Value) : Option LogName :=
  match h.logName? file with
  | .ok name? => name?
  | .error _ => none

theorem logName?_of_isName (hfile : file.isName = true) :
    h.logName? file = .ok (h.namedFile? file) := by
  unfold namedFile? logName?
  split
  · cases file <;> simp_all [Value.isName]
  · rfl

theorem logName?_of_not_isName (hfile : file.isName = false) :
    h.logName? file = .error (.fileNotText file.kindName) := by
  cases file <;> simp_all [Value.isName, logName?]

/-! ## Sinks -/

/-- The sinks of a log with this file. A file that cannot be opened is as good as none. -/
def sinksFor (h : Host) (name? : Option LogName) : List Log.Sink :=
  match name?.bind fun name => (h.disk.openLog (h.logPath name.text)).toOption with
  | some (l, _) => [.file l]
  | none => if h.interactive then [.console] else []

theorem openLogFile_of_isLookedUp (hname : h.isLookedUp name.text = true) :
    (h.openLogFile name).2 = none ∧
      (h.openLogFile name).1.log = { h.log with sinks := h.log.sinks ++ h.sinksFor (some name) } := by
  simp only [openLogFile, hname, Bool.not_true, Bool.false_eq_true, if_false, sinksFor,
    Option.bind_some]
  cases h.disk.openLog (h.logPath name.text) with
  | ok opened => exact ⟨rfl, rfl⟩
  | error cause =>
    cases hi : h.interactive with
    | true => exact ⟨rfl, rfl⟩
    | false => exact ⟨rfl, by simp [Except.toOption]⟩

theorem openLogFile_eq_self (hname : h.isLookedUp name.text = false) :
    h.openLogFile name = (h, some .pathHoldsZero) := by
  simp only [openLogFile, hname, Bool.not_false, if_true]

theorem openLogFile_of_not_isLookedUp (hname : h.isLookedUp name.text = false) :
    (h.openLogFile name).2 = some .pathHoldsZero :=
  congrArg Prod.snd (openLogFile_eq_self hname)

def FileLookedUp (h : Host) (file : Value) : Prop :=
  ∀ name ∈ h.namedFile? file, h.isLookedUp name.text = true

/-! ## Starting -/

/-- The host with another log. Nothing that tells which file is meant depends on the log. -/
def withLog (h : Host) (log : Log) : Host := { h with log := log }

theorem openLog_eq (h : Host) (level : Int) (file : Value) :
    h.openLog level file =
      let leveled := h.withLog { h.log with level := level }
      match h.logName? file with
      | .ok (some name) => leveled.openLogFile name
      | .ok none => (if h.interactive then leveled.addSink .console else leveled, none)
      | .error fault => (leveled, some fault) :=
  rfl

theorem openLog_of_isName (hfile : file.isName = true) (hlook : h.FileLookedUp file) :
    (h.openLog level file).2 = none ∧
      (h.openLog level file).1.log =
        { h.log with level := level, sinks := h.log.sinks ++ h.sinksFor (h.namedFile? file) } := by
  rw [openLog_eq, logName?_of_isName hfile]
  cases hname : h.namedFile? file with
  | none =>
    cases hi : h.interactive with
    | true => exact ⟨rfl, by simp [sinksFor, hi, addSink, withLog]⟩
    | false => exact ⟨rfl, by simp [sinksFor, hi, withLog]⟩
  | some name => exact openLogFile_of_isLookedUp (hlook name hname)

theorem openLog_completes_iff :
    (h.openLog level file).2 = none ↔ file.isName = true ∧ h.FileLookedUp file := by
  refine ⟨fun hnone => ?_, fun ⟨hfile, hlook⟩ => (openLog_of_isName hfile hlook).1⟩
  rw [openLog_eq] at hnone
  cases hfile : file.isName with
  | false =>
    rw [logName?_of_not_isName hfile] at hnone
    cases hnone
  | true =>
    refine ⟨rfl, fun name hname => ?_⟩
    rw [logName?_of_isName hfile, Option.mem_def.1 hname] at hnone
    cases hlook : h.isLookedUp name.text with
    | true => rfl
    | false =>
      have hfault : ((h.withLog { h.log with level := level }).openLogFile name).2 =
          some .pathHoldsZero := openLogFile_of_not_isLookedUp hlook
      cases hnone.symm.trans hfault

def startLevel (verbose : Bool) (level : Value) : Int :=
  if verbose then Log.debug else (Log.known? level).getD Log.warning

theorem startLog_eq (hnew : h.log.started = false) (given : Logging) {verbose : Bool}
    (hlevel : verbose = true ∨ given.level.isName = true) :
    h.startLog (some given) verbose =
      (h.withLog { h.log with started := true }).openLog (startLevel verbose given.level)
        given.file := by
  cases verbose with
  | true => simp [startLog, hnew, startLevel, withLog]
  | false =>
    have hname : given.level.isName = true := by simpa using hlevel
    simp [startLog, hnew, startLevel, withLog, Log.level?_of_isName hname]

/-- A level that is no name is found before anything but the mark is set. -/
theorem startLog_of_unnamed_level (hnew : h.log.started = false) {given : Logging}
    (hlevel : given.level.isName = false) :
    h.startLog (some given) false =
      (h.withLog { h.log with started := true }, some (.levelNotText given.level.kindName)) := by
  simp [startLog, hnew, Log.level?_of_not_isName hlevel, withLog]

theorem startLog_of_not_isName (hnew : h.log.started = false) {given : Logging}
    (hlevel : given.level.isName = false) :
    (h.startLog (some given) false).2 = some (.levelNotText given.level.kindName) :=
  congrArg Prod.snd (startLog_of_unnamed_level hnew hlevel)

end Host

namespace Settings

open Overrides (orValue)

/-- Settings can always be read from a mapping and the environment. What they say about logging stops
the start of the log just if the log has not been started yet and it is not verbose and the level is
given but no name, or the file is given but no name, or its path holds a zero character. Where the
start is not stopped, a level that is not known and a file that cannot be opened are as good as none. -/
theorem startLog_completes_iff (h : Host) (env : Environment) (es : Value.Entries)
    (verbose : Bool) :
    let given := (ofEntries ((Overrides.ofEnvironment env).1.apply es)).1.logging
    let level := orValue (env.get? "GRAPH_FILTER_LOG_LEVEL") ((part es "logging").get? "level")
    let file := orValue (env.get? "GRAPH_FILTER_LOG") ((part es "logging").get? "file")
    let started := h.startLog (some given) verbose
    given = ⟨level, file⟩ ∧
      (started.2 = none ↔ h.log.started = true ∨
        ((verbose = true ∨ level.isName = true) ∧ file.isName = true ∧ h.FileLookedUp file)) ∧
      (h.log.started = true → started.1.log = h.log) ∧
      (h.log.started = false → started.2 = none → started.1.log =
        { started := true
          level := Host.startLevel verbose level
          sinks := h.log.sinks ++ h.sinksFor (h.namedFile? file) }) := by
  intro given level file started
  have hgiven : given = ⟨level, file⟩ := Overrides.logging_apply _ es
  refine ⟨hgiven, ?_⟩
  cases hnew : h.log.started with
  | true =>
    have hstarted : started = (h, none) := by simp [started, Host.startLog, hnew]
    simp [hstarted]
  | false =>
    simp only [Bool.false_eq_true, false_or, false_implies, true_and, forall_const]
    by_cases hlevel : verbose = true ∨ level.isName = true
    · have hstarted : started =
          (h.withLog { h.log with started := true }).openLog (Host.startLevel verbose level) file := by
        simp only [started, hgiven, Host.startLog_eq hnew ⟨level, file⟩ hlevel]
      rw [hstarted, Host.openLog_completes_iff]
      refine ⟨(and_iff_right hlevel).symm, fun ⟨hfile, hlook⟩ => ?_⟩
      exact (Host.openLog_of_isName hfile hlook).2
    · obtain ⟨hverbose, hname⟩ := not_or.1 hlevel
      have hfault : started.2 = some (.levelNotText level.kindName) := by
        simp only [started, hgiven, Bool.eq_false_iff.2 hverbose]
        exact Host.startLog_of_not_isName hnew (Bool.eq_false_iff.2 hname)
      simp [hfault, hlevel]

/-- A level that is a number ends the run, although the number is ignored where the run is verbose. -/
theorem numeric_level_stops :
    let es : Value.Entries := [(.text "logging", .map [(.text "level", .int 5)])]
    let h : Host := { disk := { workingDirectory := ⟨"/", []⟩ }, home := "/", clock := "00:00:00" }
    let given := (ofEntries ((Overrides.ofEnvironment []).1.apply es)).1.logging
    (h.startLog (some given) false).2 = some (.levelNotText "int") ∧
      (h.startLog (some given) true).2 = none := by
  decide

end Settings

end FilterBar
