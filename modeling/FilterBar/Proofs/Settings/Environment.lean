import FilterBar.Proofs.Settings.Logging

/-!
# What a variable sets

The environment is put into the mapping of the file before any of it is looked at, so the settings are
read from one mapping that has both. `settings_apply` says what comes of that: each variable sets its
own setting and leaves the others as the file has them, sections that are missing or no mappings
included. A limit that is a number but not a positive one has taken the place of that of the file by
the time it is refused, so the default holds (`refused_limit_hides_file`).
-/

namespace FilterBar

theorem Settings.bound_put (es : Value.Entries) (key name : Text) (default : Nat) (n : Int) :
    (bound (es.put key (.int n)) key name default).1 = if 0 < n then n else default := by
  rw [bound, Value.Entries.get?_put_same]
  simp only
  split <;> rfl

namespace Overrides

open Settings (bound ofEntries part)

variable {α : Type} {set : Value.Entries → α → Value.Entries} {name : Text}

/-! ## The mapping with the variables -/

theorem get?_setIf_ne (h : ∀ es a, (set es a).get? name = es.get? name) (given : Option α)
    (es : Value.Entries) : (setIf set given es).get? name = es.get? name := by
  cases given with
  | none => rfl
  | some a => exact h es a

theorem get?_setIn_ne (es : Value.Entries) {name other : Text} (h : name ≠ other) (key : Text)
    (v : Value) : (setIn es name key v).get? other = es.get? other :=
  es.get?_put_ne h _

theorem get?_setIf_same (value : α → Value) (name : Text) (given : Option α) (es : Value.Entries) :
    (setIf (fun es a => es.put name (value a)) given es).get? name =
      (given.map value).or (es.get? name) := by
  cases given with
  | none => rfl
  | some a => exact es.get?_put_same name (value a)

theorem get?_registry_apply (o : Overrides) (es : Value.Entries) :
    (o.apply es).get? "registry_file" =
      (o.registryFile.map Value.text).or (es.get? "registry_file") := by
  rw [apply, get?_setIf_ne fun es n => get?_setIn_ne es (by decide) _ _,
    get?_setIf_ne fun es t => get?_setIn_ne es (by decide) _ _,
    get?_setIf_ne fun es t => get?_setIn_ne es (by decide) _ _, get?_setIf_same]

theorem part_suggestions_apply (o : Overrides) (es : Value.Entries) :
    part (o.apply es) "suggestions" =
      setIf (fun es n => es.put "limit" (.int n)) o.limit (part es "suggestions") := by
  rw [apply, part_setIf_same, part_setIf_ne fun es t => part_setIn_ne es (by decide) _ _,
    part_setIf_ne fun es t => part_setIn_ne es (by decide) _ _,
    part_setIf_ne fun es t => part_put_ne es (by decide) _]

/-! ## The settings with the variables -/

theorem registryFile_apply (o : Overrides) (es : Value.Entries) :
    (ofEntries (o.apply es)).1.registryFile = o.registryFile.or (ofEntries es).1.registryFile := by
  show (Settings.registry (o.apply es)).1 = o.registryFile.or (Settings.registry es).1
  rw [Settings.registry, get?_registry_apply]
  cases o.registryFile with
  | none => rfl
  | some t => rfl

theorem logging_apply_eq (o : Overrides) (es : Value.Entries) :
    (ofEntries (o.apply es)).1.logging =
      { level := orValue o.logLevel (some (ofEntries es).1.logging.level)
        file := orValue o.logFile (some (ofEntries es).1.logging.file) } := by
  have hgetD : ∀ given v, orValue given v = orValue given (some (v.getD .null)) := by
    rintro (_ | t) (_ | v) <;> rfl
  rw [logging_apply, hgetD, hgetD o.logFile]
  rfl

/-- A number that is set takes the place of what the file has, and is refused if it is not positive. -/
theorem limit_apply (o : Overrides) (es : Value.Entries) :
    (ofEntries (o.apply es)).1.limit =
      match o.limit with
      | some n => if 0 < n then n else Suggestion.defaultLimit
      | none => (ofEntries es).1.limit := by
  show (bound (part (o.apply es) "suggestions") "limit" _ _).1 = _
  rw [part_suggestions_apply]
  cases o.limit with
  | none => rfl
  | some n => exact Settings.bound_put _ _ _ _ n

theorem entityLimit_apply (o : Overrides) (es : Value.Entries) :
    (ofEntries (o.apply es)).1.entityLimit = (ofEntries es).1.entityLimit := by
  show (bound (part (o.apply es) "suggestions") "entity_limit" _ _).1 =
    (bound (part es "suggestions") "entity_limit" _ _).1
  have hget : (part (o.apply es) "suggestions").get? "entity_limit" =
      (part es "suggestions").get? "entity_limit" := by
    rw [part_suggestions_apply, get?_setIf_ne fun es n => es.get?_put_ne (by decide) _]
  rw [bound, hget, bound]

end Overrides

namespace Settings

open Overrides (limitVariable ofEnvironment orValue)

/-- The registry file and what is said about logging are those of the variables, and where a variable is
missing or empty those that the file gives on its own. The limit is that of its variable if this is a
positive number, the default if it is another number, and otherwise that of the file. The limit for
entities is always that of the file. -/
theorem settings_apply (env : Environment) (es : Value.Entries) :
    let file := (ofEntries es).1
    let settings := (ofEntries ((ofEnvironment env).1.apply es)).1
    settings.registryFile = (env.get? "GRAPH_FILTER_REGISTRY").or file.registryFile ∧
      settings.logging =
        { level := orValue (env.get? "GRAPH_FILTER_LOG_LEVEL") (some file.logging.level)
          file := orValue (env.get? "GRAPH_FILTER_LOG") (some file.logging.file) } ∧
      settings.limit =
        (match (env.get? limitVariable).bind Text.readInt? with
          | some n => if 0 < n then n else Suggestion.defaultLimit
          | none => file.limit) ∧
      settings.entityLimit = file.entityLimit := by
  intro file settings
  exact ⟨Overrides.registryFile_apply _ es, Overrides.logging_apply_eq _ es,
    Overrides.limit_apply _ es, Overrides.entityLimit_apply _ es⟩

/-- A limit of nothing puts the default in place of the limit of the file. -/
theorem refused_limit_hides_file :
    let es : Value.Entries := [(.text "suggestions", .map [(.text "limit", .int 5)])]
    let env : Environment := [("GRAPH_FILTER_SUGGESTION_LIMIT", "0")]
    (ofEntries es).1.limit = 5 ∧ env.get? limitVariable = some "0" ∧
      Text.readInt? "0" = some 0 ∧
      (ofEntries ((ofEnvironment env).1.apply es)).1.limit = 12 := by
  decide

end Settings

end FilterBar
