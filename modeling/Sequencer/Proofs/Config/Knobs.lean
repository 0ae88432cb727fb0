import Sequencer.Config.Merge

/-!
# What can be set

A configuration has four knobs. Each stands under a key of its own in one of three tables, and is read from what
the tree of settings has there.
-/

namespace Sequencer

inductive Knob where
  | diagnostics
  | tickInterval
  | maxTicks
  | filter
deriving DecidableEq

namespace Knob

/-- The key of the table that the knob stands in. -/
def table : Knob → String
  | .diagnostics => "engine"
  | .tickInterval | .maxTicks => "driver"
  | .filter => "logging"

def key : Knob → String
  | .diagnostics => "diagnostics"
  | .tickInterval => "tick_interval_ms"
  | .maxTicks => "max_ticks"
  | .filter => "filter"

def Value : Knob → Type
  | .diagnostics => Bool
  | .tickInterval => Nat
  | .maxTicks => Option Nat
  | .filter => String

instance : (k : Knob) → DecidableEq k.Value
  | .diagnostics => inferInstanceAs (DecidableEq Bool)
  | .tickInterval => inferInstanceAs (DecidableEq Nat)
  | .maxTicks => inferInstanceAs (DecidableEq (Option Nat))
  | .filter => inferInstanceAs (DecidableEq String)

/-- How a setting converts. -/
def read? : (k : Knob) → Setting → Option k.Value
  | .diagnostics => Setting.bool?
  | .tickInterval => Setting.natural?
  | .maxTicks => Setting.optional? Setting.natural?
  | .filter => Setting.text?

theorem eq_of_table_of_key {k k' : Knob} (table : k.table = k'.table) (key : k.key = k'.key) : k = k' := by
  cases k <;> cases k' <;> first | rfl | exact absurd table (by decide) | exact absurd key (by decide)

theorem read?_table (k : Knob) (entries : List (String × Setting)) : k.read? (.table entries) = none := by
  cases k <;> rfl

end Knob

namespace Config

def value (c : Config) : (k : Knob) → k.Value
  | .diagnostics => c.engine.diagnostics
  | .tickInterval => c.driver.tickInterval
  | .maxTicks => c.driver.maxTicks
  | .filter => c.logging.filter

/-- The configuration with these values, unless there is none for one of the knobs. -/
def assemble? (values : (k : Knob) → Option k.Value) : Option Config := do
  some ⟨⟨← values .diagnostics⟩, ⟨← values .tickInterval, ← values .maxTicks⟩, ⟨← values .filter⟩⟩

variable {values : (k : Knob) → Option k.Value}

theorem assemble?_of_value {c : Config} (each : ∀ k, values k = some (c.value k)) : assemble? values = some c := by
  simp only [assemble?, each]
  rfl

theorem assemble?_of_none {k : Knob} (missing : values k = none) : assemble? values = none := by
  cases k <;> simp [assemble?, missing]

theorem exists_value (each : ∀ k, values k ≠ none) : ∃ c : Config, ∀ k, values k = some (c.value k) := by
  obtain ⟨diagnostics, first⟩ := Option.ne_none_iff_exists'.mp (each .diagnostics)
  obtain ⟨interval, second⟩ := Option.ne_none_iff_exists'.mp (each .tickInterval)
  obtain ⟨budget, third⟩ := Option.ne_none_iff_exists'.mp (each .maxTicks)
  obtain ⟨filter, fourth⟩ := Option.ne_none_iff_exists'.mp (each .filter)
  exact ⟨⟨⟨diagnostics⟩, ⟨interval, budget⟩, ⟨filter⟩⟩, fun k => by cases k <;> assumption⟩

end Config

/-! ## The tree of settings -/

namespace Knob

/-- What a knob comes to, given the setting for it, if there is one. -/
def settle? (k : Knob) : Option Setting → Option k.Value :=
  Setting.orDefault (({} : Config).value k) k.read?

end Knob

namespace Setting

/-- What the tree has for a knob. -/
def at? (tree : Setting) (k : Knob) : Option Setting :=
  (Table.find? k.table tree.entries).bind fun found => Table.find? k.key found.entries

/-- What the tree has in the table of a knob. -/
def tableOf (tree : Setting) (k : Knob) : List (String × Setting) :=
  (Table.find? k.table tree.entries).elim [] entries

theorem find?_tableOf (tree : Setting) (k : Knob) : Table.find? k.key (tree.tableOf k) = tree.at? k := by
  rw [tableOf, at?]
  cases Table.find? k.table tree.entries <;> rfl

/-- The tree is a table, and where one of the three tables should be, there is a table. -/
structure Sectioned (tree : Setting) : Prop where
  table : ∃ entries, tree = .table entries
  sections : ∀ (k : Knob) found, Table.find? k.table tree.entries = some found → ∃ entries, found = .table entries

section Sectioned

variable {tree : Setting}

/-- Where there is no table, one without entries would be read the same. -/
theorem Sectioned.orDefault_eq {α : Type} {standard : α} {read : Setting → Option α} (h : tree.Sectioned) (k : Knob)
    (bare : read (.table []) = some standard) :
    orDefault standard read (Table.find? k.table tree.entries) = read (.table (tree.tableOf k)) := by
  rw [tableOf]
  cases found : Table.find? k.table tree.entries with
  | none => exact bare.symm
  | some given =>
    obtain ⟨entries, rfl⟩ := h.sections k given found
    rfl

theorem Sectioned.config?_eq (h : tree.Sectioned) :
    tree.config? = Config.assemble? fun k => k.settle? (tree.at? k) := by
  have fields : tree.fields? ["engine", "driver", "logging"] =
      some [Table.find? "engine" tree.entries, Table.find? "driver" tree.entries,
        Table.find? "logging" tree.entries] := by
    obtain ⟨entries, rfl⟩ := h.table
    rfl
  have engine : orDefault {} engine? (Table.find? "engine" tree.entries) =
      engine? (.table (tree.tableOf .diagnostics)) := h.orDefault_eq .diagnostics rfl
  have driver : orDefault {} driver? (Table.find? "driver" tree.entries) =
      driver? (.table (tree.tableOf .maxTicks)) := h.orDefault_eq .maxTicks rfl
  have logging : orDefault {} logging? (Table.find? "logging" tree.entries) =
      logging? (.table (tree.tableOf .filter)) := h.orDefault_eq .filter rfl
  rw [config?, fields]
  simp only [Option.bind_eq_bind, Option.bind_some, engine, driver, logging, Config.assemble?, ← find?_tableOf]
  simp only [engine?, driver?, logging?, fields?, Option.bind_eq_bind, Option.bind_some, Option.bind_assoc, List.map]
  rfl

end Sectioned

end Setting

end Sequencer
