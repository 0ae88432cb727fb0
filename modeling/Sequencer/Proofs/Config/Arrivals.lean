import Sequencer.Proofs.Config.Printing
import Sequencer.Proofs.Config.Spellings

/-!
# A filter from a variable

A filter in a file is taken as it stands. The same text in a variable is read as a boolean or as a number first, and so
it may arrive in another spelling.
-/

namespace Sequencer

/-! ## The table of the filter -/

namespace Setting

variable {tree value : Setting} {c : Config} {filter : String}

theorem config?_table (entries : List (String × Setting)) : config? (.table entries) =
    (orDefault {} engine? (Table.find? "engine" entries)).bind fun engine =>
      (orDefault {} driver? (Table.find? "driver" entries)).bind fun driver =>
        (orDefault {} logging? (Table.find? "logging" entries)).bind fun logging => some ⟨engine, driver, logging⟩ := rfl

theorem config?_put_filter (table : ∃ entries, tree = .table entries) (converted : tree.config? = some c)
    (reads : value.text? = some filter) (inner : List (String × Setting)) :
    (tree.put "logging" (.table (Table.upsert "filter" value inner))).config? =
      some { c with logging := ⟨filter⟩ } := by
  obtain ⟨entries, rfl⟩ := table
  rw [config?_table] at converted
  obtain ⟨engine, first, converted⟩ := Option.bind_eq_some_iff.mp converted
  obtain ⟨driver, second, converted⟩ := Option.bind_eq_some_iff.mp converted
  obtain ⟨logging, -, converted⟩ := Option.bind_eq_some_iff.mp converted
  obtain rfl := Option.some.inj converted
  have new : orDefault {} logging? (some (.table (Table.upsert "filter" value inner))) = some ⟨filter⟩ := by
    simp [orDefault, logging?, fields?, Table.find?_upsert, reads]
  rw [put, config?_table]
  simp [Table.find?_upsert, Setting.entries, first, second, new]

theorem assign?_filter (leaf : ∀ entries, value ≠ .table entries) (tree : Setting) :
    assign? value (pathOf "logging.filter") tree = some (tree.put "logging"
      (.table (Table.upsert "filter" value ((Table.find? "logging" tree.entries).getD .empty).entries))) := by
  have path : pathOf "logging.filter" = [.key "logging", .key "filter"] := by decide +kernel
  have outer : Text.lowercase "logging" = "logging" := by decide +kernel
  have last : Text.lowercase "filter" = "filter" := by decide +kernel
  simp only [path, assign?, outer, mergeKey_of_leaf leaf, last, Option.bind_eq_bind, Option.bind_some, put]

end Setting

namespace ConfigSource

open Setting

variable {s : ConfigSource} {files env : Texts} {entries : List (String × Toml)} {tree new : Setting} {c : Config}
  {text : String}

/-! ## A layer with a filter -/

theorem isTable_of_addLayer? {layer : Layer} (h : addLayer? tree layer = some new)
    (table : ∃ entries, tree = .table entries) : ∃ entries, new = .table entries := by
  induction layer generalizing tree with
  | nil =>
    obtain rfl := Option.some.inj h
    exact table
  | cons setting rest ih =>
    obtain ⟨name, value⟩ := setting
    rw [addLayer?_cons] at h
    obtain ⟨mid, assigned, added⟩ := Option.bind_eq_some_iff.mp h
    obtain ⟨first, path, spelled⟩ := exists_pathOf name
    rw [spelled] at assigned
    obtain ⟨inner, rfl, -⟩ := assign?_key assigned
    exact ih added ⟨_, rfl⟩

theorem variableLayer_filter (s : ConfigSource) (env : Texts) :
    s.variableLayer (env.filter fun v => (s.settingName? v.1).isSome) = s.variableLayer env := by
  induction env with
  | nil => rfl
  | cons v rest ih =>
    rw [variableLayer, variableLayer] at ih
    cases named : s.settingName? v.1 <;> simp [variableLayer, named, ih]

def filterVariable : String := "SEQUENCE_LOGGING__FILTER"

theorem settingName?_filterVariable (origin : s.envPrefix = "SEQUENCE") :
    s.settingName? filterVariable = some "logging.filter" := by
  have named : settingName? {} filterVariable = some "logging.filter" := by decide +kernel
  rw [settingName?, origin]
  exact named

theorem load_filterVariable (origin : s.envPrefix = "SEQUENCE") (alone : s.load files [] = .ok c)
    (only : (env.filter fun v => (s.settingName? v.1).isSome) = [(filterVariable, text)])
    {filter : String} (reads : (ofVariable text).text? = some filter) :
    s.load files env = ({ c with logging := ⟨filter⟩ } : Config).checked := by
  obtain ⟨entries, tree, read, added, converted⟩ := exists_tree_of_load alone
  obtain ⟨base, below, bare⟩ := Option.bind_eq_some_iff.mp added
  obtain rfl : base = tree := Option.some.inj bare
  have layer : s.variableLayer env = [("logging.filter", ofVariable text)] := by
    rw [← variableLayer_filter, only]
    simp [variableLayer, settingName?_filterVariable origin]
  have whole : s.tree? entries env = assign? (ofVariable text) (pathOf "logging.filter") base := by
    rw [tree?, below, layer, Option.bind_eq_bind, Option.bind_some, addLayer?_cons]
    exact Option.bind_fun_some _
  rw [assign?_filter (ofVariable_ne_table text)] at whole
  rw [load_eq read whole, config?_put_filter (isTable_of_addLayer? below ⟨[], rfl⟩) converted reads]

theorem problem?_of_load (loaded : s.load files env = .ok c) : c.problem? = none := by
  obtain ⟨entries, tree, read, added, converted⟩ := exists_tree_of_load loaded
  rw [load_eq read added, converted] at loaded
  dsimp only at loaded
  rw [Config.checked] at loaded
  split at loaded
  · cases loaded
  · next fine => exact fine

theorem checked_filter (loaded : s.load files env = .ok c) {filter : String} (visible : Text.allBlank filter = false) :
    ({ c with logging := ⟨filter⟩ } : Config).checked = .ok { c with logging := ⟨filter⟩ } := by
  have pause : c.driver.tickInterval ≠ 0 := fun zero => by
    have fine := problem?_of_load loaded
    simp [Config.problem?, zero] at fine
  simp [Config.checked, Config.problem?, pause, visible]

/-! ## A file with a filter -/

theorem load_filterFile (alone : s.load files [] = .ok c) (visible : Text.allBlank text = false) {files' : Texts}
    (read : s.fileEntries files' = .ok entries) (tidy : TidyFile entries)
    (whole : s.load files' [] ≠ .error .overflow)
    (others : ∀ k : Knob, k ≠ .filter → k.settle? (k.inFile? entries) = some (c.value k))
    (filter : Knob.filter.inFile? entries = some (.text text)) :
    s.load files' [] = .ok { c with logging := ⟨text⟩ } := by
  cases added : s.tree? entries [] with
  | none =>
    refine absurd ?_ whole
    simp only [load, read, bind, Except.bind, added]
    rfl
  | some tree =>
    have unset : TidyVariables s [] := by rintro v ⟨⟩
    obtain ⟨sectioned, each⟩ := settle?_tree? tidy unset added
    -- Of the knobs only the filter has another value.
    have values : ∀ k : Knob, k.settle? (tree.at? k) = some (({ c with logging := ⟨text⟩ } : Config).value k) := by
      intro k
      have own : s.winner? entries [] k = k.inFile? entries := Option.none_or
      rw [each, own]
      cases k with
      | filter => rw [filter]; rfl
      | _ => exact others _ (by decide)
    rw [load_eq read added, sectioned.config?_eq, Config.assemble?_of_value values]
    exact checked_filter alone visible

/-! ## The main result -/

/--
A file that loads by itself loads with a variable for the filter, too. The filter is then the text of the variable
exactly if that is spelled like the value it reads as, while a file that has the text as its filter gives the text in
any case.
-/
theorem load_filter_arrives (origin : s.envPrefix = "SEQUENCE") (alone : s.load files [] = .ok c)
    (only : (env.filter fun v => (s.settingName? v.1).isSome) = [(filterVariable, text)])
    (visible : Text.allBlank text = false) :
    (∃ filter, (ofVariable text).text? = some filter ∧ s.load files env = .ok { c with logging := ⟨filter⟩ }) ∧
    (s.load files env = .ok { c with logging := ⟨text⟩ } ↔ IsSpelled text) ∧
    ∀ files' entries, s.fileEntries files' = .ok entries → TidyFile entries → s.load files' [] ≠ .error .overflow →
      (∀ k : Knob, k ≠ .filter → k.settle? (k.inFile? entries) = some (c.value k)) →
      Knob.filter.inFile? entries = some (.text text) → s.load files' [] = .ok { c with logging := ⟨text⟩ } := by
  obtain ⟨filter, reads, spelled, seen⟩ := text?_ofVariable text
  have loaded := (load_filterVariable origin alone only reads).trans (checked_filter alone (seen visible))
  refine ⟨⟨filter, reads, loaded⟩, ?_, fun files' entries => load_filterFile alone visible⟩
  rw [loaded, ← spelled]
  simp

/-! ### A filter that looks like a number -/

def numbered : Config := { logging := ⟨"007"⟩ }

def numberedText : String :=
  "[engine]\ndiagnostics = true\n\n[driver]\ntick_interval_ms = 16\n\n[logging]\nfilter = \"007\"\n"

theorem fileEntries_numberedText : fileEntries {} [("sequence.toml", numberedText)] = .ok numbered.entries := by
  have lines : numbered.toToml? = some numberedText.toList := by decide +kernel
  have written : numbered.toToml = .ok numberedText := by
    rw [Config.toToml, lines]
    have countable : Toml.isCountable numbered.logging.filter.toList = true := by decide +kernel
    dsimp only
    rw [countable, String.ofList_toList]
    rfl
  exact fileEntries_defaultName (ofText?_toToml written)

theorem load_numberedText : load {} [("sequence.toml", numberedText)] [] = .ok numbered := by
  have unset : ∀ v ∈ ([] : Texts), settingName? {} v.1 = none := fun v there => nomatch there
  have tree : tree? {} numbered.entries [] = some numbered.tree := Config.tree?_entries numbered {} unset
  rw [load_eq fileEntries_numberedText tree, Config.config?_tree]
  rfl

/-- The variable over the file leaves the filter as it is spelled if it begins with a word. -/
theorem load_filter_arrives_word :
    load {} [("sequence.toml", numberedText)] [("HOME", "/"), (filterVariable, "engine=007")] =
      .ok { logging := ⟨"engine=007"⟩ } := by
  have only : (([("HOME", "/"), (filterVariable, "engine=007")] : Texts).filter
      fun v => (settingName? {} v.1).isSome) = [(filterVariable, "engine=007")] := by decide +kernel
  obtain ⟨-, spelled, -⟩ := load_filter_arrives rfl load_numberedText only (by decide)
  exact spelled.mpr (by decide +kernel)

/-- In a variable a filter of digits loses its zeros, and in a file it does not. -/
theorem load_respelled : load {} [] [] = .ok {} ∧ Text.allBlank "007" = false ∧
    load {} [] [(filterVariable, "007")] = .ok { logging := ⟨"7"⟩ } ∧
    load {} [] [(filterVariable, "007")] ≠ .ok numbered ∧
    load {} [("sequence.toml", numberedText)] [] = .ok numbered := by
  have bare : load {} [] [] = .ok {} :=
    calc load {} [] []
      _ = Config.checked {} := load_of_config? fileEntries_nil (by decide +kernel)
      _ = .ok {} := rfl
  have loaded : load {} [] [(filterVariable, "007")] = .ok { logging := ⟨"7"⟩ } :=
    calc load {} [] [(filterVariable, "007")]
      _ = Config.checked { logging := ⟨"7"⟩ } := load_of_config? fileEntries_nil (by decide +kernel)
      _ = .ok { logging := ⟨"7"⟩ } := rfl
  refine ⟨bare, by decide, loaded, ?_, load_numberedText⟩
  rw [loaded]
  decide

end ConfigSource

end Sequencer
