import Sequencer.Config.Load
import Sequencer.Config.Render
import Sequencer.Proofs.Toml.Lines

/-!
# A configuration is read back as it was written

The text of a configuration makes one statement a line, the statements make three tables, and the tables are
what the records are filled from.
-/

namespace Sequencer

variable {c : Config} {cs : List Char}

namespace Config

/-! ## What the text says -/

def budgetStatements : Option Nat → List Toml.Statement
  | none => []
  | some n => [.pair [] "max_ticks" (.integer n)]

def statements (c : Config) : List Toml.Statement :=
  [.table [] "engine", .pair [] "diagnostics" (.bool c.engine.diagnostics),
    .table [] "driver", .pair [] "tick_interval_ms" (.integer c.driver.tickInterval)] ++
    budgetStatements c.driver.maxTicks ++
    [.table [] "logging", .pair [] "filter" (.text c.logging.filter)]

def budgetEntries : Option Nat → List (String × Toml)
  | none => []
  | some n => [("max_ticks", .integer n)]

def entries (c : Config) : List (String × Toml) :=
  [("engine", .table [("diagnostics", .bool c.engine.diagnostics)]),
    ("driver", .table (("tick_interval_ms", .integer c.driver.tickInterval) :: budgetEntries c.driver.maxTicks)),
    ("logging", .table [("filter", .text c.logging.filter)])]

theorem reads_number? {n : Nat} {digits : List Char} (h : number? n = some digits) :
    Toml.Reads digits (.integer n) := by
  unfold number? at h
  split at h
  · next small =>
    cases h
    exact Toml.reads_toDigits small
  · cases h

theorem readStatements_budget? {budget : Option Nat} {written rest : List Char} {behind : List Toml.Statement} {need : Nat}
    (h : budget? budget = some written)
    (reads : ∀ fuel, Toml.readStatements (fuel + need) rest = some behind) (fuel : Nat) :
    Toml.readStatements (fuel + need + 1) (written ++ rest) = some (budgetStatements budget ++ behind) := by
  cases budget with
  | none =>
    cases h
    rw [List.nil_append, Nat.add_right_comm, reads]
    rfl
  | some n =>
    obtain ⟨digits, number, rfl⟩ := Option.map_eq_some_iff.1 h
    have bare : Toml.IsBare "max_ticks" := ⟨rfl, rfl⟩
    rw [Toml.readStatements_line bare (reads_number? number), reads]
    rfl

theorem toToml?_eq_some (h : c.toToml? = some cs) : ∃ interval budget,
    number? c.driver.tickInterval = some interval ∧ budget? c.driver.maxTicks = some budget ∧
      cs = '[' :: ("engine".toList ++ ']' :: '\n' ::
        (line "diagnostics" (toString c.engine.diagnostics).toList ++ '\n' :: '[' :: ("driver".toList ++ ']' :: '\n' ::
          (line "tick_interval_ms" interval ++ (budget ++ '\n' :: '[' :: ("logging".toList ++ ']' :: '\n' ::
            (line "filter" (Toml.writeText c.logging.filter.toList) ++ []))))))) := by
  simp only [toToml?, Option.bind_eq_bind, Option.bind_eq_some_iff, Option.some.injEq] at h
  obtain ⟨interval, number, budget, written, rfl⟩ := h
  refine ⟨interval, budget, number, written, ?_⟩
  simp

theorem readStatements_toToml? (h : c.toToml? = some cs) (fuel : Nat) :
    Toml.readStatements (fuel + 10) cs = some c.statements := by
  obtain ⟨interval, budget, number, written, rfl⟩ := toToml?_eq_some h
  have engine : Toml.IsBare "engine" := ⟨rfl, rfl⟩
  have diagnostics : Toml.IsBare "diagnostics" := ⟨rfl, rfl⟩
  have driver : Toml.IsBare "driver" := ⟨rfl, rfl⟩
  have pause : Toml.IsBare "tick_interval_ms" := ⟨rfl, rfl⟩
  have logging : Toml.IsBare "logging" := ⟨rfl, rfl⟩
  have filter : Toml.IsBare "filter" := ⟨rfl, rfl⟩
  have last : ∀ fuel, Toml.readStatements (fuel + 4) ('\n' :: '[' :: ("logging".toList ++ ']' :: '\n' ::
      (line "filter" (Toml.writeText c.logging.filter.toList) ++ []))) =
        some [.table [] "logging", .pair [] "filter" (.text c.logging.filter)] := by
    intro fuel
    rw [Toml.readStatements_blank, Toml.readStatements_header logging,
      Toml.readStatements_line filter (Toml.reads_writeText _), Toml.readStatements, String.ofList_toList]
    rfl
  rw [Toml.readStatements_header engine, Toml.readStatements_line diagnostics (Toml.reads_bool _),
    Toml.readStatements_blank, Toml.readStatements_header driver,
    Toml.readStatements_line pause (reads_number? number), readStatements_budget? written last]
  rfl

/-! ## What the tables say -/

theorem build_statements (c : Config) : ∃ draft, Toml.build {} c.statements = some draft ∧
    Toml.rootEntries? (Toml.entriesToToml draft.entries) = some c.entries := by
  unfold statements entries
  cases c.driver.maxTicks with
  | none => exact ⟨_, rfl, rfl⟩
  | some n => exact ⟨_, rfl, rfl⟩

theorem ofText?_toToml? (h : c.toToml? = some cs) : Toml.ofText? (String.ofList cs) = some c.entries := by
  have marked : Toml.dropMark cs = cs := by
    obtain ⟨interval, budget, -, -, rfl⟩ := toToml?_eq_some h
    rfl
  have long : 9 ≤ cs.length := by
    obtain ⟨interval, budget, -, -, rfl⟩ := toToml?_eq_some h
    simp
  obtain ⟨draft, built, root⟩ := build_statements c
  obtain ⟨fuel, enough⟩ := Nat.exists_eq_add_of_le' long
  rw [Toml.ofText?, String.toList_ofList, marked]
  simp only [enough, readStatements_toToml? h, built, root, Option.bind_eq_bind, Option.bind_some]

def tree (c : Config) : Setting := .table (Setting.ofEntries c.entries)

theorem tree?_entries (c : Config) (s : ConfigSource) {env : Texts} (unset : ∀ v ∈ env, s.settingName? v.1 = none) :
    s.tree? c.entries env = some c.tree := by
  have nothing : s.variableLayer env = [] := by
    rw [ConfigSource.variableLayer, List.filterMap_eq_nil_iff]
    exact fun v hv => by simp [unset v hv]
  have file : ConfigSource.addLayer? (.table []) (ConfigSource.fileLayer c.entries) = some c.tree := by
    unfold tree entries
    cases c.driver.maxTicks with
    | none => rfl
    | some n => rfl
  rw [ConfigSource.tree?, file, nothing]
  rfl

theorem config?_tree (c : Config) : c.tree.config? = some c := by
  obtain ⟨⟨diagnostics⟩, ⟨interval, maxTicks⟩, ⟨filter⟩⟩ := c
  cases maxTicks with
  | none => rfl
  | some n => rfl

end Config

/-! ## Loading -/

theorem ofText?_toToml {text : String} (h : c.toToml = .ok text) : Toml.ofText? text = some c.entries := by
  unfold Config.toToml at h
  split at h
  · cases h
  · next rendered =>
    split at h
    · cases h
      exact Config.ofText?_toToml? rendered
    · cases h

/--
A valid configuration that can be written is loaded from its text as it was, if no variable of the environment
has the prefix.
-/
theorem load_toToml {text : String} (valid : c.validate = .ok ()) (written : c.toToml = .ok text)
    (source : ConfigSource) (files env : Texts)
    (found : ConfigSource.resolve? files (source.path.getD ConfigSource.defaultName) = some text)
    (unset : ∀ v ∈ env, source.settingName? v.1 = none) : source.load files env = .ok c := by
  have entries : source.fileEntries files = .ok c.entries := by
    rw [ConfigSource.fileEntries, found]
    simp only [ofText?_toToml written]
  simp only [ConfigSource.load, entries, bind, Except.bind, Config.tree?_entries c source unset, Config.config?_tree,
    valid]
  rfl

theorem steps_defaultName : ConfigSource.steps ConfigSource.defaultName = ["sequence"] := by
  have whole : "sequence".splitOn "/" = ["sequence"] := by
    rw [String.splitOn, if_neg (by decide)]
    iterate 8 rw [String.splitOnAux, if_neg (by decide), if_neg (by decide)]
    rw [String.splitOnAux, if_pos (by decide)]
    decide +kernel
  rw [ConfigSource.steps, ConfigSource.defaultName, whole]
  rfl

theorem resolve?_defaultName {files : Texts} (bare : files.get? "sequence" = none) :
    ConfigSource.resolve? files ConfigSource.defaultName = files.get? "sequence.toml" := by
  have plain : ConfigSource.plainPath ConfigSource.defaultName = "sequence" := by
    rw [ConfigSource.plainPath, steps_defaultName]
    decide +kernel
  have exactly : (ConfigSource.exactName? ConfigSource.defaultName).bind files.get? = none := by
    rw [ConfigSource.exactName?, plain]
    split
    · exact bare
    · rfl
  rw [ConfigSource.resolve?, exactly, ConfigSource.extendedName?, steps_defaultName, plain]
  rfl

/-- A filter with both quotes, a backslash, line breaks and a control character. -/
def quarrelsome : Config :=
  { driver := { tickInterval := 250, maxTicks := some 3 },
    logging := { filter := "say \"no\"\\\r\n\x01 it\x27s" } }

def quarrelsomeText : String :=
  "[engine]\ndiagnostics = true\n\n[driver]\ntick_interval_ms = 250\nmax_ticks = 3\n\n" ++
    "[logging]\nfilter = \"\"\"\nsay \"no\"\\\\\\r\n\\u0001 it\x27s\"\"\"\n"

theorem toToml_quarrelsome : quarrelsome.toToml = .ok quarrelsomeText := by
  have lines : quarrelsome.toToml? = some quarrelsomeText.toList := by decide +kernel
  have countable : Toml.isCountable quarrelsome.logging.filter.toList = true := by decide +kernel
  rw [Config.toToml, lines]
  dsimp only
  rw [countable, String.ofList_toList]
  rfl

theorem load_toToml_quarrelsome :
    quarrelsome.validate = .ok () ∧ quarrelsome.toToml = .ok quarrelsomeText ∧
      ConfigSource.load {} [("sequence.toml", quarrelsomeText)] [("HOME", "/"), ("SEQUENCES", "7")] =
        .ok quarrelsome := by
  have valid : quarrelsome.validate = .ok () := rfl
  have unset : ∀ v ∈ ([("HOME", "/"), ("SEQUENCES", "7")] : Texts), ConfigSource.settingName? {} v.1 = none := by
    decide
  refine ⟨valid, toToml_quarrelsome, ?_⟩
  exact load_toToml valid toToml_quarrelsome {} [("sequence.toml", quarrelsomeText)] _ (resolve?_defaultName rfl) unset

end Sequencer
