import Sequencer.Proofs.Config.Merging
import Sequencer.Proofs.Config.RoundTrip

/-!
# Layers of settings

A file lies over the defaults, and the variables lie over the file. For each knob the uppermost layer that has a
setting for it wins, whatever lies below, and whatever there is for the others.
-/

namespace Sequencer

/-- The configuration, if nothing is wrong with it. -/
def Config.checked (c : Config) : Except ConfigError Config :=
  match c.problem? with
  | some problem => .error (.invalid problem)
  | none => .ok c

theorem Config.checked_ne_load (c : Config) : c.checked ≠ .error .load := by
  rw [checked]
  cases c.problem? <;> simp

/-! ## The file -/

/-- What a table of a file has for a knob. -/
def Toml.inside? (k : Knob) : Toml → Option Setting
  | .table inner => (Table.find? k.key (Table.folded inner)).map Setting.ofToml
  | _ => none

/-- What the entries of a file have for a knob. -/
def Knob.inFile? (k : Knob) (entries : List (String × Toml)) : Option Setting :=
  (Table.find? k.table (Table.folded entries)).bind (·.inside? k)

/--
The three tables are tables where they are present, no two keys coincide up to case, and no other key of the file
spells a way to a knob or an item of a table.
-/
structure TidyFile (entries : List (String × Toml)) : Prop where
  distinct : Table.Distinct entries
  sections : ∀ name value, (name, value) ∈ entries → ∀ k : Knob, Text.lowercase name = k.table →
    ∃ inner, value = .table inner ∧ Table.Distinct inner
  apart : ∀ name value, (name, value) ∈ entries →
    (∃ k : Knob, Text.lowercase name = k.table) ∨ Setting.Apart (Setting.way name)

theorem TidyFile.tail {entry : String × Toml} {rest : List (String × Toml)} (h : TidyFile (entry :: rest)) :
    TidyFile rest where
  distinct := h.distinct.tail
  sections name value there := h.sections name value (.tail _ there)
  apart name value there := h.apart name value (.tail _ there)

namespace Setting

variable {tree new : Setting} {name : String}

theorem Apart.lowercase_ne (apart : Apart (way name)) (k : Knob) : Text.lowercase name ≠ k.table := by
  intro own
  apply apart.table k
  rw [way, pathOf_of_lowercase own, ← own]
  rfl

theorem Sectioned.assign_pathOf (h : tree.Sectioned) (apart : Apart (way name)) {value : Setting}
    (assigned : assign? value (pathOf name) tree = some new) : new.Sectioned ∧ ∀ k, new.at? k = tree.at? k := by
  obtain ⟨first, rest, path⟩ := exists_pathOf name
  rw [way, path] at apart
  rw [path] at assigned
  exact h.assign_past assigned apart

theorem Sectioned.assign_entry {value : Toml} {rest : List (String × Toml)} (tidy : TidyFile ((name, value) :: rest))
    (h : tree.Sectioned) (unset : ∀ k : Knob, Text.lowercase name = k.table → tree.at? k = none)
    (assigned : assign? (ofToml value) (pathOf name) tree = some new) : new.Sectioned ∧
      (∀ k : Knob, Text.lowercase name = k.table → k.settle? (new.at? k) = k.settle? (value.inside? k)) ∧
      ∀ k : Knob, Text.lowercase name ≠ k.table → new.at? k = tree.at? k := by
  rcases tidy.apart name value (.head _) with ⟨k, own⟩ | apart
  · obtain ⟨inner, rfl, distinct⟩ := tidy.sections name value (.head _) k own
    rw [ofToml] at assigned
    obtain ⟨sectioned, each⟩ := h.assign_table own assigned
    refine ⟨sectioned, fun other same => ?_, fun other different => ?_⟩
    · rw [each, if_pos (same.symm.trans own), Toml.inside?, ← find?_ofEntries, ← own, same]
      exact settle?_mergeEntries (distinct_ofEntries distinct) ((find?_key_eq tree other).trans (unset other same))
    · rw [each, if_neg fun same => different (own.trans same.symm)]
  · obtain ⟨sectioned, each⟩ := h.assign_pathOf apart assigned
    exact ⟨sectioned, fun k own => absurd own (apart.lowercase_ne k), fun k _ => each k⟩

end Setting

namespace ConfigSource

open Setting

variable {tree new : Setting} {layer : Layer}

theorem addLayer?_cons (tree : Setting) (name : String) (value : Setting) (layer : Layer) :
    addLayer? tree ((name, value) :: layer) =
      (assign? value (pathOf name) tree).bind fun tree => addLayer? tree layer := rfl

/-- After the file a knob comes to what its table in the file has for it, or to what it came to before. -/
theorem settle?_fileLayer {entries : List (String × Toml)} (tidy : TidyFile entries) (h : tree.Sectioned)
    (unset : ∀ k : Knob, Table.find? k.table (Table.folded entries) ≠ none → tree.at? k = none)
    (added : addLayer? tree (fileLayer entries) = some new) : new.Sectioned ∧ ∀ k : Knob, k.settle? (new.at? k) =
      k.settle? ((Table.find? k.table (Table.folded entries)).elim (tree.at? k) (·.inside? k)) := by
  induction entries generalizing tree with
  | nil =>
    obtain rfl := Option.some.inj added
    exact ⟨h, fun _ => rfl⟩
  | cons entry rest ih =>
    obtain ⟨name, value⟩ := entry
    rw [fileLayer, ofEntries, addLayer?_cons] at added
    obtain ⟨mid, assigned, added⟩ := Option.bind_eq_some_iff.mp added
    obtain ⟨sectioned, inside, outside⟩ := h.assign_entry tidy
      (fun k own => unset k (by simp [Table.find?_folded_cons, own])) assigned
    -- A key that is a path may have made a table before it comes, but with no knob in it.
    have unset : ∀ k : Knob, Table.find? k.table (Table.folded rest) ≠ none → mid.at? k = none := by
      intro k later
      have other : Text.lowercase name ≠ k.table := fun own => later (tidy.distinct.find?_tail own)
      rw [outside k other]
      exact unset k (by rwa [Table.find?_folded_cons, if_neg other])
    obtain ⟨whole, each⟩ := ih tidy.tail sectioned unset added
    refine ⟨whole, fun k => (each k).trans ?_⟩
    rw [Table.find?_folded_cons]
    by_cases own : Text.lowercase name = k.table
    · rw [tidy.distinct.find?_tail own, if_pos own]
      exact inside k own
    · rw [if_neg own, outside k own]

/-! ## The variables -/

variable {s : ConfigSource} {env : Texts}

/-- The variable names the knob. -/
def Names (s : ConfigSource) (k : Knob) (variableName : String) : Prop :=
  (s.settingName? variableName).map way = some k.path

instance (s : ConfigSource) (k : Knob) (variableName : String) : Decidable (s.Names k variableName) :=
  inferInstanceAs (Decidable (_ = _))

/-- What the variables have for a knob; of several that name it, the last. -/
def inVariables? (s : ConfigSource) (env : Texts) (k : Knob) : Option Setting :=
  (env.reverse.find? fun v => s.Names k v.1).map fun v => .ofVariable v.2

/-- A variable under the prefix names a knob, or it replaces no table and leads to no knob or item. -/
def TidyVariables (s : ConfigSource) (env : Texts) : Prop :=
  ∀ v ∈ env, ∀ name, s.settingName? v.1 = some name → (∃ k : Knob, way name = k.path) ∨ Apart (way name)

theorem names_iff {variableName name : String} (named : s.settingName? variableName = some name) (k : Knob) :
    s.Names k variableName ↔ way name = k.path := by
  rw [Names, named, Option.map_some, Option.some.injEq]

theorem inVariables?_cons (v : String × String) (k : Knob) : s.inVariables? (v :: env) k =
    (s.inVariables? env k).or (if s.Names k v.1 then some (.ofVariable v.2) else none) := by
  rw [inVariables?, List.reverse_cons, List.find?_append, Option.map_or, inVariables?, List.find?_singleton]
  split <;> simp_all

theorem ofVariable_ne_table (text : String) (entries : List (String × Setting)) : ofVariable text ≠ .table entries := by
  rw [ofVariable]
  repeat' split
  all_goals simp

theorem at?_variable {v : String × String} {name : String} (tidy : TidyVariables s (v :: env)) (h : tree.Sectioned)
    (named : s.settingName? v.1 = some name) (assigned : assign? (.ofVariable v.2) (pathOf name) tree = some new) :
    new.Sectioned ∧ ∀ k, new.at? k = (if s.Names k v.1 then some (.ofVariable v.2) else none).or (tree.at? k) := by
  rcases tidy v (.head _) name named with ⟨k, there⟩ | apart
  · obtain ⟨first, path, spelled⟩ := exists_pathOf name
    have spells : (Step.key first :: path).map Step.lower = k.path := by rw [← spelled, ← there, way]
    rw [spelled] at assigned
    obtain ⟨sectioned, each⟩ := h.assign_at assigned spells (ofVariable_ne_table v.2)
    refine ⟨sectioned, fun other => (each other).trans ?_⟩
    by_cases own : other = k
    · rw [if_pos own, if_pos ((names_iff named other).mpr (own ▸ there)), Option.some_or]
    · have another : ¬ s.Names other v.1 := by
        rw [names_iff named, there]
        exact fun same => own (Knob.eq_of_path same).symm
      rw [if_neg own, if_neg another, Option.none_or]
  · obtain ⟨sectioned, each⟩ := h.assign_pathOf apart assigned
    refine ⟨sectioned, fun k => (each k).trans ?_⟩
    have another : ¬ s.Names k v.1 := by
      rw [names_iff named]
      exact fun same => apart.knob k ⟨[], (List.append_nil _).trans same.symm⟩
    rw [if_neg another, Option.none_or]

theorem at?_variableLayer (tidy : TidyVariables s env) (h : tree.Sectioned)
    (added : addLayer? tree (s.variableLayer env) = some new) :
    new.Sectioned ∧ ∀ k, new.at? k = (s.inVariables? env k).or (tree.at? k) := by
  induction env generalizing tree with
  | nil =>
    obtain rfl := Option.some.inj added
    exact ⟨h, fun _ => rfl⟩
  | cons v rest ih =>
    have later : TidyVariables s rest := fun v there => tidy v (.tail _ there)
    cases named : s.settingName? v.1 with
    | none =>
      -- A variable that names no setting is passed over.
      have same : s.variableLayer (v :: rest) = s.variableLayer rest := by
        simp [variableLayer, named]
      rw [same] at added
      obtain ⟨whole, each⟩ := ih later h added
      refine ⟨whole, fun k => ?_⟩
      have another : ¬ s.Names k v.1 := by simp [Names, named]
      rw [each, inVariables?_cons, if_neg another, Option.or_none]
    | some name =>
      have first : s.variableLayer (v :: rest) = (name, .ofVariable v.2) :: s.variableLayer rest := by
        simp [variableLayer, named]
      rw [first, addLayer?_cons] at added
      obtain ⟨mid, assigned, added⟩ := Option.bind_eq_some_iff.mp added
      obtain ⟨sectioned, one⟩ := at?_variable tidy h named assigned
      obtain ⟨whole, each⟩ := ih later sectioned added
      refine ⟨whole, fun k => ?_⟩
      rw [each, one, inVariables?_cons, Option.or_assoc]

/-! ## All layers -/

/-- What wins for a knob: a variable if one names it, else what the file has, if it has something. -/
def winner? (s : ConfigSource) (entries : List (String × Toml)) (env : Texts) (k : Knob) : Option Setting :=
  (s.inVariables? env k).or (k.inFile? entries)

theorem settle?_tree? {entries : List (String × Toml)} (file : TidyFile entries) (tidy : TidyVariables s env)
    (h : s.tree? entries env = some tree) :
    tree.Sectioned ∧ ∀ k : Knob, k.settle? (tree.at? k) = k.settle? (s.winner? entries env k) := by
  obtain ⟨base, below, above⟩ := Option.bind_eq_some_iff.mp h
  have bare : (Setting.table []).Sectioned := ⟨⟨[], rfl⟩, fun k found there => nomatch there⟩
  obtain ⟨sectioned, first⟩ := settle?_fileLayer file bare (fun k _ => rfl) below
  obtain ⟨whole, each⟩ := at?_variableLayer tidy sectioned above
  refine ⟨whole, fun k => ?_⟩
  rw [each, winner?]
  cases s.inVariables? env k with
  | some value => rfl
  | none =>
    rw [Option.none_or, Option.none_or, first, Knob.inFile?]
    cases Table.find? k.table (Table.folded entries) <;> rfl

/-- Where a layer cannot be added, one of its names has a subscript that is negative or too large. -/
theorem exists_of_addLayer?_eq_none (h : addLayer? tree layer = none) : ∃ setting ∈ layer, ∃ subscript : Int,
    .index subscript ∈ pathOf setting.1 ∧ ¬ (0 ≤ subscript ∧ subscript < itemLimit) := by
  induction layer generalizing tree with
  | nil => cases h
  | cons setting rest ih =>
    obtain ⟨name, value⟩ := setting
    rw [addLayer?_cons] at h
    cases assigned : assign? value (pathOf name) tree with
    | none => exact ⟨(name, value), .head _, exists_of_assign?_eq_none assigned⟩
    | some mid =>
      rw [assigned] at h
      obtain ⟨setting, there, outside⟩ := ih h
      exact ⟨setting, .tail _ there, outside⟩

/-- The names that are read as paths: the keys of the file, and what the variables under the prefix leave. -/
def spelled (s : ConfigSource) (entries : List (String × Toml)) (env : Texts) : List String :=
  entries.map Prod.fst ++ env.filterMap fun v => s.settingName? v.1

theorem spelled_eq (s : ConfigSource) (entries : List (String × Toml)) (env : Texts) :
    s.spelled entries env = (fileLayer entries ++ s.variableLayer env).map Prod.fst := by
  have file : ∀ entries : List (String × Toml), (ofEntries entries).map Prod.fst = entries.map Prod.fst := by
    intro entries
    induction entries with
    | nil => rfl
    | cons entry rest ih => exact congrArg (entry.1 :: ·) ih
  have environment : (s.variableLayer env).map Prod.fst = env.filterMap fun v => s.settingName? v.1 := by
    rw [variableLayer, List.map_filterMap]
    congr
    funext v
    dsimp only
    cases s.settingName? v.1 <;> rfl
  rw [spelled, List.map_append, environment, fileLayer, file]

theorem exists_of_tree?_eq_none {entries : List (String × Toml)} (h : s.tree? entries env = none) :
    ∃ name ∈ s.spelled entries env, ∃ subscript : Int,
      .index subscript ∈ pathOf name ∧ ¬ (0 ≤ subscript ∧ subscript < itemLimit) := by
  have added : addLayer? (.table []) (fileLayer entries ++ s.variableLayer env) = none := by
    rw [addLayer?, List.foldlM_append]
    exact h
  obtain ⟨setting, there, outside⟩ := exists_of_addLayer?_eq_none added
  rw [spelled_eq]
  exact ⟨setting.1, List.mem_map_of_mem there, outside⟩

theorem load_eq {files : Texts} {entries : List (String × Toml)} (read : s.fileEntries files = .ok entries)
    (h : s.tree? entries env = some tree) : s.load files env =
      match tree.config? with
      | none => .error .load
      | some c => c.checked := by
  simp only [load, read, bind, Except.bind, h]
  cases tree.config? with
  | none => rfl
  | some c =>
    simp only [Config.validate, Config.checked]
    cases c.problem? <;> rfl

theorem settle?_eq_none {k : Knob} {won : Option Setting} :
    k.settle? won = none ↔ ∃ value, won = some value ∧ k.read? value = none := by
  cases won <;> simp [Knob.settle?, orDefault]

/--
Loading comes to what wins for each knob, taken by itself: it fails if one of the winning settings does not convert,
else if the configuration of the winning values does not pass its check, and else gives that configuration. It breaks
off only over a name with a subscript that is negative or too large.
-/
theorem load_layered {files : Texts} {entries : List (String × Toml)} (read : s.fileEntries files = .ok entries)
    (file : TidyFile entries) (tidy : TidyVariables s env) :
    (s.load files env = .error .overflow ∧ ∃ name ∈ s.spelled entries env, ∃ subscript : Int,
      .index subscript ∈ pathOf name ∧ ¬ (0 ≤ subscript ∧ subscript < itemLimit)) ∨
    ((s.load files env = .error .load ↔ ∃ k value, s.winner? entries env k = some value ∧ k.read? value = none) ∧
      ((∀ k value, s.winner? entries env k = some value → k.read? value ≠ none) →
        ∃ c : Config, (∀ k, k.settle? (s.winner? entries env k) = some (c.value k)) ∧
          s.load files env = c.checked)) := by
  cases added : s.tree? entries env with
  | none =>
    refine .inl ⟨?_, exists_of_tree?_eq_none added⟩
    simp only [load, read, bind, Except.bind, added]
    rfl
  | some tree =>
    obtain ⟨sectioned, each⟩ := settle?_tree? file tidy added
    have loaded := load_eq read added
    rw [sectioned.config?_eq, funext each] at loaded
    -- If every winning setting converts, the values make up a configuration.
    have converted : (∀ k value, s.winner? entries env k = some value → k.read? value ≠ none) →
        ∃ c : Config, (∀ k, k.settle? (s.winner? entries env k) = some (c.value k)) ∧
          s.load files env = c.checked := by
      intro all
      obtain ⟨c, values⟩ := Config.exists_value fun k missing => by
        obtain ⟨value, won, unread⟩ := settle?_eq_none.mp missing
        exact all k value won unread
      rw [Config.assemble?_of_value values] at loaded
      exact ⟨c, values, loaded⟩
    refine .inr ⟨⟨fun failed => Classical.byContradiction fun fine => ?_, ?_⟩, converted⟩
    · obtain ⟨c, -, loaded⟩ := converted fun k value won unread => fine ⟨k, value, won, unread⟩
      exact c.checked_ne_load (loaded.symm.trans failed)
    · rintro ⟨k, value, won, unread⟩
      rw [Config.assemble?_of_none (settle?_eq_none.mpr ⟨value, won, unread⟩)] at loaded
      exact loaded

/-! ### A file with a word where a flag should be -/

def shadowedText : String := "[engine]\ndiagnostics = \"often\"\n[driver]\ntick_interval_ms = 40\n"

def shadowedEntries : List (String × Toml) :=
  [("engine", .table [("diagnostics", .text "often")]), ("driver", .table [("tick_interval_ms", .integer 40)])]

def shadowing : Texts := [("SEQUENCE_ENGINE__DIAGNOSTICS", "off"), ("HOME", "/")]

/-- Values of a file cannot be compared, but the texts and the number in these can. -/
def isShadowed : Option (List (String × Toml)) → Bool
  | some [(first, .table [(key, .text word)]), (second, .table [(other, .integer n)])] =>
    [first, key, word, second, other] == ["engine", "diagnostics", "often", "driver", "tick_interval_ms"] && n == 40
  | _ => false

theorem eq_of_isShadowed {read : Option (List (String × Toml))} (h : isShadowed read = true) :
    read = some shadowedEntries := by
  unfold isShadowed at h
  split at h
  · simp_all [shadowedEntries]
  · cases h

theorem ofText?_shadowedText : Toml.ofText? shadowedText = some shadowedEntries :=
  eq_of_isShadowed (by decide +kernel)

theorem fileEntries_defaultName {text : String} {entries : List (String × Toml)}
    (read : Toml.ofText? text = some entries) : fileEntries {} [("sequence.toml", text)] = .ok entries := by
  have found : resolve? [("sequence.toml", text)] defaultName = some text := resolve?_defaultName rfl
  rw [fileEntries, Option.getD_none, found]
  simp only [read]

theorem tidyFile_shadowedEntries : TidyFile shadowedEntries where
  distinct := by
    rw [Table.Distinct]
    decide +kernel
  sections name value there k _ := by
    simp only [shadowedEntries, List.mem_cons, Prod.mk.injEq, List.not_mem_nil, or_false] at there
    rcases there with ⟨rfl, rfl⟩ | ⟨rfl, rfl⟩ <;> exact ⟨_, rfl, by simp [Table.Distinct, Table.folded]⟩
  apart name value there := by
    simp only [shadowedEntries, List.mem_cons, Prod.mk.injEq, List.not_mem_nil, or_false] at there
    rcases there with ⟨rfl, rfl⟩ | ⟨rfl, rfl⟩
    · exact .inl ⟨.diagnostics, by decide +kernel⟩
    · exact .inl ⟨.maxTicks, by decide +kernel⟩

theorem tidyVariables_shadowing : TidyVariables {} shadowing := by
  have flag : settingName? {} "SEQUENCE_ENGINE__DIAGNOSTICS" = some "engine.diagnostics" := by decide +kernel
  have home : settingName? {} "HOME" = none := by decide +kernel
  intro v there name named
  simp only [shadowing, List.mem_cons, List.not_mem_nil, or_false] at there
  rcases there with rfl | rfl
  · obtain rfl := Option.some.inj (flag.symm.trans named)
    exact .inl ⟨.diagnostics, by decide +kernel⟩
  · cases home.symm.trans named

theorem spelled_shadowing {name : String} (h : name ∈ spelled {} shadowedEntries shadowing) (subscript : Int) :
    .index subscript ∉ pathOf name := by
  have names : spelled {} shadowedEntries shadowing = ["engine", "driver", "engine.diagnostics"] := by decide +kernel
  have keys : ∀ name ∈ ["engine", "driver", "engine.diagnostics"],
      ∀ step ∈ pathOf name, step = .key "engine" ∨ step = .key "driver" ∨ step = .key "diagnostics" := by
    decide +kernel
  intro there
  rcases keys name (names ▸ h) _ there with same | same | same <;> cases same

def shadowedConfig : Config := { engine := ⟨false⟩, driver := { tickInterval := 40 } }

theorem winners_shadowing (k : Knob) : k.settle? (winner? {} shadowedEntries shadowing k) = some (shadowedConfig.value k) := by
  cases k <;> decide +kernel

/-- The word does not matter below the variable, and the interval of the file does not depend on it. -/
theorem load_layered_shadowed :
    fileEntries {} [("sequence.toml", shadowedText)] = .ok shadowedEntries ∧ TidyFile shadowedEntries ∧
      TidyVariables {} shadowing ∧ load {} [("sequence.toml", shadowedText)] shadowing = .ok shadowedConfig := by
  have read := fileEntries_defaultName ofText?_shadowedText
  refine ⟨read, tidyFile_shadowedEntries, tidyVariables_shadowing, ?_⟩
  rcases load_layered read tidyFile_shadowedEntries tidyVariables_shadowing with
    ⟨-, name, there, subscript, inside, -⟩ | ⟨-, loads⟩
  · exact absurd inside (spelled_shadowing there subscript)
  · obtain ⟨c, values, loaded⟩ := loads fun k value won unread => by
      have missing := settle?_eq_none.mpr ⟨value, won, unread⟩
      rw [winners_shadowing] at missing
      cases missing
    have whole := Config.assemble?_of_value values
    obtain rfl : c = shadowedConfig := Option.some.inj (whole.symm.trans (Config.assemble?_of_value winners_shadowing))
    exact loaded

/-! ### A subscript behind a table, and a key that is a path -/

def isQuotedPath : Option (List (String × Toml)) → Bool
  | some [(name, .bool false)] => name == "engine.diagnostics"
  | _ => false

theorem eq_of_isQuotedPath {read : Option (List (String × Toml))} (h : isQuotedPath read = true) :
    read = some [("engine.diagnostics", .bool false)] := by
  unfold isQuotedPath at h
  split at h
  · simp_all
  · cases h

theorem ofText?_quotedPath :
    Toml.ofText? "\"engine.diagnostics\" = false" = some [("engine.diagnostics", .bool false)] :=
  eq_of_isQuotedPath (by decide +kernel)

theorem load_of_config? {files : Texts} {entries : List (String × Toml)} {c : Config}
    (read : s.fileEntries files = .ok entries) (h : (s.tree? entries env).bind Setting.config? = some c) :
    s.load files env = c.checked := by
  obtain ⟨tree, added, converted⟩ := Option.bind_eq_some_iff.mp h
  rw [load_eq read added, converted]

/--
A variable that names neither a knob nor a table nor anything below a knob turns the table into a list, and the list
gives the knob. A key of a file that is the path of a knob gives it, too, without a table.
-/
theorem load_unnamed :
    ((∀ k, ¬ Names {} k "SEQUENCE_ENGINE[0]") ∧ settingName? {} "SEQUENCE_ENGINE[0]" = some "engine[0]" ∧
      (∀ k : Knob, way "engine[0]" ≠ [.key k.table] ∧ ¬ k.path <+: way "engine[0]") ∧
      load {} [] [("SEQUENCE_ENGINE[0]", "no")] = .ok { engine := ⟨false⟩ }) ∧
    (fileEntries {} [("sequence.toml", "\"engine.diagnostics\" = false")] = .ok [("engine.diagnostics", .bool false)] ∧
      (∀ k : Knob, k.inFile? [("engine.diagnostics", .bool false)] = none) ∧
      load {} [("sequence.toml", "\"engine.diagnostics\" = false")] [] = .ok { engine := ⟨false⟩ }) := by
  have nothing : fileEntries {} [] = .ok [] := by
    have missing : resolve? [] defaultName = none := resolve?_defaultName rfl
    rw [fileEntries, Option.getD_none, missing]
  have read := fileEntries_defaultName ofText?_quotedPath
  refine ⟨⟨fun k => ?_, by decide +kernel, fun k => ?_, ?_⟩, read, fun k => ?_, ?_⟩
  · cases k <;> decide +kernel
  · cases k <;> decide +kernel
  · calc load {} [] [("SEQUENCE_ENGINE[0]", "no")]
      _ = Config.checked { engine := ⟨false⟩ } := load_of_config? nothing (by decide +kernel)
      _ = .ok { engine := ⟨false⟩ } := rfl
  · cases k <;> rfl
  · calc load {} [("sequence.toml", "\"engine.diagnostics\" = false")] []
      _ = Config.checked { engine := ⟨false⟩ } := load_of_config? read (by decide +kernel)
      _ = .ok { engine := ⟨false⟩ } := rfl

end ConfigSource

end Sequencer
