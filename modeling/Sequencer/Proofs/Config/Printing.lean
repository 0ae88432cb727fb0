import Sequencer.CommandLine.Response
import Sequencer.Proofs.Config.Given
import Sequencer.Proofs.Config.Layers

/-!
# Which configurations can be printed

Files have integers with a sign, but texts and floats convert to numbers without one. So a configuration that has been
loaded can be too large for a file.
-/

namespace Sequencer

namespace Config

variable {c : Config}

/-- What a file can hold: numbers that leave room for a sign, and runs of quotes that can be counted. -/
structure Printable (c : Config) : Prop where
  numbers : ∀ n ∈ c.numbers, n < Word.signedLimit
  quotes : Toml.isCountable c.logging.filter.toList = true

theorem number?_eq_none {n : Nat} : number? n = none ↔ Word.signedLimit ≤ n := by
  rw [number?, ite_eq_right_iff, ← Nat.not_lt]
  simp

theorem toToml?_ne_none : c.toToml? ≠ none ↔ ∀ n ∈ c.numbers, n < Word.signedLimit := by
  have small : ∀ n, n < Word.signedLimit ↔ number? n ≠ none := fun n => by
    rw [ne_eq, number?_eq_none, Nat.not_le]
  rw [numbers, List.forall_mem_cons, small, toToml?]
  cases number? c.driver.tickInterval with
  | none => simp
  | some interval =>
    cases c.driver.maxTicks with
    | none => simp [budget?]
    | some n =>
      rw [Option.toList_some, List.forall_mem_singleton, small, budget?]
      cases number? n <;> simp

theorem toToml_eq_render : c.toToml = .error .render ↔ ∃ n ∈ c.numbers, Word.signedLimit ≤ n := by
  have large : (∃ n ∈ c.numbers, Word.signedLimit ≤ n) ↔ c.toToml? = none := by
    rw [← not_iff_not, ← ne_eq, toToml?_ne_none]
    simp
  rw [large, toToml]
  split
  · next unwritten => exact iff_of_true rfl unwritten
  · next written => split <;> simp [written]

theorem exists_toToml_iff : (∃ text, c.toToml = .ok text) ↔ c.Printable := by
  have both : c.Printable ↔ c.toToml? ≠ none ∧ Toml.isCountable c.logging.filter.toList = true :=
    ⟨fun h => ⟨toToml?_ne_none.mpr h.numbers, h.quotes⟩, fun h => ⟨toToml?_ne_none.mp h.1, h.2⟩⟩
  rw [both, toToml]
  split
  · next unwritten => simp [unwritten]
  · next written => split <;> simp_all

end Config

theorem Response.code_perform_config (id : EngineId) (env : Texts) (c : Config) :
    (perform id env c .config).code = 0 ↔ (chooseFilter? env c).isSome = true ∧ c.Printable := by
  rw [← Config.exists_toToml_iff]
  cases chosen : chooseFilter? env c with
  | none => simp [perform, chosen, brokenOff]
  | some filter =>
    simp only [perform, chosen, printConfig]
    cases c.toToml with
    | ok text => simp
    | error error =>
      by_cases broken : error = .overflow <;> simp [refused, broken, brokenOff]

namespace ConfigSource

variable {s : ConfigSource} {files env : Texts} {entries : List (String × Toml)} {c : Config}

theorem sized_fileEntries (read : s.fileEntries files = .ok entries) : Table.Holds Toml.Sized entries := by
  rw [fileEntries] at read
  split at read
  · exact Except.ok.inj read ▸ Table.holds_nil _
  · cases read
  · split at read
    · cases read
    · next parsed => exact Except.ok.inj read ▸ Toml.ofText?_sized parsed

theorem exists_tree_of_load (loaded : s.load files env = .ok c) : ∃ entries tree, s.fileEntries files = .ok entries ∧
    s.tree? entries env = some tree ∧ tree.config? = some c := by
  cases read : s.fileEntries files with
  | error error => simp [load, read, bind, Except.bind] at loaded
  | ok entries =>
    cases added : s.tree? entries env with
    | none => simp [load, read, added, bind, Except.bind] at loaded
    | some tree =>
      rw [load_eq read added] at loaded
      split at loaded
      · cases loaded
      · next converted =>
        rw [Config.checked] at loaded
        split at loaded
        · cases loaded
        · exact ⟨entries, tree, rfl, added, Except.ok.inj loaded ▸ converted⟩

theorem numbers_of_load (loaded : s.load files env = .ok c) : ∀ n ∈ c.numbers, n < Word.limit ∧
    (Word.signedLimit ≤ n → ∃ entries given, s.fileEntries files = .ok entries ∧ given ∈ s.given entries env ∧
      given.isLoose = true ∧ given.natural? = some n) := by
  obtain ⟨entries, tree, read, added, converted⟩ := exists_tree_of_load loaded
  have fits := s.fits_given env (sized_fileEntries read)
  -- What fills a gap is no number, so the numbers have been given.
  have every : tree.Every fun leaf => leaf.Fits ∧ (leaf ∈ s.given entries env ∨ leaf = .empty) :=
    every_tree? ⟨trivial, .inr rfl⟩ (fun leaf there => ⟨fits leaf there, .inl there⟩) added
  intro n there
  rcases every.config? converted n there with rfl | ⟨leaf, ⟨fits, source⟩, reads⟩
  · exact ⟨by decide, fun large => absurd large (by decide)⟩
  · obtain ⟨bounded, loose⟩ := fits.natural? reads
    refine ⟨bounded, fun large => ⟨entries, leaf, read, ?_, loose large, reads⟩⟩
    rcases source with given | rfl
    · exact given
    · cases reads

/-! ## The main result -/

/--
A configuration that has been loaded can be printed exactly if its numbers leave room for a sign and the quotes in its
filter can be counted, and the program then prints it, if it can read the filter. Every number has 64 bits, and one that
leaves no room for a sign has been given as a text or as a float, in the file or in a variable.
-/
theorem load_printable_iff (loaded : s.load files env = .ok c) :
    ((∃ text, c.toToml = .ok text) ↔ c.Printable) ∧
    (c.toToml = .error .render ↔ ∃ n ∈ c.numbers, Word.signedLimit ≤ n) ∧
    (∀ id env', (Response.perform id env' c .config).code = 0 ↔
      (Response.chooseFilter? env' c).isSome = true ∧ c.Printable) ∧
    ∀ n ∈ c.numbers, n < Word.limit ∧
      (Word.signedLimit ≤ n → ∃ entries given, s.fileEntries files = .ok entries ∧ given ∈ s.given entries env ∧
        given.isLoose = true ∧ given.natural? = some n) :=
  ⟨Config.exists_toToml_iff, Config.toToml_eq_render, fun id env' => Response.code_perform_config id env' c,
    numbers_of_load loaded⟩

/-! ### A budget that no file can hold -/

def endless : Config := { driver := { maxTicks := some 9223372036854775808 } }

theorem not_printable_endless : ¬ endless.Printable := fun h =>
  absurd (h.numbers 9223372036854775808 (.tail _ (.head _))) (by decide)

def endlessVariables : Texts := [("SEQUENCE_DRIVER__MAX_TICKS", "9223372036854775808")]

theorem fileEntries_nil : fileEntries {} [] = .ok [] := by
  have missing : resolve? [] defaultName = none := resolve?_defaultName rfl
  rw [fileEntries, Option.getD_none, missing]

theorem load_endlessVariables : load {} [] endlessVariables = .ok endless :=
  calc load {} [] endlessVariables
    _ = endless.checked := load_of_config? fileEntries_nil (by decide +kernel)
    _ = .ok endless := rfl

/-- The variable is no integer of 64 bits with a sign, and so it is a float. -/
theorem load_printable_iff_endless : load {} [] endlessVariables = .ok endless ∧ endless.toToml = .error .render ∧
    ∃ value ∈ given {} [] endlessVariables, value.isLoose = true ∧ value.natural? = some 9223372036854775808 := by
  obtain ⟨-, render, -, numbers⟩ := load_printable_iff load_endlessVariables
  obtain ⟨-, source⟩ := numbers 9223372036854775808 (.tail _ (.head _))
  obtain ⟨entries, value, read, there, loose, reads⟩ := source (by decide)
  obtain rfl := Except.ok.inj (fileEntries_nil.symm.trans read)
  exact ⟨load_endlessVariables, render.mpr ⟨_, .tail _ (.head _), by decide⟩, value, there, loose, reads⟩

def endlessText : String := "[driver]\nmax_ticks = \"9223372036854775808\"\n"

def isEndless : Option (List (String × Toml)) → Bool
  | some [(table, .table [(key, .text number)])] =>
    [table, key, number] == ["driver", "max_ticks", "9223372036854775808"]
  | _ => false

theorem eq_of_isEndless {read : Option (List (String × Toml))} (h : isEndless read = true) :
    read = some [("driver", .table [("max_ticks", .text "9223372036854775808")])] := by
  unfold isEndless at h
  split at h
  · simp_all
  · cases h

theorem ofText?_endlessText :
    Toml.ofText? endlessText = some [("driver", .table [("max_ticks", .text "9223372036854775808")])] :=
  eq_of_isEndless (by decide +kernel)

/-- A number in quotes may be too large for a file, which the check of a configuration does not find. -/
theorem load_unprintable : load {} [("sequence.toml", endlessText)] [] = .ok endless ∧ endless.validate = .ok () ∧
    endless.toToml = .error .render ∧
    ∀ id, (Response.ofArguments id ["config"] [("sequence.toml", endlessText)] []).code ≠ 0 := by
  have read := fileEntries_defaultName ofText?_endlessText
  have loaded : load {} [("sequence.toml", endlessText)] [] = .ok endless :=
    calc load {} [("sequence.toml", endlessText)] []
      _ = endless.checked := load_of_config? read (by decide +kernel)
      _ = .ok endless := rfl
  refine ⟨loaded, rfl, rfl, fun id => ?_⟩
  have bare : Texts.get? [("sequence.toml", endlessText)] Response.variableFile = none := rfl
  have invoked : Invocation.ofArguments ["config"] = .perform none .config := by decide +kernel
  rw [Response.ofArguments, bare, Variables.withFile?]
  simp only [invoked, loaded]
  exact fun printed => not_printable_endless ((Response.code_perform_config id [] endless).mp printed).2

end ConfigSource

end Sequencer
