import Sequencer.Toml.Reader

/-!
# The integers of a file

Integers in a file have 64 bits with their sign, however deep they lie in lists and tables.
-/

namespace Sequencer.Toml

/-- Every integer in the value is small enough for a file. -/
inductive Sized : Toml → Prop where
  | text (value : String) : Sized (.text value)
  | integer {value : Int} : value < Word.signedLimit → Sized (.integer value)
  | float (value : Binary) : Sized (.float value)
  | bool (value : Bool) : Sized (.bool value)
  | moment (literal : String) : Sized (.moment literal)
  | list {items : List Toml} : (∀ item ∈ items, Sized item) → Sized (.list items)
  | table {entries : List (String × Toml)} : (∀ entry ∈ entries, Sized entry.2) → Sized (.table entries)

/-- The same of a table that is being built. -/
inductive Node.Sized : Node → Prop where
  | value {value : Toml} : value.Sized → Sized (.value value)
  | table {entries : Entries} (birth : Birth) : (∀ entry ∈ entries, Sized entry.2) → Sized (.table birth entries)
  | tables {elements : List Entries} : (∀ entries ∈ elements, ∀ entry ∈ entries, Sized entry.2) →
    Sized (.tables elements)

variable {value : Toml} {cs rest word : List Char} {entries new : Entries} {path : List String} {key : String}

/-! ## Words -/

theorem lt_of_signed? {negative : Bool} {n : Nat} {value : Int} (h : Word.signed? negative n = some value) :
    value < Word.signedLimit := by
  have pos : 0 < Word.signedLimit := by decide
  unfold Word.signed? at h
  split at h <;> split at h <;> simp only [Option.some.injEq, reduceCtorEq] at h <;> omega

theorem lt_of_integer? {value : Int} (h : integer? cs = some value) : value < Word.signedLimit := by
  unfold integer? at h
  split at h
  · exact lt_of_signed? h
  · obtain ⟨digits, -, sized⟩ := Option.bind_eq_some_iff.mp h
    exact lt_of_signed? sized

theorem sized_of_scalar? (h : scalar? word = some value) : value.Sized := by
  unfold scalar? at h
  repeat' split at h
  · exact Option.some.inj h ▸ .bool true
  · exact Option.some.inj h ▸ .bool false
  · exact Option.some.inj h ▸ .moment _
  · exact Option.some.inj h ▸ .float _
  · obtain ⟨n, read, rfl⟩ := Option.map_eq_some_iff.mp h
    exact .integer (lt_of_integer? read)

/-! ## Building tables -/

theorem changeAt_sized {dotted : Bool} {change : Birth → Entries → Option Entries} {birth : Birth}
    (keeps : ∀ birth entries new, Table.Holds Node.Sized entries → change birth entries = some new →
      Table.Holds Node.Sized new)
    (h : Table.Holds Node.Sized entries) (changed : changeAt dotted change path birth entries = some new) :
    Table.Holds Node.Sized new := by
  induction path generalizing birth entries new with
  | nil => exact keeps birth entries new h changed
  | cons key path ih =>
    rw [changeAt] at changed
    split at changed
    · obtain ⟨sub, inner, rfl⟩ := Option.map_eq_some_iff.mp changed
      exact h.upsert (.table _ (ih (Table.holds_nil _) inner))
    · cases changed
    · next birth sub found =>
      split at changed
      · cases changed
      · obtain ⟨sub', inner, rfl⟩ := Option.map_eq_some_iff.mp changed
        cases h.find? found with
        | table _ there => exact h.upsert (.table _ (ih there inner))
    · next elements found =>
      split at changed
      · cases changed
      · next sub last =>
        obtain ⟨sub', inner, rfl⟩ := Option.map_eq_some_iff.mp changed
        cases h.find? found with
        | tables there =>
          refine h.upsert (.tables (List.forall_mem_append.mpr ⟨fun entries hm => ?_, ?_⟩))
          · exact there entries ((List.dropLast_sublist elements).subset hm)
          · exact List.forall_mem_singleton.mpr (ih (there sub (List.mem_of_getLast? last)) inner)

theorem insertAt_sized (h : Table.Holds Node.Sized entries) (sized : value.Sized)
    (inserted : insertAt path key value entries = some new) : Table.Holds Node.Sized new := by
  refine changeAt_sized (fun birth entries new there changed => ?_) h inserted
  split at changed
  · cases changed
  · split at changed
    · cases changed
    · exact Option.some.inj changed ▸ there.upsert (.value sized)

theorem openTable_sized (h : Table.Holds Node.Sized entries) (opened : openTable path key entries = some new) :
    Table.Holds Node.Sized new := by
  refine changeAt_sized (fun birth entries new there changed => ?_) h opened
  split at changed
  · exact Option.some.inj changed ▸ there.upsert (.table _ (Table.holds_nil _))
  · next sub found =>
    obtain rfl := Option.some.inj changed
    cases there.find? found with
    | table _ inner =>
      refine List.forall_mem_append.mpr ⟨fun entry hm => there entry (List.mem_filter.mp hm).1, ?_⟩
      exact List.forall_mem_singleton.mpr (.table _ inner)
  · cases changed

theorem openElement_sized (h : Table.Holds Node.Sized entries) (opened : openElement path key entries = some new) :
    Table.Holds Node.Sized new := by
  have fresh : Table.Holds Node.Sized ([] : Entries) := Table.holds_nil _
  refine changeAt_sized (fun birth entries new there changed => ?_) h opened
  split at changed
  · exact Option.some.inj changed ▸ there.upsert (.tables (List.forall_mem_singleton.mpr fresh))
  · next elements found =>
    obtain rfl := Option.some.inj changed
    cases there.find? found with
    | tables inner =>
      exact there.upsert (.tables (List.forall_mem_append.mpr ⟨inner, List.forall_mem_singleton.mpr fresh⟩))
  · cases changed

mutual

theorem Node.Sized.toToml {node : Node} (h : node.Sized) : node.toToml.Sized := by
  cases node with
  | value value =>
    cases h with
    | value sized => exact sized
  | table birth entries =>
    cases h with
    | table _ there => exact .table (entriesToToml_sized entries there)
  | tables elements =>
    cases h with
    | tables there => exact .list (elementsToToml_sized elements there)

theorem entriesToToml_sized (entries : List (String × Node)) (h : ∀ entry ∈ entries, entry.2.Sized) :
    ∀ entry ∈ entriesToToml entries, entry.2.Sized := by
  cases entries with
  | nil => exact fun _ there => nomatch there
  | cons entry rest =>
    obtain ⟨key, node⟩ := entry
    exact List.forall_mem_cons.mpr
      ⟨Node.Sized.toToml (h _ (.head _)), entriesToToml_sized rest fun entry there => h entry (.tail _ there)⟩

theorem elementsToToml_sized (elements : List (List (String × Node)))
    (h : ∀ entries ∈ elements, ∀ entry ∈ entries, entry.2.Sized) : ∀ item ∈ elementsToToml elements, item.Sized := by
  cases elements with
  | nil => exact fun _ there => nomatch there
  | cons entries rest =>
    exact List.forall_mem_cons.mpr ⟨.table (entriesToToml_sized entries (h _ (.head _))),
      elementsToToml_sized rest fun entries there => h entries (.tail _ there)⟩

end

/-! ## Reading values -/

/-- What is read with the fuel, of values and of what they are made of. -/
structure ReadsSized (fuel : Nat) : Prop where
  value : ∀ depth cs value rest, readValue fuel depth cs = some (value, rest) → value.Sized
  items : ∀ depth cs items rest, readItems fuel depth cs = some (items, rest) → ∀ item ∈ items, item.Sized
  pairs : ∀ depth entries cs new rest, Table.Holds Node.Sized entries →
    readPairs fuel depth entries cs = some (new, rest) → Table.Holds Node.Sized new

theorem readsSized (fuel : Nat) : ReadsSized fuel := by
  -- On the fuel, of which each value takes one, and so does each item and each pair around it.
  induction fuel with
  | zero =>
    refine ⟨?_, ?_, ?_⟩ <;> intros <;> simp_all [readValue, readItems, readPairs]
  | succ fuel ih =>
    refine ⟨fun depth cs value rest read => ?_, fun depth cs items rest read => ?_,
      fun depth entries cs new rest there read => ?_⟩
    · unfold readValue at read
      split at read
      · obtain ⟨⟨chars, _⟩, -, same⟩ := Option.map_eq_some_iff.mp read
        exact (Prod.mk.inj same).1 ▸ .text _
      · obtain ⟨⟨chars, _⟩, -, same⟩ := Option.map_eq_some_iff.mp read
        exact (Prod.mk.inj same).1 ▸ .text _
      · split at read
        · cases read
        · obtain ⟨⟨items, _⟩, inner, same⟩ := Option.map_eq_some_iff.mp read
          exact (Prod.mk.inj same).1 ▸ .list (ih.items _ _ items _ inner)
      · split at read
        · cases read
        · split at read
          · exact (Prod.mk.inj (Option.some.inj read)).1 ▸ .table (Table.holds_nil _)
          · obtain ⟨⟨entries, _⟩, inner, same⟩ := Option.map_eq_some_iff.mp read
            have built := ih.pairs _ [] _ entries _ (Table.holds_nil _) inner
            exact (Prod.mk.inj same).1 ▸ .table (entriesToToml_sized entries built)
      · obtain ⟨value, scalar, same⟩ := Option.map_eq_some_iff.mp read
        exact (Prod.mk.inj same).1 ▸ sized_of_scalar? scalar
    · unfold readItems at read
      split at read
      · obtain ⟨rfl, -⟩ := Prod.mk.inj (Option.some.inj read)
        exact fun _ there => nomatch there
      · obtain ⟨⟨item, left⟩, first, read⟩ := Option.bind_eq_some_iff.mp read
        have sized := ih.value _ _ item _ first
        dsimp only at read
        split at read
        · obtain ⟨⟨others, _⟩, more, same⟩ := Option.bind_eq_some_iff.mp read
          obtain ⟨rfl, -⟩ := Prod.mk.inj (Option.some.inj same)
          exact List.forall_mem_cons.mpr ⟨sized, ih.items _ _ others _ more⟩
        · obtain ⟨rfl, -⟩ := Prod.mk.inj (Option.some.inj read)
          exact List.forall_mem_singleton.mpr sized
        · cases read
    · unfold readPairs at read
      obtain ⟨⟨⟨path, key⟩, _⟩, -, read⟩ := Option.bind_eq_some_iff.mp read
      obtain ⟨_, -, read⟩ := Option.bind_eq_some_iff.mp read
      obtain ⟨⟨value, left⟩, first, read⟩ := Option.bind_eq_some_iff.mp read
      obtain ⟨inserted, added, read⟩ := Option.bind_eq_some_iff.mp read
      have built := insertAt_sized there (ih.value _ _ value _ first) added
      split at read
      · exact ih.pairs _ _ _ _ _ built read
      · obtain ⟨rfl, -⟩ := Prod.mk.inj (Option.some.inj read)
        exact built
      · cases read

/-! ## Documents -/

def Statement.Sized : Statement → Prop
  | .pair _ _ value => value.Sized
  | .table .. | .element .. => True

theorem readStatement_sized {statement : Statement} (h : readStatement cs = some (some statement, rest)) :
    statement.Sized := by
  unfold readStatement at h
  split at h
  · cases h
  · cases h
  · cases h
  · cases h
  · obtain ⟨⟨⟨path, key⟩, _⟩, -, h⟩ := Option.bind_eq_some_iff.mp h
    obtain ⟨_, -, h⟩ := Option.bind_eq_some_iff.mp h
    obtain rfl := Option.some.inj (Prod.mk.inj (Option.some.inj h)).1
    trivial
  · obtain ⟨⟨⟨path, key⟩, _⟩, -, h⟩ := Option.bind_eq_some_iff.mp h
    obtain ⟨_, -, h⟩ := Option.bind_eq_some_iff.mp h
    obtain rfl := Option.some.inj (Prod.mk.inj (Option.some.inj h)).1
    trivial
  · obtain ⟨⟨pair, _⟩, read, same⟩ := Option.map_eq_some_iff.mp h
    obtain rfl := Option.some.inj (Prod.mk.inj same).1
    obtain ⟨⟨⟨path, key⟩, _⟩, -, read⟩ := Option.bind_eq_some_iff.mp read
    obtain ⟨behind, -, read⟩ := Option.bind_eq_some_iff.mp read
    obtain ⟨⟨value, _⟩, first, read⟩ := Option.bind_eq_some_iff.mp read
    obtain rfl := (Prod.mk.inj (Option.some.inj read)).1
    exact (readsSized _).value _ _ value _ first

theorem readStatements_sized {fuel : Nat} {statements : List Statement}
    (h : readStatements fuel cs = some statements) : ∀ statement ∈ statements, statement.Sized := by
  induction fuel generalizing cs statements with
  | zero => simp [readStatements] at h
  | succ fuel ih =>
    cases cs with
    | nil =>
      obtain rfl := Option.some.inj h
      exact fun _ there => nomatch there
    | cons c cs =>
      obtain ⟨⟨statement, _⟩, first, h⟩ := Option.bind_eq_some_iff.mp h
      obtain ⟨behind, -, h⟩ := Option.bind_eq_some_iff.mp h
      obtain ⟨others, more, h⟩ := Option.bind_eq_some_iff.mp h
      obtain rfl := Option.some.inj h
      refine List.forall_mem_append.mpr ⟨fun other hm => ?_, ih more⟩
      obtain rfl := Option.mem_toList.mp hm
      exact readStatement_sized first

theorem Draft.add_sized {d d' : Draft} {statement : Statement} (h : Table.Holds Node.Sized d.entries)
    (sized : statement.Sized) (added : d.add statement = some d') : Table.Holds Node.Sized d'.entries := by
  cases statement with
  | table path key =>
    obtain ⟨entries, opened, rfl⟩ := Option.map_eq_some_iff.mp added
    exact openTable_sized h opened
  | element path key =>
    obtain ⟨entries, opened, rfl⟩ := Option.map_eq_some_iff.mp added
    exact openElement_sized h opened
  | pair path key value =>
    obtain ⟨entries, changed, rfl⟩ := Option.map_eq_some_iff.mp added
    exact changeAt_sized (fun _ _ _ there inserted => insertAt_sized there sized inserted) h changed

theorem build_sized {d d' : Draft} {statements : List Statement} (h : Table.Holds Node.Sized d.entries)
    (sized : ∀ statement ∈ statements, statement.Sized) (built : build d statements = some d') :
    Table.Holds Node.Sized d'.entries := by
  induction statements generalizing d with
  | nil =>
    obtain rfl := Option.some.inj built
    exact h
  | cons statement rest ih =>
    obtain ⟨first, others⟩ := List.forall_mem_cons.mp sized
    obtain ⟨mid, added, built⟩ := Option.bind_eq_some_iff.mp built
    exact ih (Draft.add_sized h first added) others built

mutual

theorem Sized.withMoments? {value read : Toml} (h : value.Sized) (same : withMoments? value = some read) :
    read.Sized := by
  cases value with
  | list items =>
    cases h with
    | list there =>
      obtain ⟨read, inner, rfl⟩ := Option.map_eq_some_iff.mp same
      exact .list (itemsWithMoments?_sized items there inner)
  | table entries =>
    cases h with
    | table there =>
      cases entries with
      | nil =>
        obtain rfl := Option.some.inj same
        exact .table (Table.holds_nil _)
      | cons entry rest =>
        obtain ⟨key, value⟩ := entry
        rw [Toml.withMoments?] at same
        split at same
        · unfold asMoment? at same
          split at same
          · obtain ⟨literal, -, rfl⟩ := Option.map_eq_some_iff.mp same
            exact .moment literal
          · cases same
        · obtain ⟨read, inner, rfl⟩ := Option.map_eq_some_iff.mp same
          exact .table (entriesWithMoments?_sized ((key, value) :: rest) there inner)
  | text | integer | float | bool | moment =>
    obtain rfl := Option.some.inj same
    exact h

theorem itemsWithMoments?_sized (items : List Toml) {read : List Toml} (h : ∀ item ∈ items, item.Sized)
    (same : itemsWithMoments? items = some read) : ∀ item ∈ read, item.Sized := by
  cases items with
  | nil =>
    obtain rfl := Option.some.inj same
    exact fun _ there => nomatch there
  | cons item rest =>
    obtain ⟨first, one, same⟩ := Option.bind_eq_some_iff.mp same
    obtain ⟨others, more, same⟩ := Option.bind_eq_some_iff.mp same
    obtain rfl := Option.some.inj same
    exact List.forall_mem_cons.mpr ⟨(h _ (.head _)).withMoments? one,
      itemsWithMoments?_sized rest (fun item there => h item (.tail _ there)) more⟩

theorem entriesWithMoments?_sized (entries : List (String × Toml)) {read : List (String × Toml)}
    (h : Table.Holds Sized entries) (same : entriesWithMoments? entries = some read) : Table.Holds Sized read := by
  cases entries with
  | nil =>
    obtain rfl := Option.some.inj same
    exact Table.holds_nil _
  | cons entry rest =>
    obtain ⟨key, value⟩ := entry
    obtain ⟨first, one, same⟩ := Option.bind_eq_some_iff.mp same
    obtain ⟨others, more, same⟩ := Option.bind_eq_some_iff.mp same
    obtain rfl := Option.some.inj same
    exact List.forall_mem_cons.mpr ⟨Sized.withMoments? (h (key, value) (.head _)) one,
      entriesWithMoments?_sized rest (fun entry there => h entry (.tail _ there)) more⟩

end

theorem ofText?_sized {text : String} {entries : List (String × Toml)} (h : ofText? text = some entries) :
    Table.Holds Sized entries := by
  obtain ⟨statements, read, h⟩ := Option.bind_eq_some_iff.mp h
  obtain ⟨draft, built, h⟩ := Option.bind_eq_some_iff.mp h
  have sized := build_sized (Table.holds_nil _) (readStatements_sized read) built
  unfold rootEntries? at h
  split at h
  · cases h
  · exact entriesWithMoments?_sized _ (entriesToToml_sized _ sized) h

end Sequencer.Toml
