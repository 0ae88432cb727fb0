import Sequencer.Proofs.Config.Knobs

/-!
# Settings at their paths

A name spells a path into the tree of settings. What is put there changes one knob, or none at all.
-/

namespace Sequencer

def Knob.path (k : Knob) : List Setting.Step := [.key k.table, .key k.key]

theorem Knob.eq_of_path {k k' : Knob} (h : k.path = k'.path) : k = k' := by
  cases k <;> cases k' <;> first | rfl | exact absurd h (by decide)

/-! ## Marks in lowercase -/

theorem Text.mem_lowercase {c : Char} (mark : c = '.' ∨ c = '[') {s : String} (h : c ∈ s.toList) :
    c ∈ (lowercase s).toList := by
  have same : ∀ before rest, lowerFrom before (c :: rest) = c :: lowerFrom (c :: before) rest := by
    rcases mark with rfl | rfl <;> exact fun _ _ => rfl
  have among : ∀ cs before, c ∈ cs → c ∈ lowerFrom before cs := by
    intro cs
    induction cs with
    | nil => simp
    | cons first rest ih =>
      intro before there
      rcases List.mem_cons.mp there with rfl | later
      · rw [same]
        exact .head _
      · exact List.mem_append_right _ (ih _ later)
  rw [lowercase, String.toList_ofList]
  exact among _ _ h

namespace Setting

/-! ## What a name spells -/

section Spelling

variable {name first : String} {cs rest : List Char}

theorem readName_append (h : readName cs = some (first, rest)) : first.toList ++ rest = cs := by
  have whole := List.takeWhile_append_dropWhile (p := isStepChar) (l := cs)
  rw [readName] at h
  split at h
  · simp at h
  · obtain ⟨rfl, rfl⟩ := Prod.mk.inj (Option.some.inj h)
    rw [String.toList_ofList]
    exact whole

theorem readSteps_cons {c : Char} (point : c ≠ '.') (bracket : c ≠ '[') (fuel : Nat) :
    readSteps fuel (c :: rest) = none := by
  rw [readSteps.eq_def]
  split <;> simp_all

theorem pathOf_cases (name : String) : pathOf name = [.key name] ∨ ∃ first rest steps,
    first.toList ++ rest = name.toList ∧ readSteps (rest.length + 1) rest = some steps ∧
      pathOf name = .key first :: steps := by
  rw [pathOf]
  cases named : readName name.toList with
  | none => exact .inl rfl
  | some read =>
    obtain ⟨first, rest⟩ := read
    dsimp only [Option.bind_eq_bind, Option.bind_some]
    cases stepped : readSteps (rest.length + 1) rest with
    | none => exact .inl rfl
    | some steps => exact .inr ⟨first, rest, steps, readName_append named, stepped, rfl⟩

theorem exists_pathOf (name : String) : ∃ first rest, pathOf name = .key first :: rest := by
  rcases pathOf_cases name with single | ⟨first, -, steps, -, -, path⟩
  · exact ⟨name, [], single⟩
  · exact ⟨first, steps, path⟩

theorem pathOf_of_plain (point : '.' ∉ name.toList) (bracket : '[' ∉ name.toList) :
    pathOf name = [.key name] := by
  rcases pathOf_cases name with single | ⟨first, rest, steps, whole, read, path⟩
  · exact single
  · cases rest with
    | nil =>
      obtain rfl : first = name := String.toList_injective (by simpa using whole)
      obtain rfl : [] = steps := Option.some.inj read
      exact path
    | cons c rest =>
      have there : c ∈ name.toList := by
        rw [← whole]
        simp
      rw [readSteps_cons (fun same => point (same ▸ there)) (fun same => bracket (same ▸ there))] at read
      simp at read

end Spelling

/-- A step as it counts. -/
def Step.lower : Step → Step
  | .key name => .key (Text.lowercase name)
  | .index subscript => .index subscript

/-- The path that a name spells, in lowercase. -/
def way (name : String) : List Step := (pathOf name).map Step.lower

theorem pathOf_of_lowercase {name : String} {k : Knob} (h : Text.lowercase name = k.table) :
    pathOf name = [.key name] := by
  have plain : ∀ c, c = '.' ∨ c = '[' → c ∉ name.toList := by
    intro c mark there
    have among := Text.mem_lowercase mark there
    rw [h] at among
    rcases mark with rfl | rfl <;> cases k <;> exact absurd among (by decide)
  exact pathOf_of_plain (plain '.' (.inl rfl)) (plain '[' (.inr rfl))

/-! ## What is put at a path -/

/-- A setting comes under a key. -/
def put (tree : Setting) (key : String) (value : Setting) : Setting := .table (Table.upsert key value tree.entries)

section Assigning

variable {value old new : Setting} {first : String} {path : List Step}

theorem mergeKey_eq (key : String) (value : Setting) (into : List (String × Setting)) :
    ∃ merged, mergeKey key value into = Table.upsert (Text.lowercase key) merged into := by
  cases value with
  | table incoming => exact ⟨_, by rw [mergeKey]⟩
  | _ => exact ⟨_, by rw [mergeKey]; simp⟩

theorem mergeKey_of_leaf (leaf : ∀ entries, value ≠ .table entries) (key : String) (into : List (String × Setting)) :
    mergeKey key value into = Table.upsert (Text.lowercase key) value into := by
  cases value with
  | table incoming => exact absurd rfl (leaf incoming)
  | _ => rw [mergeKey]; simp

theorem assign?_key (h : assign? value (.key first :: path) old = some new) :
    ∃ inner, new = old.put (Text.lowercase first) inner ∧
      (path ≠ [] → assign? value path ((Table.find? (Text.lowercase first) old.entries).getD .empty) = some inner) := by
  cases path with
  | nil =>
    obtain ⟨inner, merged⟩ := mergeKey_eq first value old.entries
    rw [assign?, merged] at h
    exact ⟨inner, (Option.some.inj h).symm, fun more => absurd rfl more⟩
  | cons step path =>
    rw [assign?] at h
    · obtain ⟨inner, assigned, same⟩ := Option.bind_eq_some_iff.mp h
      exact ⟨inner, (Option.some.inj same).symm, fun _ => assigned⟩
    · simp

theorem Sectioned.put_outside (h : old.Sectioned) {name : String} (outside : ∀ k : Knob, k.table ≠ name)
    (value : Setting) : (old.put name value).Sectioned ∧ ∀ k, (old.put name value).at? k = old.at? k := by
  have same : ∀ k : Knob, Table.find? k.table (old.put name value).entries = Table.find? k.table old.entries :=
    fun k => (Table.find?_upsert ..).trans (if_neg (outside k))
  refine ⟨⟨⟨_, rfl⟩, fun k found there => h.sections k found ?_⟩, fun k => ?_⟩
  · rw [← same k]
    exact there
  · rw [at?, at?, same]

theorem Sectioned.put_table (h : old.Sectioned) (name : String) (inner : List (String × Setting)) :
    (old.put name (.table inner)).Sectioned ∧ ∀ k, (old.put name (.table inner)).at? k =
      if k.table = name then Table.find? k.key inner else old.at? k := by
  have looked : ∀ k : Knob, Table.find? k.table (old.put name (.table inner)).entries =
      if k.table = name then some (.table inner) else Table.find? k.table old.entries :=
    fun k => Table.find?_upsert ..
  refine ⟨⟨⟨_, rfl⟩, fun k found there => ?_⟩, fun k => ?_⟩
  · rw [looked] at there
    split at there
    · exact ⟨inner, (Option.some.inj there).symm⟩
    · exact h.sections k found there
  · rw [at?, at?, looked]
    split <;> rfl

theorem find?_key_eq (tree : Setting) (k : Knob) :
    Table.find? k.key ((Table.find? k.table tree.entries).getD .empty).entries = tree.at? k := by
  rw [at?]
  cases Table.find? k.table tree.entries <;> rfl

theorem Sectioned.put_inside (h : old.Sectioned) (name key : String) (value : Setting) :
    let inner := ((Table.find? name old.entries).getD .empty).put key value
    (old.put name inner).Sectioned ∧ ∀ k, (old.put name inner).at? k =
      if k.table = name ∧ k.key = key then some value else old.at? k := by
  intro inner
  obtain ⟨sectioned, each⟩ := h.put_table name
    (Table.upsert key value ((Table.find? name old.entries).getD .empty).entries)
  refine ⟨sectioned, fun k => (each k).trans ?_⟩
  by_cases same : k.table = name
  · subst same
    rw [if_pos rfl, Table.find?_upsert, find?_key_eq]
    by_cases own : k.key = key
    · rw [if_pos own, if_pos ⟨rfl, own⟩]
    · rw [if_neg own, if_neg fun both => own both.2]
  · rw [if_neg same, if_neg fun both => same both.1]

/-- A way that replaces no table of knobs, and leads to no knob nor below one, nor to an item of such a table. -/
structure Apart (way : List Step) : Prop where
  table : ∀ k : Knob, way ≠ [.key k.table]
  knob : ∀ k : Knob, ¬ k.path <+: way
  item : ∀ (k : Knob) subscript, ¬ [.key k.table, .index subscript] <+: way

theorem Sectioned.assign_past (h : old.Sectioned) (assigned : assign? value (.key first :: path) old = some new)
    (apart : Apart ((Step.key first :: path).map Step.lower)) : new.Sectioned ∧ ∀ k, new.at? k = old.at? k := by
  obtain ⟨inner, rfl, deeper⟩ := assign?_key assigned
  by_cases outside : ∀ k : Knob, k.table ≠ Text.lowercase first
  · exact h.put_outside outside inner
  obtain ⟨k, other⟩ := Classical.not_forall.mp outside
  have inside := Classical.not_not.mp other
  match path with
  | [] => exact absurd (by rw [inside]; rfl) (apart.table k)
  | .index subscript :: path => exact absurd ⟨_, by rw [inside]; rfl⟩ (apart.item k subscript)
  | .key second :: path =>
    obtain ⟨value, rfl, -⟩ := assign?_key (deeper (by simp))
    obtain ⟨sectioned, each⟩ := h.put_inside (Text.lowercase first) (Text.lowercase second) value
    refine ⟨sectioned, fun k => (each k).trans (if_neg fun both => apart.knob k ?_)⟩
    rw [Knob.path, both.1, both.2]
    exact ⟨path.map Step.lower, rfl⟩

theorem Sectioned.assign_at (h : old.Sectioned) (assigned : assign? value (.key first :: path) old = some new)
    {k : Knob} (there : (Step.key first :: path).map Step.lower = k.path) (leaf : ∀ entries, value ≠ .table entries) :
    new.Sectioned ∧ ∀ other, new.at? other = if other = k then some value else old.at? other := by
  obtain ⟨inner, rfl, deeper⟩ := assign?_key assigned
  obtain ⟨table, rest⟩ := List.cons.inj there
  obtain ⟨step, path, rfl⟩ := List.exists_cons_of_ne_nil (l := path) (by rintro rfl; simp at rest)
  obtain ⟨key, last⟩ := List.cons.inj rest
  obtain rfl := List.map_eq_nil_iff.mp last
  match step with
  | .index subscript => simp [Step.lower] at key
  | .key second =>
    have assigned := deeper (by simp)
    rw [assign?, mergeKey_of_leaf leaf, Step.key.inj key] at assigned
    obtain rfl := Option.some.inj assigned
    rw [Step.key.inj table]
    obtain ⟨sectioned, each⟩ := h.put_inside k.table k.key value
    refine ⟨sectioned, fun other => (each other).trans ?_⟩
    by_cases same : other = k
    · subst same
      rw [if_pos ⟨rfl, rfl⟩, if_pos rfl]
    · rw [if_neg same, if_neg fun both => same (Knob.eq_of_table_of_key both.1 both.2)]

theorem position?_of_lt {subscript : Int} (length : Nat) (h : 0 ≤ subscript ∧ subscript < itemLimit) :
    position? length subscript = some subscript.toNat := by
  have forwards : ¬ subscript < 0 := by omega
  simp only [position?, if_neg forwards, if_pos h]

theorem exists_assign? (inside : ∀ subscript : Int, .index subscript ∈ path → 0 ≤ subscript ∧ subscript < itemLimit)
    (old : Setting) : ∃ new, assign? value path old = some new := by
  induction path generalizing old with
  | nil => exact ⟨value, rfl⟩
  | cons step path ih =>
    have deeper := ih fun subscript there => inside subscript (.tail _ there)
    cases step with
    | index subscript =>
      simp only [assign?, changeItem?, position?_of_lt _ (inside subscript (.head _)), Option.bind_eq_bind,
        Option.bind_some]
      obtain ⟨item, assigned⟩ := deeper _
      rw [assigned]
      exact ⟨_, rfl⟩
    | key name =>
      cases path with
      | nil => exact ⟨_, rfl⟩
      | cons step path =>
        obtain ⟨item, assigned⟩ := deeper ((Table.find? (Text.lowercase name) old.entries).getD .empty)
        rw [assign?, assigned]
        · exact ⟨_, rfl⟩
        · simp

theorem exists_of_assign?_eq_none (h : assign? value path old = none) :
    ∃ subscript : Int, .index subscript ∈ path ∧ ¬ (0 ≤ subscript ∧ subscript < itemLimit) := by
  refine Classical.byContradiction fun nowhere => ?_
  have inside : ∀ subscript : Int, .index subscript ∈ path → 0 ≤ subscript ∧ subscript < itemLimit :=
    fun subscript there => Classical.byContradiction fun outside => nowhere ⟨subscript, there, outside⟩
  have assigned : ∃ new, assign? value path old = some new := exists_assign? inside old
  simp [h] at assigned

end Assigning

end Setting

end Sequencer
