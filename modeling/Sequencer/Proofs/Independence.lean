import Sequencer.Proofs.Engine.Bystanders
import Sequencer.Proofs.Engine.Peers

/-!
# Engines side by side

Engines share their switchboard only, and it connects them by signals only. So an engine whose hooks, callbacks and
host use no handles but its own does the same among others as alone, in whatever order the host deals with them.
-/

namespace Sequencer

variable {σ ν : Type}

/-! ## Errands -/

inductive Job (σ ν : Type) where
  | operate (operation : Operation σ ν)
  | drop

/-- What a host does for one of its engines. A handle is fired for one of them too. -/
structure Errand (σ ν : Type) where
  number : Nat
  job : Job σ ν

section

variable [Behaviour σ ν]

/-- Does what is to be done, and says how it came back. -/
def Studio.carryOut (s : Studio σ ν) (errand : Errand σ ν) : Option (Answer σ) × Studio σ ν :=
  match errand.job with
  | .operate (.edit edit) => (s.edit errand.number edit).map (Option.map .edited) id
  | .operate (.fire handle target) => (s.fire handle target).map (fun landed => some (.fired landed)) id
  | .operate operation => s.withMachine errand.number fun m => m.operate operation
  | .drop => (none, s.drop errand.number)

def Studio.after (s : Studio σ ν) (errands : List (Errand σ ν)) : Studio σ ν :=
  errands.foldl (fun s errand => (s.carryOut errand).2) s

/-- What becomes of the engine and of what is shared. -/
def Job.apply : Job σ ν → Option (Engine σ ν) → Shared ν → Option (Answer σ) × Option (Engine σ ν) × Shared ν
  | .operate operation, some e, s =>
    let (answer, m) := Machine.operate ⟨e, s⟩ operation
    (some answer, some m.engine, m.shared)
  | .operate (.fire handle target), none, s =>
    let (landed, s) := s.fire handle target
    (some (.fired landed), none, s)
  | .drop, some e, s => (none, none, { s with board := s.board.disconnect e.id })
  | _, none, s => (none, none, s)

def Job.lookups : Job σ ν → Option (Engine σ ν) → Shared ν → List Lookup
  | .operate operation, some e, s => Machine.lookups ⟨e, s⟩ operation
  | .operate (.fire handle _), none, s => s.lookUp handle true
  | _, _, _ => []

def Studio.lookups (s : Studio σ ν) (errand : Errand σ ν) : List Lookup :=
  errand.job.lookups (s.engine? errand.number) s.shared

/-! ## What comes of errands -/

/--
How an errand came back, the engine afterwards with its register, and all that has been recorded, told and reported
meanwhile.
-/
@[ext]
structure Upshot (σ ν : Type) where
  answer : Option (Answer σ)
  engine : Option (Engine σ ν)
  register : Option Register
  events : List (Event ν)
  told : List (Event ν)
  notices : List Notice

namespace Studio

def upshot (s : Studio σ ν) (errand : Errand σ ν) : Upshot σ ν :=
  let (answer, after) := s.carryOut errand
  let engine := after.engine? errand.number
  { answer
    engine
    register := engine.map fun e => after.shared.board.register e.id
    events := since s.shared.events after.shared.events
    told := since (tidings s.shared.moments) (tidings after.shared.moments)
    notices := since s.shared.notices after.shared.notices }

/-- What comes of the errands for one of the engines. -/
def upshots (number : Nat) : Studio σ ν → List (Errand σ ν) → List (Upshot σ ν)
  | _, [] => []
  | s, errand :: rest =>
    if errand.number = number then s.upshot errand :: upshots number (s.carryOut errand).2 rest
    else upshots number (s.carryOut errand).2 rest

end Studio

/-! ## What errands look up -/

/-- All that is looked up for the errands is such. -/
def Studio.Looks (P : Errand σ ν → Lookup → Prop) : Studio σ ν → List (Errand σ ν) → Prop
  | _, [] => True
  | s, errand :: rest => (∀ l ∈ s.lookups errand, P errand l) ∧ Studio.Looks P (s.carryOut errand).2 rest

instance Studio.decidableLooks {P : Errand σ ν → Lookup → Prop} [∀ errand l, Decidable (P errand l)] :
    (errands : List (Errand σ ν)) → (s : Studio σ ν) → Decidable (s.Looks P errands)
  | [], _ => .isTrue trivial
  | errand :: rest, s =>
    have : Decidable (Looks P (s.carryOut errand).2 rest) := decidableLooks rest (s.carryOut errand).2
    inferInstanceAs (Decidable ((∀ l ∈ s.lookups errand, P errand l) ∧ Looks P (s.carryOut errand).2 rest))

/--
The errands for one engine use no handles but its own, neither to fire them nor to ask about them, and the errands
for others fire none of its handles.
-/
def Studio.Apart (number : Nat) (id : EngineId) : Studio σ ν → List (Errand σ ν) → Prop :=
  Studio.Looks fun errand l => if errand.number = number then l.Own id else ¬ l.Shoots id

/-- The errands for one engine fire its handles only, and the errands for others fire none of them. -/
def Studio.Unmixed (number : Nat) (id : EngineId) : Studio σ ν → List (Errand σ ν) → Prop :=
  Studio.Looks fun errand l => l.fires = true → (l.Own id ↔ errand.number = number)

instance Studio.decidableApart (number : Nat) (id : EngineId) (errands : List (Errand σ ν)) (s : Studio σ ν) :
    Decidable (s.Apart number id errands) :=
  decidableLooks (P := fun errand l => if errand.number = number then l.Own id else ¬ l.Shoots id) errands s

instance Studio.decidableUnmixed (number : Nat) (id : EngineId) (errands : List (Errand σ ν)) (s : Studio σ ν) :
    Decidable (s.Unmixed number id errands) :=
  decidableLooks (P := fun errand l => l.fires = true → (l.Own id ↔ errand.number = number)) errands s

/-! ## One errand -/

variable {s s' : Studio σ ν} {number : Nat} {id : EngineId}

/-- One of the engines and what is shared have become these, and the other engines are as they were. -/
structure Studio.Becomes (s : Studio σ ν) (number : Nat) (engine : Option (Engine σ ν)) (shared : Shared ν)
    (s' : Studio σ ν) : Prop where
  engine? : ∀ n, s'.engine? n = if n = number then engine else s.engine? n
  shared : s'.shared = shared

namespace Studio

omit [Behaviour σ ν] in
theorem becomes_self (s : Studio σ ν) (number : Nat) (shared : Shared ν) :
    s.Becomes number (s.engine? number) shared { s with shared } := by
  refine ⟨fun n => ?_, rfl⟩
  split
  · next hit => rw [hit]; rfl
  · rfl

omit [Behaviour σ ν] in
theorem becomes_set {e : Engine σ ν} (he : s.engine? number = some e) (engine : Option (Engine σ ν))
    (shared : Shared ν) :
    s.Becomes number engine shared { s with engines := s.engines.set number engine, shared } := by
  refine ⟨fun n => ?_, rfl⟩
  rw [engine?_set]
  by_cases hit : n = number
  · rw [if_pos hit, if_pos ⟨hit.symm, lt_of_engine? he⟩]
  · rw [if_neg hit, if_neg fun both => hit both.1.symm]

omit [Behaviour σ ν] in
theorem Becomes.congr {engine : Option (Engine σ ν)} {shared : Shared ν} {after after' : Studio σ ν}
    (h : s.Becomes number engine shared after) (engines : after'.engines = after.engines)
    (same : after'.shared = after.shared) : s.Becomes number engine shared after' := by
  refine ⟨fun n => ?_, same.trans h.shared⟩
  rw [← h.engine? n, Studio.engine?, engines]
  rfl

omit [Behaviour σ ν] in
theorem withMachine_eq {α : Type} (s : Studio σ ν) (number : Nat) (work : Machine σ ν → α × Machine σ ν) :
    let worked := (s.engine? number).map fun e => work ⟨e, s.shared⟩
    (s.withMachine number work).1 = worked.map (·.1) ∧
      s.Becomes number (worked.map (·.2.engine)) ((worked.map (·.2.shared)).getD s.shared)
        (s.withMachine number work).2 := by
  have same := s.becomes_self number s.shared
  rw [withMachine]
  cases he : s.engine? number with
  | none =>
    rw [he] at same
    exact ⟨rfl, same⟩
  | some e => exact ⟨rfl, becomes_set he _ _⟩

theorem edit_eq (s : Studio σ ν) (number : Nat) (edit : Edit σ) :
    let edited := s.withMachine number fun m => m.edit edit
    (s.edit number edit).1 = edited.1 ∧ (s.edit number edit).2.engines = edited.2.engines ∧
      (s.edit number edit).2.shared = edited.2.shared := by
  rw [Studio.edit]
  split
  · next heq =>
    rw [heq]
    exact ⟨rfl, rfl, rfl⟩
  · exact ⟨rfl, rfl, rfl⟩

theorem carryOut_eq (s : Studio σ ν) (errand : Errand σ ν) :
    let applied := errand.job.apply (s.engine? errand.number) s.shared
    (s.carryOut errand).1 = applied.1 ∧ s.Becomes errand.number applied.2.1 applied.2.2 (s.carryOut errand).2 := by
  obtain ⟨number, job⟩ := errand
  cases job with
  | drop =>
    have same := s.becomes_self number s.shared
    rw [carryOut]
    cases he : s.engine? number with
    | none =>
      have dropped : s.drop number = s := by rw [Studio.drop, he]
      rw [he] at same
      exact ⟨rfl, same.congr (congrArg engines dropped) (congrArg shared dropped)⟩
    | some e =>
      refine ⟨rfl, ?_⟩
      rw [Studio.drop, he]
      exact (becomes_set he none _).congr rfl rfl
  | operate operation =>
    cases operation with
    | fire handle target =>
      have fired := s.becomes_self number (s.shared.fire handle target).2
      rw [carryOut]
      generalize s.engine? number = engine at fired
      cases engine <;> exact ⟨rfl, fired⟩
    | edit edit =>
      obtain ⟨answer, engines, shared⟩ := s.edit_eq number edit
      obtain ⟨replied, becomes⟩ := s.withMachine_eq number fun m => m.edit edit
      have edited := becomes.congr engines shared
      rw [replied] at answer
      generalize s.engine? number = engine at answer edited
      cases engine <;> exact ⟨congrArg (Option.map Answer.edited) answer, edited⟩
    | call fuel call =>
      have called := s.withMachine_eq number fun m => m.operate (.call fuel call)
      generalize s.engine? number = engine at called
      cases engine <;> exact called
    | drive fuel rounds interval maxTicks =>
      have driven := s.withMachine_eq number fun m => m.operate (.drive fuel rounds interval maxTicks)
      generalize s.engine? number = engine at driven
      cases engine <;> exact driven

end Studio

/-! ## What a job leaves alone, and what it depends on -/

namespace Job

variable {engine : Option (Engine σ ν)} {shared shared' o o' : Shared ν}

theorem id_apply {P : EngineId → Prop} (job : Job σ ν) (h : ∀ e ∈ engine, P e.id) :
    ∀ e ∈ (job.apply engine shared).2.1, P e.id := by
  match job, engine with
  | .operate operation, some e =>
    rintro _ ⟨rfl⟩
    exact (Machine.id_operate ⟨e, shared⟩ operation).symm ▸ h e rfl
  | .operate (.fire _ _), none | .operate (.call _ _), none | .operate (.drive _ _ _ _), none
  | .operate (.edit _), none | .drop, none | .drop, some e => exact fun e he => absurd he (Option.not_mem_none e)

theorem spares_apply (job : Job σ ν) (other : ∀ e ∈ engine, e.id ≠ id) :
    shared.Spares id (job.apply engine shared).2.2 := by
  match job, engine with
  | .operate operation, some e => exact Machine.spares_operate (m := ⟨e, shared⟩) operation (other e rfl)
  | .operate (.fire handle target), none => exact .answer id shared (.fire handle target)
  | .operate (.call _ _), none | .operate (.drive _ _ _ _), none | .operate (.edit _), none | .drop, none =>
    exact .refl id shared
  | .drop, some e =>
    refine ⟨.refl .., .refl .., .refl .., .inl ?_, fun _ => .inl rfl⟩
    exact (Table.get?_erase shared.board.registers e.id id).trans (if_neg (Ne.symm (other e rfl)))

theorem unshot_apply (job : Job σ ν) (other : ∀ e ∈ engine, e.id ≠ id)
    (unshot : ∀ l ∈ job.lookups engine shared, ¬ l.Shoots id) :
    Grows (fun moment => moment.lands id = false) shared.moments (job.apply engine shared).2.2.moments := by
  have start := Shared.Unshot.refl id shared
  match job, engine with
  | .operate operation, some e =>
    have still : Machine.Unshot id shared ⟨e, shared⟩ ⟨e, shared⟩ := ⟨rfl, other e rfl, start⟩
    exact ((Machine.inStep_unshot id shared).operate still operation unshot).2.shared.unshot
  | .operate (.fire handle target), none => exact (start.answer (.fire handle target) unshot).2.unshot
  | .operate (.call _ _), none | .operate (.drive _ _ _ _), none | .operate (.edit _), none | .drop, none
  | .drop, some e => exact start.unshot

theorem peer_apply (job : Job σ ν) (own : ∀ e ∈ engine, e.id = id) (h : Shared.Peer id o o' shared shared')
    (such : ∀ l ∈ job.lookups engine shared, l.Own id) :
    let applied := job.apply engine shared
    let applied' := job.apply engine shared'
    applied.1 = applied'.1 ∧ applied.2.1 = applied'.2.1 ∧ Shared.Peer id o o' applied.2.2 applied'.2.2 := by
  match job, engine with
  | .operate operation, some e =>
    have peers : Machine.Peer id o o' ⟨e, shared⟩ ⟨e, shared'⟩ := ⟨rfl, own e rfl, h⟩
    obtain ⟨same, peers⟩ := (Machine.inStep_peer id o o').operate peers operation such
    exact ⟨congrArg some same, congrArg some peers.engine, peers.shared⟩
  | .operate (.fire _ target), none =>
    obtain ⟨same, peers⟩ := h.fire such target
    exact ⟨congrArg (fun landed => some (Answer.fired landed)) same, rfl, peers⟩
  | .operate (.call _ _), none | .operate (.drive _ _ _ _), none | .operate (.edit _), none | .drop, none =>
    exact ⟨rfl, rfl, h⟩
  | .drop, some e =>
    refine ⟨rfl, rfl, ?_, h.names, h.events, h.told, h.notices⟩
    obtain rfl := own e rfl
    exact (Table.get?_erase ..).trans ((if_pos rfl).trans ((Table.get?_erase ..).trans (if_pos rfl)).symm)

end Job

/-! ## Errands one after another -/

/-- The engine with that number has the id, and no other engine has it. -/
def Studio.Seats (s : Studio σ ν) (number : Nat) (id : EngineId) : Prop :=
  ∀ n e, s.engine? n = some e → (e.id = id ↔ n = number)

/-- It is done for another engine, or is no more than a shot. -/
def Errand.Aside (number : Nat) (errand : Errand σ ν) : Prop :=
  errand.number ≠ number ∨ ∃ handle target, errand.job = .operate (.fire handle target)

namespace Studio

omit [Behaviour σ ν] in
theorem Seats.own (h : s.Seats number id) : ∀ e ∈ s.engine? number, e.id = id := fun e he => (h number e he).mpr rfl

omit [Behaviour σ ν] in
theorem Seats.other (h : s.Seats number id) {n : Nat} (ne : n ≠ number) : ∀ e ∈ s.engine? n, e.id ≠ id :=
  fun e he own => ne ((h n e he).mp own)

theorem Seats.carryOut (h : s.Seats number id) (errand : Errand σ ν) : (s.carryOut errand).2.Seats number id := by
  obtain ⟨-, becomes⟩ := s.carryOut_eq errand
  intro n e he
  rw [becomes.engine?] at he
  split at he
  · next hit =>
    subst hit
    exact Job.id_apply (P := fun other => other = id ↔ _) errand.job (h errand.number) e he
  · exact h n e he

theorem Seats.spares (h : s.Seats number id) {errand : Errand σ ν} (aside : errand.Aside number) :
    let after := (s.carryOut errand).2
    after.engine? number = s.engine? number ∧ s.shared.Spares id after.shared := by
  rcases aside with other | ⟨handle, target, shot⟩
  · obtain ⟨-, becomes⟩ := s.carryOut_eq errand
    refine ⟨(becomes.engine? number).trans (if_neg (Ne.symm other)), ?_⟩
    rw [becomes.shared]
    exact Job.spares_apply errand.job (h.other other)
  · obtain ⟨n, job⟩ := errand
    obtain rfl : job = .operate (.fire handle target) := shot
    exact ⟨rfl, .answer id s.shared (.fire handle target)⟩

theorem Seats.after (h : s.Seats number id) (errands : List (Errand σ ν)) : (s.after errands).Seats number id := by
  induction errands generalizing s with
  | nil => exact h
  | cons errand rest ih => exact ih (h.carryOut errand)

theorem Seats.spares_after (h : s.Seats number id) {errands : List (Errand σ ν)}
    (aside : ∀ errand ∈ errands, errand.Aside number) :
    (s.after errands).engine? number = s.engine? number ∧ s.shared.Spares id (s.after errands).shared := by
  induction errands generalizing s with
  | nil => exact ⟨rfl, .refl id s.shared⟩
  | cons errand rest ih =>
    obtain ⟨first, others⟩ := List.forall_mem_cons.mp aside
    obtain ⟨engine, spares⟩ := h.spares first
    obtain ⟨engine', spares'⟩ := ih (h.carryOut errand) others
    exact ⟨engine'.trans engine, spares.trans spares'⟩

/-- The engine is the same in both studios, and among peers. -/
structure Along (number : Nat) (id : EngineId) (s s' : Studio σ ν) : Prop where
  seats : s.Seats number id
  seats' : s'.Seats number id
  engine : s.engine? number = s'.engine? number
  shared : Shared.Peer id s.shared s'.shared s.shared s'.shared

theorem Along.own (h : Along number id s s') {errand : Errand σ ν} (hit : errand.number = number)
    (own : ∀ l ∈ s.lookups errand, l.Own id) :
    s.upshot errand = s'.upshot errand ∧ Along number id (s.carryOut errand).2 (s'.carryOut errand).2 := by
  subst hit
  have seats := h.seats.carryOut errand
  obtain ⟨answer, becomes⟩ := s.carryOut_eq errand
  obtain ⟨answer', becomes'⟩ := s'.carryOut_eq errand
  obtain ⟨same, engine, peers⟩ := Job.peer_apply errand.job h.seats.own h.shared own
  rw [← h.engine] at answer' becomes'
  rw [← becomes.shared, ← becomes'.shared] at peers
  have engine : (s.carryOut errand).2.engine? errand.number = (s'.carryOut errand).2.engine? errand.number := by
    rw [becomes.engine?, becomes'.engine?, if_pos rfl, if_pos rfl, engine]
  refine ⟨Upshot.ext (answer.trans (same.trans answer'.symm)) engine ?_ peers.events.since peers.told.since
    peers.notices.since, seats, h.seats'.carryOut errand, engine, peers.rebase⟩
  -- The engine that is there has the id, so its register is the same too.
  show ((s.carryOut errand).2.engine? errand.number).map _ = ((s'.carryOut errand).2.engine? errand.number).map _
  rw [← engine]
  refine Option.map_congr fun e he => ?_
  show (s.carryOut errand).2.shared.board.register e.id = (s'.carryOut errand).2.shared.board.register e.id
  rw [seats.own e he, Switchboard.register, Switchboard.register, peers.register]

theorem Along.other (h : Along number id s s') {errand : Errand σ ν} (miss : errand.number ≠ number)
    (unshot : ∀ l ∈ s.lookups errand, ¬ l.Shoots id) : Along number id (s.carryOut errand).2 s' := by
  obtain ⟨engine, spares⟩ := h.seats.spares (.inl miss)
  -- A signal is all that the errand could do to the engine, and none has landed.
  have quiet := Job.unshot_apply errand.job (h.seats.other miss) unshot
  rw [← (s.carryOut_eq errand).2.shared] at quiet
  refine ⟨h.seats.carryOut errand, h.seats', engine.trans h.engine, ?_, fun name => ?_, .refl .., .refl .., .refl ..⟩
  · rcases spares.register with same | ⟨⟨handle, landed, own⟩, -⟩
    · exact same.trans h.shared.register
    · have lands := quiet.since _ landed
      rw [Moment.lands, decide_eq_false_iff_not] at lands
      exact absurd own lands
  · rcases spares.names name with same | foreign
    · rw [same]
      exact h.shared.names name
    · exact .inr foreign

theorem Along.upshots (h : Along number id s s') {errands : List (Errand σ ν)} (apart : s.Apart number id errands) :
    s.upshots number errands = s'.upshots number (errands.filter fun errand => errand.number = number) := by
  -- On the errands. Those for other engines are carried out in the first studio only.
  induction errands generalizing s s' with
  | nil => rfl
  | cons errand rest ih =>
    obtain ⟨first, others⟩ := apart
    rw [Studio.upshots]
    by_cases hit : errand.number = number
    · simp only [if_pos hit] at first
      obtain ⟨same, along⟩ := h.own hit first
      rw [if_pos hit, List.filter_cons_of_pos (by simpa using hit), Studio.upshots, if_pos hit, same, ih along others]
    · simp only [if_neg hit] at first
      rw [if_neg hit, List.filter_cons_of_neg (by simpa using hit), ih (h.other hit first) others]

end Studio

/-! ## Independence -/

omit [Behaviour σ ν] in
theorem Studio.Sound.seats {ids : List EngineId} {e : Engine σ ν} (h : s.Sound ids)
    (he : s.engine? number = some e) : s.Seats number e.id := by
  intro n e' he'
  constructor
  · exact h.distinct n number e' e he' he
  · rintro rfl
    exact congrArg Engine.id (Option.some.inj (he'.symm.trans he))

/--
Engines are independent. A shot changes nothing but the armed ticket and the pending jump of the engine that issued
the handle. Nothing that is done for other engines, and no shot, does more to an engine than that: it stays as it
is, and nothing of it runs or is told. And what is done for it comes to the same whatever else is done in between,
as long as it uses no handles but its own and no one else signals it.
-/
theorem engines_independent {ids : List EngineId} {e : Engine σ ν} (h : Reachable ids s)
    (he : s.engine? number = some e) :
    (∀ (shared : Shared ν) name target, (shared.fire name target).2 = shared ∨
      ∃ handle r goal, shared.board.handles.get? name = some handle ∧
        shared.board.registers.get? handle.engine = some r ∧ r.armed = some handle.ticket ∧
        (shared.fire name target).2 = { shared with
          board := shared.board.setRegister handle.engine { r with armed := none, pending := some (.to goal) }
          moments := .landed handle :: shared.moments }) ∧
    (∀ earlier later : List (Errand σ ν), (∀ errand ∈ later, errand.Aside number) →
      let before := s.after earlier
      let after := before.after later
      after.engine? number = before.engine? number ∧ before.shared.Spares e.id after.shared) ∧
    (∀ errands, s.Apart number e.id errands →
      s.upshots number errands = s.upshots number (errands.filter fun errand => errand.number = number)) := by
  have seats := h.sound.seats he
  refine ⟨fun shared name target => ?_, fun earlier later aside => (seats.after earlier).spares_after aside,
    fun errands apart => ?_⟩
  · rw [Shared.fire]
    cases held : shared.board.handles.get? name with
    | none => exact .inl rfl
    | some handle =>
      rcases shared.signal_cases handle (target.getD (handle.index + 1)) with ⟨-, missed⟩ | ⟨-, r, hr, armed, landed⟩
      · exact .inl (congrArg Prod.snd missed)
      · exact .inr ⟨handle, r, _, rfl, hr, armed, congrArg Prod.snd landed⟩
  · have along : Studio.Along number e.id s s :=
      ⟨seats, seats, rfl, rfl, fun _ => .inl rfl, .refl .., .refl .., .refl ..⟩
    exact along.upshots apart

end

/-! ## The keeper beside another engine -/

def neighbourId : EngineId := ⟨9⟩

/-- The keeper's engine, and beside it an engine with one command. -/
def keeperBeside (command : Command Cue) : Studio Cue Note :=
  keeperStart.add (.create neighbourId "neighbour" ((Edit.push command).apply {}).2 (some .recorder) true)

theorem reachable_keeperBeside (command : Command Cue) :
    Reachable [neighbourId, keeperId] (keeperBeside command) :=
  .add neighbourId "neighbour" (some .recorder) true reachable_keeperStart (by decide) (.edit (.push command) .empty)

/-- It puts its handle away as the keeper does, and waits too. -/
def sleeper : Command Cue where
  name := "sleeper"
  state := .scripted { name := "sleeper", execute := [[.hold "asleep"]], tick := [], stop := [] }

def Errand.start (number : Nat) : Errand Cue Note := ⟨number, .operate (.call 10 (.execute 0 none))⟩

def Errand.stop (number : Nat) : Errand Cue Note := ⟨number, .operate (.call 10 .stop)⟩

/-- Both engines run at once, and their tickets are the same numbers. -/
def keeperAndSleeper : List (Errand Cue Note) :=
  [.start 1, .start 0, ⟨1, .operate (.fire "asleep" none)⟩, .stop 0, .start 0, ⟨1, .operate (.call 10 .tick)⟩, ⟨1, .drop⟩,
    ⟨0, .operate (.fire "kept" none)⟩, ⟨0, .operate (.call 10 .tick)⟩]

theorem engines_independent_keeper : Reachable [neighbourId, keeperId] (keeperBeside sleeper) ∧
    (keeperBeside sleeper).Apart 0 keeperId keeperAndSleeper ∧
    (keeperBeside sleeper).upshots 0 keeperAndSleeper =
      (keeperBeside sleeper).upshots 0 (keeperAndSleeper.filter fun errand => errand.number = 0) := by
  obtain ⟨e, he⟩ := Option.isSome_iff_exists.mp (by decide : ((keeperBeside sleeper).engine? 0).isSome = true)
  have own : ∀ e ∈ (keeperBeside sleeper).engine? 0, e.id = keeperId := by decide
  have apart : (keeperBeside sleeper).Apart 0 keeperId keeperAndSleeper := by decide +kernel
  have independent := engines_independent (reachable_keeperBeside sleeper) he
  rw [own e he] at independent
  exact ⟨reachable_keeperBeside sleeper, apart, independent.2.2 keeperAndSleeper apart⟩

/-- It asks whether the keeper's handle is armed, and goes on. -/
def peeker : Command Cue where
  name := "peeker"
  state := .scripted { name := "peeker", execute := [[.handle (.armed "kept"), .next]], tick := [], stop := [] }

/--
It is not enough that neither engine fires handles of the other. The hook of the peeker asks about the handle of the
keeper, so what it notes depends on whether the keeper has been started, and on whether it has been stopped already.
-/
theorem peeker_sees_keeper :
    let s := keeperBeside peeker
    let events := fun errands => (s.upshots 1 errands).map (·.events)
    Reachable [neighbourId, keeperId] s ∧
    (∀ errands ∈ [[.start 0, .stop 0, .start 1], [.start 0, .start 1, .stop 0]],
      s.Unmixed 0 keeperId errands ∧ s.Unmixed 1 neighbourId errands) ∧
    events [.start 0, .stop 0, .start 1] ≠ events [.start 1] ∧
    events [.start 0, .stop 0, .start 1] ≠ events [.start 0, .start 1, .stop 0] := by
  refine ⟨reachable_keeperBeside peeker, ?_, ?_, ?_⟩
  all_goals decide +kernel

end Sequencer
