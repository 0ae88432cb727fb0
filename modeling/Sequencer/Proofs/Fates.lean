import Sequencer.Proofs.Ledger
import Sequencer.Proofs.Turns

/-!
# What becomes of activations

The turns of a history tell of each activation whether it is ongoing, the loop has gone on from it, or it was
stopped. How often its stop hook is called depends on that, and on whether it had signalled by then.
-/

namespace Sequencer

variable {ν : Type} {id : EngineId} {ticket : Ticket} {moment : Moment ν} {moments : List (Moment ν)}
  {turns : List (Turn ν)} {index : Nat} {board : Switchboard} {active : Option Nat}
  {excused : Ticket → Prop}

/-! ## Fates -/

inductive Fate where
  | ongoing
  /-- The loop has gone on, because of a signal or a redirect. -/
  | left
  /-- The run was stopped. -/
  | stopped
deriving DecidableEq

/-- The latest activation comes to its end, if it is ongoing. -/
def Fate.close (fate : Fate) : List Fate → List Fate
  | .ongoing :: earlier => fate :: earlier
  | fates => fates

/-- What becomes of the activations by an engine, the latest first. -/
def fates (id : EngineId) : List (Turn ν) → List Fate
  | [] => []
  | .jumped engine _ _ _ next :: earlier =>
    if engine = id then (next.map fun _ => Fate.ongoing).toList ++ Fate.left.close (fates id earlier)
    else fates id earlier
  | .aborted engine _ :: earlier =>
    if engine = id then Fate.stopped.close (fates id earlier) else fates id earlier
  | .began .. :: earlier | .completed .. :: earlier => fates id earlier

theorem Fate.head?_close {fate : Fate} (h : fate ≠ .ongoing) (fates : List Fate) :
    (fate.close fates).head? ≠ some .ongoing := by
  cases fates with
  | nil => simp [close]
  | cons last earlier => cases last <;> simp [close, h]

theorem fates_append_of_ne {new : List (Turn ν)} (h : ∀ turn ∈ new, turn.engine ≠ id) (turns : List (Turn ν)) :
    fates id (new ++ turns) = fates id turns := by
  induction new with
  | nil => rfl
  | cons turn new ih =>
    have rest := ih fun turn hm => h turn (.tail _ hm)
    have other := h turn (.head _)
    cases turn with
    | jumped => exact (if_neg other).trans rest
    | aborted => exact (if_neg other).trans rest
    | began | completed => exact rest

/-! ## Calls of stop hooks -/

/-- Whether the stop hook is called for the activation. -/
def Moment.isHalt (id : EngineId) (ticket : Ticket) : Moment ν → Bool
  | .called engine .stop _ number _ => engine = id ∧ number = ticket
  | _ => false

/-- How often the stop hook has been called for an activation. -/
def halts (id : EngineId) (ticket : Ticket) (moments : List (Moment ν)) : Nat :=
  moments.countP (Moment.isHalt id ticket)

/-- Whenever the stop hook was called for the activation, no signal of it had landed. -/
def Unheard (id : EngineId) (ticket : Ticket) (moments : List (Moment ν)) : Prop :=
  ∀ index board earlier, .called id .stop index ticket board :: earlier <:+ moments →
    landings id ticket earlier = 0

/-- How an activation is treated that comes to its end because the loop goes on. -/
structure Parting (id : EngineId) (moments : List (Moment ν)) (ticket : Ticket) : Prop where
  once : halts id ticket moments ≤ 1
  heard : .failed id ticket ∉ moments →
    halts id ticket moments = 0 ∧ landings id ticket moments ≠ 0 ∨
    halts id ticket moments = 1 ∧ Unheard id ticket moments

/-- How an activation is treated, depending on what becomes of it. -/
def Due (id : EngineId) (moments : List (Moment ν)) (ticket : Ticket) : Fate → Prop
  | .ongoing => halts id ticket moments ≤ 1
  | .left => Parting id moments ticket
  | .stopped => halts id ticket moments = 1

def Stopped (id : EngineId) (moments : List (Moment ν)) (turns : List (Turn ν)) (ticket : Ticket) : Prop :=
  (ticket, Fate.stopped) ∈ (activations id moments).zip (fates id turns)

/--
Each activation is treated as it should be. Stop hooks are called for the latest one only, and only if it is
stopped, or excused.
-/
structure Disciplined (id : EngineId) (excused : Ticket → Prop) (moments : List (Moment ν))
    (turns : List (Turn ν)) : Prop where
  due : List.Forall₂ (Due id moments) (activations id moments) (fates id turns)
  latest : ∀ index ticket board earlier, .called id .stop index ticket board :: earlier <:+ moments →
    (calls id earlier).head? = some index ∧ (activations id earlier).head? = some ticket
  called : ∀ ticket, halts id ticket moments ≠ 0 → Stopped id moments turns ticket ∨ excused ticket

/-! ## Further moments -/

theorem halts_cons : halts id ticket (moment :: moments) =
    halts id ticket moments + if moment.isHalt id ticket then 1 else 0 :=
  List.countP_cons ..

theorem halts_cons_of_not (h : moment.isHalt id ticket = false) :
    halts id ticket (moment :: moments) = halts id ticket moments := by
  rw [halts_cons, h]
  rfl

theorem isHalt_of_ne (h : moment.engine? ≠ some id) : moment.isHalt id ticket = false := by
  cases moment with
  | called engine hook index number board =>
    cases hook
    · rfl
    · rfl
    · exact decide_eq_false fun halt => h (congrArg some halt.1)
  | _ => rfl

theorem isHalt_of_suffix {number : Ticket} {earlier : List (Moment ν)}
    (h : .called id .stop index number board :: earlier <:+ moment :: moments)
    (other : moment.isHalt id number = false) :
    .called id .stop index number board :: earlier <:+ moments := by
  rcases List.suffix_cons_iff.mp h with heq | suffix
  · rw [← (List.cons.inj heq).1] at other
    simp [Moment.isHalt] at other
  · exact suffix

theorem Parting.cons (h : Parting id moments ticket) (other : moment.isHalt id ticket = false) :
    Parting id (moment :: moments) ticket := by
  refine ⟨by rw [halts_cons_of_not other]; exact h.once, fun sane => ?_⟩
  rw [halts_cons_of_not other]
  rcases h.heard fun failed => sane (.tail _ failed) with ⟨none_called, landed⟩ | ⟨called, unheard⟩
  · refine .inl ⟨none_called, ?_⟩
    rw [landings_cons]
    omega
  · exact .inr ⟨called, fun index board earlier suffix =>
      unheard index board earlier (isHalt_of_suffix suffix other)⟩

theorem Due.cons {fate : Fate} (h : Due id moments ticket fate) (other : moment.isHalt id ticket = false) :
    Due id (moment :: moments) ticket fate := by
  cases fate with
  | left => exact Parting.cons h other
  | ongoing | stopped =>
    rw [Due, halts_cons_of_not other]
    exact h

theorem forall₂_due_cons {tickets : List Ticket} {stages : List Fate}
    (h : List.Forall₂ (Due id moments) tickets stages)
    (other : ∀ ticket ∈ tickets, moment.isHalt id ticket = false) :
    List.Forall₂ (Due id (moment :: moments)) tickets stages := by
  induction h with
  | nil => exact .nil
  | cons first _ ih =>
    obtain ⟨here, there⟩ := List.forall_mem_cons.mp other
    exact .cons (first.cons here) (ih there)

/-- A moment after which an engine has the same activations and calls of stop hooks as before. -/
structure Moment.KeepsHalts (id : EngineId) (moment : Moment ν) : Prop where
  activation : moment.activation? id = none
  halt : ∀ ticket, moment.isHalt id ticket = false

theorem Moment.keepsHalts_of_ne (h : moment.engine? ≠ some id) : moment.KeepsHalts id :=
  ⟨activation?_of_ne h, fun _ => isHalt_of_ne h⟩

theorem Moment.KeepsHalts.activations (h : moment.KeepsHalts id) :
    Sequencer.activations id (moment :: moments) = Sequencer.activations id moments := by
  rw [activations_cons, h.activation]
  rfl

theorem Disciplined.latest_cons (h : Disciplined id excused moments turns)
    (other : ∀ ticket, moment.isHalt id ticket = false) (ticket : Ticket) (earlier : List (Moment ν))
    (suffix : .called id .stop index ticket board :: earlier <:+ moment :: moments) :
    (calls id earlier).head? = some index ∧ (activations id earlier).head? = some ticket :=
  h.latest index ticket board earlier (isHalt_of_suffix suffix (other ticket))

theorem Disciplined.cons (h : Disciplined id excused moments turns) (keeps : moment.KeepsHalts id) :
    Disciplined id excused (moment :: moments) turns where
  due := by
    rw [keeps.activations]
    exact forall₂_due_cons h.due fun _ _ => keeps.halt _
  latest _ _ _ _ suffix := h.latest_cons keeps.halt _ _ suffix
  called ticket halted := by
    rw [halts_cons_of_not (keeps.halt ticket)] at halted
    rw [Stopped, keeps.activations]
    exact h.called ticket halted

theorem Disciplined.mono {excused' : Ticket → Prop} (h : Disciplined id excused moments turns)
    (more : ∀ ticket, excused ticket → excused' ticket) : Disciplined id excused' moments turns :=
  ⟨h.due, h.latest, fun ticket halted => (h.called ticket halted).imp_right (more ticket)⟩

/-! ## Stop hooks -/

theorem Disciplined.halts_eq_zero (h : Disciplined id excused moments turns)
    (new : ticket ∉ activations id moments) : halts id ticket moments = 0 := by
  refine List.countP_eq_zero.mpr fun moment hm halt => new ?_
  cases moment with
  | called engine hook index number board =>
    cases hook with
    | stop =>
      obtain ⟨rfl, rfl⟩ := of_decide_eq_true halt
      obtain ⟨later, earlier, rfl⟩ := List.append_of_mem hm
      have head := (h.latest index number board earlier ⟨later, rfl⟩).2
      refine List.mem_filterMap.mpr ?_
      obtain ⟨called, hc, ha⟩ := List.mem_filterMap.mp (List.mem_of_mem_head? head)
      exact ⟨called, List.mem_append_right _ (.tail _ hc), ha⟩
    | execute | tick => simp [Moment.isHalt] at halt
  | _ => simp [Moment.isHalt] at halt

theorem Disciplined.halt (h : Disciplined id excused moments turns) (nodup : (activations id moments).Nodup)
    (called : (calls id moments).head? = some index) (latest : (activations id moments).head? = some ticket)
    (ongoing : (fates id turns).head? = some .ongoing) (unhalted : halts id ticket moments = 0)
    (board : Switchboard) :
    let moments' := .called id .stop index ticket board :: moments
    Disciplined id (fun number => excused number ∨ number = ticket) moments' turns ∧
      halts id ticket moments' = 1 ∧
      (landings id ticket moments = 0 → Unheard id ticket moments') := by
  intro moments'
  have halted : halts id ticket moments' = 1 := by
    rw [halts_cons, unhalted]
    simp [Moment.isHalt]
  have same : activations id moments' = activations id moments := activations_cons
  refine ⟨⟨?_, fun index' number board' earlier suffix => ?_, fun number called => ?_⟩, halted,
    fun none_landed index' board' earlier suffix => ?_⟩
  · -- This is the one call for the latest activation; the others have other tickets.
    have due := h.due
    rw [same]
    generalize activations id moments = tickets at due nodup latest
    generalize fates id turns = stages at due ongoing
    cases due with
    | nil => simp at latest
    | cons first rest =>
      obtain rfl := Option.some.inj latest
      obtain rfl := Option.some.inj ongoing
      refine .cons (Nat.le_of_eq halted) (forall₂_due_cons rest fun number hm => decide_eq_false fun halt => ?_)
      rw [← halt.2] at hm
      exact (List.nodup_cons.mp nodup).1 hm
  · rcases List.suffix_cons_iff.mp suffix with heq | suffix
    · obtain ⟨same_call, rfl⟩ := List.cons.inj heq
      obtain ⟨-, -, rfl, rfl, -⟩ := Moment.called.inj same_call
      exact ⟨called, latest⟩
    · exact h.latest index' number board' earlier suffix
  · -- A call for any other ticket has been excused before.
    by_cases own : number = ticket
    · exact .inr (.inr own)
    · have other : (Moment.called id .stop index ticket board : Moment ν).isHalt id number = false :=
        decide_eq_false fun halt => own halt.2.symm
      rw [halts_cons_of_not other] at called
      rw [Stopped, same]
      exact (h.called number called).imp_right .inl
  · rcases List.suffix_cons_iff.mp suffix with heq | suffix
    · rw [(List.cons.inj heq).2]
      exact none_landed
    · have counted := List.countP_eq_zero.mp unhalted _ (suffix.subset (.head _))
      simp [Moment.isHalt] at counted

/-! ## Between hooks -/

/-- The fates of the activations by an engine, of which the last is ongoing exactly if a command is active. -/
structure Paced (id : EngineId) (excused : Ticket → Prop) (active : Option Nat) (moments : List (Moment ν))
    (turns : List (Turn ν)) : Prop where
  disciplined : Disciplined id excused moments turns
  ongoing : (fates id turns).head? = some .ongoing ↔ active.isSome = true

/-- The stop hook has not been called for the latest activation. -/
def Unhalted (id : EngineId) (moments : List (Moment ν)) : Prop :=
  ∀ ticket, (activations id moments).head? = some ticket → halts id ticket moments = 0

/-- The latest activation may come to its end because the loop goes on. -/
def Departing (id : EngineId) (moments : List (Moment ν)) : Prop :=
  ∀ ticket, (activations id moments).head? = some ticket → Parting id moments ticket

theorem Paced.cons (h : Paced id excused active moments turns) (keeps : moment.KeepsHalts id) :
    Paced id excused active (moment :: moments) turns :=
  ⟨h.disciplined.cons keeps, h.ongoing⟩

theorem Unhalted.cons (h : Unhalted id moments) (keeps : moment.KeepsHalts id) : Unhalted id (moment :: moments) := by
  intro ticket latest
  rw [keeps.activations] at latest
  rw [halts_cons_of_not (keeps.halt ticket), h ticket latest]

/-! ## Further turns -/

theorem Disciplined.close (h : Disciplined id excused moments turns) {fate : Fate}
    (due : ∀ ticket, (activations id moments).head? = some ticket → (fates id turns).head? = some .ongoing →
      Due id moments ticket fate) :
    List.Forall₂ (Due id moments) (activations id moments) (fate.close (fates id turns)) := by
  have each := h.due
  generalize activations id moments = tickets at each due
  generalize fates id turns = stages at each due
  cases each with
  | nil => exact .nil
  | @cons ticket last _ _ first rest =>
    cases last with
    | ongoing => exact .cons (due ticket rfl rfl) rest
    | left | stopped => exact .cons first rest

theorem mem_zip_close {tickets : List Ticket} {stages : List Fate} (fate : Fate)
    (h : (ticket, Fate.stopped) ∈ tickets.zip stages) :
    (ticket, Fate.stopped) ∈ tickets.zip (fate.close stages) := by
  cases tickets with
  | nil => simp at h
  | cons latest tickets =>
    cases stages with
    | nil => simp at h
    | cons last stages =>
      cases last with
      | ongoing =>
        rcases List.mem_cons.mp h with same | later
        · simp at same
        · exact .tail _ later
      | left | stopped => exact h

theorem Disciplined.abort (h : Disciplined id (fun number => excused number ∨ number = ticket) moments turns)
    (run : Nat) (latest : (activations id moments).head? = some ticket)
    (ongoing : (fates id turns).head? = some .ongoing) (halted : halts id ticket moments = 1) :
    Paced id excused none moments (.aborted id run :: turns) := by
  have closed : fates id (.aborted id run :: turns) = Fate.stopped.close (fates id turns) := if_pos rfl
  refine ⟨⟨?_, h.latest, fun number called => ?_⟩, ?_⟩
  · rw [closed]
    refine h.close fun number hd _ => ?_
    obtain rfl := Option.some.inj (hd.symm.trans latest)
    exact halted
  · rw [Stopped, closed]
    rcases h.called number called with stopped | excused | rfl
    · exact .inl (mem_zip_close _ stopped)
    · exact .inr excused
    · refine .inl ?_
      obtain ⟨tickets, ht⟩ := List.head?_eq_some_iff.mp latest
      obtain ⟨stages, hs⟩ := List.head?_eq_some_iff.mp ongoing
      rw [ht, hs]
      exact .head _
  · rw [closed]
    simpa using Fate.head?_close (by simp) (fates id turns)

theorem Disciplined.exhaust {run target : Nat} {outline : List (Bool × Kind)}
    (h : Disciplined id excused moments turns) (parting : ∀ ticket, (activations id moments).head? = some ticket →
      (fates id turns).head? = some .ongoing → Parting id moments ticket) :
    Paced id excused none moments (.jumped id run target outline none :: turns) := by
  have closed : fates id (.jumped id run target outline none :: turns) = Fate.left.close (fates id turns) :=
    if_pos rfl
  refine ⟨⟨?_, h.latest, fun number called => ?_⟩, ?_⟩
  · rw [closed]
    exact h.close parting
  · rw [Stopped, closed]
    exact (h.called number called).imp_left (mem_zip_close _)
  · rw [closed]
    simpa using Fate.head?_close (by simp) (fates id turns)

theorem Disciplined.activate (h : Disciplined id excused moments turns)
    (parting : ∀ ticket, (activations id moments).head? = some ticket →
      (fates id turns).head? = some .ongoing → Parting id moments ticket)
    (new : ticket ∉ activations id moments) (run target : Nat) (outline : List (Bool × Kind)) (goal index : Nat)
    (board : Switchboard) :
    let moments' := .called id .execute index ticket board :: moments
    Paced id excused (some goal) moments' (.jumped id run target outline (some goal) :: turns) ∧
      Unhalted id moments' := by
  intro moments'
  have no_halt : ∀ number, (Moment.called id .execute index ticket board : Moment ν).isHalt id number = false :=
    fun _ => rfl
  have unhalted : halts id ticket moments' = 0 := by
    rw [halts_cons_of_not (no_halt ticket), h.halts_eq_zero new]
  have tickets : activations id moments' = ticket :: activations id moments := by
    rw [activations_cons, Moment.activation?, if_pos rfl]
    rfl
  have stages : fates id (.jumped id run target outline (some goal) :: turns) =
      .ongoing :: Fate.left.close (fates id turns) := if_pos rfl
  refine ⟨⟨⟨?_, fun _ _ _ _ suffix => h.latest_cons no_halt _ _ suffix, fun number called => ?_⟩,
    by rw [stages]; simp⟩, fun number latest => ?_⟩
  · have fresh : Due id moments' ticket .ongoing := (Nat.le_of_eq unhalted).trans (Nat.zero_le 1)
    rw [tickets, stages]
    exact .cons fresh (forall₂_due_cons (h.close parting) fun _ _ => rfl)
  · rw [halts_cons_of_not (no_halt number)] at called
    rw [Stopped, tickets, stages]
    exact (h.called number called).imp_left fun stopped => .tail _ (mem_zip_close _ stopped)
  · rw [tickets] at latest
    obtain rfl := Option.some.inj latest
    exact unhalted

end Sequencer
