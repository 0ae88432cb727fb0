import Sequencer.Proofs.Handles
import Sequencer.Proofs.Runs
import Sequencer.Proofs.StopHooks

/-!
# Stop hooks in a studio

However engines, hooks and hosts interact, the stop hook of an activation is called when that is stopped or
redirected before it has signalled, and at no other time.
-/

namespace Sequencer

variable {σ ν : Type}

/-! ## Other engines -/

section Others

variable {id other : EngineId} {excused : Ticket → Prop} {active : Option Nat} {moments : List (Moment ν)}
  {turns : List (Turn ν)}

theorem aside_of_keepsHalts {P : List (Moment ν) → Prop} (hne : id ≠ other)
    (keeps : ∀ moments (moment : Moment ν), moment.KeepsHalts id → P moments → P (moment :: moments)) :
    Aside other fun _ => P where
  land _ moments handle _ _ _ _ h := keeps moments _ (keepsHalts_landed handle) h
  register _ _ _ h := h
  hold _ _ _ _ h := h
  mark _ moments _ hm h :=
    keeps moments _ (Moment.keepsHalts_of_ne fun heq => hne (Option.some.inj (heq.symm.trans hm))) h

theorem Disciplined.append (h : Disciplined id excused moments turns) {new : List (Turn ν)}
    (others : ∀ turn ∈ new, turn.engine ≠ id) : Disciplined id excused moments (new ++ turns) := by
  have same := fates_append_of_ne others turns
  refine ⟨?_, h.latest, fun ticket called => ?_⟩
  · rw [same]
    exact h.due
  · rw [Stopped, same]
    exact h.called ticket called

theorem Paced.append (h : Paced id excused active moments turns) {new : List (Turn ν)}
    (others : ∀ turn ∈ new, turn.engine ≠ id) : Paced id excused active moments (new ++ turns) := by
  refine ⟨h.disciplined.append others, ?_⟩
  rw [fates_append_of_ne others]
  exact h.ongoing

theorem Paced.unused (quiet : ∀ moment ∈ moments, moment.engine? ≠ some id)
    (idle : ∀ turn ∈ turns, turn.engine ≠ id) : Paced id excused none moments turns := by
  have tickets : activations id moments = [] :=
    List.filterMap_eq_nil_iff.mpr fun moment hm => Moment.activation?_of_ne (quiet moment hm)
  have stages : fates id turns = [] := by
    have none_added := fates_append_of_ne idle []
    rwa [List.append_nil] at none_added
  have uncalled : ∀ moment ∈ moments, ∀ ticket, moment.isHalt id ticket = false :=
    fun moment hm _ => isHalt_of_ne (quiet moment hm)
  refine ⟨⟨?_, fun index ticket board earlier suffix => ?_, fun ticket called => ?_⟩, by simp [stages]⟩
  · rw [tickets, stages]
    exact .nil
  · exact absurd rfl (quiet _ (suffix.subset (.head _)))
  · refine absurd (List.countP_eq_zero.mpr fun moment hm => ?_) called
    rw [uncalled moment hm]
    exact Bool.false_ne_true

end Others

/-! ## All engines -/

namespace Studio

variable {ids : List EngineId} {s : Studio σ ν} {number : Nat} {e : Engine σ ν}
  {excused excused' : EngineId → Ticket → Prop}

/-- All engines treat their activations as they should, those that are gone included. -/
structure Heeds (s : Studio σ ν) (excused : EngineId → Ticket → Prop) : Prop where
  disciplined : ∀ id, Disciplined id (excused id) s.shared.moments s.shared.turns
  held : ∀ number e, s.engine? number = some e → Machine.Held ⟨e, s.shared⟩ (excused e.id)

namespace Heeds

theorem mono (h : s.Heeds excused) (more : ∀ id ticket, excused id ticket → excused' id ticket) :
    s.Heeds excused' :=
  ⟨fun id => (h.disciplined id).mono (more id), fun number e he => (h.held number e he).mono (more e.id)⟩

theorem land (h : s.Heeds excused) {shared : Shared ν} (turns : shared.turns = s.shared.turns)
    (lands : ∀ P : List (Moment ν) → Prop, (∀ moments handle, P moments → P (.landed handle :: moments)) →
      P s.shared.moments → P shared.moments) : Heeds { s with shared } excused := by
  refine ⟨fun id => ?_, fun number e he => ?_⟩
  · show Disciplined id (excused id) shared.moments shared.turns
    rw [turns]
    exact lands (fun moments => Disciplined id (excused id) moments s.shared.turns)
      (fun _ handle disciplined => disciplined.cons (keepsHalts_landed handle)) (h.disciplined id)
  · obtain ⟨paced, unhalted⟩ := h.held number e he
    refine ⟨?_, fun active => ?_⟩
    · show Paced e.id (excused e.id) e.active shared.moments shared.turns
      rw [turns]
      exact lands (fun moments => Paced e.id (excused e.id) e.active moments s.shared.turns)
        (fun _ handle paced => paced.cons (keepsHalts_landed handle)) paced
    · exact lands (Unhalted e.id) (fun _ handle unhalted => unhalted.cons (keepsHalts_landed handle)) (unhalted active)

theorem fire (h : s.Heeds excused) (name : String) (target : Option Nat) :
    (s.fire name target).2.Heeds excused := by
  have keeps := (Shared.KeepsTurns.refl s.shared).answer (.fire name target)
  refine h.land keeps.turns fun P land hs => ?_
  have steady : Steady fun (_ : Switchboard) (moments : List (Moment ν)) => P moments :=
    fun _ moments handle _ _ _ _ => land moments handle
  exact steady.answer (.fire name target) hs

theorem drop (h : s.Heeds excused) (number : Nat) : (s.drop number).Heeds excused := by
  rw [Studio.drop]
  split
  · exact h
  · next e he =>
    refine ⟨h.disciplined, fun n e' hn => ?_⟩
    have held := h.held n e' (engine?_set_none s.shared he hn).2
    exact ⟨held.paced, held.unhalted⟩

theorem add (h : s.Heeds excused) (sound : s.Sound ids) (charted : s.Charted ids) {id : EngineId}
    (fresh : id ∉ ids) (name : String) (sequence : Sequence σ) (listener : Option Listener) (diagnostics : Bool) :
    (s.add (.create id name sequence listener diagnostics)).Heeds excused := by
  refine ⟨h.disciplined, fun n e hn => ?_⟩
  rcases engine?_add_some hn with ⟨-, rfl⟩ | hn
  · have paced : Paced id (excused id) none s.shared.moments s.shared.turns :=
      .unused (sound.unused id fresh).unmentioned fun turn hm heq => fresh (heq ▸ charted.unused turn hm)
    exact .of_inactive paced rfl
  · have held := h.held n e hn
    exact ⟨held.paced, held.unhalted⟩

section Changes

variable {m : Machine σ ν} {new : List (Turn ν)}
  (turns : m.shared.turns = new ++ s.shared.turns) (own : ∀ turn ∈ new, turn.engine = e.id)
  (aside : ∀ P : Switchboard → List (Moment ν) → Prop, Aside e.id P →
    P s.shared.board s.shared.moments → P m.shared.board m.shared.moments)

include turns own aside

theorem disciplined_set (h : s.Heeds excused)
    (treated : Disciplined e.id (excused e.id) m.shared.moments m.shared.turns) (id : EngineId) :
    Disciplined id (excused id) m.shared.moments m.shared.turns := by
  by_cases same : id = e.id
  · rw [same]
    exact treated
  · rw [turns]
    have still := aside (fun _ moments => Disciplined id (excused id) moments s.shared.turns)
      (aside_of_keepsHalts same fun _ _ keeps disciplined => disciplined.cons keeps) (h.disciplined id)
    exact still.append fun turn hm heq => same (heq.symm.trans (own turn hm))

theorem set (h : s.Heeds excused) (sound : s.Sound ids) (he : s.engine? number = some e)
    (id : m.engine.id = e.id) (held : m.Held (excused e.id)) :
    Heeds { s with engines := s.engines.set number (some m.engine), shared := m.shared } excused := by
  have treated := held.paced.disciplined
  rw [id] at treated
  refine ⟨h.disciplined_set turns own aside treated, fun n e' hn => ?_⟩
  rcases engine?_set_some he hn with ⟨rfl, rfl⟩ | ⟨ne, hn⟩
  · rw [id]
    exact held
  · have other : e'.id ≠ e.id := fun heq => ne (sound.distinct n number e' e hn he heq)
    obtain ⟨paced, unhalted⟩ := h.held n e' hn
    refine ⟨?_, fun active => ?_⟩
    · show Paced e'.id (excused e'.id) e'.active m.shared.moments m.shared.turns
      rw [turns]
      have still := aside (fun _ moments => Paced e'.id (excused e'.id) e'.active moments s.shared.turns)
        (aside_of_keepsHalts other fun _ _ keeps paced => paced.cons keeps) paced
      exact still.append fun turn hm heq => other (heq.symm.trans (own turn hm))
    · exact aside (fun _ moments => Unhalted e'.id moments)
        (aside_of_keepsHalts other fun _ _ keeps unhalted => unhalted.cons keeps) (unhalted active)

end Changes

end Heeds

/-! ## Acts -/

variable [Behaviour σ ν]

/-- The act redirects an engine from an activation that has not signalled. -/
def Diverts (s : Studio σ ν) : HostAct σ ν → EngineId → Ticket → Prop
  | .call number call, id, ticket =>
    ∃ e, s.engine? number = some e ∧ e.id = id ∧ Machine.Diverts ⟨e, s.shared⟩ call ticket
  | _, _, _ => False

namespace Heeds

theorem edit (h : s.Heeds excused) (sound : s.Sound ids) (number : Nat) (edit : Edit σ) :
    (s.edit number edit).2.Heeds excused := by
  have edited : (s.withMachine number fun m => m.edit edit).2.Heeds excused := by
    rw [withMachine]
    split
    · exact h
    · next e he =>
      have shared := (Machine.kept_edit ⟨e, s.shared⟩ edit).1
      have same : Machine.KeepsRunAndPast ⟨e, s.shared⟩ (Machine.edit ⟨e, s.shared⟩ edit).2 := by
        rw [Machine.edit]
        split <;> exact ⟨rfl, rfl, rfl, rfl, rfl⟩
      exact h.set (show _ = [] ++ _ from same.turns) (by simp) (fun P _ hP => by rwa [shared]) sound he same.id
        ((h.held number e he).keep same)
  rw [Studio.edit]
  split
  · next heq =>
    rw [heq] at edited
    exact ⟨edited.disciplined, edited.held⟩
  · exact edited

theorem act (h : s.Heeds excused) (sound : s.Sound ids) (fuel : Nat) (act : HostAct σ ν) :
    let excused' := fun id ticket => excused id ticket ∨ s.Diverts act id ticket
    let ended := s.act fuel act
    (∀ id, Disciplined id (excused' id) ended.2.shared.moments ended.2.shared.turns) ∧
      (ended.1 = true → ended.2.Heeds excused') := by
  intro excused' ended
  have more : ∀ id ticket, excused id ticket → excused' id ticket := fun _ _ => .inl
  cases act with
  | edit number edit =>
    have edited := (h.edit sound number edit).mono more
    exact ⟨edited.disciplined, fun _ => edited⟩
  | drop number =>
    have dropped := (h.drop number).mono more
    exact ⟨dropped.disciplined, fun _ => dropped⟩
  | fire name target =>
    have fired := (h.fire name target).mono more
    exact ⟨fired.disciplined, fun _ => fired⟩
  | call number call =>
    unfold ended
    rw [Studio.act, withMachine]
    cases he : s.engine? number with
    | none => exact ⟨(h.mono more).disciplined, fun _ => h.mono more⟩
    | some e =>
      -- What an engine does breaks the discipline of no other.
      have moves := (Moves.refl (⟨e, s.shared⟩ : Machine σ ν)).call fuel call
      obtain ⟨id, new, turns, own⟩ := Strides.adds ((Strides.refl _).call (sound.machine he) fuel call)
      obtain ⟨treated, held⟩ := (h.held number e he).call (sound.machine he) fuel call
      have diverts : ∀ ticket, excused e.id ticket ∨ Machine.Diverts ⟨e, s.shared⟩ call ticket →
          excused' e.id ticket := fun ticket => Or.imp_right fun diverts => ⟨e, he, rfl, diverts⟩
      refine ⟨(h.mono more).disciplined_set turns own (fun P aside hP => moves.aside aside hP)
        (treated.mono diverts), fun back => ?_⟩
      exact (h.mono more).set turns own (fun P aside hP => moves.aside aside hP) sound he id
        ((held back).mono diverts)

end Heeds

omit [Behaviour σ ν] in
theorem heeds_start : ({} : Studio σ ν).Heeds excused where
  disciplined _ := (Paced.unused (by simp) (by simp)).disciplined
  held _ _ he := by simp [Studio.engine?] at he

end Studio

section

variable [Behaviour σ ν] {ids : List EngineId} {s : Studio σ ν}

/-- Each activation is treated as it should be, whatever may be an excuse. -/
theorem Reachable.heeds (h : Reachable ids s) : s.Heeds fun _ _ => True := by
  induction h with
  | start => exact Studio.heeds_start
  | add id name listener diagnostics reachable fresh _ ih =>
    exact ih.add reachable.sound reachable.charted fresh name _ listener diagnostics
  | act fuel act reachable back ih =>
    exact ((ih.act reachable.sound fuel act).2 back).mono fun _ _ _ => trivial

theorem Reachable.heeds_halted (h : Reachable ids s) :
    s.Heeds fun id ticket => halts id ticket s.shared.moments ≠ 0 := by
  have heeds := h.heeds
  have called : ∀ id, Disciplined id (fun ticket => halts id ticket s.shared.moments ≠ 0) s.shared.moments
      s.shared.turns :=
    fun id => ⟨(heeds.disciplined id).due, (heeds.disciplined id).latest, fun _ halted => .inr halted⟩
  exact ⟨called, fun number e he => ⟨⟨called e.id, (heeds.held number e he).paced.ongoing⟩,
    (heeds.held number e he).unhalted⟩⟩

/-- A call that would end an activation, but there is none, or nowhere to go from it. -/
def Engine.Refuses (e : Engine σ ν) : Call σ ν → Prop
  | .stop => e.isExecuting = false
  | .redirect index => e.isExecuting = false ∨ e.sequence.len < index
  | .redirectToLabel key => e.isExecuting = false ∨ e.findLabel? key = none
  | _ => False

theorem Machine.moments_of_refused {m : Machine σ ν} {call : Call σ ν} (refused : m.engine.Refuses call)
    (fuel : Nat) : (m.call fuel call).2.shared.moments = m.shared.moments := by
  rw [call_eq_reply]
  cases call with
  | stop =>
    rw [reply, Machine.stop, Engine.run_of_idle refused]
  | redirect index =>
    have unopened : m.opening (.redirect index) = none := by
      rw [Machine.opening]
      rcases refused with idle | beyond
      · rw [Engine.run_of_idle idle]
      · split
        · rfl
        · rw [if_pos beyond]
    exact (keepsRunAndPast_reply unopened (by simp) fuel).moments
  | redirectToLabel key =>
    have unopened : m.opening (.redirectToLabel key) = none := by
      rw [Machine.opening]
      rcases refused with idle | unknown
      · rw [Engine.run_of_idle idle]
        split <;> simp_all
      · rw [unknown]
    exact (keepsRunAndPast_reply unopened (by simp) fuel).moments
  | _ => exact refused.elim

theorem Studio.moments_of_refused {number : Nat} {e : Engine σ ν} {call : Call σ ν}
    (he : s.engine? number = some e) (refused : e.Refuses call) (fuel : Nat) :
    (s.act fuel (.call number call)).2.shared.moments = s.shared.moments := by
  rw [Studio.act, Studio.withMachine, he]
  exact Machine.moments_of_refused (m := ⟨e, s.shared⟩) refused fuel

/--
When stop hooks are called. An activation that is stopped gets one call; one that the loop goes on from gets
none if it had signalled, and one otherwise; and one that an engine rests at has got none yet. An act calls
the stop hook of the latest activation only, and only if it stops that or redirects the engine from it before
it has signalled. A stop of an idle engine calls nothing, and neither does a redirect that is refused.
-/
theorem stop_hook_discipline (h : Reachable ids s) (fuel : Nat) (act : HostAct σ ν) :
    (∀ id, Disciplined id (fun ticket => halts id ticket s.shared.moments ≠ 0 ∨ s.Diverts act id ticket)
      (s.act fuel act).2.shared.moments (s.act fuel act).2.shared.turns) ∧
    (∀ number e, s.engine? number = some e →
      ((fates e.id s.shared.turns).head? = some .ongoing ↔ e.isExecuting = true) ∧
      (e.isExecuting = true → Unhalted e.id s.shared.moments)) ∧
    (∀ number e call, s.engine? number = some e → e.Refuses call →
      (s.act fuel (.call number call)).2.shared.moments = s.shared.moments) := by
  refine ⟨(h.heeds_halted.act h.sound fuel act).1, fun number e he => ?_,
    fun number e call he refused => Studio.moments_of_refused he refused fuel⟩
  obtain ⟨paced, unhalted⟩ := h.heeds.held number e he
  have rest := h.sound.rest number e he
  have executing : e.active.isSome = true ↔ e.isExecuting = true :=
    ⟨isExecuting_of_active, rest.settled.active⟩
  exact ⟨paced.ongoing.trans executing, fun busy => unhalted (executing.mpr busy)⟩

end

/-- The host moves on from the keeper, which has not signalled, and then tries to go where there is nothing. -/
theorem stop_hook_discipline_keeper :
    let moved := (keeperWaiting.act 10 (.call 0 (.redirect 1))).2
    Reachable [keeperId] keeperWaiting ∧ fates keeperId moved.shared.turns = [.left] ∧
      halts keeperId 1 moved.shared.moments = 1 ∧
      Disciplined keeperId (fun ticket => halts keeperId ticket keeperWaiting.shared.moments ≠ 0 ∨
        keeperWaiting.Diverts (.call 0 (.redirect 1)) keeperId ticket) moved.shared.moments moved.shared.turns ∧
      (keeperWaiting.act 10 (.call 0 (.redirect 2))).2.shared.moments = keeperWaiting.shared.moments := by
  have discipline := stop_hook_discipline reachable_keeperWaiting 10 (.call 0 (.redirect 1))
  obtain ⟨e, he, one⟩ : ∃ e, keeperWaiting.engine? 0 = some e ∧ e.sequence.len = 1 := ⟨_, rfl, rfl⟩
  refine ⟨reachable_keeperWaiting, by decide, by decide, discipline.1 keeperId, ?_⟩
  refine (stop_hook_discipline reachable_keeperWaiting 10 (.call 0 .stop)).2.2 0 e _ he (.inr ?_)
  rw [one]
  exact Nat.lt_succ_self 1

end Sequencer
