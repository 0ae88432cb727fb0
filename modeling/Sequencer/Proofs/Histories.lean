import Sequencer.Proofs.Engine.Calls
import Sequencer.Studio

/-!
# Histories of a studio

A host adds engines, calls them, edits their sequences, fires handles and drops engines, in any order.
Whatever it does, every engine is at rest in between, and the handles of an engine that is gone are dead.
-/

namespace Sequencer

variable {σ ν : Type}

/-- What a host can do, apart from adding an engine. -/
inductive HostAct (σ ν : Type) where
  | call (number : Nat) (call : Call σ ν)
  | edit (number : Nat) (edit : Edit σ)
  | drop (number : Nat)
  | fire (handle : String) (target : Option Nat)

/-- Acts, and says whether the act came back. -/
def Studio.act [Behaviour σ ν] (s : Studio σ ν) (fuel : Nat) : HostAct σ ν → Bool × Studio σ ν
  | .call number call =>
    let (back, s) := s.withMachine number fun m => m.call fuel call
    (back.getD true, s)
  | .edit number edit => (true, (s.edit number edit).2)
  | .drop number => (true, s.drop number)
  | .fire handle target => (true, (s.fire handle target).2)

/-- The studios that a host can get to, with the ids that have been used so far. -/
inductive Reachable [Behaviour σ ν] : List EngineId → Studio σ ν → Prop where
  | start : Reachable [] {}
  | add {ids : List EngineId} {s : Studio σ ν} {sequence : Sequence σ} (id : EngineId) (name : String)
    (listener : Option Listener) (diagnostics : Bool) : Reachable ids s → id ∉ ids → sequence.Built →
    Reachable (id :: ids) (s.add (.create id name sequence listener diagnostics))
  | act {ids : List EngineId} {s : Studio σ ν} (fuel : Nat) (act : HostAct σ ν) : Reachable ids s →
    (s.act fuel act).1 = true → Reachable ids (s.act fuel act).2

/-! ## The invariant -/

/-- The engine has no register any more, and its past is in order. -/
structure Gone (id : EngineId) (b : Switchboard) (moments : List (Moment ν)) : Prop where
  unregistered : b.registers.get? id = none
  once : ∀ ticket, landings id ticket moments ≤ 1
  nodup : (activations id moments).Nodup

/-- There has been no engine with that id. -/
structure Unused (id : EngineId) (b : Switchboard) (moments : List (Moment ν)) : Prop where
  unregistered : b.registers.get? id = none
  unmentioned : ∀ moment ∈ moments, moment.engine? ≠ some id

namespace Studio

/-- There is an engine with that id. -/
def Has (s : Studio σ ν) (id : EngineId) : Prop := ∃ number e, s.engine? number = some e ∧ e.id = id

structure Sound (ids : List EngineId) (s : Studio σ ν) : Prop where
  history : History s.shared.board s.shared.moments
  rest : ∀ number e, s.engine? number = some e → e.AtRest s.shared.board s.shared.moments
  known : ∀ number e, s.engine? number = some e → e.id ∈ ids
  distinct : ∀ number number' e e', s.engine? number = some e → s.engine? number' = some e' →
    e.id = e'.id → number = number'
  gone : ∀ id, ¬ s.Has id → Gone id s.shared.board s.shared.moments
  unused : ∀ id, id ∉ ids → Unused id s.shared.board s.shared.moments

end Studio

/-! ## Steadiness -/

section Steadiness

variable {id other : EngineId} {b : Switchboard} {moments : List (Moment ν)}

theorem ne_of_unregistered {handle : Handle} {r : Register} (h : b.registers.get? id = none)
    (hr : b.registers.get? handle.engine = some r) : handle.engine ≠ id := by
  rintro rfl
  rw [h] at hr
  simp at hr

theorem Gone.note {moment : Moment ν} (h : Gone id b moments) (hm : moment.engine? ≠ some id) :
    Gone id b (moment :: moments) := by
  have keeps := Moment.keepsTickets_of_ne hm
  refine ⟨h.unregistered, fun ticket => ?_, ?_⟩
  · rw [keeps.landings]
    exact h.once ticket
  · rw [keeps.activations]
    exact h.nodup

theorem Gone.steady (id : EngineId) : Steady (Gone (ν := ν) id) := by
  intro b moments handle r jump hr _ h
  have ne := ne_of_unregistered h.unregistered hr
  have noted : Gone id b (.landed handle :: moments) := h.note fun heq => ne (Option.some.inj heq)
  refine ⟨?_, noted.once, noted.nodup⟩
  rw [Switchboard.get?_setRegister, if_neg (Ne.symm ne), h.unregistered]

theorem Gone.aside (hne : id ≠ other) : Aside other (Gone (ν := ν) id) where
  land := Gone.steady id
  register _ _ _ h := by
    refine ⟨?_, h.once, h.nodup⟩
    rw [Switchboard.get?_setRegister, if_neg hne, h.unregistered]
  hold _ _ _ _ h := ⟨h.unregistered, h.once, h.nodup⟩
  mark _ _ _ hm h := h.note fun heq => hne (Option.some.inj (heq.symm.trans hm))

theorem Unused.note {moment : Moment ν} (h : Unused id b moments) (hm : moment.engine? ≠ some id) :
    Unused id b (moment :: moments) :=
  ⟨h.unregistered, List.forall_mem_cons.mpr ⟨hm, h.unmentioned⟩⟩

theorem Unused.steady (id : EngineId) : Steady (Unused (ν := ν) id) := by
  intro b moments handle r jump hr _ h
  have ne := ne_of_unregistered h.unregistered hr
  have noted : Unused id b (.landed handle :: moments) := h.note fun heq => ne (Option.some.inj heq)
  refine ⟨?_, noted.unmentioned⟩
  rw [Switchboard.get?_setRegister, if_neg (Ne.symm ne), h.unregistered]

theorem Unused.aside (hne : id ≠ other) : Aside other (Unused (ν := ν) id) where
  land := Unused.steady id
  register _ _ _ h := by
    refine ⟨?_, h.unmentioned⟩
    rw [Switchboard.get?_setRegister, if_neg hne, h.unregistered]
  hold _ _ _ _ h := ⟨h.unregistered, h.unmentioned⟩
  mark _ _ _ hm h := h.note fun heq => hne (Option.some.inj (heq.symm.trans hm))

end Steadiness

/-! ## Each act keeps the invariant -/

namespace Studio

variable {ids : List EngineId} {s : Studio σ ν} {number : Nat} {e : Engine σ ν}

theorem engine?_set (s : Studio σ ν) (engine : Option (Engine σ ν)) (shared : Shared ν) (number other : Nat) :
    Studio.engine? { s with engines := s.engines.set number engine, shared } other =
      if number = other ∧ number < s.engines.length then engine else s.engine? other := by
  rw [engine?, engine?, List.getElem?_set]
  by_cases heq : number = other
  · subst heq
    by_cases lt : number < s.engines.length
    · simp [lt]
    · simp [lt]
  · simp [heq]

theorem lt_of_engine? (h : s.engine? number = some e) : number < s.engines.length := by
  rw [engine?] at h
  by_contra le
  rw [List.getElem?_eq_none (Nat.le_of_not_lt le)] at h
  simp at h

theorem engine?_add (s : Studio σ ν) (engine : Engine σ ν) (number : Nat) :
    (s.add engine).engine? number =
      if number = s.engines.length then some engine else s.engine? number := by
  rw [engine?, engine?, Studio.add, List.getElem?_append]
  split
  · next lt => rw [if_neg (Nat.ne_of_lt lt)]
  · next le =>
    split
    · next heq => simp [heq]
    · next ne =>
      rw [List.getElem?_eq_none (Nat.le_of_not_lt le), List.getElem?_eq_none]
      simp only [List.length_cons, List.length_nil]
      omega

theorem engine?_set_some {e' : Engine σ ν} {shared : Shared ν} {n : Nat} {found : Engine σ ν}
    (he : s.engine? number = some e)
    (h : Studio.engine? { s with engines := s.engines.set number (some e'), shared } n = some found) :
    (n = number ∧ found = e') ∨ (n ≠ number ∧ s.engine? n = some found) := by
  rw [engine?_set] at h
  split at h
  · next hit => exact .inl ⟨hit.1.symm, (Option.some.inj h).symm⟩
  · next miss => exact .inr ⟨fun heq => miss ⟨heq.symm, lt_of_engine? he⟩, h⟩

theorem engine?_set_none (shared : Shared ν) {n : Nat} {found : Engine σ ν}
    (he : s.engine? number = some e)
    (h : Studio.engine? { s with engines := s.engines.set number none, shared } n = some found) :
    n ≠ number ∧ s.engine? n = some found := by
  rw [engine?_set] at h
  split at h
  · simp at h
  · next miss => exact ⟨fun heq => miss ⟨heq.symm, lt_of_engine? he⟩, h⟩

theorem engine?_add_some {engine : Engine σ ν} {n : Nat} {found : Engine σ ν}
    (h : (s.add engine).engine? n = some found) :
    (n = s.engines.length ∧ found = engine) ∨ s.engine? n = some found := by
  rw [engine?_add] at h
  split at h
  · next heq => exact .inl ⟨heq, (Option.some.inj h).symm⟩
  · exact .inr h

theorem Has.set {e' : Engine σ ν} {shared : Shared ν} {id : EngineId} (h : s.Has id)
    (he : s.engine? number = some e) (same : e'.id = e.id) :
    Has { s with engines := s.engines.set number (some e'), shared } id := by
  obtain ⟨n, found, hn, rfl⟩ := h
  by_cases heq : n = number
  · subst heq
    rw [he] at hn
    obtain rfl := Option.some.inj hn
    exact ⟨n, e', by rw [engine?_set, if_pos ⟨rfl, lt_of_engine? he⟩], same⟩
  · exact ⟨n, found, by rw [engine?_set, if_neg fun hit => heq hit.1.symm, hn], rfl⟩

theorem Has.drop {id : EngineId} (h : s.Has id) (shared : Shared ν) (he : s.engine? number = some e)
    (other : id ≠ e.id) : Has { s with engines := s.engines.set number none, shared } id := by
  obtain ⟨n, found, hn, rfl⟩ := h
  have ne : n ≠ number := by
    rintro rfl
    rw [he] at hn
    exact other (congrArg Engine.id (Option.some.inj hn)).symm
  exact ⟨n, found, by rw [engine?_set, if_neg fun hit => ne hit.1.symm, hn], rfl⟩

theorem Has.add {id : EngineId} (h : s.Has id) (engine : Engine σ ν) : (s.add engine).Has id := by
  obtain ⟨n, found, hn, rfl⟩ := h
  exact ⟨n, found, by rw [engine?_add, if_neg (Nat.ne_of_lt (lt_of_engine? hn)), hn], rfl⟩

theorem shared_edit [Behaviour σ ν] (s : Studio σ ν) (number : Nat) (edit : Edit σ) :
    (s.edit number edit).2.shared = s.shared := by
  have edited : (s.withMachine number fun m => m.edit edit).2.shared = s.shared := by
    rw [withMachine]
    split
    · rfl
    · next e _ => exact (Machine.kept_edit ⟨e, s.shared⟩ edit).1
  rw [Studio.edit]
  split
  · next heq =>
    rw [heq] at edited
    exact edited
  · exact edited

namespace Sound

theorem set (h : s.Sound ids) (he : s.engine? number = some e) {m : Machine σ ν} (rest : m.AtRest)
    (id : m.engine.id = e.id)
    (aside : ∀ P : Switchboard → List (Moment ν) → Prop, Aside e.id P →
      P s.shared.board s.shared.moments → P m.shared.board m.shared.moments) :
    Sound ids { s with engines := s.engines.set number (some m.engine), shared := m.shared } := by
  -- Every number has the same id as before.
  have before : ∀ n e', Studio.engine? { s with
      engines := s.engines.set number (some m.engine), shared := m.shared } n = some e' →
      ∃ e'', s.engine? n = some e'' ∧ e''.id = e'.id := by
    intro n e' hn
    rcases engine?_set_some he hn with ⟨rfl, rfl⟩ | ⟨-, hn⟩
    · exact ⟨e, he, id.symm⟩
    · exact ⟨e', hn, rfl⟩
  refine ⟨rest.stands.history, fun n e' hn => ?_, fun n e' hn => ?_, fun n n' e₁ e₂ h₁ h₂ heq => ?_,
    fun other missing => ?_, fun other unused => ?_⟩
  · rcases engine?_set_some he hn with ⟨rfl, rfl⟩ | ⟨ne, hn⟩
    · exact ⟨rest.stands.core, rest.stands.hears, rest.settled⟩
    · have hne : e'.id ≠ e.id := fun heq => ne (h.distinct n number e' e hn he heq)
      exact aside _ (Engine.AtRest.aside hne) (h.rest n e' hn)
  · obtain ⟨e'', hn, heq⟩ := before n e' hn
    rw [← heq]
    exact h.known n e'' hn
  · obtain ⟨e₁', h₁, heq₁⟩ := before n e₁ h₁
    obtain ⟨e₂', h₂, heq₂⟩ := before n' e₂ h₂
    exact h.distinct n n' e₁' e₂' h₁ h₂ (by rw [heq₁, heq₂, heq])
  · have missed : ¬ s.Has other := fun there => missing (there.set he id)
    have hne : other ≠ e.id := fun heq => missed ⟨number, e, he, heq.symm⟩
    exact aside _ (Gone.aside hne) (h.gone other missed)
  · have hne : other ≠ e.id := fun heq => unused (heq ▸ h.known number e he)
    exact aside _ (Unused.aside hne) (h.unused other unused)

theorem machine (h : s.Sound ids) (he : s.engine? number = some e) : Machine.AtRest ⟨e, s.shared⟩ :=
  have rest := h.rest number e he
  ⟨⟨rest.core, rest.hears, h.history⟩, rest.settled⟩

theorem signal (h : s.Sound ids) (handle : Handle) (target : Nat) :
    Sound ids { s with shared := (s.shared.signal handle target).2 } := by
  have lands : ∀ P : Switchboard → List (Moment ν) → Prop, Steady P →
      P s.shared.board s.shared.moments → P (s.shared.signal handle target).2.board
        (s.shared.signal handle target).2.moments := fun P hP hs => hP.signal hs handle target
  refine ⟨lands _ (fun _ _ _ _ _ _ _ hs => hs.land) h.history, fun n e he => ?_, h.known, h.distinct,
    fun id missing => ?_, fun id unused => ?_⟩
  · exact lands _ (fun _ _ _ _ _ hr ha hs => hs.land hr ha) (h.rest n e he)
  · exact lands _ (Gone.steady id) (h.gone id missing)
  · exact lands _ (Unused.steady id) (h.unused id unused)

theorem fire (h : s.Sound ids) (handle : String) (target : Option Nat) :
    (s.fire handle target).2.Sound ids := by
  rw [Studio.fire, Shared.fire]
  cases s.shared.board.handles.get? handle with
  | none => exact h
  | some held => exact h.signal held _

/-! ## Engines that come and go -/

theorem drop (h : s.Sound ids) (number : Nat) : (s.drop number).Sound ids := by
  rw [Studio.drop]
  split
  · exact h
  · next e he =>
    have at_number : ∀ n e', n ≠ number → s.engine? n = some e' → e'.id ≠ e.id :=
      fun n e' ne hn heq => ne (h.distinct n number e' e hn he heq)
    have before : ∀ n e', Studio.engine? { s with
        engines := s.engines.set number none } n = some e' → n ≠ number ∧ s.engine? n = some e' :=
      fun n e' hn => engine?_set_none s.shared he hn
    -- All that goes with an engine is its register.
    have erased : ∀ id, (s.shared.board.disconnect e.id).registers.get? id =
        if id = e.id then none else s.shared.board.registers.get? id :=
      fun id => Table.get?_erase s.shared.board.registers e.id id
    refine ⟨⟨h.history.lawful, h.history.issued⟩, fun n e' hn => ?_,
      fun n e' hn => h.known n e' (before n e' hn).2,
      fun n n' e₁ e₂ h₁ h₂ => h.distinct n n' e₁ e₂ (before n e₁ h₁).2 (before n' e₂ h₂).2,
      fun id missing => ?_, fun id unused => ?_⟩
    · obtain ⟨ne, hn⟩ := before n e' hn
      exact (h.rest n e' hn).of_get? ((erased e'.id).trans (if_neg (at_number n e' ne hn)))
    · by_cases heq : id = e.id
      · subst heq
        have ledger := (h.rest number e he).core.ledger
        exact ⟨(erased e.id).trans (if_pos rfl), ledger.once, ledger.nodup⟩
      · have gone := h.gone id fun there => missing (there.drop s.shared he heq)
        exact ⟨(erased id).trans ((if_neg heq).trans gone.unregistered), gone.once, gone.nodup⟩
    · have hid : id ≠ e.id := fun heq => unused (heq ▸ h.known number e he)
      have fresh := h.unused id unused
      exact ⟨(erased id).trans ((if_neg hid).trans fresh.unregistered), fresh.unmentioned⟩

theorem atRest_create {id : EngineId} {b : Switchboard} {moments : List (Moment ν)}
    (unused : Unused id b moments) {sequence : Sequence σ} (built : sequence.Built) (name : String)
    (listener : Option Listener) (diagnostics : Bool) :
    (Engine.create id name sequence listener diagnostics : Engine σ ν).AtRest (b.setRegister id {})
      moments := by
  have sound := built.sound
  refine ⟨⟨?_, ?_, (sound.coherent.adopt id).refresh, rfl, by rintro ⟨⟩, ?_, by rintro _ ⟨⟩,
    by rintro _ ⟨⟩⟩, fun _ => ?_, .inl ⟨rfl, ?_⟩⟩
  all_goals simp only [Engine.create, Switchboard.register_setRegister_self]
  · exact Switchboard.get?_setRegister.trans (if_pos rfl)
  · exact Ledger.empty unused.unmentioned
  · exact Sequence.Marked.refresh sound.marked
  · rw [heard_eq_nil unused.unmentioned]
    exact Told.fresh

theorem add (h : s.Sound ids) {id : EngineId} (fresh : id ∉ ids) {sequence : Sequence σ}
    (built : sequence.Built) (name : String) (listener : Option Listener) (diagnostics : Bool) :
    (s.add (.create id name sequence listener diagnostics)).Sound (id :: ids) := by
  have unused := h.unused id fresh
  have old : ∀ n e, s.engine? n = some e → e.id ≠ id :=
    fun n e hn heq => fresh (heq ▸ h.known n e hn)
  refine ⟨⟨h.history.lawful, h.history.issued⟩, fun n e hn => ?_, fun n e hn => ?_,
    fun n n' e₁ e₂ h₁ h₂ heq => ?_, fun other missing => ?_, fun other unknown => ?_⟩
  · rcases engine?_add_some hn with ⟨-, rfl⟩ | hn
    · exact atRest_create unused built name listener diagnostics
    · exact (Engine.AtRest.aside (old n e hn)).register _ _ {} (h.rest n e hn)
  · rcases engine?_add_some hn with ⟨-, rfl⟩ | hn
    · exact List.mem_cons_self
    · exact List.mem_cons_of_mem id (h.known n e hn)
  · rcases engine?_add_some h₁ with ⟨rfl, rfl⟩ | h₁ <;> rcases engine?_add_some h₂ with ⟨rfl, rfl⟩ | h₂
    · rfl
    · exact absurd heq.symm (old n' e₂ h₂)
    · exact absurd heq (old n e₁ h₁)
    · exact h.distinct n n' e₁ e₂ h₁ h₂ heq
  · have hne : other ≠ id := by
      rintro rfl
      exact missing ⟨s.engines.length, _, by rw [engine?_add, if_pos rfl], rfl⟩
    exact (Gone.aside hne).register _ _ {} (h.gone other fun there => missing (there.add _))
  · have hne : other ≠ id := fun heq => unknown (heq ▸ List.mem_cons_self)
    exact (Unused.aside hne).register _ _ {} (h.unused other fun hm =>
      unknown (List.mem_cons_of_mem id hm))

/-! ## Acts -/

variable [Behaviour σ ν]

theorem edit (h : s.Sound ids) (number : Nat) (edit : Edit σ) : (s.edit number edit).2.Sound ids := by
  have edited : (s.withMachine number fun m => m.edit edit).2.Sound ids := by
    rw [withMachine]
    split
    · exact h
    · next e he =>
      obtain ⟨shared, id, -⟩ := Machine.kept_edit ⟨e, s.shared⟩ edit
      exact h.set he ((h.machine he).edit edit) id fun P _ hP => by rwa [shared]
  rw [Studio.edit]
  split
  · next heq =>
    rw [heq] at edited
    exact ⟨edited.history, edited.rest, edited.known, edited.distinct, edited.gone, edited.unused⟩
  · exact edited

theorem call (h : s.Sound ids) (fuel number : Nat) (call : Call σ ν)
    (back : (s.act fuel (.call number call)).1 = true) :
    (s.act fuel (.call number call)).2.Sound ids := by
  rw [act, withMachine] at back ⊢
  cases he : s.engine? number with
  | none => exact h
  | some e =>
    have leaves := (h.machine he).call fuel call
    have moves := (Moves.refl (⟨e, s.shared⟩ : Machine σ ν)).call fuel call
    simp only [he, Option.getD_some] at back ⊢
    exact h.set he (leaves.rest back) moves.kept.id fun P aside hP => moves.aside aside hP

theorem history_act (h : s.Sound ids) (fuel : Nat) (act : HostAct σ ν) :
    History (s.act fuel act).2.shared.board (s.act fuel act).2.shared.moments := by
  cases act with
  | call number call =>
    rw [Studio.act, withMachine]
    cases he : s.engine? number with
    | none => exact h.history
    | some e => exact ((h.machine he).call fuel call).stands.history
  | edit number edit => exact (h.edit number edit).history
  | drop number => exact (h.drop number).history
  | fire handle target => exact (h.fire handle target).history

theorem act (h : s.Sound ids) (fuel : Nat) (act : HostAct σ ν) (back : (s.act fuel act).1 = true) :
    (s.act fuel act).2.Sound ids := by
  cases act with
  | call number call => exact h.call fuel number call back
  | edit number edit => exact h.edit number edit
  | drop number => exact h.drop number
  | fire handle target => exact h.fire handle target

end Sound

end Studio

theorem Studio.sound_start : ({} : Studio σ ν).Sound [] where
  history := ⟨.nil, fun _ _ hh => by simp [Table.get?, Table.find?] at hh⟩
  rest _ _ h := by simp [Studio.engine?] at h
  known _ _ h := by simp [Studio.engine?] at h
  distinct _ _ _ _ h := by simp [Studio.engine?] at h
  gone _ _ := ⟨rfl, fun _ => by simp [landings], by simp [activations]⟩
  unused _ _ := ⟨rfl, by simp⟩

theorem Reachable.sound [Behaviour σ ν] {ids : List EngineId} {s : Studio σ ν} (h : Reachable ids s) :
    s.Sound ids := by
  induction h with
  | start => exact Studio.sound_start
  | add id name listener diagnostics _ fresh built ih => exact ih.add fresh built name listener diagnostics
  | act fuel act _ back ih => exact ih.act fuel act back

end Sequencer
