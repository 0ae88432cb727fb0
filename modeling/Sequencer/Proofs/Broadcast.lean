import Sequencer.Proofs.Handles

/-!
# What listeners are told

A listener hears runs from their start to their end, and each command right before its execute hook is
called. A recorder has recorded all of it.
-/

namespace Sequencer

variable {σ ν : Type} {ids : List EngineId} {s : Studio σ ν} {number : Nat} {e : Engine σ ν}

/-! ## What an act does to engines and to what they share -/

namespace Studio

theorem engine?_withMachine {α : Type} (work : Machine σ ν → α × Machine σ ν)
    (kept : ∀ m, (work m).2.engine.id = m.engine.id ∧ (work m).2.engine.listener = m.engine.listener)
    {number other : Nat} (h : (s.withMachine number work).2.engine? other = some e) :
    ∃ e', s.engine? other = some e' ∧ e'.id = e.id ∧ e'.listener = e.listener := by
  rw [withMachine] at h
  split at h
  · exact ⟨e, h, rfl, rfl⟩
  · next e₀ he =>
    rcases engine?_set_some he h with ⟨rfl, rfl⟩ | ⟨-, h⟩
    · have same := kept ⟨e₀, s.shared⟩
      exact ⟨e₀, he, same.1.symm, same.2.symm⟩
    · exact ⟨e, h, rfl, rfl⟩

variable [Behaviour σ ν]

theorem engine?_act {fuel : Nat} {act : HostAct σ ν}
    (h : (s.act fuel act).2.engine? number = some e) :
    ∃ e', s.engine? number = some e' ∧ e'.id = e.id ∧ e'.listener = e.listener := by
  cases act with
  | call other call =>
    refine engine?_withMachine (fun m => m.call fuel call) (fun m => ?_) h
    have kept := ((Moves.refl m).call fuel call).kept
    exact ⟨kept.id, kept.listener⟩
  | edit other edit =>
    have edited : (s.withMachine other fun m => m.edit edit).2.engine? number = some e := by
      rw [← h, Studio.act, Studio.edit]
      split
      · next heq => rw [heq]; rfl
      · rfl
    exact engine?_withMachine (fun m => m.edit edit) (fun m => (m.kept_edit edit).2) edited
  | drop other =>
    rw [Studio.act, Studio.drop] at h
    split at h
    · exact ⟨e, h, rfl, rfl⟩
    · next he => exact ⟨e, (engine?_set_none s.shared he h).2, rfl, rfl⟩
  | fire handle target => exact ⟨e, h, rfl, rfl⟩

theorem shared_act (s : Studio σ ν) (fuel : Nat) (act : HostAct σ ν) :
    (∃ number e m, s.engine? number = some e ∧ Moves ⟨e, s.shared⟩ m ∧
      (s.act fuel act).2 = { s with engines := s.engines.set number (some m.engine), shared := m.shared }) ∨
    (∃ handle target, (s.act fuel act).2.shared = (s.shared.signal handle target).2) ∨
    ((s.act fuel act).2.shared.events = s.shared.events ∧
      (s.act fuel act).2.shared.moments = s.shared.moments) := by
  cases act with
  | call number call =>
    rw [Studio.act, withMachine]
    cases he : s.engine? number with
    | none => exact .inr (.inr ⟨rfl, rfl⟩)
    | some e =>
      exact .inl ⟨number, e, _, he, (Moves.refl (⟨e, s.shared⟩ : Machine σ ν)).call fuel call, rfl⟩
  | edit number edit =>
    have edited := s.shared_edit number edit
    exact .inr (.inr ⟨congrArg Shared.events edited, congrArg Shared.moments edited⟩)
  | drop number =>
    refine .inr (.inr ?_)
    rw [Studio.act, Studio.drop]
    split <;> exact ⟨rfl, rfl⟩
  | fire name target =>
    rw [Studio.act, Studio.fire, Shared.fire]
    cases s.shared.board.handles.get? name with
    | none => exact .inr (.inr ⟨rfl, rfl⟩)
    | some handle => exact .inr (.inl ⟨handle, _, rfl⟩)

end Studio

/-! ## What is recorded -/

theorem Studio.recorded_act [Behaviour σ ν] {id : EngineId} (fuel : Nat) (act : HostAct σ ν)
    (recorders : ∀ number e, s.engine? number = some e → e.id = id → e.listener = some .recorder)
    (h : Recorded id s.shared) : Recorded id (s.act fuel act).2.shared := by
  rcases s.shared_act fuel act with ⟨number, e, m, he, moves, heq⟩ | ⟨handle, target, heq⟩ |
    ⟨events, moments⟩
  · rw [heq]
    exact moves.recorded (recorders number e he) h
  · rw [heq]
    exact h.signal handle target
  · rw [Recorded, events, moments]
    exact h

theorem Reachable.recorded [Behaviour σ ν] (h : Reachable ids s) :
    (∀ number e, s.engine? number = some e → e.listener = some .recorder → Recorded e.id s.shared) ∧
    ∀ id, id ∉ ids → Recorded id s.shared := by
  induction h with
  | start => exact ⟨fun _ _ he => by simp [Studio.engine?] at he, fun _ _ => rfl⟩
  | @add ids s sequence id name listener diagnostics reachable fresh built ih =>
    refine ⟨fun number e he hl => ?_, fun other unused => ih.2 other fun hm => unused (.tail id hm)⟩
    rcases Studio.engine?_add_some he with ⟨-, rfl⟩ | he
    · exact ih.2 id fresh
    · exact ih.1 number e he hl
  | @act ids s fuel act reachable back ih =>
    have sound := reachable.sound
    refine ⟨fun number e he hl => ?_, fun id unused => ?_⟩
    · obtain ⟨e', he', hid, hl'⟩ := Studio.engine?_act he
      have recording : e'.listener = some .recorder := hl'.trans hl
      rw [← hid]
      refine Studio.recorded_act fuel act (fun other e'' ho heq => ?_) (ih.1 number e' he' recording)
      obtain rfl := sound.distinct other number e'' e' ho he' heq
      rw [he'] at ho
      rwa [← Option.some.inj ho]
    · exact Studio.recorded_act fuel act
        (fun number e he heq => absurd (heq ▸ sound.known number e he) unused) (ih.2 id unused)

/-! ## What is told of commands -/

theorem Studio.Sound.tells [Behaviour σ ν] (h : s.Sound ids) (he : s.engine? number = some e)
    (fuel : Nat) (act : HostAct σ ν) :
    ∃ new, (s.act fuel act).2.shared.moments = new ++ s.shared.moments ∧
      ∀ ref name index total, .told (.commandExecuting ref name index total) ∈ new → ref.id = e.id →
        total = e.sequence.len ∧ index < total ∧
        (∃ command, e.sequence.get? index = some command ∧ command.name = name) ∧
        ∀ e', (s.act fuel act).2.engine? number = some e' → e'.sequence.len = total := by
  rcases s.shared_act fuel act with ⟨other, e₀, m, he₀, moves, heq⟩ | ⟨handle, target, heq⟩ |
    ⟨-, moments⟩
  · -- A call tells of commands of the engine that is called, and of no other.
    have coherent := (h.rest other e₀ he₀).core.coherent
    obtain ⟨new, hnew, tells⟩ := moves.past coherent
    rw [heq]
    refine ⟨new, hnew, fun ref name index total told hid => ?_⟩
    obtain ⟨rfl, htotal, form, hform, hname⟩ := tells _ told ref name index total rfl
    obtain rfl := h.distinct other number e₀ e he₀ he hid
    rw [he] at he₀
    obtain rfl := Option.some.inj he₀
    rw [Sequence.forms, List.getElem?_map] at hform
    obtain ⟨entry, found, rfl⟩ := Option.map_eq_some_iff.mp hform
    refine ⟨htotal, ?_, ⟨entry.command, by rw [coherent.get?_eq, found]; rfl, hname⟩, fun e' he' => ?_⟩
    · rw [htotal]
      show index < e.sequence.len
      rw [coherent.len_eq]
      exact (List.getElem?_eq_some_iff.mp found).1
    · rw [Studio.engine?_set, if_pos ⟨rfl, Studio.lt_of_engine? he⟩] at he'
      obtain rfl := Option.some.inj he'
      exact (moves.kept.len coherent).trans htotal.symm
  · -- A signal tells nothing.
    rcases s.shared.signal_cases handle target with ⟨_, hs⟩ | ⟨_, r, _, _, hs⟩
    · exact ⟨[], by rw [heq, hs]; rfl, by simp⟩
    · exact ⟨[.landed handle], by rw [heq, hs]; rfl, by simp⟩
  · exact ⟨[], moments, by simp⟩

/--
What a listener hears of an engine: whole runs, and the run in flight up to its active command. From that
it can tell the state of the engine, and each command that it is told of is called next.
-/
theorem bus_trace [Behaviour σ ν] (h : Reachable ids s) (he : s.engine? number = some e)
    (hl : e.listener ≠ none) :
    (e.state = .idle ↔ WholeRuns (heard e.id s.shared.moments)) ∧
    (e.state = .executing ↔ RunInFlight (heard e.id s.shared.moments)) ∧
    replay (heard e.id s.shared.moments) = e.seen ∧
    (e.listener = some .recorder →
      s.shared.events.reverse.filterMap (Event.heard? e.id) = heard e.id s.shared.moments) ∧
    (∀ moment ∈ s.shared.moments.head?, moment.isTeller = false) ∧
    (∀ ref name index total next earlier,
      next :: .told (.commandExecuting ref name index total) :: earlier <:+ s.shared.moments →
        ∃ ticket board, next = .called ref.id .execute index ticket board) ∧
    (∀ fuel act, ∃ new, (s.act fuel act).2.shared.moments = new ++ s.shared.moments ∧
      ∀ ref name index total, .told (.commandExecuting ref name index total) ∈ new → ref.id = e.id →
        total = e.sequence.len ∧ index < total ∧
        (∃ command, e.sequence.get? index = some command ∧ command.name = name) ∧
        ∀ e', (s.act fuel act).2.engine? number = some e' → e'.sequence.len = total) := by
  have sound := h.sound
  have rest := sound.rest number e he
  have told := rest.hears hl
  have seen_state : (replay (heard e.id s.shared.moments)).state = e.state :=
    congrArg Seen.state told.replayed
  refine ⟨⟨told.idle, fun whole => seen_state.symm.trans whole.replay_state⟩,
    ⟨fun executing => ?_, fun inFlight => seen_state.symm.trans inFlight.replay_state⟩,
    told.replayed, fun recorder => ?_, sound.history.lawful.caughtUp,
    sound.history.lawful.follows, fun fuel act => sound.tells he fuel act⟩
  · obtain ⟨before, steps, hb, hs, started, heq⟩ := told.executing executing
    have active : e.active.isSome = true := by
      refine rest.settled.active ?_
      rw [Engine.state] at executing
      split at executing
      · assumption
      · simp at executing
    exact ⟨before, steps, hb, started active, hs, heq⟩
  · have recorded := h.recorded.1 number e he recorder
    rw [heard, List.filterMap_reverse, List.filterMap_reverse, recorded]

theorem bus_trace_keeper : ∃ e, keeperWaiting.engine? 0 = some e ∧ e.listener ≠ none ∧
    e.state = .executing ∧ RunInFlight (heard e.id keeperWaiting.shared.moments) := by
  have he : keeperWaiting.engine? 0 = some _ := rfl
  have listens := Option.some_ne_none Listener.recorder
  exact ⟨_, he, listens, rfl, (bus_trace reachable_keeperWaiting he listens).2.1.mp rfl⟩

end Sequencer
