import Sequencer.Proofs.Engine.Bystanders

/-!
# What code of the host leaves behind

Hooks and callbacks note things down and land signals. What they do to the engine that runs them is superseded by a
jump that is forced afterwards.
-/

namespace Sequencer

variable {σ ν : Type}

namespace Shared

/-- Code of the host has run in between. -/
structure Ran (s s' : Shared ν) : Prop where
  events : Grows (fun event => ∃ value, event = .noted value) s.events s'.events
  moments : Grows (fun moment => ∃ handle, moment = .landed handle) s.moments s'.moments
  turns : s'.turns = s.turns

namespace Ran

variable {s s' : Shared ν}

theorem refl (s : Shared ν) : s.Ran s := ⟨.refl .., .refl .., rfl⟩

theorem signal (h : s.Ran s') (handle : Handle) (target : Nat) : s.Ran (s'.signal handle target).2 := by
  rcases s'.signal_cases handle target with ⟨-, same⟩ | ⟨-, r, -, -, landed⟩
  · rwa [same]
  · rw [landed]
    exact ⟨h.events, h.moments.cons ⟨handle, rfl⟩, h.turns⟩

theorem answer (h : s.Ran s') (question : HostQuestion ν) : s.Ran (s'.answer question).2 := by
  rcases s'.answer_cases question with same | ⟨handle, target, same⟩ | ⟨value, same⟩ <;> rw [same]
  · exact h
  · exact h.signal handle target
  · exact ⟨h.events.cons ⟨value, rfl⟩, h.moments, h.turns⟩

theorem perform {α : Type} (s : Shared ν) (program : HostProgram ν α) : s.Ran (s.perform program).2 :=
  Program.run_preserves (P := s.Ran) (fun question _ h => h.answer question) program s (refl s)

theorem hook {α : Type} (s : Shared ν) (handle : Handle) (program : HookProgram ν α) :
    s.Ran (program.run Machine.HookFrame.answer { shared := s, handle }).2.shared := by
  refine Program.run_preserves (P := fun f : Machine.HookFrame ν => s.Ran f.shared) (fun question f h => ?_)
    program _ (refl s)
  cases question with
  | host question => exact h.answer question
  | signal target => exact h.signal f.handle target
  | hold _ | report _ => exact ⟨h.events, h.moments, h.turns⟩
  | hasSignalled | request _ => exact h

theorem tidings (h : s.Ran s') : tidings s'.moments = tidings s.moments := by
  obtain ⟨new, moments, landed⟩ := h.moments
  have silent : new.filterMap Moment.told? = [] := List.filterMap_eq_nil_iff.mpr fun moment hm => by
    obtain ⟨handle, rfl⟩ := landed moment hm
    rfl
  rw [moments, Sequencer.tidings, Sequencer.tidings, List.filterMap_append, silent, List.nil_append]

end Ran

/-- Where only signals for one engine land, a jump that is forced upon that engine leaves nothing of them. -/
theorem force_perform {α : Type} {s : Shared ν} {id : EngineId} (program : HostProgram ν α) (jump : Jump)
    (own : ∀ handle, .landed handle ∈ since s.moments (s.perform program).2.moments → handle.engine = id) :
    (s.perform program).2.board.setRegister id (((s.perform program).2.board.register id).force jump) =
      s.board.setRegister id ((s.board.register id).force jump) := by
  have steady : Steady fun b moments => ∃ new : List (Moment ν), moments = new ++ s.moments ∧
      ((∀ handle, .landed handle ∈ new → handle.engine = id) →
        b.setRegister id ((b.register id).force jump) = s.board.setRegister id ((s.board.register id).force jump)) := by
    rintro b moments handle r other hr - ⟨new, hnew, same⟩
    refine ⟨.landed handle :: new, by rw [hnew]; rfl, fun own => ?_⟩
    obtain rfl := own handle (.head _)
    rw [← same fun handle hm => own handle (.tail _ hm), Switchboard.register_setRegister_self,
      Switchboard.register_of_get? hr, Switchboard.setRegister_setRegister]
    rfl
  obtain ⟨new, moments, same⟩ := steady.perform (s := s) ⟨[], rfl, fun _ => rfl⟩ program
  rw [moments, since_append] at own
  exact same own

end Shared

/-! ## Nothing new -/

theorem Sequence.update_self {s : Sequence σ} {p : Nat} {entry : Entry σ} {change : Entry σ → Entry σ}
    (found : s.entry? p = some entry) (same : change entry = entry) : s.update p change = s := by
  rw [update]
  cases there : s.slotOf p with
  | none => rfl
  | some slot =>
    have here : s.slots[slot]? = some (some entry) := by
      rw [ entry?, there, Option.bind_eq_bind, Option.bind_some] at found
      obtain ⟨held, here, rfl⟩ := Option.bind_eq_some_iff.mp found
      exact here
    have unchanged : Slots.update slot change s.slots = s.slots := by
      refine List.ext_getElem? fun i => ?_
      rw [Slots.update, List.getElem?_modify]
      split
      · next hit => rw [← hit, here]; exact congrArg (some ∘ some) same
      · exact id_map _
    dsimp only
    rw [unchanged]

theorem Sequence.setState_self {s : Sequence σ} {p : Nat} {entry : Entry σ} (found : s.entry? p = some entry) :
    s.setState p entry.command.state = s :=
  update_self found rfl

end Sequencer
