import Sequencer.Proofs.Engine.Moves

/-!
# What moves keep

The identity of the engine, the forms of its commands and the past are kept by every move. So is what a
property says of other engines, if signals and the marks of this engine cannot break it.
-/

namespace Sequencer

variable {σ ν : Type} {o m : Machine σ ν}

/-! ## The engine -/

structure Kept (o m : Machine σ ν) : Prop where
  id : m.engine.id = o.engine.id
  name : m.engine.name = o.engine.name
  listener : m.engine.listener = o.engine.listener
  runCount : o.engine.runCount ≤ m.engine.runCount
  owner : m.engine.sequence.owner = o.engine.sequence.owner
  forms : o.engine.sequence.Coherent →
    m.engine.sequence.Coherent ∧ m.engine.sequence.forms = o.engine.sequence.forms

theorem Kept.refl (m : Machine σ ν) : Kept m m :=
  ⟨rfl, rfl, rfl, Nat.le_refl _, rfl, fun hc => ⟨hc, rfl⟩⟩

theorem Kept.trans {m' : Machine σ ν} (h : Kept o m) (h' : Kept m m') : Kept o m' where
  id := h'.id.trans h.id
  name := h'.name.trans h.name
  listener := h'.listener.trans h.listener
  runCount := Nat.le_trans h.runCount h'.runCount
  owner := h'.owner.trans h.owner
  forms hc := ⟨(h'.forms (h.forms hc).1).1, (h'.forms (h.forms hc).1).2.trans (h.forms hc).2⟩

theorem Move.kept (move : Move o m) : Kept o m := by
  cases move with
  | count previousActive le => exact ⟨rfl, rfl, rfl, le, rfl, fun hc => ⟨hc, rfl⟩⟩
  | sequence adjusts => exact ⟨rfl, rfl, rfl, Nat.le_refl _, adjusts.owner, adjusts.forms⟩
  | @tell event notice =>
    have same := Machine.engine_tell o event notice
    refine ⟨congrArg Engine.id same, congrArg Engine.name same, congrArg Engine.listener same,
      Nat.le_of_eq (congrArg Engine.runCount same).symm, congrArg (fun e => e.sequence.owner) same, fun hc => ?_⟩
    rw [same]
    exact ⟨hc, rfl⟩
  | _ => exact ⟨rfl, rfl, rfl, Nat.le_refl _, rfl, fun hc => ⟨hc, rfl⟩⟩

theorem Moves.kept (h : Moves o m) : Kept o m := by
  induction h with
  | refl => exact .refl o
  | tail _ move ih => exact ih.trans move.kept

theorem Kept.ref (h : Kept o m) : m.engine.ref = o.engine.ref := by
  rw [Engine.ref, Engine.ref, h.id, h.name]

theorem Kept.len (h : Kept o m) (hc : o.engine.sequence.Coherent) :
    m.engine.sequence.len = o.engine.sequence.len := by
  rw [(h.forms hc).1.len_eq_forms, hc.len_eq_forms, (h.forms hc).2]

/-! ## The past -/

/-- The listener of the engine was told of a command that there is, and of how many there are. -/
def TellsRight (e : Engine σ ν) (moment : Moment ν) : Prop :=
  ∀ ref name index total, moment = .told (.commandExecuting ref name index total) →
    ref = e.ref ∧ total = e.sequence.len ∧ ∃ form, e.sequence.forms[index]? = some form ∧ form.name = name

theorem tellsRight_of_not_told {e : Engine σ ν} {moment : Moment ν} (h : moment.isTold = false) :
    TellsRight e moment := by
  rintro _ _ _ _ rfl
  simp [Moment.isTold] at h

theorem Move.past (move : Move o m) (hc : o.engine.sequence.Coherent) :
    ∃ new, m.shared.moments = new ++ o.shared.moments ∧ ∀ moment ∈ new, TellsRight o.engine moment := by
  cases move with
  | mark own untold _ =>
    refine ⟨[_], rfl, fun moment hm => ?_⟩
    rw [List.mem_singleton.mp hm]
    exact tellsRight_of_not_told untold
  | @tell event notice own right =>
    by_cases silent : o.engine.listener = none
    · exact ⟨[], by rw [Machine.moments_tell, if_pos silent]; rfl, by simp⟩
    · refine ⟨[.told event], by rw [Machine.moments_tell, if_neg silent]; rfl, fun moment hm => ?_⟩
      rw [List.mem_singleton.mp hm]
      rintro ref name index total ⟨⟩
      obtain ⟨href, htotal, command, found, hname⟩ := right ref name index total rfl
      exact ⟨href, htotal, command.form, hc.form_of_get? found, hname⟩
  | signal handle target =>
    rcases o.shared.signal_cases handle target with ⟨_, hs⟩ | ⟨_, r, _, _, hs⟩
    · exact ⟨[], by rw [hs]; rfl, by simp⟩
    · refine ⟨[.landed handle], by rw [hs]; rfl, fun moment hm => ?_⟩
      rw [List.mem_singleton.mp hm]
      exact tellsRight_of_not_told rfl
  | _ => exact ⟨[], rfl, by simp⟩

theorem Moves.past (h : Moves o m) (hc : o.engine.sequence.Coherent) :
    ∃ new, m.shared.moments = new ++ o.shared.moments ∧ ∀ moment ∈ new, TellsRight o.engine moment := by
  induction h with
  | refl => exact ⟨[], rfl, by simp⟩
  | @tail m m' h move ih =>
    obtain ⟨new, hn, tells⟩ := ih
    have kept := Moves.kept h
    obtain ⟨newer, hn', tells'⟩ := move.past (kept.forms hc).1
    refine ⟨newer ++ new, by rw [hn', hn, List.append_assoc], fun moment hm => ?_⟩
    rcases List.mem_append.mp hm with hm | hm
    · intro ref name index total heq
      obtain ⟨href, htotal, form, hf, hname⟩ := tells' moment hm ref name index total heq
      rw [(kept.forms hc).2] at hf
      exact ⟨href.trans kept.ref, htotal.trans (kept.len hc), form, hf, hname⟩
    · exact tells moment hm

theorem Move.events (move : Move o m) : o.shared.events <:+ m.shared.events := by
  cases move with
  | record => exact List.suffix_cons ..
  | signal handle target =>
    rcases o.shared.signal_cases handle target with ⟨_, hs⟩ | ⟨_, _, _, _, hs⟩
    · exact ⟨[], by rw [hs]; rfl⟩
    · exact ⟨[], by rw [hs]; rfl⟩
  | tell =>
    rw [Machine.tell]
    split
    · exact List.suffix_rfl
    · exact List.suffix_cons ..
    · exact List.suffix_rfl
  | _ => exact List.suffix_rfl

theorem Moves.events (h : Moves o m) : o.shared.events <:+ m.shared.events := by
  induction h with
  | refl => exact List.suffix_rfl
  | tail _ move ih => exact ih.trans move.events

/-! ## What is recorded -/

/-- What there is to be heard of an engine has been recorded. -/
def Recorded (id : EngineId) (s : Shared ν) : Prop :=
  s.events.filterMap (Event.heard? id) = s.moments.filterMap (Moment.heard? id)

theorem Recorded.mark {id : EngineId} {s : Shared ν} {moment : Moment ν} (h : Recorded id s)
    (hm : moment.heard? id = none) : Recorded id (s.mark moment) := by
  rw [Recorded, Shared.mark, List.filterMap_cons, hm]
  exact h

theorem Recorded.signal {id : EngineId} {s : Shared ν} (h : Recorded id s) (handle : Handle)
    (target : Nat) : Recorded id (s.signal handle target).2 := by
  rcases s.signal_cases handle target with ⟨_, heq⟩ | ⟨_, r, _, _, heq⟩ <;> rw [heq]
  · exact h
  · exact Recorded.mark (s := { s with board := _ }) h rfl

theorem Move.recorded {id : EngineId} (move : Move o m)
    (hl : o.engine.id = id → o.engine.listener = some .recorder) (h : Recorded id o.shared) :
    Recorded id m.shared := by
  cases move with
  | @record event unheard _ =>
    rw [Recorded, Machine.record, Shared.record, List.filterMap_cons, unheard]
    exact h
  | @mark moment _ untold _ =>
    refine h.mark ?_
    cases moment with
    | told event => simp [Moment.isTold] at untold
    | _ => rfl
  | signal handle target => exact h.signal handle target
  | @tell event notice own _ =>
    rw [Machine.tell]
    split
    · exact h
    · rw [Recorded] at h ⊢
      simp only [Machine.record, Machine.mark, Shared.record, Shared.mark, List.filterMap_cons, h]
      rfl
    · next reporter =>
      have other : o.engine.id ≠ id := fun heq => by simp [hl heq] at reporter
      exact h.mark (Event.heard?_of_ne (by rw [own]; exact fun heq => other (Option.some.inj heq)))
  | _ => exact h

theorem Moves.recorded {id : EngineId} (h : Moves o m)
    (hl : o.engine.id = id → o.engine.listener = some .recorder) (ho : Recorded id o.shared) :
    Recorded id m.shared := by
  induction h with
  | refl => exact ho
  | tail h move ih =>
    have kept := Moves.kept h
    exact move.recorded (by rw [kept.id, kept.listener]; exact hl) ih

/-! ## Other engines -/

/-- A property of the switchboard and the history that no landing signal breaks. -/
def Steady (P : Switchboard → List (Moment ν) → Prop) : Prop :=
  ∀ b moments handle r jump, b.registers.get? handle.engine = some r → r.armed = some handle.ticket →
    P b moments → P (b.setRegister handle.engine (r.force jump)) (.landed handle :: moments)

/-- A property that an engine does not break, because it is about other engines. -/
structure Aside (id : EngineId) (P : Switchboard → List (Moment ν) → Prop) : Prop where
  land : Steady P
  register : ∀ b moments r, P b moments → P (b.setRegister id r) moments
  hold : ∀ b moments name handle, P b moments → P (b.hold name handle) moments
  mark : ∀ b moments moment, moment.engine? = some id → P b moments → P b (moment :: moments)

variable {P : Switchboard → List (Moment ν) → Prop}

theorem Steady.signal (h : Steady P) {s : Shared ν} (hs : P s.board s.moments) (handle : Handle)
    (target : Nat) : P (s.signal handle target).2.board (s.signal handle target).2.moments := by
  rcases s.signal_cases handle target with ⟨_, heq⟩ | ⟨_, r, hr, armed, heq⟩ <;> rw [heq]
  · exact hs
  · exact h _ _ handle r _ hr armed hs

theorem Steady.answer (h : Steady P) {s : Shared ν} (question : HostQuestion ν)
    (hs : P s.board s.moments) : P (s.answer question).2.board (s.answer question).2.moments := by
  rcases s.answer_cases question with same | ⟨handle, target, same⟩ | ⟨value, same⟩ <;> rw [same]
  · exact hs
  · exact h.signal hs handle target
  · exact hs

theorem Steady.perform (h : Steady P) {α : Type} {s : Shared ν} (hs : P s.board s.moments)
    (program : HostProgram ν α) : P (s.perform program).2.board (s.perform program).2.moments :=
  Program.run_preserves (P := fun s : Shared ν => P s.board s.moments) (fun q _ => h.answer q)
    program s hs

/-- A hook can break a property only by a signal, or by putting its own handle away. -/
theorem Steady.hook (h : Steady P) {α : Type} {s : Shared ν} {handle : Handle}
    (hold : ∀ b moments name, P b moments → P (b.hold name handle) moments)
    (hs : P s.board s.moments) (program : HookProgram ν α) :
    let frame := (program.run Machine.HookFrame.answer { shared := s, handle }).2
    P frame.shared.board frame.shared.moments := by
  refine (Program.run_preserves (P := fun f : Machine.HookFrame ν =>
    f.handle = handle ∧ P f.shared.board f.shared.moments) (fun question f hf => ?_) program _
    ⟨rfl, hs⟩).2
  cases question with
  | host question => exact ⟨hf.1, h.answer question hf.2⟩
  | signal target => exact ⟨hf.1, h.signal hf.2 _ _⟩
  | hold name => exact ⟨hf.1, by have := hold _ _ name hf.2; rwa [← hf.1] at this⟩
  | hasSignalled => exact hf
  | request request => exact hf
  | report notice => exact hf

theorem perform_of_land {P : List (Moment ν) → Prop}
    (land : ∀ moments handle, P moments → P (.landed handle :: moments))
    {α : Type} {s : Shared ν} (hs : P s.moments) (program : HostProgram ν α) :
    P (s.perform program).2.moments :=
  Steady.perform (P := fun _ => P) (fun _ moments handle _ _ _ _ => land moments handle) hs program

theorem hook_of_land {P : List (Moment ν) → Prop}
    (land : ∀ moments handle, P moments → P (.landed handle :: moments))
    {α : Type} {s : Shared ν} (hs : P s.moments) (handle : Handle) (program : HookProgram ν α) :
    P (program.run Machine.HookFrame.answer { shared := s, handle }).2.shared.moments :=
  Steady.hook (P := fun _ => P) (fun _ moments handle _ _ _ _ => land moments handle) (fun _ _ _ => id) hs program

theorem Moves.aside (h : Moves o m) (aside : Aside o.engine.id P)
    (ho : P o.shared.board o.shared.moments) : P m.shared.board m.shared.moments := by
  induction h with
  | refl => exact ho
  | @tail m m' h move ih =>
    have kept := Moves.kept h
    cases move with
    | @register r _ =>
      have set := aside.register _ _ r ih
      rwa [← kept.id] at set
    | hold name _ => exact aside.hold _ _ name _ ih
    | mark own _ _ => exact aside.mark _ _ _ (own.trans (congrArg some kept.id)) ih
    | @tell event notice own _ =>
      rw [Machine.board_tell, Machine.moments_tell]
      split
      · exact ih
      · exact aside.mark _ _ (.told event) (own.trans (congrArg some kept.id)) ih
    | signal handle target => exact aside.land.signal ih handle target
    | _ => exact ih

end Sequencer
