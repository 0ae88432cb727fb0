import Sequencer.Proofs.Completion
import Sequencer.Proofs.Engine.Failing

/-!
# Faults

A command that fails leaves its engine unresolved. Nothing but a stop or a redirect resolves that, and an engine
gets there in no other way.
-/

namespace Sequencer

variable {σ ν : Type}

/-! ## What does not resolve a fault -/

/-- A call that is to run commands, or a signal. -/
inductive HostAct.IsVain (number : Nat) : HostAct σ ν → Prop where
  | tick : IsVain number (.call number .tick)
  | execute (start : Nat) (onComplete : Option (HostProgram ν Unit)) :
    IsVain number (.call number (.execute start onComplete))
  | executeLabel (key : String) (onComplete : Option (HostProgram ν Unit)) :
    IsVain number (.call number (.executeLabel key onComplete))
  | fire (handle : String) (target : Option Nat) : IsVain number (.fire handle target)

namespace Studio

variable {s s' s'' : Studio σ ν} {number : Nat} {e : Engine σ ν} {id : EngineId}

/-- Does one act after another, each with fuel of its own. -/
def acts [Behaviour σ ν] (s : Studio σ ν) (acts : List (Nat × HostAct σ ν)) : Studio σ ν :=
  acts.foldl (fun s act => (s.act act.1 act.2).2) s

/-- Nothing has changed, and nothing has happened but that signals for other engines may have landed. -/
structure Unmoved (id : EngineId) (s s' : Studio σ ν) : Prop where
  engines : s'.engines = s.engines
  shelf : s'.shelf = s.shelf
  register : s'.shared.board.registers.get? id = s.shared.board.registers.get? id
  handles : s'.shared.board.handles = s.shared.board.handles
  events : s'.shared.events = s.shared.events
  shown : shown s'.shared.moments = shown s.shared.moments
  turns : s'.shared.turns = s.shared.turns

theorem Unmoved.refl (id : EngineId) (s : Studio σ ν) : s.Unmoved id s := ⟨rfl, rfl, rfl, rfl, rfl, rfl, rfl⟩

theorem Unmoved.trans (h : s.Unmoved id s') (h' : s'.Unmoved id s'') : s.Unmoved id s'' :=
  ⟨h'.engines.trans h.engines, h'.shelf.trans h.shelf, h'.register.trans h.register, h'.handles.trans h.handles,
    h'.events.trans h.events, h'.shown.trans h.shown, h'.turns.trans h.turns⟩

/-- The engine is faulted, and no signal for it would land. -/
structure Down (number : Nat) (e : Engine σ ν) (s : Studio σ ν) : Prop where
  there : s.engine? number = some e
  faulted : e.isFaulted = true
  dead : ∀ handle : Handle, handle.engine = e.id → s.shared.board.isArmed handle = false

theorem Down.unmoved (h : s.Down number e) (unmoved : s.Unmoved e.id s') : s'.Down number e := by
  refine ⟨?_, h.faulted, fun handle hh => ?_⟩
  · rw [engine?, unmoved.engines]
    exact h.there
  · have dead := h.dead handle hh
    rw [Switchboard.isArmed, hh] at dead ⊢
    rw [unmoved.register]
    exact dead

theorem set_engine? (he : s.engine? number = some e) : s.engines.set number (some e) = s.engines := by
  rw [engine?, Option.join_eq_some_iff] at he
  obtain ⟨lt, same⟩ := List.getElem?_eq_some_iff.mp he
  rw [← same]
  exact List.set_getElem_self lt

theorem unmoved_call [Behaviour σ ν] (he : s.engine? number = some e) {fuel : Nat} {call : Call σ ν}
    (untouched : Machine.Untouched ⟨e, s.shared⟩ (Machine.reply ⟨e, s.shared⟩ fuel call).2) (id : EngineId) :
    s.Unmoved id (s.act fuel (.call number call)).2 := by
  obtain ⟨notices, same⟩ := untouched
  have acted : (s.act fuel (.call number call)).2 = { s with shared := { s.shared with notices } } := by
    rw [Studio.act, withMachine, he]
    simp only [Machine.call_eq_reply, same, set_engine? he]
  rw [acted]
  exact ⟨rfl, rfl, rfl, rfl, rfl, rfl, rfl⟩

end Studio

theorem Engine.isExecuting_of_isFaulted {e : Engine σ ν} (h : e.isFaulted = true) : e.isExecuting = true := by
  rw [isFaulted] at h
  rw [isExecuting]
  cases hr : e.run <;> simp_all

section Vain

variable [Behaviour σ ν] {s : Studio σ ν} {number : Nat} {e : Engine σ ν}

theorem Machine.untouched_execute {m : Machine σ ν} (executing : m.engine.isExecuting = true) (fuel start : Nat)
    (onComplete : Option (HostProgram ν Unit)) : m.Untouched (m.execute fuel start onComplete).2 := by
  rw [Machine.execute, if_pos executing]
  exact untouched_report ..

theorem Studio.Down.vain (h : s.Down number e) {act : HostAct σ ν} (vain : act.IsVain number) (fuel : Nat) :
    s.Unmoved e.id (s.act fuel act).2 := by
  have executing := Engine.isExecuting_of_isFaulted h.faulted
  cases vain with
  | tick =>
    refine unmoved_call h.there ?_ e.id
    rw [Machine.reply, Machine.tick, if_neg (by simp [h.faulted])]
    exact .refl _
  | execute start onComplete =>
    exact unmoved_call h.there (Machine.untouched_execute executing fuel start onComplete) e.id
  | executeLabel key onComplete =>
    refine unmoved_call h.there ?_ e.id
    have same : Machine.refreshIfIdle ⟨e, s.shared⟩ = ⟨e, s.shared⟩ := if_neg (by simp [executing])
    rw [Machine.reply, Machine.executeLabel, same]
    dsimp only
    split
    · exact Machine.untouched_report ..
    · exact Machine.untouched_execute executing fuel _ onComplete
  | fire name target =>
    rw [Studio.act, Studio.fire, Shared.fire]
    cases hh : s.shared.board.handles.get? name with
    | none => exact .refl ..
    | some handle =>
      rcases s.shared.signal_cases handle (target.getD (handle.index + 1)) with ⟨-, same⟩ | ⟨armed, r, -, -, same⟩
      · simp only [same]
        exact .refl ..
      · -- Only the signals of other engines can land.
        have other : e.id ≠ handle.engine := fun own => by simp [h.dead handle own.symm] at armed
        simp only [same]
        exact ⟨rfl, rfl, (Switchboard.get?_setRegister ..).trans (if_neg other), rfl, rfl, rfl, rfl⟩

theorem Studio.Down.vain_acts (h : s.Down number e) (acts : List (Nat × HostAct σ ν))
    (vain : ∀ act ∈ acts, act.2.IsVain number) : s.Unmoved e.id (s.acts acts) := by
  induction acts generalizing s with
  | nil => exact .refl ..
  | cons act rest ih =>
    rw [List.forall_mem_cons] at vain
    have unmoved := h.vain vain.1 act.1
    exact unmoved.trans (ih (h.unmoved unmoved) vain.2)

end Vain

/-! ## What a host has done -/

/-- An act, in the studio as it was then. -/
structure Deed (σ ν : Type) where
  before : Studio σ ν
  fuel : Nat
  act : HostAct σ ν

/-- The studios that a host can get to, with what it has done to get there, the latest first. -/
inductive Course [Behaviour σ ν] : List (Deed σ ν) → List EngineId → Studio σ ν → Prop where
  | start : Course [] [] {}
  | add {done : List (Deed σ ν)} {ids : List EngineId} {s : Studio σ ν} {sequence : Sequence σ} (id : EngineId)
    (name : String) (listener : Option Listener) (diagnostics : Bool) : Course done ids s → id ∉ ids →
    sequence.Built → Course done (id :: ids) (s.add (.create id name sequence listener diagnostics))
  | act {done : List (Deed σ ν)} {ids : List EngineId} {s : Studio σ ν} (fuel : Nat) (act : HostAct σ ν) :
    Course done ids s → (s.act fuel act).1 = true → Course (⟨s, fuel, act⟩ :: done) ids (s.act fuel act).2

section Course

variable [Behaviour σ ν] {done : List (Deed σ ν)} {ids : List EngineId} {s : Studio σ ν}

theorem Course.reachable (h : Course done ids s) : Reachable ids s := by
  induction h with
  | start => exact .start
  | add id name listener diagnostics _ fresh built ih => exact .add id name listener diagnostics ih fresh built
  | act fuel act _ back ih => exact .act fuel act ih back

theorem Reachable.course (h : Reachable ids s) : ∃ done : List (Deed σ ν), Course done ids s := by
  induction h with
  | start => exact ⟨[], .start⟩
  | add id name listener diagnostics _ fresh built ih =>
    obtain ⟨done, course⟩ := ih
    exact ⟨done, .add id name listener diagnostics course fresh built⟩
  | act fuel act _ back ih =>
    obtain ⟨done, course⟩ := ih
    exact ⟨_ :: done, .act fuel act course back⟩

end Course

/-- Whether an execute or tick hook of the engine is called. -/
def Moment.isWork (id : EngineId) : Moment ν → Bool
  | .called engine hook .. => engine = id ∧ hook ≠ .stop
  | _ => false

/-- The calls of the hooks of an engine that work on a run, the latest first. -/
def works (id : EngineId) (moments : List (Moment ν)) : List (Moment ν) := moments.filter (Moment.isWork id)

namespace Deed

variable [Behaviour σ ν]

/-- What the engine replies, if the deed is a call into it. -/
def Gets (d : Deed σ ν) (number : Nat) (reply : CallReply) : Prop :=
  ∃ e call, d.act = .call number call ∧ d.before.engine? number = some e ∧
    (Machine.reply ⟨e, d.before.shared⟩ d.fuel call).1 = reply

/-- The deed is a stop of the engine, or a redirect that it accepts. -/
def Resolves (d : Deed σ ν) (number : Nat) : Prop := ∃ reply, d.Gets number reply ∧ reply.resolves = true

/-- A command of the engine fails. -/
def Fails (d : Deed σ ν) (number : Nat) : Prop :=
  ∃ reply location source, d.Gets number reply ∧ reply.error? = some (.commandFailed location source)

/-- The last of these calls of hooks belongs to the deed, and the hook came back with an error. -/
def FailedLast (d : Deed σ ν) (number : Nat) (moments : List (Moment ν)) : Prop :=
  ∃ e call answer p called hook index ticket command source request left,
    d.act = .call number call ∧ d.before.engine? number = some e ∧
    Machine.opening ⟨e, d.before.shared⟩ call = some (answer, p) ∧
    p.Meets ⟨e, d.before.shared⟩ called hook index ticket command (.error source, request, left) ∧
    works e.id moments = works e.id called.shared.moments

end Deed

/-! ## What one deed does -/

/-- What a deed has to do with faults of an engine, which was `before` and is `e` now. -/
inductive Deed.Bears [Behaviour σ ν] (d : Deed σ ν) (number : Nat) (before e : Engine σ ν)
    (moments : List (Moment ν)) : Prop where
  | fails : d.Fails number → e.isFaulted = true → Bears d number before e moments
  /-- The engine has come to rest, or is idle. -/
  | settles : ¬ d.Fails number → e.isFaulted = false → (before.isFaulted = true → d.Resolves number) →
    Bears d number before e moments
  | passes : ¬ d.Fails number → ¬ d.Resolves number → e.isFaulted = before.isFaulted →
    works before.id moments = works before.id d.before.shared.moments → Bears d number before e moments

theorem works_aside {id other : EngineId} (hne : id ≠ other) (before : List (Moment ν)) :
    Aside other fun _ moments => works id moments = before where
  land _ _ _ _ _ _ _ h := h
  register _ _ _ h := h
  hold _ _ _ _ h := h
  mark _ moments moment hm h := by
    have other : moment.isWork id = false := by
      cases moment with
      | called engine => exact decide_eq_false fun work => hne (work.1.symm.trans (Option.some.inj hm))
      | _ => rfl
    rw [works, List.filter_cons_of_neg (by simp [other])]
    exact h

section Bears

variable [Behaviour σ ν] {ids : List EngineId} {s : Studio σ ν} {number fuel : Nat} {act : HostAct σ ν}
  {e : Engine σ ν}

theorem Machine.AtRest.reply_cases {m : Machine σ ν} (h : m.AtRest) {call : Call σ ν}
    (back : (m.reply fuel call).1.isBack = true) :
    let (reply, m') := m.reply fuel call
    (∃ location source, reply.error? = some (.commandFailed location source)) ∧ m'.engine.isFaulted = true ∨
    (∀ location source, reply.error? ≠ some (.commandFailed location source)) ∧ m'.engine.isFaulted = false ∧
      (m.engine.isFaulted = true → reply.resolves = true) ∨
    reply.IsPlain ∧ m.KeepsRunAndPast m' := by
  cases opens : m.opening call with
  | none =>
    by_cases stops : call = .stop
    · subst stops
      refine .inr (.inl ⟨by rintro location source ⟨⟩, ?_, fun _ => rfl⟩)
      show m.stop.engine.isFaulted = false
      rw [Engine.isFaulted, h.stop.2]
      rfl
    · exact .inr (.inr ⟨isPlain_reply opens stops fuel, keepsRunAndPast_reply opens stops fuel⟩)
  | some opening =>
    obtain ⟨answer, p⟩ := opening
    obtain ⟨ready, replies⟩ := h.opening opens fuel
    -- The verdict of the call tells whether the engine is faulted.
    have reports : Reports (p.play fuel) := Point.carries_reports.play ready trivial
    rw [replies] at back ⊢
    rw [isBack_answer opens] at back
    dsimp only
    rw [error?_answer opens]
    rcases hp : p.play fuel with ⟨verdict, m'⟩
    rw [hp] at reports back
    cases verdict with
    | settled => exact .inr (.inl ⟨by simp [Verdict.error?], reports, resolves_answer opens⟩)
    | failed error =>
      obtain ⟨faulted, index, source, -, rfl⟩ := reports
      exact .inl ⟨⟨_, source, rfl⟩, faulted⟩
    | outOfFuel => simp [Verdict.isBack] at back

theorem Studio.Sound.bears_call (h : s.Sound ids) {call : Call σ ν} (he : s.engine? number = some e)
    (back : (Machine.reply ⟨e, s.shared⟩ fuel call).1.isBack = true) :
    let m := (Machine.reply ⟨e, s.shared⟩ fuel call).2
    Deed.Bears ⟨s, fuel, .call number call⟩ number e m.engine m.shared.moments := by
  let deed : Deed σ ν := ⟨s, fuel, .call number call⟩
  have cases := (h.machine he).reply_cases back
  rcases hr : Machine.reply ⟨e, s.shared⟩ fuel call with ⟨reply, m⟩
  rw [hr] at cases
  have gets : deed.Gets number reply := ⟨e, call, rfl, he, congrArg Prod.fst hr⟩
  have only : ∀ other, deed.Gets number other → other = reply := by
    rintro other ⟨e', call', acts, he', rfl⟩
    obtain rfl : call = call' := (HostAct.call.inj acts).2
    obtain rfl : e = e' := Option.some.inj (he.symm.trans he')
    exact congrArg Prod.fst hr
  have sane : (∀ location source, reply.error? ≠ some (.commandFailed location source)) → ¬ deed.Fails number := by
    rintro sane ⟨other, location, source, got, failed⟩
    rw [only other got] at failed
    exact sane location source failed
  rcases cases with ⟨⟨location, source, failed⟩, faulted⟩ | ⟨other, settled, resolves⟩ | ⟨plain, keeps⟩
  · exact .fails ⟨reply, location, source, gets, failed⟩ faulted
  · exact .settles (sane other) settled fun faulted => ⟨reply, gets, resolves faulted⟩
  · refine .passes (sane plain.error) ?_ ?_ (congrArg (works e.id) keeps.moments)
    · rintro ⟨other, got, resolves⟩
      rw [only other got, plain.resolves] at resolves
      exact absurd resolves Bool.false_ne_true
    · rw [Engine.isFaulted, Engine.isFaulted, keeps.run]

theorem Deed.Bears.aside {d : Deed σ ν} {before : Engine σ ν} {moments : List (Moment ν)}
    (other : ∀ call, d.act ≠ .call number call) (faulted : e.isFaulted = before.isFaulted)
    (worked : works before.id moments = works before.id d.before.shared.moments) :
    d.Bears number before e moments := by
  have nothing : ∀ reply, ¬ d.Gets number reply := fun _ ⟨_, call, acts, _⟩ => other call acts
  exact .passes (fun ⟨reply, _, _, got, _⟩ => nothing reply got) (fun ⟨reply, got, _⟩ => nothing reply got)
    faulted worked

theorem Studio.engine?_edit (s : Studio σ ν) (other : Nat) (edit : Edit σ)
    (he : (s.edit other edit).2.engine? number = some e) :
    ∃ before, s.engine? number = some before ∧ e.id = before.id ∧ e.run = before.run := by
  have engines : (s.edit other edit).2.engines = (s.withMachine other fun m => m.edit edit).2.engines := by
    rw [Studio.edit]
    split
    · next heq => rw [heq]; rfl
    · rfl
  rw [engine?, engines, ← engine?, withMachine] at he
  cases hb : s.engine? other with
  | none =>
    rw [hb] at he
    exact ⟨e, he, rfl, rfl⟩
  | some before =>
    rw [hb] at he
    rcases engine?_set_some hb he with ⟨rfl, rfl⟩ | ⟨-, he⟩
    · refine ⟨before, hb, (Machine.kept_edit ⟨before, s.shared⟩ edit).2.1, ?_⟩
      rw [Machine.edit]
      split <;> rfl
    · exact ⟨e, he, rfl, rfl⟩

theorem Studio.bears_edit (s : Studio σ ν) (other : Nat) (edit : Edit σ)
    (he : (s.edit other edit).2.engine? number = some e) : ∃ before, s.engine? number = some before ∧
      e.id = before.id ∧
      Deed.Bears ⟨s, fuel, .edit other edit⟩ number before e (s.edit other edit).2.shared.moments := by
  obtain ⟨before, hb, id, run⟩ := s.engine?_edit other edit he
  refine ⟨before, hb, id, .aside (by simp) ?_ (by rw [s.shared_edit other edit])⟩
  rw [Engine.isFaulted, Engine.isFaulted, run]

theorem Studio.Sound.bears (h : s.Sound ids) (act : HostAct σ ν) (back : (s.act fuel act).1 = true)
    (he : (s.act fuel act).2.engine? number = some e) : ∃ before, s.engine? number = some before ∧
      e.id = before.id ∧ Deed.Bears ⟨s, fuel, act⟩ number before e (s.act fuel act).2.shared.moments := by
  cases act with
  | call other call =>
    rw [Studio.act, withMachine] at back he ⊢
    cases hb : s.engine? other with
    | none =>
      rw [hb] at he
      -- There is no engine that could be called.
      have ne : other ≠ number := by
        rintro rfl
        rw [show s.engine? other = some e from he] at hb
        simp at hb
      exact ⟨e, he, rfl, .aside (fun call' acts => ne (HostAct.call.inj acts).1) rfl rfl⟩
    | some before =>
      rw [hb] at back he
      simp only [Option.getD_some, Machine.call_eq_reply] at back he ⊢
      have moves := (Moves.refl (⟨before, s.shared⟩ : Machine σ ν)).call fuel call
      rw [Machine.call_eq_reply] at moves
      rcases engine?_set_some hb he with ⟨rfl, rfl⟩ | ⟨ne, he⟩
      · exact ⟨before, hb, moves.kept.id, h.bears_call hb back⟩
      · -- Another engine is called.
        have hne : e.id ≠ before.id := fun heq => ne (h.distinct number other e before he hb heq)
        exact ⟨e, he, rfl, .aside (fun call' acts => ne (HostAct.call.inj acts).1.symm) rfl
          (moves.aside (works_aside hne _) rfl)⟩
  | edit other edit => exact s.bears_edit other edit he
  | drop other =>
    have elsewhere : ∀ call, (HostAct.drop other : HostAct σ ν) ≠ .call number call := by simp
    rw [Studio.act, Studio.drop] at he ⊢
    cases hb : s.engine? other with
    | none =>
      rw [hb] at he
      exact ⟨e, he, rfl, .aside elsewhere rfl rfl⟩
    | some before =>
      rw [hb] at he
      exact ⟨e, (engine?_set_none s.shared hb he).2, rfl, .aside elsewhere rfl rfl⟩
  | fire name target =>
    have elsewhere : ∀ call, (HostAct.fire name target : HostAct σ ν) ≠ .call number call := by simp
    have worked := Steady.answer (P := fun _ moments => works e.id moments = works e.id s.shared.moments)
      (fun _ _ _ _ _ _ _ hw => hw) (.fire name target) (rfl : works e.id s.shared.moments = _)
    exact ⟨e, he, rfl, .aside elsewhere rfl worked⟩

end Bears

/-! ## What all deeds come to -/

section Course

variable [Behaviour σ ν] {done newer older : List (Deed σ ν)} {deed : Deed σ ν} {ids : List EngineId}
  {s : Studio σ ν} {number : Nat} {e : Engine σ ν}

/-- The deed was done in a studio that the host had got to, and came back. -/
structure Deed.Past (d : Deed σ ν) (s : Studio σ ν) : Prop where
  reachable : ∃ ids, Reachable ids d.before
  back : (d.before.act d.fuel d.act).1 = true
  earlier : d.before.engines.length ≤ s.engines.length

theorem Studio.length_act (s : Studio σ ν) (fuel : Nat) (act : HostAct σ ν) :
    (s.act fuel act).2.engines.length = s.engines.length := by
  have works : ∀ {α : Type} (number : Nat) (work : Machine σ ν → α × Machine σ ν),
      (s.withMachine number work).2.engines.length = s.engines.length := by
    intro α number work
    rw [withMachine]
    split
    · rfl
    · exact List.length_set
  cases act with
  | call number call => exact works number fun m => m.call fuel call
  | edit number edit =>
    have edited := works number fun m => m.edit edit
    rw [Studio.act, Studio.edit]
    split
    · next heq =>
      rw [heq] at edited
      exact edited
    · exact edited
  | drop number =>
    rw [Studio.act, Studio.drop]
    split
    · rfl
    · exact List.length_set
  | fire => rfl

theorem Course.past (h : Course done ids s) : ∀ d ∈ done, d.Past s := by
  induction h with
  | start => simp
  | add id name listener diagnostics _ _ _ ih =>
    intro d hd
    obtain ⟨reachable, back, earlier⟩ := ih d hd
    exact ⟨reachable, back, by simp only [Studio.add, List.length_append]; omega⟩
  | act fuel act course back ih =>
    refine List.forall_mem_cons.mpr ⟨⟨⟨_, course.reachable⟩, back, (Studio.length_act ..).ge⟩, fun d hd => ?_⟩
    obtain ⟨reachable, back, earlier⟩ := ih d hd
    exact ⟨reachable, back, earlier.trans (Studio.length_act ..).ge⟩

theorem Course.failed (h : Course done ids s) (he : s.engine? number = some e) (faulted : e.isFaulted = true) :
    ∃ newer deed older before, done = newer ++ deed :: older ∧ deed.Fails number ∧
      deed.before.engine? number = some before ∧ before.id = e.id ∧ (∀ later ∈ newer, ¬ later.Resolves number) ∧
      works e.id s.shared.moments = works e.id (deed.before.act deed.fuel deed.act).2.shared.moments := by
  induction h generalizing e with
  | start => simp [Studio.engine?] at he
  | add id name listener diagnostics _ _ _ ih =>
    rcases Studio.engine?_add_some he with ⟨-, rfl⟩ | he
    · simp [Engine.isFaulted, Engine.create] at faulted
    · exact ih he faulted
  | @act done _ s fuel act course back ih =>
    obtain ⟨before, hb, id, bears⟩ := course.reachable.sound.bears act back he
    cases bears with
    | fails fails => exact ⟨[], ⟨s, fuel, act⟩, done, before, rfl, fails, hb, id.symm, by simp, rfl⟩
    | settles _ sane => simp [sane] at faulted
    | passes _ unresolved same worked =>
      obtain ⟨newer, deed, older, first, rfl, fails, hf, ids, others, works⟩ := ih hb (same ▸ faulted)
      refine ⟨⟨s, fuel, act⟩ :: newer, deed, older, first, rfl, fails, hf, ids.trans id.symm,
        List.forall_mem_cons.mpr ⟨unresolved, others⟩, ?_⟩
      rw [id, worked, works]

theorem Course.faulted (h : Course done ids s) (he : s.engine? number = some e)
    (split : done = newer ++ deed :: older) (fails : deed.Fails number)
    (unresolved : ∀ later ∈ newer, ¬ later.Resolves number) : e.isFaulted = true := by
  induction h generalizing e newer with
  | start => simp at split
  | add id name listener diagnostics course _ _ ih =>
    rcases Studio.engine?_add_some he with ⟨rfl, -⟩ | he
    · -- No deed can have been about an engine that there was not.
      obtain ⟨_, _, _, ⟨first, _, -, hf, -⟩, -⟩ := fails
      have known := Studio.lt_of_engine? hf
      have earlier := (course.past deed (by simp [split])).earlier
      omega
    · exact ih he split unresolved
  | act fuel act course back ih =>
    obtain ⟨before, hb, -, bears⟩ := course.reachable.sound.bears act back he
    cases newer with
    | nil =>
      obtain ⟨rfl, rfl⟩ := List.cons.inj split
      cases bears with
      | fails _ faulted => exact faulted
      | settles sane | passes sane => exact absurd fails sane
    | cons later newer =>
      obtain ⟨rfl, rest⟩ := List.cons.inj split
      rw [List.forall_mem_cons] at unresolved
      have faulted := ih hb rest unresolved.2
      cases bears with
      | fails _ faulted => exact faulted
      | settles _ _ resolves => exact absurd (resolves faulted) unresolved.1
      | passes _ _ same => rw [same, faulted]

theorem Deed.FailedLast.fails {moments : List (Moment ν)} (last : deed.FailedLast number moments)
    (past : deed.Past s) : deed.Fails number := by
  obtain ⟨e, call, answer, p, called, hook, index, ticket, command, source, request, left, acts, he, opens, met, -⟩ :=
    last
  obtain ⟨ids, reachable⟩ := past.reachable
  have back := past.back
  rw [acts, Studio.act, Studio.withMachine, he] at back
  simp only [Machine.call_eq_reply, Option.getD_some] at back
  obtain ⟨location, failed⟩ := (reachable.sound.machine he).fails_of_meets opens met back
  exact ⟨_, location, source, ⟨e, call, acts, he, rfl⟩, failed⟩

theorem works_of_shown {id : EngineId} {moments moments' : List (Moment ν)} (h : shown moments' = shown moments) :
    works id moments' = works id moments := by
  have within : ∀ moments : List (Moment ν), works id moments = (shown moments).filter (Moment.isWork id) := by
    intro moments
    rw [shown, List.filter_filter]
    refine List.filter_congr fun moment _ => ?_
    cases moment <;> simp [Moment.isWork, Moment.isShown]
  rw [within, within, h]

theorem Deed.Fails.failedLast {before : Engine σ ν} {moments : List (Moment ν)} (fails : deed.Fails number)
    (past : deed.Past s) (hb : deed.before.engine? number = some before)
    (worked : works before.id moments =
      works before.id (deed.before.act deed.fuel deed.act).2.shared.moments) : deed.FailedLast number moments := by
  obtain ⟨_, location, source, ⟨e, call, acts, he, rfl⟩, failed⟩ := fails
  obtain rfl : e = before := Option.some.inj (he.symm.trans hb)
  obtain ⟨ids, reachable⟩ := past.reachable
  have breaks := (reachable.sound.machine he).breaks (reachable.charted.machine he) failed
  obtain ⟨answer, p, called, hook, ticket, command, request, left, opens, met, brokenOff⟩ := breaks.failing
  refine ⟨e, call, answer, p, called, hook, _, ticket, command, source, request, left, acts, he, opens, met, ?_⟩
  rw [worked, ← works_of_shown brokenOff.shown, acts, Studio.act, Studio.withMachine, he]
  simp only [Machine.call_eq_reply]

/-- The last hook of an engine that is faulted has failed, and nothing else is faulted. -/
theorem Course.faulted_iff (h : Course done ids s) (he : s.engine? number = some e) :
    e.isFaulted = true ↔ ∃ newer deed older, done = newer ++ deed :: older ∧
      deed.FailedLast number s.shared.moments ∧ ∀ later ∈ newer, ¬ later.Resolves number := by
  constructor
  · intro faulted
    obtain ⟨newer, deed, older, before, split, fails, hb, id, unresolved, worked⟩ := h.failed he faulted
    rw [← id] at worked
    exact ⟨newer, deed, older, split, fails.failedLast (h.past deed (by simp [split])) hb worked, unresolved⟩
  · rintro ⟨newer, deed, older, split, last, unresolved⟩
    exact h.faulted he split (last.fails (h.past deed (by simp [split]))) unresolved

/-- Nothing but a stop or a redirect has any effect on the engine. -/
structure Studio.Inert (s : Studio σ ν) (number : Nat) (id : EngineId) : Prop where
  dead : ∀ handle : Handle, handle.engine = id → s.shared.board.isArmed handle = false
  unmoved : ∀ acts : List (Nat × HostAct σ ν), (∀ act ∈ acts, act.2.IsVain number) → s.Unmoved id (s.acts acts)

theorem Reachable.inert (h : Reachable ids s) (he : s.engine? number = some e) (faulted : e.isFaulted = true) :
    s.Inert number e.id := by
  have rest := h.sound.rest number e he
  have disarmed : (s.shared.board.register e.id).armed = none := (rest.settled.faulted faulted).2.2.1
  have dead : ∀ handle : Handle, handle.engine = e.id → s.shared.board.isArmed handle = false := by
    intro handle hh
    rw [Switchboard.isArmed, hh, rest.core.registered]
    simp [disarmed]
  exact ⟨dead, fun acts vain => Studio.Down.vain_acts ⟨he, faulted, dead⟩ acts vain⟩

end Course

/-! ## The main result -/

/--
Faults, whatever the host has done before. A call that fails has come to a hook that failed, and leaves that
command active and its run in flight. After that the engine does nothing until it is stopped or redirected. And
an engine is faulted exactly as long as that is so.
-/
theorem faults [Behaviour σ ν] {done : List (Deed σ ν)} {ids : List EngineId} {s : Studio σ ν}
    (h : Course done ids s) {number : Nat} {e : Engine σ ν} (he : s.engine? number = some e) :
    (∀ fuel call location source,
      (Machine.reply ⟨e, s.shared⟩ fuel call).1.error? = some (.commandFailed location source) →
      Machine.Breaks ⟨e, s.shared⟩ call location source (Machine.reply ⟨e, s.shared⟩ fuel call).2 ∧
      (s.act fuel (.call number call)).2.Inert number e.id) ∧
    (e.isFaulted = true → s.Inert number e.id) ∧
    (e.isFaulted = true ↔ ∃ newer deed older, done = newer ++ deed :: older ∧
      deed.FailedLast number s.shared.moments ∧ ∀ later ∈ newer, ¬ later.Resolves number) := by
  refine ⟨fun fuel call location source failed => ?_, h.reachable.inert he, h.faulted_iff he⟩
  let m : Machine σ ν := ⟨e, s.shared⟩
  have breaks : m.Breaks call location source (m.reply fuel call).2 :=
    (h.reachable.sound.machine he).breaks (h.reachable.charted.machine he) failed
  have moves := (Moves.refl m).call fuel call
  rw [Machine.call_eq_reply] at moves
  have acted : s.act fuel (.call number call) = (true, { s with
      engines := s.engines.set number (some (m.reply fuel call).2.engine)
      shared := (m.reply fuel call).2.shared }) := by
    rw [Studio.act, Studio.withMachine, he]
    simp only [Machine.call_eq_reply, Option.getD_some]
    rw [CallReply.isBack_of_error? failed]
  have after : Reachable ids (s.act fuel (.call number call)).2 :=
    .act fuel (.call number call) h.reachable (by rw [acted])
  have there : (s.act fuel (.call number call)).2.engine? number = some (m.reply fuel call).2.engine := by
    rw [acted, Studio.engine?_set, if_pos ⟨rfl, Studio.lt_of_engine? he⟩]
  have inert := after.inert there breaks.faulted
  rw [show (m.reply fuel call).2.engine.id = e.id from moves.kept.id] at inert
  exact ⟨breaks, inert⟩

/-- A command that waits, and at the first tick asks for a stop and then fails. -/
def breaker : Command Cue where
  name := "breaker"
  state := .scripted
    { name := "breaker", execute := [[.hold "kept"]],
      tick := [[.request .stop, .fail (.failed "the ice gave way")]], stop := [] }

def breakerStart : Studio Cue Note :=
  Studio.add {} (.create keeperId "engine" ((Edit.push breaker).apply {}).2 (some .recorder) true)

def breakerWaiting : Studio Cue Note := (breakerStart.act 10 (.call 0 (.execute 0 (some farewell)))).2

/-- The tick fails, and not even the handle of the breaker is of any use then. -/
theorem faults_breaker : ∃ e, breakerWaiting.engine? 0 = some e ∧
    let broken := (breakerWaiting.act 10 (.call 0 .tick)).2
    Machine.Breaks ⟨e, breakerWaiting.shared⟩ .tick ⟨"engine", 0, "breaker"⟩ (.failed "the ice gave way")
      (Machine.reply ⟨e, breakerWaiting.shared⟩ 10 .tick).2 ∧
    broken.Unmoved keeperId
      (broken.acts [(10, .call 0 .tick), (10, .fire "kept" none), (10, .call 0 (.execute 0 none))]) := by
  have course : Course _ [keeperId] breakerWaiting :=
    .act 10 (.call 0 (.execute 0 (some farewell)))
      (.add keeperId "engine" (some .recorder) true .start (by simp) (.edit (.push breaker) .empty)) rfl
  have he : breakerWaiting.engine? 0 = some _ := rfl
  obtain ⟨breaks, inert⟩ := (faults course he).1 10 .tick ⟨"engine", 0, "breaker"⟩ (.failed "the ice gave way") rfl
  refine ⟨_, he, breaks, inert.unmoved _ ?_⟩
  simp only [List.forall_mem_cons]
  exact ⟨.tick, .fire .., .execute .., by simp⟩

end Sequencer
