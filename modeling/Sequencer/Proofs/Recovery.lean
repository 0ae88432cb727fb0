import Sequencer.Proofs.Engine.Jumps
import Sequencer.Proofs.Faults
import Sequencer.Proofs.StopDiscipline

/-!
# Recovery by a redirect

A redirect takes a faulted run up again where the host says. Whether the command that failed is released first
depends on what it had done before it failed, which its register still tells.
-/

namespace Sequencer

variable {σ ν : Type}

/-! ## What the register of a faulted engine tells -/

/-- While the engine is faulted, a jump is pending exactly if the activation that failed had signalled. -/
def Engine.Recalls (e : Engine σ ν) (b : Switchboard) (moments : List (Moment ν)) : Prop :=
  e.isFaulted = true → (b.register e.id).armed = none ∧
    ((b.register e.id).pending = none ↔ landings e.id (b.register e.id).lastTicket moments = 0)

namespace Engine.Recalls

variable {e e' : Engine σ ν} {b b' : Switchboard} {moments moments' : List (Moment ν)}

theorem of_sane (sane : e.isFaulted = false) : e.Recalls b moments := by
  intro faulted
  simp [sane] at faulted

theorem congr (h : e.Recalls b moments) (id : e'.id = e.id) (faulted : e'.isFaulted = e.isFaulted)
    (register : b'.register e.id = b.register e.id) (same : moments' = moments) : e'.Recalls b' moments' := by
  rw [Engine.Recalls, faulted, id, register, same]
  exact h

theorem steady : Steady (e.Recalls (ν := ν)) := by
  intro b moments handle r jump hr armed h faulted
  obtain ⟨disarmed, told⟩ := h faulted
  have other : handle.engine ≠ e.id := by
    intro own
    rw [own] at hr
    rw [Switchboard.register_of_get? hr, armed] at disarmed
    simp at disarmed
  have elsewhere : (Moment.landed handle : Moment ν).isLanding e.id (b.register e.id).lastTicket = false :=
    decide_eq_false fun landing => other landing.1
  rw [register_land hr, if_neg other, landings_cons, elsewhere]
  exact ⟨disarmed, told⟩

theorem aside {id : EngineId} (hne : e.id ≠ id) : Aside id (e.Recalls (ν := ν)) where
  land := steady
  register _ _ _ h := h.congr rfl rfl (Switchboard.register_setRegister_of_ne hne) rfl
  hold _ _ _ _ h := h
  mark b _ moment hm h faulted := by
    have other : moment.engine? ≠ some e.id := fun heq => hne (Option.some.inj (heq.symm.trans hm))
    rw [landings_cons, Moment.isLanding_of_ne other]
    exact h faulted

end Engine.Recalls

namespace Machine

abbrev Recalls (m : Machine σ ν) : Prop := m.engine.Recalls m.shared.board m.shared.moments

theorem recalls_commandFailed {m : Machine σ ν} {mark : Option Nat} (stands : m.Stands mark)
    (waiting : Waiting m.engine m.register m.shared.moments) (index : Nat) (ticket : Ticket)
    (source : CommandError) : (m.commandFailed index ticket source).2.Recalls := by
  obtain ⟨notices, failed⟩ := m.commandFailed_eq index ticket source
  rw [failed]
  intro _
  dsimp only
  rw [Switchboard.register_setRegister_self, landings_cons]
  refine ⟨rfl, ?_⟩
  show m.register.pending = none ↔ landings m.engine.id m.register.lastTicket m.shared.moments = 0
  rcases waiting.2.2 with ⟨armed, silent⟩ | ⟨-, pending, landed⟩
  · exact iff_of_true silent (stands.core.ledger.armed _ armed).2.1
  · rw [landed]
    exact iff_of_false (Option.isSome_iff_ne_none.mp pending) Nat.one_ne_zero

end Machine

section Calls

variable [Behaviour σ ν]

theorem Point.carries_recalls :
    Carries (σ := σ) (ν := ν) (fun _ => True) fun ended => ended.2.Recalls where
  tired _ ready _ := .of_sane ready.sane
  rests _ ready _ _ := .of_sane ready.sane
  ends _ _ _ _ _ _ _ _ := .of_sane (Machine.isFaulted_finish _)
  goes _ _ _ _ _ _ _ _ := trivial
  settles _ _ _ _ _ _ _ := trivial
  fails index ticket source _ _ ready _ := Machine.recalls_commandFailed ready.1 ready.2.1 index ticket source
  restarts _ _ _ _ _ _ := trivial

theorem Machine.AtRest.recalls_reply {m : Machine σ ν} (h : m.AtRest) (recalls : m.Recalls) (fuel : Nat)
    (call : Call σ ν) : (m.reply fuel call).2.Recalls := by
  cases opens : m.opening call with
  | none =>
    by_cases stops : call = .stop
    · subst stops
      refine .of_sane ?_
      show m.stop.engine.isFaulted = false
      rw [Engine.isFaulted, h.stop.2]
      rfl
    · have same := keepsRunAndPast_reply opens stops fuel
      refine recalls.congr same.id ?_ (by rw [same.board]) same.moments
      rw [Engine.isFaulted, Engine.isFaulted, same.run]
  | some opening =>
    obtain ⟨answer, p⟩ := opening
    obtain ⟨ready, replies⟩ := h.opening opens fuel
    rw [replies]
    exact Point.carries_recalls.play ready trivial

variable {ids : List EngineId} {s : Studio σ ν} {number : Nat} {e : Engine σ ν}

/-- Whatever a host does, the register of a faulted engine tells whether the activation that failed had signalled. -/
theorem Reachable.recalls (h : Reachable ids s) (he : s.engine? number = some e) :
    e.Recalls s.shared.board s.shared.moments := by
  -- On the acts of the host, of which only a call into the engine itself changes what it recalls.
  induction h generalizing number e with
  | start => simp [Studio.engine?] at he
  | add id name listener diagnostics reachable fresh _ ih =>
    rcases Studio.engine?_add_some he with ⟨-, rfl⟩ | he
    · exact .of_sane rfl
    · have old : e.id ≠ id := fun heq => fresh (heq ▸ reachable.sound.known number e he)
      exact (Engine.Recalls.aside old).register _ _ {} (ih he)
  | @act ids s fuel act reachable back ih =>
    cases act with
    | edit other edit =>
      obtain ⟨before, hb, id, run⟩ := s.engine?_edit other edit he
      have shared : (s.act fuel (.edit other edit)).2.shared = s.shared := s.shared_edit other edit
      rw [shared]
      exact (ih hb).congr id (by rw [Engine.isFaulted, Engine.isFaulted, run]) rfl rfl
    | drop other =>
      rw [Studio.act, Studio.drop] at he ⊢
      cases hb : s.engine? other with
      | none =>
        rw [hb] at he
        exact ih he
      | some dropped =>
        rw [hb] at he
        obtain ⟨ne, he⟩ := Studio.engine?_set_none s.shared hb he
        have hne : e.id ≠ dropped.id :=
          fun heq => ne (reachable.sound.distinct number other e dropped he hb heq)
        have kept : (s.shared.board.disconnect dropped.id).register e.id = s.shared.board.register e.id := by
          rw [Switchboard.register, Switchboard.register, Switchboard.disconnect, Table.get?_erase, if_neg hne]
        exact (ih he).congr rfl rfl kept rfl
    | fire name target => exact Engine.Recalls.steady.answer (.fire name target) (ih he)
    | call other call =>
      rw [Studio.act, Studio.withMachine] at he ⊢
      cases hb : s.engine? other with
      | none =>
        rw [hb] at he
        exact ih he
      | some before =>
        rw [hb] at he
        simp only [Machine.call_eq_reply] at he ⊢
        rcases Studio.engine?_set_some hb he with ⟨rfl, rfl⟩ | ⟨ne, he⟩
        · exact (reachable.sound.machine hb).recalls_reply (ih hb) fuel call
        · have hne : e.id ≠ before.id :=
            fun heq => ne (reachable.sound.distinct number other e before he hb heq)
          have moves := (Moves.refl (⟨before, s.shared⟩ : Machine σ ν)).call fuel call
          rw [Machine.call_eq_reply] at moves
          exact moves.aside (Engine.Recalls.aside hne) (ih he)

end Calls

/-! ## Fates that are final -/

section Final

variable {id : EngineId} {ticket : Ticket} {last : Fate} {earlier : List Fate} {moments : List (Moment ν)}
  {turns turns' : List (Turn ν)}

theorem Fate.suffix_close (fate : Fate) {stages : List Fate} (final : last ≠ .ongoing)
    (h : last :: earlier <:+ stages) : last :: earlier <:+ fate.close stages := by
  cases stages with
  | nil => exact h
  | cons first rest =>
    cases first with
    | ongoing =>
      rcases List.suffix_cons_iff.mp h with same | later
      · exact absurd (List.cons.inj same).1 final
      · exact later.trans (List.suffix_cons ..)
    | left | stopped => exact h

theorem fates_suffix (final : last ≠ .ongoing) (h : last :: earlier <:+ fates id turns) (more : turns <:+ turns') :
    last :: earlier <:+ fates id turns' := by
  obtain ⟨new, rfl⟩ := more
  induction new with
  | nil => exact h
  | cons turn new ih =>
    cases turn with
    | jumped engine =>
      show last :: earlier <:+ if engine = id then _ else _
      split
      · exact (Fate.suffix_close .left final ih).trans (List.suffix_append ..)
      · exact ih
    | aborted engine =>
      show last :: earlier <:+ if engine = id then _ else _
      split
      · exact Fate.suffix_close .stopped final ih
      · exact ih
    | began | completed => exact ih

theorem Disciplined.halts_le_one {excused : Ticket → Prop} (h : Disciplined id excused moments turns)
    (ticket : Ticket) : halts id ticket moments ≤ 1 := by
  by_cases issued : ticket ∈ activations id moments
  · obtain ⟨fate, due⟩ : ∃ fate, Due id moments ticket fate := by
      have each := h.due
      generalize activations id moments = tickets at each issued
      generalize fates id turns = stages at each
      induction each with
      | nil => simp at issued
      | cons first _ ih =>
        rcases List.mem_cons.mp issued with rfl | later
        · exact ⟨_, first⟩
        · exact ih later
    cases fate with
    | ongoing => exact due
    | left => exact due.once
    | stopped => exact Nat.le_of_eq due
  · rw [h.halts_eq_zero issued]
    exact Nat.zero_le 1

theorem Disciplined.not_stopped {excused : Ticket → Prop} {older : List Ticket}
    (h : Disciplined id excused moments turns) (nodup : (activations id moments).Nodup)
    (tickets : ticket :: older <:+ activations id moments) (stages : .left :: earlier <:+ fates id turns)
    (same : older.length = earlier.length) : ¬ Stopped id moments turns ticket := by
  have lengths := h.due.length_eq
  obtain ⟨newer, ht⟩ := tickets
  obtain ⟨later, hs⟩ := stages
  rw [← ht, ← hs, List.length_append, List.length_append, List.length_cons, List.length_cons, same] at lengths
  rw [← ht, List.nodup_append'] at nodup
  obtain ⟨-, unique, apart⟩ := nodup
  rw [Stopped, ← ht, ← hs, List.zip_append (by omega), List.mem_append]
  rintro (among | among)
  · exact apart (List.of_mem_zip among).1 (.head _)
  · rcases List.mem_cons.mp among with now | among
    · simp at now
    · exact (List.nodup_cons.mp unique).1 (List.of_mem_zip among).1

end Final

/-! ## Redirecting a faulted engine -/

/-- The stop hook of an activation is called before anything else happens, and not again. -/
structure Releases (id : EngineId) (index : Nat) (ticket : Ticket) (before after : Shared ν) : Prop where
  called : .called id .stop index ticket before.board :: before.moments <:+ after.moments
  recorded : .hookCalled id .stop index :: before.events <:+ after.events
  once : halts id ticket after.moments = 1

namespace Machine

variable {m : Machine σ ν} {run : Run ν} {index target : Nat}

/-- The run in flight is to go on at `target`, as if it had never failed. -/
structure Revives (m revived : Machine σ ν) (target : Nat) : Prop where
  run : revived.engine.run = m.engine.run.map fun run => { run with faulted := false }
  runCount : revived.engine.runCount = m.engine.runCount
  armed : revived.register.armed = none
  pending : revived.register.pending = some (.to target)

variable [Behaviour σ ν]

theorem revives_jumpTo (m : Machine σ ν) (run : Run ν) (target : Nat) : m.Revives (m.jumpTo run target) target where
  run := by
    rw [jumpTo]
    split
    · exact congrArg (Option.map _) (run_interrupt m _)
    · rfl
  runCount := ((KeepsTurns.refl m).jumpTo run target).runCount
  armed := by
    rw [jumpTo, register_setRegister]
    rfl
  pending := pending_jumpTo m run target

theorem moves_jumpTo {mark : Option Nat} (stands : m.Stands mark) (active : m.engine.active = some index)
    (own : run.active = some index) (silent : m.register.pending = none) (target : Nat) :
    Moves (m.announce .stop index m.register.lastTicket) (m.jumpTo run target) := by
  obtain ⟨entry, found⟩ := stands.entry? active
  have interrupts : m.interrupt index = (m.announce .stop index m.register.lastTicket).callStopHook index := by
    rw [interrupt, if_pos (by rw [found]; rfl)]
  rw [jumpTo, own, silent]
  dsimp only
  rw [interrupts]
  exact (((Moves.refl _).callStopHook index).next (.run _ _)).next (.register _ (.force _))

theorem redirect_eq (hr : m.engine.run = some run) (inside : target ≤ m.engine.sequence.len) (fuel : Nat) :
    m.redirect fuel target = (((Point.loop (m.jumpTo run target)).play fuel).1.outcome (),
      ((Point.loop (m.jumpTo run target)).play fuel).2) := by
  rw [redirect, hr]
  dsimp only
  rw [if_neg (Nat.not_lt.mpr inside)]
  rfl

section Redirected

variable {fuel : Nat} {ended : Verdict × Machine σ ν} (rest : m.AtRest) (hr : m.engine.run = some run)
  (played : (Point.loop (m.jumpTo run target)).play (fuel + 1) = ended)

include rest hr played

theorem AtRest.firstJump_jumpTo :
    FirstJump m.engine.id m.engine.runCount target m.shared.turns ended.2.shared.turns := by
  have keeps := (KeepsTurns.refl m).jumpTo run target
  obtain ⟨ready, executing⟩ := rest.jumpTo hr target
  have enters : (Point.loop (m.jumpTo run target)).Ready := .inl ⟨executing, rfl, ready⟩
  have first := enters.firstJump executing (pending_jumpTo m run target) fuel
  rwa [keeps.id, keeps.runCount, keeps.shared.turns, played] at first

variable {excused : Ticket → Prop} (treated : Disciplined m.engine.id excused ended.2.shared.moments
  ended.2.shared.turns)

include treated

theorem AtRest.releases (active : m.engine.active = some index) (silent : m.register.pending = none) :
    Releases m.engine.id index m.register.lastTicket m.shared ended.2.shared := by
  have own : run.active = some index := by rw [← active, Engine.active, hr]; rfl
  have moves : Moves (m.announce .stop index m.register.lastTicket) ended.2 :=
    played ▸ (moves_jumpTo rest.stands active own silent target).drive (fuel + 1) _
  obtain ⟨new, later, -⟩ := moves.past rest.stands.core.coherent
  have called : .called m.engine.id .stop index m.register.lastTicket m.shared.board :: m.shared.moments <:+
      ended.2.shared.moments := ⟨new, later.symm⟩
  have halted : 0 < halts m.engine.id m.register.lastTicket ended.2.shared.moments :=
    List.countP_pos_iff.mpr ⟨_, called.subset (.head _), decide_eq_true ⟨rfl, rfl⟩⟩
  exact ⟨called, moves.events, Nat.le_antisymm (treated.halts_le_one _) halted⟩

theorem AtRest.not_stopped (active : m.engine.active = some index) (held : m.Held excused)
    (nodup : (activations m.engine.id ended.2.shared.moments).Nodup) :
    ¬ Stopped m.engine.id ended.2.shared.moments ended.2.shared.turns m.register.lastTicket := by
  have moves : Moves m ended.2 := played ▸ ((Moves.refl m).jumpTo run target).drive (fuel + 1) _
  obtain ⟨older, tickets⟩ := List.head?_eq_some_iff.mp (rest.stands.latest active).1
  obtain ⟨stages, ongoing⟩ := List.head?_eq_some_iff.mp (held.paced.ongoing.mpr (by rw [active]; rfl))
  have issued : m.register.lastTicket :: older <:+ activations m.engine.id ended.2.shared.moments := by
    obtain ⟨new, later, -⟩ := moves.past rest.stands.core.coherent
    rw [later, ← tickets]
    exact (List.suffix_append ..).filterMap _
  have left : .left :: stages <:+ fates m.engine.id ended.2.shared.turns := by
    obtain ⟨outline, next, jumped⟩ := rest.firstJump_jumpTo hr played
    refine fates_suffix (by simp) ?_ jumped
    rw [fates, if_pos rfl, ongoing]
    exact List.suffix_append ..
  have same : older.length = stages.length := by
    have lengths := held.paced.disciplined.due.length_eq
    rw [tickets, ongoing] at lengths
    exact Nat.succ.inj lengths
  exact treated.not_stopped nodup issued left same

end Redirected

end Machine

section

variable [Behaviour σ ν] {ids : List EngineId} {s : Studio σ ν} {number : Nat} {e : Engine σ ν}

/--
What a redirect makes of a faulted engine, whatever its command had done before it failed. The run goes on at
the target. The stop hook of the command is called first exactly if no signal of it had landed, and not at all
otherwise.
-/
theorem redirect_releases_iff (h : Reachable ids s) (he : s.engine? number = some e) (faulted : e.isFaulted = true)
    {target : Nat} (inside : target ≤ e.sequence.len) (fuel : Nat) :
    let ticket := (s.shared.board.register e.id).lastTicket
    let after := (s.act (fuel + 1) (.call number (.redirect target))).2.shared
    ∃ index, e.active = some index ∧ .failed e.id ticket ∈ s.shared.moments ∧
      (Releases e.id index ticket s.shared after ↔ landings e.id ticket s.shared.moments = 0) ∧
      (landings e.id ticket s.shared.moments ≠ 0 → halts e.id ticket after.moments = 0) ∧
      FirstJump e.id e.runCount target s.shared.turns after.turns ∧
      ∃ revived, Machine.Revives ⟨e, s.shared⟩ revived target ∧
        Machine.redirect ⟨e, s.shared⟩ (fuel + 1) target =
          (((Point.loop revived).play (fuel + 1)).1.outcome (), ((Point.loop revived).play (fuel + 1)).2) := by
  intro ticket after
  let m : Machine σ ν := ⟨e, s.shared⟩
  have rest : m.AtRest := h.sound.machine he
  have executing := Engine.isExecuting_of_isFaulted faulted
  obtain ⟨run, hr⟩ := Option.isSome_iff_exists.mp executing
  obtain ⟨index, active⟩ := Option.isSome_iff_exists.mp (rest.settled.active executing)
  obtain ⟨-, told⟩ := h.recalls he faulted
  have redirects := m.redirect_eq hr inside (fuel + 1)
  obtain ⟨ended, played⟩ : ∃ ended, (Point.loop (m.jumpTo run target)).play (fuel + 1) = ended := ⟨_, rfl⟩
  rw [played] at redirects
  have ends : after = ended.2.shared := by
    show (s.act (fuel + 1) (.call number (.redirect target))).2.shared = _
    rw [Studio.act, Studio.withMachine, he]
    show (m.call (fuel + 1) (.redirect target)).2.shared = _
    rw [Machine.call_eq_reply, Machine.reply, redirects]
    rfl
  -- Whatever the run comes to, the activation that failed is treated as it should be.
  have held := h.heeds_halted.held number e he
  have unhalted : halts e.id ticket s.shared.moments = 0 :=
    held.unhalted (by rw [active]; rfl) ticket (rest.stands.latest active).1
  obtain ⟨treated, -⟩ := held.call rest (fuel + 1) (.redirect target)
  have nodup := (rest.call (fuel + 1) (.redirect target)).stands.core.ledger.nodup
  rw [((Moves.refl m).call (fuel + 1) (.redirect target)).kept.id] at nodup
  rw [Machine.call_eq_reply, Machine.reply, redirects] at treated nodup
  have released : landings e.id ticket s.shared.moments = 0 → Releases e.id index ticket s.shared after := fun silent =>
    ends ▸ rest.releases hr played treated active (told.mpr silent)
  have spared : landings e.id ticket s.shared.moments ≠ 0 → halts e.id ticket after.moments = 0 := by
    intro landed
    by_contra halted
    rw [ends] at halted
    rcases treated.called ticket halted with stopped | before | diverts
    · exact rest.not_stopped hr played treated active (held.mono fun _ => .inl) nodup stopped
    · exact before unhalted
    · exact landed (told.mp diverts.unsignalled)
  refine ⟨index, active, (rest.settled.faulted faulted).2.2.2, ⟨fun releases => ?_, released⟩, spared,
    ends ▸ rest.firstJump_jumpTo hr played, m.jumpTo run target, m.revives_jumpTo run target, ?_⟩
  · by_contra landed
    have once := releases.once
    rw [spared landed] at once
    simp at once
  · rw [redirects, played]

end

/-- The breaker has failed at its first tick. -/
def breakerBroken : Studio Cue Note := (breakerWaiting.act 10 (.call 0 .tick)).2

/-- The breaker had not signalled, and so it is released before its run comes to its end. -/
theorem redirect_releases_iff_breaker : Reachable [keeperId] breakerBroken ∧
    ∃ e, breakerBroken.engine? 0 = some e ∧ e.isFaulted = true ∧ 1 ≤ e.sequence.len ∧
      landings e.id (breakerBroken.shared.board.register e.id).lastTicket breakerBroken.shared.moments = 0 ∧
      ∃ index, e.active = some index ∧
        Releases e.id index (breakerBroken.shared.board.register e.id).lastTicket breakerBroken.shared
          (breakerBroken.act 10 (.call 0 (.redirect 1))).2.shared := by
  have reachable : Reachable [keeperId] breakerBroken :=
    .act 10 (.call 0 .tick) (.act 10 (.call 0 (.execute 0 (some farewell)))
      (.add keeperId "engine" (some .recorder) true .start (by simp) (.edit (.push breaker) .empty)) rfl) rfl
  obtain ⟨e, he, faulted, inside, silent⟩ : ∃ e, breakerBroken.engine? 0 = some e ∧ e.isFaulted = true ∧
      1 ≤ e.sequence.len ∧
      landings e.id (breakerBroken.shared.board.register e.id).lastTicket breakerBroken.shared.moments = 0 :=
    ⟨_, rfl, rfl, by decide, by decide⟩
  obtain ⟨index, active, -, releases, -⟩ := redirect_releases_iff reachable he faulted inside 9
  exact ⟨reachable, e, he, faulted, inside, silent, index, active, releases.mpr silent⟩

/-- A command that signals, and then fails. -/
def blurter : Command Cue where
  name := "blurter"
  state := .scripted
    { name := "blurter", execute := [[.next, .fail (.failed "the ice gave way")]], tick := [], stop := [] }

def blurterBroken : Studio Cue Note :=
  (Studio.act (Studio.add {} (.create keeperId "engine" ((Edit.push blurter).apply {}).2 (some .recorder) true)) 10
    (.call 0 (.execute 0 none))).2

/-- The blurter is never released, for a jump was pending when it failed. -/
theorem redirect_forsakes_blurter : Reachable [keeperId] blurterBroken ∧
    ∃ e, blurterBroken.engine? 0 = some e ∧ e.isFaulted = true ∧ 1 ≤ e.sequence.len ∧ e.active = some 0 ∧
      .hookCalled keeperId .stop 0 ∉ (blurterBroken.act 10 (.call 0 (.redirect 1))).2.shared.events := by
  have reachable : Reachable [keeperId] blurterBroken :=
    .act 10 (.call 0 (.execute 0 none))
      (.add keeperId "engine" (some .recorder) true .start (by simp) (.edit (.push blurter) .empty)) rfl
  exact ⟨reachable, _, rfl, rfl, by decide, rfl, by decide⟩

end Sequencer
