/-
# No session is left waiting for nothing

Between two events the timer of a session is armed exactly as long as the session is
active, and an armed timer has exactly one pending call.  Each move keeps this: the
timer is armed before a packet is built, and a session that ends or changes its phase
disarms it.  So nothing that fails or comes in during a send, and no fault that is let
through, can leave a session active with nothing that will wake it.
-/
import NetBoot.Proofs.Session.Steps
import NetBoot.Proofs.Time.Wiring

namespace NetBoot

open EventLoop

variable {τ σ : Type}

namespace World

/-- The number of the call that the timer of a session remembers. -/
def held (world : World τ σ) (who : SessionId) : Option Nat :=
  (world.session? who).bind fun session => session.timer.handle

/-- Loop and timers agree, and the timers of all sessions but one are armed exactly as
long as the sessions are active. -/
structure WiredBeside (world : World τ σ) (who : SessionId) : Prop where
  wiring : world.loop.Wiring world.held
  armed : ∀ {other session}, other ≠ who → world.session? other = some session →
    session.timer.running = !session.finished

/-- Loop and timers agree, and the timer of each session is armed exactly as long as the
session is active. -/
structure Wired (world : World τ σ) : Prop where
  wiring : world.loop.Wiring world.held
  armed : ∀ {who session}, world.session? who = some session →
    session.timer.running = !session.finished

section

variable {world other : World τ σ} {who : SessionId} {session next : Session τ}

theorem held_eq (h : world.session? who = some session) :
    world.held who = session.timer.handle := by
  rw [held, h]
  rfl

theorem held_put (h : world.session? who = some session) (next : Session τ) :
    (world.put who next).held = Function.update world.held who next.timer.handle := by
  funext other
  by_cases hother : other = who
  · subst hother
    rw [Function.update_self]
    exact held_eq (session?_put h)
  · rw [Function.update_of_ne hother, held, session?_put_of_ne hother]
    rfl

theorem Wired.beside (h : world.Wired) (who : SessionId) : world.WiredBeside who :=
  ⟨h.wiring, fun _ => h.armed⟩

theorem WiredBeside.wired (h : world.WiredBeside who) (found : world.session? who = some session)
    (armed : session.timer.running = !session.finished) : world.Wired := by
  refine ⟨h.wiring, fun {other} session hother => ?_⟩
  by_cases hsame : other = who
  · subst hsame
    rw [found, Option.some_inj] at hother
    rw [← hother]
    exact armed
  · exact h.armed hsame hother

/-- Only sessions and pending calls matter. -/
theorem WiredBeside.of_eq (h : world.WiredBeside who) (sessions : other.sessions = world.sessions)
    (pending : other.loop.pending = world.loop.pending)
    (asked : other.loop.asked = world.loop.asked) : other.WiredBeside who := by
  have hsession (known : SessionId) : other.session? known = world.session? known := by
    rw [session?, session?, sessions]
  have hheld : other.held = world.held := funext fun known => by rw [held, held, hsession]
  refine ⟨hheld ▸ h.wiring.of_pending pending asked, fun hne hfound => ?_⟩
  rw [hsession] at hfound
  exact h.armed hne hfound

theorem Wired.of_eq (h : world.Wired) (sessions : other.sessions = world.sessions)
    (pending : other.loop.pending = world.loop.pending)
    (asked : other.loop.asked = world.loop.asked) : other.Wired := by
  refine ⟨((h.beside 0).of_eq sessions pending asked).wiring, fun {who} session hfound => ?_⟩
  rw [session?, sessions] at hfound
  exact h.armed hfound

theorem Wired.akin (h : world.Wired) (akin : other.Akin world) : other.Wired :=
  h.of_eq akin.sessions (congrArg EventLoop.pending akin.loop)
    (congrArg EventLoop.asked akin.loop)

/-- A new record for one session, and what its timer did with the loop. -/
theorem WiredBeside.put (h : world.WiredBeside who) (found : world.session? who = some session)
    (next : Session τ) {loop : EventLoop τ SessionId}
    (wiring : loop.Wiring (Function.update world.held who next.timer.handle)) :
    ({ world.put who next with loop } : World τ σ).WiredBeside who := by
  refine ⟨?_, fun {other} session hne hfound => h.armed hne ?_⟩
  · have hheld := held_put found next
    exact hheld ▸ wiring
  · rw [← session?_put_of_ne hne]
    exact hfound

/-- Another record with the same timer and the same phase. -/
theorem Wired.put (h : world.Wired) (found : world.session? who = some session)
    (timer : next.timer = session.timer) (phase : next.phase = session.phase) :
    (world.put who next).Wired := by
  have hheld : Function.update world.held who next.timer.handle = world.held := by
    rw [timer, ← held_eq found, Function.update_eq_self]
  refine ((h.beside who).put found next (hheld.symm ▸ h.wiring)).wired (session?_put found) ?_
  rw [timer, Session.finished, phase]
  exact h.armed found

/-- However a session ends, its timer is disarmed. -/
theorem WiredBeside.ended (h : world.WiredBeside who) (found : world.session? who = some session)
    (outcome : Option Failure) : (world.ended who session outcome).Wired := by
  have hbeside := h.put found
    { session.ended outcome with timer := (session.timer.stop world.loop).1 }
    (RetryTimer.wiring_stop h.wiring (held_eq found))
  have hended : (world.ended who session outcome).WiredBeside who := hbeside.of_eq rfl rfl rfl
  refine hended.wired (session?_put found) ?_
  rw [RetryTimer.running, RetryTimer.handle_stop, Session.finished, Session.ended]
  cases outcome <;> rfl

theorem Wired.admitted (h : world.Wired) (found : world.session? who = some session)
    (data : Bytes) : (world.admitted who session data).Wired := by
  obtain ⟨response, proxy, hkeeping⟩ := world.keeping_eq session data
  have hput : (world.put who (world.keeping session data)).Wired :=
    h.put found (by rw [hkeeping]) (by rw [hkeeping])
  exact hput.of_eq rfl rfl rfl

theorem Wired.settled (h : world.Wired) (found : world.session? who = some session)
    (data : Bytes) : (world.settled who session data).Wired := by
  obtain ⟨proxy, hsettling⟩ := world.settling_eq session data
  obtain ⟨response, proxy', hkeeping⟩ := world.keeping_eq session data
  exact (h.admitted found data).put (session?_admitted found data)
    (by rw [hsettling, hkeeping]) (by rw [hsettling, hkeeping])

variable [TimeScale τ]

/-- An active session that begins an attempt has its timer armed. -/
theorem WiredBeside.attempted (h : world.WiredBeside who)
    (found : world.session? who = some session) (active : session.finished = false) :
    (world.attempted who session).Wired := by
  have hbeside := h.put found { session with timer := (session.timer.start world.loop who).1 }
    (RetryTimer.wiring_start h.wiring (held_eq found))
  have hattempted : (world.attempted who session).WiredBeside who := hbeside.of_eq rfl rfl rfl
  refine hattempted.wired (session?_put found) ?_
  change true = !session.finished
  rw [active]
  rfl

theorem Wired.fired (h : world.Wired) {handle : Handle τ SessionId}
    (mem : handle ∈ world.loop.pending) (found : world.session? handle.owner = some session) :
    (world.fired handle session).WiredBeside handle.owner :=
  (h.beside handle.owner).put found _ (h.wiring.take mem)

theorem Wired.requesting (h : world.Wired) (found : world.session? who = some session) :
    (world.requesting who session).Wired := by
  have hidle := (h.beside who).put found
    { session with phase := .requesting, timer := (session.timer.stop world.loop).1 }
    (RetryTimer.wiring_stop h.wiring (held_eq found))
  refine WiredBeside.attempted (hidle.of_eq ?_ rfl rfl) ?_ rfl
  · simp [World.tuned, World.put]
  · exact session?_put (session?_tuned found _)

omit [TimeScale τ] in
theorem Wired.joined (h : world.Wired) (profile : Profile τ) (owner : Owner) :
    (world.joined profile owner).WiredBeside world.sessions.length := by
  refine ⟨?_, fun {who} session hne hfound => ?_⟩
  · have hheld : (world.joined profile owner).held = world.held := by
      funext who
      by_cases hwho : who = world.sessions.length
      · subst hwho
        rw [held_eq (world.session?_joined profile owner), held, session?,
          List.getElem?_eq_none (Nat.le_refl _)]
        rfl
      · rw [held, held, session?_joined_of_ne hwho]
    exact hheld ▸ h.wiring
  · rw [session?_joined_of_ne hne profile owner] at hfound
    exact h.armed hfound

theorem Wired.begun (h : world.Wired) (profile : Profile τ) (owner : Owner) :
    (world.begun profile owner).Wired := by
  have hjoined := h.joined profile owner
  have hfound := world.session?_joined profile owner
  have hbeside := hjoined.put hfound
    { Session.ofProfile profile owner world.loop.now with
      attached := true
      timer := ((RetryTimer.ofPolicy profile.retry).startNow world.loop world.sessions.length).1 }
    (RetryTimer.wiring_startNow hjoined.wiring (held_eq hfound))
  have hbegun : (world.begun profile owner).WiredBeside world.sessions.length :=
    hbeside.of_eq (List.set_set ..) rfl rfl
  exact hbegun.wired (world.session?_begun profile owner) rfl

end

variable [TimeScale τ] {around : Surroundings τ σ} {allowed : World τ σ → Event τ σ → Prop}
  {world after first : World τ σ}

/-- Every move leaves loop and timers in agreement. -/
theorem Move.wired {mover : Option SessionId} (move : Move around allowed mover world after)
    (possible : ∀ {world event}, allowed world event → world.Possible event)
    (h : world.Wired) : after.Wired := by
  cases move with
  | idle agree => exact h.akin agree.akin
  | ticked _ instant => exact h.of_eq rfl rfl rfl
  | edited _ edit permitted => exact h.of_eq rfl rfl rfl
  | begun _ profile owner permitted => exact h.begun profile owner
  | refused _ profile owner cause permitted =>
    exact (h.joined profile .absent).ended (world.session?_joined profile .absent) _
  | retried handle permitted found active left =>
    exact (h.fired (possible permitted) found).attempted (session?_fired found) active
  | exhausted handle permitted found active spent =>
    exact (h.fired (possible permitted) found).ended (session?_fired found) _
  | forced permitted found active => exact (h.beside _).attempted found active
  | abandoned permitted found active => exact (h.beside _).ended found _
  | cancelled found active => exact (h.beside _).ended found _
  | handed packet found active => exact h.of_eq rfl rfl rfl
  | @kept _ who session data found awaits => exact h.admitted found data
  | requested data found awaits discovering ready =>
    exact (h.admitted found data).requesting (session?_admitted found data)
  | @acknowledged _ start published who session data outcome found awaits requesting ordinary agree
      publishes =>
    have akin := Act.akin_of_publishes agree publishes
    exact (((h.settled found data).akin akin).beside who).ended
      ((akin.session? who).trans (session?_settled found data)) _

theorem Moves.wired (moves : Moves around allowed world after)
    (possible : ∀ {world event}, allowed world event → world.Possible event)
    (h : world.Wired) : after.Wired := by
  induction moves with
  | refl => exact h
  | tail _ step ih =>
    obtain ⟨mover, move⟩ := step
    exact move.wired possible ih

omit [TimeScale τ] in
/-- A pending call belongs to an active session. -/
theorem Wired.exists_active (h : world.Wired) {handle : Handle τ SessionId}
    (mem : handle ∈ world.loop.pending) :
    ∃ session, world.session? handle.owner = some session ∧ session.finished = false ∧
      session.timer.handle = some handle.number := by
  obtain ⟨session, found, hhandle⟩ := Option.bind_eq_some_iff.mp (h.wiring.held_eq mem)
  have harmed := h.armed found
  rw [RetryTimer.running, hhandle] at harmed
  exact ⟨session, found, by simpa using harmed.symm, hhandle⟩

/-- In a world at rest, every event is made of moves. -/
theorem Wired.moves (h : world.Wired)
    (possible : ∀ {world event}, allowed world event → world.Possible event)
    (event : Event τ σ) (permitted : allowed world event) :
    Moves around allowed world (world.after around event) := by
  cases event with
  | fire handle =>
    obtain ⟨session, found, active, -⟩ := h.exists_active (possible permitted)
    exact Act.Proceeds.fire found active
      (fun left => .single ⟨_, .retried handle permitted found active left⟩)
      (fun spent => .single ⟨_, .exhausted handle permitted found active spent⟩)
      world (.refl world)
  | receive who data => exact Act.Proceeds.receive data world world (.refl world)
  | deliver who data => exact Act.Proceeds.deliver data world world (.refl world)
  | expire who spent => exact Act.Proceeds.timerExpired permitted world (.refl world)
  | cancel who => exact Act.Proceeds.cancel world who world (.refl world)
  | start profile owner => exact Act.Proceeds.start permitted world (.refl world)
  | tick instant => exact .single ⟨_, .ticked world instant⟩
  | stir network => exact .single ⟨_, .idle ⟨rfl, rfl, rfl, rfl, rfl, rfl⟩⟩
  | edit edit => exact .single ⟨_, .edited world edit permitted⟩

/-- A run is made of moves, and loop and timers agree all the time. -/
theorem Run.moves {events : List (Event τ σ)} (run : Run around allowed first events world)
    (possible : ∀ {world event}, allowed world event → world.Possible event)
    (h : first.Wired) : Moves around allowed first world ∧ world.Wired := by
  induction run with
  | rest => exact ⟨.refl, h⟩
  | step prior event permitted ih =>
    have moves : Moves around allowed _ _ := ih.2.moves possible event permitted
    exact ⟨ih.1.trans moves, moves.wired possible ih.2⟩

omit [TimeScale τ] in
/-- The timer of an active session is armed, and its call is the only pending one. -/
theorem Wired.exists_callsOf_eq (h : world.Wired) {who : SessionId} {session : Session τ}
    (found : world.session? who = some session) (active : session.finished = false) :
    session.timer.running = true ∧ ∃ handle, world.loop.callsOf who = [handle] ∧
      session.timer.handle = some handle.number := by
  have harmed := h.armed found
  rw [active] at harmed
  obtain ⟨number, hnumber⟩ := Option.isSome_iff_exists.mp harmed
  obtain ⟨handle, hcalls, -, -, hsame⟩ :=
    h.wiring.exists_callsOf_eq ((held_eq found).trans hnumber)
  exact ⟨harmed, handle, hcalls, by rw [hnumber, hsame]⟩

omit [TimeScale τ] in
/-- The timer of a session that is over is idle. -/
theorem Wired.handle_eq_none (h : world.Wired) {who : SessionId} {session : Session τ}
    (found : world.session? who = some session) (finished : session.finished = true) :
    session.timer.handle = none := by
  have harmed := h.armed found
  rw [finished, RetryTimer.running] at harmed
  exact Option.not_isSome_iff_eq_none.mp (by simp [harmed])

omit [TimeScale τ] in
/-- No call is pending for a session that is over. -/
theorem Wired.callsOf_eq_nil (h : world.Wired) {who : SessionId} {session : Session τ}
    (found : world.session? who = some session) (finished : session.finished = true) :
    world.loop.callsOf who = [] :=
  h.wiring.callsOf_eq_nil ((held_eq found).trans (h.handle_eq_none found finished))

theorem wired_start (tree : SettingsTree) (network : σ) :
    (start tree network : World τ σ).Wired :=
  ⟨.start, fun found => by simp [session?, start] at found⟩

/-- Between two events exactly one call is pending for an active session, and it is the
one that its timer remembers; no call is pending for a session that is over.  So an
active session is never left without anything that will wake it. -/
theorem Run.one_call_while_active {tree : SettingsTree} {network : σ}
    {events : List (Event τ σ)} {who : SessionId} {session : Session τ}
    (run : Run around Possible (start tree network) events world)
    (found : world.session? who = some session) :
    (session.phase = .discovering ∨ session.phase = .requesting →
      session.timer.running = true ∧
        ∃ handle, world.loop.callsOf who = [handle] ∧
          session.timer.handle = some handle.number) ∧
    (session.phase = .succeeded ∨ session.phase = .failed →
      session.timer.running = false ∧ world.loop.callsOf who = []) := by
  have hwired := (run.moves id (wired_start tree network)).2
  constructor
  · intro active
    have hfinished : session.finished = false := by
      rcases active with active | active <;> rw [Session.finished, active] <;> rfl
    exact hwired.exists_callsOf_eq found hfinished
  · intro finished
    have hfinished : session.finished = true := by
      rcases finished with finished | finished <;> rw [Session.finished, finished] <;> rfl
    refine ⟨?_, hwired.callsOf_eq_nil found hfinished⟩
    rw [RetryTimer.running, hwired.handle_eq_none found hfinished]
    rfl

/-- A session that has just started waits for its first call. -/
theorem one_call_after_start :
    ∃ (world : World Int Script) (session : Session Int),
      Run Script.around Possible (start .empty {}) [.start (Profile.plain 7 0) .watching] world ∧
      world.session? 0 = some session ∧ session.phase = .discovering ∧
      ∃ handle, world.loop.callsOf 0 = [handle] ∧
        session.timer.handle = some handle.number := by
  have run : Run Script.around Possible (start .empty {})
      ([] ++ [.start (Profile.plain 7 0) .watching]) _ := .step .rest _ trivial
  have found : (World.after Script.around (start .empty {})
      (.start (Profile.plain 7 0) .watching)).session? 0 = some _ := rfl
  exact ⟨_, _, run, found, rfl, ((run.one_call_while_active found).1 (.inl rfl)).2⟩

end World
end NetBoot
