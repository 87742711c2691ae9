/-
# Sends and reactions that nest

A datagram that comes in during a send can make the session send again, and an owner that
is told how a session ended can cancel another one, whose owner is told in turn.  Both
definitions stop at some depth, and neither loses anything by that: a session that left its
first phase never sends on account of a datagram, and a session whose owner cancels in
return is over by then.  So all greater depths give the same actions.
-/
import NetBoot.Proofs.Session.Anatomy
import NetBoot.Proofs.Session.Frame
import NetBoot.Proofs.Session.Steps

namespace NetBoot

variable {τ σ α β : Type}

/-- The phase of a session, if there is one of that number. -/
def World.phaseOf? (world : World τ σ) (who : SessionId) : Option Phase :=
  (world.session? who).map Session.phase

namespace Act

open World

/-! ## Actions that do the same -/

/-- While the phase of a session is of a certain kind, and as it then stays, both actions do
the same. -/
def Alike (who : SessionId) (kind : Option Phase → Prop) (first second : Act τ σ α) : Prop :=
  ∀ world, kind (world.phaseOf? who) →
    first.perform world = second.perform world ∧ kind ((first.perform world).2.phaseOf? who)

/-- The action leaves the phase of a session as it is. -/
def Steady (who : SessionId) (act : Act τ σ α) : Prop :=
  ∀ world, (act.perform world).2.phaseOf? who = world.phaseOf? who

section

variable {who : SessionId} {kind : Option Phase → Prop} {world : World τ σ}

theorem Idle.agree {act : Act τ σ α} (h : act.Idle) {outcome : Except Fault α}
    {after : World τ σ} (hact : act.perform world = (outcome, after)) : after.Agree world := by
  have hagree := h world
  rw [hact] at hagree
  exact hagree

theorem Idle.steady {act : Act τ σ α} (h : act.Idle) : Steady who act := by
  intro world
  rw [phaseOf?, phaseOf?, (h world).session?]

/-- What is done on a session is steady if it gives the session a record of its phase. -/
theorem steady_onSession {act : Session τ → Act τ σ Unit}
    (h : ∀ world session, world.session? who = some session →
      ∃ after next, (act session).Carries world after ∧ after.session? who = some next ∧
        next.phase = session.phase) : Steady who (onSession who act) := by
  intro world
  cases hsession : world.session? who with
  | none => rw [perform_onSession_none act hsession]
  | some session =>
    obtain ⟨middle, next, hcarries, hnext, hphase⟩ := h world session hsession
    obtain ⟨after, hafter, agree⟩ := hcarries world (.refl world)
    rw [perform_onSession act hsession, hafter, phaseOf?, phaseOf?, agree.session?, hnext,
      hsession]
    exact congrArg some hphase

theorem steady_mark (deed : Deed) : Steady who (mark who deed : Act τ σ Unit) :=
  steady_onSession fun _ session h => ⟨_, session, fun _ agree =>
    ⟨_, rfl, agree.chronicled who deed session⟩, h, rfl⟩

theorem steady_startTimer [TimeScale τ] : Steady who (startTimer who : Act τ σ Unit) := by
  apply steady_onSession
  intro world session h
  exact ⟨_, _, (carries_withTimer _ h).bind (carries_report _ _), session?_tuned h _, rfl⟩

theorem Steady.alike {act : Act τ σ α} (h : Steady who act) : Alike who kind act act :=
  fun world hworld => ⟨rfl, (h world).symm ▸ hworld⟩

theorem alike_get : Alike who kind (get : Act τ σ (World τ σ)) get :=
  fun _ hworld => ⟨rfl, hworld⟩

theorem Alike.bind {first second : Act τ σ α} {next later : α → Act τ σ β}
    (h : Alike who kind first second) (hnext : ∀ value, Alike who kind (next value) (later value)) :
    Alike who kind (first >>= next) (second >>= later) := by
  intro world hworld
  obtain ⟨hsame, hkind⟩ := h world hworld
  rw [perform_bind, perform_bind, ← hsame]
  rcases hfirst : first.perform world with ⟨outcome, after⟩
  rw [hfirst] at hkind
  cases outcome with
  | error fault => exact ⟨rfl, hkind⟩
  | ok value => exact hnext value after hkind

theorem alike_callLink (deed : Deed) (run : σ → α × σ) :
    Alike who kind (callLink who deed run : Act τ σ α) (callLink who deed run) :=
  (steady_mark deed).alike.bind fun _ => (idle_askNetwork run).steady.alike

theorem Alike.tryCatch {first second : Act τ σ α} {handler : Fault → Act τ σ α}
    (h : Alike who kind first second) (hhandler : ∀ fault, Steady who (handler fault)) :
    Alike who kind (tryCatch first handler) (tryCatch second handler) := by
  intro world hworld
  obtain ⟨hsame, hkind⟩ := h world hworld
  rw [perform_tryCatch, perform_tryCatch, ← hsame]
  rcases hfirst : first.perform world with ⟨outcome, after⟩
  rw [hfirst] at hkind
  cases outcome with
  | error fault => exact (hhandler fault).alike after hkind
  | ok value => exact ⟨rfl, hkind⟩

theorem Alike.onSession {first second : Session τ → Act τ σ Unit}
    (h : ∀ session, Alike who kind (first session) (second session)) :
    Alike who kind (onSession who first) (onSession who second) := by
  intro world hworld
  cases hsession : world.session? who with
  | none =>
    rw [perform_onSession_none first hsession, perform_onSession_none second hsession]
    exact ⟨rfl, hworld⟩
  | some session =>
    rw [perform_onSession first hsession, perform_onSession second hsession]
    exact h session world hworld

end

variable {around : Surroundings τ σ} {who : SessionId}
  {kind : Option Phase → Prop} {first second : Bytes → Act τ σ Unit}

theorem Alike.passOn (h : ∀ data, Alike who kind (first data) (second data))
    (arrived : List Bytes) :
    Alike who kind (passOn around first who arrived) (passOn around second who arrived) := by
  induction arrived with
  | nil => exact (idle_pure ()).steady.alike
  | cons data rest ih =>
    apply alike_get.bind
    intro world
    split
    · exact (h data).bind fun _ => ih
    · exact ih

theorem Alike.attempt (h : ∀ data, Alike who kind (first data) (second data))
    (session : Session τ) :
    Alike who kind (attempt around first who session) (attempt around second who session) := by
  apply (idle_askNetwork _).steady.alike.bind
  intro answer
  apply (idle_ofOutcome _).steady.alike.bind
  intro buffer
  apply (idle_buildPacket session buffer).steady.alike.bind
  intro packet
  apply (idle_report _).steady.alike.bind
  intro _
  apply alike_get.bind
  intro world
  apply (alike_callLink _ _).bind
  intro answer
  apply (Alike.passOn h answer.1).bind
  intro _
  exact (idle_ofOutcome answer.2).steady.alike

variable [TimeScale τ]

/-- Attempts are alike if what they do with the datagrams that come in is. -/
theorem Alike.transmit (h : ∀ data, Alike who kind (first data) (second data)) :
    Alike who kind (transmit around first who) (transmit around second who) := by
  apply steady_startTimer.alike.bind
  intro _
  apply (steady_mark _).alike.bind
  intro _
  apply Alike.onSession
  intro session
  apply (Alike.attempt h session).tryCatch
  intro fault
  split
  · exact (idle_report _).steady
  · exact (idle_throw fault).steady

/-! ## Sends inside sends -/

section

variable {world after : World τ σ} {enter later : Act τ σ Unit} {data : Bytes}

/-- No session goes back to its first phase. -/
theorem phase_ne_discovering {next : Session τ}
    (moves : Moves around (fun _ _ => False) world after)
    (h : ∀ session, world.session? who = some session → session.phase ≠ .discovering)
    (hnext : after.session? who = some next) : next.phase ≠ .discovering := by
  induction moves generalizing next with
  | refl => exact h next hnext
  | @tail middle last _ step ih =>
    obtain ⟨mover, move⟩ := step
    refine move.preserves (fun _ session => session.phase ≠ .discovering) (fun _ _ h => h) ?_
      (fun _ => ih) hnext
    rintro rfl
    cases move with
    | begun _ _ _ permitted => exact permitted.elim
    | refused _ _ _ _ permitted => exact permitted.elim
    | retried _ permitted => exact permitted.elim
    | exhausted _ permitted => exact permitted.elim
    | forced permitted => exact permitted.elim
    | abandoned permitted => exact permitted.elim
    | cancelled found => exact ⟨_, session?_ended found _, by simp [Session.ended]⟩
    | handed packet found => exact ⟨_, found, ih found⟩
    | @kept _ _ session data found =>
      obtain ⟨response, proxy, hkeeping⟩ := middle.keeping_eq session data
      have hphase := ih found
      refine ⟨_, session?_admitted found data, ?_⟩
      rw [hkeeping]
      exact hphase
    | requested data found _ discovering => exact absurd discovering (ih found)
    | acknowledged data outcome found _ _ _ agree publishes =>
      have acts := acts_published found agree publishes
      refine ⟨_, session?_ended acts.session _, ?_⟩
      cases outcome <;> simp [Session.ended, registrationFailure]

/-- A session that left its first phase does not send because of a datagram. -/
theorem alike_deliverWith (henter : Enters around (fun _ _ => False) who enter) (data : Bytes) :
    Alike who (· ≠ some .discovering) (deliverWith around enter who data)
      (deliverWith around later who data) := by
  intro world hworld
  have hphase (session : Session τ) (h : world.session? who = some session) :
      session.phase ≠ .discovering := by
    intro discovering
    rw [phaseOf?, h] at hworld
    exact hworld (congrArg some discovering)
  constructor
  · cases hsession : world.session? who with
    | none => rw [deliverWith, deliverWith, perform_onSession_none _ hsession,
        perform_onSession_none _ hsession]
    | some session =>
      rw [deliverWith, deliverWith, perform_onSession _ hsession, perform_onSession _ hsession]
      simp only [accept, hphase session hsession, if_false]
  · have moves := Proceeds.deliverWith henter data world world (.refl world)
    rw [phaseOf?]
    cases hafter : ((deliverWith around enter who data).perform world).2.session? who with
    | none => simp
    | some next =>
      intro discovering
      exact phase_ne_discovering moves hphase hafter (Option.some_inj.mp discovering)

omit [TimeScale τ] in
/-- What follows an action has to do the same only where the action ends well. -/
theorem perform_bind_congr {act : Act τ σ α} {next other : α → Act τ σ β}
    (h : ∀ value after, act.perform world = (.ok value, after) →
      (next value).perform after = (other value).perform after) :
    (act >>= next).perform world = (act >>= other).perform world := by
  rw [perform_bind, perform_bind]
  rcases hact : act.perform world with ⟨outcome, after⟩
  cases outcome with
  | error fault => rfl
  | ok value => exact h value after hact

/-- A session sends because of a datagram only after it has left its first phase. -/
theorem perform_checkOffers_congr
    (h : ∀ world : World τ σ, world.phaseOf? who ≠ some .discovering →
      enter.perform world = later.perform world) (world : World τ σ) :
    (checkOffers enter who).perform world = (checkOffers later who).perform world := by
  cases hsession : world.session? who with
  | none => rw [checkOffers, checkOffers, perform_onSession_none _ hsession,
      perform_onSession_none _ hsession]
  | some session =>
    rw [checkOffers, checkOffers, perform_onSession _ hsession, perform_onSession _ hsession]
    cases session.response with
    | none => rfl
    | some held =>
      dsimp only
      rw [perform_bind_ok _ (perform_get world), perform_bind_ok _ (perform_get world)]
      split
      · rfl
      · have hidle := session?_tuned hsession fun timer loop => timer.stop loop
        apply perform_bind_congr
        intro _ reported hreported
        obtain ⟨stopped, hstopped, agree⟩ := carries_withTimer
          (fun timer loop => timer.stop loop) hsession reported ((idle_report _).agree hreported)
        obtain ⟨entered, hentered, agree⟩ := carries_update
          (fun session => { session with phase := .requesting }) hidle stopped agree
        rw [stopTimer, perform_bind_ok _ hstopped, perform_bind_ok _ hstopped,
          perform_bind_ok _ hentered, perform_bind_ok _ hentered]
        apply h entered
        rw [phaseOf?, agree.session?, session?_put hidle]
        simp

theorem perform_accept_congr {session : Session τ}
    (h : ∀ world : World τ σ, world.phaseOf? who ≠ some .discovering →
      enter.perform world = later.perform world) (world : World τ σ) :
    (accept around enter who session data).perform world =
      (accept around later who session data).perform world := by
  apply perform_bind_congr
  intro _ _ _
  apply perform_bind_congr
  intro _ _ _
  apply perform_bind_congr
  intro _ _ _
  apply perform_bind_congr
  intro _ _ _
  apply perform_bind_congr
  intro _ _ _
  split
  · exact perform_checkOffers_congr h _
  · rfl

theorem perform_deliverWith_congr
    (h : ∀ world : World τ σ, world.phaseOf? who ≠ some .discovering →
      enter.perform world = later.perform world) (world : World τ σ) :
    (deliverWith around enter who data).perform world =
      (deliverWith around later who data).perform world := by
  cases hsession : world.session? who with
  | none => rw [deliverWith, deliverWith, perform_onSession_none _ hsession,
      perform_onSession_none _ hsession]
  | some session =>
    rw [deliverWith, deliverWith, perform_onSession _ hsession, perform_onSession _ hsession]
    dsimp only
    split
    · rfl
    split
    · rfl
    split
    · rfl
    split
    · rfl
    · exact perform_accept_congr h world

end

/-- Once the first phase is left, attempts are the same however deep they may nest. -/
theorem alike_sendWithin (first second : Nat) :
    Alike who (· ≠ some .discovering) (sendWithin around (first + 1) who : Act τ σ Unit)
      (sendWithin around (second + 1) who) :=
  Alike.transmit fun data => alike_deliverWith (enters_sendWithin first who) data

/-- An attempt is the same for every depth that covers the active phases. -/
theorem sendWithin_eq {phases : Nat} (h : activePhases ≤ phases) (who : SessionId) :
    sendWithin around phases who = sendRequest around who := by
  obtain ⟨more, rfl⟩ := Nat.exists_eq_add_of_le h
  have halike : Alike who (fun _ => True) (sendWithin around (more + 2) who)
      (sendWithin around 2 who) := Alike.transmit fun data world _ =>
    ⟨perform_deliverWith_congr (fun world hworld => (alike_sendWithin more 0 world hworld).1) world,
      trivial⟩
  rw [Nat.add_comm]
  funext world
  exact (halike world trivial).1

/-! ## Owners that cancel in return -/

/-- Cancel the session that was started last.  Owners may do the same in return until this
has gone on to some depth. -/
def cancelWithin (around : Surroundings τ σ) : (depth : Nat) → Act τ σ Unit
  | 0 => pure ()
  | depth + 1 => do
    match (← get).newest with
    | some who => cancelWith around (cancelWithin around depth) who
    | none => pure ()

section

variable {world : World τ σ} {session : Session τ}

/-- Whoever cancels a session that is over does nothing, and nobody is told. -/
theorem perform_cancelWithin_of_finished (hnewest : world.newest = some who)
    (h : world.session? who = some session) (finished : session.finished = true) (depth : Nat) :
    (cancelWithin around depth).perform world = (.ok (), world) := by
  cases depth with
  | zero => rfl
  | succ depth =>
    rw [cancelWithin, perform_bind_ok _ (perform_get world), hnewest]
    dsimp only
    rw [cancelWith, perform_onSession _ h, finishWith, perform_onSession _ h, if_pos finished]
    rfl

/-- When the owner of the session that was started last hears that it ended, the session
is over. -/
theorem perform_finishWith_congr (hnewest : world.newest = some who) (first second : Nat)
    (outcome : Option Failure) :
    (finishWith around (cancelWithin around first) who outcome).perform world =
      (finishWith around (cancelWithin around second) who outcome).perform world := by
  cases h : world.session? who with
  | none => rw [finishWith, finishWith, perform_onSession_none _ h, perform_onSession_none _ h]
  | some session =>
    rw [finishWith, finishWith, perform_onSession _ h, perform_onSession _ h]
    split
    · rfl
    apply perform_bind_congr
    intro _ after hafter
    have hnewest' : ((shutDown around who session outcome).perform world).2.newest =
      world.newest := ((silent_shutDown session outcome).onward world).newest
    obtain ⟨ended, hended, agree⟩ := carries_shutDown outcome h world (.refl world)
    rw [hafter, Prod.mk.injEq] at hended
    rw [hafter] at hnewest'
    obtain rfl := hended.2
    cases session.owner with
    | absent => rfl
    | watching => rfl
    | cancelling =>
      have hdone : (world.ended who { session with owner := .absent } outcome).session? who =
        some { session.ended outcome with timer := (session.timer.stop world.loop).1 } :=
        session?_put h
      have finished : ({ session.ended outcome with
          timer := (session.timer.stop world.loop).1 } : Session τ).finished = true := by
        cases outcome <;> rfl
      apply perform_bind_congr
      intro _ told htold
      have silent : (notify who outcome : Act τ σ Unit).Silent around := silent_notify outcome
      have hnewest'' := (silent.onward after).newest
      obtain ⟨noted, hnoted, agree⟩ := carries_notify outcome hdone after agree
      rw [htold, Prod.mk.injEq] at hnoted
      rw [htold] at hnewest''
      obtain rfl := hnoted.2
      have htold' : told.session? who = some _ := (agree.session? who).trans hdone
      have hsame : told.newest = some who := hnewest''.trans (hnewest'.trans hnewest)
      rw [perform_cancelWithin_of_finished hsame htold' finished,
        perform_cancelWithin_of_finished hsame htold' finished]

end

/-- Cancelling is the same for every depth, since an owner that cancels in return finds the
session that was started last over already. -/
theorem cancelWithin_eq (around : Surroundings τ σ) (depth : Nat) :
    cancelWithin around (depth + 1) = cancelNewest around := by
  funext world
  change (cancelWithin around (depth + 1)).perform world = (cancelWithin around 1).perform world
  rw [cancelWithin, cancelWithin, perform_bind_ok _ (perform_get world),
    perform_bind_ok _ (perform_get world)]
  cases hnewest : world.newest with
  | none => rfl
  | some who =>
    dsimp only
    rw [cancelWith, cancelWith]
    cases h : world.session? who with
    | none => rw [perform_onSession_none _ h, perform_onSession_none _ h]
    | some session =>
      rw [perform_onSession _ h, perform_onSession _ h]
      exact perform_finishWith_congr hnewest depth 0 _

end Act
end NetBoot
