/-
# How sessions end

A session that opened its connection ends at most once.  When it does, it detaches its
connection, takes its final phase, closes the connection and tells its owner, in this
order and each once; the owner is told `none` exactly if the session succeeded, and
otherwise the failure that the session keeps.  After that nothing changes the session
any more.  A session whose connection could not be opened fails without telling anybody.

The history tells all this, and a network that keeps a record of the calls made to it
confirms what concerns connections.
-/
import NetBoot.Proofs.Session.Frame
import NetBoot.Proofs.Session.Record
import NetBoot.Proofs.Session.Wired

namespace NetBoot

open EventLoop

variable {τ σ : Type}

/-- Is this a deed by which a session ends? -/
def Deed.ends : Deed → Bool
  | .detached => true
  | .ended _ => true
  | .closed => true
  | .told _ => true
  | _ => false

namespace World

/-- A session that is going on has kept its connection since it opened it, and its owner
has not been told anything. -/
structure Ongoing (world : World τ σ) (who : SessionId) (session : Session τ) : Prop where
  found : world.session? who = some session
  active : session.finished = false
  failure : session.failure = none
  attached : session.attached = true
  opened : ∃ first rest, world.episodesOf who = first :: rest ∧ first.deed = .opened ∧
    first.session.owner = session.owner
  lasting : ∀ episode ∈ world.episodesOf who, episode.deed.ends = false
  untold : world.noticesOf who = []

/-- What an owner, if there is one, is told as the last thing that a session does.  At
that moment the session is what it will always be, and none of its calls is pending. -/
def Telling (who : SessionId) (session : Session τ) (owner : Owner)
    (telling : List (Episode τ)) : Prop :=
  if owner = .absent then telling = []
  else ∃ told, telling = [told] ∧ told.deed = .told session.failure ∧
    told.session = session ∧ (told.pending.filter fun handle => handle.owner = who) = []

/-- A session that ended has detached and then closed its connection, each once, and told
the owner that it was started with. -/
structure Concluded (world : World τ σ) (who : SessionId) (session : Session τ)
    (owner : Owner) : Prop where
  found : world.session? who = some session
  finished : session.finished = true
  outcome : session.failure = none ↔ session.phase = .succeeded
  attached : session.attached = false
  idle : session.timer.handle = none
  episodes : ∃ first rest detached ended closed telling,
    world.episodesOf who = first :: rest ++ [detached, ended, closed] ++ telling ∧
    first.deed = .opened ∧ first.session.owner = owner ∧
    (∀ episode ∈ first :: rest, episode.deed.ends = false) ∧
    detached.deed = .detached ∧ ended.deed = .ended session.failure ∧
    closed.deed = .closed ∧ Telling who session owner telling
  notices : world.noticesOf who = if owner = .absent then [] else [session.failure]

/-- A session that never opened its connection failed and did nothing else. -/
structure Unopened (world : World τ σ) (who : SessionId) (session : Session τ) : Prop where
  found : world.session? who = some session
  failed : session.phase = .failed
  failure : ∃ cause, session.failure = some (.system cause)
  attached : session.attached = false
  idle : session.timer.handle = none
  episodes : ∃ ended, world.episodesOf who = [ended] ∧ ended.deed = .ended session.failure
  untold : world.noticesOf who = []

/-- Every session number is either unknown or that of a session that is going on, that
ended or that never opened its connection. -/
inductive Standing (world : World τ σ) (who : SessionId) : Prop
  | unknown (found : world.session? who = none) (episodes : world.episodesOf who = [])
      (untold : world.noticesOf who = [])
  | ongoing (session : Session τ) (h : world.Ongoing who session)
  | concluded (session : Session τ) (owner : Owner) (h : world.Concluded who session owner)
  | unopened (session : Session τ) (h : world.Unopened who session)

section

variable {world middle after : World τ σ} {who : SessionId} {session next : Session τ}
  {deeds : List (Episode τ)}

theorem Unopened.spares (h : world.Unopened who session) (spares : world.Spares after who) :
    after.Unopened who session :=
  ⟨spares.session.trans h.found, h.failed, h.failure, h.attached, h.idle,
    spares.episodes ▸ h.episodes, spares.notices.trans h.untold⟩

/-- What happens to others changes nothing in how a session stands. -/
theorem Standing.spares (h : world.Standing who) (spares : world.Spares after who) :
    after.Standing who := by
  have hspares := spares
  obtain ⟨hsession, hepisodes, hnotices⟩ := spares
  cases h with
  | unknown found episodes untold =>
    exact .unknown (hsession.trans found) (hepisodes.trans episodes) (hnotices.trans untold)
  | ongoing session h =>
    exact .ongoing session ⟨hsession.trans h.found, h.active, h.failure, h.attached,
      hepisodes ▸ h.opened, hepisodes ▸ h.lasting, hnotices.trans h.untold⟩
  | concluded session owner h =>
    exact .concluded session owner ⟨hsession.trans h.found, h.finished, h.outcome, h.attached,
      h.idle, hepisodes ▸ h.episodes, hnotices.trans h.notices⟩
  | unopened session h => exact .unopened session (h.spares hspares)

theorem Standing.of_unknown (h : world.Standing who) (unfound : world.session? who = none) :
    world.episodesOf who = [] ∧ world.noticesOf who = [] := by
  cases h with
  | unknown found episodes untold => exact ⟨episodes, untold⟩
  | ongoing session h => simp [h.found] at unfound
  | concluded session owner h => simp [h.found] at unfound
  | unopened session h => simp [h.found] at unfound

/-- An active session is going on. -/
theorem Standing.of_active (h : world.Standing who) (found : world.session? who = some session)
    (active : session.finished = false) : world.Ongoing who session := by
  cases h with
  | unknown unfound => simp [unfound] at found
  | ongoing other h =>
    rw [h.found, Option.some_inj] at found
    exact found ▸ h
  | concluded other owner h =>
    rw [h.found, Option.some_inj] at found
    simp [← found, h.finished] at active
  | unopened other h =>
    rw [h.found, Option.some_inj] at found
    simp [← found, Session.finished, h.failed, Phase.terminal] at active

/-- A session that is over has ended properly. -/
theorem Standing.of_over (h : world.Standing who) (found : world.session? who = some session)
    (finished : session.finished = true) :
    world.Unopened who session ∨ ∃ owner, world.Concluded who session owner := by
  cases h with
  | unknown unfound => simp [unfound] at found
  | ongoing other h =>
    rw [h.found, Option.some_inj] at found
    simp [← found, h.active] at finished
  | concluded other owner h =>
    rw [h.found, Option.some_inj] at found
    exact .inr ⟨owner, found ▸ h⟩
  | unopened other h =>
    rw [h.found, Option.some_inj] at found
    exact .inl (found ▸ h)

/-- A session goes on as long as it keeps its owner and its connection and does nothing
that ends it. -/
theorem Ongoing.acts (h : world.Ongoing who session) (acts : world.Acts after who next deeds [])
    (active : next.finished = false) (owner : next.owner = session.owner)
    (attached : next.attached = session.attached) (failure : next.failure = session.failure)
    (lasting : ∀ episode ∈ deeds, episode.deed.ends = false) : after.Ongoing who next := by
  have hepisodes := acts.episodesOf
  refine ⟨acts.session, active, failure.trans h.failure, attached.trans h.attached, ?_, ?_, ?_⟩
  · obtain ⟨first, rest, hfirst, hdeed, howner⟩ := h.opened
    exact ⟨first, rest ++ deeds, by rw [hepisodes, hfirst, List.cons_append], hdeed,
      howner.trans owner.symm⟩
  · intro episode mem
    rw [hepisodes] at mem
    exact (List.mem_append.mp mem).elim (h.lasting episode) (lasting episode)
  · rw [acts.noticesOf, h.untold, List.append_nil]

/-- A session that accepts a datagram goes on. -/
theorem Ongoing.admitted (h : world.Ongoing who session) (data : Bytes) :
    (world.admitted who session data).Ongoing who (world.keeping session data) := by
  obtain ⟨response, proxy, hkeeping⟩ := world.keeping_eq session data
  have acts := acts_admitted h.found data
  rw [hkeeping] at acts ⊢
  exact h.acts acts h.active rfl rfl rfl (by simp [Deed.ends])

/-- A session whose replies were registered still goes on. -/
theorem Ongoing.published {around : Surroundings τ σ} {start published : World τ σ} {data : Bytes}
    {outcome : Except SettingsTree.Error Unit} (h : world.Ongoing who session)
    (agree : start.Agree (world.settled who session data))
    (publishes : (Act.registerReplies around (world.settling session data)).perform start =
      (.ok outcome, published)) : published.Ongoing who (world.settling session data) := by
  obtain ⟨proxy, hsettling⟩ := world.settling_eq session data
  have acts := acts_published h.found agree publishes
  rw [hsettling] at acts ⊢
  exact h.acts acts h.active rfl rfl rfl (by simp [Deed.ends])

/-- Ending a session that is going on concludes it. -/
theorem Ongoing.ended (h : world.Ongoing who session) (wired : world.WiredBeside who)
    (outcome : Option Failure) :
    (world.ended who session outcome).Concluded who
      { session.ended outcome with timer := (session.timer.stop world.loop).1 } session.owner := by
  have acts := acts_ended h.found outcome
  have hcalls := (wired.ended h.found outcome).wiring.callsOf_eq_nil
    ((held_eq acts.session).trans (RetryTimer.handle_stop _ _))
  refine ⟨acts.session, ?_, ?_, rfl, RetryTimer.handle_stop _ _, ?_, ?_⟩
  · cases outcome <;> rfl
  · cases outcome <;> simp [Session.ended]
  · obtain ⟨first, rest, hfirst, hdeed, howner⟩ := h.opened
    have hlasting := h.lasting
    rw [hfirst] at hlasting
    rw [acts.episodesOf, hfirst, closing]
    simp only [h.attached, if_true]
    refine ⟨first, rest, _, _, _, _, by simp only [List.append_assoc]; rfl, hdeed, howner,
      hlasting, rfl, rfl, rfl, ?_⟩
    rw [Telling]
    split
    · rfl
    · exact ⟨_, rfl, rfl, rfl, hcalls⟩
  · rw [acts.noticesOf, h.untold]
    rfl

/-- A session whose connection cannot be opened. -/
theorem unopened_refused [TimeScale τ] (h : world.Standing world.sessions.length)
    (profile : Profile τ) (cause : SystemError) :
    ∃ session, (world.refused profile cause).Unopened world.sessions.length session ∧
      session.failure = some (.system cause) := by
  have acts := acts_ended (world.session?_joined profile .absent) (some (.system cause))
  obtain ⟨hepisodes, hnotices⟩ := h.of_unknown (List.getElem?_eq_none (Nat.le_refl _))
  have hended := acts.episodesOf
  rw [show (world.joined profile .absent).episodesOf world.sessions.length = [] from hepisodes]
    at hended
  refine ⟨_, ⟨acts.session, rfl, ⟨cause, rfl⟩, rfl, rfl, ⟨_, hended, rfl⟩, ?_⟩, rfl⟩
  rw [refused, acts.noticesOf]
  exact congrArg (· ++ []) hnotices

end

/-! ## Connections -/

/-- The calls that were made for a session are those that the history tells of, and they are
what they should be, whether the session goes on, ended or never opened its connection: a
connection that was opened is detached and closed when its session ends, in this order and
each once, and not before. -/
structure Connected (world : World τ σ) (who : SessionId) (calls : List LinkCall) : Prop where
  told : calls = (world.episodesOf who).filterMap fun episode => episode.deed.call?
  ongoing : ∀ session, world.Ongoing who session →
    ∃ rest, calls = .opened :: rest ∧ ∀ call ∈ rest, call ≠ .detached ∧ call ≠ .closed
  concluded : ∀ session owner, world.Concluded who session owner →
    ∃ rest, calls = .opened :: rest ++ [.detached, .closed] ∧
      ∀ call ∈ rest, call ≠ .detached ∧ call ≠ .closed
  unopened : ∀ session, world.Unopened who session → calls = []

/-- What does not end a session neither detaches nor closes its connection. -/
theorem lasting_calls {episodes : List (Episode τ)}
    (lasting : ∀ episode ∈ episodes, episode.deed.ends = false) :
    ∀ call ∈ episodes.filterMap fun episode => episode.deed.call?,
      call ≠ .detached ∧ call ≠ .closed := by
  intro call mem
  obtain ⟨episode, mem, hcall⟩ := List.mem_filterMap.mp mem
  have lasts := lasting episode mem
  constructor <;> rintro rfl <;> cases hdeed : episode.deed <;>
    simp [hdeed, Deed.call?, Deed.ends] at hcall lasts

theorem connected_told (world : World τ σ) (who : SessionId) :
    world.Connected who ((world.episodesOf who).filterMap fun episode => episode.deed.call?) := by
  refine ⟨rfl, fun session h => ?_, fun session owner h => ?_, fun session h => ?_⟩
  · obtain ⟨first, rest, hepisodes, hdeed, -⟩ := h.opened
    have lasting := h.lasting
    rw [hepisodes, List.forall_mem_cons] at lasting
    rw [hepisodes, List.filterMap_cons_some (by rw [hdeed]; rfl)]
    exact ⟨_, rfl, lasting_calls lasting.2⟩
  · obtain ⟨first, rest, detached, ended, closed, telling, hepisodes, hdeed, -, lasting, hdetached,
      hended, hclosed, htelling⟩ := h.episodes
    have silent : (telling.filterMap fun episode => episode.deed.call?) = [] := by
      rw [Telling] at htelling
      split at htelling
      · rw [htelling, List.filterMap_nil]
      · obtain ⟨told, rfl, htold, -⟩ := htelling
        rw [List.filterMap_cons_none (by rw [htold]; rfl), List.filterMap_nil]
    rw [List.forall_mem_cons] at lasting
    refine ⟨_, ?_, lasting_calls lasting.2⟩
    rw [hepisodes, List.filterMap_append, silent, List.append_nil, List.filterMap_append,
      List.filterMap_cons_some (by rw [hdeed]; rfl)]
    simp [hdetached, hended, hclosed, Deed.call?]
  · obtain ⟨ended, hepisodes, hdeed⟩ := h.episodes
    rw [hepisodes, List.filterMap_cons_none (by rw [hdeed]; rfl), List.filterMap_nil]

variable [TimeScale τ] {around : Surroundings τ σ} {allowed : World τ σ → Event τ σ → Prop}
  {world after first : World τ σ}

/-- Whatever moves, every session goes on or has ended properly. -/
theorem Move.standing {mover : Option SessionId} (move : Move around allowed mover world after)
    (possible : ∀ {world event}, allowed world event → world.Possible event)
    (wired : world.Wired) (h : ∀ who, world.Standing who) (who : SessionId) :
    after.Standing who := by
  by_cases hmover : mover = some who
  swap
  · exact (h who).spares (move.spares hmover)
  subst hmover
  cases move with
  | begun _ profile owner =>
    have acts := acts_begun world profile owner
    obtain ⟨hepisodes, hnotices⟩ :=
      (h world.sessions.length).of_unknown (List.getElem?_eq_none (Nat.le_refl _))
    have hepisodes' := acts.episodesOf
    rw [hepisodes, List.nil_append] at hepisodes'
    refine .ongoing _ ⟨acts.session, rfl, rfl, rfl, ⟨_, [], hepisodes', rfl, rfl⟩, ?_, ?_⟩
    · simp [hepisodes', Deed.ends]
    · rw [acts.noticesOf, hnotices]
      rfl
  | refused _ profile owner cause =>
    obtain ⟨session, hunopened, -⟩ := unopened_refused (h world.sessions.length) profile cause
    exact .unopened session hunopened
  | retried handle permitted found active left =>
    have ongoing := (h handle.owner).of_active found active
    have acts := (acts_fired found).trans (acts_attempted (session?_fired found))
    exact .ongoing _ (ongoing.acts acts active rfl rfl rfl (by simp [Deed.ends]))
  | exhausted handle permitted found active spent =>
    have ongoing := ((h handle.owner).of_active found active).acts (acts_fired found) active rfl
      rfl rfl (by simp)
    exact .concluded _ _ (ongoing.ended (wired.fired (possible permitted) found) _)
  | forced permitted found active =>
    exact .ongoing _ (((h who).of_active found active).acts (acts_attempted found) active rfl rfl
      rfl (by simp [Deed.ends]))
  | abandoned permitted found active =>
    exact .concluded _ _ (((h who).of_active found active).ended (wired.beside who) _)
  | cancelled found active =>
    exact .concluded _ _ (((h who).of_active found active).ended (wired.beside who) _)
  | handed packet found active =>
    exact .ongoing _ (((h who).of_active found active).acts (acts_chronicled found _) active rfl
      rfl rfl (by simp [Deed.ends]))
  | kept data found awaits =>
    exact .ongoing _ (((h who).of_active found awaits.active).admitted data)
  | requested data found awaits =>
    have ongoing := ((h who).of_active found awaits.active).admitted data
    obtain ⟨timer, -, -, acts⟩ := acts_requesting ongoing.found
    exact .ongoing _ (ongoing.acts acts rfl rfl rfl rfl (by simp [Deed.ends]))
  | acknowledged data outcome found awaits _ _ agree publishes =>
    have ongoing := ((h who).of_active found awaits.active).published agree publishes
    have hwired := (wired.settled found data).akin (Act.akin_of_publishes agree publishes)
    exact .concluded _ _ (ongoing.ended (hwired.beside who) _)

theorem Moves.standing (moves : Moves around allowed world after)
    (possible : ∀ {world event}, allowed world event → world.Possible event)
    (wired : world.Wired) (h : ∀ who, world.Standing who) : ∀ who, after.Standing who := by
  induction moves with
  | refl => exact h
  | tail prior step ih =>
    obtain ⟨mover, move⟩ := step
    exact move.standing possible (Moves.wired prior possible wired) ih

/-- In every run, every session goes on or has ended properly. -/
theorem Run.standing {tree : SettingsTree} {network : σ} {events : List (Event τ σ)}
    (run : Run around Possible (start tree network) events world) (who : SessionId) :
    world.Standing who := by
  have wired : (start tree network : World τ σ).Wired := wired_start tree network
  obtain ⟨moves, -⟩ := run.moves id wired
  exact moves.standing id wired (fun _ => .unknown rfl rfl rfl) who

/-- What every move keeps of a session holds of it in every run. -/
theorem Run.keeps {tree : SettingsTree} {network : σ} {events : List (Event τ σ)} {who : SessionId}
    {session : Session τ} {holds : World τ σ → Session τ → Prop}
    (run : Run around Possible (start tree network) events world)
    (found : world.session? who = some session)
    (move : ∀ {world after : World τ σ} {mover : Option SessionId} {next : Session τ},
      Move around Possible mover world after → world.Standing who →
      (∀ session, world.session? who = some session → holds world session) →
      after.session? who = some next → holds after next) : holds world session := by
  have wired : (start tree network : World τ σ).Wired := wired_start tree network
  obtain ⟨moves, -⟩ := run.moves id wired
  clear run
  induction moves generalizing session with
  | refl => simp [session?, World.start] at found
  | tail prior step ih =>
    obtain ⟨mover, step⟩ := step
    have standing := Moves.standing prior id wired (fun _ => .unknown rfl rfl rfl) who
    exact move step standing (fun _ => ih) found

/-! ## After the end -/

/-- An event that concerns a session that is over changes nothing at all. -/
theorem Wired.after_of_over (h : world.Wired) {who : SessionId} {session : Session τ}
    (found : world.session? who = some session) (finished : session.finished = true)
    {event : Event τ σ} (concerns : event.addressee = some who) (possible : world.Possible event) :
    world.after around event = world := by
  have hdeliver (data : Bytes) : (Act.deliver around who data).perform world = (.ok (), world) := by
    rw [Act.deliver, Act.deliverWith, Act.perform_onSession _ found]
    simp [finished]
  cases event with
  | fire handle =>
    obtain ⟨owner, hfound, active, -⟩ := h.exists_active possible
    obtain rfl : handle.owner = who := Option.some_inj.mp concerns
    rw [found, Option.some_inj] at hfound
    simp [← hfound, finished] at active
  | receive known data =>
    obtain rfl : known = who := Option.some_inj.mp concerns
    rw [World.after, Act.receive, Act.passOn, Act.perform_bind_ok _ (Act.perform_get world)]
    split
    · rw [Act.perform_bind_ok _ (hdeliver data)]
      rfl
    · rfl
  | deliver known data =>
    obtain rfl : known = who := Option.some_inj.mp concerns
    rw [World.after, hdeliver data]
  | expire known spent =>
    obtain rfl : known = who := Option.some_inj.mp concerns
    rw [World.after, Act.timerExpired, Act.perform_onSession _ found]
    simp [finished]
  | cancel known =>
    obtain rfl : known = who := Option.some_inj.mp concerns
    rw [World.after, Act.cancel, Act.cancelWith, Act.perform_onSession _ found, Act.finishWith,
      Act.perform_onSession _ found]
    simp [finished]
  | start profile owner => simp [Event.addressee] at concerns
  | tick instant => simp [Event.addressee] at concerns
  | stir network => simp [Event.addressee] at concerns
  | edit edit => simp [Event.addressee] at concerns

/-- As long as no session did anything after an owner was told, the settings tree and the
pending calls are what they were at that moment. -/
def Still (world : World τ σ) : Prop :=
  ∀ told outcome, world.history.getLast? = some told → told.deed = .told outcome →
    world.tree = told.tree ∧ world.loop.pending = told.pending

omit [TimeScale τ] in
theorem still_of_history {prior : List (Episode τ)} {last : Episode τ}
    (history : world.history = prior ++ [last]) (other : ∀ outcome, last.deed ≠ .told outcome) :
    world.Still := by
  intro told outcome hlast hdeed
  rw [history, List.getLast?_concat, Option.some_inj] at hlast
  exact absurd (hlast ▸ hdeed) (other outcome)

omit [TimeScale τ] in
theorem still_ended (world : World τ σ) (who : SessionId) (session : Session τ)
    (outcome : Option Failure) : (world.ended who session outcome).Still := by
  intro told outcome' hlast hdeed
  by_cases howner : session.owner = .absent
  · -- without an owner, the last thing is that the session closed or ended
    cases hattached : session.attached <;>
      simp only [World.ended, closing, howner, hattached, if_true, Bool.false_eq_true, if_false,
        List.append_nil, List.nil_append, ← List.append_assoc, List.getLast?_concat,
        Option.some_inj] at hlast <;>
      simp [← hlast] at hdeed
  · simp only [World.ended, closing, howner, if_false, ← List.append_assoc, List.getLast?_concat,
      Option.some_inj] at hlast
    exact hlast ▸ ⟨rfl, rfl⟩

/-- Nobody but sessions and those who edit the tree could change it. -/
theorem Move.still {mover : Option SessionId} (move : Move around allowed mover world after)
    (unedited : ∀ {world edit}, ¬allowed world (.edit edit)) (h : world.Still) : after.Still := by
  have hlast {known : World τ σ} {who : SessionId} {next : Session τ} {last : Episode τ}
      {outcomes : List (Option Failure)} (acts : known.Acts after who next [last] outcomes)
      (other : ∀ outcome, last.deed ≠ .told outcome) : after.Still :=
    still_of_history acts.history other
  cases move with
  | idle agree =>
    intro told outcome
    rw [agree.history, agree.tree, agree.loop]
    exact h told outcome
  | ticked => exact h
  | edited _ edit permitted => exact absurd permitted unedited
  | begun _ profile owner => exact hlast (acts_begun world profile owner) (by simp)
  | refused _ profile owner cause => exact still_ended _ _ _ _
  | retried handle _ found =>
    exact hlast (acts_attempted (session?_fired found)) (by simp)
  | exhausted handle _ found => exact still_ended _ _ _ _
  | forced _ found => exact hlast (acts_attempted found) (by simp)
  | abandoned _ found => exact still_ended _ _ _ _
  | cancelled found => exact still_ended _ _ _ _
  | handed packet found => exact hlast (acts_chronicled found _) (by simp)
  | kept data found => exact hlast (acts_admitted found data) (by simp)
  | requested data found =>
    obtain ⟨timer, -, -, acts⟩ := acts_requesting (session?_admitted found data)
    exact hlast acts (by simp)
  | acknowledged => exact still_ended _ _ _ _

theorem Moves.still (moves : Moves around allowed world after)
    (unedited : ∀ {world edit}, ¬allowed world (.edit edit)) (h : world.Still) : after.Still := by
  induction moves with
  | refl => exact h
  | tail _ step ih =>
    obtain ⟨mover, move⟩ := step
    exact move.still unedited ih

/-- A session whose connection cannot be opened fails, and no call is pending for it. -/
theorem after_start_of_error (wired : world.Wired) (h : ∀ who, world.Standing who)
    {profile : Profile τ} {cause : SystemError} {network : σ} (owner : Owner)
    (fails : around.link.openFor world.sessions.length profile.device world.loop.now
      world.network = (.error cause, network)) :
    ((Act.start around profile owner).perform world).1 = .error (.system cause) ∧
    ∃ session, (world.after around (.start profile owner)).Unopened world.sessions.length
        session ∧ session.failure = some (.system cause) ∧
      (world.after around (.start profile owner)).loop = world.loop ∧
      world.loop.callsOf world.sessions.length = [] ∧
      (world.after around (.start profile owner)).notices = world.notices := by
  obtain ⟨after, hafter, agree⟩ := Act.perform_start_error (.refl world) owner fails
  obtain ⟨session, hunopened, hfailure⟩ := unopened_refused (h world.sessions.length) profile cause
  have hidle : world.held world.sessions.length = none := by
    rw [held, session?, List.getElem?_eq_none (Nat.le_refl _)]
    rfl
  rw [World.after, hafter]
  refine ⟨rfl, session, hunopened.spares (spares_of_akin agree.akin _), hfailure, agree.loop,
    wired.wiring.callsOf_eq_nil hidle, ?_⟩
  rw [agree.notices]
  exact List.append_nil _

/-! ## The moment of ending -/

/-- A session was shut down: it is over, waits for nothing and has no connection any more, which
was detached and then closed. -/
structure ShutDown (around : Surroundings τ σ) (world shut : World τ σ) (who : SessionId)
    (session ended : Session τ) (outcome : Option Failure) : Prop where
  found : shut.session? who = some ended
  finished : ended.finished = true
  failure : ended.failure = outcome
  outcome : outcome = none ↔ ended.phase = .succeeded
  attached : ended.attached = false
  idle : ended.timer.handle = none
  network : shut.network = if session.attached then
    around.link.close who (around.link.detach who world.network) else world.network

/-- An active session that ends is shut down before its owner is told, whatever the owner does
in return. -/
theorem exists_shutDown (around : Surroundings τ σ) {who : SessionId} {session : Session τ}
    (found : world.session? who = some session) (active : session.finished = false)
    (outcome : Option Failure) :
    ∃ shut ended, world.ShutDown around shut who session ended outcome ∧
      ∀ react, (Act.finishWith around react who outcome).perform world =
        (Act.tellOwner react who session.owner outcome).perform shut := by
  obtain ⟨shut, hshut, agree, network⟩ := Act.perform_shutDown around outcome found
  have hfound := (agree.session? who).trans (session?_put found)
  refine ⟨shut, _, ⟨hfound, ?_, rfl, ?_, rfl, RetryTimer.handle_stop _ _, network⟩, fun react => ?_⟩
  · cases outcome <;> rfl
  · cases outcome <;> simp [Session.ended]
  · rw [Act.finishWith, Act.perform_onSession _ found, if_neg (by simp [active]),
      Act.perform_bind_ok _ hshut]

/-- In every run, a session that goes on has told its owner nothing, and one that ended has
told it once, after it detached and closed its connection, with `none` exactly on success
and otherwise with the failure that it keeps.  From then on no event that concerns the
session changes anything, and no event at all changes the session, what it sent or its
pending calls; the settings tree, too, is what it was unless somebody else works on it.
A session whose connection cannot be opened fails, waits for nothing and tells nobody.

At any moment, a session that ends is over, idle and without its connection before its owner is
told, and the network is as it is after the connection was detached and then closed.  A network
that keeps a record of the calls made to it has recorded just the calls that the history tells:
none that detaches or closes the connection of a session that goes on, and each of them once, in
this order and at the end, for one that ended, for which no call is ever made again. -/
theorem Run.tells_owner_once {tree : SettingsTree} {network : σ} {events : List (Event τ σ)}
    (run : Run around Possible (start tree network) events world) :
    (∀ who session, world.session? who = some session → session.finished = false →
      world.Ongoing who session) ∧
    (∀ who session, world.session? who = some session → session.finished = true →
      (world.Unopened who session ∨ ∃ owner, world.Concluded who session owner) ∧
      world.loop.callsOf who = [] ∧
      (∀ event : Event τ σ, event.addressee = some who → world.Possible event →
        world.after around event = world) ∧
      ∀ later further, Run around Possible world further later →
        world.Spares later who ∧ later.loop.callsOf who = [] ∧
        ∃ replayed, Replays around tree network (events ++ further) later replayed ∧
          replayed.network.callsOf who =
            (world.episodesOf who).filterMap fun episode => episode.deed.call?) ∧
    ((∀ event ∈ events, ∀ edit, event ≠ .edit edit) → world.Still) ∧
    (∀ profile owner cause network, around.link.openFor world.sessions.length profile.device
        world.loop.now world.network = (.error cause, network) →
      ((Act.start around profile owner).perform world).1 = .error (.system cause) ∧
      ∃ session, (world.after around (.start profile owner)).Unopened world.sessions.length
          session ∧ session.failure = some (.system cause) ∧
        (world.after around (.start profile owner)).loop = world.loop ∧
        world.loop.callsOf world.sessions.length = [] ∧
        (world.after around (.start profile owner)).notices = world.notices) ∧
    (∀ (moment : World τ σ) who session outcome, moment.session? who = some session →
      session.finished = false →
      ∃ shut ended, moment.ShutDown around shut who session ended outcome ∧
        ∀ react, (Act.finishWith around react who outcome).perform moment =
          (Act.tellOwner react who session.owner outcome).perform shut) ∧
    ∃ replayed, Replays around tree network events world replayed ∧
      ∀ who, world.Connected who (replayed.network.callsOf who) := by
  have hstart : (start tree network : World τ σ).Wired := wired_start tree network
  have hunknown (who : SessionId) : (start tree network : World τ σ).Standing who :=
    .unknown rfl rfl rfl
  obtain ⟨moves, wired⟩ := run.moves id hstart
  have standing := moves.standing id hstart hunknown
  refine ⟨fun who session found active => (standing who).of_active found active,
    fun who session found finished => ⟨(standing who).of_over found finished,
      wired.callsOf_eq_nil found finished, fun event concerns possible =>
        wired.after_of_over found finished concerns possible, fun later further next => ?_⟩, ?_, ?_,
    fun moment who session outcome found active => exists_shutDown around found active outcome,
    world.recorded, run.replays, fun who => ?_⟩
  · obtain ⟨moves, wired⟩ := next.moves id wired
    have spares := moves.spares found finished
    exact ⟨spares, wired.callsOf_eq_nil (spares.session.trans found) finished, later.recorded,
      (run.trans next).replays, by rw [callsOf_recorded, spares.episodes]⟩
  · intro unedited
    have hrun := run.restrict unedited
    obtain ⟨moves, -⟩ := hrun.moves And.left hstart
    exact moves.still (fun permitted => permitted.2 _ rfl) (by simp [Still, World.start])
  · intro profile owner cause network fails
    exact after_start_of_error wired standing owner fails
  · rw [callsOf_recorded]
    exact world.connected_told who

/-- A session that is cancelled before its first attempt. -/
theorem told_once_after_cancel :
    ∃ (world : World Int Script) (session : Session Int) (replayed : World Int (Recording Script)),
      Run Script.around Possible (start .empty {})
        [.start (Profile.plain 7 0) .watching, .cancel 0] world ∧
      world.session? 0 = some session ∧ session.phase = .failed ∧
      session.failure = some (.cancelled "net0") ∧
      world.noticesOf 0 = [some (.cancelled "net0")] ∧
      (world.Unopened 0 session ∨ ∃ owner, world.Concluded 0 session owner) ∧
      Replays Script.around .empty {} [.start (Profile.plain 7 0) .watching, .cancel 0] world
        replayed ∧
      replayed.network.callsOf 0 = [.opened, .detached, .closed] := by
  have run : Run Script.around Possible (start .empty {})
      ([] ++ [.start (Profile.plain 7 0) .watching] ++ [.cancel 0]) _ :=
    .step (.step .rest _ trivial) _ trivial
  have found : (World.after Script.around (World.after Script.around (start .empty {})
      (.start (Profile.plain 7 0) .watching)) (.cancel 0)).session? 0 = some _ := rfl
  obtain ⟨-, ends, -, -, -, replayed, replays, connected⟩ := run.tells_owner_once
  exact ⟨_, _, replayed, run, found, rfl, rfl, rfl, (ends 0 _ found rfl).1, replays,
    (connected 0).told⟩

end World
end NetBoot
