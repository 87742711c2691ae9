/-
# What actions do to a world

Performing an action is read off its parts: one rule for each way of putting actions
together, and one for each basic action.  A basic action on a session is described
for a session that exists, by the record that the session then has.

Much of what the basic actions change matters to no law about sessions.  `Agree` says
that two worlds differ at most in the network, the log and what owners were told, and
`Carries` follows an action from worlds that agree to worlds that agree.
-/
import NetBoot.Session.Machine
import Mathlib.Data.List.Basic

namespace NetBoot

variable {τ σ α β : Type}

namespace World

/-- The world with another record of a session. -/
def put (world : World τ σ) (who : SessionId) (session : Session τ) : World τ σ :=
  { world with sessions := world.sessions.set who session }

/-- The world with one more episode of a session in its history. -/
def chronicled (world : World τ σ) (who : SessionId) (deed : Deed) (session : Session τ) :
    World τ σ :=
  { world with
    history := world.history ++
      [⟨who, deed, session, world.tree, world.loop.pending, world.loop.now⟩] }

/-- The world after the owner of a session took note of its outcome. -/
def notified (world : World τ σ) (who : SessionId) (outcome : Option Failure)
    (session : Session τ) : World τ σ :=
  { world.chronicled who (.told outcome) session with
    notices := world.notices ++ [(who, outcome)] }

/-- The world after something was done with the timer of a session. -/
def tuned (world : World τ σ) (who : SessionId) (session : Session τ)
    (change : RetryTimer τ → EventLoop τ SessionId → RetryTimer τ × EventLoop τ SessionId) :
    World τ σ :=
  { world.put who { session with timer := (change session.timer world.loop).1 } with
    loop := (change session.timer world.loop).2 }

/-- The worlds have the same sessions, loop, settings and history, and owners were told
the same. -/
structure Agree (first second : World τ σ) : Prop where
  sessions : first.sessions = second.sessions
  loop : first.loop = second.loop
  tree : first.tree = second.tree
  replacements : first.replacements = second.replacements
  notices : first.notices = second.notices
  history : first.history = second.history

namespace Agree

variable {first second third : World τ σ}

@[refl]
theorem refl (world : World τ σ) : world.Agree world := ⟨rfl, rfl, rfl, rfl, rfl, rfl⟩

theorem trans (h : first.Agree second) (h' : second.Agree third) : first.Agree third :=
  ⟨h.sessions.trans h'.sessions, h.loop.trans h'.loop, h.tree.trans h'.tree,
    h.replacements.trans h'.replacements, h.notices.trans h'.notices, h.history.trans h'.history⟩

theorem session? (h : first.Agree second) (who : SessionId) :
    first.session? who = second.session? who := by
  rw [World.session?, World.session?, h.sessions]

theorem reply (h : first.Agree second) (block : BlockId) :
    first.reply block = second.reply block := by
  rw [World.reply, World.reply, World.reply?, World.reply?, h.tree]

/-- The network may be any. -/
theorem withNetwork (h : first.Agree second) (network : σ) :
    { first with network }.Agree second :=
  ⟨h.sessions, h.loop, h.tree, h.replacements, h.notices, h.history⟩

theorem put (h : first.Agree second) (who : SessionId) (session : Session τ) :
    (first.put who session).Agree (second.put who session) :=
  ⟨congrArg (·.set who session) h.sessions, h.loop, h.tree, h.replacements, h.notices,
    h.history⟩

theorem chronicled (h : first.Agree second) (who : SessionId) (deed : Deed)
    (session : Session τ) :
    (first.chronicled who deed session).Agree (second.chronicled who deed session) := by
  refine ⟨h.sessions, h.loop, h.tree, h.replacements, h.notices, ?_⟩
  simp only [World.chronicled, h.history, h.tree, h.loop]

theorem tuned (h : first.Agree second) (who : SessionId) (session : Session τ)
    (change : RetryTimer τ → EventLoop τ SessionId → RetryTimer τ × EventLoop τ SessionId) :
    (first.tuned who session change).Agree (second.tuned who session change) := by
  simp only [World.tuned, h.loop]
  exact ⟨(h.put who _).sessions, rfl, h.tree, h.replacements, h.notices, h.history⟩

end Agree

section

variable {world : World τ σ} {who other : SessionId} {session found : Session τ}

theorem lt_of_session? (h : world.session? who = some session) : who < world.sessions.length :=
  (List.getElem?_eq_some_iff.mp h).1

theorem session?_put (h : world.session? who = some found) :
    (world.put who session).session? who = some session := by
  simp [World.session?, put, lt_of_session? h]

theorem session?_put_of_ne (h : other ≠ who) :
    (world.put who session).session? other = world.session? other := by
  simp [World.session?, put, List.getElem?_set_ne h.symm]

theorem put_self (h : world.session? who = some session) : world.put who session = world := by
  obtain ⟨hlt, rfl⟩ := List.getElem?_eq_some_iff.mp h
  simp [put]

theorem session?_tuned (h : world.session? who = some session)
    (change : RetryTimer τ → EventLoop τ SessionId → RetryTimer τ × EventLoop τ SessionId) :
    (world.tuned who session change).session? who =
      some { session with timer := (change session.timer world.loop).1 } :=
  session?_put h

@[simp]
theorem put_put (world : World τ σ) (who : SessionId) (first second : Session τ) :
    (world.put who first).put who second = world.put who second := by
  simp [put]

end

end World

namespace Act

/-! ## Putting actions together -/

@[simp]
theorem perform_pure (value : α) (world : World τ σ) :
    perform (pure value : Act τ σ α) world = (.ok value, world) := rfl

@[simp]
theorem perform_throw (fault : Fault) (world : World τ σ) :
    perform (throw fault : Act τ σ α) world = (.error fault, world) := rfl

@[simp]
theorem perform_get (world : World τ σ) :
    perform (get : Act τ σ (World τ σ)) world = (.ok world, world) := rfl

@[simp]
theorem perform_set (world other : World τ σ) :
    perform (set other : Act τ σ PUnit) world = (.ok ⟨⟩, other) := rfl

@[simp]
theorem perform_modify (change : World τ σ → World τ σ) (world : World τ σ) :
    perform (modify change : Act τ σ PUnit) world = (.ok ⟨⟩, change world) := rfl

@[simp]
theorem perform_report (event : LogEvent τ) (world : World τ σ) :
    perform (report event : Act τ σ Unit) world =
      (.ok (), { world with log := world.log ++ [event] }) := rfl

theorem perform_askNetwork (run : σ → α × σ) (world : World τ σ) :
    perform (askNetwork run : Act τ σ α) world =
      (.ok (run world.network).1, { world with network := (run world.network).2 }) := rfl

/-- An action that follows another one starts where that one stopped, unless it
stopped with a fault. -/
theorem perform_bind (act : Act τ σ α) (next : α → Act τ σ β) (world : World τ σ) :
    (act >>= next).perform world =
      match act.perform world with
      | (.ok value, after) => (next value).perform after
      | (.error fault, after) => (.error fault, after) := by
  simp only [perform, ExceptT.run, StateT.run, bind, ExceptT.bind, ExceptT.mk, StateT.bind]
  rcases act world with ⟨outcome, after⟩
  cases outcome <;> rfl

/-- The changes made before a fault stay when the fault is handled. -/
theorem perform_tryCatch (act : Act τ σ α) (handler : Fault → Act τ σ α) (world : World τ σ) :
    (tryCatch act handler).perform world =
      match act.perform world with
      | (.ok value, after) => (.ok value, after)
      | (.error fault, after) => (handler fault).perform after := by
  simp only [perform, tryCatch, tryCatchThe, MonadExceptOf.tryCatch, ExceptT.tryCatch,
    ExceptT.run, StateT.run, ExceptT.mk, bind, StateT.bind]
  rcases act world with ⟨outcome, after⟩
  cases outcome <;> rfl

/-- After an action that ended well the next one goes on. -/
theorem perform_bind_ok {act : Act τ σ α} {value : α} {world after : World τ σ}
    (next : α → Act τ σ β) (h : act.perform world = (.ok value, after)) :
    (act >>= next).perform world = (next value).perform after := by
  rw [perform_bind, h]

/-- The action takes the worlds that agree with one world to worlds that agree with
another one, and lets no fault through. -/
def Carries (act : Act τ σ Unit) (first second : World τ σ) : Prop :=
  ∀ world, world.Agree first →
    ∃ after, act.perform world = (.ok (), after) ∧ after.Agree second

namespace Carries

variable {act : Act τ σ Unit} {first second third : World τ σ}

theorem bind {next : Unit → Act τ σ Unit} (h : act.Carries first second)
    (hnext : (next ()).Carries second third) : (act >>= next).Carries first third := by
  intro world agree
  obtain ⟨middle, hmiddle, agree⟩ := h world agree
  obtain ⟨after, hafter, agree⟩ := hnext middle agree
  exact ⟨after, by rw [perform_bind_ok next hmiddle, hafter], agree⟩

theorem pure (world : World τ σ) : (Pure.pure () : Act τ σ Unit).Carries world world :=
  fun other agree => ⟨other, rfl, agree⟩

/-- Reading the world tells an action only what all agreeing worlds agree on. -/
theorem get_bind {next : World τ σ → Act τ σ Unit}
    (h : ∀ world : World τ σ, world.Agree first → (next world).Carries first second) :
    ((get : Act τ σ (World τ σ)) >>= next).Carries first second := by
  intro world agree
  rw [perform_bind_ok next (perform_get world)]
  exact h world agree world agree

end Carries

/-! ## Basic actions -/

section

variable {world : World τ σ} {who : SessionId} {session found : Session τ}

theorem perform_onSession (act : Session τ → Act τ σ Unit)
    (h : world.session? who = some session) :
    (onSession who act).perform world = (act session).perform world := by
  rw [onSession, perform_bind_ok _ (perform_get world)]
  simp only [h]

theorem perform_onSession_none (act : Session τ → Act τ σ Unit)
    (h : world.session? who = none) :
    (onSession who act).perform world = (.ok (), world) := by
  rw [onSession, perform_bind_ok _ (perform_get world)]
  simp only [h, perform_pure]

theorem carries_onSession {act : Session τ → Act τ σ Unit} {second : World τ σ}
    (h : world.session? who = some session) (hact : (act session).Carries world second) :
    (onSession who act).Carries world second := by
  intro other agree
  rw [perform_onSession act ((agree.session? who).trans h)]
  exact hact other agree

theorem perform_update (change : Session τ → Session τ)
    (h : world.session? who = some session) :
    (update who change : Act τ σ Unit).perform world =
      (.ok (), world.put who (change session)) := by
  obtain ⟨hlt, hsession⟩ := List.getElem?_eq_some_iff.mp h
  have hset : world.sessions.modify who change = world.sessions.set who (change session) := by
    rw [← hsession]
    exact List.modify_eq_set_get change hlt
  rw [update, perform_modify, hset]
  rfl

theorem carries_update (change : Session τ → Session τ)
    (h : world.session? who = some session) :
    (update who change : Act τ σ Unit).Carries world (world.put who (change session)) :=
  fun _ agree => ⟨_, perform_update change ((agree.session? who).trans h),
    agree.put who (change session)⟩

theorem perform_mark (deed : Deed) (h : world.session? who = some session) :
    (mark who deed : Act τ σ Unit).perform world =
      (.ok (), world.chronicled who deed session) := by
  rw [mark, perform_onSession _ h]
  rfl

theorem carries_mark (deed : Deed) (h : world.session? who = some session) :
    (mark who deed : Act τ σ Unit).Carries world (world.chronicled who deed session) :=
  fun _ agree => ⟨_, perform_mark deed ((agree.session? who).trans h),
    agree.chronicled who deed session⟩

theorem perform_withTimer
    (change : RetryTimer τ → EventLoop τ SessionId → RetryTimer τ × EventLoop τ SessionId)
    (h : world.session? who = some session) :
    (withTimer who change : Act τ σ Unit).perform world =
      (.ok (), world.tuned who session change) := by
  rw [withTimer, perform_onSession _ h, perform_bind_ok _ (perform_get world)]
  let moved : World τ σ := { world with loop := (change session.timer world.loop).2 }
  exact (perform_bind_ok _ (perform_modify _ world)).trans
    (perform_update _ (show moved.session? who = some session from h))

theorem carries_withTimer
    (change : RetryTimer τ → EventLoop τ SessionId → RetryTimer τ × EventLoop τ SessionId)
    (h : world.session? who = some session) :
    (withTimer who change : Act τ σ Unit).Carries world (world.tuned who session change) :=
  fun _ agree => ⟨_, perform_withTimer change ((agree.session? who).trans h),
    agree.tuned who session change⟩

theorem carries_report (event : LogEvent τ) (world : World τ σ) :
    (report event : Act τ σ Unit).Carries world world :=
  fun other agree => ⟨_, perform_modify _ other,
    agree.sessions, agree.loop, agree.tree, agree.replacements, agree.notices, agree.history⟩

theorem perform_callLink (deed : Deed) (run : σ → α × σ)
    (h : world.session? who = some session) :
    (callLink who deed run : Act τ σ α).perform world = (.ok (run world.network).1,
      { world.chronicled who deed session with network := (run world.network).2 }) := by
  rw [callLink, perform_bind_ok _ (perform_mark deed h)]
  rfl

theorem carries_notify (outcome : Option Failure) (h : world.session? who = some session) :
    (notify who outcome : Act τ σ Unit).Carries world (world.notified who outcome session) := by
  let noted : World τ σ := { world with notices := world.notices ++ [(who, outcome)] }
  have hnote : (modify fun other => { other with notices := other.notices ++ [(who, outcome)] } :
      Act τ σ PUnit).Carries world noted := fun other agree => ⟨_, perform_modify _ other,
    agree.sessions, agree.loop, agree.tree, agree.replacements,
    congrArg (· ++ [(who, outcome)]) agree.notices, agree.history⟩
  exact Carries.bind hnote (carries_mark _ h)

end

/-! ## Actions that leave sessions alone -/

/-- The action leaves sessions, loop, settings and history alone. -/
def Idle (act : Act τ σ α) : Prop := ∀ start, (act.perform start).2.Agree start

theorem idle_pure (value : α) : (pure value : Act τ σ α).Idle := fun start => .refl start

theorem idle_throw (fault : Fault) : (throw fault : Act τ σ α).Idle := fun start => .refl start

theorem idle_report (event : LogEvent τ) : (report event : Act τ σ Unit).Idle :=
  fun _ => ⟨rfl, rfl, rfl, rfl, rfl, rfl⟩

theorem idle_askNetwork (run : σ → α × σ) : (askNetwork run : Act τ σ α).Idle :=
  fun _ => ⟨rfl, rfl, rfl, rfl, rfl, rfl⟩

theorem idle_ofOutcome (outcome : Except Fault α) : (ofOutcome outcome : Act τ σ α).Idle := by
  cases outcome with
  | ok value => exact idle_pure value
  | error fault => exact idle_throw fault

theorem idle_buildPacket (session : Session τ) (buffer : Bytes) :
    (buildPacket session buffer : Act τ σ Packet).Idle := by
  intro start
  rw [buildPacket, perform_bind_ok _ (perform_get start)]
  dsimp only
  split
  · exact ⟨rfl, rfl, rfl, rfl, rfl, rfl⟩
  · exact idle_throw _ start

end Act
end NetBoot
