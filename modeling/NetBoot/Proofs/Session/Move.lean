/-
# The moves of sessions

One event can take a session through several phases, because datagrams come in during
a send and an owner may cancel while it is told the outcome.  This module names the
moves that such an event is made of: at each of them a session is given a record, the
loop its pending calls, and the history its entries, all at once.

Between two moves every session is at rest.  So a law that each move keeps holds after
every event, however deep its sends were nested and whichever fault ended it.
-/
import NetBoot.Proofs.Session.Action
import NetBoot.Proofs.Session.Run
import Mathlib.Logic.Relation

namespace NetBoot

variable {τ σ : Type}

/-- The record of a session that is over. -/
def Session.ended (session : Session τ) (outcome : Option Failure) : Session τ :=
  { session with
    owner := .absent
    attached := false
    phase := if outcome.isSome then .failed else .succeeded
    failure := outcome }

/-- A session waits for a datagram: it is active, and the datagram is a packet of its
exchange and of the type that its phase waits for. -/
structure Session.Awaits (session : Session τ) (data : Bytes) : Prop where
  active : session.finished = false
  valid : (Packet.ofBytes data).isValid = true
  xid : ((Packet.ofBytes data).word .xid).toOption.getD 0 = session.xid
  kind : (Packet.ofBytes data).messageType = session.phase.awaited.number

/-- What a session waits for has a full header with the magic word. -/
theorem Session.Awaits.header {session : Session τ} {data : Bytes} (awaits : session.Awaits data) :
    Header.length ≤ data.length ∧ Header.readWord? data .magic = some Header.cookie := by
  have valid := awaits.valid
  simp only [Packet.isValid, Bool.and_eq_true, decide_eq_true_eq, beq_iff_eq] at valid
  exact ⟨valid.1.2, valid.2⟩

/-- What a session waits for carries the number of its exchange. -/
theorem Session.Awaits.readWord?_xid {session : Session τ} {data : Bytes}
    (awaits : session.Awaits data) : Header.readWord? data .xid = some session.xid := by
  have hwithin : Header.within data .xid = true := by
    simp only [Header.within, decide_eq_true_eq]
    exact Nat.le_trans (by decide) awaits.header.1
  have hxid := awaits.xid
  rw [Packet.word] at hxid
  cases hread : Header.readWord? data .xid with
  | none => simp [Header.readWord?, hwithin] at hread
  | some value =>
    rw [show Header.readWord? (Packet.ofBytes data).buffer .xid = some value from hread] at hxid
    exact congrArg some hxid

/-- Is a packet what a session puts together for its phase, in some buffer, out of its
profile and the offer that it holds in the settings tree? -/
def Session.Builds (session : Session τ) (tree : SettingsTree) (packet : Bytes) : Prop :=
  ∃ buffer built, Request.build session.profile.device session.profile.template
    session.profile.uuid (session.offer.map fun block => tree.fetchAt block) buffer = .ok built ∧
    built.encode = packet

namespace World

/-- What a session that ends enters into the history. -/
def closing (world : World τ σ) (who : SessionId) (session : Session τ)
    (outcome : Option Failure) : List (Episode τ) :=
  let apart : Session τ := { session with owner := .absent, attached := false }
  let idle := session.timer.stop world.loop
  let done : Session τ := { session.ended outcome with timer := idle.1 }
  (if session.attached then
    [⟨who, .detached, apart, world.tree, world.loop.pending, world.loop.now⟩] else []) ++
  [⟨who, .ended outcome, session.ended outcome, world.tree, world.loop.pending, world.loop.now⟩] ++
  (if session.attached then
    [⟨who, .closed, done, world.tree, idle.2.pending, idle.2.now⟩] else []) ++
  (if session.owner = .absent then [] else
    [⟨who, .told outcome, done, world.tree, idle.2.pending, idle.2.now⟩])

/-- The world after a session ended. -/
def ended (world : World τ σ) (who : SessionId) (session : Session τ)
    (outcome : Option Failure) : World τ σ :=
  { world.put who { session.ended outcome with timer := (session.timer.stop world.loop).1 } with
    loop := (session.timer.stop world.loop).2
    notices := world.notices ++ (if session.owner = .absent then [] else [(who, outcome)])
    history := world.history ++ world.closing who session outcome }

theorem session?_ended {world : World τ σ} {who : SessionId} {session : Session τ}
    (h : world.session? who = some session) (outcome : Option Failure) :
    (world.ended who session outcome).session? who =
      some { session.ended outcome with timer := (session.timer.stop world.loop).1 } :=
  session?_put h

/-- A session ends in the same way in agreeing worlds. -/
theorem Agree.ended {first second : World τ σ} (h : first.Agree second) (who : SessionId)
    (session : Session τ) (outcome : Option Failure) :
    (first.ended who session outcome).Agree (second.ended who session outcome) := by
  simp only [World.ended, closing, h.loop, h.tree, h.notices, h.history]
  exact ⟨(h.put who _).sessions, rfl, h.tree, h.replacements, rfl, rfl⟩

/-- The world with a block made of a datagram. -/
def grown (world : World τ σ) (data : Bytes) : World τ σ :=
  { world with tree := (world.tree.add (.ofReply data Block.replyName)).1 }

/-- The priority that a reply must reach to take the place of the one held. -/
def rank (world : World τ σ) (session : Session τ) (data : Bytes) : Nat :=
  let held := if (Packet.ofBytes data).isProxyReply then session.proxy else session.response
  (held.map fun block => ((world.grown data).reply block).priority).getD 0

/-- The record of a session that accepted a datagram: it keeps the reply if its
priority is not lower than that of the one held. -/
def keeping (world : World τ σ) (session : Session τ) (data : Bytes) : Session τ :=
  if world.rank session data ≤ (Packet.ofBytes data).priority then
    if (Packet.ofBytes data).isProxyReply then
      { session with proxy := some world.tree.blocks.length }
    else { session with response := some world.tree.blocks.length }
  else session

/-- The record of a session that an acknowledgement completes: it holds that reply,
and no proxy reply if the server does not want one. -/
def settling (world : World τ σ) (session : Session τ) (data : Bytes) : Session τ :=
  { world.keeping session data with
    response := some world.tree.blocks.length
    proxy := if (Packet.ofBytes data).refusesProxy then none
      else (world.keeping session data).proxy }

/-- The world after a session accepted a datagram. -/
def admitted (world : World τ σ) (who : SessionId) (session : Session τ) (data : Bytes) :
    World τ σ :=
  ((world.grown data).chronicled who (.accepted data world.tree.blocks.length) session).put who
    (world.keeping session data)

/-- The world after a session accepted the acknowledgement that completes it. -/
def settled (world : World τ σ) (who : SessionId) (session : Session τ) (data : Bytes) :
    World τ σ :=
  (world.admitted who session data).put who (world.settling session data)

/-- A session that accepts a datagram changes nothing but the replies it holds. -/
theorem keeping_eq (world : World τ σ) (session : Session τ) (data : Bytes) :
    ∃ response proxy, world.keeping session data = { session with response, proxy } := by
  rw [keeping]
  split
  · split
    · exact ⟨session.response, _, rfl⟩
    · exact ⟨_, session.proxy, rfl⟩
  · exact ⟨session.response, session.proxy, rfl⟩

theorem settling_eq (world : World τ σ) (session : Session τ) (data : Bytes) :
    ∃ proxy, world.settling session data =
      { session with response := some world.tree.blocks.length, proxy } := by
  obtain ⟨response, proxy, hkeeping⟩ := world.keeping_eq session data
  exact ⟨_, by rw [settling, hkeeping]⟩

theorem reply_grown (world : World τ σ) (data : Bytes) :
    (world.grown data).reply world.tree.blocks.length = Packet.ofBytes data := by
  rw [World.reply, World.reply?, World.grown, SettingsTree.block?_add_self]
  rfl

theorem session?_admitted {world : World τ σ} {who : SessionId} {session : Session τ}
    (h : world.session? who = some session) (data : Bytes) :
    (world.admitted who session data).session? who = some (world.keeping session data) :=
  session?_put h

theorem session?_settled {world : World τ σ} {who : SessionId} {session : Session τ}
    (h : world.session? who = some session) (data : Bytes) :
    (world.settled who session data).session? who = some (world.settling session data) :=
  session?_put (session?_admitted h data)

/-- The world with a session that has no connection yet. -/
def joined (world : World τ σ) (profile : Profile τ) (owner : Owner) : World τ σ :=
  { world with sessions := world.sessions ++ [.ofProfile profile owner world.loop.now] }

theorem session?_joined (world : World τ σ) (profile : Profile τ) (owner : Owner) :
    (world.joined profile owner).session? world.sessions.length =
      some (.ofProfile profile owner world.loop.now) := by
  simp [World.session?, joined]

/-- The world with a new session, after its start was reported and the network was asked for a
connection. -/
def joining (world : World τ σ) (profile : Profile τ) (owner : Owner) (network : σ) : World τ σ :=
  { world.joined profile owner with
    log := world.log ++ [.starting profile.device.name profile.device.addressText
      profile.device.transaction]
    network }

theorem Agree.joining {first second : World τ σ} (h : first.Agree second) (profile : Profile τ)
    (owner : Owner) (network : σ) :
    (first.joining profile owner network).Agree (second.joined profile owner) := by
  refine ⟨?_, h.loop, h.tree, h.replacements, h.notices, h.history⟩
  simp only [World.joining, World.joined, h.sessions, h.loop]

theorem session?_joined_of_ne {world : World τ σ} {who : SessionId}
    (h : who ≠ world.sessions.length) (profile : Profile τ) (owner : Owner) :
    (world.joined profile owner).session? who = world.session? who := by
  rcases Nat.lt_or_gt_of_ne h with hlt | hgt
  · exact List.getElem?_append_left hlt
  · rw [World.session?, World.session?, joined, List.getElem?_eq_none (Nat.le_of_lt hgt),
      List.getElem?_eq_none]
    rw [List.length_append]
    exact hgt

variable [TimeScale τ]

/-- The world after a pending call of a session came. -/
def fired (world : World τ σ) (handle : Handle τ SessionId) (session : Session τ) : World τ σ :=
  { world.put handle.owner { session with timer := session.timer.fired } with
    loop := world.loop.take handle }

/-- The world after a session began an attempt. -/
def attempted (world : World τ σ) (who : SessionId) (session : Session τ) : World τ σ :=
  (world.tuned who session fun timer loop => timer.start loop who).chronicled who .attempted
    { session with timer := (session.timer.start world.loop who).1 }

/-- The world after a session began to request an offer. -/
def requesting (world : World τ σ) (who : SessionId) (session : Session τ) : World τ σ :=
  let idle : Session τ :=
    { session with phase := .requesting, timer := (session.timer.stop world.loop).1 }
  ((world.tuned who session fun timer loop => timer.stop loop).put who idle).attempted who idle

/-- The world after a session opened its connection and armed its timer. -/
def begun (world : World τ σ) (profile : Profile τ) (owner : Owner) : World τ σ :=
  let who := world.sessions.length
  let session : Session τ :=
    { Session.ofProfile profile owner world.loop.now with attached := true }
  (((world.joined profile owner).put who session).chronicled who .opened session).tuned who
    session fun timer loop => timer.startNow loop who

theorem session?_fired {world : World τ σ} {handle : Handle τ SessionId} {session : Session τ}
    (h : world.session? handle.owner = some session) :
    (world.fired handle session).session? handle.owner =
      some { session with timer := session.timer.fired } :=
  session?_put h

theorem session?_attempted {world : World τ σ} {who : SessionId} {session : Session τ}
    (h : world.session? who = some session) :
    (world.attempted who session).session? who =
      some { session with timer := (session.timer.start world.loop who).1 } :=
  session?_put h

theorem session?_begun (world : World τ σ) (profile : Profile τ) (owner : Owner) :
    (world.begun profile owner).session? world.sessions.length =
      some { Session.ofProfile profile owner world.loop.now with
        attached := true
        timer := ((RetryTimer.ofPolicy profile.retry).startNow world.loop
          world.sessions.length).1 } := by
  let who := world.sessions.length
  let session : Session τ :=
    { Session.ofProfile profile owner world.loop.now with attached := true }
  have hopened : (((world.joined profile owner).put who session).chronicled who .opened
      session).session? who = some session := session?_put (world.session?_joined profile owner)
  exact session?_tuned hopened _

/-- The world after the connection of a new session could not be opened. -/
def refused (world : World τ σ) (profile : Profile τ) (cause : SystemError) : World τ σ :=
  (world.joined profile .absent).ended world.sessions.length
    (.ofProfile profile .absent world.loop.now) (some (.system cause))

/-- How a session ends when its replies were registered or not. -/
def registrationFailure : Except SettingsTree.Error Unit → Option Failure
  | .ok _ => none
  | .error cause => some (.registration cause)

/-- Does a discovering session that accepts a datagram go on to request the reply that
it holds then?  It does so if that reply refuses proxy offers or the wait for them is
over. -/
def Ready (world : World τ σ) (session : Session τ) (data : Bytes) (held : BlockId) : Prop :=
  (world.keeping session data).response = some held ∧
    (TimeScale.le (world.elapsed session) TimeScale.second = false ∨
      ((world.grown data).reply held).refusesProxy = true)

/-- A move of one session, or of the world around the sessions.  A move that an event
begins with is made only where that event is allowed. -/
inductive Move (around : Surroundings τ σ) (allowed : World τ σ → Event τ σ → Prop) :
    Option SessionId → World τ σ → World τ σ → Prop
  /-- Nothing that matters to sessions changes. -/
  | idle {world after : World τ σ} (agree : after.Agree world) :
      Move around allowed none world after
  /-- The clock shows another instant. -/
  | ticked (world : World τ σ) (instant : τ) :
      Move around allowed none world { world with loop := world.loop.moveTo instant }
  /-- Somebody else works on the settings tree. -/
  | edited (world : World τ σ) (edit : SettingsTree.Edit)
      (permitted : allowed world (.edit edit)) :
      Move around allowed none world { world with tree := edit.apply world.tree }
  /-- A session starts. -/
  | begun (world : World τ σ) (profile : Profile τ) (owner : Owner)
      (permitted : allowed world (.start profile owner)) :
      Move around allowed (some world.sessions.length) world (world.begun profile owner)
  /-- A session fails because its connection cannot be opened. -/
  | refused (world : World τ σ) (profile : Profile τ) (owner : Owner) (cause : SystemError)
      (permitted : allowed world (.start profile owner)) :
      Move around allowed (some world.sessions.length) world (world.refused profile cause)
  /-- A pending call comes, and attempts are left. -/
  | retried {world : World τ σ} (handle : Handle τ SessionId) {session : Session τ}
      (permitted : allowed world (.fire handle))
      (found : world.session? handle.owner = some session) (active : session.finished = false)
      (left : session.timer.spent = false) :
      Move around allowed (some handle.owner) world
        ((world.fired handle session).attempted handle.owner
          { session with timer := session.timer.fired })
  /-- A pending call comes, and the attempts are used up. -/
  | exhausted {world : World τ σ} (handle : Handle τ SessionId) {session : Session τ}
      (permitted : allowed world (.fire handle))
      (found : world.session? handle.owner = some session) (active : session.finished = false)
      (spent : session.timer.spent = true) :
      Move around allowed (some handle.owner) world
        ((world.fired handle session).ended handle.owner
          { session with timer := session.timer.fired }
          (some (.timeout session.device session.timer.attempts)))
  /-- A session is told to make another attempt. -/
  | forced {world : World τ σ} {who : SessionId} {session : Session τ}
      (permitted : allowed world (.expire who false))
      (found : world.session? who = some session) (active : session.finished = false) :
      Move around allowed (some who) world (world.attempted who session)
  /-- A session is told that its attempts are used up. -/
  | abandoned {world : World τ σ} {who : SessionId} {session : Session τ}
      (permitted : allowed world (.expire who true))
      (found : world.session? who = some session) (active : session.finished = false) :
      Move around allowed (some who) world
        (world.ended who session (some (.timeout session.device session.timer.attempts)))
  /-- A session is cancelled. -/
  | cancelled {world : World τ σ} {who : SessionId} {session : Session τ}
      (found : world.session? who = some session) (active : session.finished = false) :
      Move around allowed (some who) world
        (world.ended who session (some (.cancelled session.device)))
  /-- A session hands a packet to its connection. -/
  | handed {world : World τ σ} {who : SessionId} {session : Session τ} (packet : Bytes)
      (found : world.session? who = some session) (active : session.finished = false)
      (builds : session.Builds world.tree packet) :
      Move around allowed (some who) world (world.chronicled who (.handed packet) session)
  /-- A session accepts a datagram and stays in its phase. -/
  | kept {world : World τ σ} {who : SessionId} {session : Session τ} (data : Bytes)
      (found : world.session? who = some session) (awaits : session.Awaits data)
      (waits : session.phase = .discovering → ∀ held, ¬ world.Ready session data held)
      (proxied : session.phase ≠ .discovering → (Packet.ofBytes data).isProxyReply = true) :
      Move around allowed (some who) world (world.admitted who session data)
  /-- A session accepts an offer and requests the one that it holds then. -/
  | requested {world : World τ σ} {who : SessionId} {held : BlockId} {session : Session τ}
      (data : Bytes) (found : world.session? who = some session) (awaits : session.Awaits data)
      (discovering : session.phase = .discovering)
      (ready : world.Ready session data held) :
      Move around allowed (some who) world
        ((world.admitted who session data).requesting who (world.keeping session data))
  /-- A session accepts an acknowledgement and registers its replies. -/
  | acknowledged {world start published : World τ σ} {who : SessionId} {session : Session τ}
      (data : Bytes) (outcome : Except SettingsTree.Error Unit)
      (found : world.session? who = some session) (awaits : session.Awaits data)
      (requesting : session.phase ≠ .discovering)
      (ordinary : (Packet.ofBytes data).isProxyReply = false)
      (agree : start.Agree (world.settled who session data))
      (publishes : (Act.registerReplies around (world.settling session data)).perform start =
        (.ok outcome, published)) :
      Move around allowed (some who) world
        (published.ended who (world.settling session data) (registrationFailure outcome))

/-- Any number of moves. -/
abbrev Moves (around : Surroundings τ σ) (allowed : World τ σ → Event τ σ → Prop) :
    World τ σ → World τ σ → Prop :=
  Relation.ReflTransGen fun world after => ∃ mover, Move around allowed mover world after

end World
end NetBoot
