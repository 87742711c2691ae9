/-
# What sessions act on

Sessions share an event loop and a settings tree, and each has a connection to the
network.  `World` holds all of them.  What the network does is left open: a `Link`
says how a connection opens, gives buffers, sends and closes, for any state of the
network.  A send may hand datagrams back at once, before it returns.

An action changes the world and may end with a fault; the changes made before
the fault stay.

The world keeps a history of what its sessions do.  Each entry also holds what there
was to see at that moment, because one event can take a session through several
phases.
-/
import NetBoot.Session.Basic

namespace NetBoot

/-- The number of a session. -/
abbrev SessionId := Nat

/-- What a network with state `σ` does for the connections of sessions. -/
structure Link (τ σ : Type) where
  /-- Open a connection for a session. -/
  openFor : SessionId → Device → τ → σ → Except SystemError Unit × σ
  /-- A zeroed buffer of a size. -/
  buffer : SessionId → Int → σ → Except Fault Bytes × σ
  /-- Send a packet; the answer is what comes in during the send and how the send
  ends after that. -/
  send : SessionId → τ → Bytes → σ → (List Bytes × Except Fault Unit) × σ
  /-- Does a connection pass on what comes in? -/
  listening : SessionId → σ → Bool
  /-- Stop passing on what comes in. -/
  detach : SessionId → σ → σ
  /-- Close a connection. -/
  close : SessionId → σ → σ

/-- A zeroed buffer of a size, as a network gives it. -/
def zeroedBuffer (size : Int) : Except Fault Bytes := (Bytes.ofSize size).mapError .size

/-- What surrounds the sessions: the network, and whether the settings tree refuses
a replacement, given how many were asked for before. -/
structure Surroundings (τ σ : Type) where
  link : Link τ σ
  refusal : Nat → Option String

/-- Something that a session does. -/
inductive Deed
  /-- It opens its connection. -/
  | opened
  /-- It begins an attempt. -/
  | attempted
  /-- It hands a packet to its connection. -/
  | handed (packet : Bytes)
  /-- It accepts a datagram and makes a block of it. -/
  | accepted (data : Bytes) (reply : BlockId)
  /-- It detaches its connection. -/
  | detached
  /-- It succeeds or fails. -/
  | ended (outcome : Option Failure)
  /-- It closes its connection. -/
  | closed
  /-- It tells its owner the outcome. -/
  | told (outcome : Option Failure)
  deriving DecidableEq, Repr

/-- A deed of a session, with the session, the settings tree, the pending calls and the
clock as they are just after it. -/
structure Episode (τ : Type) where
  who : SessionId
  deed : Deed
  session : Session τ
  tree : SettingsTree
  pending : List (Handle τ SessionId)
  now : τ

/-- All that sessions act on. -/
structure World (τ σ : Type) where
  loop : EventLoop τ SessionId
  tree : SettingsTree
  /-- How many replacements in the tree were asked for. -/
  replacements : Nat
  sessions : List (Session τ)
  /-- The session that was started last. -/
  newest : Option SessionId
  network : σ
  /-- What was reported, in order. -/
  log : List (LogEvent τ)
  /-- The outcomes that owners were told, in order. -/
  notices : List (SessionId × Option Failure)
  /-- What the sessions did, in order. -/
  history : List (Episode τ)

/-- An action on the world. -/
abbrev Act (τ σ α : Type) := ExceptT Fault (StateM (World τ σ)) α

namespace World

variable {τ σ : Type} [TimeScale τ]

/-- A world without sessions. -/
def start (tree : SettingsTree) (network : σ) : World τ σ :=
  { loop := .start, tree, replacements := 0, sessions := [], newest := none, network,
    log := [], notices := [], history := [] }

/-- The session of a number. -/
def session? (world : World τ σ) (who : SessionId) : Option (Session τ) :=
  world.sessions[who]?

/-- The packet of a reply block. -/
def reply? (world : World τ σ) (block : BlockId) : Option Packet :=
  (world.tree.block? block).bind Block.packet?

/-- The packet of a reply block; a block without one counts as an empty packet. -/
def reply (world : World τ σ) (block : BlockId) : Packet :=
  (world.reply? block).getD (Packet.ofBytes [])

/-- How long a session has been going on. -/
def elapsed (world : World τ σ) (session : Session τ) : τ :=
  TimeScale.sub world.loop.now session.startTime

end World

namespace Act

variable {τ σ : Type} [TimeScale τ]

/-- Run an action. -/
def perform (act : Act τ σ α) (world : World τ σ) : Except Fault α × World τ σ :=
  act.run.run world

/-- Report an event. -/
def report (event : LogEvent τ) : Act τ σ Unit :=
  modify fun world => { world with log := world.log ++ [event] }

/-- Act on a session, if there is one of that number. -/
def onSession (who : SessionId) (act : Session τ → Act τ σ Unit) : Act τ σ Unit := do
  match (← get).session? who with
  | some session => act session
  | none => pure ()

/-- Change what a session remembers. -/
def update (who : SessionId) (change : Session τ → Session τ) : Act τ σ Unit :=
  modify fun world => { world with sessions := world.sessions.modify who change }

/-- Enter a deed of a session into the history. -/
def mark (who : SessionId) (deed : Deed) : Act τ σ Unit := do
  onSession who fun session =>
    modify fun world => { world with
      history := world.history ++
        [⟨who, deed, session, world.tree, world.loop.pending, world.loop.now⟩] }

/-- Do something with the timer of a session. -/
def withTimer (who : SessionId)
    (change : RetryTimer τ → EventLoop τ SessionId → RetryTimer τ × EventLoop τ SessionId) :
    Act τ σ Unit := do
  onSession who fun session => do
    let (timer, loop) := change session.timer (← get).loop
    modify fun world => { world with loop }
    update who fun session => { session with timer }

/-- Stop the timer of a session. -/
def stopTimer (who : SessionId) : Act τ σ Unit :=
  withTimer who fun timer loop => timer.stop loop

/-- Begin an attempt of a session. -/
def startTimer (who : SessionId) : Act τ σ Unit := do
  onSession who fun session => do
    withTimer who fun timer loop => timer.start loop who
    report (.armed session.timer.timeout (session.timer.attempts + 1)
      session.timer.policy.maxAttempts)

/-- Let a session's timer fire as soon as possible. -/
def startTimerNow (who : SessionId) : Act τ σ Unit :=
  withTimer who fun timer loop => timer.startNow loop who

/-- Ask the network for something. -/
def askNetwork (run : σ → α × σ) : Act τ σ α := do
  let (answer, network) := run (← get).network
  modify fun world => { world with network }
  pure answer

/-- Go on with a value, or let a fault through. -/
def ofOutcome (outcome : Except Fault α) : Act τ σ α :=
  match outcome with
  | .ok value => pure value
  | .error fault => throw fault

/-- Make a call about the connection of a session, and enter it into the history. -/
def callLink (who : SessionId) (deed : Deed) (run : σ → α × σ) : Act τ σ α := do
  mark who deed
  askNetwork run

end Act
end NetBoot
