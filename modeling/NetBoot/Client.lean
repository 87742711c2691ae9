/-
# Clients

A client gets a lease for one device: it puts the device's settings block into the
tree, starts a session, and lets calls and datagrams come, each at its time, until
the session ends or the client is told to stop.

A fault while a call or a datagram is handled is lost with it, and the client
goes on.  A client that is told to stop handles what comes up to that instant and
then cancels its session, so even a session that ends just then has no lease.
-/
import NetBoot.Lease
import NetBoot.Session.Machine
import NetBoot.Udp.Timeline

namespace NetBoot

/-- Why a client has no lease. -/
inductive ObtainError
  /-- The device's settings could not be registered. -/
  | unregistered (cause : SettingsTree.Error)
  /-- The session could not be started. -/
  | notStarted (cause : Fault)
  /-- The session failed. -/
  | failed (cause : Failure)
  /-- The replies make no lease. -/
  | noLease (cause : Lease.Error)
  /-- The client was told to stop. -/
  | cancelled
  /-- Nothing can happen any more. -/
  | stalled
  deriving DecidableEq, Repr

namespace Client

variable {τ : Type} [TimeScale τ]

/-- Everything that a client acts on. -/
abbrev Stage (τ : Type) := World τ (Udp.Timeline τ)

/-- A client's network, and a tree that never refuses. -/
def surroundings : Surroundings τ (Udp.Timeline τ) := ⟨Udp.Timeline.link, fun _ => none⟩

/-- What happens next to a client. -/
inductive Occurrence (τ : Type)
  | call (handle : Handle τ SessionId)
  | arrival (handle : Handle τ Udp.Incoming)

/-- When it happens. -/
def Occurrence.due : Occurrence τ → τ
  | call handle => handle.due
  | arrival handle => handle.due

/-- The earliest of the pending calls and of what is on its way; a call goes first. -/
def next? (stage : Stage τ) : Option (Occurrence τ) :=
  match stage.loop.next? none, stage.network.arrivals.next? none with
  | some call, some arrival =>
    if TimeScale.lt arrival.due call.due then some (.arrival arrival) else some (.call call)
  | some call, none => some (.call call)
  | none, some arrival => some (.arrival arrival)
  | none, none => none

/-- Move what the network has reported into the log. -/
def gatherLog (stage : Stage τ) : Stage τ :=
  let (events, network) := stage.network.takeLog
  { stage with log := stage.log ++ events, network }

/-- Perform an action and drop the fault that it may end with. -/
def doing (act : Act τ (Udp.Timeline τ) Unit) (stage : Stage τ) : Stage τ :=
  gatherLog (act.perform stage).2

/-- Let something come in and hand it to the session. -/
def comeIn (who : SessionId) (handle : Handle τ Udp.Incoming) (stage : Stage τ) : Stage τ :=
  let (data, network) := stage.network.comeIn handle
  let loop := stage.loop.moveTo (TimeScale.atLeast stage.loop.now handle.due)
  let reached := gatherLog { stage with network, loop }
  match data with
  | some data => doing (Act.deliver surroundings who data) reached
  | none => reached

/-- Let something happen. -/
def happen (who : SessionId) (occurrence : Occurrence τ) (stage : Stage τ) : Stage τ :=
  match occurrence with
  | .call handle => doing (Act.fire surroundings handle) stage
  | .arrival handle => comeIn who handle stage

/-- How waiting for a session ended. -/
inductive Course
  | over | cancelled | stalled
  deriving DecidableEq, Repr

/-- Is an instant later than the one at which the client is told to stop? -/
def pastStop (stop : Option τ) (instant : τ) : Bool :=
  match stop with
  | some limit => TimeScale.lt limit instant
  | none => false

/-- Has the client been told to stop? -/
def stopped (stop : Option τ) (now : τ) : Bool :=
  match stop with
  | some limit => TimeScale.le limit now
  | none => false

/-- Let at most `limit` things happen until the session is over. -/
def waitWithin (stop : Option τ) (who : SessionId) :
    (limit : Nat) → Stage τ → Course × Stage τ
  | 0, stage => (.stalled, stage)
  | limit + 1, stage =>
    if !stage.notices.isEmpty then
      (if stopped stop stage.loop.now then .cancelled else .over, stage)
    else
      match next? stage with
      | none => (if stop.isSome then .cancelled else .stalled, stage)
      | some occurrence =>
        if pastStop stop occurrence.due then (.cancelled, stage)
        else waitWithin stop who limit (happen who occurrence stage)

/-- More things than can happen before a session is over: in each of two phases one
call for each attempt and one more, a first call, and all planned datagrams. -/
def eventLimit (stage : Stage τ) (profile : Profile τ) : Nat :=
  2 * (profile.retry.maxAttempts.toNat + 2) + stage.network.plan.length + 2

/-- Wait until a session is over.  A client that is told to stop at once does not
even let its first call come. -/
def wait (stop : Option τ) (profile : Profile τ) (who : SessionId) (stage : Stage τ) :
    Course × Stage τ :=
  if stopped stop stage.loop.now then (.cancelled, stage)
  else waitWithin stop who (eventLimit stage profile) stage

/-- What a session that is over yields at a moment. -/
def harvest (moment : Moment) (who : SessionId) (stage : Stage τ) :
    Except ObtainError Lease := do
  match stage.session? who with
  | none => throw .stalled
  | some session =>
    match session.failure, session.response with
    | some cause, _ => throw (.failed cause)
    | none, none => throw .stalled
    | none, some reply =>
      (Lease.ofReplies (stage.reply reply) (session.proxy.map stage.reply) moment).mapError .noLease

/-- Start a session and see it through. -/
def pursue (profile : Profile τ) (stop : Option τ) (moment : Moment) (stage : Stage τ) :
    Except ObtainError Lease × Stage τ :=
  let (started, begun) := (Act.start surroundings profile .watching).perform stage
  let begun := gatherLog begun
  match started with
  | .error cause => (.error (.notStarted cause), begun)
  | .ok who =>
    match wait stop profile who begun with
    | (.over, reached) => (harvest moment who reached, reached)
    | (.cancelled, reached) =>
      (.error .cancelled, doing (Act.cancel surroundings who) reached)
    | (.stalled, reached) => (.error .stalled, reached)

/-- Register the block of a device under the root, unless it is registered. -/
def enrol (block : BlockId) (stage : Stage τ) : Except SettingsTree.Error (Stage τ) :=
  if (stage.tree.parentOf block).isSome then .ok stage
  else match stage.tree.register block SettingsTree.root with
    | .ok tree => .ok { stage with tree, log := stage.log ++ [.registered (tree.path block)] }
    | .error cause => .error cause

/-- Get a lease for a device, given when to stop and what the time is. -/
def obtain (profile : Profile τ) (stop : Option τ) (moment : Moment) (tree : SettingsTree)
    (network : Udp.Timeline τ) : Except ObtainError Lease × Stage τ :=
  let stage : Stage τ := World.start tree network
  match enrol profile.block stage with
  | .error cause => (.error (.unregistered cause), stage)
  | .ok stage => pursue profile stop moment stage

end Client
end NetBoot
