/-
# A network that follows a timeline

One endpoint on a network whose datagrams are planned: each comes in some time
after a certain send, if that send succeeds, or some time after the endpoint was
opened.  What is on its way is kept like the pending calls of an event loop.
-/
import NetBoot.Session.World
import NetBoot.Udp.Endpoint

namespace NetBoot.Udp

/-- What sets a datagram on its way. -/
inductive Trigger
  /-- A send, counted from zero among all sends that are tried. -/
  | sending (number : Int)
  /-- The opening of the endpoint. -/
  | opening
  deriving DecidableEq, Repr

/-- A planned datagram, which comes in some time after its trigger. -/
structure Planned (τ : Type) where
  trigger : Trigger
  delay : τ
  item : Incoming

/-- An endpoint and what comes in at it. -/
structure Timeline (τ : Type) where
  kernel : Kernel
  plan : List (Planned τ)
  /-- What is on its way. -/
  arrivals : EventLoop τ Incoming
  endpoint : Endpoint τ

namespace Timeline

variable {τ : Type} [TimeScale τ]

/-- A network on which nothing has happened yet. -/
def ofPlan (kernel : Kernel) (plan : List (Planned τ)) : Timeline τ :=
  ⟨kernel, plan, .start, {}⟩

/-- Set on its way what a trigger sets on its way. -/
def triggered (timeline : Timeline τ) (trigger : Trigger) (now : τ) : Timeline τ :=
  let chosen := timeline.plan.filter fun planned => planned.trigger == trigger
  { timeline with
    arrivals := chosen.foldl (fun loop planned => (loop.callLater planned.delay planned.item).1)
      (timeline.arrivals.moveTo now) }

/-- Open the endpoint. -/
def openFor (device : Device) (now : τ) (timeline : Timeline τ) :
    Except SystemError Unit × Timeline τ :=
  match timeline.endpoint.openOn timeline.kernel device.name with
  | (.ok _, endpoint) => (.ok (), { timeline with endpoint }.triggered .opening now)
  | (.error (.system cause), endpoint) => (.error cause, { timeline with endpoint })
  | (.error .unwatched, endpoint) =>
    (.error (.plain "the socket cannot be watched"), { timeline with endpoint })

/-- Send a packet.  Nothing comes in during the send itself. -/
def send (now : τ) (data : Bytes) (timeline : Timeline τ) :
    (List Bytes × Except Fault Unit) × Timeline τ :=
  let number := timeline.endpoint.socket.tries
  match timeline.endpoint.send timeline.kernel data with
  | (.ok _, endpoint) =>
    (([], .ok ()), { timeline with endpoint }.triggered (.sending number) now)
  | (.error cause, endpoint) => (([], .error (.system cause)), { timeline with endpoint })

/-- Change the endpoint. -/
def onEndpoint (change : Endpoint τ → Endpoint τ) (timeline : Timeline τ) : Timeline τ :=
  { timeline with endpoint := change timeline.endpoint }

/-- Let something that is on its way come in.  The answer is what the receiver gets. -/
def comeIn (handle : Handle τ Incoming) (timeline : Timeline τ) : Option Bytes × Timeline τ :=
  let (data, endpoint) := (timeline.endpoint.arrive [handle.owner]).readable
  (data, { timeline with arrivals := timeline.arrivals.take handle, endpoint })

/-- Take what the endpoint has reported. -/
def takeLog (timeline : Timeline τ) : List (LogEvent τ) × Timeline τ :=
  (timeline.endpoint.socket.log, timeline.onEndpoint fun endpoint =>
    { endpoint with socket := { endpoint.socket with log := [] } })

/-- The network as a link for one session. -/
def link : Link τ (Timeline τ) where
  openFor := fun _ => openFor
  buffer := fun _ size timeline => (zeroedBuffer size, timeline)
  send := fun _ => send
  listening := fun _ timeline => timeline.endpoint.listening
  detach := fun _ => onEndpoint Endpoint.detach
  close := fun _ => onEndpoint Endpoint.close

end Timeline
end NetBoot.Udp
