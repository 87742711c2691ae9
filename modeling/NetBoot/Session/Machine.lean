/-
# How a session proceeds

A session proceeds only when its timer fires, when a datagram comes in and when
its owner cancels it.  Each of these is an action here.

While discovering it collects offers, keeping the best ordinary and the best proxy
one.  Once it holds an ordinary offer and either a second has passed or the server
does not want proxies, it requests that offer.  The acknowledgement of an ordinary
server ends it: the acknowledged packet and the proxy reply are put into the
settings tree.  Every attempt begins by arming the timer, so a packet that could
not be built or sent is an attempt like any other and is repeated.

A send can deliver datagrams before it returns.  Such a datagram can begin the next
phase, whose first send can deliver datagrams again, but no later phase sends; so
sends nest at most as deep as there are active phases.
-/
import NetBoot.Session.World

namespace NetBoot.Act

variable {τ σ : Type} [TimeScale τ]

/-- Let an owner take note of how a session ended. -/
def notify (who : SessionId) (outcome : Option Failure) : Act τ σ Unit := do
  modify fun world => { world with notices := world.notices ++ [(who, outcome)] }
  mark who (.told outcome)

/-- Tell the owner of a session how it ended.  `react` is what an owner does that
cancels in return. -/
def tellOwner (react : Act τ σ Unit) (who : SessionId) (owner : Owner)
    (outcome : Option Failure) : Act τ σ Unit := do
  match owner with
  | .absent => pure ()
  | .watching => notify who outcome
  | .cancelling => do
    notify who outcome
    react

/-- Report how a session ended. -/
def reportEnd (session : Session τ) (outcome : Option Failure) : Act τ σ Unit := do
  match outcome with
  | none => report (.complete session.device ((← get).elapsed session))
  | some failure => report (.failed session.device failure.message)

/-- Detach the connection of a session, if it has one. -/
def detachFrom (around : Surroundings τ σ) (who : SessionId) (session : Session τ) :
    Act τ σ Unit := do
  if session.attached then
    callLink who .detached fun network => ((), around.link.detach who network)

/-- Close the connection of a session, if it has one. -/
def closeFor (around : Surroundings τ σ) (who : SessionId) (session : Session τ) :
    Act τ σ Unit := do
  if session.attached then
    callLink who .closed fun network => ((), around.link.close who network)

/-- Take an active session out of service.  It is cut off from further events before
anything else. -/
def shutDown (around : Surroundings τ σ) (who : SessionId) (session : Session τ)
    (outcome : Option Failure) : Act τ σ Unit := do
  update who fun session => { session with owner := .absent, attached := false }
  detachFrom around who session
  update who fun session => { session with
    phase := if outcome.isSome then .failed else .succeeded, failure := outcome }
  mark who (.ended outcome)
  stopTimer who
  closeFor around who session
  reportEnd session outcome

/-- End a session and then tell its owner. -/
def finishWith (around : Surroundings τ σ) (react : Act τ σ Unit) (who : SessionId)
    (outcome : Option Failure) : Act τ σ Unit := do
  onSession who fun session => do
    if session.finished then pure ()
    else
      shutDown around who session outcome
      tellOwner react who session.owner outcome

/-- Cancel a session. -/
def cancelWith (around : Surroundings τ σ) (react : Act τ σ Unit) (who : SessionId) :
    Act τ σ Unit := do
  onSession who fun session =>
    finishWith around react who (some (.cancelled session.device))

/-- Cancel the session that was started last.  If its owner does the same in
return, that session is over by then. -/
def cancelNewest (around : Surroundings τ σ) : Act τ σ Unit := do
  match (← get).newest with
  | some who => cancelWith around (pure ()) who
  | none => pure ()

/-- End a session. -/
def finish (around : Surroundings τ σ) (who : SessionId) (outcome : Option Failure) :
    Act τ σ Unit :=
  finishWith around (cancelNewest around) who outcome

/-- Cancel a session, which does nothing if it is over. -/
def cancel (around : Surroundings τ σ) (who : SessionId) : Act τ σ Unit :=
  cancelWith around (cancelNewest around) who

/-- Build the packet for the phase a session is in. -/
def buildPacket (session : Session τ) (buffer : Bytes) : Act τ σ Packet := do
  let world ← get
  let offer := session.offer.map fun block => world.tree.fetchAt block
  match Request.build session.profile.device session.profile.template session.profile.uuid
      offer buffer with
  | .ok packet =>
    report (.built packet.summary packet.length session.device)
    pure packet
  | .error cause => throw (.build cause)

/-- The kind of packet that a session sends in its phase. -/
def kindOf (session : Session τ) : MessageType :=
  if session.offer.isSome then .request else .discover

/-- Pass on the datagrams that came in during a send, as long as the connection
listens. -/
def passOn (around : Surroundings τ σ) (receive : Bytes → Act τ σ Unit) (who : SessionId) :
    List Bytes → Act τ σ Unit
  | [] => pure ()
  | data :: rest => do
    if around.link.listening who (← get).network then receive data
    passOn around receive who rest

/-- Build and send a packet, handling what comes in during the send. -/
def attempt (around : Surroundings τ σ) (receive : Bytes → Act τ σ Unit) (who : SessionId)
    (session : Session τ) : Act τ σ Unit := do
  let buffer ← ofOutcome (← askNetwork (around.link.buffer who session.profile.bufferLength))
  let packet ← buildPacket session buffer
  report (.sending session.device (kindOf session) session.xid session.timer.attempts)
  let now := (← get).loop.now
  let (arrived, outcome) ← callLink who (.handed packet.encode)
    (around.link.send who now packet.encode)
  passOn around receive who arrived
  ofOutcome outcome

/-- Make one attempt: arm the timer, then build and send the packet of the phase. -/
def transmit (around : Surroundings τ σ) (receive : Bytes → Act τ σ Unit) (who : SessionId) :
    Act τ σ Unit := do
  startTimer who
  mark who .attempted
  onSession who fun session =>
    tryCatch (attempt around receive who session) fun fault =>
      if fault.isLoss then report (.notSent session.device (kindOf session) fault.message)
      else throw fault

/-- Put a block in the place of its namesake in the settings tree. -/
def replaceBlock (around : Surroundings τ σ) (block parent : BlockId) :
    Act τ σ (Except SettingsTree.Error Unit) := do
  let world ← get
  set { world with replacements := world.replacements + 1 }
  match around.refusal world.replacements with
  | some reason => pure (.error (.refused reason))
  | none =>
    match world.tree.findChild? parent (world.tree.nameOf block) with
    | some old => report (.unregistering (world.tree.path old))
    | none => pure ()
    let (tree, outcome) := world.tree.replace block parent
    modify fun world => { world with tree }
    match outcome with
    | .ok _ => report (.registered (tree.path block))
    | .error _ => pure ()
    pure outcome

/-- Put a reply into the settings tree under a name. -/
def publish (around : Surroundings τ σ) (block : BlockId) (name : String) (parent : BlockId) :
    Act τ σ (Except SettingsTree.Error Unit) := do
  modify fun world => { world with tree := world.tree.rename block name }
  replaceBlock around block parent

/-- Put the replies of a session into the settings tree: the proxy reply under the
root, the acknowledged one under the device. -/
def registerReplies (around : Surroundings τ σ) (session : Session τ) :
    Act τ σ (Except SettingsTree.Error Unit) := do
  let published ← match session.proxy with
    | some proxy => publish around proxy Block.proxyName SettingsTree.root
    | none => pure (.ok ())
  match published, session.response with
  | .ok _, some response => publish around response Block.replyName session.profile.block
  | outcome, _ => pure outcome

/-- End a session with its acknowledgement, which counts even if a reply with a
higher priority is held.  A proxy's acknowledgement ends nothing. -/
def acknowledge (around : Surroundings τ σ) (who : SessionId) (reply : BlockId) :
    Act τ σ Unit := do
  if ((← get).reply reply).isProxyReply then pure ()
  else
    onSession who fun session => do
      if session.response ≠ some reply then
        let world ← get
        report (.overriding session.device
          ((session.response.map fun held => (world.reply held).priority).getD 0))
        update who fun session => { session with response := some reply }
    onSession who fun session => do
      if ((← get).reply reply).refusesProxy && session.proxy.isSome then
        report (.proxyDropped session.device)
        update who fun session => { session with proxy := none }
    onSession who fun session => do
      match ← registerReplies around session with
      | .ok _ => finish around who none
      | .error cause => finish around who (some (.registration cause))

/-- Keep a reply if its priority is not lower than that of the one held. -/
def merge (who : SessionId) (reply : BlockId) : Act τ σ Unit := do
  onSession who fun session => do
    let world ← get
    let packet := world.reply reply
    let held := if packet.isProxyReply then session.proxy else session.response
    let rank := (held.map fun block => (world.reply block).priority).getD 0
    if rank ≤ packet.priority then
      update who fun session =>
        if packet.isProxyReply then { session with proxy := some reply }
        else { session with response := some reply }
    else report (.outranked session.device packet.priority rank)

/-- Request the offer that is held, unless proxy offers are still waited for. -/
def checkOffers (enter : Act τ σ Unit) (who : SessionId) : Act τ σ Unit := do
  onSession who fun session => do
    match session.response with
    | none => pure ()
    | some held =>
      let world ← get
      let packet := world.reply held
      if TimeScale.le (world.elapsed session) TimeScale.second && !packet.refusesProxy then
        report (.waiting session.device)
      else
        report (.requesting session.device
          ((packet.address .your).toOption.getD .unspecified) packet.refusesProxy)
        stopTimer who
        update who fun session => { session with phase := .requesting }
        enter

/-- Handle a reply that the session waits for. -/
def accept (around : Surroundings τ σ) (enter : Act τ σ Unit) (who : SessionId)
    (session : Session τ) (data : Bytes) : Act τ σ Unit := do
  let packet := Packet.ofBytes data
  let (tree, reply) := (← get).tree.add (.ofReply data Block.replyName)
  modify fun world => { world with tree }
  mark who (.accepted data reply)
  report (.received session.device packet.messageType
    (if packet.isProxyReply then none else (packet.address .your).toOption) packet.priority)
  merge who reply
  if session.phase = .discovering then checkOffers enter who
  else acknowledge around who reply

/-- Handle a datagram.  `enter` sends the first packet of the request phase. -/
def deliverWith (around : Surroundings τ σ) (enter : Act τ σ Unit) (who : SessionId)
    (data : Bytes) : Act τ σ Unit := do
  onSession who fun session => do
    let packet := Packet.ofBytes data
    let xid := (packet.word .xid).toOption.getD 0
    if session.finished then pure ()
    else if !packet.isValid then report (.notPacket session.device data.length)
    else if xid ≠ session.xid then report (.otherExchange session.device xid session.xid)
    else if packet.messageType ≠ session.phase.awaited.number then
      report (.unexpected session.device packet.messageType session.phase.name)
    else accept around enter who session data

/-- Make one attempt; `phases` bounds how many further phases can begin inside the
send. -/
def sendWithin (around : Surroundings τ σ) : (phases : Nat) → SessionId → Act τ σ Unit
  | 0, who => transmit around (fun _ => pure ()) who
  | phases + 1, who =>
    transmit around (deliverWith around (sendWithin around phases who) who) who

/-- The number of active phases. -/
def activePhases : Nat := 2

/-- Make one attempt. -/
def sendRequest (around : Surroundings τ σ) (who : SessionId) : Act τ σ Unit :=
  sendWithin around activePhases who

/-- Handle a datagram. -/
def deliver (around : Surroundings τ σ) (who : SessionId) (data : Bytes) : Act τ σ Unit :=
  deliverWith around (sendRequest around who) who data

/-- Handle a datagram that comes in through a session's connection. -/
def receive (around : Surroundings τ σ) (who : SessionId) (data : Bytes) : Act τ σ Unit :=
  passOn around (deliver around who) who [data]

/-- Repeat the packet of the phase, or give up once the attempts are used up. -/
def timerExpired (around : Surroundings τ σ) (who : SessionId) (spent : Bool) : Act τ σ Unit := do
  onSession who fun session => do
    if session.finished then pure ()
    else if spent then
      finish around who (some (.timeout session.device session.timer.attempts))
    else sendRequest around who

/-- Let a call of the event loop come. -/
def fire (around : Surroundings τ σ) (handle : Handle τ SessionId) : Act τ σ Unit := do
  modify fun world => { world with loop := world.loop.take handle }
  onSession handle.owner fun session => do
    update handle.owner fun session => { session with timer := session.timer.fired }
    timerExpired around handle.owner session.timer.spent

/-- Put a session whose connection is open into service. -/
def serve (who : SessionId) : Act τ σ SessionId := do
  update who fun session => { session with attached := true }
  modify fun world => { world with newest := some who }
  mark who .opened
  startTimerNow who
  pure who

/-- Let a session fail whose connection could not be opened, without telling its owner. -/
def giveUp (around : Surroundings τ σ) (who : SessionId) (cause : SystemError) :
    Act τ σ SessionId := do
  update who fun session => { session with owner := .absent }
  finish around who (some (.system cause))
  throw (.system cause)

/-- Start a session. -/
def start (around : Surroundings τ σ) (profile : Profile τ) (owner : Owner) :
    Act τ σ SessionId := do
  let world ← get
  let who := world.sessions.length
  let session := Session.ofProfile profile owner world.loop.now
  set { world with sessions := world.sessions ++ [session] }
  report (.starting session.device profile.device.addressText session.xid)
  let (opened, network) := around.link.openFor who profile.device world.loop.now world.network
  modify fun world => { world with network }
  match opened with
  | .ok _ => serve who
  | .error cause => giveUp around who cause

end NetBoot.Act

namespace NetBoot.World

variable {τ σ : Type} [TimeScale τ]

/-- Run the event loop until no call is pending before the limit. -/
def run (around : Surroundings τ σ) (limit : Option τ) (world : World τ σ) :
    Except (EventLoop.Stop Fault) Unit × World τ σ :=
  EventLoop.run World.loop (fun handle => (Act.fire around handle).perform) limit world

/-- Let time pass. -/
def advance (around : Surroundings τ σ) (duration : τ) (world : World τ σ) :
    Except (EventLoop.Stop Fault) Unit × World τ σ :=
  let target := TimeScale.add world.loop.now duration
  match world.run around (some target) with
  | (.ok _, reached) => (.ok (), { reached with loop := reached.loop.moveTo target })
  | (.error cause, reached) => (.error cause, reached)

end NetBoot.World
