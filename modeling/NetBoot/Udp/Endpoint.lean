/-
# Datagram endpoints

An endpoint stands between a receiver and the network.  It is open from the moment
its socket is watched until it is closed, and it hands datagrams to the receiver
from the same moment until it is detached.  The two are independent: a detached
endpoint still reads its socket, and what it reads is lost.

Reading hands over at most one datagram, and the endpoint is done with it before
the receiver sees it.  So it makes no difference to the endpoint whether the
receiver uses it again from within or after the handover.
-/
import NetBoot.Udp.Socket

namespace NetBoot.Udp

/-- An endpoint. -/
structure Endpoint (τ : Type) where
  socket : Socket τ := {}
  isOpen : Bool := false
  /-- Does the receiver get what is read? -/
  listening : Bool := false
  /-- What the receiver got, in order. -/
  delivered : List Bytes := []

/-- Why an endpoint could not be opened. -/
inductive OpenError
  /-- A call was refused. -/
  | system (cause : SystemError)
  /-- The event loop cannot watch the socket. -/
  | unwatched
  deriving DecidableEq, Repr

namespace Endpoint

variable {τ : Type}

/-- Open a socket without reading from it. -/
def openSocket (kernel : Kernel) (interface : String) (endpoint : Endpoint τ) :
    Except SystemError Unit × Endpoint τ :=
  let (outcome, socket) := (Setup.openSocket kernel interface).run.run endpoint.socket
  (outcome, { endpoint with socket })

/-- Open an endpoint on an interface.  A socket that cannot be watched is closed. -/
def openOn (kernel : Kernel) (interface : String) (endpoint : Endpoint τ) :
    Except OpenError Unit × Endpoint τ :=
  match endpoint.openSocket kernel interface with
  | (.error cause, failed) => (.error (.system cause), failed)
  | (.ok _, made) =>
    if kernel.watchable then
      (.ok (), { made with
        socket := made.socket.called .watch, isOpen := true, listening := true })
    else (.error .unwatched, { made with socket := made.socket.called .close })

/-- Does the event loop call the endpoint when something comes in? -/
def watched (endpoint : Endpoint τ) : Bool := endpoint.isOpen

/-- Put something into the socket. -/
def arrive (endpoint : Endpoint τ) (items : List Incoming) : Endpoint τ :=
  { endpoint with socket := { endpoint.socket with inbox := endpoint.socket.inbox ++ items } }

/-- Hand a datagram over, if the receiver still listens. -/
def handOver (endpoint : Endpoint τ) (data : Bytes) : Option Bytes × Endpoint τ :=
  if endpoint.listening then
    (some data, { endpoint with delivered := endpoint.delivered ++ [data] })
  else (none, endpoint)

/-- Read from the socket once; the answer is what the receiver gets.  A read that
finds nothing or is interrupted is as good as none, and a failed one is reported. -/
def readable (endpoint : Endpoint τ) : Option Bytes × Endpoint τ :=
  if endpoint.isOpen then
    let socket := endpoint.socket.called .receive
    match socket.inbox with
    | [] => (none, { endpoint with socket })
    | .failure cause :: rest =>
      let read := { socket with inbox := rest }
      if cause.isTransient then (none, { endpoint with socket := read })
      else (none, { endpoint with socket := read.reported (.receiveFailed cause.message) })
    | .datagram whole sender :: rest =>
      let data := whole.take longestDatagram
      let read := { socket with inbox := rest }
      handOver { endpoint with
        socket := read.reported (.arrived data.length sender.host sender.port) } data
  else (none, endpoint)

/-- Broadcast a datagram to the servers. -/
def send (kernel : Kernel) (endpoint : Endpoint τ) (data : Bytes) :
    Except SystemError Unit × Endpoint τ :=
  if endpoint.isOpen then
    let tried := { endpoint.socket with tries := endpoint.socket.tries + 1 }
    match kernel.sendFailure endpoint.socket.tries with
    | some cause => (.error cause, { endpoint with socket := tried })
    | none =>
      let sent := { tried with sent := tried.sent ++ [data] }
      (.ok (), { endpoint with
        socket := sent.reported (.sent data.length servers.host servers.port) })
  else (.error (.plain "transport is closed"), endpoint)

/-- Hand nothing over any more. -/
def detach (endpoint : Endpoint τ) : Endpoint τ :=
  { endpoint with listening := false }

/-- Close the endpoint, if it is open. -/
def close (endpoint : Endpoint τ) : Endpoint τ :=
  if endpoint.isOpen then
    { endpoint with socket := (endpoint.socket.called .unwatch).called .close, isOpen := false }
  else endpoint

end Endpoint
end NetBoot.Udp
