/-
# Datagram sockets

The socket through which a client broadcasts, as the calls that are made about it
and what is waiting in it.  How the operating system answers is left open: a
`Kernel` says which calls it refuses and which sends fail.

Binding the socket to one interface may fail, which is only reported: the client
then uses whatever interface a broadcast takes.  Any other refusal closes the
socket again.
-/
import NetBoot.Log.Event
import NetBoot.SystemError
import NetBoot.Text.Utf8

namespace NetBoot.Udp

/-- Who sends or receives a datagram. -/
structure Peer where
  host : String
  port : Nat
  deriving DecidableEq, Repr

/-- All servers on the network. -/
def servers : Peer := ⟨"255.255.255.255", 67⟩

/-- The address that a client listens at. -/
def client : Peer := ⟨"0.0.0.0", 68⟩

/-- The longest datagram that is read; what is longer is cut off. -/
def longestDatagram : Nat := 4096

/-- What reading a socket brings. -/
inductive Incoming
  | datagram (data : Bytes) (sender : Peer)
  | failure (cause : SystemError)
  deriving DecidableEq, Repr

/-- A call about a socket. -/
inductive Call
  /-- Make the socket. -/
  | create
  /-- Share the port with other programs. -/
  | reuseAddress
  /-- Allow broadcasts. -/
  | broadcast
  /-- Use one interface only. -/
  | bindInterface (name : Bytes)
  /-- Listen at the client's address. -/
  | bind
  /-- Never wait in a call. -/
  | nonBlocking
  /-- Have the event loop watch for datagrams. -/
  | watch
  /-- Read a datagram. -/
  | receive
  /-- Have the event loop watch no longer. -/
  | unwatch
  /-- Give the socket up. -/
  | close
  deriving DecidableEq, Repr

/-- How the operating system answers. -/
structure Kernel where
  /-- The calls that are refused, and why. -/
  refusal : Call → Option SystemError
  /-- The sends that fail, counted from zero. -/
  sendFailure : Nat → Option SystemError
  /-- Can sockets be watched? -/
  watchable : Bool

/-- What was done with a socket and what is waiting in it. -/
structure Socket (τ : Type) where
  calls : List Call := []
  inbox : List Incoming := []
  /-- How many sends were tried. -/
  tries : Nat := 0
  /-- What was sent. -/
  sent : List Bytes := []
  /-- What was reported. -/
  log : List (LogEvent τ) := []

/-- Work on a socket that may be refused.  What was done before stays done. -/
abbrev Setup (τ α : Type) := ExceptT SystemError (StateM (Socket τ)) α

namespace Socket

variable {τ : Type}

/-- The socket after a call. -/
def called (socket : Socket τ) (call : Call) : Socket τ :=
  { socket with calls := socket.calls ++ [call] }

/-- The socket after a report. -/
def reported (socket : Socket τ) (event : LogEvent τ) : Socket τ :=
  { socket with log := socket.log ++ [event] }

end Socket

namespace Setup

variable {τ : Type}

/-- Make a call; it counts as made even if it is refused. -/
def call (kernel : Kernel) (what : Call) : Setup τ Unit := do
  modify fun socket => socket.called what
  match kernel.refusal what with
  | none => pure ()
  | some cause => throw cause

/-- Make the socket itself; a refusal makes nothing. -/
def create (kernel : Kernel) : Setup τ Unit := do
  match kernel.refusal .create with
  | none => modify fun socket => socket.called .create
  | some cause => throw cause

/-- Use one interface only, if it has a name.  A refusal is reported. -/
def bindInterface (kernel : Kernel) (interface : String) : Setup τ Unit := do
  if interface = "" then pure ()
  else
    let outcome ← tryCatch
      (do
        call kernel (.bindInterface (Text.Utf8.encode interface))
        pure (LogEvent.bound interface))
      fun cause => pure (.notBound interface cause.message)
    modify fun socket => socket.reported outcome

/-- Make a new socket ready for use. -/
def prepare (kernel : Kernel) (interface : String) : Setup τ Unit := do
  call kernel .reuseAddress
  call kernel .broadcast
  bindInterface kernel interface
  call kernel .bind
  call kernel .nonBlocking

/-- Open a socket.  One that cannot be made ready is closed. -/
def openSocket (kernel : Kernel) (interface : String) : Setup τ Unit := do
  create kernel
  tryCatch (prepare kernel interface) fun cause => do
    modify fun socket => socket.called .close
    throw cause

end Setup
end NetBoot.Udp
