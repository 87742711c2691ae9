/-
# A network that follows a script

A network whose behaviour is written down beforehand: how many buffers and sends
fail, whether opening fails, and what comes back during each send that succeeds.
It remembers what was sent and which connections listen or are closed.
-/
import NetBoot.Session.World

namespace NetBoot

/-- A connection of a scripted network. -/
structure ScriptLine where
  session : SessionId
  listening : Bool
  closed : Bool
  deriving DecidableEq, Repr

/-- A scripted network. -/
structure Script where
  /-- The error of the next opening. -/
  openError : Option SystemError := none
  /-- How many of the next buffers are refused. -/
  failingBuffers : Nat := 0
  /-- How many of the next sends fail. -/
  failingSends : Nat := 0
  /-- What comes in during the next successful sends. -/
  echoes : List (List Bytes) := []
  /-- What was sent. -/
  sent : List Bytes := []
  /-- The connections, latest first. -/
  lines : List ScriptLine := []

namespace Script

/-- Open a connection. -/
def openFor (who : SessionId) (script : Script) : Except SystemError Unit × Script :=
  match script.openError with
  | some cause => (.error cause, { script with openError := none })
  | none => (.ok (), { script with lines := ⟨who, true, false⟩ :: script.lines })

/-- A zeroed buffer. -/
def buffer (size : Int) (script : Script) : Except Fault Bytes × Script :=
  if script.failingBuffers > 0 then
    (.error (.memory "out of memory"), { script with failingBuffers := script.failingBuffers - 1 })
  else (zeroedBuffer size, script)

/-- Send a packet. -/
def send (data : Bytes) (script : Script) : (List Bytes × Except Fault Unit) × Script :=
  if script.failingSends > 0 then
    (([], .error (.system (.plain "Network is unreachable"))),
      { script with failingSends := script.failingSends - 1 })
  else
    ((script.echoes.head?.getD [], .ok ()),
      { script with sent := script.sent ++ [data], echoes := script.echoes.drop 1 })

/-- Change a connection. -/
def onLine (who : SessionId) (change : ScriptLine → ScriptLine) (script : Script) : Script :=
  { script with lines := script.lines.map fun line =>
      if line.session = who then change line else line }

/-- Does a connection listen? -/
def listening (who : SessionId) (script : Script) : Bool :=
  script.lines.any fun line => line.session == who && line.listening

/-- A scripted network as a link. -/
def link (τ : Type) : Link τ Script where
  openFor := fun who _ _ => openFor who
  buffer := fun _ => buffer
  send := fun _ _ => send
  listening := listening
  detach := fun who => onLine who fun line => { line with listening := false }
  close := fun who => onLine who fun line => { line with closed := true }

end Script
end NetBoot
