/-
# Sessions

A session configures one device.  It is first discovering servers, then requesting
the offer it chose, and ends as succeeded or failed.  This module holds what a
session remembers, how it can fail, and the faults that handling an event can
let through.
-/
import NetBoot.Log.Event
import NetBoot.Request
import NetBoot.Settings.Tree
import NetBoot.SystemError
import NetBoot.Time.Retry

namespace NetBoot

/-- The phases of a session. -/
inductive Phase
  | discovering | requesting | succeeded | failed
  deriving DecidableEq, Repr

namespace Phase

/-- All phases in order. -/
def all : List Phase := [discovering, requesting, succeeded, failed]

/-- The name of a phase. -/
def name : Phase → String
  | discovering => "discovering"
  | requesting => "requesting"
  | succeeded => "succeeded"
  | failed => "failed"

/-- Is the session over? -/
def terminal : Phase → Bool
  | succeeded => true
  | failed => true
  | _ => false

/-- The message that a session waits for. -/
def awaited : Phase → MessageType
  | discovering => .offer
  | _ => .ack

end Phase

/-- How a session failed. -/
inductive Failure
  /-- No server answered all attempts. -/
  | timeout (device : String) (attempts : Nat)
  /-- The owner gave up. -/
  | cancelled (device : String)
  /-- The settings could not be registered. -/
  | registration (cause : SettingsTree.Error)
  /-- The network could not be opened. -/
  | system (cause : SystemError)
  deriving DecidableEq, Repr

/-- What is said of a failed session. -/
def Failure.message : Failure → String
  | timeout device attempts =>
    "no DHCP reply on " ++ device ++ " after " ++ toString attempts ++ " attempts"
  | cancelled device => "DHCP on " ++ device ++ " cancelled"
  | registration cause => cause.message
  | system cause => cause.message

/-- A fault while an event is handled. -/
inductive Fault
  /-- A packet could not be built. -/
  | build (cause : Request.Error)
  /-- There is no buffer of the size that was asked for. -/
  | size (cause : Bytes.SizeError)
  /-- There is no memory for a packet. -/
  | memory (reason : String)
  /-- The network failed. -/
  | system (cause : SystemError)
  deriving DecidableEq, Repr

/-- A session takes these faults for a packet that was lost: building it failed
as a client reckons with, or the network or the memory failed.  All others are let
through. -/
def Fault.isLoss : Fault → Bool
  | build cause => cause.isExpected
  | size cause => cause == .noMemory
  | memory _ => true
  | system _ => true

/-- What is said of a fault. -/
def Fault.message : Fault → String
  | build cause => cause.message.getD ""
  | size _ => ""
  | memory reason => reason
  | system cause => cause.message

/-- What the owner of a session does when the session is over. -/
inductive Owner
  /-- Nobody is told. -/
  | absent
  /-- The owner takes note of the outcome. -/
  | watching
  /-- The owner takes note and then cancels the session that was started last. -/
  | cancelling
  deriving DecidableEq, Repr

/-- What a session is about: the device with its settings block, what to ask for
and how often. -/
structure Profile (τ : Type) where
  device : Device
  block : BlockId
  template : RequestTemplate
  retry : RetryPolicy τ
  bufferLength : Int
  uuid : Option Uuid

/-- What a session remembers. -/
structure Session (τ : Type) where
  profile : Profile τ
  owner : Owner
  phase : Phase
  startTime : τ
  /-- The best reply that offers an address. -/
  response : Option BlockId
  /-- The best reply of a proxy server. -/
  proxy : Option BlockId
  failure : Option Failure
  /-- Does the session still use its connection? -/
  attached : Bool
  timer : RetryTimer τ

namespace Session

variable {τ : Type} [TimeScale τ]

/-- A session that begins at an instant. -/
def ofProfile (profile : Profile τ) (owner : Owner) (now : τ) : Session τ :=
  { profile, owner, phase := .discovering, startTime := now, response := none, proxy := none,
    failure := none, attached := false, timer := .ofPolicy profile.retry }

/-- The name of the device. -/
def device (session : Session τ) : String := session.profile.device.name

/-- The number that all packets of the session carry. -/
def xid (session : Session τ) : Nat := session.profile.device.transaction

/-- Is the session over? -/
def finished (session : Session τ) : Bool := session.phase.terminal

/-- The offer that the session is requesting. -/
def offer (session : Session τ) : Option BlockId :=
  if session.phase = .requesting then session.response else none

/-- One line about the session. -/
def summary (session : Session τ) : String :=
  "DHCPSession(" ++ session.device ++ ", " ++ session.phase.name ++ ", xid=" ++
    Packet.xidText session.xid ++ ")"

end Session
end NetBoot
