/-
# Log events

Everything that the client reports while it works, as values: what happened, how
important it is and which part of the client says so.  The text is made from the
value, so that the machinery never handles texts.
-/
import NetBoot.Log.Severity
import NetBoot.Options.Tag
import NetBoot.Packet.Basic
import NetBoot.Text.Fixed

namespace NetBoot

/-- The part of the client that reports. -/
inductive LogSource
  | session | timer | builder | settings | transport
  deriving DecidableEq, Repr

/-- The name of a part. -/
def LogSource.name : LogSource → String
  | session => "session"
  | timer => "timer"
  | builder => "builder"
  | settings => "settings"
  | transport => "transport"

/-- Something that happened.  Devices are given by name. -/
inductive LogEvent (τ : Type)
  /-- A session begins. -/
  | starting (device address : String) (xid : Nat)
  /-- A timer was armed for an attempt. -/
  | armed (delay : τ) (attempt : Nat) (limit : Int)
  /-- A packet was built. -/
  | built (summary : String) (length : Int) (device : String)
  /-- A packet is about to be sent. -/
  | sending (device : String) (kind : MessageType) (xid attempt : Nat)
  /-- A packet could not be built or sent. -/
  | notSent (device : String) (kind : MessageType) (reason : String)
  /-- A datagram is no packet. -/
  | notPacket (device : String) (length : Nat)
  /-- A packet belongs to another exchange. -/
  | otherExchange (device : String) (found expected : Nat)
  /-- A packet has a type that is not waited for. -/
  | unexpected (device : String) (kind : Nat) (phase : String)
  /-- A reply was accepted; a proxy reply offers no address. -/
  | received (device : String) (kind : Nat) (address : Option Address) (priority : Nat)
  /-- A reply has a lower priority than the one that is held. -/
  | outranked (device : String) (priority held : Nat)
  /-- An offer is held while proxy offers may still come. -/
  | waiting (device : String)
  /-- The request phase begins. -/
  | requesting (device : String) (address : Address) (noProxy : Bool)
  /-- An acknowledgement takes the place of a reply with a higher priority. -/
  | overriding (device : String) (priority : Nat)
  /-- The server does not want the proxy reply to be used. -/
  | proxyDropped (device : String)
  /-- A session succeeded. -/
  | complete (device : String) (elapsed : τ)
  /-- A session failed. -/
  | failed (device reason : String)
  /-- A settings block was registered. -/
  | registered (path : String)
  /-- A settings block is taken out of the tree. -/
  | unregistering (path : String)
  /-- A setting has a value that cannot be shown. -/
  | unshowable (setting reason : String)
  /-- A socket was bound to an interface. -/
  | bound (interface : String)
  /-- A socket could not be bound to an interface. -/
  | notBound (interface reason : String)
  /-- A datagram came in. -/
  | arrived (length : Nat) (host : String) (port : Nat)
  /-- Receiving failed. -/
  | receiveFailed (reason : String)
  /-- A datagram went out. -/
  | sent (length : Nat) (host : String) (port : Nat)
  deriving Repr

namespace LogEvent

variable {τ : Type}

/-- Who reports an event. -/
def source : LogEvent τ → LogSource
  | armed .. => .timer
  | built .. => .builder
  | registered .. | unregistering .. | unshowable .. => .settings
  | bound .. | notBound .. | arrived .. | receiveFailed .. | sent .. => .transport
  | _ => .session

/-- How important an event is. -/
def level : LogEvent τ → Severity
  | starting .. | sending .. | received .. | requesting .. | complete .. | failed .. => .info
  | notSent .. | notBound .. | receiveFailed .. => .warning
  | _ => .debug

/-- The text of an event, given the text of a duration. -/
def text (duration : τ → String) : LogEvent τ → String
  | starting device address xid =>
    "Starting DHCP on " ++ device ++ " (" ++ address ++ ", xid " ++ Packet.xidText xid ++ ")"
  | armed delay attempt limit =>
    "Retry timer armed for " ++ duration delay ++ "s (attempt " ++ toString attempt ++ "/" ++
      toString limit ++ ")"
  | built summary length device =>
    "Built " ++ summary ++ " (" ++ toString length ++ " bytes) for " ++ device
  | sending device kind xid attempt =>
    device ++ ": sending " ++ kind.name ++ " (xid " ++ Packet.xidText xid ++ ", attempt " ++
      toString attempt ++ ")"
  | notSent device kind reason => device ++ ": could not send " ++ kind.name ++ ": " ++ reason
  | notPacket device length =>
    device ++ ": discarding " ++ toString length ++ "-byte non-DHCP datagram"
  | otherExchange device found expected =>
    device ++ ": discarding reply with xid " ++ Packet.xidText found ++ " (expected " ++
      Packet.xidText expected ++ ")"
  | unexpected device kind phase =>
    device ++ ": discarding " ++ MessageType.nameOfNumber kind ++ " while " ++ phase
  | received device kind address priority =>
    let origin := match address with
      | some address => "for " ++ address.toText
      | none => "ProxyDHCP"
    device ++ ": received " ++ MessageType.nameOfNumber kind ++ " " ++ origin ++ " (priority " ++
      toString priority ++ ")"
  | outranked device priority held =>
    device ++ ": ignoring reply with priority " ++ toString priority ++ " (holding priority " ++
      toString held ++ ")"
  | waiting device => device ++ ": waiting for ProxyDHCP offers"
  | requesting device address noProxy =>
    device ++ ": requesting " ++ address.toText ++ (if noProxy then " (ProxyDHCP disabled)" else "")
  | overriding device priority =>
    device ++ ": accepting DHCPACK over stored priority " ++ toString priority ++ " reply"
  | proxyDropped device => device ++ ": discarding ProxyDHCP reply"
  | complete device elapsed => device ++ ": DHCP complete in " ++ duration elapsed ++ "s"
  | failed device reason => device ++ ": DHCP failed: " ++ reason
  | registered path => "Registered settings " ++ path
  | unregistering path => "Unregistering settings " ++ path
  | unshowable setting reason => "Could not format setting " ++ setting ++ ": " ++ reason
  | bound interface => "Bound to interface: " ++ interface
  | notBound interface reason => "Could not bind to interface " ++ interface ++ ": " ++ reason
  | arrived length host port =>
    "Received " ++ toString length ++ " bytes from " ++ host ++ ":" ++ toString port
  | receiveFailed reason => "Receive failed: " ++ reason
  | sent length host port =>
    "Sent " ++ toString length ++ " bytes to " ++ host ++ ":" ++ toString port

end LogEvent
end NetBoot
