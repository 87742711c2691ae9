/-
# Settings blocks

A settings block has a name and answers for option values.  A plain block keeps
them in memory; a reply block answers from a received packet.  A block may have a
parent and children, which are given by their numbers in a settings tree.
-/
import NetBoot.Packet.Reply

namespace NetBoot

/-- The number of a block in its tree. -/
abbrev BlockId := Nat

/-- Where a block keeps its values. -/
inductive BlockContents
  | values (entries : OptionMap)
  | reply (packet : Packet)
  deriving DecidableEq, Repr

/-- A settings block. -/
structure Block where
  name : String
  contents : BlockContents
  parent : Option BlockId
  children : List BlockId
  deriving DecidableEq, Repr

namespace Block

/-- The name of a block made from a reply, unless it is given another. -/
def replyName : String := "dhcp"

/-- The name under which a proxy reply is registered. -/
def proxyName : String := "proxydhcp"

/-- A plain block without values. -/
def plain (name : String) : Block := ⟨name, .values [], none, []⟩

/-- The block of received data. -/
def ofReply (data : Bytes) (name : String) : Block := ⟨name, .reply (.ofBytes data), none, []⟩

/-- The value of an option in this block alone. -/
def fetch (block : Block) (tag : Tag) : Option Bytes :=
  match block.contents with
  | .values entries => entries.get? tag
  | .reply packet => packet.fetch tag

/-- Set the value of an option in this block, or remove it. -/
def store (block : Block) (tag : Tag) (value : Option Bytes) : Except Packet.Error Block :=
  match block.contents with
  | .values entries => .ok { block with contents := .values (entries.update tag value) }
  | .reply packet =>
    (packet.store tag value).map fun packet => { block with contents := .reply packet }

/-- The packet of a reply block. -/
def packet? (block : Block) : Option Packet :=
  match block.contents with
  | .values _ => none
  | .reply packet => some packet

/-- The kind of block and its name. -/
def summary (block : Block) : String :=
  let kind := match block.contents with
    | .values _ => "Settings"
    | .reply _ => "DHCPSettings"
  kind ++ "(" ++ Text.Quoted.ofText block.name ++ ")"

end Block
end NetBoot
