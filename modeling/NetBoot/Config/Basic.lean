/-
# Client configuration

What a client asks a server for, how it repeats itself, and which device it uses.
-/
import NetBoot.Feature
import NetBoot.Options.Tag
import NetBoot.Packet.Header
import NetBoot.Time.Retry

namespace NetBoot

/-- What every request of a client contains. -/
structure RequestTemplate where
  maxMessageSize : Int := 1500
  vendorClass : String := "PXEClient:Arch:00000:UNDI:002001"
  clientArchitecture : Int := 0
  clientNdi : List Int := [1, 2, 1]
  requestedOptions : List Int :=
    [Tag.subnetMask, Tag.router, Tag.dnsServer, Tag.logServer, Tag.hostname, Tag.domainName,
     Tag.rootPath, Tag.vendorEncap, Tag.vendorClassId, Tag.tftpServerName, Tag.bootfileName,
     Tag.bootEncap, Tag.iscsiInitiator]
  features : List Feature := Feature.usual
  deriving DecidableEq, Repr

/-- The configuration of a client. -/
structure Config where
  interface : Option String := none
  /-- An address to use instead of the interface's own. -/
  macAddress : Option String := none
  template : RequestTemplate := {}
  retry : RetryPolicy Float := RetryPolicy.usual
  /-- The size of buffer that each packet is built in. -/
  bufferLength : Int := Header.usualBuffer

end NetBoot
