/-
# What a proxy reply can say in a lease

Nobody vouches for a proxy server.  So whatever its reply holds, the address, the network
settings, the times and the server of a lease are those of the acknowledgement; a proxy reply
can only say where to boot from.  There each setting is looked for by itself: the word of the
proxy server counts if it has one, and otherwise that of the acknowledgement.

The name of the boot file is the exception, because an option and a field of the header can hold
it.  The options of both replies are asked before the headers of both, so a proxy server that
names its file in the header is not heard if the acknowledgement has an option.
-/
import NetBoot.Lease
import NetBoot.Proofs.Packet.Full

namespace NetBoot.Lease

variable {reply packet : Packet} {proxy other : Option Packet} {now : Moment}

/-! ## What one packet says -/

/-- The text of a setting that a packet has, unless it is empty. -/
def stated (name : String) (packet : Packet) : Option String :=
  (settingOf name packet).filter (· ≠ "")

/-- The address of the next server in a packet, unless it is unspecified. -/
def statedServer (packet : Packet) : Option String :=
  match packet.address .server with
  | .ok address => if address = Address.unspecified then none else some address.toText
  | .error _ => none

/-- The name of the boot file that a packet gives: in an option or, failing that, in its
header.  Empty names do not count. -/
def bootName? (packet : Packet) : Option String :=
  (stated "filename" packet).or ((headerFile packet).filter (· ≠ ""))

/-- The first packet that states a setting counts. -/
theorem bootSetting_cons (name : String) (packet : Packet) (rest : List Packet) :
    bootSetting name (packet :: rest) = (stated name packet).or (bootSetting name rest) := by
  rw [bootSetting, List.findSome?_cons, stated]
  cases (settingOf name packet).filter (· ≠ "") <;> rfl

theorem headerServer_eq (valid : packet.isValid = true) :
    headerServer packet = .ok (statedServer packet) := by
  obtain ⟨address, haddress, -⟩ := Packet.exists_address valid .server
  rw [headerServer, statedServer, haddress]
  rfl

/-- The first valid packet that states a next server counts. -/
theorem nextServerOf_cons (valid : packet.isValid = true) {rest : List Packet}
    {server : Option String} (h : nextServerOf rest = .ok server) :
    nextServerOf (packet :: rest) = .ok ((statedServer packet).or server) := by
  rw [nextServerOf, headerServer_eq valid]
  cases statedServer packet with
  | some found => rfl
  | none => exact h

/-- The options of two packets are asked for the boot file before their headers. -/
theorem bootFileOf_pair (first second : Packet) :
    bootFileOf [first, second] =
      (stated "filename" first).or ((stated "filename" second).or
        ((headerFile first).or (headerFile second))) := by
  rw [bootFileOf, bootSetting_cons, bootSetting_cons]
  cases stated "filename" first with
  | some file => rfl
  | none =>
    cases stated "filename" second with
    | some file => rfl
    | none => cases hfirst : headerFile first <;> cases hsecond : headerFile second <;>
        simp [bootSetting, hfirst, hsecond]

/-! ## What a proxy reply changes -/

/-- A lease with what a proxy reply says, if there is one, where `reply` is the
acknowledgement. -/
def heeding (lease : Lease) (reply : Packet) (proxy : Option Packet) : Lease :=
  { lease with
    nextServer := (proxy.bind statedServer).or lease.nextServer
    tftpServer := (proxy.bind (stated "tftp-server")).or lease.tftpServer
    bootFile := bootFileOf (bootSources reply proxy)
    rootPath := (proxy.bind (stated "root-path")).or lease.rootPath
    fromProxy := proxy.isSome
    proxyOptions := (proxy.map Packet.options).getD [] }

theorem bootSetting_bootSources (name : String) (reply : Packet) (proxy : Option Packet) :
    bootSetting name (bootSources reply proxy) =
      (proxy.bind (stated name)).or (bootSetting name (bootSources reply none)) := by
  cases proxy with
  | none => rfl
  | some packet => exact bootSetting_cons name packet [reply]

theorem nextServerOf_bootSources (valid : reply.isValid = true)
    (proxied : ∀ packet ∈ proxy, packet.isValid = true) :
    nextServerOf (bootSources reply proxy) =
      .ok ((proxy.bind statedServer).or (statedServer reply)) := by
  have alone : nextServerOf [reply] = .ok (statedServer reply) :=
    (nextServerOf_cons valid rfl).trans (by rw [Option.or_none])
  cases proxy with
  | none => exact alone
  | some packet => exact nextServerOf_cons (proxied packet rfl) alone

/-- The lease of a valid acknowledgement and a valid proxy reply is that of the acknowledgement
alone, with what the proxy reply says; and if there is no lease, no proxy reply helps. -/
theorem ofReplies_eq (valid : reply.isValid = true)
    (proxied : ∀ packet ∈ proxy, packet.isValid = true) (now : Moment) :
    ofReplies reply proxy now =
      (ofReplies reply none now).map fun lease => lease.heeding reply proxy := by
  obtain ⟨address, haddress, -⟩ := Packet.exists_address valid .your
  obtain ⟨xid, hxid⟩ := Packet.exists_word valid .xid
  obtain ⟨hardware, hhardware⟩ := Packet.exists_hardwareAddress valid
  rw [ofReplies, ofReplies, nextServerOf_bootSources valid proxied,
    nextServerOf_bootSources valid (by simp), haddress, hxid, hhardware]
  cases expiry now (leaseSeconds reply) with
  | error cause => rfl
  | ok ends =>
    rw [bootSetting_bootSources "tftp-server", bootSetting_bootSources "root-path"]
    rfl

/-- Valid replies make a lease, unless that would end after the calendar. -/
theorem exists_ofReplies_iff (valid : reply.isValid = true)
    (proxied : ∀ packet ∈ proxy, packet.isValid = true) (now : Moment) :
    (∃ lease, ofReplies reply proxy now = .ok lease) ↔
      ∃ ends, expiry now (leaseSeconds reply) = .ok ends := by
  obtain ⟨address, haddress, -⟩ := Packet.exists_address valid .your
  obtain ⟨xid, hxid⟩ := Packet.exists_word valid .xid
  obtain ⟨hardware, hhardware⟩ := Packet.exists_hardwareAddress valid
  rw [ofReplies, nextServerOf_bootSources valid proxied, haddress, hxid, hhardware]
  cases expiry now (leaseSeconds reply) with
  | error cause => exact ⟨fun ⟨_, made⟩ => (nomatch made), fun ⟨_, within⟩ => (nomatch within)⟩
  | ok ends => exact ⟨fun _ => ⟨ends, rfl⟩, fun _ => ⟨_, rfl⟩⟩

/-! ## Where to boot from -/

/-- The bytes of a packet with the address of a next server and the name of a boot file in its
header, and a block of options. -/
def bootPacket (server : Address) (file options : Bytes) : Bytes :=
  Bytes.zeros 20 ++ server.toBytes ++ Bytes.zeros 84 ++ file.padRight 128 ++
    [0x63, 0x82, 0x53, 0x63] ++ options

/-- Two leases agree on the address, the network settings, the times, the server, the exchange
and the options of the acknowledgement. -/
structure SameNetwork (first second : Lease) : Prop where
  address : first.address = second.address
  subnetMask : first.subnetMask = second.subnetMask
  gateway : first.gateway = second.gateway
  dnsServers : first.dnsServers = second.dnsServers
  domainName : first.domainName = second.domainName
  hostname : first.hostname = second.hostname
  leaseTime : first.leaseTime = second.leaseTime
  serverId : first.serverId = second.serverId
  transaction : first.transaction = second.transaction
  clientAddress : first.clientAddress = second.clientAddress
  obtained : first.obtained = second.obtained
  expires : first.expires = second.expires
  options : first.options = second.options

/-- With one valid acknowledgement, whatever two proxy servers reply or if one does not, there is
a lease in both cases or in none, and the leases agree on everything but where to boot from.  The
server and the path to boot from are what the proxy reply states, each by itself, and otherwise
what the acknowledgement alone gives. -/
theorem proxy_says_only_where_to_boot (valid : reply.isValid = true)
    (proxied : ∀ packet ∈ proxy, packet.isValid = true)
    (proxied' : ∀ packet ∈ other, packet.isValid = true) (now : Moment) :
    (∀ cause, ofReplies reply proxy now = .error cause ↔
      ofReplies reply other now = .error cause) ∧
    ∀ lease, ofReplies reply proxy now = .ok lease →
      ∃ second alone, ofReplies reply other now = .ok second ∧
        ofReplies reply none now = .ok alone ∧ lease.SameNetwork second ∧
        lease.tftpServer = (proxy.bind (stated "tftp-server")).or alone.tftpServer ∧
        lease.rootPath = (proxy.bind (stated "root-path")).or alone.rootPath ∧
        lease.nextServer = (proxy.bind statedServer).or alone.nextServer := by
  rw [ofReplies_eq valid proxied, ofReplies_eq valid proxied']
  cases ofReplies reply none now with
  | error cause => exact ⟨fun _ => .rfl, fun lease made => nomatch made⟩
  | ok alone =>
    refine ⟨fun cause => by simp [Except.map], fun lease made => ?_⟩
    obtain rfl := Except.ok.inj made
    refine ⟨_, alone, rfl, rfl, ?_, rfl, rfl, rfl⟩
    constructor <;> rfl

/-- An acknowledgement names a server, its address and a path to boot from.  A proxy server has
another name and another address for the server, and a path that is empty. -/
theorem proxy_heard_for_its_server :
    ∃ reply proxy : Packet, reply.isValid = true ∧ proxy.isValid = true ∧
      ∃ lease alone, ofReplies reply (some proxy) ⟨0, none⟩ = .ok lease ∧
        ofReplies reply none ⟨0, none⟩ = .ok alone ∧ lease.SameNetwork alone ∧
        lease.tftpServer = some "b" ∧ lease.rootPath = some "/" ∧
        lease.nextServer = some "10.0.0.2" := by
  let reply := Packet.ofBytes (bootPacket ⟨10, 0, 0, 1⟩ [] [66, 1, 97, 17, 1, 47, 255])
  let proxy := Packet.ofBytes (bootPacket ⟨10, 0, 0, 2⟩ [] [66, 1, 98, 17, 1, 0, 255])
  have valid : reply.isValid = true := by decide +kernel
  have proxied : proxy.isValid = true := by decide +kernel
  obtain ⟨htftp, hroot, hserver⟩ : stated "tftp-server" proxy = some "b" ∧
    stated "root-path" proxy = none ∧ statedServer proxy = some "10.0.0.2" := by decide +kernel
  have hpath : (ofReplies reply none ⟨0, none⟩).map Lease.rootPath = .ok (some "/") := by
    decide +kernel
  have within : expiry ⟨0, none⟩ (leaseSeconds reply) = .ok none := by decide +kernel
  clear_value reply proxy
  have proxied' : ∀ packet ∈ some proxy, packet.isValid = true := by simpa using proxied
  have unproxied : ∀ packet ∈ (none : Option Packet), packet.isValid = true := by simp
  obtain ⟨lease, made⟩ := (exists_ofReplies_iff valid proxied' ⟨0, none⟩).mpr ⟨_, within⟩
  obtain ⟨second, alone, hsecond, halone, same, tftp, root, server⟩ :=
    (proxy_says_only_where_to_boot valid proxied' unproxied ⟨0, none⟩).2 _ made
  rw [halone] at hpath
  rw [Option.bind_some, htftp, Option.some_or] at tftp
  rw [Option.bind_some, hserver, Option.some_or] at server
  rw [Option.bind_some, hroot, Option.none_or, Except.ok.inj hpath] at root
  exact ⟨reply, proxy, valid, proxied, lease, second, made, hsecond, same, tftp, root, server⟩

/-- The boot file of a lease is named by the option of the proxy reply, the option of the
acknowledgement, the header of the proxy reply or the header of the acknowledgement, in this
order.  So the name that a proxy server gives counts if and only if it stands in an option, or
the acknowledgement has no option with another one.  (There is a lease unless it would end after
the calendar.) -/
theorem proxy_names_bootFile_iff (valid : reply.isValid = true) (proxied : packet.isValid = true)
    (now : Moment) :
    ((∃ lease, ofReplies reply (some packet) now = .ok lease) ↔
      ∃ ends, expiry now (leaseSeconds reply) = .ok ends) ∧
    ∀ lease, ofReplies reply (some packet) now = .ok lease →
      lease.bootFile = (stated "filename" packet).or ((stated "filename" reply).or
        ((headerFile packet).or (headerFile reply))) ∧
      ∀ name, bootName? packet = some name → (lease.bootFile = some name ↔
        stated "filename" packet = some name ∨ stated "filename" reply = none ∨
          stated "filename" reply = some name) := by
  have proxied' : ∀ other ∈ some packet, other.isValid = true := by simpa using proxied
  refine ⟨exists_ofReplies_iff valid proxied' now, fun lease made => ?_⟩
  have hfile : lease.bootFile = bootFileOf [packet, reply] := by
    rw [ofReplies_eq valid proxied'] at made
    cases halone : ofReplies reply none now with
    | error cause =>
      rw [halone] at made
      cases made
    | ok alone =>
      rw [halone] at made
      obtain rfl := Except.ok.inj made
      rfl
  rw [hfile, bootFileOf_pair]
  refine ⟨rfl, fun name named => ?_⟩
  rw [bootName?] at named
  cases hoption : stated "filename" packet with
  | some file =>
    rw [hoption, Option.some_or] at named
    simp [named]
  | none =>
    -- the name stands in the header
    rw [hoption, Option.none_or, Option.filter_eq_some_iff] at named
    rw [named.1]
    cases stated "filename" reply <;> simp

/-- A proxy server names the boot file in its header, and the acknowledgement names another one in
an option. -/
theorem proxy_not_heard_for_its_file :
    ∃ reply proxy : Packet, reply.isValid = true ∧ proxy.isValid = true ∧
      bootName? proxy = some "a" ∧
      ∃ lease, ofReplies reply (some proxy) ⟨0, none⟩ = .ok lease ∧ lease.bootFile = some "b" := by
  let reply := Packet.ofBytes (bootPacket .unspecified [] [67, 1, 98, 255])
  let proxy := Packet.ofBytes (bootPacket .unspecified [97] [255])
  have valid : reply.isValid = true := by decide +kernel
  have proxied : proxy.isValid = true := by decide +kernel
  have within : expiry ⟨0, none⟩ (leaseSeconds reply) = .ok none := by decide +kernel
  obtain ⟨named, unstated, stated⟩ : bootName? proxy = some "a" ∧
    stated "filename" proxy = none ∧ stated "filename" reply = some "b" := by decide +kernel
  obtain ⟨exists_iff, hfiles⟩ := proxy_names_bootFile_iff valid proxied ⟨0, none⟩
  obtain ⟨lease, made⟩ := exists_iff.mpr ⟨_, within⟩
  obtain ⟨hfile, -⟩ := hfiles lease made
  rw [unstated, stated, Option.none_or, Option.some_or] at hfile
  exact ⟨reply, proxy, valid, proxied, named, lease, made, hfile⟩

end NetBoot.Lease
