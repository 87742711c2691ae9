/-
# What a lease says

A server fills its reply as it likes, and no filling costs a client its lease.  Values that are
too short, too long, empty, split over several options or no text at all are shown as far as
that is possible, and otherwise not at all.  What the lease does say about times and addresses
stands in the replies: a lease time is the number in the first four bytes of its option, the
lease ends that many seconds later, and an address is four bytes in a row, written with dots.

Nothing can fail but the end of the lease, which has to be in the calendar.  It is if the lease
is obtained at least as long before the end of the calendar as four bytes can say.
-/
import NetBoot.Proofs.Bytes.Words
import NetBoot.Proofs.Lease.ProxyReply
import NetBoot.Proofs.Packet.Carries

namespace NetBoot

/-! ## Addresses in byte strings -/

namespace Address

variable {bytes : Bytes} {address : Address} {position : Nat}

theorem ofBytes?_eq_some_iff : ofBytes? bytes = some address ↔ bytes = address.toBytes := by
  refine ⟨fun h => ?_, fun h => h ▸ rfl⟩
  unfold ofBytes? at h
  split at h
  · obtain rfl := Option.some.inj h
    rfl
  · cases h

/-- Four bytes hold an address that is written by these bytes. -/
theorem ofBytesAt?_eq_some_iff :
    ofBytesAt? bytes position = some address ↔ address.toBytes <+: bytes.drop position := by
  rw [ofBytesAt?, ofBytes?_eq_some_iff, List.prefix_iff_eq_take, eq_comm]
  rfl

theorem ofBytesAt?_eq_none (short : bytes.length < position + 4) :
    ofBytesAt? bytes position = none := by
  rw [Option.eq_none_iff_forall_ne_some]
  intro address found
  have hlength := (ofBytesAt?_eq_some_iff.mp found).length_le
  rw [List.length_drop, show address.toBytes.length = 4 from rfl] at hlength
  omega

/-- What holds no address and more has less than four bytes. -/
theorem length_lt_of_short
    (short : ∀ first second third fourth rest, bytes ≠ first :: second :: third :: fourth :: rest) :
    bytes.length < 4 := by
  match bytes with
  | first :: second :: third :: fourth :: rest =>
    exact absurd rfl (short first second third fourth rest)
  | [] | [_] | [_, _] | [_, _, _] => simp

/-- The addresses in a byte string stand one behind the other. -/
theorem getElem?_groups (bytes : Bytes) (index : Nat) :
    (groups bytes)[index]? = ofBytesAt? bytes (4 * index) := by
  induction bytes using groups.induct generalizing index with
  | case1 first second third fourth rest ih =>
    cases index with
    | zero => rfl
    | succ index => exact ih index
  | case2 bytes short =>
    have hlength := length_lt_of_short short
    rw [groups, List.getElem?_nil, ofBytesAt?_eq_none (by omega)]
    exact short

/-- The dotted text of four bytes in a row. -/
def dottedAt? (bytes : Bytes) (position : Nat) : Option String :=
  (ofBytesAt? bytes position).map toText

end Address

open Address (ofBytesAt? dottedAt?)

/-- A valid packet has an address in each of the four fields, in the place of the field. -/
theorem Packet.exists_address_at {packet : Packet} (valid : packet.isValid = true)
    (field : Header.Place) :
    ∃ address, packet.address field = .ok address ∧
      dottedAt? packet.buffer field.offset = some address.toText := by
  obtain ⟨address, haddress, hbytes⟩ := exists_address valid field
  have full := full_of_isValid valid
  have hfield : field.offset + 4 ≤ 240 := by cases field <;> decide
  rw [Header.addressBytes, Bytes.slice_eq (by omega) (by omega) (by omega),
    show ((field.offset : Int) + 4).toNat - (field.offset : Int).toNat = 4 by omega,
    Int.toNat_natCast] at hbytes
  refine ⟨address, haddress, ?_⟩
  rw [dottedAt?, ofBytesAt?, Address.ofBytes?_eq_some_iff.mpr hbytes, Option.map_some]

/-! ## Settings as text -/

namespace Setting

/-- A rule refuses a value for what the value is, and not for want of a rule. -/
theorem showValue_ne_unknownFormat (format : ValueFormat) (data : Bytes) (name : String) :
    showValue format data ≠ .error (.unknownFormat name) := by
  cases format with
  | address | uuid =>
    rw [showValue]
    split <;> exact nofun
  | addresses | text | number | hex => exact nofun

/-- The text of a setting with a known rule is what the rule makes of the value, if there is one
and the rule takes it. -/
theorem fetchText_eq {setting : Setting} {format : ValueFormat}
    (known : ValueFormat.ofName? setting.format = some format) (fetch : Tag → Option Bytes) :
    setting.fetchText fetch =
      .ok ((fetch setting.tag).bind fun data => (showValue format data).toOption) := by
  rw [fetchText]
  cases fetch setting.tag with
  | none => rfl
  | some data =>
    simp only [showData, known, Option.bind_some]
    cases shown : showValue format data with
    | ok text => rfl
    | error cause =>
      cases cause with
      | unknownFormat name => exact absurd shown (showValue_ne_unknownFormat format data name)
      | shortAddress | shortUuid => rfl

/-- An address is shown if the value has four bytes, and other bytes behind them do not count. -/
theorem toOption_showValue_address (data : Bytes) :
    (showValue .address data).toOption = dottedAt? data 0 := by
  rw [showValue, dottedAt?, ofBytesAt?, List.drop_zero]
  cases Address.ofBytes? (data.take 4) <;> rfl

end Setting

namespace Lease

variable {reply packet : Packet} {proxy : Option Packet} {now : Moment}

/-- The settings that a lease shows. -/
def settingNames : List String :=
  ["netmask", "domain", "hostname", "lease-time", "server-id", "filename", "tftp-server",
    "root-path"]

theorem settingOf_eq {name : String} {setting : Setting} {format : ValueFormat}
    (named : Setting.named? name = some setting)
    (known : ValueFormat.ofName? setting.format = some format) (packet : Packet) :
    settingOf name packet = (packet.fetch setting.tag).bind fun data =>
      (Setting.showValue format data).toOption := by
  rw [settingOf, Setting.textOf?, named]
  exact congrArg (fun shown => shown.toOption.join) (Setting.fetchText_eq known packet.fetch)

/-- No setting of a lease fails, whatever the options of a packet hold. -/
theorem exists_fetchText {name : String} (mem : name ∈ settingNames) (packet : Packet) :
    ∃ setting, Setting.named? name = some setting ∧
      setting.fetchText packet.fetch = .ok (settingOf name packet) := by
  have known : ∀ name ∈ settingNames, ∃ setting, Setting.named? name = some setting ∧
      ∃ format, ValueFormat.ofName? setting.format = some format := by
    simp [settingNames, Setting.named?, Setting.catalog, ValueFormat.ofName?]
  obtain ⟨setting, named, format, hformat⟩ := known name mem
  refine ⟨setting, named, ?_⟩
  rw [settingOf_eq named hformat, Setting.fetchText_eq hformat]

/-- An address setting is the first four bytes of its option. -/
theorem settingOf_address {name description : String} {tag : Tag}
    (named : Setting.named? name = some ⟨name, tag, "ipv4", description⟩) (packet : Packet) :
    settingOf name packet = (packet.fetch tag).bind (dottedAt? · 0) := by
  rw [settingOf_eq named rfl]
  simp only [Setting.toOption_showValue_address]

/-! ## Times -/

theorem leaseSeconds_eq_none_iff :
    leaseSeconds packet = none ↔ Tag.leaseTime ∉ packet.options.tags := by
  rw [leaseSeconds, Option.map_eq_none_iff, Packet.fetch_of_plain packet (by decide),
    OptionMap.get?_eq_none_iff]

/-- Four bytes cannot say a longer time. -/
theorem leaseSeconds_lt {seconds : Nat} (stated : leaseSeconds packet = some seconds) :
    seconds < 2 ^ 32 := by
  rw [leaseSeconds, Option.map_eq_some_iff] at stated
  obtain ⟨data, -, rfl⟩ := stated
  exact Nat.lt_of_lt_of_eq (Bytes.toNat_lt _) (by rw [Bytes.length_padLeft_take]; rfl)

/-- The text of the lease time is the number in digits. -/
theorem settingOf_leaseTime (packet : Packet) :
    settingOf "lease-time" packet = (leaseSeconds packet).map toString := by
  have named : Setting.named? "lease-time" =
      some ⟨"lease-time", Tag.leaseTime, "uint32", "Lease time"⟩ := by decide
  rw [settingOf_eq named rfl, leaseSeconds]
  cases packet.fetch Tag.leaseTime <;> rfl

/-- The times of a lease are those that the acknowledgement states. -/
structure Timed (lease : Lease) (reply : Packet) (now : Moment) : Prop where
  /-- Only an acknowledgement without a lease time makes a lease without one. -/
  timeless_iff : lease.leaseTime = none ↔ Tag.leaseTime ∉ reply.options.tags
  /-- The lease time is the number in the first four bytes of its option. -/
  leaseTime : ∀ data, reply.options.get? Tag.leaseTime = some data →
    lease.leaseTime = some (Bytes.toNat (Bytes.padLeft 4 (data.take 4)) : Int)
  range : ∀ seconds, lease.leaseTime = some seconds → 0 ≤ seconds ∧ seconds < (2 ^ 32 : Nat)
  /-- The lease time is the number that its setting shows. -/
  text : settingOf "lease-time" reply = lease.leaseTime.map toString
  obtained : lease.obtained = some now
  /-- The lease ends if and only if it has a time other than zero, and then after this time. -/
  expires : ∀ ends, lease.expires = some ends ↔ ∃ seconds : Nat,
    lease.leaseTime = some (seconds : Int) ∧ seconds ≠ 0 ∧
      ends = { now with micros := now.micros + seconds * 1000000 }
  /-- Both moments are in the calendar, so they have a date. -/
  dated : ∀ moment, lease.obtained = some moment ∨ lease.expires = some moment →
    moment.micros < Moment.limit

variable {lease : Lease}

/-- When the stated time is over, unless it is zero. -/
def ending? (now : Moment) (packet : Packet) : Option Moment :=
  ((leaseSeconds packet).filter (· ≠ 0)).map fun seconds =>
    { now with micros := now.micros + seconds * 1000000 }

/-- A lease that is obtained early enough ends within the calendar. -/
theorem expiry_eq (early : now.micros + 2 ^ 32 * 1000000 ≤ Moment.limit) (packet : Packet) :
    expiry now (leaseSeconds packet) = .ok (ending? now packet) := by
  rw [ending?]
  cases stated : leaseSeconds packet with
  | none => rfl
  | some seconds =>
    have hseconds := leaseSeconds_lt stated
    by_cases zero : seconds = 0
    · subst zero
      rfl
    · have within : now.micros + seconds * 1000000 < Moment.limit := by omega
      rw [Option.filter_some_pos (by simpa using zero)]
      have later : now.addSeconds? seconds =
          some { now with micros := now.micros + seconds * 1000000 } := if_pos within
      simp only [expiry, if_neg zero, later, Option.map_some]

/-- The times of a lease that is obtained early enough follow from the stated time. -/
theorem timed_of_leaseSeconds (early : now.micros + 2 ^ 32 * 1000000 ≤ Moment.limit)
    (time : lease.leaseTime = (leaseSeconds reply).map fun seconds : Nat => (seconds : Int))
    (obtained : lease.obtained = some now) (expires : lease.expires = ending? now reply) :
    lease.Timed reply now := by
  have stated (seconds : Nat) :
      lease.leaseTime = some (seconds : Int) ↔ leaseSeconds reply = some seconds := by
    rw [time]
    cases leaseSeconds reply with
    | none => simp
    | some count => rw [Option.map_some, Option.some_inj, Option.some_inj, Int.natCast_inj]
  have ends (moment : Moment) : lease.expires = some moment ↔ ∃ seconds : Nat,
      lease.leaseTime = some (seconds : Int) ∧ seconds ≠ 0 ∧
        moment = { now with micros := now.micros + seconds * 1000000 } := by
    simp only [expires, ending?, Option.map_eq_some_iff, Option.filter_eq_some_iff, stated,
      and_assoc, decide_eq_true_eq, eq_comm (a := moment)]
  constructor
  case timeless_iff => rw [time, Option.map_eq_none_iff, leaseSeconds_eq_none_iff]
  case leaseTime =>
    intro data found
    rw [stated, leaseSeconds, Packet.fetch_of_plain reply (by decide), found, Option.map_some]
  case range =>
    intro seconds htime
    rw [time, Option.map_eq_some_iff] at htime
    obtain ⟨count, hcount, rfl⟩ := htime
    have hlt := leaseSeconds_lt hcount
    omega
  case text =>
    rw [settingOf_leaseTime, time, Option.map_map]
    rfl
  case obtained => exact obtained
  case expires => exact ends
  case dated =>
    rintro moment (hobtained | hends)
    · obtain rfl := Option.some.inj (obtained.symm.trans hobtained)
      omega
    · obtain ⟨seconds, htime, -, rfl⟩ := (ends moment).mp hends
      have hlt := leaseSeconds_lt ((stated seconds).mp htime)
      simp only
      omega

/-! ## Addresses -/

/-- The next server that a packet states is the address in its header. -/
theorem dottedAt?_of_statedServer (valid : packet.isValid = true) {text : String}
    (stated : statedServer packet = some text) :
    dottedAt? packet.buffer Header.Place.server.offset = some text := by
  obtain ⟨address, haddress, hdotted⟩ := Packet.exists_address_at valid .server
  rw [statedServer, haddress] at stated
  simp only at stated
  split at stated
  · cases stated
  · rw [hdotted, stated]

/-- The addresses of an option are its groups of four bytes. -/
theorem getElem?_addressList (value : Option Bytes) (index : Nat) :
    (addressList value)[index]? = value.bind (dottedAt? · (4 * index)) := by
  rw [addressList, List.getElem?_map, Address.getElem?_groups]
  cases value with
  | none =>
    rw [Option.getD_none, Address.ofBytesAt?_eq_none (by simp)]
    rfl
  | some data => rfl

/-- Each address of a lease is written by four bytes in a row of the option or the header field
that it is named after. -/
structure Addressed (lease : Lease) (reply : Packet) (proxy : Option Packet) : Prop where
  address : lease.address.isSome ∧
    lease.address = dottedAt? reply.buffer Header.Place.your.offset
  subnetMask : lease.subnetMask = (reply.options.get? Tag.subnetMask).bind (dottedAt? · 0)
  gateway : lease.gateway = (reply.options.get? Tag.router).bind (dottedAt? · 0)
  dnsServers : ∀ index : Nat, lease.dnsServers[index]? =
    (reply.options.get? Tag.dnsServer).bind (dottedAt? · (4 * index))
  serverId : lease.serverId = (reply.options.get? Tag.serverId).bind (dottedAt? · 0)
  nextServer : ∀ text, lease.nextServer = some text → ∃ packet ∈ bootSources reply proxy,
    dottedAt? packet.buffer Header.Place.server.offset = some text

/-- Whatever the options of a valid acknowledgement and of a valid proxy reply hold, if there is
one, there is a lease, and it can be written as an object.  No setting that it shows fails, and
what it says about times and addresses stands in the replies. -/
theorem valid_replies_make_lease (valid : reply.isValid = true)
    (proxied : ∀ packet ∈ proxy, packet.isValid = true)
    (early : now.micros + 2 ^ 32 * 1000000 ≤ Moment.limit) :
    (∀ name ∈ settingNames, ∀ packet ∈ bootSources reply proxy,
      ∃ setting, Setting.named? name = some setting ∧
        setting.fetchText packet.fetch = .ok (settingOf name packet)) ∧
    ∃ lease members, ofReplies reply proxy now = .ok lease ∧ lease.toJson = .object members ∧
      lease.Timed reply now ∧ lease.Addressed reply proxy := by
  refine ⟨fun name mem packet _ => exists_fetchText mem packet, ?_⟩
  obtain ⟨lease, made⟩ := (exists_ofReplies_iff valid proxied now).mpr ⟨_, expiry_eq early reply⟩
  refine ⟨lease, _, made, rfl, ?_⟩
  obtain ⟨address, haddress, hdotted⟩ := Packet.exists_address_at valid .your
  obtain ⟨xid, hxid⟩ := Packet.exists_word valid .xid
  obtain ⟨hardware, hhardware⟩ := Packet.exists_hardwareAddress valid
  rw [ofReplies, nextServerOf_bootSources valid proxied, haddress, hxid, hhardware,
    expiry_eq early] at made
  obtain rfl := Except.ok.inj made
  refine ⟨timed_of_leaseSeconds early ?_ rfl rfl, ?_⟩
  · cases leaseSeconds reply <;> rfl
  have plain (tag : Tag) (range : 1 ≤ tag ∧ tag ≤ 254) := Packet.fetch_of_plain reply range
  constructor
  case address => exact ⟨rfl, hdotted.symm⟩
  case subnetMask =>
    have named : Setting.named? "netmask" =
        some ⟨"netmask", Tag.subnetMask, "ipv4", "Subnet mask"⟩ := by decide
    rw [← plain Tag.subnetMask (by decide)]
    exact settingOf_address named reply
  case gateway =>
    rw [← plain Tag.router (by decide), ← getElem?_addressList _ 0]
    exact List.head?_eq_getElem?
  case dnsServers =>
    intro index
    rw [← plain Tag.dnsServer (by decide)]
    exact getElem?_addressList _ index
  case serverId =>
    have named : Setting.named? "server-id" =
        some ⟨"server-id", Tag.serverId, "ipv4", "DHCP server"⟩ := by decide
    rw [← plain Tag.serverId (by decide)]
    exact settingOf_address named reply
  case nextServer =>
    intro text stated
    obtain hproxy | ⟨-, hreply⟩ := Option.or_eq_some_iff.mp stated
    · obtain ⟨packet, hpacket, hserver⟩ := Option.bind_eq_some_iff.mp hproxy
      exact ⟨packet, by simp [bootSources, hpacket],
        dottedAt?_of_statedServer (proxied packet hpacket) hserver⟩
    · exact ⟨reply, by simp [bootSources], dottedAt?_of_statedServer valid hreply⟩

/-- An acknowledgement with a lease time and an address of three bytes too few, the servers for
names followed by a stray byte, and a host name that is no text, and a proxy server with an empty
name for the boot file. -/
theorem ragged_replies_make_lease :
    ∃ reply proxy : Packet, reply.isValid = true ∧ proxy.isValid = true ∧
      ∃ lease, ofReplies reply (some proxy) ⟨0, none⟩ = .ok lease ∧ lease.leaseTime = some 5 ∧
        lease.expires = some ⟨5000000, none⟩ ∧ lease.subnetMask = none ∧
        lease.dnsServers[0]? = some "8.8.4.4" ∧ lease.dnsServers[1]? = none ∧
        lease.address = some "0.0.0.0" := by
  let reply := Packet.ofBytes (bootPacket .unspecified []
    [51, 1, 5, 1, 1, 255, 6, 5, 8, 8, 4, 4, 9, 12, 1, 255, 255])
  let proxy := Packet.ofBytes (bootPacket .unspecified [] [67, 0, 255])
  have valid : reply.isValid = true := by decide +kernel
  have proxied : proxy.isValid = true := by decide +kernel
  have time : reply.options.get? Tag.leaseTime = some [5] := by decide +kernel
  have mask : reply.options.get? Tag.subnetMask = some [255] := by decide +kernel
  have servers : reply.options.get? Tag.dnsServer = some [8, 8, 4, 4, 9] := by decide +kernel
  have address : dottedAt? reply.buffer Header.Place.your.offset = some "0.0.0.0" := by
    decide +kernel
  clear_value reply proxy
  have proxied' : ∀ packet ∈ some proxy, packet.isValid = true := by simpa using proxied
  have early : (⟨0, none⟩ : Moment).micros + 2 ^ 32 * 1000000 ≤ Moment.limit := by decide
  obtain ⟨-, lease, -, made, -, timed, addressed⟩ := valid_replies_make_lease valid proxied' early
  have hseconds := timed.leaseTime _ time
  refine ⟨reply, proxy, valid, proxied, lease, made, hseconds,
    (timed.expires _).mpr ⟨5, hseconds, by decide, rfl⟩, ?_, ?_, ?_,
    addressed.address.2.trans address⟩
  · rw [addressed.subnetMask, mask]
    decide +kernel
  · rw [addressed.dnsServers, servers]
    decide +kernel
  · rw [addressed.dnsServers, servers]
    decide +kernel

end Lease
end NetBoot
