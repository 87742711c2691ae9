/-
# Address lists in leases and in settings

A lease takes the routers and the name servers from their options by itself, and a reader asks
for them as settings, which have rules of their own: one shows the first address, the other one
joins all of them.  Both say the same of every value.  The addresses are the complete groups of
four bytes in their order, and what is left at the end is no address.
-/
import NetBoot.Proofs.Lease.Contents

namespace NetBoot

namespace Address

variable {bytes : Bytes} {addresses : List Address}

/-- A byte string is made up of addresses, and at the end of fewer bytes than another one needs. -/
def MakeUp (addresses : List Address) (bytes : Bytes) : Prop :=
  ∃ tail : Bytes, bytes = addresses.flatMap toBytes ++ tail ∧ tail.length < 4

theorem groups_eq_nil (short : bytes.length < 4) : groups bytes = [] := by
  unfold groups
  split
  · simp only [List.length_cons] at short
    omega
  · rfl

/-- The groups of a byte string are the addresses that make it up, so no other ones do. -/
theorem groups_eq_iff : groups bytes = addresses ↔ MakeUp addresses bytes := by
  constructor
  · rintro rfl
    induction bytes using groups.induct with
    | case1 first second third fourth rest ih =>
      obtain ⟨tail, parts, short⟩ := ih
      refine ⟨tail, ?_, short⟩
      rw [groups, List.flatMap_cons, List.append_assoc, ← parts]
      rfl
    | case2 bytes short =>
      refine ⟨bytes, ?_, length_lt_of_short short⟩
      rw [groups, List.flatMap_nil, List.nil_append]
      exact short
  · rintro ⟨tail, rfl, short⟩
    induction addresses with
    | nil => exact groups_eq_nil short
    | cons address addresses ih => exact congrArg (address :: ·) ih

end Address

namespace Lease

variable {reply : Packet} {proxy : Option Packet} {now : Moment} {lease : Lease}

/-- Valid replies make a lease if and only if that ends within the calendar. -/
theorem exists_ofReplies_iff_within (valid : reply.isValid = true)
    (proxied : ∀ packet ∈ proxy, packet.isValid = true) :
    (∃ lease, ofReplies reply proxy now = .ok lease) ↔
      ∀ seconds, leaseSeconds reply = some seconds → seconds ≠ 0 →
        now.micros + seconds * 1000000 < Moment.limit := by
  rw [exists_ofReplies_iff valid proxied]
  cases leaseSeconds reply with
  | none => exact iff_of_true ⟨none, rfl⟩ (by simp)
  | some seconds =>
    simp only [Option.some_inj, forall_eq']
    by_cases zero : seconds = 0
    · exact ⟨fun _ given => absurd zero given, fun _ => ⟨none, if_pos zero⟩⟩
    · rw [expiry, if_neg zero]
      cases later : now.addSeconds? seconds with
      | none =>
        have late : ¬ now.micros + seconds * 1000000 < Moment.limit := fun within =>
          Option.some_ne_none _ ((if_pos within).symm.trans later)
        exact iff_of_false (by simp) fun within => late (within zero)
      | some ends =>
        have within : now.micros + seconds * 1000000 < Moment.limit := by
          by_contra late
          exact Option.some_ne_none _ (later.symm.trans (if_neg late))
        exact iff_of_true ⟨some ends, rfl⟩ fun _ => within

/-- Both lists of a lease come from their options alone. -/
theorem lists_of_ofReplies (valid : reply.isValid = true)
    (proxied : ∀ packet ∈ proxy, packet.isValid = true)
    (made : ofReplies reply proxy now = .ok lease) :
    lease.gateway = (addressList (reply.fetch Tag.router)).head? ∧
      lease.dnsServers = addressList (reply.fetch Tag.dnsServer) := by
  obtain ⟨address, haddress, -⟩ := Packet.exists_address valid .your
  obtain ⟨xid, hxid⟩ := Packet.exists_word valid .xid
  obtain ⟨hardware, hhardware⟩ := Packet.exists_hardwareAddress valid
  rw [ofReplies, nextServerOf_bootSources valid proxied, haddress, hxid, hhardware] at made
  cases hends : expiry now (leaseSeconds reply) with
  | error cause =>
    rw [hends] at made
    cases made
  | ok ends =>
    rw [hends] at made
    obtain rfl := Except.ok.inj made
    exact ⟨rfl, rfl⟩

/-- The gateway setting shows the first address of a list. -/
theorem fetchText_gateway (fetch : Tag → Option Bytes) : ∃ setting,
    Setting.named? "gateway" = some setting ∧
      setting.fetchText fetch = .ok (addressList (fetch Tag.router)).head? := by
  refine ⟨⟨"gateway", Tag.router, "ipv4", "Default gateway"⟩, by decide, ?_⟩
  rw [Setting.fetchText_eq rfl, List.head?_eq_getElem?, getElem?_addressList]
  simp only [Setting.toOption_showValue_address]

/-- The setting for name servers shows a whole list, and nothing if the option is absent. -/
theorem fetchText_dns (fetch : Tag → Option Bytes) : ∃ setting,
    Setting.named? "dns" = some setting ∧ setting.fetchText fetch =
      .ok ((fetch Tag.dnsServer).map fun data => ", ".intercalate (addressList (some data))) := by
  refine ⟨⟨"dns", Tag.dnsServer, "ipv4_list", "DNS servers"⟩, by decide, ?_⟩
  rw [Setting.fetchText_eq rfl]
  cases fetch Tag.dnsServer <;> rfl

theorem exists_addressList (value : Option Bytes) : ∃ addresses : List Address,
    Address.MakeUp addresses (value.getD []) ∧ addressList value = addresses.map Address.toText :=
  ⟨Address.groups (value.getD []), Address.groups_eq_iff.mp rfl, rfl⟩

/-- Whatever a valid acknowledgement has as routers and as name servers, its lease and its settings
agree on both: the gateway setting shows the gateway of the lease, and the setting for name servers
the servers of the lease, put together, which is nothing if there are none.  The gateway is the
first one of the routers, and each list consists of the addresses that make up the option. -/
theorem settings_show_addresses_of_lease (valid : reply.isValid = true)
    (proxied : ∀ packet ∈ proxy, packet.isValid = true) {block : Block}
    (received : block.packet? = some reply) :
    ((∃ lease, ofReplies reply proxy now = .ok lease) ↔
      ∀ seconds, leaseSeconds reply = some seconds → seconds ≠ 0 →
        now.micros + seconds * 1000000 < Moment.limit) ∧
    ∀ lease, ofReplies reply proxy now = .ok lease →
      (∃ setting, Setting.named? "gateway" = some setting ∧
        setting.fetchText block.fetch = .ok lease.gateway) ∧
      (∃ setting text, Setting.named? "dns" = some setting ∧
        setting.fetchText block.fetch = .ok text ∧
        ", ".intercalate lease.dnsServers = text.getD "") ∧
      (∃ routers, Address.MakeUp routers ((block.fetch Tag.router).getD []) ∧
        lease.gateway = (routers.map Address.toText).head?) ∧
      ∃ servers, Address.MakeUp servers ((block.fetch Tag.dnsServer).getD []) ∧
        lease.dnsServers = servers.map Address.toText := by
  have fetched : block.fetch = reply.fetch := by
    funext tag
    rw [Block.packet?] at received
    split at received
    · cases received
    next packet contents =>
      obtain rfl := Option.some.inj received
      rw [Block.fetch, contents]
  rw [fetched]
  refine ⟨exists_ofReplies_iff_within valid proxied, fun lease made => ?_⟩
  obtain ⟨gateway, servers⟩ := lists_of_ofReplies valid proxied made
  rw [gateway, servers]
  obtain ⟨routers, hrouters, hgateway⟩ := exists_addressList (reply.fetch Tag.router)
  refine ⟨fetchText_gateway reply.fetch, ?_, ⟨routers, hrouters, by rw [hgateway]⟩,
    exists_addressList (reply.fetch Tag.dnsServer)⟩
  obtain ⟨setting, named, shown⟩ := fetchText_dns reply.fetch
  refine ⟨setting, _, named, shown, ?_⟩
  cases reply.fetch Tag.dnsServer <;> rfl

/-- A router of three bytes, and two servers for names of which the second one stands in two
options, with two bytes behind it. -/
theorem divided_server_is_shown :
    ∃ reply : Packet, reply.isValid = true ∧ ∃ lease,
      ofReplies reply none ⟨0, none⟩ = .ok lease ∧ lease.gateway = none ∧
        lease.dnsServers = ["8.8.8.8", "1.0.0.1"] := by
  let reply := Packet.ofBytes (bootPacket .unspecified []
    [3, 3, 10, 0, 0, 6, 5, 8, 8, 8, 8, 1, 6, 5, 0, 0, 1, 7, 7, 255])
  have valid : reply.isValid = true := by decide +kernel
  have router : reply.fetch Tag.router = some [10, 0, 0] := by decide +kernel
  have servers : reply.fetch Tag.dnsServer = some [8, 8, 8, 8, 1, 0, 0, 1, 7, 7] := by
    decide +kernel
  have timeless : leaseSeconds reply = none := by decide +kernel
  clear_value reply
  let block : Block := ⟨"dhcp", .reply reply, none, []⟩
  obtain ⟨made, agrees⟩ :=
    @settings_show_addresses_of_lease _ none ⟨0, none⟩ valid (by simp) block rfl
  obtain ⟨lease, hlease⟩ := made.mpr (by simp [timeless])
  obtain ⟨-, -, ⟨routers, hrouters, gateway⟩, names, hnames, shown⟩ := agrees lease hlease
  change Address.MakeUp routers ((reply.fetch Tag.router).getD []) at hrouters
  change Address.MakeUp names ((reply.fetch Tag.dnsServer).getD []) at hnames
  rw [router] at hrouters
  rw [servers] at hnames
  refine ⟨_, valid, lease, hlease, ?_, ?_⟩
  · rw [gateway, ← Address.groups_eq_iff.mpr hrouters]
    decide +kernel
  · rw [shown, ← Address.groups_eq_iff.mpr hnames]
    decide +kernel

end Lease
end NetBoot
