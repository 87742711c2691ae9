/-
# What sessions send

A session builds every packet out of its profile and, once it requests, out of the offer that
it holds.  The profile stays, and a requesting session keeps its offer as long as it sends.
So all discoveries of a session are the same bytes, and so are all its requests.  A request
names the server and the address of the offer that the session held when it began to request,
and no discovery comes after that.  These packets, in this order, are what the network is
asked to send.
-/
import NetBoot.Proofs.Request.Contents
import NetBoot.Proofs.Session.Course
import NetBoot.Proofs.Session.Record
import Mathlib.Data.List.Pairwise

namespace NetBoot

variable {τ σ : Type}

/-- Whoever reads a packet finds a discovery that names no server and no address. -/
def Discovers (packet : Bytes) : Prop :=
  ∃ received, Packet.parse packet = .ok received ∧
    received.messageType = MessageType.discover.number ∧
    received.fetch Tag.serverId = none ∧ received.fetch Tag.requestedIp = none

/-- Whoever reads a packet finds a request that names the server and the address of an
offer. -/
def Requests (packet : Bytes) (offer : Packet) : Prop :=
  ∃ received server, Packet.parse packet = .ok received ∧
    received.messageType = MessageType.request.number ∧
    offer.fetch Tag.serverId = some server ∧ received.fetch Tag.serverId = some server ∧
    received.fetch Tag.requestedIp = some (Header.addressBytes offer.buffer .your)

/-- A session holds a reply of its exchange that offers an address. -/
def Session.HoldsOffer (session : Session τ) (tree : SettingsTree) : Prop :=
  ∃ held offer, session.response = some held ∧ tree.contentsOf? held = some (.reply offer) ∧
    offer.Offers session.xid

/-- A packet that a session hands over. -/
def Episode.packet? (episode : Episode τ) : Option Bytes :=
  match episode.deed with
  | .handed packet => some packet
  | _ => none

theorem Episode.packet?_eq_some {episode : Episode τ} {packet : Bytes} :
    episode.packet? = some packet ↔ episode.deed = .handed packet := by
  rw [packet?]
  cases episode.deed <;> simp

/-- A packet that a session hands over in a phase. -/
def Episode.packetIn? (phase : Phase) (episode : Episode τ) : Option Bytes :=
  if episode.session.phase = phase then episode.packet? else none

namespace World

/-- The entry at which a session began to request. -/
def entering? (world : World τ σ) (who : SessionId) : Option (Episode τ) :=
  (world.episodesOf who).find? fun episode => episode.session.phase = .requesting

/-- The packets that a session handed to its connection in a phase, in order. -/
def sentIn (world : World τ σ) (who : SessionId) (phase : Phase) : List Bytes :=
  (world.episodesOf who).filterMap (Episode.packetIn? phase)

theorem mem_sentIn {world : World τ σ} {who : SessionId} {phase : Phase} {packet : Bytes} :
    packet ∈ world.sentIn who phase ↔ ∃ episode ∈ world.episodesOf who,
      episode.deed = .handed packet ∧ episode.session.phase = phase := by
  rw [sentIn, List.mem_filterMap]
  refine exists_congr fun episode => and_congr_right fun _ => ?_
  rw [Episode.packetIn?]
  split
  next hphase => simp [Episode.packet?_eq_some, hphase]
  next hphase => simp [hphase]

/-- The packets that were sent, as far as the history tells. -/
theorem sentFor_recorded (world : World τ σ) (who : SessionId) :
    world.recorded.network.sentFor who = (world.episodesOf who).filterMap Episode.packet? := by
  rw [Recording.sentFor, callsOf_recorded, List.filterMap_filterMap]
  refine List.filterMap_congr fun episode _ => ?_
  rw [Episode.packet?]
  cases episode.deed <;> rfl

end World

/-! ## Single packets -/

namespace Session

variable {session next : Session τ} {tree later : SettingsTree} {packet other : Bytes}

theorem offer_of_requesting (requesting : session.phase = .requesting) :
    session.offer = session.response := if_pos requesting

theorem offer_of_discovering (discovering : session.phase = .discovering) :
    session.offer = none := by
  rw [offer, if_neg]
  simp [discovering]

/-- A requesting session holds an offer. -/
theorem Poised.holdsOffer (h : session.Poised tree) (requesting : session.phase = .requesting) :
    session.HoldsOffer tree := by
  obtain ⟨held, hheld⟩ := Option.ne_none_iff_exists'.mp (h.requesting requesting)
  obtain ⟨offer, hoffer, offers, -⟩ := h.holds held hheld
  exact ⟨held, offer, hheld, hoffer, offers⟩

/-- A discovering session builds discoveries. -/
theorem Builds.discovers (builds : session.Builds tree packet)
    (discovering : session.phase = .discovering) : Discovers packet := by
  obtain ⟨buffer, built, hbuilt, rfl⟩ := builds
  rw [offer_of_discovering discovering, Option.map_none] at hbuilt
  obtain ⟨inside, received, -, hreceived, -, hoptions⟩ := Request.parse_build hbuilt
  refine ⟨received, hreceived, ?_, ?_, ?_⟩
  · exact Request.messageType_of_contents hoptions
  · exact Request.fetch_serverId_of_contents hoptions
  · exact Request.fetch_requestedIp_of_contents hoptions

/-- A requesting session builds requests for the offer that it holds. -/
theorem Builds.requests (builds : session.Builds tree packet)
    (requesting : session.phase = .requesting) {held : BlockId} {offer : Packet}
    (hheld : session.response = some held)
    (hoffer : tree.contentsOf? held = some (.reply offer)) : Requests packet offer := by
  obtain ⟨buffer, built, hbuilt, rfl⟩ := builds
  rw [offer_of_requesting requesting, hheld, Option.map_some,
    SettingsTree.fetchAt_of_contents hoffer] at hbuilt
  obtain ⟨inside, received, -, hreceived, -, hoptions⟩ := Request.parse_build hbuilt
  obtain ⟨server, address, haccept⟩ := (Request.carries_build hbuilt).2 offer.fetch rfl
  obtain ⟨hserver, -, -, -⟩ := Request.acceptOffer_eq_ok haccept
  refine ⟨received, server, hreceived, ?_, hserver, ?_, ?_⟩
  · exact Request.messageType_of_contents hoptions
  · rw [Request.fetch_serverId_of_contents hoptions, Option.map_some, hserver]
    rfl
  · exact Request.fetch_requestedIp_of_contents hoptions

/-- Records with the same profile and offer build the same packets. -/
theorem Builds.unique (first : session.Builds tree packet) (second : next.Builds later other)
    (profile : next.profile = session.profile)
    (offer : (next.offer.map fun block => later.fetchAt block) =
      session.offer.map fun block => tree.fetchAt block) : packet = other := by
  obtain ⟨buffer, built, hbuilt, rfl⟩ := first
  obtain ⟨buffer', again, hagain, rfl⟩ := second
  rw [profile, offer] at hagain
  exact Request.encode_build_unique hbuilt hagain

end Session

/-! ## All packets of a session -/

variable [TimeScale τ]

namespace Episode

variable {first second episode : Episode τ} {packet other : Bytes}

/-- Packets that a session hands over in the same phase are the same. -/
theorem Precedes.packet_eq (h : first.Precedes second) (regular : first.Regular)
    (regular' : second.Regular) (handed : first.deed = .handed packet)
    (handed' : second.deed = .handed other)
    (phase : second.session.phase = first.session.phase) : packet = other := by
  obtain ⟨active, -, builds⟩ := regular.handed packet handed
  obtain ⟨-, attached, builds'⟩ := regular'.handed other handed'
  refine builds.unique builds' h.profile ?_
  cases hphase : first.session.phase with
  | discovering =>
    rw [Session.offer_of_discovering hphase, Session.offer_of_discovering (phase.trans hphase)]
    rfl
  | requesting =>
    have hresponse := h.response (by simp [hphase]) attached
    obtain ⟨held, hheld⟩ := Option.ne_none_iff_exists'.mp (regular.poised.requesting hphase)
    obtain ⟨offer, hoffer, -⟩ := regular.poised.holds held hheld
    rw [Session.offer_of_requesting hphase, Session.offer_of_requesting (phase.trans hphase),
      hresponse, hheld, Option.map_some, Option.map_some, SettingsTree.fetchAt_of_contents hoffer,
      SettingsTree.fetchAt_of_contents (h.retains held _ hoffer)]
  | succeeded => simp [Session.finished, hphase, Phase.terminal] at active
  | failed => simp [Session.finished, hphase, Phase.terminal] at active

end Episode

namespace World

variable {around : Surroundings τ σ} {world : World τ σ} {who : SessionId} {session : Session τ}

/-- A requesting session once began to request. -/
theorem Course.exists_entering (h : world.Course who session) {episode : Episode τ}
    (mem : episode ∈ world.episodesOf who) (requesting : episode.session.phase = .requesting) :
    ∃ entering, world.entering? who = some entering ∧ entering ∈ world.episodesOf who ∧
      entering.session.phase = .requesting ∧ (entering = episode ∨ entering.Precedes episode) := by
  have hfound : (world.entering? who).isSome = true := by
    rw [entering?, List.find?_isSome]
    exact ⟨episode, mem, by simpa using requesting⟩
  obtain ⟨entering, hentering⟩ := Option.isSome_iff_exists.mp hfound
  refine ⟨entering, hentering, ?_⟩
  obtain ⟨hphase, before, after, hepisodes, hbefore⟩ := List.find?_eq_some_iff_append.mp hentering
  have hprecedes := h.precedes
  rw [hepisodes] at mem hprecedes
  refine ⟨by simp [hepisodes], by simpa using hphase, ?_⟩
  rcases List.mem_append.mp mem with mem | mem
  · have hearly := hbefore episode mem
    simp [requesting] at hearly
  · rcases List.mem_cons.mp mem with rfl | mem
    · exact .inl rfl
    · have hlater := (List.pairwise_append.mp hprecedes).2.1
      exact .inr ((List.pairwise_cons.mp hlater).1 episode mem)

/-- Whatever a session hands over while it requests is a request for the offer that it held
when it began to request. -/
theorem Course.requests_entering (h : world.Course who session) {packet : Bytes}
    (mem : packet ∈ world.sentIn who .requesting) :
    ∃ entering held offer, world.entering? who = some entering ∧
      entering.session.response = some held ∧
      entering.tree.contentsOf? held = some (.reply offer) ∧ offer.Offers entering.session.xid ∧
      Requests packet offer := by
  obtain ⟨episode, mem, hdeed, requesting⟩ := mem_sentIn.mp mem
  obtain ⟨-, attached, builds⟩ := (h.regular episode mem).handed packet hdeed
  obtain ⟨entering, hentering, mem', requesting', hprecedes⟩ := h.exists_entering mem requesting
  obtain ⟨held, offer, hheld, hoffer, offers⟩ :=
    (h.regular entering mem').poised.holdsOffer requesting'
  refine ⟨entering, held, offer, hentering, hheld, hoffer, offers, ?_⟩
  rcases hprecedes with rfl | precedes
  · exact builds.requests requesting hheld hoffer
  · have hresponse := precedes.response (by simp [requesting']) attached
    exact builds.requests requesting (hresponse.trans hheld) (precedes.retains held _ hoffer)

/-- All packets of a phase are the same. -/
theorem Course.sentIn_unique (h : world.Course who session) {phase : Phase} {packet other : Bytes}
    (mem : packet ∈ world.sentIn who phase) (mem' : other ∈ world.sentIn who phase) :
    packet = other := by
  obtain ⟨first, mem, hdeed, hphase⟩ := mem_sentIn.mp mem
  obtain ⟨second, mem', hdeed', hphase'⟩ := mem_sentIn.mp mem'
  have regular := h.regular first mem
  have regular' := h.regular second mem'
  have precedes := List.pairwise_iff_getElem.mp h.precedes
  obtain ⟨index, within, rfl⟩ := List.getElem_of_mem mem
  obtain ⟨index', within', rfl⟩ := List.getElem_of_mem mem'
  rcases Nat.lt_trichotomy index index' with hlt | rfl | hgt
  · exact (precedes index index' within within' hlt).packet_eq regular regular' hdeed hdeed'
      (hphase'.trans hphase.symm)
  · simpa [hdeed] using hdeed'
  · exact ((precedes index' index within' within hgt).packet_eq regular' regular hdeed' hdeed
      (hphase.trans hphase'.symm)).symm

omit [TimeScale τ] in
/-- Once a session requested, it hands over no more discoveries, and it hands over nothing but in
these two phases. -/
theorem packets_in_phases {episodes : List (Episode τ)}
    (regular : ∀ episode ∈ episodes, episode.Regular)
    (ordered : episodes.Pairwise fun first second =>
      first.session.phase = .requesting → second.session.phase ≠ .discovering) :
    episodes.filterMap Episode.packet? =
      episodes.filterMap (Episode.packetIn? .discovering) ++
        episodes.filterMap (Episode.packetIn? .requesting) := by
  induction episodes with
  | nil => rfl
  | cons episode rest ih =>
    obtain ⟨own, regular⟩ := List.forall_mem_cons.mp regular
    obtain ⟨later, ordered⟩ := List.pairwise_cons.mp ordered
    have hrest := ih regular ordered
    cases hpacket : episode.packet? with
    | none => simp [Episode.packetIn?, hpacket, hrest]
    | some packet =>
      obtain ⟨active, -, -⟩ := own.handed packet (Episode.packet?_eq_some.mp hpacket)
      cases hphase : episode.session.phase with
      | discovering =>
        simp [Episode.packetIn?, hpacket, hphase, hrest]
      | requesting =>
        have undiscovered : rest.filterMap (Episode.packetIn? .discovering) = [] :=
          List.filterMap_eq_nil_iff.mpr fun other mem => if_neg (later other mem hphase)
        simp [Episode.packetIn?, hpacket, hphase, hrest, undiscovered]
      | succeeded => simp [Session.finished, hphase, Phase.terminal] at active
      | failed => simp [Session.finished, hphase, Phase.terminal] at active

/-- In every run, a requesting session holds a valid reply of its exchange that offers an
address.  What it hands to its connection while it is discovering are discoveries that name no
server and no address, and while it is requesting, requests for the offer that it held when it
began to request; it sends nothing in any other phase.  All packets of a phase are the same
bytes.  Once it requested, it never discovers again.  A network that keeps a record of the calls
made to it was sent just these packets, first the discoveries and then the requests. -/
theorem Run.requests_what_it_holds {tree : SettingsTree} {network : σ} {events : List (Event τ σ)}
    (run : Run around Possible (start tree network) events world)
    (found : world.session? who = some session) :
    (session.phase = .requesting → session.HoldsOffer world.tree) ∧
    (∀ episode ∈ world.episodesOf who, episode.session.phase = .requesting →
      episode.session.HoldsOffer episode.tree) ∧
    (∀ packet ∈ world.sentIn who .discovering, Discovers packet) ∧
    (∀ packet ∈ world.sentIn who .requesting, ∃ entering held offer,
      world.entering? who = some entering ∧ entering.session.response = some held ∧
      entering.tree.contentsOf? held = some (.reply offer) ∧
      offer.Offers entering.session.xid ∧ Requests packet offer) ∧
    (∀ phase, phase.terminal = true → world.sentIn who phase = []) ∧
    (∀ phase, ∀ packet ∈ world.sentIn who phase, ∀ other ∈ world.sentIn who phase,
      packet = other) ∧
    ((world.episodesOf who).Pairwise fun first second =>
      first.session.phase = .requesting → second.session.phase ≠ .discovering) ∧
    ∃ replayed, Replays around tree network events world replayed ∧
      replayed.network.callsOf who =
        (world.episodesOf who).filterMap (fun episode => episode.deed.call?) ∧
      replayed.network.sentFor who =
        world.sentIn who .discovering ++ world.sentIn who .requesting := by
  have course := run.course found
  have ordered : (world.episodesOf who).Pairwise fun first second =>
      first.session.phase = .requesting → second.session.phase ≠ .discovering :=
    course.precedes.imp fun {first second} precedes requesting =>
      precedes.past (by simp [requesting])
  refine ⟨course.poised.holdsOffer,
    fun episode mem => (course.regular episode mem).poised.holdsOffer, fun packet mem => ?_,
    fun packet mem => course.requests_entering mem, fun phase terminal => ?_,
    fun phase packet mem other mem' => course.sentIn_unique mem mem', ordered,
    world.recorded, run.replays, callsOf_recorded world who, ?_⟩
  · obtain ⟨episode, mem, hdeed, discovering⟩ := mem_sentIn.mp mem
    obtain ⟨-, -, builds⟩ := (course.regular episode mem).handed packet hdeed
    exact builds.discovers discovering
  · apply List.eq_nil_iff_forall_not_mem.mpr
    intro packet mem
    obtain ⟨episode, mem, hdeed, hphase⟩ := mem_sentIn.mp mem
    obtain ⟨active, -, -⟩ := (course.regular episode mem).handed packet hdeed
    simp [Session.finished, hphase, terminal] at active
  · exact (sentFor_recorded world who).trans (packets_in_phases course.regular ordered)

/-- A session that sends a discovery, and two requests for an offer that it had held back. -/
theorem requested_twice_after_wait :
    ∃ (world : World Int Script) (session : Session Int) (replayed : World Int (Recording Script))
        (discovery request : Bytes) (offer : Packet),
      Run Script.around Possible (start .empty {})
        [.start (Profile.plain 7 0) .watching, .fire ⟨0, 0, 0⟩,
          .deliver 0 (.namedReply .offer), .tick 1001, .deliver 0 (.proxyReply .offer 9),
          .fire ⟨2, 1251, 0⟩] world ∧
      world.session? 0 = some session ∧ world.sentIn 0 .discovering = [discovery] ∧
      world.sentIn 0 .requesting = [request, request] ∧ Discovers discovery ∧
      Requests request offer ∧ replayed.unrecorded = world ∧
      replayed.network.sentFor 0 = [discovery, request, request] := by
  let world := (start .empty {}).afterAll Script.around
    [.start (Profile.plain 7 0) .watching, .fire ⟨0, 0, 0⟩, .deliver 0 (.namedReply .offer),
      .tick 1001, .deliver 0 (.proxyReply .offer 9), .fire ⟨2, 1251, 0⟩]
  have run : Run Script.around Possible (start .empty {}) _ world :=
    .of_feasible (by decide +kernel)
  obtain ⟨known, once, twice⟩ : (world.session? 0).isSome = true ∧
      (world.sentIn 0 .discovering).length = 1 ∧ (world.sentIn 0 .requesting).length = 2 := by
    decide +kernel
  clear_value world
  obtain ⟨session, found⟩ := Option.isSome_iff_exists.mp known
  obtain ⟨discovery, hdiscovery⟩ := List.length_eq_one_iff.mp once
  obtain ⟨request, again, hrequests⟩ := List.length_eq_two.mp twice
  obtain ⟨-, -, discovers, requests, -, same, -, replayed, replays, -, sent⟩ :=
    run.requests_what_it_holds found
  have mem : request ∈ world.sentIn 0 .requesting := by simp [hrequests]
  have mem' : again ∈ world.sentIn 0 .requesting := by simp [hrequests]
  obtain rfl := same .requesting request mem again mem'
  obtain ⟨-, -, offer, -, -, -, -, hrequest⟩ := requests request mem
  rw [hdiscovery, hrequests] at sent
  exact ⟨world, session, replayed, discovery, request, offer, run, found, hdiscovery, hrequests,
    discovers discovery (by simp [hdiscovery]), hrequest, replays.same, sent⟩

end World
end NetBoot
