/-
# Which replies a session holds

A session keeps two replies, the best one that offers an address and the best one of a proxy
server.  A reply takes the place of the one held unless its priority is lower.  So at any
moment an active session holds, of each kind, the last among the replies of the highest
priority that it accepted; offers and acknowledgements count alike, and the replies of one
kind never touch what is held of the other.

The acknowledgement that completes a session stands apart: it is held whatever its priority,
and it makes the session forget its proxy reply if its server does not want one.
-/
import NetBoot.Proofs.Session.Budget
import NetBoot.Proofs.Session.Chronicle
import NetBoot.Proofs.Session.Retention

namespace NetBoot

/-! ## The last of the best -/

section

variable {α : Type} {rank : α → Nat} {items : List α} {item best : α}

/-- The last among the items of the highest rank, if there is any item. -/
inductive Elects (rank : α → Nat) : List α → Option α → Prop
  | nobody : Elects rank [] none
  | winner (before : List α) (best : α) (after : List α)
      (reaches : ∀ other ∈ before, rank other ≤ rank best)
      (exceeds : ∀ other ∈ after, rank other < rank best) :
      Elects rank (before ++ best :: after) (some best)

theorem Elects.eq_nil (h : Elects rank items none) : items = [] := by
  cases h
  rfl

theorem Elects.mem (h : Elects rank items (some best)) : best ∈ items := by
  cases h with
  | winner before best after => simp

theorem Elects.rank_le (h : Elects rank items (some best)) :
    ∀ other ∈ items, rank other ≤ rank best := by
  cases h with
  | winner before best after reaches exceeds =>
    intro other mem
    rcases List.mem_append.mp mem with mem | mem
    · exact reaches other mem
    · rcases List.mem_cons.mp mem with rfl | mem
      · exact Nat.le_refl _
      · exact Nat.le_of_lt (exceeds other mem)

/-- An item that reaches the rank of the one elected is elected in its place. -/
theorem Elects.take {held : Option α} (h : Elects rank items held)
    (reaches : ∀ best, held = some best → rank best ≤ rank item) :
    Elects rank (items ++ [item]) (some item) := by
  refine .winner items item [] (fun other mem => ?_) (by simp)
  cases held with
  | none =>
    rw [h.eq_nil] at mem
    simp at mem
  | some best => exact Nat.le_trans (h.rank_le other mem) (reaches best rfl)

/-- An item of a lower rank changes nothing. -/
theorem Elects.keep (h : Elects rank items (some best)) (lower : rank item < rank best) :
    Elects rank (items ++ [item]) (some best) := by
  cases h with
  | winner before best after reaches exceeds =>
    rw [List.append_assoc, List.cons_append]
    refine .winner before best (after ++ [item]) reaches ?_
    simpa [or_imp, forall_and] using ⟨exceeds, lower⟩

/-- What follows the item that is elected has lower ranks, so no other item is elected from
there on. -/
theorem Elects.eq_of_cons {before after later : List α}
    (same : item :: later = before ++ best :: after)
    (reaches : ∀ other ∈ before, rank other ≤ rank best)
    (exceeds : ∀ other ∈ later, rank other < rank item) : item = best := by
  cases before with
  | nil => exact (List.cons.inj same).1
  | cons first rest =>
    obtain ⟨rfl, rfl⟩ := List.cons.inj same
    have hle := reaches item List.mem_cons_self
    have hlt := exceeds best (by simp)
    omega

/-- The items decide which one is elected. -/
theorem Elects.unique {first second : Option α} (h : Elects rank items first)
    (h' : Elects rank items second) : first = second := by
  cases h with
  | nobody =>
    cases second with
    | none => rfl
    | some best => exact absurd h'.mem (by simp)
  | winner before best after reaches exceeds =>
    cases second with
    | none => exact absurd h'.eq_nil (by simp)
    | some other =>
      generalize hitems : before ++ best :: after = items at h'
      cases h' with
      | winner before' _ after' reaches' exceeds' =>
        -- one of the two stands where the part before the other ends, or later
        rcases List.append_eq_append_iff.mp hitems with ⟨more, rfl, hrest⟩ | ⟨more, rfl, hrest⟩
        · have hmore (item : α) (mem : item ∈ more) : rank item ≤ rank other :=
            reaches' item (List.mem_append_right before mem)
          rw [Elects.eq_of_cons hrest hmore exceeds]
        · have hmore (item : α) (mem : item ∈ more) : rank item ≤ rank best :=
            reaches item (List.mem_append_right before' mem)
          rw [Elects.eq_of_cons hrest hmore exceeds']

end

/-! ## What sessions accept -/

/-- A datagram that a session accepted, with the block that was made of it. -/
structure Acceptance where
  data : Bytes
  reply : BlockId
  deriving DecidableEq, Repr

namespace Acceptance

/-- The packet that was accepted. -/
def packet (accepted : Acceptance) : Packet := .ofBytes accepted.data

/-- The priority of the server. -/
def priority (accepted : Acceptance) : Nat := accepted.packet.priority

end Acceptance

/-- What a session accepts by a deed. -/
def Deed.acceptance? : Deed → Option Acceptance
  | .accepted data reply => some ⟨data, reply⟩
  | _ => none

theorem Deed.acceptance?_of_ends {deed : Deed} (ends : deed.ends = true) :
    deed.acceptance? = none := by
  cases deed <;> first | rfl | simp [Deed.ends] at ends

variable {τ σ : Type}

/-- The reply of a kind that a session holds. -/
def Session.slot (session : Session τ) (proxy : Bool) : Option BlockId :=
  if proxy then session.proxy else session.response

theorem Session.phase_ne_succeeded {session : Session τ} (active : session.finished = false) :
    session.phase ≠ .succeeded := by
  intro succeeded
  simp [Session.finished, succeeded, Phase.terminal] at active

namespace World

/-- What a session accepted, in order. -/
def acceptedBy (world : World τ σ) (who : SessionId) : List Acceptance :=
  (world.episodesOf who).filterMap fun episode => episode.deed.acceptance?

/-- The replies of a kind that a session accepted, in order. -/
def repliesTo (world : World τ σ) (who : SessionId) (proxy : Bool) : List Acceptance :=
  (world.acceptedBy who).filter fun accepted => accepted.packet.isProxyReply = proxy

/-- A block is that of the last among the replies of a kind that have the highest priority;
there is none only if no reply of that kind was accepted. -/
def Holds (world : World τ σ) (who : SessionId) (proxy : Bool) (slot : Option BlockId) : Prop :=
  ∃ best, Elects Acceptance.priority (world.repliesTo who proxy) best ∧
    slot = best.map Acceptance.reply

/-- A session accepted only datagrams that it waited for at that moment.  Each has a block
of its own, which still holds its packet. -/
structure Recorded (world : World τ σ) (who : SessionId) : Prop where
  awaited : ∀ episode ∈ world.episodesOf who, ∀ data reply,
    episode.deed = .accepted data reply → episode.session.Awaits data
  contents : ∀ accepted ∈ world.acceptedBy who,
    world.tree.contentsOf? accepted.reply = some (.reply accepted.packet)
  ordered : (world.acceptedBy who).Pairwise fun first second => first.reply < second.reply

/-- The last datagram that a session accepted is the acknowledgement that completed it. -/
structure Settles (world : World τ σ) (who : SessionId) (session : Session τ)
    (prior : List Acceptance) (last : Acceptance) : Prop where
  accepted : world.acceptedBy who = prior ++ [last]
  ordinary : last.packet.isProxyReply = false
  kind : last.packet.messageType = MessageType.ack.number
  response : session.response = some last.reply
  proxy : if last.packet.refusesProxy then session.proxy = none
    else world.Holds who true session.proxy

/-- An active session holds the best replies of both kinds, and one that succeeded holds its
acknowledgement and the proxy reply that it may keep. -/
structure Arbitrated (world : World τ σ) (who : SessionId) (session : Session τ) : Prop where
  recorded : world.Recorded who
  holds : session.finished = false → ∀ proxy, world.Holds who proxy (session.slot proxy)
  settles : session.phase = .succeeded → ∃ prior last, world.Settles who session prior last

section

variable {world after : World τ σ} {who : SessionId} {session next : Session τ} {data : Bytes}
  {deeds : List (Episode τ)} {outcomes : List (Option Failure)} {proxy : Bool}

theorem Acts.acceptedBy (acts : world.Acts after who next deeds outcomes) :
    after.acceptedBy who =
      world.acceptedBy who ++ deeds.filterMap fun episode => episode.deed.acceptance? := by
  rw [World.acceptedBy, acts.episodesOf, List.filterMap_append]
  rfl

/-- A session that accepts nothing. -/
theorem Acts.acceptedBy_of_quiet (acts : world.Acts after who next deeds outcomes)
    (quiet : ∀ episode ∈ deeds, episode.deed.acceptance? = none) :
    after.acceptedBy who = world.acceptedBy who := by
  rw [acts.acceptedBy, List.filterMap_eq_nil_iff.mpr quiet, List.append_nil]

theorem Spares.acceptedBy (spares : world.Spares after who) :
    after.acceptedBy who = world.acceptedBy who := by
  rw [World.acceptedBy, World.acceptedBy, spares.episodes]

theorem acceptance?_of_mem_closing {outcome : Option Failure} :
    ∀ episode ∈ world.closing who session outcome, episode.deed.acceptance? = none :=
  fun _ mem => Deed.acceptance?_of_ends (ends_of_mem_closing mem)

/-- What is accepted decides what may be held. -/
theorem Holds.congr {slot : Option BlockId} (h : world.Holds who proxy slot)
    (same : after.repliesTo who proxy = world.repliesTo who proxy) :
    after.Holds who proxy slot := by
  rw [Holds, same]
  exact h

/-- A slot is empty exactly as long as no reply of its kind was accepted. -/
theorem Holds.eq_none_iff {slot : Option BlockId} (h : world.Holds who proxy slot) :
    slot = none ↔ world.repliesTo who proxy = [] := by
  obtain ⟨best, elects, rfl⟩ := h
  cases best with
  | none => simp [elects.eq_nil]
  | some best => simp [List.ne_nil_of_mem elects.mem]

theorem Holds.unique {first second : Option BlockId} (h : world.Holds who proxy first)
    (h' : world.Holds who proxy second) : first = second := by
  obtain ⟨best, elects, rfl⟩ := h
  obtain ⟨other, elects', rfl⟩ := h'
  rw [elects.unique elects']

theorem repliesTo_congr (same : after.acceptedBy who = world.acceptedBy who) :
    after.repliesTo who proxy = world.repliesTo who proxy := by
  rw [repliesTo, repliesTo, same]

theorem reply_of_contents {block : BlockId} {packet : Packet}
    (h : world.tree.contentsOf? block = some (.reply packet)) : world.reply block = packet :=
  SettingsTree.packetAt_of_contents h

/-! ## The record of what was accepted -/

theorem Recorded.of_nil (h : world.episodesOf who = []) : world.Recorded who := by
  have haccepted : world.acceptedBy who = [] := by rw [acceptedBy, h, List.filterMap_nil]
  constructor <;> simp [h, haccepted]

/-- What others do leaves the record alone. -/
theorem Recorded.spares (h : world.Recorded who) (spares : world.Spares after who)
    (retains : world.tree.Retains after.tree) : after.Recorded who := by
  refine ⟨spares.episodes ▸ h.awaited, fun accepted mem => ?_, spares.acceptedBy ▸ h.ordered⟩
  rw [spares.acceptedBy] at mem
  exact retains _ _ (h.contents accepted mem)

/-- A session that accepts nothing leaves its record alone. -/
theorem Recorded.quiet (h : world.Recorded who)
    (acts : world.Acts after who next deeds outcomes) (retains : world.tree.Retains after.tree)
    (quiet : ∀ episode ∈ deeds, episode.deed.acceptance? = none) : after.Recorded who := by
  have haccepted := acts.acceptedBy_of_quiet quiet
  refine ⟨fun episode mem data reply hdeed => ?_, fun accepted mem => ?_, haccepted ▸ h.ordered⟩
  · rw [acts.episodesOf] at mem
    rcases List.mem_append.mp mem with mem | mem
    · exact h.awaited episode mem data reply hdeed
    · have hquiet := quiet episode mem
      simp [hdeed, Deed.acceptance?] at hquiet
  · rw [haccepted] at mem
    exact retains _ _ (h.contents accepted mem)

/-- A session accepts a datagram that it waits for, and the block of it is new. -/
theorem Recorded.accepts (h : world.Recorded who) (awaits : session.Awaits data)
    (acts : world.Acts after who next [⟨who, .accepted data world.tree.blocks.length, session,
      (world.grown data).tree, world.loop.pending, world.loop.now⟩] outcomes)
    (retains : (world.grown data).tree.Retains after.tree) : after.Recorded who := by
  have hold (accepted : Acceptance) (mem : accepted ∈ world.acceptedBy who) :
      accepted.reply < world.tree.blocks.length :=
    SettingsTree.lt_of_contentsOf? (h.contents accepted mem)
  have haccepted : after.acceptedBy who =
      world.acceptedBy who ++ [⟨data, world.tree.blocks.length⟩] := acts.acceptedBy
  refine ⟨fun episode mem data' reply hdeed => ?_, fun accepted mem => ?_, ?_⟩
  · rw [acts.episodesOf] at mem
    rcases List.mem_append.mp mem with mem | mem
    · exact h.awaited episode mem data' reply hdeed
    · obtain rfl := List.mem_singleton.mp mem
      obtain ⟨rfl, rfl⟩ : data = data' ∧ world.tree.blocks.length = reply := by simpa using hdeed
      exact awaits
  · rw [haccepted] at mem
    rcases List.mem_append.mp mem with mem | mem
    · exact retains _ _ (world.tree.retains_add _ _ _ (h.contents accepted mem))
    · obtain rfl := List.mem_singleton.mp mem
      exact retains _ _ (SettingsTree.contentsOf?_add_self _ _)
  · rw [haccepted, List.pairwise_append]
    exact ⟨h.ordered, List.pairwise_singleton _ _, by simpa using hold⟩

/-! ## The arbitration -/

/-- The reply of a kind that is held once a datagram was accepted. -/
theorem slot_keeping (world : World τ σ) (session : Session τ) (data : Bytes) (proxy : Bool) :
    (world.keeping session data).slot proxy =
      if (Packet.ofBytes data).isProxyReply = proxy ∧
          world.rank session data ≤ (Packet.ofBytes data).priority then
        some world.tree.blocks.length
      else session.slot proxy := by
  rw [keeping]
  by_cases hrank : world.rank session data ≤ (Packet.ofBytes data).priority <;>
    cases (Packet.ofBytes data).isProxyReply <;> cases proxy <;> simp [hrank, Session.slot]

/-- The priority that a reply must reach is that of the best one of its kind so far. -/
theorem rank_eq (h : world.Recorded who) {best : Option Acceptance}
    (elects : Elects Acceptance.priority
      (world.repliesTo who (Packet.ofBytes data).isProxyReply) best)
    (slot : session.slot (Packet.ofBytes data).isProxyReply = best.map Acceptance.reply) :
    world.rank session data = (best.map Acceptance.priority).getD 0 := by
  rw [World.rank]
  change ((session.slot (Packet.ofBytes data).isProxyReply).map _).getD 0 = _
  rw [slot]
  cases best with
  | none => rfl
  | some best =>
    have mem : best ∈ world.acceptedBy who := List.mem_of_mem_filter elects.mem
    have hcontents := world.tree.retains_add (.ofReply data Block.replyName) _ _
      (h.contents best mem)
    have hreply : (world.grown data).reply best.reply = best.packet :=
      reply_of_contents hcontents
    simp only [Option.map_some, Option.getD_some, hreply]
    rfl

/-- A session that accepts a datagram holds the best reply of each kind afterwards. -/
theorem Arbitrated.holds_keeping (h : world.Arbitrated who session)
    (active : session.finished = false)
    (accepted : after.acceptedBy who =
      world.acceptedBy who ++ [⟨data, world.tree.blocks.length⟩]) (proxy : Bool) :
    after.Holds who proxy ((world.keeping session data).slot proxy) := by
  let item : Acceptance := ⟨data, world.tree.blocks.length⟩
  rw [slot_keeping]
  by_cases hkind : (Packet.ofBytes data).isProxyReply = proxy
  · have hreplies : after.repliesTo who proxy = world.repliesTo who proxy ++ [item] := by
      rw [repliesTo, accepted, List.filter_append, List.filter_singleton]
      simp [Acceptance.packet, hkind, repliesTo, item]
    subst hkind
    obtain ⟨best, elects, hslot⟩ := h.holds active (Packet.ofBytes data).isProxyReply
    have hrank := rank_eq h.recorded elects hslot
    rw [Holds, hreplies]
    by_cases hreaches : world.rank session data ≤ (Packet.ofBytes data).priority
    · rw [if_pos ⟨rfl, hreaches⟩]
      refine ⟨some item, elects.take ?_, rfl⟩
      rintro best rfl
      rw [hrank] at hreaches
      exact hreaches
    · rw [if_neg fun both => hreaches both.2]
      cases best with
      | none =>
        rw [hrank] at hreaches
        exact absurd (Nat.zero_le _) hreaches
      | some best =>
        rw [hrank] at hreaches
        exact ⟨some best, elects.keep (Nat.lt_of_not_le hreaches), hslot⟩
  · -- the reply is of the other kind
    have hreplies : after.repliesTo who proxy = world.repliesTo who proxy := by
      rw [repliesTo, accepted, List.filter_append, List.filter_singleton]
      simp [Acceptance.packet, hkind, repliesTo]
    rw [if_neg fun both => hkind both.1]
    exact (h.holds active proxy).congr hreplies

/-- A session that accepts nothing holds what it held. -/
theorem Arbitrated.quiet (h : world.Arbitrated who session) (active : session.finished = false)
    (acts : world.Acts after who next deeds outcomes) (retains : world.tree.Retains after.tree)
    (quiet : ∀ episode ∈ deeds, episode.deed.acceptance? = none)
    (slot : next.slot = session.slot) (unsucceeded : next.phase ≠ .succeeded) :
    after.Arbitrated who next := by
  have hreplies (proxy : Bool) : after.repliesTo who proxy = world.repliesTo who proxy :=
    repliesTo_congr (acts.acceptedBy_of_quiet quiet)
  refine ⟨h.recorded.quiet acts retains quiet, fun _ proxy => ?_, fun succeeded =>
    absurd succeeded unsucceeded⟩
  rw [slot]
  exact (h.holds active proxy).congr (hreplies proxy)

/-- A session that fails accepts nothing more. -/
theorem Arbitrated.failed (h : world.Arbitrated who session)
    (found : world.session? who = some session) (active : session.finished = false)
    (failure : Failure) : (world.ended who session (some failure)).Arbitrated who
      { session.ended (some failure) with timer := (session.timer.stop world.loop).1 } :=
  h.quiet active (acts_ended found _) (.refl _) acceptance?_of_mem_closing rfl
    (by simp [Session.ended])

/-- A session that did nothing yet and holds nothing. -/
theorem arbitrated_of_nil (h : world.episodesOf who = [])
    (slot : ∀ proxy, session.slot proxy = none) (unsucceeded : session.phase ≠ .succeeded) :
    world.Arbitrated who session := by
  refine ⟨.of_nil h, fun _ proxy => ⟨none, ?_, slot proxy⟩, fun succeeded =>
    absurd succeeded unsucceeded⟩
  rw [repliesTo, acceptedBy, h]
  exact .nobody

/-- What others do changes nothing. -/
theorem Arbitrated.spares (h : world.Arbitrated who session) (spares : world.Spares after who)
    (retains : world.tree.Retains after.tree) : after.Arbitrated who session := by
  have hreplies (proxy : Bool) : after.repliesTo who proxy = world.repliesTo who proxy :=
    repliesTo_congr spares.acceptedBy
  refine ⟨h.recorded.spares spares retains, fun active proxy =>
    (h.holds active proxy).congr (hreplies proxy), fun succeeded => ?_⟩
  obtain ⟨prior, last, settles⟩ := h.settles succeeded
  refine ⟨prior, last, spares.acceptedBy.trans settles.accepted, settles.ordinary, settles.kind,
    settles.response, ?_⟩
  have hproxy := settles.proxy
  split
  next refuses => simpa [refuses] using hproxy
  next allows =>
    rw [if_neg allows] at hproxy
    exact hproxy.congr (hreplies true)

/-- A session that accepts a datagram and stays active. -/
theorem Arbitrated.admitted (h : world.Arbitrated who session)
    (found : world.session? who = some session) (awaits : session.Awaits data) :
    (world.admitted who session data).Arbitrated who (world.keeping session data) := by
  have acts := acts_admitted found data
  obtain ⟨response, proxy, hkeeping⟩ := world.keeping_eq session data
  refine ⟨h.recorded.accepts awaits acts (.refl _), fun _ =>
    h.holds_keeping awaits.active acts.acceptedBy, fun succeeded => ?_⟩
  rw [hkeeping] at succeeded
  exact absurd succeeded (Session.phase_ne_succeeded awaits.active)

/-- A session that accepts its acknowledgement holds that one, whatever comes of registering
it. -/
theorem Arbitrated.acknowledged {around : Surroundings τ σ} {start published : World τ σ}
    {outcome : Except SettingsTree.Error Unit} (h : world.Arbitrated who session)
    (found : world.session? who = some session) (awaits : session.Awaits data)
    (requesting : session.phase ≠ .discovering)
    (ordinary : (Packet.ofBytes data).isProxyReply = false)
    (agree : start.Agree (world.settled who session data))
    (publishes : (Act.registerReplies around (world.settling session data)).perform start =
      (.ok outcome, published)) (final : Option Failure) :
    (published.ended who (world.settling session data) final).Arbitrated who
      { (world.settling session data).ended final with
        timer := ((world.settling session data).timer.stop published.loop).1 } := by
  have acts := acts_published found agree publishes
  have ended := acts_ended acts.session final
  have recorded := h.recorded.accepts awaits acts (retains_published agree publishes)
  have haccepted := (ended.acceptedBy_of_quiet acceptance?_of_mem_closing).trans acts.acceptedBy
  refine ⟨recorded.quiet ended (.refl _) acceptance?_of_mem_closing, fun active => ?_,
    fun _ => ⟨world.acceptedBy who, ⟨data, world.tree.blocks.length⟩, haccepted, ordinary, ?_,
      rfl, ?_⟩⟩
  · cases final <;> simp [Session.finished, Session.ended, Phase.terminal] at active
  · refine awaits.kind.trans ?_
    cases hphase : session.phase with
    | discovering => exact absurd hphase requesting
    | _ => rfl
  · have hproxy : (world.settling session data).proxy =
        if (Packet.ofBytes data).refusesProxy then none
        else (world.keeping session data).slot true := rfl
    split
    next refuses => exact hproxy.trans (if_pos refuses)
    next allows =>
      have hholds := h.holds_keeping awaits.active haccepted true
      rw [← hproxy.trans (if_neg allows)] at hholds
      exact hholds

end

variable [TimeScale τ] {around : Surroundings τ σ} {allowed : World τ σ → Event τ σ → Prop}
  {world after : World τ σ} {who : SessionId} {next : Session τ}

/-- Whatever moves, active sessions hold the best replies of both kinds. -/
theorem Move.arbitrated {mover : Option SessionId} (move : Move around allowed mover world after)
    (standing : world.Standing who)
    (h : ∀ session, world.session? who = some session → world.Arbitrated who session)
    (hnext : after.session? who = some next) : after.Arbitrated who next := by
  have retains := move.retains
  refine move.preserves (fun world session => world.Arbitrated who session)
    (fun _ spares arbitrated => arbitrated.spares spares retains) ?_ h hnext
  rintro rfl
  have hunknown := standing.of_unknown
  cases move with
  | begun _ profile owner =>
    have fresh : world.Arbitrated world.sessions.length
        (.ofProfile profile owner world.loop.now) := arbitrated_of_nil
      (hunknown (List.getElem?_eq_none (Nat.le_refl _))).1 (fun proxy => by cases proxy <;> rfl)
      (by simp [Session.ofProfile])
    have acts := acts_begun world profile owner
    exact ⟨_, acts.session, fresh.quiet rfl acts retains (by simp [Deed.acceptance?]) rfl
      (by simp [Session.ofProfile])⟩
  | refused _ profile owner cause =>
    have fresh : (world.joined profile .absent).Arbitrated world.sessions.length
        (.ofProfile profile .absent world.loop.now) := arbitrated_of_nil
      (hunknown (List.getElem?_eq_none (Nat.le_refl _))).1 (fun proxy => by cases proxy <;> rfl)
      (by simp [Session.ofProfile])
    have found := world.session?_joined profile .absent
    exact ⟨_, session?_ended found _, fresh.failed found rfl _⟩
  | retried handle _ found active =>
    have acts := (acts_fired found).trans (acts_attempted (session?_fired found))
    exact ⟨_, acts.session, (h _ found).quiet active acts retains (by simp [Deed.acceptance?]) rfl
      (Session.phase_ne_succeeded active)⟩
  | exhausted handle _ found active =>
    have fired := (h _ found).quiet active (acts_fired found) (.refl _) (by simp) rfl
      (Session.phase_ne_succeeded active)
    exact ⟨_, session?_ended (session?_fired found) _, fired.failed (session?_fired found) active _⟩
  | forced _ found active =>
    have acts := acts_attempted found
    exact ⟨_, acts.session, (h _ found).quiet active acts retains (by simp [Deed.acceptance?]) rfl
      (Session.phase_ne_succeeded active)⟩
  | abandoned _ found active =>
    exact ⟨_, session?_ended found _, (h _ found).failed found active _⟩
  | cancelled found active =>
    exact ⟨_, session?_ended found _, (h _ found).failed found active _⟩
  | handed packet found active =>
    have acts := acts_chronicled found (.handed packet)
    exact ⟨_, acts.session, (h _ found).quiet active acts retains (by simp [Deed.acceptance?]) rfl
      (Session.phase_ne_succeeded active)⟩
  | kept data found awaits =>
    exact ⟨_, session?_admitted found data, (h _ found).admitted found awaits⟩
  | @requested _ _ held session data found awaits =>
    have admitted := (h _ found).admitted found awaits
    obtain ⟨response, proxy, hkeeping⟩ := world.keeping_eq session data
    have active : (world.keeping session data).finished = false := by
      rw [hkeeping]
      exact awaits.active
    obtain ⟨timer, -, -, acts⟩ := acts_requesting (session?_admitted found data)
    exact ⟨_, acts.session, admitted.quiet active acts (.refl _) (by simp [Deed.acceptance?]) rfl
      (by simp)⟩
  | acknowledged data outcome found awaits requesting ordinary agree publishes =>
    have acts := acts_published found agree publishes
    exact ⟨_, session?_ended acts.session _,
      (h _ found).acknowledged found awaits requesting ordinary agree publishes _⟩

theorem Moves.arbitrated (moves : Moves around allowed world after)
    (possible : ∀ {world event}, allowed world event → world.Possible event)
    (wired : world.Wired) (standing : ∀ who, world.Standing who)
    (h : ∀ session, world.session? who = some session → world.Arbitrated who session)
    (found : after.session? who = some next) : after.Arbitrated who next := by
  induction moves generalizing next with
  | refl => exact h next found
  | tail prior step ih =>
    obtain ⟨mover, move⟩ := step
    exact move.arbitrated (Moves.standing prior possible wired standing who) (fun _ => ih) found

/-- Whatever a session was handed, it records what it waited for and nothing else. -/
theorem acceptedBy_deliverWith (phases : Nat) {session : Session τ} (data : Bytes)
    (found : world.session? who = some session) :
    (session.Awaits data → world.acceptedBy who ++ [⟨data, world.tree.blocks.length⟩] <+:
      ((Act.deliverWith around (Act.sendWithin around phases who) who data).perform
        world).2.acceptedBy who) ∧
    (¬session.Awaits data →
      ((Act.deliverWith around (Act.sendWithin around phases who) who data).perform
        world).2.acceptedBy who = world.acceptedBy who) := by
  refine ⟨fun awaits => ?_, fun unawaited => ?_⟩
  · have haccepted : (world.admitted who session data).acceptedBy who =
        world.acceptedBy who ++ [⟨data, world.tree.blocks.length⟩] :=
      (acts_admitted found data).acceptedBy
    have hhistory := Act.history_deliverWith around (Act.onward_sendWithin around phases who) found
      awaits
    rw [← haccepted]
    exact (hhistory.filter _).filterMap _
  · have agree := Act.agree_deliverWith around (Act.sendWithin around phases who) found unawaited
    exact (spares_of_akin agree.akin who).acceptedBy

/-- In every run, an active session holds, of the replies that offer an address and of those
of proxy servers, the last one accepted among those of the highest priority, and none only
if it accepted none; as long as it accepts no further reply of a kind, what it holds of that
kind stays.  A session that succeeded holds the acknowledgement that it accepted last, and no
proxy reply if its server does not want one, and else the best one still.  What counts as
accepted are just the datagrams that the session waited for when they were handed to it, at
whatever moment that was; each got a block of its own, which still holds its packet. -/
theorem Run.holds_best_replies {tree : SettingsTree} {network : σ} {events : List (Event τ σ)}
    {session : Session τ} (run : Run around Possible (start tree network) events world)
    (found : world.session? who = some session) :
    world.Recorded who ∧
    (session.finished = false →
      (session.response = none ↔ world.repliesTo who false = []) ∧
      world.Holds who false session.response ∧
      (session.proxy = none ↔ world.repliesTo who true = []) ∧
      world.Holds who true session.proxy) ∧
    (session.finished = false → ∀ later events next, Run around Possible world events later →
      later.session? who = some next → next.finished = false →
      (later.repliesTo who false = world.repliesTo who false →
        next.response = session.response) ∧
      (later.repliesTo who true = world.repliesTo who true → next.proxy = session.proxy)) ∧
    (session.phase = .succeeded → ∃ prior last, world.Settles who session prior last) ∧
    ∀ (moment : World τ σ) (current : Session τ) (phases : Nat) (data : Bytes),
      moment.session? who = some current →
      (current.Awaits data → moment.acceptedBy who ++ [⟨data, moment.tree.blocks.length⟩] <+:
        ((Act.deliverWith around (Act.sendWithin around phases who) who data).perform
          moment).2.acceptedBy who) ∧
      (¬current.Awaits data →
        ((Act.deliverWith around (Act.sendWithin around phases who) who data).perform
          moment).2.acceptedBy who = moment.acceptedBy who) := by
  have arbitrated {later : World τ σ} {events : List (Event τ σ)} {next : Session τ}
      (run : Run around Possible (start tree network) events later)
      (found : later.session? who = some next) : later.Arbitrated who next := by
    have hstart : (start tree network : World τ σ).Wired := wired_start tree network
    obtain ⟨moves, -⟩ := run.moves id hstart
    exact moves.arbitrated id hstart (fun _ => .unknown rfl rfl rfl)
      (fun _ found => by simp [session?, World.start] at found) found
  have h := arbitrated run found
  refine ⟨h.recorded, fun active => ?_, fun active later events' next run' found' active' => ?_,
    h.settles, fun moment current phases data hmoment =>
      acceptedBy_deliverWith phases data hmoment⟩
  · have response := h.holds active false
    have proxy := h.holds active true
    exact ⟨response.eq_none_iff, response, proxy.eq_none_iff, proxy⟩
  · have h' := arbitrated (run.trans run') found'
    have hsame (proxy : Bool) (same : later.repliesTo who proxy = world.repliesTo who proxy) :
        next.slot proxy = session.slot proxy :=
      (h'.holds active' proxy).unique ((h.holds active proxy).congr same)
    exact ⟨hsame false, hsame true⟩

/-- A session that accepted three replies of proxy servers, in both phases, and an offer in
between holds the last of the two that have the highest priority. -/
theorem held_after_four_replies :
    ∃ (world : World Int Script) (session : Session Int),
      Run Script.around Possible (start .empty {})
        [.start (Profile.plain 7 0) .watching, .deliver 0 (.proxyReply .offer 9),
          .deliver 0 (.proxyReply .offer 4), .deliver 0 (.reply .offer),
          .deliver 0 (.proxyReply .ack 9)] world ∧
      world.session? 0 = some session ∧ session.finished = false ∧
      (world.repliesTo 0 true).map Acceptance.priority = [9, 4, 9] ∧
      session.response = some 3 ∧ session.proxy = some 4 ∧
      world.Holds 0 false session.response ∧ world.Holds 0 true session.proxy := by
  let started := World.after Script.around (start .empty {}) (.start (Profile.plain 7 0) .watching)
  let first := World.after Script.around started (.deliver 0 (.proxyReply .offer 9))
  let second := World.after Script.around first (.deliver 0 (.proxyReply .offer 4))
  let offered := World.after Script.around second (.deliver 0 (.reply .offer))
  let world := World.after Script.around offered (.deliver 0 (.proxyReply .ack 9))
  have run : Run Script.around Possible (start .empty {})
      ([] ++ [.start (Profile.plain 7 0) .watching] ++ [.deliver 0 (.proxyReply .offer 9)] ++
        [.deliver 0 (.proxyReply .offer 4)] ++ [.deliver 0 (.reply .offer)] ++
        [.deliver 0 (.proxyReply .ack 9)]) world :=
    .step (.step (.step (.step (.step .rest _ trivial) _ trivial) _ trivial) _ trivial) _ trivial
  have priorities : (world.repliesTo 0 true).map Acceptance.priority = [9, 4, 9] := by
    decide +kernel
  have hslots : (world.session? 0).map (fun session =>
      (session.finished, session.response, session.proxy)) = some (false, some 3, some 4) := by
    decide +kernel
  obtain ⟨session, found, slots⟩ := Option.map_eq_some_iff.mp hslots
  obtain ⟨active, response, proxy⟩ : session.finished = false ∧ session.response = some 3 ∧
      session.proxy = some 4 := by simpa using slots
  obtain ⟨-, holds, -⟩ := run.holds_best_replies found
  obtain ⟨-, hresponse, -, hproxy⟩ := holds active
  exact ⟨world, session, run, found, active, priorities, response, proxy, hresponse, hproxy⟩

end World
end NetBoot
