/-
# The course of a session

What a session does is a chain: each entry of its history leads to the next one, and the
last one to the session as it is.  Two entries that follow each other differ in few ways.
The profile never changes, blocks hold what they held, and a session that is past its
discovery keeps the reply that it requests until it ends.  Its phase changes only when it
ends, with one exception: right after a discovering session accepted an offer that opens the
request phase, it requests the reply that it holds then.

An offer opens the request phase if the session holds an ordinary reply once it has merged
the offer, and either the wait for proxy offers is over or the server of that reply does not
want them.
-/
import NetBoot.Proofs.Session.Arbitration
import NetBoot.Proofs.Session.Completion
import Mathlib.Data.List.Chain

namespace NetBoot

variable {τ σ : Type}

/-- A packet is a reply of an exchange that offers an address. -/
structure Packet.Offers (packet : Packet) (xid : Nat) : Prop where
  valid : packet.isValid = true
  xid : packet.word .xid = .ok xid
  address : Header.addressBytes packet.buffer .your ≠ Address.unspecified.toBytes

/-- The phases that a session can go through, one after the other. -/
inductive Phase.Changes : Phase → Phase → Prop
  | stays (phase : Phase) : Changes phase phase
  | requests : Changes .discovering .requesting
  | succeeds : Changes .requesting .succeeded
  | fails {phase : Phase} (active : phase.terminal = false) : Changes phase .failed

namespace Session

variable {session middle next : Session τ} {tree between later : SettingsTree}

/-- The ordinary reply that a session holds once it has merged one that it accepted. -/
def merging (session : Session τ) (tree : SettingsTree) (data : Bytes) (reply : BlockId) :
    Option BlockId :=
  if (Packet.ofBytes data).isProxyReply = false ∧
      ((session.response.map fun held => (tree.packetAt held).priority).getD 0) ≤
        (Packet.ofBytes data).priority then
    some reply
  else session.response

/-- The ordinary reply that a session holds is one of its exchange.  A requesting session
holds one, and what a discovering one holds does not refuse proxy offers. -/
structure Poised (session : Session τ) (tree : SettingsTree) : Prop where
  holds : ∀ held, session.response = some held → ∃ packet,
    tree.contentsOf? held = some (.reply packet) ∧ packet.Offers session.xid ∧
      (session.phase = .discovering → packet.refusesProxy = false)
  requesting : session.phase = .requesting → session.response ≠ none

/-- A session goes on from one moment to another without beginning to request. -/
structure Becomes (session : Session τ) (tree : SettingsTree) (next : Session τ)
    (later : SettingsTree) : Prop where
  profile : next.profile = session.profile
  retains : tree.Retains later
  phase : next.phase = session.phase ∨
    session.phase = .requesting ∧ next.phase = .succeeded ∨
    session.finished = false ∧ next.phase = .failed
  attached : next.attached = true → session.attached = true
  response : session.phase ≠ .discovering → next.attached = true →
    next.response = session.response

theorem Becomes.refl (session : Session τ) (tree : SettingsTree) :
    session.Becomes tree session tree :=
  ⟨rfl, .refl tree, .inl rfl, id, fun _ _ => rfl⟩

/-- A session that is past its discovery does not return to it. -/
theorem Becomes.phase_ne (h : session.Becomes tree next later)
    (past : session.phase ≠ .discovering) : next.phase ≠ .discovering := by
  rcases h.phase with hphase | ⟨-, hphase⟩ | ⟨-, hphase⟩
  · rwa [hphase]
  · simp [hphase]
  · simp [hphase]

theorem Becomes.trans (h : session.Becomes tree middle between)
    (h' : middle.Becomes between next later) : session.Becomes tree next later := by
  refine ⟨h'.profile.trans h.profile, h.retains.trans h'.retains, ?_, h.attached ∘ h'.attached,
    fun past attached => ?_⟩
  · rcases h.phase with hmiddle | ⟨hrequesting, hmiddle⟩ | ⟨hactive, hmiddle⟩
    · rw [Session.finished, ← hmiddle]
      exact h'.phase
    · rcases h'.phase with hnext | ⟨hother, -⟩ | ⟨hother, -⟩
      · exact .inr (.inl ⟨hrequesting, hnext.trans hmiddle⟩)
      · simp [hmiddle] at hother
      · simp [Session.finished, hmiddle, Phase.terminal] at hother
    · rcases h'.phase with hnext | ⟨hother, -⟩ | ⟨hother, -⟩
      · exact .inr (.inr ⟨hactive, hnext.trans hmiddle⟩)
      · simp [hmiddle] at hother
      · simp [Session.finished, hmiddle, Phase.terminal] at hother
  · exact (h'.response (h.phase_ne past) attached).trans (h.response past (h'.attached attached))

/-- Only the tree around a session changes. -/
theorem Becomes.retained (h : session.Becomes tree next between) (retains : between.Retains later) :
    session.Becomes tree next later :=
  ⟨h.profile, h.retains.trans retains, h.phase, h.attached, h.response⟩

theorem Becomes.changes (h : session.Becomes tree next later) :
    session.phase.Changes next.phase := by
  rcases h.phase with hphase | ⟨hrequesting, hphase⟩ | ⟨hactive, hphase⟩
  · rw [hphase]
    exact .stays _
  · rw [hrequesting, hphase]
    exact .succeeds
  · rw [hphase]
    exact .fails hactive

/-- A discovering session begins to request. -/
structure Enters (session : Session τ) (tree : SettingsTree) (next : Session τ)
    (later : SettingsTree) : Prop where
  profile : next.profile = session.profile
  retains : tree.Retains later
  discovering : session.phase = .discovering
  requesting : next.phase = .requesting
  attached : next.attached = true → session.attached = true

/-- What blocks hold stays, so the reply that a session holds does. -/
theorem Poised.retained (h : session.Poised tree) (retains : tree.Retains later) :
    session.Poised later := by
  refine ⟨fun held hresponse => ?_, h.requesting⟩
  obtain ⟨packet, hcontents, hpacket⟩ := h.holds held hresponse
  exact ⟨packet, retains _ _ hcontents, hpacket⟩

/-- A session that holds the same reply, and is not set back to its discovery. -/
theorem Poised.congr (h : session.Poised tree) (profile : next.profile = session.profile)
    (response : next.response = session.response)
    (phase : next.phase = .discovering → session.phase = .discovering)
    (requesting : next.phase = .requesting → session.response ≠ none) : next.Poised tree := by
  refine ⟨fun held hresponse => ?_, response ▸ requesting⟩
  obtain ⟨packet, hcontents, hoffers, hrefuses⟩ := h.holds held (response ▸ hresponse)
  have hxid : next.xid = session.xid := by rw [Session.xid, Session.xid, profile]
  exact ⟨packet, hcontents, hxid ▸ hoffers, fun hphase => hrefuses (phase hphase)⟩

end Session

variable [TimeScale τ]

namespace Episode

/-- The wait for proxy offers lasts: a second has not passed since the session started. -/
def Waits (episode : Episode τ) : Prop :=
  TimeScale.le (TimeScale.sub episode.now episode.session.startTime) TimeScale.second = true

/-- A discovering session accepts an offer that opens the request phase. -/
def Opens (episode : Episode τ) : Prop :=
  episode.session.phase = .discovering ∧
  ∃ data reply held, episode.deed = .accepted data reply ∧ episode.session.Awaits data ∧
    episode.session.merging episode.tree data reply = some held ∧
    (¬episode.Waits ∨ (episode.tree.packetAt held).refusesProxy = true)

/-- What follows an entry: the session begins to request if the entry opens the request
phase, and goes on without doing so if not. -/
def Leads (episode : Episode τ) (session : Session τ) (tree : SettingsTree) : Prop :=
  (episode.Opens → episode.session.Enters episode.tree session tree) ∧
  (¬episode.Opens → episode.session.Becomes episode.tree session tree)

omit [TimeScale τ] in
/-- An entry shows a session that is poised, a datagram only with a block that holds it, and a
packet only if the session built it. -/
structure Regular (episode : Episode τ) : Prop where
  poised : episode.session.Poised episode.tree
  accepted : ∀ data reply, episode.deed = .accepted data reply →
    episode.tree.contentsOf? reply = some (.reply (.ofBytes data))
  handed : ∀ packet, episode.deed = .handed packet →
    episode.session.finished = false ∧ episode.session.attached = true ∧
      episode.session.Builds episode.tree packet

end Episode

namespace World

/-- What a session did is a chain of regular entries that leads to the session as it is. -/
structure Course (world : World τ σ) (who : SessionId) (session : Session τ) : Prop where
  poised : session.Poised world.tree
  regular : ∀ episode ∈ world.episodesOf who, episode.Regular
  first : ∀ first, (world.episodesOf who).head? = some first →
    first.session.phase = .discovering ∨ first.session.phase = .failed
  chain : (world.episodesOf who).IsChain fun first second =>
    first.Leads second.session second.tree
  last : ∃ last, (world.episodesOf who).getLast? = some last ∧ ¬last.Opens ∧
    last.session.Becomes last.tree session world.tree

/-- A session as it is, as an entry. -/
def present (world : World τ σ) (who : SessionId) (session : Session τ) : Episode τ :=
  ⟨who, .attempted, session, world.tree, world.loop.pending, world.loop.now⟩

/-- The entry of a datagram that a session accepts. -/
def arrival (world : World τ σ) (who : SessionId) (session : Session τ) (data : Bytes) :
    Episode τ :=
  ⟨who, .accepted data world.tree.blocks.length, session, (world.grown data).tree,
    world.loop.pending, world.loop.now⟩

end World

/-! ## Single steps -/

section

variable {world after : World τ σ} {who : SessionId} {session next : Session τ} {data : Bytes}
  {deeds : List (Episode τ)} {outcomes : List (Option Failure)} {episode prior : Episode τ}
  {outcome : Option Failure}

/-- Only an entry of an accepted datagram opens the request phase. -/
theorem Episode.not_opens (h : episode.deed.acceptance? = none) : ¬episode.Opens := by
  rintro ⟨-, data, reply, held, hdeed, -⟩
  rw [hdeed] at h
  cases h

omit [TimeScale τ] in
/-- Most entries show no datagram and no packet. -/
theorem Episode.Regular.of_quiet (poised : episode.session.Poised episode.tree)
    (quiet : episode.deed.acceptance? = none)
    (unhanded : ∀ packet, episode.deed ≠ .handed packet) : episode.Regular := by
  refine ⟨poised, fun data reply hdeed => ?_, fun packet hdeed => absurd hdeed (unhanded packet)⟩
  simp [hdeed, Deed.acceptance?] at quiet

theorem Episode.leads_of_becomes (quiet : ¬episode.Opens) {tree : SettingsTree}
    (h : episode.session.Becomes episode.tree session tree) : episode.Leads session tree :=
  ⟨fun opens => absurd opens quiet, fun _ => h⟩

omit [TimeScale τ] in
/-- The reply that is held is the one that merging leaves. -/
theorem World.response_keeping (world : World τ σ) (session : Session τ) (data : Bytes) :
    (world.keeping session data).response =
      session.merging (world.grown data).tree data world.tree.blocks.length := by
  have hslot := world.slot_keeping session data false
  rw [Session.merging]
  refine hslot.trans ?_
  by_cases ordinary : (Packet.ofBytes data).isProxyReply = false
  · have hrank : world.rank session data = (session.response.map fun held =>
        ((world.grown data).tree.packetAt held).priority).getD 0 := by
      rw [World.rank, ordinary]
      rfl
    rw [hrank]
    rfl
  · rw [if_neg fun both => ordinary both.1, if_neg fun both => ordinary both.1]
    rfl

/-- An accepted datagram opens the request phase if the session is ready then. -/
theorem World.opens_arrival_iff (world : World τ σ) (who : SessionId) (session : Session τ)
    (data : Bytes) :
    (world.arrival who session data).Opens ↔
      session.phase = .discovering ∧ session.Awaits data ∧
        ∃ held, world.Ready session data held := by
  have hwaits : ¬(world.arrival who session data).Waits ↔
      TimeScale.le (world.elapsed session) TimeScale.second = false := Bool.not_eq_true _ ▸ .rfl
  constructor
  · rintro ⟨discovering, _, _, held, ⟨⟩, awaits, hheld, hready⟩
    exact ⟨discovering, awaits, held, (world.response_keeping session data).trans hheld,
      hready.imp_left hwaits.mp⟩
  · rintro ⟨discovering, awaits, held, hheld, hready⟩
    exact ⟨discovering, data, _, held, rfl, awaits,
      (world.response_keeping session data).symm.trans hheld, hready.imp_left hwaits.mpr⟩

omit [TimeScale τ] in
/-- A reply of an ordinary server that a session waits for offers an address. -/
theorem Session.Awaits.offers (awaits : session.Awaits data)
    (ordinary : (Packet.ofBytes data).isProxyReply = false) :
    (Packet.ofBytes data).Offers session.xid := by
  refine ⟨awaits.valid, ?_, fun haddress => ?_⟩
  · have hread : Header.readWord? (Packet.ofBytes data).buffer .xid = some session.xid :=
      awaits.readWord?_xid
    rw [Packet.word, hread]
  · have hfetch : (Packet.ofBytes data).fetch Tag.yourAddress =
        some (Header.addressBytes (Packet.ofBytes data).buffer .your) := rfl
    rw [Packet.isProxyReply, hfetch, haddress] at ordinary
    exact absurd ordinary (by decide)

omit [TimeScale τ] in
/-- The ordinary reply that is held after merging is one of the exchange. -/
theorem Session.Poised.holds_keeping (h : session.Poised world.tree)
    (awaits : session.Awaits data) {held : BlockId}
    (hheld : (world.keeping session data).response = some held) :
    ∃ packet, (world.grown data).tree.contentsOf? held = some (.reply packet) ∧
      packet.Offers session.xid := by
  rw [world.response_keeping, Session.merging] at hheld
  split at hheld
  next merged =>
    obtain rfl := Option.some.inj hheld
    exact ⟨.ofBytes data, SettingsTree.contentsOf?_add_self _ _, awaits.offers merged.1⟩
  next =>
    obtain ⟨packet, hcontents, hoffers, -⟩ := h.holds held hheld
    exact ⟨packet, world.tree.retains_add _ _ _ hcontents, hoffers⟩

/-- A session that merged what it accepted is poised, unless it should request already. -/
theorem Session.Poised.keeping (h : session.Poised world.tree) (awaits : session.Awaits data)
    (waits : session.phase = .discovering → ∀ held, ¬world.Ready session data held)
    (proxied : session.phase ≠ .discovering → (Packet.ofBytes data).isProxyReply = true) :
    (world.keeping session data).Poised (world.grown data).tree := by
  have hresponse := world.response_keeping session data
  obtain ⟨response, proxy, hkeeping⟩ := world.keeping_eq session data
  refine ⟨fun held hheld => ?_, fun requesting => ?_⟩
  · obtain ⟨packet, hcontents, hoffers⟩ := h.holds_keeping awaits hheld
    rw [hkeeping]
    refine ⟨packet, hcontents, hoffers, fun discovering => ?_⟩
    have hready := waits discovering held
    rw [World.Ready, World.reply_of_contents hcontents, not_and] at hready
    simpa using (not_or.mp (hready hheld)).2
  · rw [hkeeping] at requesting
    have past : session.phase ≠ .discovering := by simp [show session.phase = _ from requesting]
    rw [hresponse, Session.merging, if_neg fun both => by simp [proxied past] at both]
    exact h.requesting requesting

/-! ## Ending -/

omit [TimeScale τ] in
/-- A session is cut off from its connection. -/
theorem Session.Becomes.detached {tree later : SettingsTree}
    (profile : next.profile = session.profile) (retains : tree.Retains later)
    (phase : next.phase = session.phase) (attached : next.attached = false) :
    session.Becomes tree next later := by
  refine ⟨profile, retains, .inl phase, fun h => ?_, fun _ h => ?_⟩ <;> simp [attached] at h

omit [TimeScale τ] in
/-- A session ends, successfully only if it was requesting. -/
theorem Session.Becomes.ended {tree later : SettingsTree}
    (profile : next.profile = session.profile) (retains : tree.Retains later)
    (active : session.finished = false) (succeeds : outcome = none → session.phase = .requesting)
    (phase : next.phase = if outcome.isSome then .failed else .succeeded)
    (attached : next.attached = false) : session.Becomes tree next later := by
  refine ⟨profile, retains, ?_, fun h => ?_, fun _ h => ?_⟩
  · cases outcome with
    | none => exact .inr (.inl ⟨succeeds rfl, phase⟩)
    | some failure => exact .inr (.inr ⟨active, phase⟩)
  · simp [attached] at h
  · simp [attached] at h

/-- The entries of a session that ends, behind an entry that shows it as it was before. -/
theorem World.chain_closing (who : SessionId) (outcome : Option Failure) (quiet : ¬prior.Opens)
    (profile : session.profile = prior.session.profile) (retains : prior.tree.Retains world.tree)
    (phase : session.phase = prior.session.phase) (active : session.finished = false)
    (succeeds : outcome = none → session.phase = .requesting) :
    (prior :: world.closing who session outcome).IsChain
        (fun first second => first.Leads second.session second.tree) ∧
      ∃ last, (prior :: world.closing who session outcome).getLast? = some last ∧ ¬last.Opens ∧
        last.session.Becomes last.tree
          { session.ended outcome with timer := (session.timer.stop world.loop).1 }
          (world.ended who session outcome).tree := by
  let apart : Session τ := { session with owner := .absent, attached := false }
  let done : Session τ := { session.ended outcome with timer := (session.timer.stop world.loop).1 }
  have hactive : prior.session.finished = false := by
    rw [Session.finished, ← phase]
    exact active
  have hdetach : prior.Leads apart world.tree :=
    Episode.leads_of_becomes quiet (.detached profile retains phase rfl)
  have hend : prior.Leads (session.ended outcome) world.tree :=
    Episode.leads_of_becomes quiet
      (.ended profile retains hactive (fun h => phase ▸ succeeds h) rfl rfl)
  have hapart (pending : List (Handle τ SessionId)) (now : τ) :
      Episode.Leads ⟨who, .detached, apart, world.tree, pending, now⟩ (session.ended outcome)
        world.tree :=
    Episode.leads_of_becomes (Episode.not_opens rfl) (.ended rfl (.refl _) active succeeds rfl rfl)
  have hdone : (session.ended outcome).Becomes world.tree done world.tree :=
    .detached rfl (.refl _) rfl rfl
  have hclose (pending : List (Handle τ SessionId)) (now : τ) :
      Episode.Leads ⟨who, .ended outcome, session.ended outcome, world.tree, pending, now⟩ done
        world.tree := Episode.leads_of_becomes (Episode.not_opens rfl) hdone
  have htell (pending : List (Handle τ SessionId)) (now : τ) :
      Episode.Leads ⟨who, .closed, done, world.tree, pending, now⟩ done world.tree :=
    Episode.leads_of_becomes (Episode.not_opens rfl) (.refl done world.tree)
  rw [World.closing]
  cases hattached : session.attached with
  | false =>
    by_cases howner : session.owner = .absent
    · rw [if_pos howner]
      refine ⟨?_, _, rfl, Episode.not_opens rfl, hdone⟩
      simpa using hend
    · rw [if_neg howner]
      refine ⟨?_, _, rfl, Episode.not_opens rfl, .refl done world.tree⟩
      simpa using ⟨hend, hclose _ _⟩
  | true =>
    by_cases howner : session.owner = .absent
    · rw [if_pos howner]
      refine ⟨?_, _, rfl, Episode.not_opens rfl, .refl done world.tree⟩
      simpa using ⟨hdetach, hapart _ _, hclose _ _⟩
    · rw [if_neg howner]
      refine ⟨?_, _, rfl, Episode.not_opens rfl, .refl done world.tree⟩
      simpa using ⟨hdetach, hapart _ _, hclose _ _, htell _ _⟩

omit [TimeScale τ] in
/-- A session that was poised when it ended shows so in all entries. -/
theorem World.regular_closing (who : SessionId) (outcome : Option Failure)
    (poised : session.Poised world.tree) :
    (∀ episode ∈ world.closing who session outcome, episode.Regular) ∧
      ({ session.ended outcome with timer := (session.timer.stop world.loop).1 } :
        Session τ).Poised (world.ended who session outcome).tree := by
  have hended (ending : Session τ) (profile : ending.profile = session.profile)
      (response : ending.response = session.response)
      (phase : ending.phase = if outcome.isSome then .failed else .succeeded) :
      ending.Poised world.tree := by
    refine poised.congr profile response ?_ ?_ <;> rw [phase] <;> cases outcome <;> simp
  have hapart : ({ session with owner := .absent, attached := false } : Session τ).Poised
      world.tree := poised.congr rfl rfl id poised.requesting
  refine ⟨fun episode mem => ?_, hended _ rfl rfl rfl⟩
  simp only [World.closing, List.mem_append, List.mem_ite_nil_right, List.mem_ite_nil_left,
    List.mem_singleton] at mem
  rcases mem with ((⟨-, rfl⟩ | rfl) | ⟨-, rfl⟩) | ⟨-, rfl⟩
  · exact .of_quiet hapart rfl (by simp)
  · exact .of_quiet (hended _ rfl rfl rfl) rfl (by simp)
  · exact .of_quiet (hended _ rfl rfl rfl) rfl (by simp)
  · exact .of_quiet (hended _ rfl rfl rfl) rfl (by simp)

/-! ## Following a session -/

/-- What a session does is added to its course, if it leads from the session as it was to the
session as it is then. -/
theorem World.Course.acts (h : world.Course who session)
    (acts : world.Acts after who next deeds outcomes) (poised : next.Poised after.tree)
    (regular : ∀ episode ∈ deeds, episode.Regular)
    (path : (world.present who session :: deeds).IsChain
        (fun first second => first.Leads second.session second.tree) ∧
      ∃ last, (world.present who session :: deeds).getLast? = some last ∧ ¬last.Opens ∧
        last.session.Becomes last.tree next after.tree) : after.Course who next := by
  obtain ⟨prior, hprior, quiet, hbecomes⟩ := h.last
  obtain ⟨chain, last, hlast, hquiet, hnext⟩ := path
  have hepisodes := acts.episodesOf
  have present : ¬(world.present who session).Opens := Episode.not_opens rfl
  refine ⟨poised, fun episode mem => ?_, fun first hfirst => ?_, ?_, ?_⟩
  · rw [hepisodes, List.mem_append] at mem
    exact mem.elim (h.regular episode) (regular episode)
  · rw [hepisodes] at hfirst
    cases hold : world.episodesOf who with
    | nil => simp [hold] at hprior
    | cons head tail =>
      rw [hold, List.cons_append] at hfirst
      exact h.first first (by rw [hold]; exact hfirst)
  · rw [hepisodes, List.isChain_append]
    refine ⟨h.chain, chain.tail, fun first hfirst second hsecond => ?_⟩
    obtain rfl := Option.some.inj (hprior.symm.trans hfirst)
    cases deeds with
    | nil => cases hsecond
    | cons deed deeds =>
      obtain rfl := Option.some.inj hsecond
      have hleads := (List.isChain_cons_cons.mp chain).1.2 present
      exact Episode.leads_of_becomes quiet (hbecomes.trans hleads)
  · rw [hepisodes]
    cases deeds with
    | nil =>
      obtain rfl := Option.some.inj hlast
      exact ⟨prior, by rw [List.append_nil, hprior], quiet, hbecomes.trans hnext⟩
    | cons deed deeds =>
      refine ⟨last, ?_, hquiet, hnext⟩
      rw [List.getLast?_append, ← List.getLast?_cons_cons, hlast]
      rfl

/-- What others do leaves the course of a session alone. -/
theorem World.Course.spares (h : world.Course who session) (spares : world.Spares after who)
    (retains : world.tree.Retains after.tree) : after.Course who session := by
  obtain ⟨last, hlast, quiet, hbecomes⟩ := h.last
  have hepisodes := spares.episodes
  exact ⟨h.poised.retained retains, hepisodes ▸ h.regular, hepisodes ▸ h.first,
    hepisodes ▸ h.chain, last, hepisodes ▸ hlast, quiet, hbecomes.retained retains⟩

/-- A session that does one thing that opens nothing, or nothing at all, and is the same
afterwards but for its timer. -/
theorem World.Course.goes_on (h : world.Course who session)
    (acts : world.Acts after who next deeds outcomes) (tree : after.tree = world.tree)
    (profile : next.profile = session.profile) (phase : next.phase = session.phase)
    (response : next.response = session.response) (attached : next.attached = session.attached)
    (shows : ∀ episode ∈ deeds, deeds = [episode] ∧ episode.session = next ∧
      episode.tree = world.tree ∧ episode.deed.acceptance? = none ∧
      ∀ packet, episode.deed = .handed packet →
        next.finished = false ∧ next.attached = true ∧ next.Builds world.tree packet) :
    after.Course who next := by
  have hbecomes : session.Becomes world.tree next world.tree :=
    ⟨profile, .refl _, .inl phase, fun h => attached ▸ h, fun _ _ => response⟩
  have hpoised : next.Poised world.tree := h.poised.congr profile response (fun h => phase ▸ h)
    fun h' => h.poised.requesting (phase ▸ h')
  have hpresent : ¬(world.present who session).Opens := Episode.not_opens rfl
  refine h.acts acts (tree ▸ hpoised) (fun episode mem => ?_) ?_
  · obtain ⟨-, hsession, htree, hquiet, hhanded⟩ := shows episode mem
    refine ⟨hsession ▸ htree ▸ hpoised, fun data reply hdeed => ?_, hsession ▸ htree ▸ hhanded⟩
    simp [hdeed, Deed.acceptance?] at hquiet
  · cases deeds with
    | nil =>
      refine ⟨.singleton _, _, rfl, hpresent, ?_⟩
      rw [tree]
      exact hbecomes
    | cons episode rest =>
      obtain ⟨hrest, hsession, htree, hquiet, -⟩ := shows episode List.mem_cons_self
      obtain rfl : rest = [] := (List.cons.inj hrest).2
      refine ⟨List.isChain_cons_cons.mpr ⟨?_, .singleton _⟩, episode, rfl,
        Episode.not_opens hquiet, ?_⟩
      · rw [hsession, htree]
        exact Episode.leads_of_becomes hpresent hbecomes
      · rw [hsession, htree, tree]
        exact .refl next world.tree

/-- A session ends, successfully only if it was requesting. -/
theorem World.Course.ended (h : world.Course who session)
    (found : world.session? who = some session) (active : session.finished = false)
    (succeeds : outcome = none → session.phase = .requesting) :
    (world.ended who session outcome).Course who
      { session.ended outcome with timer := (session.timer.stop world.loop).1 } := by
  obtain ⟨regular, poised⟩ := World.regular_closing who outcome h.poised
  exact h.acts (acts_ended found outcome) poised regular
    (World.chain_closing who outcome (Episode.not_opens rfl) rfl (.refl _) rfl active succeeds)

/-- The entry of a datagram that a session accepts. -/
theorem World.Course.arrives (h : world.Course who session) (data : Bytes) :
    (world.arrival who session data).Regular ∧
      (world.present who session).Leads session (world.grown data).tree := by
  have retains : world.tree.Retains (world.grown data).tree := world.tree.retains_add _
  have holds := SettingsTree.contentsOf?_add_self world.tree (.ofReply data Block.replyName)
  refine ⟨⟨h.poised.retained retains, ?_, fun _ hdeed => nomatch hdeed⟩,
    Episode.leads_of_becomes (Episode.not_opens rfl)
      ((Session.Becomes.refl session world.tree).retained retains)⟩
  rintro _ _ ⟨⟩
  exact holds

/-- A session accepts a datagram and stays in its phase. -/
theorem World.Course.admitted (h : world.Course who session)
    (found : world.session? who = some session) (awaits : session.Awaits data)
    (waits : session.phase = .discovering → ∀ held, ¬world.Ready session data held)
    (proxied : session.phase ≠ .discovering → (Packet.ofBytes data).isProxyReply = true) :
    (world.admitted who session data).Course who (world.keeping session data) := by
  obtain ⟨regular, leads⟩ := h.arrives data
  have quiet : ¬(world.arrival who session data).Opens := by
    rw [world.opens_arrival_iff]
    rintro ⟨discovering, -, held, ready⟩
    exact waits discovering held ready
  have becomes : session.Becomes (world.grown data).tree (world.keeping session data)
      (world.grown data).tree := by
    have hresponse := world.response_keeping session data
    obtain ⟨response, proxy, hkeeping⟩ := world.keeping_eq session data
    rw [hkeeping] at hresponse ⊢
    refine ⟨rfl, .refl _, .inl rfl, id, fun past _ => ?_⟩
    rw [hresponse, Session.merging, if_neg fun both => by simp [proxied past] at both]
  exact h.acts (acts_admitted found data) (h.poised.keeping awaits waits proxied)
    (fun _ mem => List.mem_singleton.mp mem ▸ regular)
    ⟨List.isChain_cons_cons.mpr ⟨leads, .singleton _⟩, _, rfl, quiet, becomes⟩

/-- A session accepts an offer that opens the request phase, and begins to request. -/
theorem World.Course.requests {held : BlockId} (h : world.Course who session)
    (found : world.session? who = some session) (awaits : session.Awaits data)
    (discovering : session.phase = .discovering) (ready : world.Ready session data held) :
    ∃ next, ((world.admitted who session data).requesting who
        (world.keeping session data)).session? who = some next ∧
      ((world.admitted who session data).requesting who
        (world.keeping session data)).Course who next := by
  obtain ⟨regular, leads⟩ := h.arrives data
  obtain ⟨response, proxy, hkeeping⟩ := world.keeping_eq session data
  obtain ⟨timer, -, -, acts⟩ := acts_requesting (session?_admitted found data)
  let next : Session τ := { world.keeping session data with phase := .requesting, timer }
  have opens : (world.arrival who session data).Opens :=
    (world.opens_arrival_iff who session data).mpr ⟨discovering, awaits, held, ready⟩
  have enters : session.Enters (world.grown data).tree next (world.grown data).tree := by
    refine ⟨?_, .refl _, discovering, rfl, ?_⟩ <;> simp [next, hkeeping]
  have poised : next.Poised (world.grown data).tree := by
    refine ⟨fun other hother => ?_, fun _ hnone => ?_⟩
    · obtain ⟨packet, hcontents, hoffers⟩ := h.poised.holds_keeping awaits hother
      have hxid : next.xid = session.xid := by simp [next, hkeeping, Session.xid]
      exact ⟨packet, hcontents, hxid ▸ hoffers, fun hphase => nomatch hphase⟩
    · exact absurd (ready.1.symm.trans hnone) (by simp)
  refine ⟨next, acts.session, h.acts ((acts_admitted found data).trans acts) poised
    (fun episode mem => ?_) ⟨?_, _, rfl, Episode.not_opens rfl, .refl next _⟩⟩
  · rcases List.mem_cons.mp mem with rfl | mem
    · exact regular
    · obtain rfl := List.mem_singleton.mp mem
      exact .of_quiet poised rfl (by simp)
  · exact List.isChain_cons_cons.mpr ⟨leads, List.isChain_cons_cons.mpr
      ⟨⟨fun _ => enters, fun quiet => absurd opens quiet⟩, .singleton _⟩⟩

/-- A session ends with its acknowledgement, whatever comes of registering its replies. -/
theorem World.Course.acknowledged {around : Surroundings τ σ} {start published : World τ σ}
    {outcome : Except SettingsTree.Error Unit} (h : world.Course who session)
    (found : world.session? who = some session) (awaits : session.Awaits data)
    (requesting : session.phase ≠ .discovering)
    (ordinary : (Packet.ofBytes data).isProxyReply = false)
    (agree : start.Agree (world.settled who session data))
    (publishes : (Act.registerReplies around (world.settling session data)).perform start =
      (.ok outcome, published)) (final : Option Failure) :
    (published.ended who (world.settling session data) final).Course who
      { (world.settling session data).ended final with
        timer := ((world.settling session data).timer.stop published.loop).1 } := by
  obtain ⟨regular, leads⟩ := h.arrives data
  obtain ⟨proxy, hsettling⟩ := world.settling_eq session data
  have retains := retains_published agree publishes
  have acts := acts_published found agree publishes
  have poised : (world.settling session data).Poised published.tree := by
    have hcontents := retains _ _ (SettingsTree.contentsOf?_add_self world.tree
      (.ofReply data Block.replyName))
    rw [hsettling]
    refine ⟨fun held hheld => ?_, fun _ => by simp⟩
    obtain rfl := Option.some.inj hheld
    exact ⟨_, hcontents, awaits.offers ordinary, fun discovering => absurd discovering requesting⟩
  have phase : (world.settling session data).phase = .requesting := by
    rw [hsettling]
    exact (awaits.acknowledges requesting ordinary).1
  have active : (world.settling session data).finished = false := by
    rw [Session.finished, phase]
    rfl
  obtain ⟨regularly, poised⟩ := World.regular_closing who final poised
  have quiet : ¬(world.arrival who session data).Opens := fun opens => requesting opens.1
  obtain ⟨chain, last, hlast, ends⟩ := World.chain_closing who final quiet
    (by rw [hsettling]; rfl) retains (by rw [hsettling]; rfl) active (fun _ => phase)
  refine h.acts (acts.trans (acts_ended acts.session final)) poised (fun episode mem => ?_)
    ⟨List.isChain_cons_cons.mpr ⟨leads, chain⟩, last, hlast, ends⟩
  rcases List.mem_cons.mp mem with rfl | mem
  · exact regular
  · exact regularly episode mem

/-- A session that just opened its connection is at the beginning of its course. -/
theorem World.course_begun (profile : Profile τ) (owner : Owner)
    (fresh : world.episodesOf world.sessions.length = []) :
    ∃ next, (world.begun profile owner).session? world.sessions.length = some next ∧
      (world.begun profile owner).Course world.sessions.length next := by
  have acts := acts_begun world profile owner
  have hepisodes := acts.episodesOf
  rw [fresh, List.nil_append] at hepisodes
  have poised (session : Session τ) (phase : session.phase = .discovering)
      (response : session.response = none) : session.Poised world.tree :=
    ⟨fun _ h => by simp [response] at h, fun h => by simp [phase] at h⟩
  refine ⟨_, acts.session, poised _ rfl rfl, fun episode mem => ?_, fun first hfirst => ?_, ?_, ?_⟩
  · rw [hepisodes] at mem
    obtain rfl := List.mem_singleton.mp mem
    exact .of_quiet (poised _ rfl rfl) rfl (by simp)
  · rw [hepisodes] at hfirst
    obtain rfl := Option.some.inj hfirst
    exact .inl rfl
  · rw [hepisodes]
    exact .singleton _
  · rw [hepisodes]
    exact ⟨_, rfl, Episode.not_opens rfl, rfl, .refl _, .inl rfl, id, fun past => absurd rfl past⟩

/-- A session that never opened its connection ended at once. -/
theorem World.course_refused (profile : Profile τ) (cause : SystemError)
    (fresh : world.episodesOf world.sessions.length = []) :
    ∃ next, (world.refused profile cause).session? world.sessions.length = some next ∧
      (world.refused profile cause).Course world.sessions.length next := by
  let session : Session τ := .ofProfile profile .absent world.loop.now
  have acts := acts_ended (world.session?_joined profile .absent) (some (.system cause))
  have hepisodes := acts.episodesOf
  rw [show (world.joined profile .absent).episodesOf world.sessions.length = [] from fresh,
    List.nil_append] at hepisodes
  have unanswered : session.Poised (world.joined profile .absent).tree :=
    ⟨fun _ h => (nomatch h), fun h => (nomatch h)⟩
  obtain ⟨regular, poised⟩ := World.regular_closing world.sessions.length
    (some (.system cause)) unanswered
  refine ⟨_, acts.session, poised, hepisodes ▸ regular, fun first hfirst => ?_, ?_, ?_⟩
  · rw [World.refused, hepisodes] at hfirst
    obtain rfl := Option.some.inj hfirst
    exact .inr rfl
  · rw [World.refused, hepisodes]
    exact .singleton _
  · rw [World.refused, hepisodes]
    exact ⟨_, rfl, Episode.not_opens rfl, .detached rfl (.refl _) rfl rfl⟩

end

variable {around : Surroundings τ σ} {allowed : World τ σ → Event τ σ → Prop}
  {world after : World τ σ} {who : SessionId} {next : Session τ}

namespace World

/-- Whatever moves, every session follows its course. -/
theorem Move.course {mover : Option SessionId} (move : Move around allowed mover world after)
    (standing : world.Standing who)
    (h : ∀ session, world.session? who = some session → world.Course who session)
    (hnext : after.session? who = some next) : after.Course who next := by
  have retains := move.retains
  refine move.preserves (fun world session => world.Course who session)
    (fun _ spares course => course.spares spares retains) ?_ h hnext
  rintro rfl
  have hunknown := standing.of_unknown
  cases move with
  | begun _ profile owner =>
    exact course_begun profile owner (hunknown (List.getElem?_eq_none (Nat.le_refl _))).1
  | refused _ profile owner cause =>
    exact course_refused profile cause (hunknown (List.getElem?_eq_none (Nat.le_refl _))).1
  | retried handle _ found active =>
    have fired := (h _ found).goes_on (acts_fired found) rfl rfl rfl rfl rfl (by simp)
    have acts := acts_attempted (session?_fired found)
    exact ⟨_, acts.session, fired.goes_on acts rfl rfl rfl rfl rfl (by simp [Deed.acceptance?])⟩
  | exhausted handle _ found active =>
    have fired := (h _ found).goes_on (acts_fired found) rfl rfl rfl rfl rfl (by simp)
    exact ⟨_, session?_ended (session?_fired found) _,
      fired.ended (session?_fired found) active (by simp)⟩
  | forced _ found active =>
    have acts := acts_attempted found
    exact ⟨_, acts.session,
      (h _ found).goes_on acts rfl rfl rfl rfl rfl (by simp [Deed.acceptance?])⟩
  | abandoned _ found active =>
    exact ⟨_, session?_ended found _, (h _ found).ended found active (by simp)⟩
  | cancelled found active =>
    exact ⟨_, session?_ended found _, (h _ found).ended found active (by simp)⟩
  | handed packet found active builds =>
    have attached := (standing.of_active found active).attached
    have acts := acts_chronicled found (.handed packet)
    exact ⟨_, acts.session, (h _ found).goes_on acts rfl rfl rfl rfl rfl
      (by simp [Deed.acceptance?, active, attached, builds])⟩
  | kept data found awaits waits proxied =>
    exact ⟨_, session?_admitted found data, (h _ found).admitted found awaits waits proxied⟩
  | requested data found awaits discovering ready =>
    exact (h _ found).requests found awaits discovering ready
  | acknowledged data outcome found awaits requesting ordinary agree publishes =>
    have acts := acts_published found agree publishes
    exact ⟨_, session?_ended acts.session _,
      (h _ found).acknowledged found awaits requesting ordinary agree publishes _⟩

/-- In every run, every session follows its course. -/
theorem Run.course {tree : SettingsTree} {network : σ} {events : List (Event τ σ)}
    (run : Run around Possible (start tree network) events world)
    (found : world.session? who = some next) : world.Course who next :=
  run.keeps found fun move standing h hnext => move.course standing h hnext

end World

/-! ## Any two entries -/

namespace Episode

variable {first second third : Episode τ}

/-- What stays from an entry of a session to any later one. -/
structure Precedes (first second : Episode τ) : Prop where
  profile : second.session.profile = first.session.profile
  retains : first.tree.Retains second.tree
  past : first.session.phase ≠ .discovering → second.session.phase ≠ .discovering
  opens : first.Opens → second.session.phase ≠ .discovering
  attached : second.session.attached = true → first.session.attached = true
  response : first.session.phase ≠ .discovering → second.session.attached = true →
    second.session.response = first.session.response

theorem Precedes.trans (h : first.Precedes second) (h' : second.Precedes third) :
    first.Precedes third where
  profile := h'.profile.trans h.profile
  retains := h.retains.trans h'.retains
  past := h'.past ∘ h.past
  opens := h'.past ∘ h.opens
  attached := h.attached ∘ h'.attached
  response past attached := (h'.response (h.past past) attached).trans
    (h.response past (h'.attached attached))

theorem Leads.precedes (h : first.Leads second.session second.tree) : first.Precedes second := by
  by_cases opens : first.Opens
  · have enters := h.1 opens
    refine ⟨enters.profile, enters.retains, fun past => absurd enters.discovering past, fun _ => ?_,
      enters.attached, fun past => absurd enters.discovering past⟩
    simp [enters.requesting]
  · have becomes := h.2 opens
    exact ⟨becomes.profile, becomes.retains, becomes.phase_ne, fun h => absurd h opens,
      becomes.attached, becomes.response⟩

end Episode

theorem World.Course.precedes {session : Session τ} (h : world.Course who session) :
    (world.episodesOf who).Pairwise Episode.Precedes := by
  have : Trans (α := Episode τ) Episode.Precedes Episode.Precedes Episode.Precedes :=
    ⟨Episode.Precedes.trans⟩
  exact (h.chain.imp fun _ _ => Episode.Leads.precedes).pairwise

end NetBoot
