/-
# The proxy settings that a success leaves

A session that succeeds puts the proxy reply that it holds below the root, in the place of an
earlier one.  It never takes one out without putting its own there.  So after an
acknowledgement that refuses proxy replies the settings tree still has the proxy reply that
some earlier session registered, if there was one.

A session that is over got its last record by a move of its own.  For a success that move is
the acceptance of an acknowledgement, and what it registers decides what is found below the
root when the session ends.
-/
import NetBoot.Proofs.Session.Completion

namespace NetBoot.World

variable {τ σ : Type} [TimeScale τ] {around : Surroundings τ σ}
  {allowed : World τ σ → Event τ σ → Prop} {first world after : World τ σ} {who : SessionId}
  {session next : Session τ}

/-! ## Where a success comes from -/

/-- A session has its record from a move of its own. -/
theorem Moves.exists_own_move (moves : Moves around allowed first world)
    (fresh : first.session? who = none) (found : world.session? who = some session) :
    ∃ prior after, Moves around allowed first prior ∧ Move around allowed (some who) prior after ∧
      after.session? who = some session ∧ Moves around allowed after world := by
  induction moves with
  | refl => simp [fresh] at found
  | @tail middle last prior step ih =>
    obtain ⟨mover, move⟩ := step
    by_cases hmover : mover = some who
    · exact ⟨middle, last, prior, hmover ▸ move, found, .refl⟩
    · -- the record was there before, because others leave it alone
      have spares := move.spares hmover
      obtain ⟨start, after, before, own, hafter, later⟩ := ih (spares.session.symm.trans found)
      exact ⟨start, after, before, own, hafter, later.tail ⟨mover, move⟩⟩

/-- A session accepts an acknowledgement and is over, once its replies are registered or one of
them is refused. -/
structure Resolves (around : Surroundings τ σ) (world after : World τ σ) (who : SessionId)
    (session : Session τ) (data : Bytes) (outcome : Except SettingsTree.Error Unit)
    (published : World τ σ) : Prop where
  found : world.session? who = some session
  awaits : session.Awaits data
  requesting : session.phase ≠ .discovering
  ordinary : (Packet.ofBytes data).isProxyReply = false
  registers : ∃ start : World τ σ, start.Agree (world.settled who session data) ∧
    (Act.registerReplies around (world.settling session data)).perform start =
      (.ok outcome, published)
  ended : after = published.ended who (world.settling session data) (registrationFailure outcome)

omit [TimeScale τ] in
/-- The record that a session ends with is the one that it registered its replies with. -/
theorem Resolves.record {outcome : Except SettingsTree.Error Unit} {data : Bytes}
    {published : World τ σ} (h : Resolves around world after who session data outcome published)
    (found : after.session? who = some next) :
    next.proxy = (world.settling session data).proxy ∧ next.xid = session.xid ∧
      next.failure = registrationFailure outcome := by
  obtain ⟨start, agree, publishes⟩ := h.registers
  have acts := acts_published h.found agree publishes
  rw [h.ended, session?_ended acts.session, Option.some_inj] at found
  obtain ⟨proxy, hsettling⟩ := world.settling_eq session data
  subst found
  refine ⟨rfl, ?_, rfl⟩
  rw [hsettling]
  rfl

/-- A session is over without having failed, or because its replies could not be registered, by no
move but the acceptance of an acknowledgement. -/
theorem Move.resolves (move : Move around allowed (some who) world after)
    (found : after.session? who = some next) (finished : next.finished = true)
    (registration : next.phase = .failed → ∃ cause, next.failure = some (.registration cause)) :
    ∃ session data outcome published, Resolves around world after who session data outcome
      published := by
  -- after every other move the session is active, or it has failed for another reason
  have hactive {record : Session τ} (hrecord : after.session? who = some record)
      (active : record.finished = false) : False := by
    rw [found, Option.some_inj] at hrecord
    rw [hrecord, active] at finished
    cases finished
  have hfailed {record : Session τ} {failure : Failure} (hrecord : after.session? who = some record)
      (failed : record.phase = .failed) (hfailure : record.failure = some failure)
      (other : ∀ cause, failure ≠ .registration cause) : False := by
    rw [found, Option.some_inj] at hrecord
    subst hrecord
    obtain ⟨cause, hcause⟩ := registration failed
    rw [hfailure, Option.some_inj] at hcause
    exact other cause hcause
  cases move with
  | begun _ profile owner => exact (hactive (world.session?_begun profile owner) rfl).elim
  | refused _ profile owner cause =>
    exact (hfailed (session?_ended (world.session?_joined profile .absent) _) rfl rfl
      (by simp)).elim
  | retried handle _ known active =>
    exact (hactive (session?_attempted (session?_fired known)) active).elim
  | exhausted handle _ known active =>
    exact (hfailed (session?_ended (session?_fired known) _) rfl rfl (by simp)).elim
  | forced _ known active => exact (hactive (session?_attempted known) active).elim
  | abandoned _ known => exact (hfailed (session?_ended known _) rfl rfl (by simp)).elim
  | cancelled known => exact (hfailed (session?_ended known _) rfl rfl (by simp)).elim
  | handed packet known active => exact (hactive known active).elim
  | @kept _ _ session data known awaits =>
    obtain ⟨response, proxy, hkeeping⟩ := world.keeping_eq session data
    have hadmitted := session?_admitted known data
    rw [hkeeping] at hadmitted
    exact (hactive hadmitted awaits.active).elim
  | requested data known =>
    obtain ⟨timer, -, -, acts⟩ := acts_requesting (session?_admitted known data)
    exact (hactive acts.session rfl).elim
  | acknowledged data outcome known awaits requesting ordinary agree publishes =>
    exact ⟨_, data, outcome, _, known, awaits, requesting, ordinary, ⟨_, agree, publishes⟩, rfl⟩

/-- A session succeeds by no move but the acceptance of an acknowledgement, when its replies are
registered. -/
theorem Move.succeeds (move : Move around allowed (some who) world after)
    (found : after.session? who = some next) (succeeded : next.phase = .succeeded) :
    ∃ session data published, Resolves around world after who session data (.ok ()) published := by
  have finished : next.finished = true := by simp [Session.finished, succeeded, Phase.terminal]
  obtain ⟨session, data, outcome, published, resolves⟩ := move.resolves found finished
    (by simp [succeeded])
  cases outcome with
  | ok => exact ⟨session, data, published, resolves⟩
  | error cause =>
    obtain ⟨start, agree, publishes⟩ := resolves.registers
    have acts := acts_published resolves.found agree publishes
    rw [resolves.ended, session?_ended acts.session, Option.some_inj] at found
    rw [← found] at succeeded
    cases succeeded

/-! ## What it leaves -/

omit [TimeScale τ] in
/-- A session that succeeds keeps the proxy reply that it held, unless its acknowledgement
refuses proxy replies. -/
theorem proxy_settling_eq (world : World τ σ) (session : Session τ) {data : Bytes}
    (ordinary : (Packet.ofBytes data).isProxyReply = false) :
    (world.settling session data).proxy =
      if (Packet.ofBytes data).refusesProxy then none else session.proxy := by
  have hkeeping : (world.keeping session data).proxy = session.proxy := by
    rw [keeping, ordinary]
    split <;> rfl
  rw [settling, hkeeping]

/-- A session that succeeds right after it accepted an acknowledgement for its exchange puts the
proxy reply that it holds below the root.  It holds none if the acknowledgement refuses proxy
replies; and then it leaves below the root, with all that it holds, whatever proxy reply was
there when the acknowledgement came.  So after a success the proxy settings are the session's
own only if it holds some or none were there before. -/
theorem Run.leaves_earlier_proxy {tree : SettingsTree} {network : σ} {events : List (Event τ σ)}
    (built : tree.Built) (unrefusing : ∀ count, around.refusal count = none)
    (run : Run around Considerate (start tree network) events world)
    (found : world.session? who = some session) (succeeded : session.phase = .succeeded) :
    ∃ data reply accepted detached ended,
      [accepted, detached, ended] <:+: world.history ∧
      (accepted.who = who ∧ accepted.deed = .accepted data reply) ∧
      Acknowledges data session.xid ∧
      (ended.who = who ∧ ended.deed = .ended none ∧ ended.session.proxy = session.proxy) ∧
      (session.proxy =
        if (Packet.ofBytes data).refusesProxy then none else accepted.session.proxy) ∧
      (ended.tree.findChild? SettingsTree.root "proxydhcp" =
        session.proxy.or (accepted.tree.findChild? SettingsTree.root "proxydhcp")) ∧
      ∀ block, ended.tree.contentsOf? block = accepted.tree.contentsOf? block := by
  have hstart : (start tree network : World τ σ).Wired := wired_start tree network
  obtain ⟨moves, -⟩ := run.moves And.left hstart
  obtain ⟨prior, after, before, move, hafter, later⟩ := moves.exists_own_move rfl found
  obtain ⟨previous, data, published, succeeds⟩ := move.succeeds hafter succeeded
  have sound := Moves.sound before id (sound_start built network)
  have standing := Moves.standing before And.left hstart (fun _ => .unknown rfl rfl rfl) who
  have ongoing := standing.of_active succeeds.found succeeds.awaits.active
  obtain ⟨start, agree, publishes⟩ := succeeds.registers
  obtain ⟨registeredIn, hpublished, akin, registered, hproxy⟩ := sound.registers unrefusing
    succeeds.found succeeds.awaits.active succeeds.ordinary agree
  rw [publishes, Prod.mk.injEq] at hpublished
  obtain ⟨-, rfl⟩ := hpublished
  obtain ⟨detached, adjacent⟩ := adjacent_of_settled ongoing.attached (akin.trans agree.akin) none
  -- what the session is in the end is what it was when its replies were registered
  have acts := acts_published succeeds.found agree publishes
  rw [succeeds.ended, session?_ended acts.session, Option.some_inj] at hafter
  obtain ⟨proxy, hsettling⟩ := prior.settling_eq previous data
  have hproxy' : session.proxy = (prior.settling previous data).proxy := by rw [← hafter]; rfl
  have hxid : session.xid = previous.xid := by
    rw [← hafter, hsettling]
    rfl
  have acknowledges := (succeeds.awaits.acknowledges succeeds.requesting succeeds.ordinary).2
  rw [succeeds.ended] at later
  exact ⟨data, prior.tree.blocks.length, _, detached, _,
    adjacent.trans (Moves.history_grows later).isInfix, ⟨rfl, rfl⟩, hxid ▸ acknowledges,
    ⟨rfl, rfl, hproxy'.symm⟩, hproxy'.trans (prior.proxy_settling_eq previous succeeds.ordinary),
    hproxy' ▸ hproxy, registered.contents⟩

/-- Of two sessions, one after the other, the first registers a proxy reply.  It is still below
the root when the second has succeeded with an acknowledgement that refuses proxy replies. -/
theorem earlier_proxy_after_refusal :
    ∃ (tree : SettingsTree) (world : World Int Script) (session : Session Int),
      tree.Built ∧ Run Script.around Considerate (start tree {})
        [.start (Profile.plain 7 1) .watching, .deliver 0 (.proxyReply .offer 9), .tick 1001,
          .deliver 0 (.namedReply .offer), .deliver 0 (.namedReply .ack),
          .start (Profile.plain 7 1) .watching, .tick 2100, .deliver 1 (.namedReply .offer),
          .deliver 1 (.reply .ack)] world ∧
      world.session? 1 = some session ∧ session.phase = .succeeded ∧ session.proxy = none ∧
      ∃ ended ∈ world.history, ended.who = 1 ∧ ended.deed = .ended none ∧
        ended.tree.findChild? SettingsTree.root "proxydhcp" = some 2 := by
  let tree := SettingsTree.Edit.apply (SettingsTree.Edit.apply .empty (.create "net0" (.values [])))
    (.register 1 0)
  have built : tree.Built := .edit (.edit .empty (.create "net0" (.values [])) trivial)
    (.register 1 0) ⟨by decide, by decide⟩
  let world := (start tree {}).afterAll Script.around
    [.start (Profile.plain 7 1) .watching, .deliver 0 (.proxyReply .offer 9), .tick 1001,
      .deliver 0 (.namedReply .offer), .deliver 0 (.namedReply .ack),
      .start (Profile.plain 7 1) .watching, .tick 2100, .deliver 1 (.namedReply .offer),
      .deliver 1 (.reply .ack)]
  have begun : Run Script.around Considerate (start tree {}) [] (start tree {}) := .rest
  have run : Run Script.around Considerate (start tree {}) _ world :=
    (((((((begun.step (.start (Profile.plain 7 1) .watching) ⟨trivial, by decide⟩).step
      (.deliver 0 (.proxyReply .offer 9)) ⟨trivial, trivial⟩).step (.tick 1001)
      ⟨trivial, trivial⟩).step (.deliver 0 (.namedReply .offer)) ⟨trivial, trivial⟩).step
      (.deliver 0 (.namedReply .ack)) ⟨trivial, trivial⟩).step
      (.start (Profile.plain 7 1) .watching) ⟨trivial, by decide +kernel⟩).step (.tick 2100)
      ⟨trivial, trivial⟩).step (.deliver 1 (.namedReply .offer)) ⟨trivial, trivial⟩ |>.step
      (.deliver 1 (.reply .ack)) ⟨trivial, trivial⟩
  obtain ⟨hsession, hearlier⟩ : (world.session? 1).map (fun session =>
        (session.phase, session.proxy)) = some (.succeeded, none) ∧
      ∀ episode ∈ world.history, episode.who = 1 →
        episode.tree.findChild? SettingsTree.root "proxydhcp" = some 2 := by decide +kernel
  clear_value world
  obtain ⟨session, found, hrecord⟩ := Option.map_eq_some_iff.mp hsession
  obtain ⟨succeeded, bare⟩ := Prod.mk.inj hrecord
  obtain ⟨data, reply, accepted, detached, ended, adjacent, haccepted, -, hended, -, hproxy, -⟩ :=
    run.leaves_earlier_proxy built (fun _ => rfl) found succeeded
  have mem : accepted ∈ world.history := adjacent.subset (by simp)
  have mem' : ended ∈ world.history := adjacent.subset (by simp)
  rw [bare, Option.none_or, hearlier accepted mem haccepted.1] at hproxy
  exact ⟨tree, world, session, built, run, found, succeeded, bare, ended, mem', hended.1,
    hended.2.1, hproxy⟩

end NetBoot.World
