/-
# What a refused registration leaves

A session registers its replies one after the other, the proxy reply below the root and then the
reply below the device, and the settings tree may refuse either of them.  Nothing is taken back:
where the tree takes the proxy reply and refuses the other one, the session has failed and its
proxy reply stays below the root, in the place of whatever an earlier session left there.  Only
where the first replacement is refused does the tree look as it did before the acknowledgement.
-/
import NetBoot.Proofs.Session.ProxySettings
import NetBoot.Proofs.Session.Retention
import NetBoot.Proofs.Settings.Publication

namespace NetBoot

variable {τ σ : Type}

namespace Act

variable {around : Surroundings τ σ} {world after : World τ σ} {session : Session τ}
  {response block parent : BlockId} {name : String} {cause : SettingsTree.Error}

/-- A block that is not registered is only refused where the tree was told so, and then nobody sees
a difference. -/
theorem publish_refused (coherent : world.tree.Coherent)
    (orphan : world.tree.parentOf block = none) (hblock : block < world.tree.blocks.length)
    (hparent : parent < world.tree.blocks.length)
    (publishes : (publish around block name parent).perform world = (.ok (.error cause), after)) :
    ∃ reason, cause = .refused reason ∧ around.refusal world.replacements = some reason ∧
      world.tree.SameLinks after.tree := by
  obtain ⟨-, ⟨reason, hrefusal, hcause, htree⟩ | ⟨-, hreplace⟩⟩ := publish_cases publishes
  · exact ⟨reason, Except.error.inj hcause, hrefusal, htree ▸ .rename orphan name⟩
  · have hok := (coherent.publish orphan hblock hparent name).1
    rw [hreplace] at hok
    cases hok

/-- A block that is taken takes the place of its namesake. -/
theorem publish_taken (coherent : world.tree.Coherent)
    (orphan : world.tree.parentOf block = none) (hblock : block < world.tree.blocks.length)
    (hparent : parent < world.tree.blocks.length)
    (publishes : (publish around block name parent).perform world = (.ok (.ok ()), after)) :
    around.refusal world.replacements = none ∧ after.replacements = world.replacements + 1 ∧
      world.tree.Supplants after.tree block name parent := by
  obtain ⟨hcount, ⟨reason, -, hcause, -⟩ | ⟨hrefusal, hreplace⟩⟩ := publish_cases publishes
  · cases hcause
  · refine ⟨hrefusal, hcount, ?_⟩
    have orphan' : (world.tree.rename block name).parentOf block = none := by simpa using orphan
    have supplants := (coherent.rename orphan name).supplants_replace orphan'
      (by simpa using hblock) (by simpa using hparent)
    rw [hreplace, SettingsTree.nameOf_rename_self name hblock] at supplants
    exact supplants.of_sameLinks (.rename orphan name) coherent

/-- A session whose replies are refused has registered none of them, or the proxy reply alone. -/
theorem registerReplies_refused (publishable : Publishable session response world.tree)
    (publishes : (registerReplies around session).perform world = (.ok (.error cause), after)) :
    after.tree.parentOf response = none ∧ ∃ reason, cause = .refused reason ∧
      (around.refusal world.replacements = some reason ∧ world.tree.SameLinks after.tree ∨
        ∃ proxy, session.proxy = some proxy ∧ around.refusal world.replacements = none ∧
          around.refusal (world.replacements + 1) = some reason ∧
          world.tree.Supplants after.tree proxy Block.proxyName SettingsTree.root) := by
  obtain ⟨coherent, root, device, holds, hresponse, orphan, hproxy⟩ := publishable
  rcases registerReplies_cases holds publishes with ⟨-, publishes⟩ |
    ⟨proxy, middle, first, held, hmiddle, hrest⟩
  · obtain ⟨reason, hcause, hrefusal, same⟩ :=
      publish_refused coherent orphan hresponse device publishes
    exact ⟨(same.parents response).trans orphan, reason, hcause, .inl ⟨hrefusal, same⟩⟩
  · obtain ⟨hne, hlt, horphan⟩ := hproxy proxy held
    rcases hrest with ⟨first, rfl, hcause, rfl⟩ | ⟨rfl, publishes⟩
    · obtain ⟨reason, rfl, hrefusal, same⟩ := publish_refused coherent horphan hlt root hmiddle
      exact ⟨(same.parents response).trans orphan, reason, Except.error.inj hcause,
        .inl ⟨hrefusal, same⟩⟩
    · -- the proxy reply is in its place, and the tree refuses the other one
      have spares := publish_spares coherent horphan hlt root hmiddle
      obtain ⟨htaken, hcount, supplants⟩ := publish_taken coherent horphan hlt root hmiddle
      have orphan' := supplants.parentOf_eq_none hne orphan
      obtain ⟨reason, hcause, hrefusal, same⟩ := publish_refused spares.coherent orphan'
        (spares.length ▸ hresponse) (spares.length ▸ device) publishes
      exact ⟨(same.parents response).trans orphan', reason, hcause, .inr ⟨proxy, held, htaken,
        hcount ▸ hrefusal, supplants.trans_sameLinks same⟩⟩

end Act

namespace World

/-- A session failed right after it accepted an acknowledgement for its exchange, because the tree
was told to refuse one of the replacements that it asked for. -/
structure Refuses (refusal : Nat → Option String) (prior after : World τ σ) (who : SessionId)
    (session : Session τ) (data : Bytes) (reason : String) : Prop where
  acknowledges : Acknowledges data session.xid
  history : ∃ accepted detached ended,
    prior.history ++ [accepted, detached, ended] <+: after.history ∧
      (accepted.who = who ∧ accepted.deed = .accepted data prior.tree.blocks.length ∧
        accepted.tree = (prior.grown data).tree) ∧
      (ended.who = who ∧ ended.deed = .ended (some (.registration (.refused reason))) ∧
        ended.tree = after.tree)
  /-- The acknowledgement is not registered. -/
  reply : after.tree.parentOf prior.tree.blocks.length = none
  /-- The proxy reply of the session was not registered before. -/
  proxy : ∀ proxy, session.proxy = some proxy → prior.tree.parentOf proxy = none
  /-- All blocks hold what they held. -/
  retains : prior.tree.Retains after.tree
  /-- The first replacement is refused and the tree looks as it did, or the proxy reply has taken
  the place of an earlier one and the second replacement is refused. -/
  links : refusal prior.replacements = some reason ∧ prior.tree.SameLinks after.tree ∨
    ∃ proxy, session.proxy = some proxy ∧ refusal prior.replacements = none ∧
      refusal (prior.replacements + 1) = some reason ∧
      prior.tree.Supplants after.tree proxy "proxydhcp" SettingsTree.root

section

variable {prior after : World τ σ} {who : SessionId} {session : Session τ} {data : Bytes}
  {refusal : Nat → Option String} {reason : String}

/-- The tree looks as it did if and only if the session holds no proxy reply or the first
replacement is refused. -/
theorem Refuses.sameLinks_iff (h : Refuses refusal prior after who session data reason) :
    prior.tree.SameLinks after.tree ↔
      session.proxy = none ∨ refusal prior.replacements = some reason := by
  rcases h.links with ⟨hrefusal, same⟩ | ⟨proxy, held, htaken, -, supplants⟩
  · exact ⟨fun _ => .inr hrefusal, fun _ => same⟩
  · refine ⟨fun same => absurd same (supplants.not_sameLinks (h.proxy proxy held)), ?_⟩
    rintro (bare | hrefusal)
    · rw [held] at bare
      cases bare
    · rw [htaken] at hrefusal
      cases hrefusal

end

variable [TimeScale τ] {around : Surroundings τ σ} {prior after world : World τ σ}
  {who : SessionId} {session : Session τ} {cause : SettingsTree.Error}

/-- A session fails to register its replies by no move but the acceptance of an acknowledgement,
and only where the tree was told to refuse. -/
theorem Move.refuses (move : Move around Considerate (some who) prior after) (sound : prior.Sound)
    (standing : prior.Standing who) (found : after.session? who = some session)
    (finished : session.finished = true)
    (failed : session.failure = some (.registration cause)) :
    ∃ data reason, cause = .refused reason ∧
      Refuses around.refusal prior after who session data reason := by
  obtain ⟨previous, data, outcome, published, resolves⟩ := move.resolves found finished
    fun _ => ⟨cause, failed⟩
  obtain ⟨start, agree, publishes⟩ := resolves.registers
  obtain ⟨hproxy, hxid, hfailure⟩ := resolves.record found
  obtain rfl : outcome = .error cause := by
    rw [failed] at hfailure
    cases outcome with
    | ok => cases hfailure
    | error other => cases hfailure; rfl
  have hended := resolves.ended
  subst hended
  have htree : start.tree = (prior.grown data).tree := agree.tree
  have hcount : start.replacements = prior.replacements := agree.replacements
  -- nobody sees the block of the acknowledgement
  have same : prior.tree.SameLinks start.tree := htree ▸ .add prior.tree rfl rfl
  have publishable := sound.publishable resolves.found resolves.awaits.active resolves.ordinary
  rw [← htree] at publishable
  obtain ⟨hreply, reason, rfl, hlinks⟩ := Act.registerReplies_refused publishable publishes
  rw [hcount, ← hproxy] at hlinks
  have ongoing := standing.of_active resolves.found resolves.awaits.active
  obtain ⟨detached, grown⟩ := history_of_settled ongoing.attached
    (Act.akin_of_publishes agree publishes) (some (.registration (.refused reason)))
  have acknowledges := (resolves.awaits.acknowledges resolves.requesting resolves.ordinary).2
  have retains := retains_published agree publishes
  refine ⟨data, reason, rfl, hxid ▸ acknowledges, ⟨_, detached, _, grown, ⟨rfl, rfl, rfl⟩, rfl,
    rfl, rfl⟩, hreply, fun held hheld => ?_, (prior.tree.retains_add _).trans retains, ?_⟩
  · rw [← same.parents]
    exact (publishable.proxy held (hproxy ▸ hheld)).2.2
  · rcases hlinks with ⟨hrefusal, links⟩ | ⟨held, hheld, htaken, hrefusal, supplants⟩
    · exact .inl ⟨hrefusal, same.trans links⟩
    · exact .inr ⟨held, hheld, htaken, hrefusal, .of_sameLinks same sound.coherent supplants⟩

/-- The tree may refuse any replacement that sessions ask for, and leaves itself as it is when it
does.  A session that fails for such a refusal fails right after it accepted an acknowledgement for
its exchange.  The settings tree then looks as it did before that acknowledgement if and only if
the session holds no proxy reply or the first of its two replacements is the one that was refused.
Otherwise the proxy reply of the failed session has taken the place below the root of whatever
proxy reply an earlier session left there, and that one is registered nowhere. -/
theorem Run.refused_registration {tree : SettingsTree} {network : σ} {events : List (Event τ σ)}
    (built : tree.Built) (run : Run around Considerate (start tree network) events world)
    (found : world.session? who = some session)
    (failed : session.failure = some (.registration cause)) :
    ∃ prior after data reason, cause = .refused reason ∧
      Moves around Considerate (start tree network) prior ∧
      Move around Considerate (some who) prior after ∧ Moves around Considerate after world ∧
      Refuses around.refusal prior after who session data reason ∧
      (prior.tree.SameLinks after.tree ↔
        session.proxy = none ∨ around.refusal prior.replacements = some reason) := by
  have hstart : (start tree network : World τ σ).Wired := wired_start tree network
  obtain ⟨moves, -⟩ := run.moves And.left hstart
  have standing {reached : World τ σ} (reaches : Moves around Considerate (start tree network)
      reached) : reached.Standing who :=
    Moves.standing reaches And.left hstart (fun _ => .unknown rfl rfl rfl) who
  have finished : session.finished = true := by
    by_contra active
    rw [Bool.not_eq_true] at active
    rw [((standing moves).of_active found active).failure] at failed
    cases failed
  obtain ⟨prior, after, before, move, hafter, later⟩ := moves.exists_own_move rfl found
  obtain ⟨data, reason, hcause, refuses⟩ := move.refuses
    (Moves.sound before id (sound_start built network)) (standing before) hafter finished failed
  exact ⟨prior, after, data, reason, hcause, before, move, later, refuses, refuses.sameLinks_iff⟩

/-- Of two sessions, one after the other, the first registers a proxy reply.  The tree takes the
proxy reply of the second and refuses its acknowledgement.  So the second session has failed, and
below the root stands its proxy reply and not the one of the first. -/
theorem proxy_of_failed_session_stays :
    ∃ (around : Surroundings Int Script) (tree : SettingsTree) (world : World Int Script)
      (session : Session Int),
      tree.Built ∧ Run around Considerate (start tree {})
        [.start (Profile.plain 7 1) .watching, .deliver 0 (.proxyReply .offer 9), .tick 1001,
          .deliver 0 (.namedReply .offer), .deliver 0 (.namedReply .ack),
          .start (Profile.plain 7 1) .watching, .deliver 1 (.proxyReply .offer 9), .tick 2100,
          .deliver 1 (.namedReply .offer), .deliver 1 (.namedReply .ack)] world ∧
      world.session? 1 = some session ∧
      session.failure = some (.registration (.refused "full")) ∧ session.proxy = some 5 ∧
      ∃ (prior after : World Int Script) (data : Bytes),
        Refuses around.refusal prior after 1 session data "full" ∧
        (prior.tree.parentOf 2 = some SettingsTree.root ∧ prior.tree.parentOf 5 = none) ∧
        (after.tree.parentOf 2 = none ∧ after.tree.parentOf 5 = some SettingsTree.root) := by
  let around : Surroundings Int Script :=
    { Script.around with refusal := fun count => if count = 3 then some "full" else none }
  let tree := SettingsTree.Edit.apply (SettingsTree.Edit.apply .empty (.create "net0" (.values [])))
    (.register 1 0)
  have built : tree.Built := .edit (.edit .empty (.create "net0" (.values [])) trivial)
    (.register 1 0) ⟨by decide, by decide⟩
  let world := (start tree {}).afterAll around
    [.start (Profile.plain 7 1) .watching, .deliver 0 (.proxyReply .offer 9), .tick 1001,
      .deliver 0 (.namedReply .offer), .deliver 0 (.namedReply .ack),
      .start (Profile.plain 7 1) .watching, .deliver 1 (.proxyReply .offer 9), .tick 2100,
      .deliver 1 (.namedReply .offer), .deliver 1 (.namedReply .ack)]
  have begun : Run around Considerate (start tree {}) [] (start tree {}) := .rest
  have run : Run around Considerate (start tree {}) _ world :=
    ((((((((begun.step (.start (Profile.plain 7 1) .watching) ⟨trivial, by decide⟩).step
      (.deliver 0 (.proxyReply .offer 9)) ⟨trivial, trivial⟩).step (.tick 1001)
      ⟨trivial, trivial⟩).step (.deliver 0 (.namedReply .offer)) ⟨trivial, trivial⟩).step
      (.deliver 0 (.namedReply .ack)) ⟨trivial, trivial⟩).step
      (.start (Profile.plain 7 1) .watching) ⟨trivial, by decide +kernel⟩).step
      (.deliver 1 (.proxyReply .offer 9)) ⟨trivial, trivial⟩).step (.tick 2100)
      ⟨trivial, trivial⟩).step (.deliver 1 (.namedReply .offer)) ⟨trivial, trivial⟩ |>.step
      (.deliver 1 (.namedReply .ack)) ⟨trivial, trivial⟩
  obtain ⟨hsession, hearlier, hended⟩ : (world.session? 1).map (fun session =>
        (session.failure, session.proxy)) =
          some (some (.registration (.refused "full")), some 5) ∧
      (∀ episode ∈ world.history, episode.who = 1 → episode.tree.parentOf 5 = none →
        episode.tree.parentOf 2 = some SettingsTree.root) ∧
      ∀ episode ∈ world.history, episode.who = 1 →
        episode.deed = .ended (some (.registration (.refused "full"))) →
        episode.tree.parentOf 2 = none ∧ episode.tree.parentOf 5 = some SettingsTree.root := by
    decide +kernel
  clear_value world
  obtain ⟨session, found, hrecord⟩ := Option.map_eq_some_iff.mp hsession
  obtain ⟨failed, held⟩ := Prod.mk.inj hrecord
  obtain ⟨prior, after, data, reason, hcause, -, -, later, refuses, -⟩ :=
    run.refused_registration built found failed
  cases hcause
  obtain ⟨accepted, detached, ended, grown, haccepted, hlast⟩ := refuses.history
  have adjacent : [accepted, detached, ended] <:+: world.history :=
    (List.suffix_append prior.history _).isInfix.trans
      (grown.trans (Moves.history_grows later)).isInfix
  have mem : accepted ∈ world.history := adjacent.subset (by simp)
  have mem' : ended ∈ world.history := adjacent.subset (by simp)
  have hprior (block : BlockId) : accepted.tree.parentOf block = prior.tree.parentOf block := by
    rw [haccepted.2.2]
    exact SettingsTree.parentOf_add rfl block
  have free := refuses.proxy 5 held
  have taken := hearlier accepted mem haccepted.1 ((hprior 5).trans free)
  have left := hended ended mem' hlast.1 hlast.2.1
  rw [hlast.2.2] at left
  exact ⟨around, tree, world, session, built, run, found, failed, held, prior, after, data, refuses,
    ⟨(hprior 2).symm.trans taken, free⟩, left⟩

end World
end NetBoot
