/-
# Offers that are held back

While the wait for proxy offers lasts, a session holds ordinary offers back.  It looks at what
it holds only when it accepts a further offer; a timer that fires repeats the discovery or
gives up, whatever is held.  So a session can run out of attempts while it holds an offer that
it could request, but only if all that it accepted came within the wait, or before the first
ordinary offer.
-/
import NetBoot.Proofs.Session.Course

namespace NetBoot

variable {τ σ : Type} [TimeScale τ]

namespace World

variable {around : Surroundings τ σ} {world : World τ σ} {who : SessionId} {session : Session τ}

/-- A session that timed out detached its connection before. -/
theorem Run.exists_detached {tree : SettingsTree} {network : σ} {events : List (Event τ σ)}
    (run : Run around Possible (start tree network) events world)
    (found : world.session? who = some session) {device : String} {count : Nat}
    (failure : session.failure = some (.timeout device count)) :
    ∃ before ending after, world.episodesOf who = before ++ ending :: after ∧
      ending.deed = .detached := by
  have standing := run.standing who
  have finished : session.finished = true := by
    by_contra active
    have ongoing := standing.of_active found (by simpa using active)
    simp [ongoing.failure] at failure
  rcases standing.of_over found finished with unopened | ⟨owner, concluded⟩
  · obtain ⟨cause, hcause⟩ := unopened.failure
    simp [hcause] at failure
  · obtain ⟨first, rest, detached, ended, closed, telling, hepisodes, -, -, -, hdetached, -⟩ :=
      concluded.episodes
    refine ⟨first :: rest, detached, [ended, closed] ++ telling, ?_, hdetached⟩
    rw [hepisodes]
    simp

/-- A session that is discovering has never done anything else. -/
theorem Course.discovers_before (h : world.Course who session) {before after : List (Episode τ)}
    {current : Episode τ} (split : world.episodesOf who = before ++ current :: after)
    (discovering : current.session.phase = .discovering) {episode : Episode τ}
    (mem : episode ∈ before) : episode.session.phase = .discovering ∧ ¬episode.Opens := by
  have hprecedes := h.precedes
  rw [split, List.pairwise_append] at hprecedes
  have precedes : episode.Precedes current := hprecedes.2.2 episode mem current List.mem_cons_self
  refine ⟨?_, fun opens => precedes.opens opens discovering⟩
  by_contra past
  exact precedes.past past discovering

/-- As long as a session is discovering, whatever it accepted before and held an ordinary reply
after came within the wait. -/
theorem Course.waits_before (h : world.Course who session) (recorded : world.Recorded who)
    {before after : List (Episode τ)} {current : Episode τ}
    (split : world.episodesOf who = before ++ current :: after)
    (discovering : current.session.phase = .discovering) {episode : Episode τ}
    (mem : episode ∈ before) {data : Bytes} {reply held : BlockId}
    (hdeed : episode.deed = .accepted data reply)
    (hheld : episode.session.merging episode.tree data reply = some held) : episode.Waits := by
  obtain ⟨hphase, quiet⟩ := h.discovers_before split discovering mem
  have awaits := recorded.awaited episode (by simp [split, mem]) data reply hdeed
  by_contra late
  exact quiet ⟨hphase, data, reply, held, hdeed, awaits, hheld, .inl late⟩

/-- In every run, a session that times out while it is discovering never began to request.  It
holds no reply that refuses proxy offers, and each datagram that it accepted and held an
ordinary reply after came within the wait.  So an offer that is held back during the wait is
requested with the next offer that is accepted after it, and otherwise never. -/
theorem Run.times_out_within_wait {tree : SettingsTree} {network : σ} {events : List (Event τ σ)}
    (run : Run around Possible (start tree network) events world)
    (found : world.session? who = some session) {device : String} {count : Nat}
    (failure : session.failure = some (.timeout device count)) :
    ∃ before ending after, world.episodesOf who = before ++ ending :: after ∧
      ending.deed = .detached ∧
      (ending.session.phase = .discovering →
        (∀ episode ∈ before, episode.session.phase = .discovering) ∧
        (∀ held, ending.session.response = some held → ∃ offer,
          ending.tree.contentsOf? held = some (.reply offer) ∧ offer.Offers ending.session.xid ∧
            offer.refusesProxy = false) ∧
        ∀ episode ∈ before, ∀ data reply held, episode.deed = .accepted data reply →
          episode.session.merging episode.tree data reply = some held → episode.Waits) := by
  have course := run.course found
  have arbitrated : world.Arbitrated who session :=
    run.keeps found fun move standing h hnext => move.arbitrated standing h hnext
  obtain ⟨before, ending, after, split, hdeed⟩ := run.exists_detached found failure
  have regular := course.regular ending (by simp [split])
  refine ⟨before, ending, after, split, hdeed, fun discovering =>
    ⟨fun episode mem => (course.discovers_before split discovering mem).1, fun held hheld => ?_,
      fun episode mem data reply held hdeed hheld =>
        course.waits_before arbitrated.recorded split discovering mem hdeed hheld⟩⟩
  obtain ⟨offer, hoffer, offers, allows⟩ := regular.poised.holds held hheld
  exact ⟨offer, hoffer, offers, allows discovering⟩

/-- A session that may attempt three times, whose server answers each discovery at once with
an offer that names it, times out without a request. -/
theorem timed_out_with_offer :
    ∃ (world : World Int Script) (session : Session Int) (ending : Episode Int) (offer : Packet),
      Run Script.around Possible (start .empty { echoes := List.replicate 3 [.namedReply .offer] })
        [.start { Profile.plain 3 0 with retry := ⟨250, 2000, 3⟩ } .watching, .fire ⟨0, 0, 0⟩,
          .fire ⟨1, 250, 0⟩, .fire ⟨2, 750, 0⟩, .fire ⟨3, 1750, 0⟩] world ∧
      world.session? 0 = some session ∧ session.failure = some (.timeout "net0" 3) ∧
      ending ∈ world.episodesOf 0 ∧ ending.deed = .detached ∧
      ending.session.phase = .discovering ∧ ending.session.response = some 3 ∧
      ending.tree.contentsOf? 3 = some (.reply offer) ∧ offer.isProxyReply = false ∧
      offer.fetch Tag.serverId = some [10, 0, 0, 1] ∧ offer.refusesProxy = false := by
  let world := (start .empty { echoes := List.replicate 3 [.namedReply .offer] }).afterAll
    Script.around [.start { Profile.plain 3 0 with retry := ⟨250, 2000, 3⟩ } .watching,
      .fire ⟨0, 0, 0⟩, .fire ⟨1, 250, 0⟩, .fire ⟨2, 750, 0⟩, .fire ⟨3, 1750, 0⟩]
  have run : Run Script.around Possible (start .empty { echoes := _ }) _ world :=
    .of_feasible (by decide +kernel)
  obtain ⟨hfailure, held⟩ :
      (world.session? 0).map Session.failure = some (some (.timeout "net0" 3)) ∧
      ∀ episode ∈ world.episodesOf 0, episode.deed = .detached →
        episode.session.phase = .discovering ∧ episode.session.response = some 3 ∧
          (episode.tree.packetAt 3).isProxyReply = false ∧
          (episode.tree.packetAt 3).fetch Tag.serverId = some [10, 0, 0, 1] := by decide +kernel
  clear_value world
  obtain ⟨session, found, failure⟩ := Option.map_eq_some_iff.mp hfailure
  obtain ⟨before, ending, after, split, hdeed, holds⟩ := run.times_out_within_wait found failure
  have mem : ending ∈ world.episodesOf 0 := by simp [split]
  obtain ⟨discovering, response, ordinary, named⟩ := held ending mem hdeed
  obtain ⟨offer, hoffer, -, allows⟩ := (holds discovering).2.1 3 response
  rw [SettingsTree.packetAt_of_contents hoffer] at ordinary named
  exact ⟨world, session, ending, offer, run, found, failure, mem, hdeed, discovering, response,
    hoffer, ordinary, named, allows⟩

end World
end NetBoot
