/-
# How sessions change their phase

A session goes from its discovery to its request, from its request to its success, and from
either of the two to its failure; there is no other way.  It begins to request exactly when it
accepts an offer that opens the request phase, and it does so before it does anything else.

Whether an offer opens the request phase is up to the reply that is held then and to the
clock.  So no timer that fires and no datagram that is discarded ends the wait for proxy
offers, and as long as the wait lasts, only an ordinary offer that refuses proxy offers does.
-/
import NetBoot.Proofs.Session.Course

namespace NetBoot

variable {τ σ : Type} [TimeScale τ]

namespace Episode

variable {episode : Episode τ} {session : Session τ} {tree : SettingsTree}

theorem Leads.changes (h : episode.Leads session tree) :
    episode.session.phase.Changes session.phase := by
  by_cases opens : episode.Opens
  · have enters := h.1 opens
    rw [enters.discovering, enters.requesting]
    exact .requests
  · exact (h.2 opens).changes

/-- A discovering session requests next if and only if the entry opens the request phase. -/
theorem Leads.requesting_iff (h : episode.Leads session tree)
    (discovering : episode.session.phase = .discovering) :
    session.phase = .requesting ↔ episode.Opens := by
  constructor
  · intro requesting
    by_contra quiet
    have becomes := h.2 quiet
    rcases becomes.phase with hphase | ⟨hphase, -⟩ | ⟨-, hphase⟩
    · simp [requesting, discovering] at hphase
    · simp [discovering] at hphase
    · simp [requesting] at hphase
  · exact fun opens => (h.1 opens).requesting

/-- While the wait lasts, what opens the request phase is an ordinary offer that refuses proxy
offers. -/
theorem Regular.opens_early (regular : episode.Regular) (opens : episode.Opens)
    (waits : episode.Waits) :
    ∃ data reply, episode.deed = .accepted data reply ∧
      (Packet.ofBytes data).isProxyReply = false ∧ (Packet.ofBytes data).refusesProxy = true := by
  obtain ⟨discovering, data, reply, held, hdeed, -, hheld, hready⟩ := opens
  have refuses := hready.resolve_left (not_not.mpr waits)
  refine ⟨data, reply, hdeed, ?_⟩
  rw [Session.merging] at hheld
  split at hheld
  next merged =>
    obtain rfl := Option.some.inj hheld
    rw [SettingsTree.packetAt_of_contents (regular.accepted data reply hdeed)] at refuses
    exact ⟨merged.1, refuses⟩
  next =>
    -- the reply that was held before does not refuse proxy offers
    obtain ⟨packet, hcontents, -, allows⟩ := regular.poised.holds held hheld
    rw [SettingsTree.packetAt_of_contents hcontents, allows discovering] at refuses
    cases refuses

end Episode

namespace World

variable {around : Surroundings τ σ} {world : World τ σ} {who : SessionId} {session : Session τ}

/-- In every run, a session changes its phase only from discovering to requesting, from
requesting to succeeded, or from an active phase to failed.  While it is discovering it
requests next exactly behind an entry that opens the request phase: it accepts an offer that
it waits for, holds an ordinary reply once it has merged it, and that reply refuses proxy
offers or more than a second has passed.  Within that second only an ordinary offer that
refuses proxy offers does so.  At whatever moment a session is handed a datagram, it enters it
at once if it waits for it, and does nothing otherwise. -/
theorem Run.requests_when_opened {tree : SettingsTree} {network : σ} {events : List (Event τ σ)}
    (run : Run around Possible (start tree network) events world)
    (found : world.session? who = some session) :
    (∀ first, (world.episodesOf who).head? = some first →
      first.session.phase = .discovering ∨ first.session.phase = .failed) ∧
    ((world.episodesOf who).IsChain fun first second =>
      first.session.phase.Changes second.session.phase ∧
      (first.session.phase = .discovering →
        (second.session.phase = .requesting ↔ first.Opens))) ∧
    (∃ last, (world.episodesOf who).getLast? = some last ∧
      last.session.phase.Changes session.phase ∧ ¬last.Opens ∧
      (last.session.phase = .discovering → session.phase ≠ .requesting)) ∧
    (∀ episode ∈ world.episodesOf who, episode.Opens → episode.Waits →
      ∃ data reply, episode.deed = .accepted data reply ∧
        (Packet.ofBytes data).isProxyReply = false ∧
        (Packet.ofBytes data).refusesProxy = true) ∧
    ∀ (moment : World τ σ) (current : Session τ) (phases : Nat) (data : Bytes),
      moment.session? who = some current →
      (current.Awaits data → moment.history ++ [moment.arrival who current data] <+:
        ((Act.deliverWith around (Act.sendWithin around phases who) who data).perform
          moment).2.history) ∧
      (¬current.Awaits data →
        ((Act.deliverWith around (Act.sendWithin around phases who) who data).perform
          moment).2.Agree moment) := by
  have course := run.course found
  obtain ⟨last, hlast, quiet, becomes⟩ := course.last
  have leads : last.Leads session world.tree := Episode.leads_of_becomes quiet becomes
  refine ⟨course.first, course.chain.imp fun first second hleads => ?_,
    ⟨last, hlast, leads.changes, quiet, fun discovering requesting => ?_⟩,
    fun episode mem opens waits => ?_, fun moment current phases data found => ⟨?_, ?_⟩⟩
  · exact ⟨hleads.changes, hleads.requesting_iff⟩
  · exact quiet ((leads.requesting_iff discovering).mp requesting)
  · exact (course.regular episode mem).opens_early opens waits
  · intro awaits
    have history := (acts_admitted found data).history
    exact history ▸ Act.history_deliverWith around (Act.onward_sendWithin around phases who) found
      awaits
  · exact Act.agree_deliverWith around _ found

/-- A session that held back an ordinary offer requests it when a proxy server answers after
the wait. -/
theorem requested_after_wait :
    ∃ (world : World Int Script) (session : Session Int) (opening : Episode Int),
      Run Script.around Possible (start .empty {})
        [.start (Profile.plain 7 0) .watching, .deliver 0 (.namedReply .offer), .tick 1001,
          .deliver 0 (.proxyReply .offer 9)] world ∧
      world.session? 0 = some session ∧
      (world.episodesOf 0).map (fun episode => episode.session.phase) =
        [.discovering, .discovering, .discovering, .requesting, .requesting] ∧
      (world.episodesOf 0)[2]? = some opening ∧ opening.Opens ∧ opening.now = 1001 := by
  let world := (start .empty {}).afterAll Script.around
    [.start (Profile.plain 7 0) .watching, .deliver 0 (.namedReply .offer), .tick 1001,
      .deliver 0 (.proxyReply .offer 9)]
  have run : Run Script.around Possible (start .empty {}) _ world :=
    .of_feasible (by decide +kernel)
  obtain ⟨known, phases, clock⟩ : (world.session? 0).isSome = true ∧
      (world.episodesOf 0).map (fun episode => episode.session.phase) =
        [.discovering, .discovering, .discovering, .requesting, .requesting] ∧
      (world.episodesOf 0)[2]?.map Episode.now = some 1001 := by decide +kernel
  clear_value world
  obtain ⟨session, found⟩ := Option.isSome_iff_exists.mp known
  obtain ⟨-, chain, -⟩ := run.requests_when_opened found
  have hlength : (world.episodesOf 0).length = 5 := by
    rw [← List.length_map, phases]
    rfl
  have hphase (index : Nat) (within : index < (world.episodesOf 0).length) :
      [Phase.discovering, .discovering, .discovering, .requesting, .requesting][index]? =
        some (world.episodesOf 0)[index].session.phase := by
    rw [← phases, List.getElem?_map, List.getElem?_eq_getElem within, Option.map_some]
  obtain ⟨opening, hopening, hnow⟩ := Option.map_eq_some_iff.mp clock
  obtain ⟨within, rfl⟩ := List.getElem?_eq_some_iff.mp hopening
  obtain ⟨-, hopens⟩ := chain.getElem 2 (by omega)
  have discovering := Option.some.inj (hphase 2 within)
  have requesting := Option.some.inj (hphase 3 (by omega))
  exact ⟨world, session, _, run, found, phases, hopening, (hopens discovering.symm).mp
    requesting.symm, hnow⟩

end World
end NetBoot
