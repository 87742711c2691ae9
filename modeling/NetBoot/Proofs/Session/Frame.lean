/-
# What a move touches

A move of one session gives that session a record, adds to the history what the session
did, and adds to what its owner was told.  `Acts` says which record and which entries
these are.  All other sessions stay as they are, with what they did and what their
owners were told.
-/
import NetBoot.Proofs.Session.Move
import NetBoot.Proofs.Session.Registration
import NetBoot.Proofs.Time.Wiring

namespace NetBoot.World

variable {τ σ : Type}

/-- What a session did, in order. -/
def episodesOf (world : World τ σ) (who : SessionId) : List (Episode τ) :=
  world.history.filter fun episode => episode.who = who

/-- The outcomes that the owner of a session was told, in order. -/
def noticesOf (world : World τ σ) (who : SessionId) : List (Option Failure) :=
  (world.notices.filter fun notice => notice.1 = who).map Prod.snd

/-- A session stays as it is, with what it did and what its owner was told. -/
structure Spares (world after : World τ σ) (who : SessionId) : Prop where
  session : after.session? who = world.session? who
  episodes : after.episodesOf who = world.episodesOf who
  notices : after.noticesOf who = world.noticesOf who

/-- A session gets a record, does new things and tells its owner outcomes, and nothing
else happens to sessions. -/
structure Acts (world after : World τ σ) (who : SessionId) (next : Session τ)
    (deeds : List (Episode τ)) (outcomes : List (Option Failure)) : Prop where
  session : after.session? who = some next
  others : ∀ other, other ≠ who → after.session? other = world.session? other
  history : after.history = world.history ++ deeds
  own : ∀ episode ∈ deeds, episode.who = who
  notices : after.notices = world.notices ++ outcomes.map fun outcome => (who, outcome)

section

variable {world middle after : World τ σ} {who other : SessionId} {session next : Session τ}
  {deeds later : List (Episode τ)} {outcomes told : List (Option Failure)}

theorem Spares.refl (world : World τ σ) (who : SessionId) : world.Spares world who :=
  ⟨rfl, rfl, rfl⟩

theorem Spares.trans (h : world.Spares middle who) (h' : middle.Spares after who) :
    world.Spares after who :=
  ⟨h'.session.trans h.session, h'.episodes.trans h.episodes, h'.notices.trans h.notices⟩

theorem spares_of_akin (h : after.Akin world) (who : SessionId) : world.Spares after who :=
  ⟨h.session? who, by rw [episodesOf, episodesOf, h.history],
    by rw [noticesOf, noticesOf, h.notices]⟩

namespace Acts

/-- What one session does is spared by all others. -/
theorem spares (h : world.Acts after who next deeds outcomes) (hother : other ≠ who) :
    world.Spares after other := by
  have hdeeds : (deeds.filter fun episode => episode.who = other) = [] := by
    apply List.filter_eq_nil_iff.mpr
    intro episode mem
    simpa [h.own episode mem] using hother.symm
  have houtcomes : ((outcomes.map fun outcome => (who, outcome)).filter
      fun notice => notice.1 = other) = [] := by
    simpa [List.filter_eq_nil_iff] using fun _ _ => hother.symm
  refine ⟨h.others other hother, ?_, ?_⟩
  · rw [World.episodesOf, h.history, List.filter_append, hdeeds, List.append_nil]
    rfl
  · rw [World.noticesOf, h.notices, List.filter_append, houtcomes, List.append_nil]
    rfl

theorem episodesOf (h : world.Acts after who next deeds outcomes) :
    after.episodesOf who = world.episodesOf who ++ deeds := by
  have hdeeds : (deeds.filter fun episode => episode.who = who) = deeds :=
    List.filter_eq_self.mpr fun episode mem => by simpa using h.own episode mem
  rw [World.episodesOf, h.history, List.filter_append, hdeeds]
  rfl

theorem noticesOf (h : world.Acts after who next deeds outcomes) :
    after.noticesOf who = world.noticesOf who ++ outcomes := by
  have houtcomes : ((outcomes.map fun outcome => (who, outcome)).filter
      fun notice => notice.1 = who) = outcomes.map fun outcome => (who, outcome) :=
    List.filter_eq_self.mpr (by simp)
  rw [World.noticesOf, h.notices, List.filter_append, houtcomes, List.map_append, List.map_map]
  exact congrArg (world.noticesOf who ++ ·) (List.map_id outcomes)

theorem trans (h : world.Acts middle who session deeds outcomes)
    (h' : middle.Acts after who next later told) :
    world.Acts after who next (deeds ++ later) (outcomes ++ told) := by
  refine ⟨h'.session, fun other hother => ?_, ?_, fun episode mem => ?_, ?_⟩
  · rw [h'.others other hother, h.others other hother]
  · rw [h'.history, h.history, List.append_assoc]
  · exact (List.mem_append.mp mem).elim (h.own episode) (h'.own episode)
  · rw [h'.notices, h.notices, List.append_assoc, List.map_append]

theorem akin (h : world.Acts middle who next deeds outcomes) (akin : after.Akin middle) :
    world.Acts after who next deeds outcomes :=
  ⟨(akin.session? who).trans h.session,
    fun other hother => (akin.session? other).trans (h.others other hother),
    akin.history.trans h.history, h.own, akin.notices.trans h.notices⟩

end Acts

/-! ## What sessions do -/

/-- A session gets another record. -/
theorem acts_put (h : world.session? who = some session) (next : Session τ) :
    world.Acts (world.put who next) who next [] [] :=
  ⟨session?_put h, fun _ hother => session?_put_of_ne hother, by simp [put], by simp,
    by simp [put]⟩

theorem acts_chronicled (h : world.session? who = some session) (deed : Deed) :
    world.Acts (world.chronicled who deed session) who session
      [⟨who, deed, session, world.tree, world.loop.pending, world.loop.now⟩] [] :=
  ⟨h, fun _ _ => rfl, rfl, by simp, by simp [chronicled]⟩

/-- A session ends. -/
theorem acts_ended (h : world.session? who = some session) (outcome : Option Failure) :
    world.Acts (world.ended who session outcome) who
      { session.ended outcome with timer := (session.timer.stop world.loop).1 }
      (world.closing who session outcome)
      (if session.owner = .absent then [] else [outcome]) := by
  refine ⟨session?_ended h outcome, fun _ hother => session?_put_of_ne hother, rfl, ?_, ?_⟩
  · intro episode mem
    simp only [closing, List.mem_append, List.mem_ite_nil_right, List.mem_ite_nil_left,
      List.mem_singleton] at mem
    rcases mem with ((⟨-, rfl⟩ | rfl) | ⟨-, rfl⟩) | ⟨-, rfl⟩ <;> rfl
  · rw [World.ended]
    split <;> simp

/-- A session accepts a datagram. -/
theorem acts_admitted (h : world.session? who = some session) (data : Bytes) :
    world.Acts (world.admitted who session data) who (world.keeping session data)
      [⟨who, .accepted data world.tree.blocks.length, session, (world.grown data).tree,
        world.loop.pending, world.loop.now⟩] [] :=
  ⟨session?_admitted h data, fun _ hother => session?_put_of_ne hother, rfl, by simp,
    by simp [admitted, put, chronicled, grown]⟩

/-- A session accepts the acknowledgement that completes it. -/
theorem acts_settled (h : world.session? who = some session) (data : Bytes) :
    world.Acts (world.settled who session data) who (world.settling session data)
      [⟨who, .accepted data world.tree.blocks.length, session, (world.grown data).tree,
        world.loop.pending, world.loop.now⟩] [] :=
  (acts_admitted h data).trans (acts_put (session?_admitted h data) _)

variable [TimeScale τ]

/-- The timer of a session fires. -/
theorem acts_fired {handle : Handle τ SessionId}
    (h : world.session? handle.owner = some session) :
    world.Acts (world.fired handle session) handle.owner
      { session with timer := session.timer.fired } [] [] :=
  ⟨session?_fired h, fun _ hother => session?_put_of_ne hother, by simp [fired, put], by simp,
    by simp [fired, put]⟩

/-- A session begins an attempt. -/
theorem acts_attempted (h : world.session? who = some session) :
    world.Acts (world.attempted who session) who
      { session with timer := (session.timer.start world.loop who).1 }
      [⟨who, .attempted, { session with timer := (session.timer.start world.loop who).1 },
        world.tree, (session.timer.start world.loop who).2.pending,
        (session.timer.start world.loop who).2.now⟩] [] :=
  ⟨session?_attempted h, fun _ hother => session?_put_of_ne hother, rfl, by simp,
    by simp [attempted, tuned, chronicled, put]⟩

/-- A session starts. -/
theorem acts_begun (world : World τ σ) (profile : Profile τ) (owner : Owner) :
    world.Acts (world.begun profile owner) world.sessions.length
      { Session.ofProfile profile owner world.loop.now with
        attached := true
        timer := ((RetryTimer.ofPolicy profile.retry).startNow world.loop
          world.sessions.length).1 }
      [⟨world.sessions.length, .opened,
        { Session.ofProfile profile owner world.loop.now with attached := true }, world.tree,
        world.loop.pending, world.loop.now⟩] [] := by
  refine ⟨session?_begun world profile owner, fun other hother => ?_, rfl, by simp,
    by simp [begun, tuned, chronicled, put, joined]⟩
  rw [← session?_joined_of_ne hother profile owner]
  exact (session?_put_of_ne hother).trans (session?_put_of_ne hother)

/-- A session requests the offer that it holds. -/
theorem acts_requesting (h : world.session? who = some session) :
    ∃ timer, timer.attempts = 1 ∧ timer.policy = session.timer.policy ∧
      world.Acts (world.requesting who session) who
        { session with phase := .requesting, timer }
        [⟨who, .attempted, { session with phase := .requesting, timer }, world.tree,
          (world.requesting who session).loop.pending,
          (world.requesting who session).loop.now⟩] [] := by
  let idle : Session τ :=
    { session with phase := .requesting, timer := (session.timer.stop world.loop).1 }
  have hidle : (world.tuned who session fun timer loop => timer.stop loop).Acts
      ((world.tuned who session fun timer loop => timer.stop loop).put who idle) who idle [] [] :=
    acts_put (session?_tuned h _) idle
  have htuned : world.Acts (world.tuned who session fun timer loop => timer.stop loop) who
      { session with timer := (session.timer.stop world.loop).1 } [] [] :=
    ⟨session?_tuned h _, fun _ hother => session?_put_of_ne hother, by simp [tuned, put],
      by simp, by simp [tuned, put]⟩
  exact ⟨_, by simp [idle], by simp [idle],
    (htuned.trans hidle).trans (acts_attempted hidle.session)⟩

variable {around : Surroundings τ σ} {allowed : World τ σ → Event τ σ → Prop}
  {mover : Option SessionId}

omit [TimeScale τ] in
/-- A session accepts the acknowledgement that completes it, and registers its replies. -/
theorem acts_published {start published : World τ σ} {data : Bytes}
    {outcome : Except SettingsTree.Error Unit} (h : world.session? who = some session)
    (agree : start.Agree (world.settled who session data))
    (publishes : (Act.registerReplies around (world.settling session data)).perform start =
      (.ok outcome, published)) :
    world.Acts published who (world.settling session data)
      [⟨who, .accepted data world.tree.blocks.length, session, (world.grown data).tree,
        world.loop.pending, world.loop.now⟩] [] :=
  (acts_settled h data).akin (Act.akin_of_publishes agree publishes)

/-- A move of one session is spared by all others. -/
theorem Move.spares (move : Move around allowed mover world after) (h : mover ≠ some who) :
    world.Spares after who := by
  have hother {owner : SessionId} (h : some owner ≠ some who) : who ≠ owner :=
    fun hsame => h (congrArg some hsame.symm)
  cases move with
  | idle agree => exact spares_of_akin agree.akin who
  | ticked => exact ⟨rfl, rfl, rfl⟩
  | edited => exact ⟨rfl, rfl, rfl⟩
  | begun _ profile owner => exact (acts_begun world profile owner).spares (hother h)
  | refused _ profile owner cause =>
    have hjoined : world.Spares (world.joined profile .absent) who :=
      ⟨session?_joined_of_ne (hother h) profile .absent, rfl, rfl⟩
    exact hjoined.trans
      ((acts_ended (world.session?_joined profile .absent) _).spares (hother h))
  | retried handle _ found =>
    exact ((acts_fired found).trans (acts_attempted (session?_fired found))).spares (hother h)
  | exhausted handle _ found =>
    exact ((acts_fired found).trans (acts_ended (session?_fired found) _)).spares (hother h)
  | forced _ found => exact (acts_attempted found).spares (hother h)
  | abandoned _ found => exact (acts_ended found _).spares (hother h)
  | cancelled found => exact (acts_ended found _).spares (hother h)
  | handed packet found => exact (acts_chronicled found _).spares (hother h)
  | kept data found => exact (acts_admitted found data).spares (hother h)
  | requested data found =>
    obtain ⟨timer, -, -, acts⟩ := acts_requesting (session?_admitted found data)
    exact ((acts_admitted found data).trans acts).spares (hother h)
  | acknowledged _ _ found _ _ _ agree publishes =>
    have acts := acts_published found agree publishes
    exact (acts.trans (acts_ended acts.session _)).spares (hother h)

/-- Whatever a session keeps when it is spared, it keeps when anybody moves, if its own
moves keep it. -/
theorem Move.preserves (move : Move around allowed mover world after)
    (holds : World τ σ → Session τ → Prop)
    (spared : ∀ session, world.Spares after who → holds world session → holds after session)
    (moved : mover = some who → ∃ session, after.session? who = some session ∧
      holds after session)
    (h : ∀ session, world.session? who = some session → holds world session)
    (found : after.session? who = some next) : holds after next := by
  by_cases hmover : mover = some who
  · obtain ⟨session, found', hsession⟩ := moved hmover
    rw [found, Option.some_inj] at found'
    exact found' ▸ hsession
  · have spares := move.spares hmover
    exact spared next spares (h next (spares.session.symm.trans found))

/-- Nothing that sessions did is forgotten. -/
theorem Move.history_grows (move : Move around allowed mover world after) :
    world.history <+: after.history := by
  cases move with
  | idle agree => exact agree.history ▸ List.prefix_refl _
  | ticked => exact List.prefix_refl _
  | edited => exact List.prefix_refl _
  | begun _ profile owner => exact ⟨_, (acts_begun world profile owner).history.symm⟩
  | refused => exact ⟨_, rfl⟩
  | retried => exact ⟨_, rfl⟩
  | exhausted => exact ⟨_, rfl⟩
  | forced => exact ⟨_, rfl⟩
  | abandoned => exact ⟨_, rfl⟩
  | cancelled => exact ⟨_, rfl⟩
  | handed => exact ⟨_, rfl⟩
  | kept => exact ⟨_, rfl⟩
  | requested data found =>
    obtain ⟨timer, -, -, acts⟩ := acts_requesting (session?_admitted found data)
    exact ⟨_, ((acts_admitted found data).trans acts).history.symm⟩
  | acknowledged _ _ found _ _ _ agree publishes =>
    have acts := acts_published found agree publishes
    exact ⟨_, (acts.trans (acts_ended acts.session _)).history.symm⟩

theorem Moves.history_grows (moves : Moves around allowed world after) :
    world.history <+: after.history := by
  induction moves with
  | refl => exact List.prefix_refl _
  | tail _ step ih =>
    obtain ⟨mover, move⟩ := step
    exact ih.trans move.history_grows

/-- Only an active session, or one that just starts, moves. -/
theorem Move.active (move : Move around allowed (some who) world after)
    (h : world.session? who = some session) : session.finished = false := by
  have hsame {other : Session τ} (found : world.session? who = some other)
      (active : other.finished = false) : session.finished = false := by
    rw [h, Option.some_inj] at found
    exact found ▸ active
  cases move with
  | begun => exact absurd (lt_of_session? h) (Nat.lt_irrefl _)
  | refused => exact absurd (lt_of_session? h) (Nat.lt_irrefl _)
  | retried _ _ found active => exact hsame found active
  | exhausted _ _ found active => exact hsame found active
  | forced _ found active => exact hsame found active
  | abandoned _ found active => exact hsame found active
  | cancelled found active => exact hsame found active
  | handed _ found active => exact hsame found active
  | kept _ found awaits => exact hsame found awaits.active
  | requested _ found awaits => exact hsame found awaits.active
  | acknowledged _ _ found awaits => exact hsame found awaits.active

/-- A session that is over stays as it is for good. -/
theorem Moves.spares (moves : Moves around allowed world after)
    (h : world.session? who = some session) (finished : session.finished = true) :
    world.Spares after who := by
  induction moves with
  | refl => exact .refl world who
  | @tail middle last _ step ih =>
    obtain ⟨mover, move⟩ := step
    refine ih.trans (move.spares ?_)
    rintro rfl
    simp [move.active (ih.session.trans h)] at finished

end

end NetBoot.World
