/-
# Events are made of moves

Every event proceeds by moves, whatever the network does and whether or not a fault
ends it.  `Proceeds` follows an action from worlds that agree with one world; it also
says from which world the moves are counted, so that the changes of several actions
can make up one move.
-/
import NetBoot.Proofs.Session.Move
import NetBoot.Proofs.Session.Registration

namespace NetBoot.Act

open World

variable {τ σ α β : Type} [TimeScale τ] {around : Surroundings τ σ}
  {allowed : World τ σ → Event τ σ → Prop}

/-- From worlds that agree with `world`, the action ends in a world that moves lead to
from `origin`. -/
def Proceeds (around : Surroundings τ σ) (allowed : World τ σ → Event τ σ → Prop)
    (origin world : World τ σ) (act : Act τ σ α) : Prop :=
  ∀ start, start.Agree world → Moves around allowed origin (act.perform start).2

namespace Proceeds

variable {origin world middle : World τ σ} {act : Act τ σ α}

theorem of_carries {act : Act τ σ Unit} (h : act.Carries world middle)
    (moves : Moves around allowed origin middle) :
    Proceeds around allowed origin world act := by
  intro start agree
  obtain ⟨after, hafter, agree⟩ := h start agree
  rw [hafter]
  exact moves.tail ⟨_, .idle agree⟩

/-- An action that leaves all sessions alone. -/
theorem of_idle (h : act.Idle) (moves : Moves around allowed origin world) :
    Proceeds around allowed origin world act :=
  fun start agree => moves.tail ⟨_, .idle (((h start).trans agree))⟩

theorem idle_bind {next : α → Act τ σ β} (h : act.Idle)
    (moves : Moves around allowed origin world)
    (hnext : ∀ value, Proceeds around allowed origin world (next value)) :
    Proceeds around allowed origin world (act >>= next) := by
  intro start agree
  have middle := (h start).trans agree
  rw [perform_bind]
  rcases hact : act.perform start with ⟨outcome, after⟩
  rw [hact] at middle
  cases outcome with
  | error fault => exact moves.tail ⟨_, .idle middle⟩
  | ok value => exact hnext value after middle

theorem carries_bind {act : Act τ σ Unit} {next : Unit → Act τ σ β}
    (h : act.Carries world middle)
    (hnext : Proceeds around allowed origin middle (next ())) :
    Proceeds around allowed origin world (act >>= next) := by
  intro start agree
  obtain ⟨after, hafter, agree⟩ := h start agree
  rw [perform_bind_ok next hafter]
  exact hnext after agree

/-- A call about a connection is made, and the history tells. -/
theorem callLink_bind {who : SessionId} {session : Session τ} {deed : Deed} {run : σ → α × σ}
    {next : α → Act τ σ β} (h : world.session? who = some session)
    (hnext : ∀ value,
      Proceeds around allowed origin (world.chronicled who deed session) (next value)) :
    Proceeds around allowed origin world (callLink who deed run >>= next) := by
  intro start agree
  rw [perform_bind_ok next (perform_callLink deed run ((agree.session? who).trans h))]
  exact hnext _ _ ((agree.chronicled who deed session).withNetwork _)

theorem get_bind {next : World τ σ → Act τ σ β}
    (h : ∀ start : World τ σ, start.Agree world →
      Proceeds around allowed origin world (next start)) :
    Proceeds around allowed origin world ((get : Act τ σ (World τ σ)) >>= next) := by
  intro start agree
  rw [perform_bind_ok next (perform_get start)]
  exact h start agree start agree

/-- The second action may be any that proceeds from wherever the first one stops. -/
theorem bind {next : α → Act τ σ β} (h : Proceeds around allowed origin world act)
    (hnext : ∀ value later, Proceeds around allowed later later (next value)) :
    Proceeds around allowed origin world (act >>= next) := by
  intro start agree
  have first := h start agree
  rw [perform_bind]
  rcases hact : act.perform start with ⟨outcome, after⟩
  rw [hact] at first
  cases outcome with
  | error fault => exact first
  | ok value => exact first.trans (hnext value after after (.refl after))

theorem tryCatch {handler : Fault → Act τ σ α} (h : Proceeds around allowed origin world act)
    (hhandler : ∀ fault later, Proceeds around allowed later later (handler fault)) :
    Proceeds around allowed origin world (tryCatch act handler) := by
  intro start agree
  have first := h start agree
  rw [perform_tryCatch]
  rcases hact : act.perform start with ⟨outcome, after⟩
  rw [hact] at first
  cases outcome with
  | error fault => exact first.trans (hhandler fault after after (.refl after))
  | ok value => exact first

theorem onSession {who : SessionId} {session : Session τ} {act : Session τ → Act τ σ Unit}
    (h : world.session? who = some session)
    (hact : Proceeds around allowed origin world (act session)) :
    Proceeds around allowed origin world (onSession who act) := by
  intro start agree
  rw [perform_onSession act ((agree.session? who).trans h)]
  exact hact start agree

/-- What is done on a session that does not exist is nothing. -/
theorem onSession_self {who : SessionId} {act : Session τ → Act τ σ Unit}
    (h : ∀ session, world.session? who = some session →
      Proceeds around allowed world world (act session)) :
    Proceeds around allowed world world (Act.onSession who act) := by
  intro start agree
  cases hsession : world.session? who with
  | none =>
    rw [perform_onSession_none act ((agree.session? who).trans hsession)]
    exact .single ⟨_, .idle agree⟩
  | some session => exact onSession hsession (h session hsession) start agree

/-- Moves that were made before count too. -/
theorem after (moves : Moves around allowed origin world)
    (h : Proceeds around allowed world world act) : Proceeds around allowed origin world act :=
  fun start agree => moves.trans (h start agree)

theorem rest (moves : Moves around allowed origin world) (value : α) :
    Proceeds around allowed origin world (pure value : Act τ σ α) :=
  of_idle (fun start => .refl start) moves

end Proceeds

/-! ## Ending -/

section

variable {origin world : World τ σ} {who : SessionId} {session : Session τ}
  {outcome : Option Failure} {react : Act τ σ Unit}

/-- A session that is shut down has ended as if it had no owner.  Its connection, if it has
one, was detached and then closed. -/
theorem perform_shutDown (around : Surroundings τ σ) (outcome : Option Failure)
    (h : world.session? who = some session) :
    ∃ shut, (shutDown around who session outcome).perform world = (.ok (), shut) ∧
      shut.Agree (world.ended who { session with owner := .absent } outcome) ∧
      shut.network = if session.attached then
        around.link.close who (around.link.detach who world.network) else world.network := by
  let apart : Session τ := { session with owner := .absent, attached := false }
  let cut := world.put who apart
  let detached : World τ σ := if session.attached then
    { cut.chronicled who .detached apart with network := around.link.detach who world.network }
    else cut
  let marked := (detached.put who (session.ended outcome)).chronicled who (.ended outcome)
    (session.ended outcome)
  let idle := marked.tuned who (session.ended outcome) fun timer loop => timer.stop loop
  let done : Session τ :=
    { session.ended outcome with timer := (session.timer.stop marked.loop).1 }
  let closed : World τ σ := if session.attached then
    { idle.chronicled who .closed done with network := around.link.close who idle.network }
    else idle
  have hcut : cut.session? who = some apart := session?_put h
  have hdetached : detached.session? who = some apart := by
    dsimp only [detached]
    split <;> exact hcut
  have hmarked : marked.session? who = some (session.ended outcome) := session?_put hdetached
  have hdetach : (detachFrom around who session).perform cut = (.ok (), detached) := by
    dsimp only [detachFrom, detached]
    split
    · exact perform_callLink _ _ hcut
    · rfl
  have hend : (update who fun session => { session with
      phase := if outcome.isSome then .failed else .succeeded, failure := outcome }).perform
      detached = (.ok (), detached.put who (session.ended outcome)) := perform_update _ hdetached
  have hmark : (mark who (.ended outcome)).perform (detached.put who (session.ended outcome)) =
      (.ok (), marked) := perform_mark _ (session?_put hdetached)
  have hstop : (stopTimer who).perform marked = (.ok (), idle) := perform_withTimer _ hmarked
  have hclose : (closeFor around who session).perform idle = (.ok (), closed) := by
    dsimp only [closeFor, closed]
    split
    · exact perform_callLink _ _ (session?_tuned hmarked _)
    · rfl
  obtain ⟨log, hreport⟩ : ∃ log, (reportEnd session outcome).perform closed =
      (.ok (), { closed with log }) := by
    cases outcome <;> exact ⟨_, rfl⟩
  refine ⟨{ closed with log }, ?_, ?_, ?_⟩
  · rw [shutDown, perform_bind_ok _ (perform_update _ h), perform_bind_ok _ hdetach,
      perform_bind_ok _ hend, perform_bind_ok _ hmark, perform_bind_ok _ hstop,
      perform_bind_ok _ hclose, hreport]
  · constructor <;> cases hattached : session.attached <;>
      simp [World.ended, closing, put, chronicled, tuned, Session.ended, closed, idle, marked,
        detached, cut, apart, done, hattached]
  · cases hattached : session.attached <;>
      simp [put, chronicled, tuned, closed, idle, marked, detached, cut, hattached]

theorem carries_shutDown (outcome : Option Failure) (h : world.session? who = some session) :
    (shutDown around who session outcome).Carries world
      (world.ended who { session with owner := .absent } outcome) := by
  intro start agree
  obtain ⟨shut, hshut, hagree, -⟩ :=
    perform_shutDown around outcome ((agree.session? who).trans h)
  exact ⟨shut, hshut, hagree.trans (agree.ended who _ outcome)⟩

/-- An active session ends, and then its owner may react in any way that is made of
moves. -/
theorem Proceeds.finishWith (h : world.session? who = some session)
    (active : session.finished = false)
    (moves : Moves around allowed origin (world.ended who session outcome))
    (hreact : ∀ later, Proceeds around allowed later later react) :
    Proceeds around allowed origin world (finishWith around react who outcome) := by
  apply Proceeds.onSession h
  simp only [active, Bool.false_eq_true, if_false]
  apply Proceeds.carries_bind (carries_shutDown outcome h)
  have hdone : (world.ended who { session with owner := .absent } outcome).session? who =
      some { session.ended outcome with timer := (session.timer.stop world.loop).1 } :=
    session?_put h
  have hended (present : session.owner ≠ .absent) :
      (world.ended who { session with owner := .absent } outcome).notified who outcome
        { session.ended outcome with timer := (session.timer.stop world.loop).1 } =
      world.ended who session outcome := by
    simp [World.ended, closing, put, notified, chronicled, Session.ended, present]
  cases howner : session.owner with
  | absent =>
    refine Proceeds.rest ?_ ()
    rw [← howner]
    exact moves
  | watching =>
    apply Proceeds.of_carries (carries_notify outcome hdone)
    rw [hended (by simp [howner])]
    exact moves
  | cancelling =>
    apply Proceeds.carries_bind (carries_notify outcome hdone)
    rw [hended (by simp [howner])]
    exact Proceeds.after moves (hreact _)

/-- A session without an owner ends and tells nobody. -/
theorem carries_finish_absent (h : world.session? who = some session)
    (active : session.finished = false) (absent : session.owner = .absent) :
    (finish around who outcome).Carries world (world.ended who session outcome) := by
  apply carries_onSession h
  simp only [active, Bool.false_eq_true, if_false, absent]
  apply Carries.bind (carries_shutDown outcome h)
  have howner : ({ session with owner := .absent } : Session τ) = session := by rw [← absent]
  rw [howner]
  exact Carries.pure _

theorem Proceeds.cancelWith (hreact : ∀ later, Proceeds around allowed later later react) :
    Proceeds around allowed world world (cancelWith around react who) := by
  apply Proceeds.onSession_self
  intro session h
  cases hfinished : session.finished with
  | false => exact Proceeds.finishWith h hfinished (.single ⟨_, .cancelled h hfinished⟩) hreact
  | true =>
    apply Proceeds.onSession h
    simp only [hfinished, if_true]
    exact Proceeds.rest .refl ()

theorem Proceeds.cancelNewest (world : World τ σ) :
    Proceeds around allowed world world (cancelNewest around) := by
  apply Proceeds.get_bind
  intro start agree
  cases start.newest with
  | none => exact Proceeds.rest .refl ()
  | some who => exact Proceeds.cancelWith fun later => Proceeds.rest .refl ()

theorem Proceeds.cancel (world : World τ σ) (who : SessionId) :
    Proceeds around allowed world world (cancel around who) :=
  Proceeds.cancelWith Proceeds.cancelNewest

theorem Proceeds.finish (h : world.session? who = some session)
    (active : session.finished = false)
    (moves : Moves around allowed origin (world.ended who session outcome)) :
    Proceeds around allowed origin world (finish around who outcome) :=
  Proceeds.finishWith h active moves Proceeds.cancelNewest

end

/-! ## Attempts -/

section

variable {origin world : World τ σ} {who : SessionId} {session : Session τ}
  {receive : Bytes → Act τ σ Unit}

/-- Datagrams that come in during a send are handled one after the other. -/
theorem Proceeds.passOn
    (hreceive : ∀ data later, Proceeds around allowed later later (receive data))
    (arrived : List Bytes) (world : World τ σ) :
    Proceeds around allowed world world (passOn around receive who arrived) := by
  induction arrived generalizing world with
  | nil => exact Proceeds.rest .refl ()
  | cons data rest ih =>
    apply Proceeds.get_bind
    intro start _
    split
    · exact Proceeds.bind (hreceive data world) fun _ later => ih later
    · exact ih world

omit [TimeScale τ] in
theorem builds_of_buildPacket {start after : World τ σ} {buffer : Bytes} {packet : Packet}
    (h : (buildPacket session buffer).perform start = (.ok packet, after)) :
    session.Builds start.tree packet.encode := by
  rw [buildPacket, perform_bind_ok _ (perform_get start)] at h
  dsimp only at h
  split at h
  next built hbuild =>
    obtain rfl : built = packet := Except.ok.inj (congrArg Prod.fst h)
    exact ⟨buffer, built, hbuild, rfl⟩
  · simp [perform_throw] at h

theorem Proceeds.buildPacket_bind {buffer : Bytes} {next : Packet → Act τ σ β}
    (hnext : ∀ packet, session.Builds world.tree packet.encode →
      Proceeds around allowed world world (next packet)) :
    Proceeds around allowed world world (buildPacket session buffer >>= next) := by
  intro start agree
  have middle := (idle_buildPacket session buffer start).trans agree
  rw [perform_bind]
  rcases hbuilt : (buildPacket session buffer).perform start with ⟨outcome, after⟩
  rw [hbuilt] at middle
  cases outcome with
  | error fault => exact .single ⟨_, .idle middle⟩
  | ok packet => exact hnext packet (agree.tree ▸ builds_of_buildPacket hbuilt) after middle

theorem Proceeds.attempt
    (hreceive : ∀ data later, Proceeds around allowed later later (receive data))
    (h : world.session? who = some session) (active : session.finished = false) :
    Proceeds around allowed world world (attempt around receive who session) := by
  apply Proceeds.idle_bind (idle_askNetwork _) .refl
  intro answer
  apply Proceeds.idle_bind (idle_ofOutcome _) .refl
  intro buffer
  apply Proceeds.buildPacket_bind
  intro packet builds
  apply Proceeds.idle_bind (idle_report _) .refl
  intro _
  apply Proceeds.get_bind
  intro start _
  apply Proceeds.callLink_bind h
  intro answer
  refine Proceeds.after (.single ⟨_, .handed _ h active builds⟩) ?_
  apply Proceeds.bind (Proceeds.passOn hreceive answer.1 _)
  intro _ later
  exact Proceeds.of_idle (idle_ofOutcome answer.2) .refl

theorem carries_startTimer (h : world.session? who = some session) :
    (startTimer who : Act τ σ Unit).Carries world
      (world.tuned who session fun timer loop => timer.start loop who) :=
  carries_onSession h ((carries_withTimer _ h).bind (carries_report _ _))

/-- An attempt begins by arming the timer.  Whatever then fails or comes in is made of
moves. -/
theorem Proceeds.transmit
    (hreceive : ∀ data later, Proceeds around allowed later later (receive data))
    (h : world.session? who = some session) (active : session.finished = false)
    (moves : Moves around allowed origin (world.attempted who session)) :
    Proceeds around allowed origin world (transmit around receive who) := by
  have harmed := session?_tuned h fun timer loop => timer.start loop who
  apply Proceeds.carries_bind (carries_startTimer h)
  apply Proceeds.carries_bind (carries_mark _ harmed)
  refine Proceeds.after moves (Proceeds.onSession harmed ?_)
  refine Proceeds.tryCatch (Proceeds.attempt hreceive harmed active) fun fault later => ?_
  split
  · exact Proceeds.of_idle (idle_report _) .refl
  · exact Proceeds.of_idle (idle_throw fault) .refl

end

/-! ## Datagrams -/

section

variable {origin world : World τ σ} {who : SessionId} {session : Session τ} {data : Bytes}
  {enter : Act τ σ Unit}

omit [TimeScale τ] in
/-- The block is added and entered into the history, and then kept or not. -/
theorem carries_merge (h : world.session? who = some session) :
    (merge who world.tree.blocks.length : Act τ σ Unit).Carries
      ((world.grown data).chronicled who (.accepted data world.tree.blocks.length) session)
      (world.admitted who session data) := by
  have hreply : ((world.grown data).chronicled who (.accepted data world.tree.blocks.length)
      session).reply world.tree.blocks.length = Packet.ofBytes data := world.reply_grown data
  refine carries_onSession h (Carries.get_bind fun start agree => ?_)
  simp only [agree.reply, hreply]
  rw [World.admitted, World.keeping]
  by_cases hrank : world.rank session data ≤ (Packet.ofBytes data).priority
  · rw [if_pos hrank]
    change (if world.rank session data ≤ _ then _ else _ : Act τ σ Unit).Carries _ _
    rw [if_pos hrank]
    exact carries_update _ h
  · rw [if_neg hrank, put_self (by exact h)]
    change (if world.rank session data ≤ _ then _ else _ : Act τ σ Unit).Carries _ _
    rw [if_neg hrank]
    exact carries_report _ _

/-- What sending the first packet of the request phase must be made of. -/
def Enters (around : Surroundings τ σ) (allowed : World τ σ → Event τ σ → Prop)
    (who : SessionId) (enter : Act τ σ Unit) : Prop :=
  ∀ {origin world : World τ σ} {session : Session τ}, world.session? who = some session →
    session.finished = false → Moves around allowed origin (world.attempted who session) →
    Proceeds around allowed origin world enter

theorem Proceeds.checkOffers (henter : Enters around allowed who enter)
    (h : world.session? who = some session) (awaits : session.Awaits data)
    (discovering : session.phase = .discovering) :
    Proceeds around allowed world (world.admitted who session data) (checkOffers enter who) := by
  have hkept (hnot : ∀ held, ¬ world.Ready session data held) :
      Moves around allowed world (world.admitted who session data) :=
    .single ⟨_, .kept data h awaits (fun _ => hnot) (absurd discovering)⟩
  have hadmitted := session?_admitted h data
  apply Proceeds.onSession hadmitted
  cases hresponse : (world.keeping session data).response with
  | none => exact Proceeds.rest (hkept fun held hready => by simp [hready.1] at hresponse) ()
  | some held =>
    apply Proceeds.get_bind
    intro start agree
    have hpacket : start.reply held = (world.grown data).reply held := agree.reply held
    have helapsed : start.elapsed (world.keeping session data) = world.elapsed session := by
      obtain ⟨response, proxy, hkeeping⟩ := world.keeping_eq session data
      rw [World.elapsed, World.elapsed, agree.loop, hkeeping]
      rfl
    rw [hpacket, helapsed]
    dsimp only
    split
    next hwaits =>
      rw [Bool.and_eq_true, Bool.not_eq_true'] at hwaits
      apply Proceeds.of_carries (carries_report _ _)
      refine hkept fun other hready => ?_
      obtain rfl : held = other := Option.some.inj (hresponse.symm.trans hready.1)
      exact hready.2.elim (by simp [hwaits.1]) (by simp [hwaits.2])
    next hready =>
      have ready : TimeScale.le (world.elapsed session) TimeScale.second = false ∨
          ((world.grown data).reply held).refusesProxy = true := by
        cases hle : TimeScale.le (world.elapsed session) TimeScale.second with
        | false => exact .inl rfl
        | true => exact .inr (by simpa [hle] using hready)
      apply Proceeds.carries_bind (carries_report _ _)
      apply Proceeds.carries_bind (carries_withTimer _ hadmitted)
      have hidle := session?_tuned hadmitted fun timer loop => timer.stop loop
      apply Proceeds.carries_bind (carries_update _ hidle)
      exact henter (session?_put hidle) rfl
        (.single ⟨_, .requested data h awaits discovering ⟨hresponse, ready⟩⟩)

omit [TimeScale τ] in
/-- An ordinary acknowledgement takes the place of whatever reply is held. -/
theorem carries_override {reply : BlockId} (h : world.session? who = some session) :
    (do
      if session.response ≠ some reply then
        let world ← get
        report (.overriding session.device
          ((session.response.map fun held => (world.reply held).priority).getD 0))
        update who fun session => { session with response := some reply } :
      Act τ σ Unit).Carries world (world.put who { session with response := some reply }) := by
  split
  · exact Carries.get_bind fun _ _ => (carries_report _ _).bind (carries_update _ h)
  next hresponse =>
    rw [not_not] at hresponse
    rw [← hresponse, put_self h]
    exact Carries.pure world

omit [TimeScale τ] in
/-- A session forgets its proxy reply if the server does not want one. -/
theorem carries_dropProxy {reply : BlockId} {packet : Packet}
    (h : world.session? who = some session) (hpacket : world.reply reply = packet) :
    (do
      if ((← get).reply reply).refusesProxy && session.proxy.isSome then
        report (.proxyDropped session.device)
        update who fun session => { session with proxy := none } :
      Act τ σ Unit).Carries world
        (world.put who { session with
          proxy := if packet.refusesProxy then none else session.proxy }) := by
  apply Carries.get_bind
  intro start agree
  rw [agree.reply, hpacket]
  cases packet.refusesProxy with
  | false =>
    rw [if_neg Bool.false_ne_true, put_self h]
    exact Carries.pure world
  | true =>
    cases hproxy : session.proxy with
    | none =>
      have hsame : ({ session with proxy := none } : Session τ) = session := by rw [← hproxy]
      rw [if_pos rfl, hsame, put_self h]
      exact Carries.pure world
    | some proxy => exact (carries_report _ _).bind (carries_update _ h)

/-- An ordinary acknowledgement completes the session, unless its replies cannot be
registered. -/
theorem Proceeds.acknowledge (h : world.session? who = some session)
    (awaits : session.Awaits data) (requesting : session.phase ≠ .discovering) :
    Proceeds around allowed world (world.admitted who session data)
      (acknowledge around who world.tree.blocks.length) := by
  have hpacket : (world.admitted who session data).reply world.tree.blocks.length =
      Packet.ofBytes data := world.reply_grown data
  apply Proceeds.get_bind
  intro start agree
  rw [agree.reply, hpacket]
  cases ordinary : (Packet.ofBytes data).isProxyReply with
  | true =>
    have hkept : Moves around allowed world (world.admitted who session data) :=
      .single ⟨_, .kept data h awaits (fun h => absurd h requesting) fun _ => ordinary⟩
    exact Proceeds.rest hkept ()
  | false =>
    have hadmitted := session?_admitted h data
    have hsettled : ((world.admitted who session data).put who
        { world.keeping session data with response := some world.tree.blocks.length }).put who
          { world.keeping session data with
            response := some world.tree.blocks.length
            proxy := if (Packet.ofBytes data).refusesProxy then none
              else (world.keeping session data).proxy } =
        world.settled who session data := put_put ..
    have hoverridden : ((world.admitted who session data).put who
        { world.keeping session data with response := some world.tree.blocks.length }).session?
        who = some _ := session?_put hadmitted
    have hsettling := session?_settled h data
    have active : (world.settling session data).finished = false := by
      obtain ⟨proxy, hsettling⟩ := world.settling_eq session data
      rw [hsettling]
      exact awaits.active
    refine Proceeds.carries_bind (carries_onSession hadmitted (carries_override hadmitted)) ?_
    refine Proceeds.carries_bind
      (carries_onSession hoverridden (carries_dropProxy hoverridden hpacket)) ?_
    rw [hsettled]
    apply Proceeds.onSession hsettling
    intro start agree
    obtain ⟨published, outcome, hpublished, akin⟩ :=
      perform_registerReplies around (world.settling session data) start
    have hfound : published.session? who = some (world.settling session data) := by
      rw [akin.session?, agree.session?, hsettling]
    have hended : Moves around allowed world
        (published.ended who (world.settling session data) (registrationFailure outcome)) :=
      .single ⟨_, .acknowledged data outcome h awaits requesting ordinary agree hpublished⟩
    rw [perform_bind_ok _ hpublished]
    cases outcome with
    | ok _ => exact Proceeds.finish hfound active hended published (.refl published)
    | error cause => exact Proceeds.finish hfound active hended published (.refl published)

theorem Proceeds.accept (henter : Enters around allowed who enter)
    (h : world.session? who = some session) (awaits : session.Awaits data) :
    Proceeds around allowed world world (accept around enter who session data) := by
  apply Proceeds.get_bind
  intro start agree
  have hadded : (start.tree.add (.ofReply data Block.replyName)) =
      ((world.grown data).tree, world.tree.blocks.length) := by
    rw [agree.tree]
    rfl
  rw [hadded]
  have hgrown : (modify fun other => { other with tree := (world.grown data).tree } :
      Act τ σ Unit).Carries world (world.grown data) := fun other agree =>
    ⟨_, perform_modify _ other,
      agree.sessions, agree.loop, rfl, agree.replacements, agree.notices, agree.history⟩
  apply Proceeds.carries_bind hgrown
  apply Proceeds.carries_bind (carries_mark _ (show (world.grown data).session? who = _ from h))
  apply Proceeds.carries_bind (carries_report _ _)
  apply Proceeds.carries_bind (carries_merge h)
  split
  · exact Proceeds.checkOffers henter h awaits ‹_›
  · exact Proceeds.acknowledge h awaits ‹_›

/-- A datagram that a session does not wait for changes nothing that matters. -/
theorem Proceeds.deliverWith (henter : Enters around allowed who enter) (data : Bytes)
    (world : World τ σ) :
    Proceeds around allowed world world (deliverWith around enter who data) := by
  apply Proceeds.onSession_self
  intro session h
  dsimp only
  split
  · exact Proceeds.rest .refl ()
  next active =>
    split
    · exact Proceeds.of_idle (idle_report _) .refl
    next valid =>
      split
      · exact Proceeds.of_idle (idle_report _) .refl
      next xid =>
        split
        · exact Proceeds.of_idle (idle_report _) .refl
        next kind =>
          exact Proceeds.accept henter h
            ⟨by simpa using active, by simpa using valid, not_not.mp xid, not_not.mp kind⟩

/-- However deep sends may nest, an attempt is made of moves. -/
theorem enters_sendWithin (phases : Nat) (who : SessionId) :
    Enters around allowed who (sendWithin around phases who) := by
  induction phases with
  | zero =>
    intro origin world session h active moves
    exact Proceeds.transmit (fun _ _ => Proceeds.rest .refl ()) h active moves
  | succ phases ih =>
    intro origin world session h active moves
    exact Proceeds.transmit (Proceeds.deliverWith ih) h active moves

theorem enters_sendRequest (who : SessionId) :
    Enters around allowed who (sendRequest around who) :=
  enters_sendWithin activePhases who

theorem Proceeds.deliver (data : Bytes) (world : World τ σ) :
    Proceeds around allowed world world (deliver around who data) :=
  Proceeds.deliverWith (enters_sendRequest who) data world

theorem Proceeds.receive (data : Bytes) (world : World τ σ) :
    Proceeds around allowed world world (receive around who data) :=
  Proceeds.passOn Proceeds.deliver [data] world

end

/-! ## Firings, claims and starts -/

section

variable {world : World τ σ} {who : SessionId}

theorem Proceeds.timerExpired {spent : Bool} (permitted : allowed world (.expire who spent)) :
    Proceeds around allowed world world (timerExpired around who spent) := by
  apply Proceeds.onSession_self
  intro session h
  cases hfinished : session.finished with
  | true => exact Proceeds.rest .refl ()
  | false =>
    cases spent with
    | true => exact Proceeds.finish h hfinished (.single ⟨_, .abandoned permitted h hfinished⟩)
    | false =>
      exact enters_sendRequest who h hfinished (.single ⟨_, .forced permitted h hfinished⟩)

/-- The call of an active session makes it attempt again or give up, before anything
else happens. -/
theorem Proceeds.fire {origin : World τ σ} {handle : Handle τ SessionId} {session : Session τ}
    (h : world.session? handle.owner = some session) (active : session.finished = false)
    (retried : session.timer.spent = false → Moves around allowed origin
      ((world.fired handle session).attempted handle.owner
        { session with timer := session.timer.fired }))
    (exhausted : session.timer.spent = true → Moves around allowed origin
      ((world.fired handle session).ended handle.owner
        { session with timer := session.timer.fired }
        (some (.timeout session.device session.timer.attempts)))) :
    Proceeds around allowed origin world (fire around handle) := by
  let taken : World τ σ := { world with loop := world.loop.take handle }
  have htake : (modify fun other => { other with loop := other.loop.take handle } :
      Act τ σ Unit).Carries world taken := fun other agree =>
    ⟨_, perform_modify _ other,
      agree.sessions, congrArg (·.take handle) agree.loop, agree.tree, agree.replacements,
      agree.notices, agree.history⟩
  have htaken : taken.session? handle.owner = some session := h
  have hfired : (world.fired handle session).session? handle.owner =
      some { session with timer := session.timer.fired } := session?_put htaken
  refine Proceeds.carries_bind htake (Proceeds.onSession htaken ?_)
  refine Proceeds.carries_bind (carries_update _ htaken) (Proceeds.onSession hfired ?_)
  have active' : ({ session with timer := session.timer.fired } : Session τ).finished = false :=
    active
  rw [if_neg (by simp [active'])]
  cases hspent : session.timer.spent with
  | true => exact Proceeds.finish hfired active (exhausted hspent)
  | false => exact enters_sendRequest handle.owner hfired active (retried hspent)

/-- A new session without a connection fails and tells nobody. -/
theorem perform_giveUp {start : World τ σ} {profile : Profile τ} {owner : Owner}
    (agree : start.Agree (world.joined profile owner)) (cause : SystemError) :
    ∃ after, (giveUp around world.sessions.length cause).perform start =
        (.error (.system cause), after) ∧ after.Agree (world.refused profile cause) := by
  have hput : (world.joined profile owner).put world.sessions.length
      { Session.ofProfile profile owner world.loop.now with owner := .absent } =
      world.joined profile .absent := by
    simp [World.joined, put, Session.ofProfile]
  obtain ⟨unowned, hunowned, agree⟩ :=
    carries_update (fun session => { session with owner := .absent })
      (world.session?_joined profile owner) start agree
  rw [hput] at agree
  have hcarries : (finish around world.sessions.length (some (.system cause))).Carries
      (world.joined profile .absent) (world.refused profile cause) :=
    carries_finish_absent (world.session?_joined profile .absent) rfl rfl
  obtain ⟨after, hfinish, hafter⟩ := hcarries unowned agree
  refine ⟨after, ?_, hafter⟩
  apply (perform_bind_ok _ hunowned).trans
  rw [perform_bind_ok _ hfinish, perform_throw]

/-- A session that goes into service has its connection entered before its timer is armed. -/
theorem perform_serve_eq {world : World τ σ} {who : SessionId} {session : Session τ}
    (found : world.session? who = some session) :
    (serve who).perform world = (startTimerNow who >>= fun _ => pure who).perform
      (World.chronicled { world.put who { session with attached := true } with newest := some who }
        who .opened { session with attached := true }) := by
  let attached : World τ σ :=
    { world.put who { session with attached := true } with newest := some who }
  have hattached : attached.session? who = some { session with attached := true } :=
    session?_put found
  rw [serve, perform_bind_ok _ (perform_update _ found), perform_bind_ok _ (perform_modify _ _),
    perform_bind_ok _ (perform_mark _ hattached)]

/-- A new session whose connection is open has its timer armed. -/
theorem perform_serve {start : World τ σ} {profile : Profile τ} {owner : Owner}
    (agree : start.Agree (world.joined profile owner)) :
    ∃ after, (serve world.sessions.length).perform start = (.ok world.sessions.length, after) ∧
      after.Agree (world.begun profile owner) := by
  let who := world.sessions.length
  let session : Session τ :=
    { Session.ofProfile profile owner world.loop.now with attached := true }
  have hjoined := world.session?_joined profile owner
  obtain ⟨sessions, loop, tree, replacements, notices, history⟩ := agree.put who session
  have serving : World.Agree { start.put who session with newest := some who }
      ((world.joined profile owner).put who session) :=
    ⟨sessions, loop, tree, replacements, notices, history⟩
  have hopened : (((world.joined profile owner).put who session).chronicled who .opened
      session).session? who = some session := session?_put hjoined
  obtain ⟨after, hafter, hagree⟩ := carries_withTimer (fun timer loop => timer.startNow loop who)
    hopened _ (serving.chronicled who .opened session)
  refine ⟨after, ?_, hagree⟩
  rw [perform_serve_eq ((agree.session? who).trans hjoined)]
  exact perform_bind_ok _ hafter

/-- A new session goes into service or gives up, as its connection opens or not. -/
theorem perform_start {start : World τ σ} {profile : Profile τ} {opened : Except SystemError Unit}
    {network : σ} (owner : Owner)
    (h : around.link.openFor start.sessions.length profile.device start.loop.now start.network =
      (opened, network)) :
    (Act.start around profile owner).perform start =
      (match opened with
        | .ok _ => serve start.sessions.length
        | .error cause => giveUp around start.sessions.length cause).perform
        (start.joining profile owner network) := by
  rw [Act.start, perform_bind_ok _ (perform_get start)]
  simp only [h]
  rw [perform_bind_ok _ (perform_set _ _), perform_bind_ok _ (perform_report _ _),
    perform_bind_ok _ (perform_modify _ _)]
  rfl

/-- A new session whose connection cannot be opened fails at once. -/
theorem perform_start_error {start : World τ σ} {profile : Profile τ} {cause : SystemError}
    {network : σ} (agree : start.Agree world) (owner : Owner)
    (h : around.link.openFor world.sessions.length profile.device world.loop.now start.network =
      (.error cause, network)) :
    ∃ after, (Act.start around profile owner).perform start = (.error (.system cause), after) ∧
      after.Agree (world.refused profile cause) := by
  rw [perform_start owner (by rw [agree.sessions, agree.loop, h]), agree.sessions]
  exact perform_giveUp (agree.joining profile owner network) cause

/-- A new session whose connection opens goes into service. -/
theorem perform_start_ok {start : World τ σ} {profile : Profile τ} {opened : Unit} {network : σ}
    (agree : start.Agree world) (owner : Owner)
    (h : around.link.openFor world.sessions.length profile.device world.loop.now start.network =
      (.ok opened, network)) :
    ∃ after, (Act.start around profile owner).perform start =
        (.ok world.sessions.length, after) ∧ after.Agree (world.begun profile owner) := by
  rw [perform_start owner (by rw [agree.sessions, agree.loop, h]), agree.sessions]
  exact perform_serve (agree.joining profile owner network)

/-- A session starts, or it fails at once. -/
theorem Proceeds.start {profile : Profile τ} {owner : Owner}
    (permitted : allowed world (.start profile owner)) :
    Proceeds around allowed world world (start around profile owner) := by
  intro start agree
  rcases hopen : around.link.openFor world.sessions.length profile.device world.loop.now
    start.network with ⟨opened, network⟩
  cases opened with
  | error cause =>
    obtain ⟨after, hafter, hagree⟩ := perform_start_error agree owner hopen
    rw [hafter]
    exact .tail (.single ⟨_, .refused world profile owner cause permitted⟩) ⟨_, .idle hagree⟩
  | ok _ =>
    obtain ⟨after, hafter, hagree⟩ := perform_start_ok agree owner hopen
    rw [hafter]
    exact .tail (.single ⟨_, .begun world profile owner permitted⟩) ⟨_, .idle hagree⟩

end

end NetBoot.Act
