/-
# Datagrams that come in during a send

A server can be so quick that its answer comes in before the send of a packet has returned.
The session then handles the answer in the middle of its attempt, which may take it into the
next phase, into another send, or to its end.

It makes no difference.  Handling an event ends with its only send, and after a send that
succeeded nothing is left to do but to return; so everything is as if the answer came in
right after the event was handled.  Faults are no exception, because a datagram lets through
only faults that an attempt does not take for a loss either.
-/
import NetBoot.Proofs.Session.Delivery
import NetBoot.Proofs.Session.Reentry

namespace NetBoot

variable {τ σ α β : Type}

/-- A network around which an echo waits: a datagram that comes in during the next send that
succeeds. -/
structure Echo (σ : Type) where
  network : σ
  answer : Option Bytes
  /-- The packets that were sent, and for whom. -/
  sent : List (SessionId × Bytes)

/-- The link over a network with an echo.  It is what it was, but nothing comes in during a
send except the answer that waits. -/
def Link.echoing (link : Link τ σ) : Link τ (Echo σ) where
  openFor who device now echo :=
    let (opened, network) := link.openFor who device now echo.network
    (opened, { echo with network })
  buffer who size echo :=
    let (buffer, network) := link.buffer who size echo.network
    (buffer, { echo with network })
  send who now packet echo :=
    match link.send who now packet echo.network with
    | ((_, .ok _), network) =>
      ((echo.answer.toList, .ok ()),
        { network, answer := none, sent := echo.sent ++ [(who, packet)] })
    | ((_, .error fault), network) => (([], .error fault), { echo with network })
  listening who echo := link.listening who echo.network
  detach who echo := { echo with network := link.detach who echo.network }
  close who echo := { echo with network := link.close who echo.network }

/-- The same surroundings over a network with an echo. -/
def Surroundings.echoing (around : Surroundings τ σ) : Surroundings τ (Echo σ) :=
  ⟨around.link.echoing, around.refusal⟩

namespace World

/-- The world over a network with an echo, before anything is sent. -/
def echoing (world : World τ σ) (answer : Option Bytes) : World τ (Echo σ) :=
  { world with network := ⟨world.network, answer, []⟩ }

/-- The world with something else waiting in its echo. -/
def answering (world : World τ (Echo σ)) (answer : Option Bytes) : World τ (Echo σ) :=
  { world with network := { world.network with answer } }

end World

namespace Act

/-- Whatever waits in the echo, the action ends in the same way, sends nothing and leaves it
waiting. -/
def Misses (act : Act τ (Echo σ) α) (world : World τ (Echo σ)) (outcome : Except Fault α)
    (after : World τ (Echo σ)) : Prop :=
  after.network.sent = world.network.sent ∧
    ∀ waiting, act.perform (world.answering waiting) = (outcome, after.answering waiting)

/-- The action has nothing to do with echoes. -/
def Deaf (act : Act τ (Echo σ) α) : Prop :=
  ∀ world, ∃ outcome after, act.Misses world outcome after

section

variable {world middle after : World τ (Echo σ)} {fault : Fault} {value : α}
  {outcome : Except Fault β}

theorem misses_pure (value : α) (world : World τ (Echo σ)) :
    (pure value : Act τ (Echo σ) α).Misses world (.ok value) world := ⟨rfl, fun _ => rfl⟩

theorem Misses.bind {act : Act τ (Echo σ) α} {next : α → Act τ (Echo σ) β}
    (h : act.Misses world (.ok value) middle) (hnext : (next value).Misses middle outcome after) :
    (act >>= next).Misses world outcome after :=
  ⟨hnext.1.trans h.1, fun waiting => by rw [perform_bind_ok next (h.2 waiting), hnext.2]⟩

theorem Misses.bind_error {act : Act τ (Echo σ) α} (next : α → Act τ (Echo σ) β)
    (h : act.Misses world (.error fault) after) :
    (act >>= next).Misses world (.error fault) after :=
  ⟨h.1, fun waiting => by rw [perform_bind, h.2]⟩

theorem Deaf.bind {act : Act τ (Echo σ) α} {next : α → Act τ (Echo σ) β} (h : act.Deaf)
    (hnext : ∀ value, (next value).Deaf) : (act >>= next).Deaf := by
  intro world
  obtain ⟨outcome, middle, first⟩ := h world
  cases outcome with
  | error fault => exact ⟨_, _, first.bind_error next⟩
  | ok value =>
    obtain ⟨outcome, after, second⟩ := hnext value middle
    exact ⟨outcome, after, first.bind second⟩

/-- Reading the world without looking at what waits in the echo. -/
theorem Deaf.read {next : World τ (Echo σ) → Act τ (Echo σ) α}
    (blind : ∀ (world : World τ (Echo σ)) waiting, next (world.answering waiting) = next world)
    (rest : ∀ world, (next world).Deaf) : (get >>= next).Deaf := by
  intro world
  obtain ⟨outcome, after, sent, same⟩ := rest world world
  refine ⟨outcome, after, sent, fun waiting => ?_⟩
  rw [perform_bind_ok next (perform_get _), blind, same]

theorem deaf_throw (fault : Fault) : (throw fault : Act τ (Echo σ) α).Deaf :=
  fun world => ⟨_, world, rfl, fun _ => rfl⟩

theorem deaf_ofOutcome (outcome : Except Fault α) :
    (ofOutcome outcome : Act τ (Echo σ) α).Deaf := by
  cases outcome with
  | ok value => exact fun world => ⟨_, _, misses_pure value world⟩
  | error fault => exact deaf_throw fault

end

section

variable {around : Surroundings τ σ} {who : SessionId} {answer : Bytes}

theorem Silent.deaf {act : Act τ (Echo σ) α} (h : act.Silent around.echoing) : act.Deaf := by
  induction h with
  | pure value => exact fun world => ⟨_, _, misses_pure value world⟩
  | read blind _ ih => exact .read (fun world _ => blind world _) ih
  | @change change tame =>
    intro world
    have kept := congrArg World.network (tame.blind world world.network)
    have network : (change world).network = world.network := kept
    refine ⟨.ok ⟨⟩, change world, congrArg Echo.sent network, fun waiting => ?_⟩
    rw [perform_modify, World.answering, tame.blind, World.answering, network]
  | detach who =>
    intro world
    let detached := around.echoing.link.detach who world.network
    exact ⟨.ok (), { world with network := detached }, rfl, fun _ => rfl⟩
  | close who =>
    intro world
    let closed := around.echoing.link.close who world.network
    exact ⟨.ok (), { world with network := closed }, rfl, fun _ => rfl⟩
  | bind _ _ ih ih' => exact ih.bind ih'

theorem deaf_report (event : LogEvent τ) : (report event : Act τ (Echo σ) Unit).Deaf :=
  fun world => ⟨.ok (), { world with log := world.log ++ [event] }, rfl, fun _ => rfl⟩

theorem deaf_buffer (around : Surroundings τ σ) (who : SessionId) (size : Int) :
    (askNetwork (around.echoing.link.buffer who size) : Act τ (Echo σ) _).Deaf := by
  intro world
  let given := around.echoing.link.buffer who size world.network
  exact ⟨.ok given.1, { world with network := given.2 }, rfl, fun _ => rfl⟩

theorem deaf_buildPacket (session : Session τ) (buffer : Bytes) :
    (buildPacket session buffer : Act τ (Echo σ) Packet).Deaf := by
  refine .read (fun _ _ => rfl) fun world => ?_
  dsimp only
  split
  · exact (deaf_report _).bind fun _ world => ⟨_, _, misses_pure _ world⟩
  · exact deaf_throw _

variable [TimeScale τ]

/-- Either the action has nothing to do with the echo, or it sends one packet.  Then it ends
well where nothing waits, and with an answer that waits it does the same and then handles the
answer. -/
def Defers (around : Surroundings τ σ) (who : SessionId) (answer : Bytes)
    (act : Act τ (Echo σ) Unit) : Prop :=
  ∀ world, (∃ outcome after, act.Misses world outcome after) ∨
    ∃ packet handled, handled.network.sent = world.network.sent ++ [(who, packet)] ∧
      act.perform (world.answering none) = (.ok (), handled) ∧
      act.perform (world.answering (some answer)) =
        (receive around.echoing who answer).perform handled

theorem Deaf.defers {act : Act τ (Echo σ) Unit} (h : act.Deaf) : Defers around who answer act :=
  fun world => .inl (h world)

theorem Defers.read {next : World τ (Echo σ) → Act τ (Echo σ) Unit}
    (blind : ∀ (world : World τ (Echo σ)) waiting, next (world.answering waiting) = next world)
    (rest : ∀ world, Defers around who answer (next world)) :
    Defers around who answer (get >>= next) := by
  intro world
  have same (waiting : Option Bytes) : (get >>= next).perform (world.answering waiting) =
      (next world).perform (world.answering waiting) := by
    rw [perform_bind_ok next (perform_get _), blind]
  rcases rest world world with
    ⟨outcome, after, sent, misses⟩ | ⟨packet, handled, sent, hnone, hsome⟩
  · exact .inl ⟨outcome, after, sent, fun waiting => (same waiting).trans (misses waiting)⟩
  · exact .inr ⟨packet, handled, sent, (same _).trans hnone, (same _).trans hsome⟩

theorem Defers.onSession {act : Session τ → Act τ (Echo σ) Unit}
    (h : ∀ session, Defers around who answer (act session)) (other : SessionId) :
    Defers around who answer (onSession other act) := by
  refine .read (fun _ _ => rfl) fun world => ?_
  cases world.session? other with
  | none => exact Deaf.defers fun world => ⟨_, _, misses_pure () world⟩
  | some session => exact h session

/-- What comes before may have nothing to do with the echo. -/
theorem Defers.after {act : Act τ (Echo σ) α} {next : α → Act τ (Echo σ) Unit} (h : act.Deaf)
    (hnext : ∀ value, Defers around who answer (next value)) :
    Defers around who answer (act >>= next) := by
  intro world
  obtain ⟨outcome, middle, first⟩ := h world
  cases outcome with
  | error fault => exact .inl ⟨_, _, first.bind_error next⟩
  | ok value =>
    rcases hnext value middle with
      ⟨outcome, after, second⟩ | ⟨packet, handled, sent, hnone, hsome⟩
    · exact .inl ⟨outcome, after, first.bind second⟩
    · exact .inr ⟨packet, handled, first.1 ▸ sent,
        (perform_bind_ok next (first.2 none)).trans hnone,
        (perform_bind_ok next (first.2 (some answer))).trans hsome⟩

theorem SendsLast.defers {act send : Act τ (Echo σ) Unit}
    (h : SendsLast around.echoing send act) (hsend : Defers around who answer send) :
    Defers around who answer act := by
  induction h with
  | silent silent => exact silent.deaf.defers
  | send => exact hsend
  | read blind _ ih => exact .read (fun world _ => blind world _) ih
  | after first _ ih => exact .after first.deaf ih

end

/-! ## Attempts -/

section

variable {around : Surroundings τ σ} {who : SessionId} {answer : Bytes}

/-- One datagram is passed on if the connection listens. -/
theorem perform_passOn (receive : Bytes → Act τ σ Unit) (data : Bytes) (world : World τ σ) :
    (passOn around receive who [data]).perform world =
      if around.link.listening who world.network then (receive data).perform world
      else (.ok (), world) := by
  rw [passOn, perform_bind_ok _ (perform_get world)]
  dsimp only
  split
  · rw [perform_bind]
    rcases (receive data).perform world with ⟨_ | _, after⟩ <;> rfl
  · rfl

variable [TimeScale τ]

theorem perform_receive (around : Surroundings τ σ) (who : SessionId) (data : Bytes)
    (world : World τ σ) :
    (receive around who data).perform world =
      if around.link.listening who world.network then (deliver around who data).perform world
      else (.ok (), world) :=
  perform_passOn _ data world

/-- What is given to a session during a send is handled like any other datagram: the attempt
that it may lead to finds the first phase left, and then no depth makes a difference. -/
theorem perform_passOn_nested (around : Surroundings τ σ) (who : SessionId) (data : Bytes)
    (world : World τ σ) :
    (passOn around (deliverWith around (sendWithin around 1 who) who) who [data]).perform world =
      (receive around who data).perform world := by
  rw [perform_receive, perform_passOn, deliver,
    perform_deliverWith_congr fun world left => (alike_sendWithin 0 1 world left).1]
  rfl

/-- A datagram lets only faults through that an attempt does not take for a loss. -/
theorem not_isLoss_of_receive {data : Bytes} (world : World τ σ) {fault : Fault}
    (hfault : ((receive around who data).perform world).1 = .error fault) :
    fault.isLoss = false := by
  have sends : Confined (fun _ => True) (fun fault => fault.isLoss = false)
      (sendRequest around who) :=
    confined_transmit World.lasting_true (Onward.deliverWith (onward_sendWithin around 1 who))
      fun _ _ _ _ _ _ _ _ kept => kept
  rw [perform_receive] at hfault
  split at hfault
  · exact (sendsLast_deliver data).confined World.lasting_true sends world trivial fault hfault
  · cases hfault

/-- Handling an answer that comes in during a send is the last thing that the send does. -/
theorem defers_send (around : Surroundings τ σ) (who : SessionId) (now : τ)
    (packet answer : Bytes) :
    Defers around who answer (do
      let (arrived, outcome) ← askNetwork (around.echoing.link.send who now packet)
      passOn around.echoing (deliverWith around.echoing (sendWithin around.echoing 1 who) who) who
        arrived
      ofOutcome outcome) := by
  intro world
  rcases hsend : around.link.send who now packet world.network.network with
    ⟨⟨arrived, _ | _⟩, network⟩
  next fault =>
    have hecho (waiting : Option Bytes) :
        around.echoing.link.send who now packet (world.answering waiting).network =
          (([], .error fault), { world.network with network, answer := waiting }) := by
      simp only [Surroundings.echoing, Link.echoing, World.answering, hsend]
    refine .inl ⟨.error fault, { world with network := { world.network with network } }, rfl, ?_⟩
    intro waiting
    rw [perform_bind_ok _ (perform_askNetwork _ _), hecho]
    rfl
  next =>
    let handled : World τ (Echo σ) :=
      { world with network := ⟨network, none, world.network.sent ++ [(who, packet)]⟩ }
    have hecho (waiting : Option Bytes) :
        around.echoing.link.send who now packet (world.answering waiting).network =
          ((waiting.toList, .ok ()), handled.network) := by
      simp only [Surroundings.echoing, Link.echoing, World.answering, hsend, handled]
    refine .inr ⟨packet, handled, rfl, ?_, ?_⟩
    · rw [perform_bind_ok _ (perform_askNetwork _ _), hecho]
      rfl
    · rw [perform_bind_ok _ (perform_askNetwork _ _), hecho]
      change (passOn _ _ _ [answer] >>= fun _ => pure ()).perform handled = _
      rw [bind_pure_unit, perform_passOn_nested]

/-- An attempt takes faults of its own for a loss, but not those of an answer that comes in
during its send. -/
theorem Defers.tryCatch {act : Act τ (Echo σ) Unit} {handler : Fault → Act τ (Echo σ) Unit}
    (h : Defers around who answer act) (deaf : ∀ fault, (handler fault).Deaf)
    (passes : ∀ fault, fault.isLoss = false → handler fault = throw fault) :
    Defers around who answer (tryCatch act handler) := by
  intro world
  rcases h world with ⟨outcome, after, misses⟩ | ⟨packet, handled, hsent, hnone, hsome⟩
  · cases outcome with
    | ok value =>
      refine .inl ⟨.ok value, after, misses.1, fun waiting => ?_⟩
      rw [perform_tryCatch, misses.2]
    | error fault =>
      obtain ⟨outcome, later, sent, same⟩ := deaf fault after
      refine .inl ⟨outcome, later, sent.trans misses.1, fun waiting => ?_⟩
      rw [perform_tryCatch, misses.2]
      exact same waiting
  · refine .inr ⟨packet, handled, hsent, by rw [perform_tryCatch, hnone], ?_⟩
    rw [perform_tryCatch, hsome]
    rcases hreceive : (receive around.echoing who answer).perform handled with ⟨fault | _, after⟩
    · dsimp only
      rw [passes fault (not_isLoss_of_receive handled (by rw [hreceive])), perform_throw]
    · rfl

theorem defers_attempt (around : Surroundings τ σ) (who : SessionId) (answer : Bytes)
    (session : Session τ) :
    Defers around who answer (attempt around.echoing
      (deliverWith around.echoing (sendWithin around.echoing 1 who) who) who session) := by
  apply Defers.after (deaf_buffer around who _)
  intro answer
  apply Defers.after (deaf_ofOutcome answer)
  intro buffer
  apply Defers.after (deaf_buildPacket session buffer)
  intro packet
  apply Defers.after (deaf_report _)
  intro _
  refine .read (fun _ _ => rfl) fun world => ?_
  have marks : (mark who (.handed packet.encode)).Silent around.echoing := silent_mark _
  dsimp only [callLink]
  rw [bind_assoc]
  exact .after marks.deaf fun _ => defers_send around who world.loop.now _ _

theorem defers_sendRequest (around : Surroundings τ σ) (who : SessionId) (answer : Bytes) :
    Defers around who answer (sendRequest around.echoing who) := by
  have starts : (startTimer who).Silent around.echoing := silent_startTimer
  apply Defers.after starts.deaf
  intro _
  have marks : (mark who .attempted).Silent around.echoing := silent_mark _
  apply Defers.after marks.deaf
  intro _
  refine .onSession (fun session => ?_) who
  refine (defers_attempt around who answer session).tryCatch (fun fault => ?_) fun fault kept => ?_
  · split
    · exact deaf_report _
    · exact deaf_throw fault
  · rw [if_neg (Bool.eq_false_iff.mp kept)]

theorem Defers.receive {data : Bytes}
    (h : Defers around who answer (deliver around.echoing who data)) :
    Defers around who answer (receive around.echoing who data) := by
  refine .read (fun _ _ => rfl) fun world => ?_
  dsimp only
  split
  · rwa [passOn, bind_pure_unit]
  · exact Deaf.defers fun world => ⟨_, _, misses_pure () world⟩

end

end Act

/-! ## Events -/

section

variable [TimeScale τ] {who : SessionId}

/-- What a session does about an event that concerns it. -/
def Event.handler (around : Surroundings τ σ) : Event τ σ → Act τ σ Unit
  | .fire handle => Act.fire around handle
  | .receive who data => Act.receive around who data
  | .deliver who data => Act.deliver around who data
  | .expire who spent => Act.timerExpired around who spent
  | .cancel who => Act.cancel around who
  | _ => pure ()

/-- Whatever a session does about an event ends with its only send. -/
theorem Event.defers (around : Surroundings τ σ) {event : Event τ (Echo σ)}
    (concerns : event.addressee = some who) (answer : Bytes) :
    Act.Defers around who answer (event.handler around.echoing) := by
  have sends := Act.defers_sendRequest around who answer
  cases event with
  | fire handle =>
    cases concerns
    exact (Act.sendsLast_fire handle).defers sends
  | receive other data =>
    cases concerns
    exact .receive ((Act.sendsLast_deliver data).defers sends)
  | deliver other data =>
    cases concerns
    exact (Act.sendsLast_deliver data).defers sends
  | expire other spent =>
    cases concerns
    exact (Act.sendsLast_timerExpired spent).defers sends
  | cancel other =>
    cases concerns
    have silent : (Act.cancel around.echoing who).Silent around.echoing :=
      .cancelWith Act.silent_cancelNewest
    exact silent.deaf.defers
  | start profile owner => cases concerns
  | tick instant => cases concerns
  | stir network => cases concerns
  | edit edit => cases concerns

/-- Let a session handle an event over a network from which nothing comes in during sends, and
let it send.  Then it hands over just one packet, and no fault is let through.  If an answer
comes in during that send, everything ends up as if the answer came in right after the event
was handled: the sessions with their phases, replies and timers, the pending calls, the
packets that were sent, the settings tree, and what owners were told. -/
theorem Event.answer_comes_after (around : Surroundings τ σ) (world : World τ σ)
    {event : Event τ (Echo σ)} (concerns : event.addressee = some who) (answer : Bytes)
    {outcome : Except Fault Unit} {handled : World τ (Echo σ)}
    (handles : (event.handler around.echoing).perform (world.echoing none) = (outcome, handled))
    (sends : handled.network.sent ≠ []) :
    outcome = .ok () ∧ (∃ packet, handled.network.sent = [(who, packet)]) ∧
      (event.handler around.echoing).perform (world.echoing (some answer)) =
        (Act.receive around.echoing who answer).perform handled ∧
      (around.link.listening who handled.network.network = true →
        (event.handler around.echoing).perform (world.echoing (some answer)) =
          (Act.deliver around.echoing who answer).perform handled) := by
  rcases Event.defers around concerns answer (world.echoing none) with
    ⟨outcome, after, sent, misses⟩ | ⟨packet, known, sent, hnone, hsome⟩
  · obtain ⟨-, rfl⟩ := Prod.mk.inj (handles.symm.trans (misses none))
    exact (sends sent).elim
  · obtain ⟨rfl, rfl⟩ := Prod.mk.inj (handles.symm.trans hnone)
    refine ⟨rfl, ⟨packet, sent⟩, hsome, fun listening => hsome.trans ?_⟩
    rw [Act.perform_receive]
    exact if_pos listening

end

/-- The offer that comes in while the first packet is sent, more than a second after the
session began, makes it request that offer inside the send. -/
theorem Event.offer_comes_after_discover :
    ∃ (world : World Int Script) (handled : World Int (Echo Script)),
      World.Run Script.around World.Possible (World.start .empty {})
        [.start (Profile.plain 7 0) .watching, .tick 1001] world ∧
      ((Event.fire ⟨0, 0, 0⟩).handler Script.around.echoing).perform (world.echoing none) =
        (.ok (), handled) ∧
      (∃ packet, handled.network.sent = [(0, packet)]) ∧
      (handled.session? 0).map Session.phase = some .discovering ∧
      ((Event.fire ⟨0, 0, 0⟩).handler Script.around.echoing).perform
          (world.echoing (some (Bytes.namedReply .offer))) =
        (Act.deliver Script.around.echoing 0 (Bytes.namedReply .offer)).perform handled ∧
      (((Act.deliver Script.around.echoing 0 (Bytes.namedReply .offer)).perform
        handled).2.session? 0).map Session.phase = some .requesting := by
  let world := (World.start .empty {}).afterAll Script.around
    [.start (Profile.plain 7 0) .watching, .tick 1001]
  let fire : Event Int (Echo Script) := .fire ⟨0, 0, 0⟩
  let handled := ((fire.handler Script.around.echoing).perform (world.echoing none)).2
  have run : World.Run Script.around World.Possible (World.start .empty {}) _ world :=
    .of_feasible (by decide +kernel)
  obtain ⟨sends, listens, discovering, requesting⟩ : handled.network.sent ≠ [] ∧
      Script.around.link.listening 0 handled.network.network = true ∧
      (handled.session? 0).map Session.phase = some .discovering ∧
      (((Act.deliver Script.around.echoing 0 (Bytes.namedReply .offer)).perform
        handled).2.session? 0).map Session.phase = some .requesting := by
    decide +kernel
  obtain ⟨houtcome, packet, -, hanswer⟩ := fire.answer_comes_after Script.around world rfl
    (Bytes.namedReply .offer) (Prod.eta _).symm sends
  exact ⟨world, handled, run, Prod.ext houtcome rfl, packet, discovering, hanswer listens,
    requesting⟩

end NetBoot
