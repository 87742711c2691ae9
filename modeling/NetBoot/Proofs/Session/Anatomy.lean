/-
# What handlers are made of

Most of what a session does is silent: it reads and changes the world, but for detaching and
closing connections it neither looks at the network nor touches it, and it cannot fail.  A
handler of an event is made of such actions and of at most one attempt to send, which is the
last thing it does.

So what concerns all silent actions is said once, by induction over how they are put
together: no silent action lets a fault through, changes what sessions are about or takes
anything out of the history.  The latter two hold of attempts as well, whatever fault ends
them and however deep their sends are nested.
-/
import NetBoot.Proofs.Session.Action

namespace NetBoot

variable {τ σ α β : Type}

namespace World

/-- The second world comes after the first one: the sessions are about the same, no session
was started, and the history has at most grown. -/
structure Continues (first second : World τ σ) : Prop where
  profiles : second.sessions.map Session.profile = first.sessions.map Session.profile
  newest : second.newest = first.newest
  history : first.history <+: second.history

theorem Continues.refl (world : World τ σ) : world.Continues world := ⟨rfl, rfl, List.prefix_rfl⟩

theorem Continues.trans {first second third : World τ σ} (h : first.Continues second)
    (h' : second.Continues third) : first.Continues third :=
  ⟨h'.profiles.trans h.profiles, h'.newest.trans h.newest, h.history.trans h'.history⟩

/-- What a session is about stays. -/
theorem Continues.profile {first second : World τ σ} (h : first.Continues second)
    (who : SessionId) :
    (second.session? who).map Session.profile = (first.session? who).map Session.profile := by
  rw [session?, session?, ← List.getElem?_map, ← List.getElem?_map, h.profiles]

/-- A session that is known stays known. -/
theorem Continues.known {first second : World τ σ} (h : first.Continues second) {who : SessionId}
    (known : (first.session? who).isSome = true) : (second.session? who).isSome = true := by
  rw [← Option.isSome_map, h.profile, Option.isSome_map]
  exact known

/-- A change of the world that has nothing to do with the network, and after which the world
continues. -/
structure Tame (change : World τ σ → World τ σ) : Prop where
  blind : ∀ (world : World τ σ) network,
    change { world with network } = { change world with network }
  continues : ∀ world : World τ σ, world.Continues (change world)

end World

namespace Act

/-- The action sends nothing: it reads and changes what has nothing to do with the network,
and does no more with connections than detach and close them. -/
inductive Silent (around : Surroundings τ σ) : {α : Type} → Act τ σ α → Prop
  | pure {α : Type} (value : α) : Silent around (Pure.pure value)
  | read {α : Type} {next : World τ σ → Act τ σ α}
      (blind : ∀ (world : World τ σ) network, next { world with network } = next world)
      (rest : ∀ world, Silent around (next world)) : Silent around (get >>= next)
  | change {change : World τ σ → World τ σ} (tame : World.Tame change) :
      Silent around (modify change)
  | detach (who : SessionId) :
      Silent around (askNetwork fun network => ((), around.link.detach who network))
  | close (who : SessionId) :
      Silent around (askNetwork fun network => ((), around.link.close who network))
  | bind {α β : Type} {act : Act τ σ α} {next : α → Act τ σ β} (first : Silent around act)
      (rest : ∀ value, Silent around (next value)) : Silent around (act >>= next)

/-- The action is silent until it ends, perhaps by making the given attempt to send. -/
inductive SendsLast (around : Surroundings τ σ) (send : Act τ σ Unit) : Act τ σ Unit → Prop
  | silent {act : Act τ σ Unit} (silent : act.Silent around) : SendsLast around send act
  | send : SendsLast around send send
  | read {next : World τ σ → Act τ σ Unit}
      (blind : ∀ (world : World τ σ) network, next { world with network } = next world)
      (rest : ∀ world, SendsLast around send (next world)) : SendsLast around send (get >>= next)
  | after {α : Type} {act : Act τ σ α} {next : α → Act τ σ Unit} (first : act.Silent around)
      (rest : ∀ value, SendsLast around send (next value)) : SendsLast around send (act >>= next)

/-- A silent action ends well, and the world continues. -/
theorem Silent.exists_ok {around : Surroundings τ σ} {act : Act τ σ α} (h : act.Silent around)
    (world : World τ σ) :
    ∃ value after, act.perform world = (.ok value, after) ∧ world.Continues after := by
  induction h generalizing world with
  | pure value => exact ⟨value, world, rfl, .refl world⟩
  | @read _ next _ _ ih =>
    rw [perform_bind_ok next (perform_get world)]
    exact ih world world
  | change tame => exact ⟨⟨⟩, _, rfl, tame.continues world⟩
  | detach who => exact ⟨⟨⟩, _, rfl, rfl, rfl, List.prefix_rfl⟩
  | close who => exact ⟨⟨⟩, _, rfl, rfl, rfl, List.prefix_rfl⟩
  | @bind _ _ act next _ _ ih ih' =>
    obtain ⟨value, middle, hact, first⟩ := ih world
    obtain ⟨result, after, hnext, second⟩ := ih' value middle
    exact ⟨result, after, by rw [perform_bind_ok next hact, hnext], first.trans second⟩

/-- The world continues, whether or not the action ends with a fault. -/
def Onward (act : Act τ σ α) : Prop :=
  ∀ world : World τ σ, world.Continues (act.perform world).2

theorem Silent.onward {around : Surroundings τ σ} {act : Act τ σ α} (h : act.Silent around) :
    act.Onward := by
  intro world
  obtain ⟨value, after, hact, continues⟩ := h.exists_ok world
  rw [hact]
  exact continues

theorem Onward.bind {act : Act τ σ α} {next : α → Act τ σ β} (h : act.Onward)
    (hnext : ∀ value, (next value).Onward) : (act >>= next).Onward := by
  intro world
  have first := h world
  rw [perform_bind]
  rcases hact : act.perform world with ⟨outcome, after⟩
  rw [hact] at first
  cases outcome with
  | error fault => exact first
  | ok value => exact first.trans (hnext value after)

theorem Onward.tryCatch {act : Act τ σ α} {handler : Fault → Act τ σ α} (h : act.Onward)
    (hhandler : ∀ fault, (handler fault).Onward) : (tryCatch act handler).Onward := by
  intro world
  have first := h world
  rw [perform_tryCatch]
  rcases hact : act.perform world with ⟨outcome, after⟩
  rw [hact] at first
  cases outcome with
  | error fault => exact first.trans (hhandler fault after)
  | ok value => exact first

/-- Reading the world before anything else. -/
theorem Onward.get_bind {next : World τ σ → Act τ σ β} (h : ∀ world, (next world).Onward) :
    ((get : Act τ σ (World τ σ)) >>= next).Onward :=
  Onward.bind (fun world => .refl world) h

theorem onward_askNetwork (run : σ → α × σ) : (askNetwork run : Act τ σ α).Onward :=
  fun _ => ⟨rfl, rfl, List.prefix_rfl⟩

theorem onward_report (event : LogEvent τ) : (report event : Act τ σ Unit).Onward :=
  fun _ => ⟨rfl, rfl, List.prefix_rfl⟩

theorem onward_pure (value : α) : (pure value : Act τ σ α).Onward := fun world => .refl world

theorem onward_throw (fault : Fault) : (throw fault : Act τ σ α).Onward := fun world => .refl world

theorem onward_ofOutcome (outcome : Except Fault α) : (ofOutcome outcome : Act τ σ α).Onward := by
  cases outcome with
  | ok value => exact onward_pure value
  | error fault => exact onward_throw fault

theorem SendsLast.onward {around : Surroundings τ σ} {act send : Act τ σ Unit}
    (h : SendsLast around send act) (hsend : send.Onward) : act.Onward := by
  induction h with
  | silent silent => exact silent.onward
  | send => exact hsend
  | read _ _ ih => exact .get_bind ih
  | after first _ ih => exact first.onward.bind ih

section

variable {around : Surroundings τ σ} {who : SessionId} {send : Act τ σ Unit}

/-! ## Basic actions -/

theorem Silent.onSession {act : Session τ → Act τ σ Unit}
    (h : ∀ session, (act session).Silent around) : (onSession who act).Silent around := by
  refine .read (fun _ _ => rfl) fun world => ?_
  cases world.session? who with
  | none => exact .pure ()
  | some session => exact h session

theorem SendsLast.onSession {act : Session τ → Act τ σ Unit}
    (h : ∀ session, SendsLast around send (act session)) :
    SendsLast around send (onSession who act) := by
  refine .read (fun _ _ => rfl) fun world => ?_
  cases world.session? who with
  | none => exact .silent (.pure ())
  | some session => exact h session

theorem Onward.onSession {act : Session τ → Act τ σ Unit} (h : ∀ session, (act session).Onward) :
    (onSession who act).Onward := by
  apply Onward.get_bind
  intro world
  cases world.session? who with
  | none => exact onward_pure ()
  | some session => exact h session

theorem silent_ite {condition : Prop} [Decidable condition] {first second : Act τ σ α}
    (h : first.Silent around) (h' : second.Silent around) :
    (if condition then first else second).Silent around := by
  split
  · exact h
  · exact h'

theorem silent_report (event : LogEvent τ) : (report event : Act τ σ Unit).Silent around :=
  .change ⟨fun _ _ => rfl, fun _ => ⟨rfl, rfl, List.prefix_rfl⟩⟩

/-- What a session is about is not changed by what it remembers. -/
theorem silent_update (change : Session τ → Session τ)
    (h : ∀ session, (change session).profile = session.profile) :
    (update who change : Act τ σ Unit).Silent around := by
  refine .change ⟨fun _ _ => rfl, fun world => ⟨?_, rfl, List.prefix_rfl⟩⟩
  apply List.ext_getElem?
  intro index
  simp only [List.getElem?_map, List.getElem?_modify]
  cases world.sessions[index]? with
  | none => rfl
  | some session =>
    by_cases hindex : who = index <;> simp [hindex, h]

theorem onward_mark (deed : Deed) : (mark who deed : Act τ σ Unit).Onward :=
  Onward.onSession fun _ _ => ⟨rfl, rfl, List.prefix_append _ _⟩

theorem silent_mark (deed : Deed) : (mark who deed : Act τ σ Unit).Silent around :=
  .onSession fun _ => .change ⟨fun _ _ => rfl, fun _ => ⟨rfl, rfl, List.prefix_append _ _⟩⟩

theorem onward_callLink (deed : Deed) (run : σ → α × σ) :
    (callLink who deed run : Act τ σ α).Onward :=
  (onward_mark deed).bind fun _ => onward_askNetwork run

theorem silent_withTimer
    (change : RetryTimer τ → EventLoop τ SessionId → RetryTimer τ × EventLoop τ SessionId) :
    (withTimer who change : Act τ σ Unit).Silent around := by
  refine .onSession fun session => .read (fun _ _ => rfl) fun world => ?_
  refine .bind (.change ⟨fun _ _ => rfl, fun _ => ⟨rfl, rfl, List.prefix_rfl⟩⟩) fun _ => ?_
  exact silent_update _ fun _ => rfl

theorem silent_notify (outcome : Option Failure) :
    (notify who outcome : Act τ σ Unit).Silent around :=
  .bind (.change ⟨fun _ _ => rfl, fun _ => ⟨rfl, rfl, List.prefix_rfl⟩⟩) fun _ => silent_mark _

/-! ## Ending -/

theorem silent_detachFrom (session : Session τ) : (detachFrom around who session).Silent around :=
  silent_ite (.bind (silent_mark _) fun _ => .detach who) (.pure ())

theorem silent_closeFor (session : Session τ) : (closeFor around who session).Silent around :=
  silent_ite (.bind (silent_mark _) fun _ => .close who) (.pure ())

end

section

variable [TimeScale τ] {around : Surroundings τ σ} {who : SessionId} {react : Act τ σ Unit}

theorem silent_reportEnd (session : Session τ) (outcome : Option Failure) :
    (reportEnd session outcome : Act τ σ Unit).Silent around := by
  cases outcome with
  | none => exact .read (fun _ _ => rfl) fun _ => silent_report _
  | some failure => exact silent_report _

theorem silent_shutDown (session : Session τ) (outcome : Option Failure) :
    (shutDown around who session outcome).Silent around := by
  refine .bind (silent_update _ fun _ => rfl) fun _ => ?_
  refine .bind (silent_detachFrom session) fun _ => ?_
  refine .bind (silent_update _ fun _ => rfl) fun _ => ?_
  refine .bind (silent_mark _) fun _ => ?_
  refine .bind (silent_withTimer _) fun _ => ?_
  exact .bind (silent_closeFor session) fun _ => silent_reportEnd session outcome

theorem Silent.finishWith (h : react.Silent around) (outcome : Option Failure) :
    (finishWith around react who outcome).Silent around := by
  refine .onSession fun session => silent_ite (.pure ()) ?_
  refine .bind (silent_shutDown session outcome) fun _ => ?_
  cases session.owner with
  | absent => exact .pure ()
  | watching => exact silent_notify outcome
  | cancelling => exact .bind (silent_notify outcome) fun _ => h

theorem Silent.cancelWith (h : react.Silent around) : (cancelWith around react who).Silent around :=
  .onSession fun _ => .finishWith h _

theorem silent_cancelNewest : (cancelNewest around).Silent around := by
  refine .read (fun _ _ => rfl) fun world => ?_
  cases world.newest with
  | none => exact .pure ()
  | some newest => exact .cancelWith (.pure ())

theorem silent_finish (outcome : Option Failure) : (finish around who outcome).Silent around :=
  .finishWith silent_cancelNewest outcome

end

/-! ## Registering replies -/

section

variable {around : Surroundings τ σ} {who : SessionId}

/-- Setting the world to what a change makes of it is that change. -/
theorem Silent.set_bind (change : World τ σ → World τ σ) (tame : World.Tame change)
    {next : World τ σ → PUnit → Act τ σ α}
    (blind : ∀ (world : World τ σ) network, next { world with network } = next world)
    (rest : ∀ world value, (next world value).Silent around) :
    ((get : Act τ σ (World τ σ)) >>= fun world => set (change world) >>= next world).Silent
      around := by
  have hmodify : ((get : Act τ σ (World τ σ)) >>= fun world => set (change world) >>= next world) =
      get >>= fun world => modify change >>= next world := rfl
  rw [hmodify]
  refine .read (fun world network => ?_) fun world => .bind (.change tame) (rest world)
  rw [blind]

/-- Another settings tree. -/
theorem silent_tree (change : World τ σ → SettingsTree)
    (blind : ∀ (world : World τ σ) network, change { world with network } = change world) :
    (modify fun world => { world with tree := change world } : Act τ σ PUnit).Silent around :=
  .change ⟨fun world network => by rw [blind], fun _ => ⟨rfl, rfl, List.prefix_rfl⟩⟩

theorem silent_replaceBlock (block parent : BlockId) :
    (replaceBlock around block parent).Silent around := by
  refine .set_bind (fun world => { world with replacements := world.replacements + 1 })
    ⟨fun _ _ => rfl, fun _ => ⟨rfl, rfl, List.prefix_rfl⟩⟩ (fun _ _ => rfl) fun world _ => ?_
  dsimp only
  cases around.refusal world.replacements with
  | some reason => exact .pure _
  | none =>
    rcases world.tree.replace block parent with ⟨tree, outcome⟩
    dsimp only
    cases world.tree.findChild? parent (world.tree.nameOf block)
    case' some old => refine .bind (silent_report _) fun _ => ?_
    all_goals
      refine .bind (silent_tree (fun _ => tree) fun _ _ => rfl) fun _ => ?_
      cases outcome with
      | ok _ => exact .bind (silent_report _) fun _ => .pure _
      | error _ => exact .pure _

theorem silent_publish (block : BlockId) (name : String) (parent : BlockId) :
    (publish around block name parent).Silent around :=
  .bind (silent_tree (fun world => world.tree.rename block name) fun _ _ => rfl)
    fun _ => silent_replaceBlock block parent

theorem silent_registerReplies (session : Session τ) :
    (registerReplies around session).Silent around := by
  rw [registerReplies]
  cases session.proxy
  case' none => refine .bind (.pure _) fun published => ?_
  case' some proxy => refine .bind (silent_publish _ _ _) fun published => ?_
  all_goals
    dsimp only
    split
    · exact silent_publish _ _ _
    · exact .pure _

end

/-! ## Datagrams -/

section

variable {around : Surroundings τ σ} {who : SessionId} {send : Act τ σ Unit}

theorem silent_merge (reply : BlockId) : (merge who reply : Act τ σ Unit).Silent around := by
  refine .onSession fun session => .read (fun _ _ => rfl) fun world => ?_
  refine silent_ite (silent_update _ fun session => ?_) (silent_report _)
  split <;> rfl

variable [TimeScale τ]

theorem silent_acknowledge (reply : BlockId) : (acknowledge around who reply).Silent around := by
  refine .read (fun _ _ => rfl) fun world => silent_ite (.pure ()) ?_
  refine .bind (.onSession fun session => ?_) fun _ => .bind (.onSession fun session => ?_) fun _ =>
    .onSession fun session => ?_
  · refine silent_ite (.read (fun _ _ => rfl) fun _ => ?_) (.pure ())
    exact .bind (silent_report _) fun _ => silent_update _ fun _ => rfl
  · refine .read (fun _ _ => rfl) fun _ => silent_ite ?_ (.pure ())
    exact .bind (silent_report _) fun _ => silent_update _ fun _ => rfl
  · refine .bind (silent_registerReplies session) fun outcome => ?_
    cases outcome <;> exact silent_finish _

theorem sendsLast_checkOffers : SendsLast around send (checkOffers send who) := by
  refine .onSession fun session => ?_
  cases session.response with
  | none => exact .silent (.pure ())
  | some held =>
    refine .read (fun _ _ => rfl) fun world => ?_
    dsimp only
    split
    · exact .silent (silent_report _)
    · refine .after (silent_report _) fun _ => .after (silent_withTimer _) fun _ => ?_
      exact .after (silent_update _ fun _ => rfl) fun _ => .send

/-- What a session does once it has entered a datagram into the history. -/
theorem sendsLast_accepted (event : LogEvent τ) (reply : BlockId) (session : Session τ) :
    SendsLast around send (do
      report event
      merge who reply
      if session.phase = .discovering then checkOffers send who
      else acknowledge around who reply) := by
  refine .after (silent_report event) fun _ => .after (silent_merge reply) fun _ => ?_
  split
  · exact sendsLast_checkOffers
  · exact .silent (silent_acknowledge reply)

theorem Onward.accepted (h : send.Onward) (event : LogEvent τ) (reply : BlockId)
    (session : Session τ) : (do
      report event
      merge who reply
      if session.phase = .discovering then checkOffers send who
      else acknowledge around who reply : Act τ σ Unit).Onward :=
  (sendsLast_accepted event reply session).onward h

theorem sendsLast_accept (session : Session τ) (data : Bytes) :
    SendsLast around send (accept around send who session data) := by
  refine .read (fun _ _ => rfl) fun world => ?_
  refine .after (silent_tree (fun _ => _) fun _ _ => rfl) fun _ => ?_
  exact .after (silent_mark _) fun _ => sendsLast_accepted _ _ session

theorem sendsLast_deliverWith (data : Bytes) :
    SendsLast around send (deliverWith around send who data) := by
  refine .onSession fun session => ?_
  dsimp only
  split
  · exact .silent (.pure ())
  split
  · exact .silent (silent_report _)
  split
  · exact .silent (silent_report _)
  split
  · exact .silent (silent_report _)
  · exact sendsLast_accept session data

theorem sendsLast_deliver (data : Bytes) :
    SendsLast around (sendRequest around who) (deliver around who data) :=
  sendsLast_deliverWith data

/-! ## Attempts -/

section

variable {receive : Bytes → Act τ σ Unit}

omit [TimeScale τ] in
theorem Onward.passOn (h : ∀ data, (receive data).Onward) (arrived : List Bytes) :
    (passOn around receive who arrived).Onward := by
  induction arrived with
  | nil => exact onward_pure ()
  | cons data rest ih =>
    apply Onward.get_bind
    intro world
    split
    · exact (h data).bind fun _ => ih
    · exact ih

omit [TimeScale τ] in
theorem onward_buildPacket (session : Session τ) (buffer : Bytes) :
    (buildPacket session buffer : Act τ σ Packet).Onward := by
  apply Onward.get_bind
  intro world
  dsimp only
  split
  · exact (onward_report _).bind fun _ => onward_pure _
  · exact onward_throw _

omit [TimeScale τ] in
theorem Onward.attempt (h : ∀ data, (receive data).Onward) (session : Session τ) :
    (attempt around receive who session).Onward := by
  apply (onward_askNetwork _).bind
  intro answer
  apply (onward_ofOutcome answer).bind
  intro buffer
  apply (onward_buildPacket session buffer).bind
  intro packet
  apply (onward_report _).bind
  intro _
  apply Onward.get_bind
  intro world
  apply (onward_callLink _ _).bind
  intro answer
  exact (Onward.passOn h answer.1).bind fun _ => onward_ofOutcome answer.2

theorem silent_startTimer : (startTimer who : Act τ σ Unit).Silent around :=
  .onSession fun _ => .bind (silent_withTimer _) fun _ => silent_report _

theorem Onward.transmit (h : ∀ data, (receive data).Onward) :
    (transmit around receive who).Onward := by
  have hstart : (startTimer who : Act τ σ Unit).Silent around := silent_startTimer
  apply hstart.onward.bind
  intro _
  apply (onward_mark _).bind
  intro _
  apply Onward.onSession
  intro session
  apply (Onward.attempt h session).tryCatch
  intro fault
  split
  · exact onward_report _
  · exact onward_throw fault

theorem Onward.deliverWith (h : send.Onward) (data : Bytes) :
    (deliverWith around send who data).Onward :=
  (sendsLast_deliverWith data).onward h

/-- However deep sends may nest, the world continues after an attempt. -/
theorem onward_sendWithin (around : Surroundings τ σ) (phases : Nat) (who : SessionId) :
    (sendWithin around phases who).Onward := by
  induction phases with
  | zero => exact Onward.transmit fun _ => onward_pure ()
  | succ phases ih => exact Onward.transmit ih.deliverWith

end

/-! ## Calls of the event loop -/

theorem sendsLast_timerExpired (spent : Bool) :
    SendsLast around (sendRequest around who) (timerExpired around who spent) := by
  refine .onSession fun session => ?_
  split
  · exact .silent (.pure ())
  split
  · exact .silent (silent_finish _)
  · exact .send

theorem sendsLast_fire (handle : Handle τ SessionId) :
    SendsLast around (sendRequest around handle.owner) (fire around handle) := by
  refine .after (.change ⟨fun _ _ => rfl, fun _ => ⟨rfl, rfl, List.prefix_rfl⟩⟩) fun _ => ?_
  refine .onSession fun session => ?_
  exact .after (silent_update _ fun _ => rfl) fun _ => sendsLast_timerExpired _

end

end Act
end NetBoot
