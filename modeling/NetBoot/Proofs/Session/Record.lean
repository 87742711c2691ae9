/-
# The calls that sessions make

The history tells what sessions do about their connections: they open them, hand packets to
them, detach and close them.  Whether the network was called just like that, the history cannot
tell by itself.  So let the network keep a record of the calls that are made to it, and let
the same happen over it.

Then everything is the same, and the record holds the calls that the history tells of, in the
same order.  This holds of every action by itself, and so of every run.
-/
import NetBoot.Proofs.Session.Anatomy
import NetBoot.Proofs.Session.Frame
import NetBoot.Proofs.Session.Steps

namespace NetBoot

variable {τ σ ρ α β : Type}

/-- A call to the network about the connection of a session. -/
inductive LinkCall
  | opened
  | sent (packet : Bytes)
  | detached
  | closed
  deriving DecidableEq, Repr

/-- A network with a record of the calls that were made to it, and for whom. -/
structure Recording (σ : Type) where
  network : σ
  calls : List (SessionId × LinkCall)

/-- The calls that were made for a session, in order. -/
def Recording.callsOf (recorded : Recording σ) (who : SessionId) : List LinkCall :=
  (recorded.calls.filter fun call => call.1 = who).map Prod.snd

/-- The packet that a call sends. -/
def LinkCall.packet? : LinkCall → Option Bytes
  | sent packet => some packet
  | _ => none

/-- The packets that were sent for a session, in order. -/
def Recording.sentFor (recorded : Recording σ) (who : SessionId) : List Bytes :=
  (recorded.callsOf who).filterMap LinkCall.packet?

/-- The link over a network that keeps a record.  It is what it was, and it records whatever
opens, uses, detaches or closes a connection. -/
def Link.recording (link : Link τ σ) : Link τ (Recording σ) where
  openFor who device now recorded :=
    match link.openFor who device now recorded.network with
    | (.ok _, network) => (.ok (), ⟨network, recorded.calls ++ [(who, .opened)]⟩)
    | (.error cause, network) => (.error cause, { recorded with network })
  buffer who size recorded :=
    let (buffer, network) := link.buffer who size recorded.network
    (buffer, { recorded with network })
  send who now packet recorded :=
    let (answer, network) := link.send who now packet recorded.network
    (answer, ⟨network, recorded.calls ++ [(who, .sent packet)]⟩)
  listening who recorded := link.listening who recorded.network
  detach who recorded :=
    ⟨link.detach who recorded.network, recorded.calls ++ [(who, .detached)]⟩
  close who recorded := ⟨link.close who recorded.network, recorded.calls ++ [(who, .closed)]⟩

/-- The same surroundings over a network that keeps a record. -/
def Surroundings.recording (around : Surroundings τ σ) : Surroundings τ (Recording σ) :=
  ⟨around.link.recording, around.refusal⟩

/-- The call that a deed is made by. -/
def Deed.call? : Deed → Option LinkCall
  | opened => some .opened
  | handed packet => some (.sent packet)
  | detached => some .detached
  | closed => some .closed
  | _ => none

/-- The call that is told of, and for whom it was made. -/
def Episode.call? (episode : Episode τ) : Option (SessionId × LinkCall) :=
  episode.deed.call?.map fun call => (episode.who, call)

namespace World

/-- The calls that the history tells of. -/
def record (world : World τ σ) : List (SessionId × LinkCall) :=
  world.history.filterMap Episode.call?

/-- The world over a network whose record holds what the history tells. -/
def recorded (world : World τ σ) : World τ (Recording σ) :=
  { world with network := ⟨world.network, world.record⟩ }

/-- The world over a network whose record holds one more call, of which the history does not
tell yet. -/
def calling (world : World τ σ) (who : SessionId) (call : LinkCall) : World τ (Recording σ) :=
  { world with network := ⟨world.network, world.record ++ [(who, call)]⟩ }

/-- The world over the network without its record. -/
def unrecorded (world : World τ (Recording σ)) : World τ σ :=
  { world with network := world.network.network }

theorem record_chronicled (world : World τ σ) (who : SessionId) (deed : Deed)
    (session : Session τ) : (world.chronicled who deed session).record =
      world.record ++ (deed.call?.map fun call => (who, call)).toList := by
  rw [record, chronicled, List.filterMap_append]
  cases known : deed.call? <;> simp [record, Episode.call?, known]

theorem recorded_chronicled_of_none {deed : Deed} (h : deed.call? = none) (world : World τ σ)
    (who : SessionId) (session : Session τ) :
    (world.chronicled who deed session).recorded = world.recorded.chronicled who deed session := by
  rw [recorded, record_chronicled, h, Option.map_none, Option.toList_none, List.append_nil]
  rfl

/-- A call is recorded before the history tells of it. -/
theorem recorded_chronicled {deed : Deed} {call : LinkCall} (h : deed.call? = some call)
    (world : World τ σ) (who : SessionId) (session : Session τ) :
    (world.chronicled who deed session).recorded =
      (world.calling who call).chronicled who deed session := by
  rw [recorded, record_chronicled, h, Option.map_some, Option.toList_some]
  rfl

end World

namespace Act

/-- The copy of an action does over the network that keeps a record what the action does, and
it makes the calls that the history then tells of. -/
def Mirrors (act : Act τ σ α) (copy : Act τ (Recording σ) α) : Prop :=
  ∀ world : World τ σ, copy.perform world.recorded =
    ((act.perform world).1, (act.perform world).2.recorded)

/-- The copy does so wherever a session is known.  A call for any other session would be
recorded, but the history would not tell of it. -/
def MirrorsFor (who : SessionId) (act : Act τ σ α) (copy : Act τ (Recording σ) α) : Prop :=
  ∀ world : World τ σ, (world.session? who).isSome = true →
    copy.perform world.recorded = ((act.perform world).1, (act.perform world).2.recorded)

/-! ## Putting actions together -/

section

variable {who : SessionId} {act : Act τ σ α} {copy : Act τ (Recording σ) α}
  {next : α → Act τ σ β} {later : α → Act τ (Recording σ) β}

theorem Mirrors.known (h : act.Mirrors copy) : MirrorsFor who act copy := fun world _ => h world

theorem mirrors_pure (value : α) : (pure value : Act τ σ α).Mirrors (pure value) := fun _ => rfl

theorem mirrors_throw (fault : Fault) : (throw fault : Act τ σ α).Mirrors (throw fault) :=
  fun _ => rfl

theorem mirrors_ofOutcome (outcome : Except Fault α) :
    (ofOutcome outcome : Act τ σ α).Mirrors (ofOutcome outcome) := by
  cases outcome with
  | ok value => exact mirrors_pure value
  | error fault => exact mirrors_throw fault

theorem mirrors_ite {condition : Prop} [Decidable condition] {first : Act τ σ α}
    {copy' : Act τ (Recording σ) α} (h : act.Mirrors copy) (h' : first.Mirrors copy') :
    (if condition then act else first).Mirrors (if condition then copy else copy') := by
  split
  · exact h
  · exact h'

theorem MirrorsFor.bind (h : MirrorsFor who act copy) (onward : act.Onward)
    (hnext : ∀ value, MirrorsFor who (next value) (later value)) :
    MirrorsFor who (act >>= next) (copy >>= later) := by
  intro world known
  have continues := onward world
  rw [perform_bind, perform_bind, h world known]
  rcases hact : act.perform world with ⟨outcome, after⟩
  rw [hact] at continues
  cases outcome with
  | error fault => rfl
  | ok value => exact hnext value after (continues.known known)

theorem Mirrors.bind (h : act.Mirrors copy) (hnext : ∀ value, (next value).Mirrors (later value)) :
    (act >>= next).Mirrors (copy >>= later) := by
  intro world
  rw [perform_bind, perform_bind, h world]
  rcases act.perform world with ⟨fault | value, after⟩
  · rfl
  · exact hnext value after

theorem MirrorsFor.tryCatch {handler : Fault → Act τ σ α} {other : Fault → Act τ (Recording σ) α}
    (h : MirrorsFor who act copy) (hhandler : ∀ fault, (handler fault).Mirrors (other fault)) :
    MirrorsFor who (tryCatch act handler) (tryCatch copy other) := by
  intro world known
  rw [perform_tryCatch, perform_tryCatch, h world known]
  rcases act.perform world with ⟨fault | value, after⟩
  · exact hhandler fault after
  · rfl

/-- What is read is the same but for the record. -/
theorem mirrors_read {next : World τ σ → Act τ σ α} {later : World τ (Recording σ) → Act τ _ α}
    (h : ∀ world, (next world).Mirrors (later world.recorded)) :
    (get >>= next).Mirrors (get >>= later) :=
  fun world => h world world

theorem mirrors_set (world : World τ σ) :
    (set world : Act τ σ PUnit).Mirrors (set world.recorded) := fun _ => rfl

theorem mirrors_change {change : World τ σ → World τ σ}
    {other : World τ (Recording σ) → World τ (Recording σ)}
    (h : ∀ world, other world.recorded = (change world).recorded) :
    (modify change : Act τ σ PUnit).Mirrors (modify other) :=
  fun world => congrArg (Prod.mk _) (h world)

theorem mirrors_onSession {act : Session τ → Act τ σ Unit}
    {copy : Session τ → Act τ (Recording σ) Unit}
    (h : ∀ session, MirrorsFor who (act session) (copy session)) :
    (onSession who act).Mirrors (onSession who copy) := by
  intro world
  cases found : world.session? who with
  | none =>
    rw [perform_onSession_none act found,
      perform_onSession_none copy (show world.recorded.session? who = none from found)]
  | some session =>
    rw [perform_onSession act found,
      perform_onSession copy (show world.recorded.session? who = some session from found)]
    exact h session world (by rw [found]; rfl)

end

/-! ## Basic actions -/

section

variable {around : Surroundings τ σ} {who : SessionId}

theorem mirrors_report (event : LogEvent τ) :
    (report event : Act τ σ Unit).Mirrors (report event) := fun _ => rfl

theorem mirrors_update (change : Session τ → Session τ) :
    (update who change : Act τ σ Unit).Mirrors (update who change) := fun _ => rfl

/-- Most deeds are made by no call. -/
theorem mirrors_mark {deed : Deed} (h : deed.call? = none) :
    (mark who deed : Act τ σ Unit).Mirrors (mark who deed) :=
  mirrors_onSession fun session => (mirrors_change fun world =>
    (World.recorded_chronicled_of_none h world who session).symm).known

/-- A call that is made is recorded and told of. -/
theorem mirrorsFor_callLink {deed : Deed} {call : LinkCall} (h : deed.call? = some call)
    {run : σ → α × σ} {copy : Recording σ → α × Recording σ}
    (records : ∀ recorded, copy recorded = ((run recorded.network).1,
      ⟨(run recorded.network).2, recorded.calls ++ [(who, call)]⟩)) :
    MirrorsFor who (callLink who deed run : Act τ σ α) (callLink who deed copy) := by
  intro world known
  obtain ⟨session, found⟩ := Option.isSome_iff_exists.mp known
  rw [perform_callLink deed run found,
    perform_callLink deed copy (show world.recorded.session? who = some session from found),
    records]
  exact congrArg (Prod.mk _) (World.recorded_chronicled h
    { world with network := (run world.network).2 } who session).symm

theorem mirrors_withTimer
    (change : RetryTimer τ → EventLoop τ SessionId → RetryTimer τ × EventLoop τ SessionId) :
    (withTimer who change : Act τ σ Unit).Mirrors (withTimer who change) :=
  mirrors_onSession fun _ => (mirrors_read fun _ =>
    (mirrors_change fun _ => rfl).bind fun _ => mirrors_update _).known

theorem mirrors_startTimer [TimeScale τ] :
    (startTimer who : Act τ σ Unit).Mirrors (startTimer who) :=
  mirrors_onSession fun _ => ((mirrors_withTimer _).bind fun _ => mirrors_report _).known

theorem mirrors_notify (outcome : Option Failure) :
    (notify who outcome : Act τ σ Unit).Mirrors (notify who outcome) :=
  (mirrors_change fun _ => rfl).bind fun _ => mirrors_mark rfl

end

/-! ## Ending -/

section

variable {around : Surroundings τ σ} {who : SessionId}

theorem mirrorsFor_detachFrom (around : Surroundings τ σ) (who : SessionId)
    (session : Session τ) :
    MirrorsFor who (detachFrom around who session) (detachFrom around.recording who session) := by
  rw [detachFrom, detachFrom]
  split
  · exact mirrorsFor_callLink rfl fun _ => rfl
  · exact (mirrors_pure ()).known

theorem mirrorsFor_closeFor (around : Surroundings τ σ) (who : SessionId) (session : Session τ) :
    MirrorsFor who (closeFor around who session) (closeFor around.recording who session) := by
  rw [closeFor, closeFor]
  split
  · exact mirrorsFor_callLink rfl fun _ => rfl
  · exact (mirrors_pure ()).known

variable [TimeScale τ]

theorem mirrors_reportEnd (session : Session τ) (outcome : Option Failure) :
    (reportEnd session outcome : Act τ σ Unit).Mirrors (reportEnd session outcome) := by
  cases outcome with
  | none => exact mirrors_read fun _ => mirrors_report _
  | some failure => exact mirrors_report _

theorem mirrorsFor_shutDown (around : Surroundings τ σ) (who : SessionId) (session : Session τ)
    (outcome : Option Failure) : MirrorsFor who (shutDown around who session outcome)
      (shutDown around.recording who session outcome) := by
  have updates (change : Session τ → Session τ)
      (h : ∀ session, (change session).profile = session.profile) :
      (update who change : Act τ σ Unit).Onward :=
    (silent_update change h : (update who change).Silent around).onward
  have stops : (stopTimer who : Act τ σ Unit).Silent around := silent_withTimer _
  refine (mirrors_update _).known.bind (updates _ fun _ => rfl) fun _ => ?_
  refine (mirrorsFor_detachFrom around who session).bind (silent_detachFrom session).onward
    fun _ => ?_
  refine (mirrors_update _).known.bind (updates _ fun _ => rfl) fun _ => ?_
  refine (mirrors_mark rfl).known.bind (onward_mark _) fun _ => ?_
  refine (mirrors_withTimer _).known.bind stops.onward fun _ => ?_
  refine (mirrorsFor_closeFor around who session).bind (silent_closeFor session).onward fun _ => ?_
  exact (mirrors_reportEnd session outcome).known

omit [TimeScale τ] in
theorem Mirrors.tellOwner {react : Act τ σ Unit} {copy : Act τ (Recording σ) Unit}
    (h : react.Mirrors copy) (owner : Owner) (outcome : Option Failure) :
    (tellOwner react who owner outcome).Mirrors (tellOwner copy who owner outcome) := by
  cases owner with
  | absent => exact mirrors_pure ()
  | watching => exact mirrors_notify outcome
  | cancelling => exact (mirrors_notify outcome).bind fun _ => h

theorem Mirrors.finishWith {react : Act τ σ Unit} {copy : Act τ (Recording σ) Unit}
    (h : react.Mirrors copy) (outcome : Option Failure) :
    (finishWith around react who outcome).Mirrors
      (finishWith around.recording copy who outcome) := by
  refine mirrors_onSession fun session => ?_
  split
  · exact (mirrors_pure ()).known
  · exact (mirrorsFor_shutDown around who session outcome).bind
      (silent_shutDown session outcome).onward fun _ => (h.tellOwner _ outcome).known

theorem Mirrors.cancelWith {react : Act τ σ Unit} {copy : Act τ (Recording σ) Unit}
    (h : react.Mirrors copy) :
    (cancelWith around react who).Mirrors (cancelWith around.recording copy who) :=
  mirrors_onSession fun _ => (h.finishWith _).known

theorem mirrors_cancelNewest (around : Surroundings τ σ) :
    (cancelNewest around).Mirrors (cancelNewest around.recording) := by
  refine mirrors_read fun world => ?_
  dsimp only [World.recorded]
  cases world.newest with
  | none => exact mirrors_pure ()
  | some newest => exact (mirrors_pure ()).cancelWith

theorem mirrors_finish (outcome : Option Failure) :
    (finish around who outcome).Mirrors (finish around.recording who outcome) :=
  (mirrors_cancelNewest around).finishWith outcome

end

/-! ## Registering replies -/

section

variable {around : Surroundings τ σ} {who : SessionId}

theorem mirrors_replaceBlock (block parent : BlockId) :
    (replaceBlock around block parent).Mirrors (replaceBlock around.recording block parent) := by
  refine mirrors_read fun world => ?_
  refine (mirrors_set { world with replacements := world.replacements + 1 }).bind fun _ => ?_
  dsimp only [World.recorded, Surroundings.recording]
  cases around.refusal world.replacements with
  | some reason => exact mirrors_pure _
  | none =>
    rcases world.tree.replace block parent with ⟨tree, outcome⟩
    dsimp only
    cases world.tree.findChild? parent (world.tree.nameOf block)
    case' some old => refine (mirrors_report _).bind fun _ => ?_
    all_goals
      refine (mirrors_change fun _ => rfl).bind fun _ => ?_
      cases outcome with
      | ok _ => exact (mirrors_report _).bind fun _ => mirrors_pure _
      | error _ => exact mirrors_pure _

theorem mirrors_publish (block : BlockId) (name : String) (parent : BlockId) :
    (publish around block name parent).Mirrors (publish around.recording block name parent) :=
  (mirrors_change fun _ => rfl).bind fun _ => mirrors_replaceBlock block parent

theorem mirrors_registerReplies (session : Session τ) :
    (registerReplies around session).Mirrors (registerReplies around.recording session) := by
  rw [registerReplies, registerReplies]
  cases session.proxy
  case' none => refine (mirrors_pure _).bind fun published => ?_
  case' some proxy => refine (mirrors_publish _ _ _).bind fun published => ?_
  all_goals
    dsimp only
    split
    · exact mirrors_publish _ _ _
    · exact mirrors_pure _

end

/-! ## Datagrams -/

section

variable {around : Surroundings τ σ} {who : SessionId} {enter : Act τ σ Unit}
  {copy : Act τ (Recording σ) Unit}

theorem mirrors_merge (reply : BlockId) :
    (merge who reply : Act τ σ Unit).Mirrors (merge who reply) :=
  mirrors_onSession fun _ => (mirrors_read fun _ =>
    mirrors_ite (mirrors_update _) (mirrors_report _)).known

variable [TimeScale τ]

theorem mirrors_acknowledge (around : Surroundings τ σ) (who : SessionId) (reply : BlockId) :
    (acknowledge around who reply).Mirrors (acknowledge around.recording who reply) := by
  refine mirrors_read fun world => mirrors_ite (mirrors_pure ()) ?_
  refine (mirrors_onSession fun session => ?_).bind fun _ =>
    (mirrors_onSession fun session => ?_).bind fun _ => mirrors_onSession fun session => ?_
  · refine (mirrors_ite (mirrors_read fun _ => ?_) (mirrors_pure ())).known
    exact (mirrors_report _).bind fun _ => mirrors_update _
  · refine (mirrors_read fun _ => mirrors_ite ?_ (mirrors_pure ())).known
    exact (mirrors_report _).bind fun _ => mirrors_update _
  · refine ((mirrors_registerReplies session).bind fun outcome => ?_).known
    cases outcome <;> exact mirrors_finish _

theorem Mirrors.checkOffers (h : enter.Mirrors copy) :
    (checkOffers enter who).Mirrors (checkOffers copy who) := by
  refine mirrors_onSession fun session => ?_
  cases session.response with
  | none => exact (mirrors_pure ()).known
  | some held =>
    refine (mirrors_read fun world => mirrors_ite (mirrors_report _) ?_).known
    refine (mirrors_report _).bind fun _ => (mirrors_withTimer _).bind fun _ => ?_
    exact (mirrors_update _).bind fun _ => h

theorem Mirrors.accept (h : enter.Mirrors copy) (session : Session τ) (data : Bytes) :
    (accept around enter who session data).Mirrors
      (accept around.recording copy who session data) := by
  refine mirrors_read fun world => (mirrors_change fun _ => rfl).bind fun _ => ?_
  refine (mirrors_mark rfl).bind fun _ => (mirrors_report _).bind fun _ => ?_
  refine (mirrors_merge _).bind fun _ => ?_
  exact mirrors_ite h.checkOffers (mirrors_acknowledge around who _)

theorem Mirrors.deliverWith (h : enter.Mirrors copy) (data : Bytes) :
    (deliverWith around enter who data).Mirrors (deliverWith around.recording copy who data) := by
  refine mirrors_onSession fun session => Mirrors.known ?_
  refine mirrors_ite (mirrors_pure ()) (mirrors_ite (mirrors_report _) ?_)
  exact mirrors_ite (mirrors_report _) (mirrors_ite (mirrors_report _) (h.accept session data))

end

/-! ## Attempts -/

section

variable {around : Surroundings τ σ} {who : SessionId} {receive : Bytes → Act τ σ Unit}
  {copy : Bytes → Act τ (Recording σ) Unit}

theorem mirrors_buffer (around : Surroundings τ σ) (who : SessionId) (size : Int) :
    (askNetwork (around.link.buffer who size) : Act τ σ _).Mirrors
      (askNetwork (around.recording.link.buffer who size)) := fun _ => rfl

theorem mirrors_buildPacket (session : Session τ) (buffer : Bytes) :
    (buildPacket session buffer : Act τ σ Packet).Mirrors (buildPacket session buffer) := by
  refine mirrors_read fun world => ?_
  dsimp only [World.recorded]
  split
  · exact (mirrors_report _).bind fun _ => mirrors_pure _
  · exact mirrors_throw _

theorem Mirrors.passOn (h : ∀ data, (receive data).Mirrors (copy data)) (arrived : List Bytes) :
    (passOn around receive who arrived).Mirrors (passOn around.recording copy who arrived) := by
  induction arrived with
  | nil => exact mirrors_pure ()
  | cons data rest ih =>
    exact mirrors_read fun _ => mirrors_ite ((h data).bind fun _ => ih) ih

/-- The packet that the history tells of is the packet that is sent. -/
theorem Mirrors.attempt (h : ∀ data, (receive data).Mirrors (copy data)) (session : Session τ) :
    MirrorsFor who (attempt around receive who session)
      (attempt around.recording copy who session) := by
  refine (mirrors_buffer around who _).known.bind (onward_askNetwork _) fun answer => ?_
  refine (mirrors_ofOutcome answer).known.bind (onward_ofOutcome answer) fun buffer => ?_
  refine (mirrors_buildPacket session buffer).known.bind (onward_buildPacket _ _) fun packet => ?_
  refine (mirrors_report _).known.bind (onward_report _) fun _ => ?_
  intro world known
  rw [perform_bind_ok _ (perform_get _), perform_bind_ok _ (perform_get _)]
  refine (mirrorsFor_callLink rfl fun _ => rfl).bind (onward_callLink _ _) (fun answer => ?_) world
    known
  exact ((Mirrors.passOn h answer.1).bind fun _ => mirrors_ofOutcome answer.2).known

variable [TimeScale τ]

theorem Mirrors.transmit (h : ∀ data, (receive data).Mirrors (copy data)) :
    (transmit around receive who).Mirrors (transmit around.recording copy who) := by
  refine mirrors_startTimer.bind fun _ => (mirrors_mark rfl).bind fun _ => ?_
  refine mirrors_onSession fun session => (Mirrors.attempt h session).tryCatch fun fault => ?_
  exact mirrors_ite (mirrors_report _) (mirrors_throw fault)

theorem mirrors_sendWithin (around : Surroundings τ σ) (phases : Nat) (who : SessionId) :
    (sendWithin around phases who).Mirrors (sendWithin around.recording phases who) := by
  induction phases with
  | zero => exact Mirrors.transmit fun _ => mirrors_pure ()
  | succ phases ih => exact Mirrors.transmit ih.deliverWith

theorem mirrors_deliver (around : Surroundings τ σ) (who : SessionId) (data : Bytes) :
    (deliver around who data).Mirrors (deliver around.recording who data) :=
  (mirrors_sendWithin around activePhases who).deliverWith data

theorem mirrors_receive (around : Surroundings τ σ) (who : SessionId) (data : Bytes) :
    (Act.receive around who data).Mirrors (Act.receive around.recording who data) :=
  Mirrors.passOn (mirrors_deliver around who) [data]

end

/-! ## Events -/

section

variable [TimeScale τ]

theorem mirrors_timerExpired (around : Surroundings τ σ) (who : SessionId) (spent : Bool) :
    (timerExpired around who spent).Mirrors (timerExpired around.recording who spent) := by
  refine mirrors_onSession fun session => Mirrors.known ?_
  refine mirrors_ite (mirrors_pure ()) (mirrors_ite (mirrors_finish _) ?_)
  exact mirrors_sendWithin around activePhases who

theorem mirrors_fire (around : Surroundings τ σ) (handle : Handle τ SessionId) :
    (fire around handle).Mirrors (fire around.recording handle) := by
  refine (mirrors_change fun _ => rfl).bind fun _ => mirrors_onSession fun session => ?_
  exact ((mirrors_update _).bind fun _ => mirrors_timerExpired around _ _).known

theorem mirrors_giveUp (around : Surroundings τ σ) (who : SessionId) (cause : SystemError) :
    (giveUp around who cause).Mirrors (giveUp around.recording who cause) :=
  (mirrors_update _).bind fun _ => (mirrors_finish _).bind fun _ => mirrors_throw _

/-- The call that opened a connection is recorded, and the history does not tell of it until the
session has its connection. -/
theorem perform_serve_calling {world : World τ σ} {who : SessionId} {session : Session τ}
    (found : world.session? who = some session) :
    (serve who).perform (world.calling who .opened) =
      (((serve who).perform world).1, ((serve who).perform world).2.recorded) := by
  rw [perform_serve_eq found,
    perform_serve_eq (show (world.calling who .opened).session? who = some session from found)]
  have mirrors : (startTimerNow who >>= fun _ => pure who : Act τ σ SessionId).Mirrors
      (startTimerNow who >>= fun _ => pure who) :=
    (mirrors_withTimer _).bind fun _ => mirrors_pure who
  rw [← mirrors, World.recorded_chronicled rfl]
  rfl

theorem mirrors_start (around : Surroundings τ σ) (profile : Profile τ) (owner : Owner) :
    (Act.start around profile owner).Mirrors (Act.start around.recording profile owner) := by
  intro world
  rcases hopen : around.link.openFor world.sessions.length profile.device world.loop.now
    world.network with ⟨opened, network⟩
  rw [perform_start owner hopen]
  cases opened with
  | error cause =>
    have hcopy : around.recording.link.openFor world.sessions.length profile.device world.loop.now
        world.recorded.network = (.error cause, ⟨network, world.record⟩) := by
      simp only [Surroundings.recording, Link.recording, World.recorded, hopen]
    rw [perform_start owner hcopy]
    exact mirrors_giveUp around _ cause (world.joining profile owner network)
  | ok _ =>
    have hcopy : around.recording.link.openFor world.sessions.length profile.device world.loop.now
        world.recorded.network =
          (.ok (), ⟨network, world.record ++ [(world.sessions.length, .opened)]⟩) := by
      simp only [Surroundings.recording, Link.recording, World.recorded, hopen]
    rw [perform_start owner hcopy]
    exact perform_serve_calling (show (world.joining profile owner network).session? _ = _ from
      world.session?_joined profile owner)

end

end Act

/-! ## Runs -/

/-- The same event over another network. -/
def Event.mapNetwork (change : σ → ρ) : Event τ σ → Event τ ρ
  | .fire handle => .fire handle
  | .receive who data => .receive who data
  | .deliver who data => .deliver who data
  | .expire who spent => .expire who spent
  | .cancel who => .cancel who
  | .start profile owner => .start profile owner
  | .tick instant => .tick instant
  | .stir network => .stir (change network)
  | .edit change => .edit change

theorem Event.mapNetwork_mapNetwork_self {change : σ → ρ} {back : ρ → σ}
    (h : ∀ network, back (change network) = network) (event : Event τ σ) :
    (event.mapNetwork change).mapNetwork back = event := by
  cases event with
  | stir network => exact congrArg Event.stir (h network)
  | _ => rfl

namespace World

variable [TimeScale τ] {around : Surroundings τ σ} {world : World τ σ}

/-- The event is possible, and when the network changes by itself, the record stays. -/
def Honest (world : World τ (Recording σ)) (event : Event τ (Recording σ)) : Prop :=
  world.Possible event ∧ ∀ recorded, event = .stir recorded → recorded.calls = world.network.calls

/-- The events take the start to a world also over a network that keeps a record, and that
world is the given one but for the record. -/
structure Replays (around : Surroundings τ σ) (tree : SettingsTree) (network : σ)
    (events : List (Event τ σ)) (world : World τ σ) (replayed : World τ (Recording σ)) : Prop where
  run : ∃ copies, copies.map (Event.mapNetwork Recording.network) = events ∧
    Run around.recording Honest (start tree ⟨network, []⟩) copies replayed
  same : replayed.unrecorded = world

omit [TimeScale τ] in
theorem Possible.recording {event : Event τ σ} (h : world.Possible event) :
    world.recorded.Honest (event.mapNetwork fun network => ⟨network, world.record⟩) := by
  refine ⟨?_, fun recorded stirs => ?_⟩
  · cases event with
    | fire handle => exact h
    | _ => trivial
  · cases event with
    | stir network =>
      cases stirs
      rfl
    | _ => cases stirs

/-- An event over the network that keeps a record does what it does, and records what the
history tells. -/
theorem after_recording (around : Surroundings τ σ) (world : World τ σ) (event : Event τ σ) :
    world.recorded.after around.recording
        (event.mapNetwork fun network => ⟨network, world.record⟩) =
      (world.after around event).recorded := by
  cases event with
  | fire handle => exact congrArg Prod.snd (Act.mirrors_fire around handle world)
  | receive who data => exact congrArg Prod.snd (Act.mirrors_receive around who data world)
  | deliver who data => exact congrArg Prod.snd (Act.mirrors_deliver around who data world)
  | expire who spent => exact congrArg Prod.snd (Act.mirrors_timerExpired around who spent world)
  | cancel who => exact congrArg Prod.snd ((Act.mirrors_cancelNewest around).cancelWith world)
  | start profile owner => exact congrArg Prod.snd (Act.mirrors_start around profile owner world)
  | tick instant => rfl
  | stir network => rfl
  | edit edit => rfl

/-- Every run can be repeated over a network that keeps a record, and then the record holds the
calls that the history tells of. -/
theorem Run.replays {tree : SettingsTree} {network : σ} {events : List (Event τ σ)}
    (run : Run around Possible (start tree network) events world) :
    Replays around tree network events world world.recorded := by
  suffices h : ∃ copies, copies.map (Event.mapNetwork Recording.network) = events ∧
      Run around.recording Honest (start tree ⟨network, []⟩) copies world.recorded from ⟨h, rfl⟩
  induction run with
  | rest => exact ⟨[], rfl, .rest⟩
  | @step events world prior event possible ih =>
    obtain ⟨copies, rfl, run⟩ := ih
    refine ⟨copies ++ [event.mapNetwork fun network => ⟨network, world.record⟩], ?_, ?_⟩
    · rw [List.map_append, List.map_singleton, Event.mapNetwork_mapNetwork_self fun _ => rfl]
    · rw [← after_recording]
      exact run.step _ possible.recording

omit [TimeScale τ] in
/-- The calls that the history tells of a session. -/
theorem callsOf_recorded (world : World τ σ) (who : SessionId) :
    world.recorded.network.callsOf who =
      (world.episodesOf who).filterMap fun episode => episode.deed.call? := by
  rw [Recording.callsOf, recorded, record, episodesOf, List.filter_filterMap, List.map_filterMap,
    List.filterMap_filter]
  refine List.filterMap_congr fun episode _ => ?_
  cases hcall : episode.deed.call? <;> simp [Episode.call?, hcall, Option.filter, apply_ite]

end World
end NetBoot
