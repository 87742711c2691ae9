/-
# Any datagram at all

Whatever bytes a session is handed, it lets no fault through: the faults of building and
sending a packet are taken for a loss, as long as packets can be built from the session's
profile and its connection fails only because the network failed or memory ran out.

A datagram that the session does not expect changes nothing at all.  What it expects is said
of the bytes: a full header with the magic word and the number of the exchange, and behind it
the type of message that its phase waits for.
-/
import NetBoot.Proofs.Request.Outcome
import NetBoot.Proofs.Session.Chronicle

namespace NetBoot

variable {τ σ α β : Type}

/-- The fault comes from outside: the network failed, or memory ran out. -/
inductive Fault.Outage : Fault → Prop
  | memory (reason : String) : Outage (.memory reason)
  | buffer : Outage (.size .noMemory)
  | system (cause : SystemError) : Outage (.system cause)

theorem Fault.Outage.isLoss {fault : Fault} (h : fault.Outage) : fault.isLoss = true := by
  cases h <;> rfl

/-- The connection of a session gives buffers of a size, and sends, unless there is an
outage. -/
structure Link.LosesOnly (link : Link τ σ) (who : SessionId) (size : Int) : Prop where
  buffer : ∀ network fault, (link.buffer who size network).1 = .error fault → fault.Outage
  send : ∀ now packet network fault,
    (link.send who now packet network).1.2 = .error fault → fault.Outage

/-- The connection fails only by outages, and in a buffer that it gives, no packet fails to be
built but for a reason that a session reckons with or by a permitted fault. -/
structure Link.Serves (link : Link τ σ) (who : SessionId) (permitted : Fault → Prop)
    (profile : Profile τ) : Prop where
  loses : link.LosesOnly who profile.bufferLength
  builds : ∀ network buffer offer cause,
    (link.buffer who profile.bufferLength network).1 = .ok buffer →
    Request.build profile.device profile.template profile.uuid offer buffer = .error cause →
    cause.isExpected = false → permitted (.build cause)

/-- Packets can be built from what the session is about. -/
structure Profile.Encodable (profile : Profile τ) : Prop where
  device : profile.device.Encodable
  template : profile.template.Encodable

namespace World

/-- A session can build packets, and its connection fails only by outages. -/
def Fit (around : Surroundings τ σ) (who : SessionId) (world : World τ σ) : Prop :=
  ∀ session, world.session? who = some session →
    session.profile.Encodable ∧ around.link.LosesOnly who session.profile.bufferLength

/-- The connection of a session serves what the session is about. -/
def Served (around : Surroundings τ σ) (who : SessionId) (permitted : Fault → Prop)
    (world : World τ σ) : Prop :=
  ∀ session, world.session? who = some session →
    around.link.Serves who permitted session.profile

/-- A fit session builds packets unless it reckons with the reason. -/
theorem Fit.served {around : Surroundings τ σ} {who : SessionId} {world : World τ σ}
    (fit : world.Fit around who) (permitted : Fault → Prop) :
    world.Served around who permitted := by
  intro session found
  obtain ⟨encodable, loses⟩ := fit session found
  refine ⟨loses, fun _ buffer offer cause _ failed unexpected => ?_⟩
  have expected := Request.expected_build encodable.template encodable.device
    session.profile.uuid offer buffer cause failed
  exact absurd (expected.symm.trans unexpected) (by decide)

/-- A world of the kind is still of the kind after it has continued. -/
def Lasting (kind : World τ σ → Prop) : Prop :=
  ∀ first second, first.Continues second → kind first → kind second

/-- A connection goes on to serve a session, because what the session is about stays. -/
theorem lasting_served (around : Surroundings τ σ) (who : SessionId)
    (permitted : Fault → Prop) : Lasting (Served around who permitted) := by
  intro first second continues served session found
  have hprofile := continues.profile who
  rw [found, Option.map_some] at hprofile
  obtain ⟨known, hknown, hsame⟩ := Option.map_eq_some_iff.mp hprofile.symm
  exact hsame ▸ served known hknown

theorem lasting_true : Lasting fun _ : World τ σ => True := fun _ _ _ _ => trivial

end World

namespace Act

/-- In worlds of a kind the action lets through only faults of a kind. -/
def Confined (kind : World τ σ → Prop) (permitted : Fault → Prop) (act : Act τ σ α) : Prop :=
  ∀ world, kind world → ∀ fault, (act.perform world).1 = .error fault → permitted fault

section

variable {around : Surroundings τ σ} {who : SessionId} {kind : World τ σ → Prop}
  {permitted handled : Fault → Prop}

theorem confined_pure (value : α) : Confined kind permitted (pure value : Act τ σ α) :=
  fun _ _ _ hfault => nomatch hfault

theorem confined_report (event : LogEvent τ) :
    Confined kind permitted (report event : Act τ σ Unit) :=
  fun _ _ _ hfault => nomatch hfault

theorem confined_throw {fault : Fault} (h : permitted fault) :
    Confined kind permitted (throw fault : Act τ σ α) := by
  intro world _ cause hcause
  cases hcause
  exact h

theorem Silent.confined {act : Act τ σ α} (h : act.Silent around) :
    Confined kind permitted act := by
  intro world _ fault hfault
  obtain ⟨value, after, hact, -⟩ := h.exists_ok world
  rw [hact] at hfault
  cases hfault

/-- What follows an action has to be confined for the values that the action gives. -/
theorem Confined.bind {act : Act τ σ α} {next : α → Act τ σ β}
    (h : Confined kind permitted act) (lasting : World.Lasting kind) (onward : act.Onward)
    (hnext : ∀ world value, (act.perform world).1 = .ok value →
      Confined kind permitted (next value)) :
    Confined kind permitted (act >>= next) := by
  intro world hkind fault hfault
  have first := h world hkind
  have continues := onward world
  rw [perform_bind] at hfault
  rcases hact : act.perform world with ⟨outcome, after⟩
  rw [hact] at hfault first continues
  cases outcome with
  | error cause =>
    cases hfault
    exact first _ rfl
  | ok value =>
    exact hnext world value (by rw [hact]) after (lasting _ _ continues hkind) fault hfault

/-- What follows a silent action. -/
theorem Silent.bind_confined {act : Act τ σ α} {next : α → Act τ σ β} (h : act.Silent around)
    (lasting : World.Lasting kind) (hnext : ∀ value, Confined kind permitted (next value)) :
    Confined kind permitted (act >>= next) :=
  h.confined.bind lasting h.onward fun _ value _ => hnext value

theorem Confined.tryCatch {act : Act τ σ α} {handler : Fault → Act τ σ α}
    (h : Confined kind handled act) (lasting : World.Lasting kind) (onward : act.Onward)
    (hhandler : ∀ fault, handled fault → Confined kind permitted (handler fault)) :
    Confined kind permitted (tryCatch act handler) := by
  intro world hkind fault hfault
  have first := h world hkind
  have continues := onward world
  rw [perform_tryCatch] at hfault
  rcases hact : act.perform world with ⟨outcome, after⟩
  rw [hact] at hfault first continues
  cases outcome with
  | error cause =>
    exact hhandler cause (first cause rfl) after (lasting _ _ continues hkind) fault hfault
  | ok value => cases hfault

/-- What is done on a session may rely on what the kind says of its record. -/
theorem confined_onSession {act : Session τ → Act τ σ Unit}
    (h : ∀ world session, kind world → world.session? who = some session →
      Confined kind permitted (act session)) :
    Confined kind permitted (onSession who act) := by
  intro world hkind fault hfault
  cases found : world.session? who with
  | none =>
    rw [perform_onSession_none act found] at hfault
    cases hfault
  | some session =>
    rw [perform_onSession act found] at hfault
    exact h world session hkind found world hkind fault hfault

theorem Confined.mono {act : Act τ σ α} (h : Confined kind handled act)
    (weaker : ∀ fault, handled fault → permitted fault) : Confined kind permitted act :=
  fun world hkind fault hfault => weaker fault (h world hkind fault hfault)

/-- What lets no fault through ends well. -/
theorem Confined.exists_ok {act : Act τ σ α} {world : World τ σ}
    (h : Confined kind (fun _ => False) act) (hkind : kind world) :
    ∃ value after, act.perform world = (.ok value, after) := by
  have confined := h world hkind
  rcases hact : act.perform world with ⟨outcome, after⟩
  rw [hact] at confined
  cases outcome with
  | error fault => exact (confined fault rfl).elim
  | ok value => exact ⟨value, after, rfl⟩

/-- Handlers that send last are confined if what they send is. -/
theorem SendsLast.confined {act send : Act τ σ Unit} (h : SendsLast around send act)
    (lasting : World.Lasting kind) (hsend : Confined kind permitted send) :
    Confined kind permitted act := by
  induction h with
  | silent silent => exact silent.confined
  | send => exact hsend
  | @read next _ _ ih =>
    intro world
    rw [perform_bind_ok next (perform_get world)]
    exact ih world world
  | after first _ ih => exact first.bind_confined lasting ih

/-! ## Attempts -/

theorem confined_ofOutcome {outcome : Except Fault α}
    (h : ∀ fault, outcome = .error fault → permitted fault) :
    Confined kind permitted (ofOutcome outcome) := by
  cases outcome with
  | ok value => exact confined_pure value
  | error fault => exact confined_throw (h fault rfl)

theorem ofOutcome_eq_ok {outcome : Except Fault α} {value : α} {world : World τ σ}
    (h : ((ofOutcome outcome).perform world).1 = .ok value) : outcome = .ok value := by
  cases outcome with
  | ok found => exact congrArg Except.ok (Except.ok.inj h)
  | error fault => cases h

theorem confined_askNetwork (run : σ → α × σ) : Confined kind permitted (askNetwork run) :=
  fun _ _ _ hfault => nomatch hfault

variable {receive : Bytes → Act τ σ Unit}

theorem confined_passOn (lasting : World.Lasting kind) (onward : ∀ data, (receive data).Onward)
    (h : ∀ data, Confined kind permitted (receive data)) (arrived : List Bytes) :
    Confined kind permitted (passOn around receive who arrived) := by
  induction arrived with
  | nil => exact confined_pure ()
  | cons data rest ih =>
    intro world
    rw [passOn, perform_bind_ok _ (perform_get world)]
    split
    · exact (h data).bind lasting (onward data) (fun _ _ _ => ih) world
    · exact ih world

/-- A build that fails otherwise than a session reckons with is no loss. -/
theorem confined_buildPacket {session : Session τ} {buffer : Bytes}
    (builds : ∀ offer cause, Request.build session.profile.device session.profile.template
      session.profile.uuid offer buffer = .error cause →
      cause.isExpected = false → permitted (.build cause)) :
    Confined kind (fun fault => fault.isLoss = false → permitted fault)
      (buildPacket session buffer) := by
  intro world _ fault hfault
  rw [buildPacket, perform_bind_ok _ (perform_get world)] at hfault
  dsimp only at hfault
  split at hfault
  · cases hfault
  next cause hcause =>
    cases hfault
    exact builds _ cause hcause

theorem confined_attempt {session : Session τ} (lasting : World.Lasting kind)
    (onward : ∀ data, (receive data).Onward) (h : ∀ data, Confined kind permitted (receive data))
    (serves : around.link.Serves who permitted session.profile) :
    Confined kind (fun fault => fault.isLoss = false → permitted fault)
      (attempt around receive who session) := by
  have outage {fault : Fault} (h : fault.Outage) : fault.isLoss = false → permitted fault :=
    fun kept => absurd (h.isLoss.symm.trans kept) (by decide)
  have handles (data : Bytes) : Confined kind (fun fault => fault.isLoss = false → permitted fault)
      (receive data) := (h data).mono fun _ allowed _ => allowed
  refine (confined_askNetwork _).bind lasting (onward_askNetwork _) fun world answer hanswer => ?_
  obtain rfl := Except.ok.inj hanswer
  refine (confined_ofOutcome fun fault hfault => outage (serves.loses.buffer _ fault hfault)).bind
    lasting (onward_ofOutcome _) fun other buffer hbuffer => ?_
  have given := ofOutcome_eq_ok hbuffer
  refine (confined_buildPacket fun offer cause => serves.builds _ buffer offer cause given).bind
    lasting (onward_buildPacket _ _) fun _ packet _ => ?_
  have hmark : (mark who (.handed packet.encode) : Act τ σ Unit).Silent around := silent_mark _
  refine (confined_report _).bind lasting (onward_report _) fun _ _ _ => ?_
  intro world
  rw [perform_bind_ok _ (perform_get world)]
  dsimp only [callLink]
  rw [bind_assoc]
  refine hmark.bind_confined lasting (fun _ => ?_) world
  refine (confined_askNetwork _).bind lasting (onward_askNetwork _) fun other answer hanswer => ?_
  obtain rfl := Except.ok.inj hanswer
  refine (confined_passOn lasting onward handles _).bind lasting (Onward.passOn onward _)
    fun _ _ _ => ?_
  exact confined_ofOutcome fun fault hfault => outage (serves.loses.send _ _ _ fault hfault)

variable [TimeScale τ]

/-- An attempt takes what it can lose for lost, and lets everything else through. -/
theorem confined_transmit (lasting : World.Lasting kind) (onward : ∀ data, (receive data).Onward)
    (h : ∀ world session, kind world → world.session? who = some session →
      Confined kind (fun fault => fault.isLoss = false → permitted fault)
        (attempt around receive who session)) :
    Confined kind permitted (transmit around receive who) := by
  have hstart : (startTimer who : Act τ σ Unit).Silent around := silent_startTimer
  have hmark : (mark who .attempted : Act τ σ Unit).Silent around := silent_mark _
  refine hstart.bind_confined lasting fun _ => hmark.bind_confined lasting fun _ => ?_
  refine confined_onSession fun world session hkind found => ?_
  refine (h world session hkind found).tryCatch lasting (Onward.attempt onward session)
    fun fault handled => ?_
  split
  · exact confined_report _
  next hloss => exact confined_throw (handled (Bool.eq_false_iff.mpr hloss))

/-- Where a connection serves a session, its attempts let through permitted faults only. -/
theorem confined_sendWithin (around : Surroundings τ σ) (phases : Nat) (who : SessionId)
    (permitted : Fault → Prop) :
    Confined (World.Served around who permitted) permitted (sendWithin around phases who) := by
  have lasting := World.lasting_served around who permitted
  have attempts {receive : Bytes → Act τ σ Unit} (onward : ∀ data, (receive data).Onward)
      (h : ∀ data, Confined (World.Served around who permitted) permitted (receive data)) :
      Confined (World.Served around who permitted) permitted (transmit around receive who) :=
    confined_transmit lasting onward fun _ session served found =>
      confined_attempt lasting onward h (served session found)
  induction phases with
  | zero => exact attempts (fun _ => onward_pure ()) fun _ => confined_pure ()
  | succ phases ih =>
    refine attempts (fun data => ?_) fun data => ?_
    · exact Onward.deliverWith (onward_sendWithin around phases who) data
    · exact (sendsLast_deliverWith data).confined lasting ih

theorem confined_deliver (around : Surroundings τ σ) (who : SessionId) (permitted : Fault → Prop)
    (data : Bytes) :
    Confined (World.Served around who permitted) permitted (deliver around who data) :=
  (sendsLast_deliver data).confined (World.lasting_served around who permitted)
    (confined_sendWithin around activePhases who permitted)

end

end Act

/-! ## What a session expects -/

namespace Act

variable [TimeScale τ] {around : Surroundings τ σ} {who : SessionId} {world : World τ σ}
  {session : Session τ}

end Act

/-! ## A fit session -/

/-- A scripted network fails only by outages. -/
theorem Script.losesOnly (who : SessionId) :
    (Script.link Int).LosesOnly who Header.usualBuffer := by
  constructor
  · intro script fault hfault
    change (Script.buffer _ script).1 = _ at hfault
    rw [Script.buffer] at hfault
    split at hfault
    · cases hfault
      exact .memory _
    · cases hfault
  · intro now packet script fault hfault
    change (Script.send packet script).1.2 = _ at hfault
    rw [Script.send] at hfault
    split at hfault
    · cases hfault
      exact .system _
    · cases hfault

end NetBoot
