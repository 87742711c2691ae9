/-
# Packets that cannot be built

An attempt of a session arms the timer before anything else, so a packet that cannot be built
has been counted and will be tried again.  If the session reckons with the reason, that is all.
Any other reason is let through, out of the call of the timer or out of the delivery that began
the attempt.

For a client that is configured by its environment this depends on two settings only.  The
vendor class may be any text and the client architecture any integer, and nothing looks at them
before the first packet is built.  If the one is not ASCII, or the other fits no word, no packet
is ever built, and every attempt lets that through.
-/
import NetBoot.Proofs.Request.Environment
import NetBoot.Proofs.Session.Delivery
import NetBoot.Proofs.Session.Steps

namespace NetBoot

variable {τ σ : Type} [TimeScale τ]

/-- The session has made one more attempt: it has counted it, is in the phase that it was in, and
waits for the next call of its timer.  Nobody was told anything, and the settings are as they
were. -/
structure World.Retried (before after : World τ σ) (who : SessionId) (session : Session τ) :
    Prop where
  counted : ∃ timer, after.session? who = some { session with timer } ∧
    timer.attempts = session.timer.attempts + 1 ∧
    ∃ call ∈ after.loop.pending, timer.handle = some call.number ∧ call.owner = who
  tree : after.tree = before.tree
  notices : after.notices = before.notices

/-- A timer that is started asks for a call. -/
theorem RetryTimer.exists_call_start (timer : RetryTimer τ) (loop : EventLoop τ SessionId)
    (who : SessionId) : ∃ call ∈ (timer.start loop who).2.pending,
      (timer.start loop who).1.handle = some call.number ∧ call.owner = who := by
  refine ⟨⟨(timer.disarm loop).2.asked,
    TimeScale.add (timer.disarm loop).2.now timer.timeout, who⟩, ?_, rfl, rfl⟩
  exact List.mem_append_right _ (List.mem_singleton_self _)

namespace Act

variable {around : Surroundings τ σ} {world : World τ σ} {who : SessionId} {session : Session τ}
  {network : σ} {buffer : Bytes} {cause : Request.Error} {receive : Bytes → Act τ σ Unit}
  {handle : Handle τ SessionId}

/-- An attempt begins without the network. -/
theorem exists_begin (found : world.session? who = some session) :
    ∃ begun : World τ σ, begun.Agree (world.attempted who session) ∧
      begun.network = world.network ∧
      ∀ next : Act τ σ Unit, (do startTimer who; mark who .attempted; next : Act τ σ Unit).perform
        world = next.perform begun := by
  have harmed := World.session?_tuned found fun timer loop => timer.start loop who
  let armed := world.tuned who session fun timer loop => timer.start loop who
  let record : Session τ := { session with timer := (session.timer.start world.loop who).1 }
  let event : LogEvent τ := .armed session.timer.timeout (session.timer.attempts + 1)
    session.timer.policy.maxAttempts
  let logged : World τ σ := { armed with log := armed.log ++ [event] }
  have hstart : (startTimer who : Act τ σ Unit).perform world = (.ok (), logged) := by
    rw [startTimer, perform_onSession _ found, perform_bind_ok _ (perform_withTimer _ found)]
    rfl
  have hmark : (mark who .attempted : Act τ σ Unit).perform logged =
      (.ok (), logged.chronicled who .attempted record) := perform_mark .attempted harmed
  refine ⟨logged.chronicled who .attempted record, ⟨rfl, rfl, rfl, rfl, rfl, rfl⟩, rfl, ?_⟩
  intro next
  rw [perform_bind_ok _ hstart, perform_bind_ok _ hmark]

omit [TimeScale τ] in
theorem perform_buildPacket_unbuilt (failed : Request.build session.profile.device
      session.profile.template session.profile.uuid
      (session.offer.map fun block => world.tree.fetchAt block) buffer = .error cause) :
    (buildPacket session buffer : Act τ σ Packet).perform world =
      (.error (.build cause), world) := by
  rw [buildPacket, perform_bind_ok _ (perform_get world)]
  dsimp only
  rw [failed]
  rfl

omit [TimeScale τ] in
/-- Nothing is sent if the packet is not built. -/
theorem perform_attempt_unbuilt
    (given : around.link.buffer who session.profile.bufferLength world.network =
      (.ok buffer, network))
    (failed : Request.build session.profile.device session.profile.template
      session.profile.uuid (session.offer.map fun block => world.tree.fetchAt block) buffer =
        .error cause) :
    (attempt around receive who session).perform world =
      (.error (.build cause), { world with network }) := by
  have hask : (askNetwork (around.link.buffer who session.profile.bufferLength) :
      Act τ σ (Except Fault Bytes)).perform world = (.ok (.ok buffer), { world with network }) := by
    rw [perform_askNetwork, given]
  have hbuffer (after : World τ σ) : (ofOutcome (.ok buffer) : Act τ σ Bytes).perform after =
      (.ok buffer, after) := perform_pure buffer after
  have hbuild : (buildPacket session buffer : Act τ σ Packet).perform { world with network } =
      (.error (.build cause), { world with network }) := perform_buildPacket_unbuilt failed
  rw [attempt, perform_bind_ok _ hask, perform_bind_ok _ (hbuffer _), perform_bind, hbuild]

/-- In a buffer that the network gives, an attempt that builds no packet ends there.  The attempt
is counted, and only a reason that a session reckons with is not let through. -/
theorem exists_transmit_unbuilt (found : world.session? who = some session)
    (given : around.link.buffer who session.profile.bufferLength world.network =
      (.ok buffer, network))
    (failed : Request.build session.profile.device session.profile.template
      session.profile.uuid (session.offer.map fun block => world.tree.fetchAt block) buffer =
        .error cause) :
    ∃ after, (transmit around receive who).perform world =
        (if cause.isExpected then .ok () else .error (.build cause), after) ∧
      after.Agree (world.attempted who session) := by
  obtain ⟨begun, agree, hnetwork, hbegin⟩ := exists_begin found
  let record : Session τ := { session with timer := (session.timer.start world.loop who).1 }
  have hrecord : begun.session? who = some record :=
    (agree.session? who).trans (World.session?_attempted found)
  have htree : begun.tree = world.tree := agree.tree
  have hattempt : (attempt around receive who record).perform begun =
      (.error (.build cause), { begun with network }) :=
    perform_attempt_unbuilt (hnetwork ▸ given) (htree ▸ failed)
  have hafter (log : List (LogEvent τ)) :
      ({ begun with network, log } : World τ σ).Agree (world.attempted who session) :=
    ⟨agree.sessions, agree.loop, agree.tree, agree.replacements, agree.notices, agree.history⟩
  rw [transmit, hbegin, perform_onSession _ hrecord, perform_tryCatch, hattempt]
  dsimp only
  rw [show (Fault.build cause).isLoss = cause.isExpected from rfl]
  cases cause.isExpected with
  | false => exact ⟨_, rfl, hafter _⟩
  | true => exact ⟨_, perform_report _ _, hafter _⟩

/-- A call of the timer lets nothing else through than its attempt. -/
theorem confined_fire (around : Surroundings τ σ) (who : SessionId) (permitted : Fault → Prop)
    (handle : Handle τ SessionId) (owner : handle.owner = who) :
    Confined (World.Served around who permitted) permitted (fire around handle) := by
  subst owner
  exact (sendsLast_fire handle).confined (World.lasting_served around handle.owner permitted)
    (confined_sendWithin around activePhases handle.owner permitted)

/-- A call of the timer comes while attempts are left. -/
theorem perform_fire_of_active
    (found : world.session? handle.owner = some session) (active : session.finished = false)
    (left : session.timer.spent = false) :
    (fire around handle).perform world =
      (sendRequest around handle.owner).perform (world.fired handle session) := by
  have htaken : ({ world with loop := world.loop.take handle } : World τ σ).session?
      handle.owner = some session := found
  have hfired := World.session?_fired found
  rw [fire, perform_bind_ok _ (perform_modify _ world), perform_onSession _ htaken,
    perform_bind_ok _ (perform_update _ htaken), timerExpired]
  refine (perform_onSession _ hfired).trans ?_
  have hactive : Session.finished { session with timer := session.timer.fired } = false := active
  simp only [hactive, left, Bool.false_eq_true, if_false]

/-- A call of the timer comes while attempts are left, and no packet can be built. -/
theorem exists_fire_unbuilt
    (found : world.session? handle.owner = some session) (active : session.finished = false)
    (left : session.timer.spent = false)
    (given : (around.link.buffer handle.owner session.profile.bufferLength world.network).1 =
      .ok buffer)
    (failed : Request.build session.profile.device session.profile.template
      session.profile.uuid (session.offer.map fun block => world.tree.fetchAt block) buffer =
        .error cause) :
    ∃ after, (fire around handle).perform world =
        (if cause.isExpected then .ok () else .error (.build cause), after) ∧
      world.Retried after handle.owner session := by
  obtain ⟨after, hafter, agree⟩ : ∃ after,
      (sendRequest around handle.owner).perform (world.fired handle session) =
          (if cause.isExpected then .ok () else .error (.build cause), after) ∧
        after.Agree ((world.fired handle session).attempted handle.owner
          { session with timer := session.timer.fired }) :=
    exists_transmit_unbuilt (World.session?_fired found) (Prod.ext given rfl) failed
  refine ⟨after, (perform_fire_of_active found active left).trans hafter, ?_, agree.tree,
    agree.notices⟩
  obtain ⟨call, mem, hnumber, howner⟩ := RetryTimer.exists_call_start session.timer.fired
    (world.loop.take handle) handle.owner
  refine ⟨_, (agree.session? _).trans (World.session?_attempted (World.session?_fired found)),
    rfl, call, ?_, hnumber, howner⟩
  rw [agree.loop]
  exact mem

end Act

/-! ## Clients that the environment configures -/

/-- The devices that a client knows can be named in a packet. -/
theorem Device.encodable_of_known {device : Device} (protocol : device.protocol ∈ LinkProtocol.all)
    (bus : 0 ≤ device.hardware.bus ∧ device.hardware.bus < 256)
    (vendor : 0 ≤ device.hardware.vendor ∧ device.hardware.vendor < 65536)
    (product : 0 ≤ device.hardware.product ∧ device.hardware.product < 65536) :
    device.Encodable := by
  have numbers : ∀ known ∈ LinkProtocol.all, 0 ≤ known.number ∧ known.number < 256 := by decide
  exact ⟨numbers device.protocol protocol, bus, vendor, product⟩

omit [TimeScale τ] in
/-- The connection of a configured session serves it, but for what stands in the way of all its
packets. -/
theorem Link.serves_configured {link : Link τ σ} {who : SessionId} {profile : Profile τ}
    (configured : profile.template.Configured) (encodable : profile.device.Encodable)
    (loses : link.LosesOnly who profile.bufferLength)
    (small : ∀ network buffer, (link.buffer who profile.bufferLength network).1 = .ok buffer →
      buffer.length < Bytes.memoryLimit) :
    link.Serves who (fun fault => ¬profile.template.Writable ∧
      fault = .build profile.template.obstacle) profile := by
  refine ⟨loses, fun network buffer offer cause given failed unexpected => ?_⟩
  by_cases writable : profile.template.Writable
  · rcases Request.reckoned_build configured writable encodable (small network buffer given)
        profile.uuid offer with ⟨packet, built, -⟩ | ⟨reason, reckoned, expected⟩
    · rw [failed] at built
      cases built
    · obtain rfl := Except.error.inj (reckoned.symm.trans failed)
      exact absurd (expected.symm.trans unexpected) (by decide)
  · have hbuild := Request.build_of_not_writable configured writable profile.device profile.uuid
      offer buffer
    exact ⟨writable, congrArg Fault.build (Except.error.inj (failed.symm.trans hbuild))⟩

/-- A configuration was read from the environment, and a session of a known device is about it.
Its connection fails only by outages and gives buffers that fit into memory.

If the vendor class is ASCII and the architecture fits into a word, then in any such buffer, and
for any offer, a packet is built or the build fails as a client reckons with, and neither a call
of the timer nor a delivery lets anything through.  Otherwise no packet is ever built, for a
reason that no client reckons with, and this is all that is ever let through.

In both cases an attempt whose packet is not built has been counted and will be made again when
the timer calls next; but a reason that the session does not reckon with comes out of the call. -/
theorem Config.faults_of_environment {environment : Environment} {config : Config}
    {device : Device} {around : Surroundings τ σ} {world : World τ σ} {who : SessionId}
    {session : Session τ} (read : Config.ofEnvironment environment = .ok config)
    (protocol : device.protocol ∈ LinkProtocol.all)
    (bus : 0 ≤ device.hardware.bus ∧ device.hardware.bus < 256)
    (vendor : 0 ≤ device.hardware.vendor ∧ device.hardware.vendor < 65536)
    (product : 0 ≤ device.hardware.product ∧ device.hardware.product < 65536)
    (found : world.session? who = some session) (named : session.profile.device = device)
    (configured : session.profile.template = config.template)
    (loses : around.link.LosesOnly who session.profile.bufferLength)
    (small : ∀ network buffer,
      (around.link.buffer who session.profile.bufferLength network).1 = .ok buffer →
      buffer.length < Bytes.memoryLimit) :
    (config.template.Writable →
      (∀ uuid offer (buffer : Bytes), buffer.length < Bytes.memoryLimit →
        (∃ packet, Request.build device config.template uuid offer buffer = .ok packet) ∨
          ∃ cause, Request.build device config.template uuid offer buffer = .error cause ∧
            cause.isExpected = true) ∧
      (∀ data, ∃ after, (Act.deliver around who data).perform world = (.ok (), after)) ∧
      ∀ handle : Handle τ SessionId, handle.owner = who →
        ∃ after, (Act.fire around handle).perform world = (.ok (), after)) ∧
    (¬config.template.Writable → ∃ cause : Request.Error,
      (cause = .notAscii ∨ cause = .wordRange) ∧ cause.isExpected = false ∧
      (∀ uuid offer buffer,
        Request.build device config.template uuid offer buffer = .error cause) ∧
      (∀ data fault, ((Act.deliver around who data).perform world).1 = .error fault →
        fault = .build cause) ∧
      ∀ (handle : Handle τ SessionId) (fault : Fault), handle.owner = who →
        ((Act.fire around handle).perform world).1 = .error fault → fault = .build cause) ∧
    ∀ (handle : Handle τ SessionId) (buffer : Bytes) (cause : Request.Error),
      handle.owner = who → session.finished = false → session.timer.spent = false →
      (around.link.buffer who session.profile.bufferLength world.network).1 = .ok buffer →
      Request.build device config.template session.profile.uuid
        (session.offer.map fun block => world.tree.fetchAt block) buffer = .error cause →
      ∃ after, (Act.fire around handle).perform world =
          (if cause.isExpected then .ok () else .error (.build cause), after) ∧
        world.Retried after who session := by
  have usual := Config.configured_of_environment read
  have encodable := Device.encodable_of_known protocol bus vendor product
  subst named
  rw [← configured] at usual ⊢
  let permitted : Fault → Prop := fun fault =>
    ¬session.profile.template.Writable ∧ fault = .build session.profile.template.obstacle
  have served : world.Served around who permitted := by
    intro known hknown
    obtain rfl := Option.some.inj (found.symm.trans hknown)
    exact Link.serves_configured usual encodable loses small
  have delivers := Act.confined_deliver around who permitted
  have fires := Act.confined_fire around who permitted
  refine ⟨fun writable =>
      ⟨fun uuid offer buffer fits => ?_, fun data => ?_, fun handle owner => ?_⟩,
    fun unwritable => ⟨session.profile.template.obstacle, ?_, ?_, fun uuid offer buffer => ?_,
      fun data fault hfault => ?_, fun handle fault owner hfault => ?_⟩,
    fun handle buffer cause owner active left given failed => ?_⟩
  · rcases Request.reckoned_build usual writable encodable fits uuid offer with
      ⟨packet, built, -⟩ | refused
    · exact .inl ⟨packet, built⟩
    · exact .inr refused
  · obtain ⟨_, ended⟩ := ((delivers data).mono fun _ fault => fault.1 writable).exists_ok served
    exact ended
  · obtain ⟨_, ended⟩ :=
      ((fires handle owner).mono fun _ fault => fault.1 writable).exists_ok served
    exact ended
  · rw [RequestTemplate.obstacle]
    split
    · exact .inr rfl
    · exact .inl rfl
  · rw [RequestTemplate.obstacle]
    split <;> rfl
  · exact Request.build_of_not_writable usual unwritable _ uuid offer buffer
  · exact (delivers data world served fault hfault).2
  · exact (fires handle owner world served fault hfault).2
  · subst owner
    exact Act.exists_fire_unbuilt found active left given failed

/-- A scripted network gives no buffer that no memory holds. -/
theorem Script.length_lt_of_buffer {who : SessionId} {size : Int} {script : Script}
    {buffer : Bytes} (given : (Script.around.link.buffer who size script).1 = .ok buffer) :
    buffer.length < Bytes.memoryLimit := by
  change (Script.buffer size script).1 = _ at given
  rw [Script.buffer] at given
  split at given
  · cases given
  · change (Bytes.ofSize size).mapError _ = _ at given
    rw [Bytes.ofSize] at given
    split at given
    · cases given
    split at given
    · cases given
    split at given
    · cases given
    · obtain rfl := Except.ok.inj given
      rw [Bytes.length_zeros]
      omega

/-- The environment names an architecture beyond all words.  The first call of the timer counts an
attempt and asks for the next call, but the fault comes out of it. -/
theorem architecture_beyond_words_comes_out :
    ∃ (config : Config) (world after : World Int Script) (session : Session Int),
      Config.ofEnvironment [("PXEDHCP_VENDOR_CLASS", "PXEClient"),
        ("PXEDHCP_CLIENT_ARCH", "70000")] = .ok config ∧
      World.Run Script.around World.Possible (World.start .empty {})
        [.start { Profile.plain 7 0 with template := config.template } .watching] world ∧
      world.session? 0 = some session ∧
      (Act.fire Script.around ⟨0, 0, 0⟩).perform world = (.error (.build .wordRange), after) ∧
      world.Retried after 0 session := by
  have reads : Text.integer? "70000" = some 70000 := by decide +kernel
  obtain ⟨config, read, htemplate⟩ := Config.exists_of_texts "PXEClient" reads
  let template : RequestTemplate := { vendorClass := "PXEClient", clientArchitecture := 70000 }
  have hconfig : config.template = template := htemplate
  let profile : Profile Int := { Profile.plain 7 0 with template }
  let world := (World.start .empty {}).afterAll Script.around [.start profile .watching]
  have run : World.Run Script.around World.Possible (World.start .empty {}) _ world :=
    .of_feasible (by decide +kernel)
  let buffer := Bytes.zeros 552
  have habout : (world.session? 0).map (fun session => (session.profile.device,
      session.profile.template, session.profile.bufferLength)) =
      some (profile.device, template, 552) := by
    decide +kernel
  have hstate : (world.session? 0).map (fun session => (session.profile.uuid.isNone,
      session.offer.isNone, session.finished, session.timer.spent)) =
      some (true, true, false, false) := by
    decide +kernel
  have given : (Script.around.link.buffer 0 552 world.network).1 = .ok buffer := by
    decide +kernel
  clear_value world
  obtain ⟨session, found, hsame⟩ := Option.map_eq_some_iff.mp habout
  rw [found, Option.map_some, Option.some_inj] at hstate
  simp only [Prod.mk.injEq] at hsame hstate
  obtain ⟨device, about, size⟩ := hsame
  obtain ⟨uuid, offer, active, left⟩ := hstate
  obtain ⟨-, -, hretried⟩ := Config.faults_of_environment read (by decide) (by decide)
    (by decide) (by decide) found device (about.trans hconfig.symm)
    (size ▸ Script.losesOnly 0) fun _ _ => Script.length_lt_of_buffer
  have failed : Request.build profile.device template none none buffer = .error .wordRange := by
    decide +kernel
  obtain ⟨after, hafter, retried⟩ := hretried ⟨0, 0, 0⟩ buffer .wordRange rfl active left
    (size ▸ given) (by
      rw [hconfig, Option.isNone_iff_eq_none.mp uuid, Option.isNone_iff_eq_none.mp offer]
      exact failed)
  exact ⟨config, world, after, session, read, hconfig ▸ run, found, hafter, retried⟩

end NetBoot
