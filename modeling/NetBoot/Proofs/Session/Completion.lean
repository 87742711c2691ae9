/-
# How sessions succeed

Any number of sessions share a settings tree that was built by creating, registering,
replacing and unregistering blocks.  The blocks that active sessions hold are their own:
no two sessions hold the same one, and none of them is registered.  So registering the
replies of a session never fails, whatever the other sessions registered before.

A session succeeds only with an acknowledgement that offers an address.  At that moment
it holds the block of just that datagram, which is the only child of its name below the
device, and its proxy reply, if it holds one, is the only one below the root.
-/
import NetBoot.Proofs.Session.Ending

namespace NetBoot

variable {τ σ : Type}

/-- The reply blocks that a session holds. -/
def Session.held (session : Session τ) : List BlockId :=
  session.response.toList ++ session.proxy.toList

/-- A datagram is an acknowledgement for an exchange that offers an address. -/
structure Acknowledges (data : Bytes) (xid : Nat) : Prop where
  length : Header.length ≤ data.length
  magic : Header.readWord? data .magic = some Header.cookie
  xid : Header.readWord? data .xid = some xid
  kind : (Packet.ofBytes data).messageType = MessageType.ack.number
  address : Header.addressBytes data .your ≠ [0, 0, 0, 0]

/-- A requesting session that waits for a datagram of an ordinary server waits for an
acknowledgement. -/
theorem Session.Awaits.acknowledges {session : Session τ} {data : Bytes}
    (awaits : session.Awaits data) (requesting : session.phase ≠ .discovering)
    (ordinary : (Packet.ofBytes data).isProxyReply = false) :
    session.phase = .requesting ∧ Acknowledges data session.xid := by
  have hphase : session.phase = .requesting := by
    have active := awaits.active
    cases hphase : session.phase with
    | discovering => exact absurd hphase requesting
    | requesting => rfl
    | succeeded => simp [Session.finished, hphase, Phase.terminal] at active
    | failed => simp [Session.finished, hphase, Phase.terminal] at active
  obtain ⟨length, magic⟩ := awaits.header
  refine ⟨hphase, length, magic, awaits.readWord?_xid, ?_, ?_⟩
  · rw [awaits.kind, hphase]
    rfl
  · intro haddress
    have hfetch : (Packet.ofBytes data).fetch Tag.yourAddress =
        some (Header.addressBytes data .your) := rfl
    rw [Packet.isProxyReply, hfetch, haddress] at ordinary
    exact absurd ordinary (by decide)

namespace World

/-- A block that can be a session's own: it exists, it is not registered, and no other
active session holds it. -/
structure Free (world : World τ σ) (who : SessionId) (block : BlockId) : Prop where
  known : block < world.tree.blocks.length
  orphan : world.tree.parentOf block = none
  apart : ∀ other session, other ≠ who → world.session? other = some session →
    session.finished = false → block ∉ session.held

/-- The settings tree is coherent, the settings blocks of all devices exist, and active
sessions hold blocks of their own. -/
structure Sound (world : World τ σ) : Prop where
  coherent : world.tree.Coherent
  root : SettingsTree.root < world.tree.blocks.length
  devices : ∀ {who session}, world.session? who = some session →
    session.profile.block < world.tree.blocks.length
  nodup : ∀ {who session}, world.session? who = some session → session.finished = false →
    session.held.Nodup
  free : ∀ {who session}, world.session? who = some session → session.finished = false →
    ∀ block ∈ session.held, world.Free who block

section

variable {world after : World τ σ} {who : SessionId} {session next : Session τ}
  {deeds : List (Episode τ)} {outcomes : List (Option Failure)}

/-- A session gets another record, with blocks of its own. -/
theorem Sound.acts (h : world.Sound) (acts : world.Acts after who next deeds outcomes)
    (tree : after.tree = world.tree)
    (device : next.profile.block < world.tree.blocks.length)
    (nodup : next.finished = false → next.held.Nodup)
    (free : next.finished = false → ∀ block ∈ next.held, world.Free who block) :
    after.Sound := by
  refine ⟨tree ▸ h.coherent, tree ▸ h.root, fun {other} session found => ?_,
    fun {other} session found active => ?_, fun {other} session found active block mem => ?_⟩
  · rw [tree]
    by_cases hother : other = who
    · subst hother
      rw [acts.session, Option.some_inj] at found
      exact found ▸ device
    · rw [acts.others other hother] at found
      exact h.devices found
  · by_cases hother : other = who
    · subst hother
      rw [acts.session, Option.some_inj] at found
      subst found
      exact nodup active
    · rw [acts.others other hother] at found
      exact h.nodup found active
  · by_cases hother : other = who
    · subst hother
      rw [acts.session, Option.some_inj] at found
      subst found
      have hfree := free active block mem
      refine ⟨tree ▸ hfree.known, tree ▸ hfree.orphan, fun rival session hrival => ?_⟩
      rw [acts.others rival hrival]
      exact hfree.apart rival session hrival
    · rw [acts.others other hother] at found
      have hfree := h.free found active block mem
      refine ⟨tree ▸ hfree.known, tree ▸ hfree.orphan, ?_⟩
      intro rival session' hrival hfound hactive
      by_cases hwho : rival = who
      · subst hwho
        rw [acts.session, Option.some_inj] at hfound
        subst hfound
        exact fun mem' => (free hactive block mem').apart other session hother found active mem
      · rw [acts.others rival hwho] at hfound
        exact hfree.apart rival session' hrival hfound hactive

/-- A session that is active before and after holds the blocks that it held. -/
theorem Sound.keeps (h : world.Sound) (acts : world.Acts after who next deeds outcomes)
    (tree : after.tree = world.tree) (found : world.session? who = some session)
    (active : session.finished = false) (profile : next.profile = session.profile)
    (held : next.held = session.held) : after.Sound :=
  h.acts acts tree (profile ▸ h.devices found) (fun _ => held ▸ h.nodup found active)
    fun _ => held ▸ h.free found active

/-- A session that is over holds nothing of its own. -/
theorem Sound.ended (h : world.Sound) (found : world.session? who = some session)
    (outcome : Option Failure) : (world.ended who session outcome).Sound := by
  have device : session.profile.block < world.tree.blocks.length := h.devices found
  refine h.acts (acts_ended found outcome) rfl device ?_ ?_ <;>
    cases outcome <;> simp [Session.finished, Session.ended, Phase.terminal]

/-- A change of the settings tree that registers no block which an active session holds. -/
theorem Sound.replant (h : world.Sound) (sessions : ∀ who, after.session? who = world.session? who)
    (coherent : after.tree.Coherent)
    (length : world.tree.blocks.length ≤ after.tree.blocks.length)
    (orphans : ∀ who session, world.session? who = some session → session.finished = false →
      ∀ block ∈ session.held, after.tree.parentOf block = none) : after.Sound := by
  refine ⟨coherent, Nat.lt_of_lt_of_le h.root length, fun {who} session found => ?_,
    fun {who} session found active => ?_, fun {who} session found active block mem => ?_⟩
  · rw [sessions] at found
    exact Nat.lt_of_lt_of_le (h.devices found) length
  · rw [sessions] at found
    exact h.nodup found active
  · rw [sessions] at found
    have hfree := h.free found active block mem
    refine ⟨Nat.lt_of_lt_of_le hfree.known length, orphans who session found active block mem,
      fun other rival hother hrival => ?_⟩
    rw [sessions] at hrival
    exact hfree.apart other rival hother hrival

/-- A new block is nobody's. -/
theorem Sound.grown (h : world.Sound) (data : Bytes) : (world.grown data).Sound := by
  refine h.replant (fun _ => rfl) (h.coherent.add rfl rfl) ?_ fun who session found active block
    mem => ?_
  · simp [World.grown]
  · rw [World.grown, SettingsTree.parentOf_add rfl]
    exact (h.free found active block mem).orphan

theorem Sound.free_grown (h : world.Sound) (who : SessionId) (data : Bytes) :
    (world.grown data).Free who world.tree.blocks.length := by
  refine ⟨by simp [World.grown], ?_, fun other session _ found active mem => ?_⟩
  · rw [World.grown, SettingsTree.parentOf_add rfl, SettingsTree.parentOf,
      SettingsTree.block?_length]
    rfl
  · exact Nat.lt_irrefl _ (h.free found active _ mem).known

/-- A session that accepts a datagram holds what it held and perhaps the new block. -/
theorem mem_held_keeping {data : Bytes} {block : BlockId}
    (mem : block ∈ (world.keeping session data).held) :
    block ∈ session.held ∨ block = world.tree.blocks.length := by
  rw [keeping] at mem
  split at mem
  · split at mem <;> simp [Session.held] at mem ⊢ <;> grind
  · exact .inl mem

theorem nodup_held_keeping (h : world.Sound) (found : world.session? who = some session)
    (active : session.finished = false) (data : Bytes) :
    (world.keeping session data).held.Nodup := by
  have hnodup := h.nodup found active
  have hnew : world.tree.blocks.length ∉ session.held := fun mem =>
    Nat.lt_irrefl _ (h.free found active _ mem).known
  simp only [Session.held, List.mem_append, Option.mem_toList, not_or] at hnodup hnew
  rw [keeping]
  split
  · split
    · cases hresponse : session.response with
      | none => simp [Session.held]
      | some response =>
        have hne : response ≠ world.tree.blocks.length := by
          rintro rfl
          exact hnew.1 hresponse
        simpa [Session.held, hresponse] using hne
    · cases hproxy : session.proxy with
      | none => simp [Session.held]
      | some proxy =>
        have hne : proxy ≠ world.tree.blocks.length := by
          rintro rfl
          exact hnew.2 hproxy
        simpa [Session.held, hproxy] using hne.symm
  · exact hnodup

/-- Accepting a datagram makes a block that is the session's own. -/
theorem Sound.admitted (h : world.Sound) (found : world.session? who = some session)
    (active : session.finished = false) (data : Bytes) :
    (world.admitted who session data).Sound := by
  have acts := acts_admitted found data
  have hgrown : (world.grown data).Acts (world.admitted who session data) who _ _ _ :=
    ⟨acts.session, acts.others, acts.history, acts.own, acts.notices⟩
  refine (h.grown data).acts hgrown rfl ?_ (fun _ => nodup_held_keeping h found active data)
    fun _ block mem => ?_
  · obtain ⟨response, proxy, hkeeping⟩ := world.keeping_eq session data
    rw [hkeeping]
    have device : session.profile.block < (world.grown data).tree.blocks.length :=
      (h.grown data).devices found
    exact device
  · rcases mem_held_keeping mem with mem | rfl
    · exact (h.grown data).free found active block mem
    · exact h.free_grown who data

/-- A new session holds nothing. -/
theorem Sound.joined (h : world.Sound) {profile : Profile τ} (owner : Owner)
    (device : profile.block < world.tree.blocks.length) : (world.joined profile owner).Sound := by
  have acts : world.Acts (world.joined profile owner) world.sessions.length _ [] [] :=
    ⟨world.session?_joined profile owner, fun _ hother =>
      session?_joined_of_ne hother profile owner, by simp [World.joined], by simp,
      by simp [World.joined]⟩
  exact h.acts acts rfl device (fun _ => by simp [Session.held, Session.ofProfile])
    (by simp [Session.held, Session.ofProfile])

end

/-- An event that leaves alone what active sessions hold: a session is started for a device
whose settings block exists, and whoever else works on the settings tree links blocks that
exist and registers none that an active session holds. -/
def Considerate [TimeScale τ] (world : World τ σ) (event : Event τ σ) : Prop :=
  world.Possible event ∧
    match event with
    | .start profile _ => profile.block < world.tree.blocks.length
    | .edit edit => edit.Fits world.tree ∧
      ∀ who session, world.session? who = some session → session.finished = false →
        ∀ block ∈ session.held, edit.registered? ≠ some block
    | _ => True

/-- An ordinary acknowledgement brings no new proxy reply. -/
theorem proxy_settling {world : World τ σ} {session : Session τ} {data : Bytes} {proxy : BlockId}
    (ordinary : (Packet.ofBytes data).isProxyReply = false)
    (h : (world.settling session data).proxy = some proxy) : session.proxy = some proxy := by
  simp only [settling, keeping, ordinary] at h
  split at h
  · cases h
  · split at h <;> exact h

theorem Sound.device_settling {world : World τ σ} {who : SessionId} {session : Session τ}
    (h : world.Sound) (found : world.session? who = some session) (data : Bytes) :
    (world.settling session data).profile.block < (world.grown data).tree.blocks.length := by
  obtain ⟨proxy, hsettling⟩ := world.settling_eq session data
  have hgrown : (world.grown data).session? who = some session := found
  have device := (h.grown data).devices hgrown
  rw [hsettling]
  exact device

/-- A session that accepted its acknowledgement can register its replies. -/
theorem Sound.publishable {world : World τ σ} {who : SessionId} {session : Session τ}
    {data : Bytes} (h : world.Sound) (found : world.session? who = some session)
    (active : session.finished = false) (ordinary : (Packet.ofBytes data).isProxyReply = false) :
    Act.Publishable (world.settling session data) world.tree.blocks.length
      (world.grown data).tree := by
  have hgrown := h.grown data
  have hnew := h.free_grown who data
  refine ⟨hgrown.coherent, hgrown.root, h.device_settling found data, rfl, hnew.known,
    hnew.orphan, fun proxy hproxy => ?_⟩
  have mem : proxy ∈ session.held := by
    simp [Session.held, proxy_settling ordinary hproxy]
  have hfree := hgrown.free (show (world.grown data).session? who = some session from found)
    active proxy mem
  exact ⟨Nat.ne_of_lt (h.free found active proxy mem).known, hfree.known, hfree.orphan⟩

/-- The replies of a session that accepted its acknowledgement are always registered. -/
theorem Sound.registers {around : Surroundings τ σ} {world start : World τ σ}
    (unrefusing : ∀ count, around.refusal count = none) {who : SessionId} {session : Session τ}
    {data : Bytes} (h : world.Sound) (found : world.session? who = some session)
    (active : session.finished = false) (ordinary : (Packet.ofBytes data).isProxyReply = false)
    (agree : start.Agree (world.settled who session data)) :
    ∃ after, (Act.registerReplies around (world.settling session data)).perform start =
        (.ok (.ok ()), after) ∧ after.Akin start ∧
      Act.Registered (world.settling session data) world.tree.blocks.length
        (world.grown data).tree after.tree ∧
      after.tree.findChild? SettingsTree.root Block.proxyName =
        (world.settling session data).proxy.or
          ((world.grown data).tree.findChild? SettingsTree.root Block.proxyName) := by
  have htree : start.tree = (world.grown data).tree := agree.tree
  have publishable := h.publishable found active ordinary
  rw [← htree] at publishable ⊢
  exact Act.perform_registerReplies_ok unrefusing publishable

/-- Registering the replies of a session leaves the blocks of all other sessions alone, also if one
of them is refused. -/
theorem Sound.acknowledged {world published : World τ σ} {who : SessionId} {session : Session τ}
    {data : Bytes} (h : world.Sound) (found : world.session? who = some session)
    (active : session.finished = false) (ordinary : (Packet.ofBytes data).isProxyReply = false)
    (akin : published.Akin (world.settled who session data))
    (spares : (world.grown data).tree.Spares published.tree
      (world.tree.blocks.length :: (world.settling session data).proxy.toList))
    (outcome : Option Failure) :
    (published.ended who (world.settling session data) outcome).Sound := by
  -- first the session ends, so that it holds nothing of its own when the tree changes
  let final : Session τ := { (world.settling session data).ended outcome with
    timer := ((world.settling session data).timer.stop published.loop).1 }
  have finished : final.finished = true := by
    dsimp only [final, Session.ended, Session.finished]
    cases outcome <;> rfl
  have hadmitted := h.admitted found active data
  have acts := acts_put (session?_admitted found data) final
  have hput := hadmitted.acts acts rfl (h.device_settling found data) (by simp [finished])
    (by simp [finished])
  have hsettled := (akin.session? who).trans (session?_settled found data)
  have hended := acts_ended hsettled outcome
  refine hput.replant (fun other => ?_) spares.coherent (Nat.le_of_eq spares.length.symm)
    fun other rival hrival hactive block mem => ?_
  · by_cases hother : other = who
    · subst hother
      rw [hended.session, acts.session]
    · rw [hended.others other hother, akin.session? other, settled, session?_put_of_ne hother,
        session?_put_of_ne hother]
  · have hother : other ≠ who := by
      rintro rfl
      rw [acts.session, Option.some_inj] at hrival
      simp [← hrival, finished] at hactive
    rw [acts.others other hother] at hrival
    have hfree := hadmitted.free hrival hactive block mem
    rw [(acts_admitted found data).others other hother] at hrival
    refine spares.orphans block ?_ hfree.orphan
    rw [List.mem_cons, Option.mem_toList, not_or]
    refine ⟨Nat.ne_of_lt (h.free hrival hactive block mem).known, fun hproxy => ?_⟩
    have mem' : block ∈ session.held := by
      simp [Session.held, proxy_settling ordinary hproxy]
    exact (h.free found active block mem').apart other rival hother hrival hactive mem

/-- A session succeeded right after it accepted the acknowledgement for its exchange.  At
that moment it held the block of that datagram, and its replies were where they belong. -/
structure Completed (who : SessionId) (session : Session τ) (data : Bytes) (reply : BlockId)
    (accepted ended : Episode τ) : Prop where
  own : accepted.who = who ∧ ended.who = who
  accepts : accepted.deed = .accepted data reply
  requesting : accepted.session.phase = .requesting
  acknowledges : Acknowledges data session.xid
  succeeds : ended.deed = .ended none ∧ ended.session.phase = .succeeded
  response : ended.session.response = some reply ∧ session.response = some reply
  contents : ended.tree.contentsOf? reply = some (.reply (.ofBytes data))
  name : ended.tree.nameOf reply = "dhcp"
  child : ended.tree.findChild? session.profile.block "dhcp" = some reply
  only : ∀ other ∈ ended.tree.childrenOf session.profile.block,
    ended.tree.nameOf other = "dhcp" → other = reply
  proxy : ended.session.proxy = session.proxy ∧ ∀ proxy, session.proxy = some proxy →
    ended.tree.nameOf proxy = "proxydhcp" ∧
    ended.tree.findChild? SettingsTree.root "proxydhcp" = some proxy ∧
    ∀ other ∈ ended.tree.childrenOf SettingsTree.root,
      ended.tree.nameOf other = "proxydhcp" → other = proxy

/-- A session did not fail to register its replies, and if it succeeded, it did so with an
acknowledgement. -/
def Certified (world : World τ σ) (who : SessionId) (session : Session τ) : Prop :=
  (∀ cause, session.failure ≠ some (.registration cause)) ∧
  (session.phase = .succeeded → ∃ data reply accepted detached ended,
    [accepted, detached, ended] <:+: world.history ∧
      Completed who session data reply accepted ended)

variable [TimeScale τ] {around : Surroundings τ σ} {allowed : World τ σ → Event τ σ → Prop}
  {world after : World τ σ}

/-- Whatever moves, active sessions hold blocks of their own. -/
theorem Move.sound {mover : Option SessionId} (move : Move around allowed mover world after)
    (considerate : ∀ {world event}, allowed world event → world.Considerate event)
    (h : world.Sound) : after.Sound := by
  cases move with
  | idle agree =>
    refine h.replant agree.session? (agree.tree ▸ h.coherent) (agree.tree ▸ Nat.le_refl _)
      fun who session found active block mem => ?_
    rw [agree.tree]
    exact (h.free found active block mem).orphan
  | ticked _ instant =>
    exact h.replant (fun _ => rfl) h.coherent (Nat.le_refl _) fun who session found active block
      mem => (h.free found active block mem).orphan
  | edited _ edit permitted =>
    obtain ⟨-, fits, careful⟩ := considerate permitted
    exact h.replant (fun _ => rfl) (h.coherent.edit fits) (SettingsTree.length_le_edit _ edit)
      fun who session found active block mem => SettingsTree.parentOf_edit_of_orphan fits
        (h.free found active block mem).orphan (careful who session found active block mem)
  | begun _ profile owner permitted =>
    have hjoined := h.joined owner (considerate permitted).2
    have acts : (world.joined profile owner).Acts (world.begun profile owner)
        world.sessions.length _ _ _ :=
      ⟨world.session?_begun profile owner, fun _ hother =>
        (session?_put_of_ne hother).trans (session?_put_of_ne hother), rfl,
        (acts_begun world profile owner).own, (acts_begun world profile owner).notices⟩
    exact hjoined.keeps acts rfl (world.session?_joined profile owner) rfl rfl rfl
  | refused _ profile owner cause permitted =>
    exact (h.joined .absent (considerate permitted).2).ended
      (world.session?_joined profile .absent) _
  | retried handle permitted found active left =>
    exact h.keeps ((acts_fired found).trans (acts_attempted (session?_fired found))) rfl found
      active rfl rfl
  | exhausted handle permitted found active spent =>
    exact (h.keeps (acts_fired found) rfl found active rfl rfl).ended (session?_fired found) _
  | forced permitted found active => exact h.keeps (acts_attempted found) rfl found active rfl rfl
  | abandoned permitted found active => exact h.ended found _
  | cancelled found active => exact h.ended found _
  | handed packet found active => exact h.keeps (acts_chronicled found _) rfl found active rfl rfl
  | kept data found awaits => exact h.admitted found awaits.active data
  | @requested _ who held session data found awaits discovering =>
    obtain ⟨response, proxy, hkeeping⟩ := world.keeping_eq session data
    obtain ⟨timer, -, -, acts⟩ := acts_requesting (session?_admitted found data)
    refine (h.admitted found awaits.active data).keeps acts rfl (session?_admitted found data) ?_
      rfl rfl
    rw [hkeeping]
    exact awaits.active
  | @acknowledged _ start published who session data outcome found awaits _ ordinary agree
      publishes =>
    have htree : start.tree = (world.grown data).tree := agree.tree
    have publishable := h.publishable found awaits.active ordinary
    rw [← htree] at publishable
    have spares := Act.registerReplies_spares publishable publishes
    rw [htree] at spares
    exact h.acknowledged found awaits.active ordinary (Act.akin_of_publishes agree publishes)
      spares _

theorem Moves.sound (moves : Moves around allowed world after)
    (considerate : ∀ {world event}, allowed world event → world.Considerate event)
    (h : world.Sound) : after.Sound := by
  induction moves with
  | refl => exact h
  | tail _ step ih =>
    obtain ⟨mover, move⟩ := step
    exact move.sound considerate ih

/-! ## Successes -/

section

variable {who : SessionId} {session next : Session τ}

omit [TimeScale τ] in
theorem certified_of_active (active : session.finished = false)
    (unfailed : session.failure = none) : world.Certified who session := by
  refine ⟨by simp [unfailed], fun succeeded => ?_⟩
  simp [Session.finished, succeeded, Phase.terminal] at active

omit [TimeScale τ] in
/-- A session that fails otherwise. -/
theorem certified_of_failed {failure : Failure} (failed : session.phase = .failed)
    (failure_eq : session.failure = some failure) (other : ∀ cause, failure ≠ .registration cause) :
    world.Certified who session := by
  refine ⟨fun cause h => ?_, fun succeeded => ?_⟩
  · rw [failure_eq, Option.some_inj] at h
    exact other cause h
  · rw [failed] at succeeded
    cases succeeded

omit [TimeScale τ] in
theorem Certified.spares (h : world.Certified who session)
    (grown : world.history <+: after.history) : after.Certified who session := by
  refine ⟨h.1, fun succeeded => ?_⟩
  obtain ⟨data, reply, accepted, detached, ended, adjacent, completed⟩ := h.2 succeeded
  exact ⟨data, reply, accepted, detached, ended, adjacent.trans grown.isInfix, completed⟩

omit [TimeScale τ] in
/-- A session that registered its replies or could not enters the acknowledgement, that it detached
its connection and that it ended, one right after the other and before anything else. -/
theorem history_of_settled {published : World τ σ} {data : Bytes}
    (attached : session.attached = true)
    (akin : published.Akin (world.settled who session data)) (outcome : Option Failure) :
    ∃ detached, world.history ++ [⟨who, .accepted data world.tree.blocks.length, session,
        (world.grown data).tree, world.loop.pending, world.loop.now⟩, detached,
      ⟨who, .ended outcome, (world.settling session data).ended outcome, published.tree,
        published.loop.pending, published.loop.now⟩] <+:
        (published.ended who (world.settling session data) outcome).history := by
  obtain ⟨proxy, hsettling⟩ := world.settling_eq session data
  have hattached : (world.settling session data).attached = true := by
    rw [hsettling]
    exact attached
  have hpublished : published.history = world.history ++ [⟨who, .accepted data
      world.tree.blocks.length, session, (world.grown data).tree, world.loop.pending,
      world.loop.now⟩] := akin.history
  obtain ⟨detached, later, hclosing⟩ : ∃ detached later,
      published.closing who (world.settling session data) outcome = detached ::
        ⟨who, .ended outcome, (world.settling session data).ended outcome, published.tree,
        published.loop.pending, published.loop.now⟩ :: later := by
    simp only [closing, hattached, if_true, List.append_assoc]
    exact ⟨_, _, rfl⟩
  have hhistory : (published.ended who (world.settling session data) outcome).history =
      published.history ++ published.closing who (world.settling session data) outcome := rfl
  rw [hpublished, hclosing] at hhistory
  exact ⟨detached, later, by rw [hhistory]; simp⟩

omit [TimeScale τ] in
theorem adjacent_of_settled {published : World τ σ} {data : Bytes}
    (attached : session.attached = true)
    (akin : published.Akin (world.settled who session data)) (outcome : Option Failure) :
    ∃ detached, [⟨who, .accepted data world.tree.blocks.length, session, (world.grown data).tree,
        world.loop.pending, world.loop.now⟩, detached,
      ⟨who, .ended outcome, (world.settling session data).ended outcome, published.tree,
        published.loop.pending, published.loop.now⟩] <:+:
        (published.ended who (world.settling session data) outcome).history := by
  obtain ⟨detached, grown⟩ := history_of_settled attached akin outcome
  exact ⟨detached, (List.suffix_append world.history _).isInfix.trans grown.isInfix⟩

omit [TimeScale τ] in
/-- A session that is going on and accepts its acknowledgement succeeds with it. -/
theorem certified_acknowledged {published : World τ σ} {data : Bytes}
    (ongoing : world.Ongoing who session) (awaits : session.Awaits data)
    (requesting : session.phase ≠ .discovering)
    (ordinary : (Packet.ofBytes data).isProxyReply = false)
    (akin : published.Akin (world.settled who session data))
    (registered : Act.Registered (world.settling session data) world.tree.blocks.length
      (world.grown data).tree published.tree) :
    (published.ended who (world.settling session data) none).Certified who
      { (world.settling session data).ended none with
        timer := ((world.settling session data).timer.stop published.loop).1 } := by
  obtain ⟨hphase, acknowledges⟩ := awaits.acknowledges requesting ordinary
  obtain ⟨proxy, hsettling⟩ := world.settling_eq session data
  let final : Session τ := { (world.settling session data).ended none with
    timer := ((world.settling session data).timer.stop published.loop).1 }
  have hprofile : (world.settling session data).profile = session.profile := by rw [hsettling]
  have hxid : final.xid = session.xid :=
    congrArg (fun profile => profile.device.transaction) hprofile
  rw [← hxid] at acknowledges
  obtain ⟨detached, adjacent⟩ := adjacent_of_settled ongoing.attached akin none
  have hcontents : published.tree.contentsOf? world.tree.blocks.length =
      some (.reply (.ofBytes data)) := by
    rw [registered.contents, World.grown, SettingsTree.contentsOf?_add_self]
    rfl
  have hchild := registered.coherent.only_child registered.parentOf
  rw [registered.nameOf] at hchild
  have hproxy (held : BlockId) (h : (world.settling session data).proxy = some held) :
      published.tree.nameOf held = "proxydhcp" ∧
      published.tree.findChild? SettingsTree.root "proxydhcp" = some held ∧
      ∀ other ∈ published.tree.childrenOf SettingsTree.root,
        published.tree.nameOf other = "proxydhcp" → other = held := by
    obtain ⟨hparent, hname⟩ := registered.proxy held h
    have honly := registered.coherent.only_child hparent
    rw [hname] at honly
    exact ⟨hname, honly⟩
  exact ⟨by simp [Session.ended], fun _ => ⟨data, world.tree.blocks.length, _, detached, _,
    adjacent, ⟨rfl, rfl⟩, rfl, hphase, acknowledges, ⟨rfl, rfl⟩, ⟨rfl, rfl⟩, hcontents,
    registered.nameOf, hchild.1, hchild.2, rfl, hproxy⟩⟩

/-- Whatever moves, no session fails to register its replies, and every success is due to
an acknowledgement. -/
theorem Move.certified {mover : Option SessionId} (move : Move around allowed mover world after)
    (unrefusing : ∀ count, around.refusal count = none) (sound : world.Sound)
    (standing : world.Standing who)
    (h : ∀ session, world.session? who = some session → world.Certified who session)
    (hnext : after.session? who = some next) : after.Certified who next := by
  refine move.preserves (fun world session => world.Certified who session)
    (fun _ _ certified => certified.spares move.history_grows) ?_ h hnext
  rintro rfl
  cases move with
  | begun _ profile owner =>
    exact ⟨_, world.session?_begun profile owner, certified_of_active rfl rfl⟩
  | refused _ profile owner cause =>
    exact ⟨_, session?_ended (world.session?_joined profile .absent) _,
      certified_of_failed rfl rfl (by simp)⟩
  | retried handle _ found active =>
    exact ⟨_, session?_attempted (session?_fired found),
      certified_of_active active (standing.of_active found active).failure⟩
  | exhausted handle _ found active =>
    exact ⟨_, session?_ended (session?_fired found) _, certified_of_failed rfl rfl (by simp)⟩
  | forced _ found active =>
    exact ⟨_, session?_attempted found,
      certified_of_active active (standing.of_active found active).failure⟩
  | abandoned _ found =>
    exact ⟨_, session?_ended found _, certified_of_failed rfl rfl (by simp)⟩
  | cancelled found =>
    exact ⟨_, session?_ended found _, certified_of_failed rfl rfl (by simp)⟩
  | handed packet found active =>
    exact ⟨_, found, certified_of_active active (standing.of_active found active).failure⟩
  | @kept _ _ session data found awaits =>
    obtain ⟨response, proxy, hkeeping⟩ := world.keeping_eq session data
    refine ⟨_, session?_admitted found data, certified_of_active ?_ ?_⟩
    · rw [hkeeping]
      exact awaits.active
    · rw [hkeeping]
      exact (standing.of_active found awaits.active).failure
  | @requested _ _ held session data found awaits =>
    obtain ⟨response, proxy, hkeeping⟩ := world.keeping_eq session data
    obtain ⟨timer, -, -, acts⟩ := acts_requesting (session?_admitted found data)
    refine ⟨_, acts.session, certified_of_active rfl ?_⟩
    rw [hkeeping]
    exact (standing.of_active found awaits.active).failure
  | acknowledged data outcome found awaits requesting ordinary agree publishes =>
    obtain ⟨after, hafter, akin, registered, -⟩ :=
      sound.registers unrefusing found awaits.active ordinary agree
    rw [publishes, Prod.mk.injEq, Except.ok.injEq] at hafter
    obtain ⟨houtcome, hafter⟩ := hafter
    subst houtcome
    rw [← hafter] at akin registered
    have acts := acts_published found agree publishes
    exact ⟨_, session?_ended acts.session _,
      certified_acknowledged (standing.of_active found awaits.active) awaits requesting ordinary
        (akin.trans agree.akin) registered⟩

theorem Moves.certified (moves : Moves around allowed world after)
    (unrefusing : ∀ count, around.refusal count = none)
    (considerate : ∀ {world event}, allowed world event → world.Considerate event)
    (wired : world.Wired) (sound : world.Sound) (standing : ∀ who, world.Standing who)
    (h : ∀ session, world.session? who = some session → world.Certified who session)
    (found : after.session? who = some next) : after.Certified who next := by
  induction moves generalizing next with
  | refl => exact h next found
  | tail prior step ih =>
    obtain ⟨mover, move⟩ := step
    exact move.certified unrefusing (Moves.sound prior considerate sound)
      (Moves.standing prior (fun permitted => (considerate permitted).1) wired standing who)
      (fun _ => ih) found

end

theorem sound_start {tree : SettingsTree} (built : tree.Built) (network : σ) :
    (start tree network : World τ σ).Sound := by
  refine ⟨built.coherent, built.root_lt, ?_, ?_, ?_⟩ <;>
    exact fun found => by simp [session?, World.start] at found

/-- On a settings tree that was built by its operations and refuses nothing else, no session
fails to register its replies, however many sessions run on it and in whatever order.  A
session that succeeded did so right after it accepted, while it was requesting, an
acknowledgement for its exchange that offers an address; at that moment it held the block
of that datagram as the only child of its name below the device, and its proxy reply, if it
held one, as the only child of its name below the root. -/
theorem Run.completes_by_acknowledgement {tree : SettingsTree} {network : σ}
    {events : List (Event τ σ)} {who : SessionId} {session : Session τ} (built : tree.Built)
    (unrefusing : ∀ count, around.refusal count = none)
    (run : Run around Considerate (start tree network) events world)
    (found : world.session? who = some session) :
    (∀ cause, session.failure ≠ some (.registration cause)) ∧
    (session.phase = .succeeded → ∃ data reply accepted detached ended,
      [accepted, detached, ended] <:+: world.history ∧
        Completed who session data reply accepted ended) := by
  have hstart : (start tree network : World τ σ).Wired := wired_start tree network
  have hsound : (start tree network : World τ σ).Sound := sound_start built network
  obtain ⟨moves, -⟩ := run.moves And.left hstart
  exact moves.certified unrefusing id hstart hsound (fun _ => .unknown rfl rfl rfl)
    (fun _ found => by simp [session?, World.start] at found) found

/-- A session whose server refuses proxy replies succeeds with the second datagram, although
it never got a packet out. -/
theorem completed_after_two_replies :
    ∃ (tree : SettingsTree) (world : World Int Script) (session : Session Int),
      tree.Built ∧ Run Script.around Considerate (start tree { failingBuffers := 1 })
        [.start (Profile.plain 7 1) .watching, .deliver 0 (.reply .offer),
          .deliver 0 (.reply .ack)] world ∧
      world.session? 0 = some session ∧ session.phase = .succeeded ∧
      ∃ data reply accepted detached ended,
        [accepted, detached, ended] <:+: world.history ∧
          Completed 0 session data reply accepted ended := by
  let tree := SettingsTree.Edit.apply (SettingsTree.Edit.apply .empty (.create "net0" (.values [])))
    (.register 1 0)
  have built : tree.Built := .edit (.edit .empty (.create "net0" (.values [])) trivial)
    (.register 1 0) ⟨by decide, by decide⟩
  let started := World.after Script.around (start tree { failingBuffers := 1 })
    (.start (Profile.plain 7 1) .watching)
  let offered := World.after Script.around started (.deliver 0 (.reply .offer))
  let world := World.after Script.around offered (.deliver 0 (.reply .ack))
  have run : Run Script.around Considerate (start tree { failingBuffers := 1 })
      ([] ++ [.start (Profile.plain 7 1) .watching] ++ [.deliver 0 (.reply .offer)] ++
        [.deliver 0 (.reply .ack)]) world :=
    .step (.step (.step .rest _ ⟨trivial, by decide⟩) _ ⟨trivial, trivial⟩) _ ⟨trivial, trivial⟩
  have hphase : (world.session? 0).map Session.phase = some .succeeded := by decide +kernel
  obtain ⟨session, found, succeeded⟩ := Option.map_eq_some_iff.mp hphase
  exact ⟨tree, world, session, built, run, found, succeeded,
    (run.completes_by_acknowledgement built (fun _ => rfl) found).2 succeeded⟩

end World
end NetBoot
