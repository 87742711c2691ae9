/-
# Registering replies

Registering the replies of a session lets no fault through and changes nothing but the
settings tree and what is reported.  Unless the tree was told to refuse, what happens
to the tree is a renaming and a replacement for each reply; in a coherent tree both
succeed, because no reply that a session holds is registered already.
-/
import NetBoot.Proofs.Session.Action
import NetBoot.Proofs.Settings.Coherence

namespace NetBoot

variable {τ σ : Type}

/-- The worlds have the same sessions, loop and history, and owners were told the
same. -/
structure World.Akin (first second : World τ σ) : Prop where
  sessions : first.sessions = second.sessions
  loop : first.loop = second.loop
  notices : first.notices = second.notices
  history : first.history = second.history

namespace World.Akin

variable {first second third : World τ σ}

theorem refl (world : World τ σ) : world.Akin world := ⟨rfl, rfl, rfl, rfl⟩

theorem trans (h : first.Akin second) (h' : second.Akin third) : first.Akin third :=
  ⟨h.sessions.trans h'.sessions, h.loop.trans h'.loop, h.notices.trans h'.notices,
    h.history.trans h'.history⟩

theorem session? (h : first.Akin second) (who : SessionId) :
    first.session? who = second.session? who := by
  rw [World.session?, World.session?, h.sessions]

end World.Akin

theorem World.Agree.akin {first second : World τ σ} (h : first.Agree second) :
    first.Akin second :=
  ⟨h.sessions, h.loop, h.notices, h.history⟩

/-- A settings tree after an attempt to register some blocks: it is coherent, and all other blocks
that were not registered are not. -/
structure SettingsTree.Spares (tree after : SettingsTree) (tried : List BlockId) : Prop where
  coherent : after.Coherent
  length : after.blocks.length = tree.blocks.length
  orphans : ∀ other, other ∉ tried → tree.parentOf other = none → after.parentOf other = none

namespace SettingsTree.Spares

variable {tree middle after : SettingsTree} {tried more : List BlockId}

theorem mono (h : tree.Spares after tried) (subset : tried ⊆ more) : tree.Spares after more :=
  ⟨h.coherent, h.length, fun other hother => h.orphans other fun mem => hother (subset mem)⟩

theorem trans (h : tree.Spares middle tried) (h' : middle.Spares after tried) :
    tree.Spares after tried :=
  ⟨h'.coherent, h'.length.trans h.length, fun other hother orphan =>
    h'.orphans other hother (h.orphans other hother orphan)⟩

end SettingsTree.Spares

namespace Act

variable (around : Surroundings τ σ)

/-- What becomes of a settings tree when a block is put in the place of its namesake.
Whether the tree refuses depends on how many replacements were asked for before. -/
def replacing (before : Nat) (tree : SettingsTree) (block parent : BlockId) :
    SettingsTree × Except SettingsTree.Error Unit :=
  match around.refusal before with
  | some reason => (tree, .error (.refused reason))
  | none => tree.replace block parent

theorem perform_replaceBlock (block parent : BlockId) (world : World τ σ) :
    ∃ after outcome, (replaceBlock around block parent).perform world = (.ok outcome, after) ∧
      after.Akin world ∧ after.replacements = world.replacements + 1 ∧
      replacing around world.replacements world.tree block parent = (after.tree, outcome) := by
  rw [replaceBlock, perform_bind_ok _ (perform_get world), perform_bind_ok _ (perform_set _ _),
    replacing]
  cases around.refusal world.replacements with
  | some reason => exact ⟨_, _, rfl, ⟨rfl, rfl, rfl, rfl⟩, rfl, rfl⟩
  | none =>
    dsimp only
    cases world.tree.findChild? parent (world.tree.nameOf block) <;>
      rcases world.tree.replace block parent with ⟨tree, outcome⟩ <;>
      cases outcome <;>
      exact ⟨_, _, rfl, ⟨rfl, rfl, rfl, rfl⟩, rfl, rfl⟩

theorem perform_publish (block : BlockId) (name : String) (parent : BlockId)
    (world : World τ σ) :
    ∃ after outcome, (publish around block name parent).perform world = (.ok outcome, after) ∧
      after.Akin world ∧ after.replacements = world.replacements + 1 ∧
      replacing around world.replacements (world.tree.rename block name) block parent =
        (after.tree, outcome) := by
  obtain ⟨after, outcome, hafter, akin, hcount, hreplacing⟩ := perform_replaceBlock around block
    parent { world with tree := world.tree.rename block name }
  refine ⟨after, outcome, ?_, ⟨akin.sessions, akin.loop, akin.notices, akin.history⟩, hcount,
    hreplacing⟩
  rw [publish, perform_bind_ok _ (perform_modify _ world)]
  exact hafter

/-- Registering without a proxy reply puts the reply under the device. -/
theorem registerReplies_ordinary {session : Session τ} {response : BlockId}
    (hproxy : session.proxy = none) (hresponse : session.response = some response)
    (world : World τ σ) :
    (registerReplies around session).perform world =
      (publish around response Block.replyName session.profile.block).perform world := by
  rw [registerReplies, hproxy, hresponse]
  rfl

/-- With a proxy reply, that one is put under the root first. -/
theorem registerReplies_proxy {session : Session τ} {proxy response : BlockId}
    (hproxy : session.proxy = some proxy) (hresponse : session.response = some response)
    (world : World τ σ) :
    (registerReplies around session).perform world =
      (do
        match ← publish around proxy Block.proxyName SettingsTree.root with
        | .ok _ => publish around response Block.replyName session.profile.block
        | .error cause => pure (.error cause) : Act τ σ _).perform world := by
  rw [registerReplies, hproxy, hresponse]
  obtain ⟨after, outcome, hafter, -⟩ :=
    perform_publish around proxy Block.proxyName SettingsTree.root world
  rw [perform_bind_ok _ hafter, perform_bind_ok _ hafter]
  cases outcome <;> rfl

/-- Registering the replies of a session lets no fault through, and sessions, loop and
history stay. -/
theorem perform_registerReplies (session : Session τ) (world : World τ σ) :
    ∃ after outcome, (registerReplies around session).perform world = (.ok outcome, after) ∧
      after.Akin world := by
  rw [registerReplies]
  cases session.proxy with
  | none =>
    cases session.response with
    | none => exact ⟨world, .ok (), rfl, .refl world⟩
    | some response =>
      obtain ⟨after, outcome, hafter, akin, -⟩ :=
        perform_publish around response Block.replyName session.profile.block world
      exact ⟨after, outcome, hafter, akin⟩
  | some proxy =>
    obtain ⟨middle, published, hmiddle, akin, -⟩ :=
      perform_publish around proxy Block.proxyName SettingsTree.root world
    dsimp only
    rw [perform_bind_ok _ hmiddle]
    cases published with
    | error cause => exact ⟨middle, .error cause, rfl, akin⟩
    | ok _ =>
      cases session.response with
      | none => exact ⟨middle, .ok (), rfl, akin⟩
      | some response =>
        obtain ⟨after, outcome, hafter, akin', -⟩ :=
          perform_publish around response Block.replyName session.profile.block middle
        exact ⟨after, outcome, hafter, akin'.trans akin⟩

variable {around}

/-- Where registering the replies of a session ends. -/
theorem akin_of_publishes {session : Session τ} {outcome : Except SettingsTree.Error Unit}
    {world start published : World τ σ} (agree : start.Agree world)
    (publishes : (registerReplies around session).perform start = (.ok outcome, published)) :
    published.Akin world := by
  obtain ⟨after, outcome', hafter, akin⟩ := perform_registerReplies around session start
  rw [publishes, Prod.mk.injEq] at hafter
  rw [hafter.2]
  exact akin.trans agree.akin

/-- A block is published, unless the tree was told to refuse it; it then has its new name all the
same. -/
theorem publish_cases {block parent : BlockId} {name : String} {world after : World τ σ}
    {outcome : Except SettingsTree.Error Unit}
    (publishes : (publish around block name parent).perform world = (.ok outcome, after)) :
    after.replacements = world.replacements + 1 ∧
      ((∃ reason, around.refusal world.replacements = some reason ∧
          outcome = .error (.refused reason) ∧ after.tree = world.tree.rename block name) ∨
        around.refusal world.replacements = none ∧
          (world.tree.rename block name).replace block parent = (after.tree, outcome)) := by
  obtain ⟨after', outcome', hafter, -, hcount, hreplacing⟩ :=
    perform_publish around block name parent world
  rw [publishes, Prod.mk.injEq, Except.ok.injEq] at hafter
  obtain ⟨rfl, rfl⟩ := hafter
  refine ⟨hcount, ?_⟩
  rw [replacing] at hreplacing
  cases hrefusal : around.refusal world.replacements with
  | some reason =>
    rw [hrefusal] at hreplacing
    obtain ⟨htree, houtcome⟩ := Prod.mk.inj hreplacing
    exact .inl ⟨reason, rfl, houtcome.symm, htree.symm⟩
  | none =>
    rw [hrefusal] at hreplacing
    exact .inr ⟨rfl, hreplacing⟩

/-- The reply of a session is published, and before it the proxy reply if there is one; if that
is refused, the reply is not tried. -/
theorem registerReplies_cases {session : Session τ} {response : BlockId} {world after : World τ σ}
    {outcome : Except SettingsTree.Error Unit} (holds : session.response = some response)
    (publishes : (registerReplies around session).perform world = (.ok outcome, after)) :
    (session.proxy = none ∧ (publish around response Block.replyName
      session.profile.block).perform world = (.ok outcome, after)) ∨
    ∃ proxy middle first, session.proxy = some proxy ∧
      (publish around proxy Block.proxyName SettingsTree.root).perform world =
        (.ok first, middle) ∧
      ((∃ cause, first = .error cause ∧ outcome = .error cause ∧ after = middle) ∨
        first = .ok () ∧ (publish around response Block.replyName
          session.profile.block).perform middle = (.ok outcome, after)) := by
  cases hproxy : session.proxy with
  | none =>
    rw [registerReplies_ordinary around hproxy holds] at publishes
    exact .inl ⟨rfl, publishes⟩
  | some proxy =>
    obtain ⟨middle, first, hmiddle, -⟩ :=
      perform_publish around proxy Block.proxyName SettingsTree.root world
    rw [registerReplies_proxy around hproxy holds, perform_bind_ok _ hmiddle] at publishes
    refine .inr ⟨proxy, middle, first, rfl, hmiddle, ?_⟩
    cases first with
    | error cause =>
      rw [perform_pure, Prod.mk.injEq, Except.ok.injEq] at publishes
      exact .inl ⟨cause, rfl, publishes.1.symm, publishes.2.symm⟩
    | ok => exact .inr ⟨rfl, publishes⟩

/-! ## Registering always succeeds -/

/-- A settings tree after the replies of a session were registered in it. -/
structure Registered (session : Session τ) (response : BlockId) (tree after : SettingsTree) :
    Prop where
  coherent : after.Coherent
  length : after.blocks.length = tree.blocks.length
  parentOf : after.parentOf response = some session.profile.block
  nameOf : after.nameOf response = Block.replyName
  proxy : ∀ proxy, session.proxy = some proxy →
    after.parentOf proxy = some SettingsTree.root ∧ after.nameOf proxy = Block.proxyName
  /-- All other blocks that are not registered stay so. -/
  orphans : ∀ other, other ≠ response → session.proxy ≠ some other →
    tree.parentOf other = none → after.parentOf other = none
  contents : ∀ other, after.contentsOf? other = tree.contentsOf? other

/-- A block that is not registered is published in a coherent tree. -/
theorem perform_publish_ok (unrefusing : ∀ count, around.refusal count = none)
    {world : World τ σ} {block parent : BlockId} (coherent : world.tree.Coherent)
    (orphan : world.tree.parentOf block = none) (hblock : block < world.tree.blocks.length)
    (hparent : parent < world.tree.blocks.length) (name : String) :
    ∃ after, (publish around block name parent).perform world = (.ok (.ok ()), after) ∧
      after.Akin world ∧ world.tree.Published after.tree block name parent := by
  obtain ⟨after, outcome, hafter, akin, -, hreplacing⟩ :=
    perform_publish around block name parent world
  obtain ⟨hok, hpublished⟩ := coherent.publish orphan hblock hparent name
  simp only [replacing, unrefusing] at hreplacing
  rw [hreplacing] at hok hpublished
  dsimp only at hok
  exact ⟨after, hok ▸ hafter, akin, hpublished⟩

/-- A session can register its replies: in a coherent tree they and the blocks that they are to
be registered under exist, and none of them is registered yet. -/
structure Publishable (session : Session τ) (response : BlockId) (tree : SettingsTree) : Prop where
  coherent : tree.Coherent
  root : SettingsTree.root < tree.blocks.length
  device : session.profile.block < tree.blocks.length
  holds : session.response = some response
  known : response < tree.blocks.length
  orphan : tree.parentOf response = none
  proxy : ∀ proxy, session.proxy = some proxy →
    proxy ≠ response ∧ proxy < tree.blocks.length ∧ tree.parentOf proxy = none

/-- The replies of a session are registered, if none of them is registered yet.  Below the root
the proxy reply takes the place of an earlier one, and without a proxy reply that one stays. -/
theorem perform_registerReplies_ok (unrefusing : ∀ count, around.refusal count = none)
    {session : Session τ} {response : BlockId} {world : World τ σ}
    (publishable : Publishable session response world.tree) :
    ∃ after, (registerReplies around session).perform world = (.ok (.ok ()), after) ∧
      after.Akin world ∧ Registered session response world.tree after.tree ∧
      after.tree.findChild? SettingsTree.root Block.proxyName =
        session.proxy.or (world.tree.findChild? SettingsTree.root Block.proxyName) := by
  obtain ⟨coherent, root, device, holds, hresponse, orphan, hproxy⟩ := publishable
  have hnames : Block.proxyName ≠ Block.replyName := by decide
  cases hheld : session.proxy with
  | none =>
    obtain ⟨after, hafter, akin, published⟩ :=
      perform_publish_ok unrefusing coherent orphan hresponse device Block.replyName
    refine ⟨after, (registerReplies_ordinary around hheld holds world).trans hafter, akin,
      ⟨published.coherent, published.length, published.parentOf, published.nameOf, ?_,
        fun other hother _ => published.orphans other hother, published.contents⟩, ?_⟩
    · simp [hheld]
    · exact published.findChild?_of_ne coherent orphan hnames SettingsTree.root
  | some proxy =>
    obtain ⟨hne, hlt, horphan⟩ := hproxy proxy hheld
    obtain ⟨middle, hmiddle, akin, first⟩ :=
      perform_publish_ok unrefusing coherent horphan hlt root Block.proxyName
    obtain ⟨after, hafter, akin', second⟩ := perform_publish_ok unrefusing first.coherent
      (first.orphans response hne.symm orphan) (first.length ▸ hresponse) (first.length ▸ device)
      Block.replyName
    have hperform : (registerReplies around session).perform world = (.ok (.ok ()), after) := by
      rw [registerReplies_proxy around hheld holds world, perform_bind_ok _ hmiddle]
      exact hafter
    have hname : middle.tree.nameOf proxy ≠ Block.replyName := first.nameOf ▸ hnames
    refine ⟨after, hperform, akin'.trans akin, ⟨second.coherent,
      second.length.trans first.length, second.parentOf, second.nameOf, ?_, ?_,
      fun other => (second.contents other).trans (first.contents other)⟩, ?_⟩
    · rintro held hsame
      rw [hheld, Option.some_inj] at hsame
      subst hsame
      exact ⟨(second.stays proxy hne hname).trans first.parentOf,
        (second.others proxy hne).trans first.nameOf⟩
    · intro other hother hother' horphan'
      have hne' : other ≠ proxy := by
        rintro rfl
        exact hother' hheld
      exact second.orphans other hother (first.orphans other hne' horphan')
    · have hstays := second.findChild?_of_ne first.coherent
        (first.orphans response hne.symm orphan) hnames SettingsTree.root
      exact hstays.trans first.findChild?_self

/-! ## Registering may be refused -/

/-- Whether or not a tree takes a block that is not registered, it stays coherent and registers
no other block that was not. -/
theorem publish_spares {block parent : BlockId} {name : String} {world after : World τ σ}
    {outcome : Except SettingsTree.Error Unit} (coherent : world.tree.Coherent)
    (orphan : world.tree.parentOf block = none) (hblock : block < world.tree.blocks.length)
    (hparent : parent < world.tree.blocks.length)
    (publishes : (publish around block name parent).perform world = (.ok outcome, after)) :
    world.tree.Spares after.tree [block] := by
  obtain ⟨-, ⟨reason, -, -, htree⟩ | ⟨-, hreplace⟩⟩ := publish_cases publishes
  · rw [htree]
    exact ⟨coherent.rename orphan name, by simp, fun other _ horphan => by simpa using horphan⟩
  · have published := (coherent.publish orphan hblock hparent name).2
    rw [hreplace] at published
    exact ⟨published.coherent, published.length, fun other hother =>
      published.orphans other (by simpa using hother)⟩

/-- Whether or not a tree takes the replies of a session, it stays coherent and registers no
other block that was not. -/
theorem registerReplies_spares {session : Session τ} {response : BlockId}
    {world after : World τ σ} {outcome : Except SettingsTree.Error Unit}
    (publishable : Publishable session response world.tree)
    (publishes : (registerReplies around session).perform world = (.ok outcome, after)) :
    world.tree.Spares after.tree (response :: session.proxy.toList) := by
  obtain ⟨coherent, root, device, holds, hresponse, orphan, hproxy⟩ := publishable
  rcases registerReplies_cases holds publishes with ⟨bare, publishes⟩ |
    ⟨proxy, middle, first, held, hmiddle, hrest⟩
  · rw [bare]
    exact publish_spares coherent orphan hresponse device publishes
  · obtain ⟨hne, hlt, horphan⟩ := hproxy proxy held
    have spares := publish_spares coherent horphan hlt root hmiddle
    rw [held]
    rcases hrest with ⟨cause, -, -, rfl⟩ | ⟨-, publishes⟩
    · exact spares.mono (by simp)
    · have spares' := publish_spares spares.coherent
        (spares.orphans response (by simpa using hne.symm) orphan) (spares.length ▸ hresponse)
        (spares.length ▸ device) publishes
      exact (spares.mono (by simp)).trans (spares'.mono (by simp))

end Act
end NetBoot
