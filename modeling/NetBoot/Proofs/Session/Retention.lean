/-
# What blocks hold

Operations on the settings tree move links and names, and new blocks get new numbers; no
block ever holds anything else than at first.  So the packet of a reply that a session
accepted is there for good, whoever works on the tree and whether or not a registration was
refused, and its priority is what it was when the datagram came in.
-/
import NetBoot.Proofs.Session.Move
import NetBoot.Proofs.Session.Registration

namespace NetBoot

namespace SettingsTree

variable {tree middle after : SettingsTree} {block parent other : BlockId}

/-- The packet of a reply block; a block without one counts as an empty packet. -/
def packetAt (tree : SettingsTree) (block : BlockId) : Packet :=
  ((tree.block? block).bind Block.packet?).getD (.ofBytes [])

theorem packetAt_of_contents {packet : Packet}
    (h : tree.contentsOf? block = some (.reply packet)) : tree.packetAt block = packet := by
  obtain ⟨found, hfound, hcontents⟩ := Option.map_eq_some_iff.mp h
  rw [packetAt, hfound, Option.bind_some, Block.packet?, hcontents]
  rfl

theorem fetchAt_of_contents {packet : Packet}
    (h : tree.contentsOf? block = some (.reply packet)) : tree.fetchAt block = packet.fetch := by
  obtain ⟨found, hfound, hcontents⟩ := Option.map_eq_some_iff.mp h
  funext tag
  rw [fetchAt, hfound, Option.bind_some, Block.fetch, hcontents]

/-- All blocks of a tree hold the same in another one. -/
def Retains (tree after : SettingsTree) : Prop :=
  ∀ block contents, tree.contentsOf? block = some contents →
    after.contentsOf? block = some contents

theorem Retains.refl (tree : SettingsTree) : tree.Retains tree := fun _ _ h => h

theorem Retains.trans (h : tree.Retains middle) (h' : middle.Retains after) :
    tree.Retains after :=
  fun block contents hcontents => h' block contents (h block contents hcontents)

theorem Retains.of_eq (h : ∀ block, after.contentsOf? block = tree.contentsOf? block) :
    tree.Retains after :=
  fun block _ hcontents => (h block).trans hcontents

/-- Only blocks that exist hold anything. -/
theorem lt_of_contentsOf? {contents : BlockContents}
    (h : tree.contentsOf? block = some contents) : block < tree.blocks.length := by
  rw [contentsOf?, Option.map_eq_some_iff] at h
  obtain ⟨found, hfound, -⟩ := h
  exact lt_of_block? hfound

theorem retains_add (tree : SettingsTree) (added : Block) : tree.Retains (tree.add added).1 := by
  intro block contents h
  rw [contentsOf?, block?_add_of_lt added (lt_of_contentsOf? h)]
  exact h

@[simp]
theorem contentsOf?_replace (tree : SettingsTree) (block parent other : BlockId) :
    (tree.replace block parent).1.contentsOf? other = tree.contentsOf? other := by
  rw [replace]
  split
  next registered hregister => simp [eq_attach_of_register hregister]
  next => simp

theorem retains_edit (tree : SettingsTree) (edit : Edit) : tree.Retains (edit.apply tree) := by
  cases edit with
  | create name contents => exact tree.retains_add _
  | register block parent =>
    rw [Edit.apply]
    cases hregister : tree.register block parent with
    | ok after =>
      refine .of_eq fun other => ?_
      simp [eq_attach_of_register hregister, Except.toOption]
    | error cause => exact .refl tree
  | replace block parent => exact .of_eq (tree.contentsOf?_replace block parent)
  | unregister block => exact .of_eq (tree.contentsOf?_unregister block)

end SettingsTree

variable {τ σ : Type}

namespace Act

/-- Publishing a block leaves what all blocks hold, also if it is refused. -/
theorem contentsOf?_publish (around : Surroundings τ σ) (block : BlockId) (name : String)
    (parent : BlockId) (world : World τ σ) (other : BlockId) :
    ((publish around block name parent).perform world).2.tree.contentsOf? other =
      world.tree.contentsOf? other := by
  obtain ⟨after, outcome, hafter, -, -, hreplacing⟩ :=
    perform_publish around block name parent world
  have htree : after.tree = (replacing around world.replacements (world.tree.rename block name)
      block parent).1 := by rw [hreplacing]
  rw [hafter, htree, replacing]
  split <;> simp

/-- Registering the replies of a session leaves what all blocks hold, also if one of them is
refused. -/
theorem contentsOf?_registerReplies (around : Surroundings τ σ) (session : Session τ)
    (world : World τ σ) (other : BlockId) :
    ((registerReplies around session).perform world).2.tree.contentsOf? other =
      world.tree.contentsOf? other := by
  rw [registerReplies]
  cases session.proxy with
  | none =>
    cases session.response with
    | none => rfl
    | some response => exact contentsOf?_publish around response _ _ world other
  | some proxy =>
    have first := contentsOf?_publish around proxy Block.proxyName SettingsTree.root world other
    obtain ⟨middle, published, hmiddle, -⟩ :=
      perform_publish around proxy Block.proxyName SettingsTree.root world
    rw [hmiddle] at first
    dsimp only
    rw [perform_bind_ok _ hmiddle]
    cases published with
    | error cause => exact first
    | ok _ =>
      cases session.response with
      | none => exact first
      | some response => exact (contentsOf?_publish around response _ _ middle other).trans first

end Act

namespace World

variable {around : Surroundings τ σ}

/-- A session that accepts its acknowledgement makes a block of it, and whatever comes of
registering its replies, all blocks hold what they held. -/
theorem retains_published {world start published : World τ σ} {who : SessionId}
    {session : Session τ} {data : Bytes} {outcome : Except SettingsTree.Error Unit}
    (agree : start.Agree (world.settled who session data))
    (publishes : (Act.registerReplies around (world.settling session data)).perform start =
      (.ok outcome, published)) : (world.grown data).tree.Retains published.tree := by
  have hcontents := Act.contentsOf?_registerReplies around (world.settling session data) start
  rw [publishes, agree.tree] at hcontents
  exact .of_eq hcontents

variable [TimeScale τ] {allowed : World τ σ → Event τ σ → Prop} {world after : World τ σ}

/-- Whatever moves, all blocks hold what they held. -/
theorem Move.retains {mover : Option SessionId} (move : Move around allowed mover world after) :
    world.tree.Retains after.tree := by
  cases move with
  | idle agree => exact agree.tree ▸ .refl _
  | edited _ edit => exact world.tree.retains_edit edit
  | kept data => exact world.tree.retains_add _
  | requested data => exact world.tree.retains_add _
  | acknowledged data _ _ _ _ _ agree publishes =>
    have hpublished := retains_published agree publishes
    exact (world.tree.retains_add _).trans hpublished
  | _ => exact .refl _

end World
end NetBoot
