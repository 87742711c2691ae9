/-
# What publishing a block changes

A block is published by giving it a name and putting it in the place of its namesake.  The name
of a block that is not registered is seen by nobody, so giving it changes no link.  Taking the
place of a namesake changes three: the block becomes the last child of the parent, the namesake
leaves, and everything else stays.
-/
import NetBoot.Proofs.Settings.Replacement

namespace NetBoot.SettingsTree

variable {tree middle after : SettingsTree} {block parent other : BlockId} {name : String}

/-! ## Trees that look the same -/

/-- The same blocks are registered, below the same parents, in the same order and under the
same names. -/
structure SameLinks (tree after : SettingsTree) : Prop where
  parents : ∀ other, after.parentOf other = tree.parentOf other
  children : ∀ other, after.childrenOf other = tree.childrenOf other
  names : ∀ other, after.parentOf other ≠ none → after.nameOf other = tree.nameOf other

namespace SameLinks

theorem trans (h : tree.SameLinks middle) (h' : middle.SameLinks after) : tree.SameLinks after where
  parents other := (h'.parents other).trans (h.parents other)
  children other := (h'.children other).trans (h.children other)
  names other registered :=
    (h'.names other registered).trans (h.names other (h'.parents other ▸ registered))

/-- A new block that is linked to no other one. -/
theorem add (tree : SettingsTree) {added : Block} (hparent : added.parent = none)
    (hchildren : added.children = []) : tree.SameLinks (tree.add added).1 where
  parents := parentOf_add hparent
  children := childrenOf_add hchildren
  names other registered := by
    obtain ⟨above, habove⟩ := Option.ne_none_iff_exists'.mp registered
    rw [parentOf_add hparent] at habove
    exact nameOf_add_of_lt added (lt_of_parentOf habove)

/-- A new name for a block that is not registered. -/
theorem rename (orphan : tree.parentOf block = none) (name : String) :
    tree.SameLinks (tree.rename block name) where
  parents other := by simp
  children other := by simp
  names other registered := by
    refine nameOf_rename_of_ne name ?_
    rintro rfl
    rw [parentOf_rename] at registered
    exact registered orphan

/-- Children have the same names. -/
theorem nameOf_child (h : tree.SameLinks after) (coherent : tree.Coherent)
    (child : other ∈ tree.childrenOf parent) : after.nameOf other = tree.nameOf other := by
  have hparent := (coherent.mem_childrenOf_iff parent other).mp child
  refine h.names other ?_
  rw [h.parents, hparent]
  simp

/-- The same is found. -/
theorem findChild?_eq (h : tree.SameLinks after) (coherent : tree.Coherent) (parent : BlockId)
    (name : String) : after.findChild? parent name = tree.findChild? parent name := by
  rw [findChild?, findChild?, h.children, ← List.head?_filter, ← List.head?_filter]
  refine congrArg List.head? (List.filter_congr fun child mem => ?_)
  rw [h.nameOf_child coherent mem]

end SameLinks

/-! ## Taking the place of a namesake -/

/-- A block that was not registered has taken the place of its namesake, if there was one: it is
the last child of the parent, the namesake is registered nowhere, and all other links are what
they were. -/
structure Supplants (tree after : SettingsTree) (block : BlockId) (name : String)
    (parent : BlockId) : Prop where
  nameOf : after.nameOf block = name
  parents : ∀ other, after.parentOf other =
    if block = other then some parent
    else if tree.findChild? parent name = some other then none else tree.parentOf other
  children : ∀ other, after.childrenOf other =
    if parent = other then
      ((tree.childrenOf other).filter fun child => tree.nameOf child ≠ name) ++ [block]
    else tree.childrenOf other
  names : ∀ other, block ≠ other → after.parentOf other ≠ none →
    after.nameOf other = tree.nameOf other

/-- Replacing its namesake by a block that is not registered. -/
theorem Coherent.supplants_replace (coherent : tree.Coherent)
    (orphan : tree.parentOf block = none) (hblock : block < tree.blocks.length)
    (hparent : parent < tree.blocks.length) :
    tree.Supplants (tree.replace block parent).1 block (tree.nameOf block) parent := by
  rw [coherent.replace_eq orphan]
  have hblock' : block < (tree.vacate parent (tree.nameOf block)).blocks.length := by
    rwa [length_vacate]
  have hparent' : parent < (tree.vacate parent (tree.nameOf block)).blocks.length := by
    rwa [length_vacate]
  refine ⟨by simp, fun other => ?_, fun other => ?_, fun other _ _ => by simp⟩
  · rw [parentOf_attach hblock', parentOf_vacate]
  · rw [childrenOf_attach hparent', coherent.childrenOf_vacate]
    split <;> rfl

namespace Supplants

/-- Where nobody sees a difference before, there is none to the place that is taken. -/
theorem of_sameLinks (same : tree.SameLinks middle) (coherent : tree.Coherent)
    (h : middle.Supplants after block name parent) : tree.Supplants after block name parent where
  nameOf := h.nameOf
  parents other := by rw [h.parents, same.findChild?_eq coherent, same.parents]
  children other := by
    rw [h.children, same.children]
    split
    next =>
      refine congrArg (· ++ [block]) (List.filter_congr fun child mem => ?_)
      rw [same.nameOf_child coherent mem]
    next => rfl
  names other hother registered := by
    rw [h.names other hother registered]
    refine same.names other fun orphan => registered ?_
    rw [h.parents, if_neg hother, orphan, ite_self]

/-- What nobody sees afterwards changes nothing about the place that is taken. -/
theorem trans_sameLinks (h : tree.Supplants middle block name parent)
    (same : middle.SameLinks after) : tree.Supplants after block name parent where
  nameOf := by
    rw [same.names block, h.nameOf]
    rw [same.parents, h.parents, if_pos rfl]
    simp
  parents other := (same.parents other).trans (h.parents other)
  children other := (same.children other).trans (h.children other)
  names other hother registered := by
    rw [same.names other registered]
    exact h.names other hother (same.parents other ▸ registered)

/-- A block that takes a place is seen. -/
theorem not_sameLinks (h : tree.Supplants after block name parent)
    (orphan : tree.parentOf block = none) : ¬ tree.SameLinks after := by
  intro same
  have hparent := h.parents block
  rw [if_pos rfl, same.parents, orphan] at hparent
  cases hparent

/-- Other blocks that are not registered stay so. -/
theorem parentOf_eq_none (h : tree.Supplants after block name parent) (hother : block ≠ other)
    (orphan : tree.parentOf other = none) : after.parentOf other = none := by
  rw [h.parents, if_neg hother, orphan, ite_self]

end Supplants

end NetBoot.SettingsTree
