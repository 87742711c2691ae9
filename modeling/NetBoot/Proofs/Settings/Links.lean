/-
# Links in a settings tree

What each operation on a settings tree does to the parent, the children and the name
of every block.  The rules hold for all numbers, also for those that no block has, so
they need no bookkeeping beyond the blocks that an operation names.
-/
import NetBoot.Settings.Tree
import Mathlib.Data.List.Nodup

namespace NetBoot.SettingsTree

variable {tree after : SettingsTree} {block parent other : BlockId}

theorem block?_modify (tree : SettingsTree) (block other : BlockId) (change : Block → Block) :
    (tree.modify block change).block? other =
      if block = other then (tree.block? other).map change else tree.block? other := by
  rw [block?, modify, List.getElem?_modify]
  split <;> cases h : tree.blocks[other]? <;> simp_all [block?]

@[simp]
theorem length_modify (tree : SettingsTree) (block : BlockId) (change : Block → Block) :
    (tree.modify block change).blocks.length = tree.blocks.length := by
  simp [modify]

theorem exists_block? (h : block < tree.blocks.length) :
    ∃ found, tree.block? block = some found :=
  ⟨tree.blocks[block], List.getElem?_eq_getElem h⟩

theorem lt_of_block? {found : Block} (h : tree.block? block = some found) :
    block < tree.blocks.length :=
  (List.getElem?_eq_some_iff.mp h).1

/-- Only blocks that exist have a parent. -/
theorem lt_of_parentOf (h : tree.parentOf block = some parent) :
    block < tree.blocks.length := by
  rw [parentOf, Option.bind_eq_some_iff] at h
  obtain ⟨found, hfound, _⟩ := h
  exact lt_of_block? hfound

/-- What a block holds. -/
def contentsOf? (tree : SettingsTree) (block : BlockId) : Option BlockContents :=
  (tree.block? block).map Block.contents

/-- A change of blocks that leaves their contents alone. -/
theorem contentsOf?_modify (tree : SettingsTree) (block other : BlockId)
    {change : Block → Block} (h : ∀ found, (change found).contents = found.contents) :
    (tree.modify block change).contentsOf? other = tree.contentsOf? other := by
  rw [contentsOf?, block?_modify, contentsOf?]
  split
  · simp [Function.comp_def, h]
  · rfl

/-! ## Making a block a child -/

@[simp]
theorem length_attach (tree : SettingsTree) (block parent : BlockId) :
    (tree.attach block parent).blocks.length = tree.blocks.length := by
  simp [attach]

theorem parentOf_attach (h : block < tree.blocks.length) (other : BlockId) :
    (tree.attach block parent).parentOf other =
      if block = other then some parent else tree.parentOf other := by
  obtain ⟨found, hfound⟩ := exists_block? h
  rw [parentOf, attach, block?_modify, block?_modify, parentOf]
  by_cases hblock : block = other
  · subst hblock
    by_cases hparent : parent = block <;> simp [hparent, hfound]
  · cases tree.block? other <;> by_cases hparent : parent = other <;> simp [hblock, hparent]

theorem childrenOf_attach (h : parent < tree.blocks.length) (other : BlockId) :
    (tree.attach block parent).childrenOf other =
      if parent = other then tree.childrenOf other ++ [block] else tree.childrenOf other := by
  obtain ⟨found, hfound⟩ := exists_block? h
  rw [childrenOf, attach, block?_modify, block?_modify, childrenOf]
  by_cases hparent : parent = other
  · subst hparent
    by_cases hblock : block = parent <;> simp [hblock, hfound]
  · cases tree.block? other <;> by_cases hblock : block = other <;> simp [hblock, hparent]

@[simp]
theorem nameOf_attach (tree : SettingsTree) (block parent other : BlockId) :
    (tree.attach block parent).nameOf other = tree.nameOf other := by
  rw [nameOf, attach, block?_modify, block?_modify, nameOf]
  cases tree.block? other <;> by_cases hblock : block = other <;>
    by_cases hparent : parent = other <;> simp [hblock, hparent]

@[simp]
theorem contentsOf?_attach (tree : SettingsTree) (block parent other : BlockId) :
    (tree.attach block parent).contentsOf? other = tree.contentsOf? other := by
  rw [attach, contentsOf?_modify, contentsOf?_modify]
  all_goals exact fun _ => rfl

/-! ## Taking a block out -/

theorem unregister_of_orphan (h : tree.parentOf block = none) :
    tree.unregister block = tree := by
  rw [unregister, h]

@[simp]
theorem length_unregister (tree : SettingsTree) (block : BlockId) :
    (tree.unregister block).blocks.length = tree.blocks.length := by
  rw [unregister]
  split <;> simp

theorem parentOf_unregister (tree : SettingsTree) (block other : BlockId) :
    (tree.unregister block).parentOf other =
      if block = other then none else tree.parentOf other := by
  cases hparent : tree.parentOf block with
  | none =>
    rw [unregister_of_orphan hparent]
    by_cases hblock : block = other
    · rw [if_pos hblock, ← hblock, hparent]
    · rw [if_neg hblock]
  | some parent =>
    rw [unregister, hparent]
    change (modify _ _ _).parentOf other = _
    rw [parentOf, block?_modify, block?_modify, parentOf]
    cases tree.block? other <;> by_cases hblock : block = other <;>
      by_cases hother : parent = other <;> simp [hblock, hother]

theorem childrenOf_unregister (h : tree.parentOf block = some parent) (other : BlockId) :
    (tree.unregister block).childrenOf other =
      if parent = other then (tree.childrenOf other).erase block
      else tree.childrenOf other := by
  rw [unregister, h]
  change (modify _ _ _).childrenOf other = _
  rw [childrenOf, block?_modify, block?_modify, childrenOf]
  cases tree.block? other <;> by_cases hblock : block = other <;>
    by_cases hother : parent = other <;> simp [hblock, hother]

@[simp]
theorem nameOf_unregister (tree : SettingsTree) (block other : BlockId) :
    (tree.unregister block).nameOf other = tree.nameOf other := by
  rw [unregister]
  split
  · rfl
  · rw [nameOf, block?_modify, block?_modify, nameOf]
    cases tree.block? other <;> split <;> split <;> simp

@[simp]
theorem contentsOf?_unregister (tree : SettingsTree) (block other : BlockId) :
    (tree.unregister block).contentsOf? other = tree.contentsOf? other := by
  rw [unregister]
  split
  · rfl
  · rw [contentsOf?_modify, contentsOf?_modify]
    all_goals exact fun _ => rfl

/-! ## New blocks and new names -/

@[simp]
theorem length_add (tree : SettingsTree) (added : Block) :
    (tree.add added).1.blocks.length = tree.blocks.length + 1 := by
  simp [add]

theorem block?_add_of_lt (added : Block) (h : other < tree.blocks.length) :
    (tree.add added).1.block? other = tree.block? other := by
  rw [block?, add, List.getElem?_append_left h, block?]

theorem block?_add_self (tree : SettingsTree) (added : Block) :
    (tree.add added).1.block? tree.blocks.length = some added := by
  simp [block?, add]

theorem block?_length (tree : SettingsTree) : tree.block? tree.blocks.length = none := by
  simp [block?]

theorem block?_add_of_gt (added : Block) (h : tree.blocks.length < other) :
    (tree.add added).1.block? other = none ∧ tree.block? other = none := by
  constructor <;> simp only [block?, add, List.getElem?_eq_none_iff, List.length_append,
    List.length_singleton] <;> omega

/-- A new block without a parent changes the parent of no number. -/
theorem parentOf_add {added : Block} (h : added.parent = none) (other : BlockId) :
    (tree.add added).1.parentOf other = tree.parentOf other := by
  rw [parentOf, parentOf]
  rcases Nat.lt_trichotomy other tree.blocks.length with hlt | rfl | hgt
  · rw [block?_add_of_lt added hlt]
  · rw [block?_add_self, block?_length]
    exact h
  · rw [(block?_add_of_gt added hgt).1, (block?_add_of_gt added hgt).2]

/-- A new block without children changes the children of no number. -/
theorem childrenOf_add {added : Block} (h : added.children = []) (other : BlockId) :
    (tree.add added).1.childrenOf other = tree.childrenOf other := by
  rw [childrenOf, childrenOf]
  rcases Nat.lt_trichotomy other tree.blocks.length with hlt | rfl | hgt
  · rw [block?_add_of_lt added hlt]
  · rw [block?_add_self, block?_length]
    exact h
  · rw [(block?_add_of_gt added hgt).1, (block?_add_of_gt added hgt).2]

theorem nameOf_add_of_lt (added : Block) (h : other < tree.blocks.length) :
    (tree.add added).1.nameOf other = tree.nameOf other := by
  rw [nameOf, block?_add_of_lt added h, nameOf]

@[simp]
theorem length_rename (tree : SettingsTree) (block : BlockId) (name : String) :
    (tree.rename block name).blocks.length = tree.blocks.length := by
  simp [rename]

@[simp]
theorem parentOf_rename (tree : SettingsTree) (block other : BlockId) (name : String) :
    (tree.rename block name).parentOf other = tree.parentOf other := by
  rw [parentOf, rename, block?_modify, parentOf]
  cases tree.block? other <;> split <;> simp

@[simp]
theorem childrenOf_rename (tree : SettingsTree) (block other : BlockId) (name : String) :
    (tree.rename block name).childrenOf other = tree.childrenOf other := by
  rw [childrenOf, rename, block?_modify, childrenOf]
  cases tree.block? other <;> split <;> simp

theorem nameOf_rename_self (name : String) (h : block < tree.blocks.length) :
    (tree.rename block name).nameOf block = name := by
  obtain ⟨found, hfound⟩ := exists_block? h
  rw [nameOf, rename, block?_modify, hfound]
  simp

theorem nameOf_rename_of_ne (name : String) (h : block ≠ other) :
    (tree.rename block name).nameOf other = tree.nameOf other := by
  rw [nameOf, rename, block?_modify, if_neg h, nameOf]

@[simp]
theorem contentsOf?_rename (tree : SettingsTree) (block other : BlockId) (name : String) :
    (tree.rename block name).contentsOf? other = tree.contentsOf? other := by
  rw [rename, contentsOf?_modify]
  exact fun _ => rfl

theorem contentsOf?_add_self (tree : SettingsTree) (added : Block) :
    (tree.add added).1.contentsOf? tree.blocks.length = some added.contents := by
  rw [contentsOf?, block?_add_self]
  rfl

end NetBoot.SettingsTree
