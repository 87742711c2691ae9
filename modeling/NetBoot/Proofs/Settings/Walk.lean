/-
# Walking through a forest of settings blocks

A walk visits a block and then, child by child, all blocks below it.  In a forest it visits each
of them once, whatever the shape of the forest.  So what happens to the children of one block
changes a walk in one place only: where this block and those below it stand, their new walk
stands instead.  A block that is registered comes with its own walk, right behind the last block
below its parent, and a block that is taken out takes its walk away.

Looking for the value of an option asks the blocks in this order, and the first one that has a
value counts.
-/
import NetBoot.Proofs.Settings.Ancestry
import Mathlib.Data.List.Nodup

namespace NetBoot.SettingsTree

variable {tree after : SettingsTree} {block parent child other : BlockId}
variable {lower upper : BlockId} {tag : Tag} {value : Bytes}

namespace Forest

/-! ## What a walk visits -/

/-- A walk that may go deeper than there are blocks below visits no more. -/
theorem walkDown_eq (forest : tree.Forest) {depth more : Nat}
    (hdepth : (below tree block).ncard < depth) (hmore : (below tree block).ncard < more) :
    tree.walkDown depth block = tree.walkDown more block := by
  induction depth generalizing more block with
  | zero => exact absurd hdepth (Nat.not_lt_zero _)
  | succ depth ih =>
    obtain ⟨more, rfl⟩ := Nat.exists_eq_add_one.mpr (Nat.zero_lt_of_lt hmore)
    rw [walkDown, walkDown]
    refine congrArg (block :: ·) (List.flatMap_congr fun child mem => ?_)
    have hchild := forest.ncard_below_lt ((forest.mem_childrenOf_iff block child).mp mem)
    exact ih (by omega) (by omega)

/-- A walk visits the block, and then walks from each of its children. -/
theorem walk_eq (forest : tree.Forest) (known : block < tree.blocks.length) :
    tree.walk block = block :: (tree.childrenOf block).flatMap tree.walk := by
  obtain ⟨depth, hdepth⟩ := Nat.exists_eq_add_one.mpr (Nat.zero_lt_of_lt known)
  have hblock := forest.ncard_below_lt_length known
  rw [walk, hdepth, walkDown]
  refine congrArg (block :: ·) (List.flatMap_congr fun child mem => ?_)
  have hchild := forest.ncard_below_lt ((forest.mem_childrenOf_iff block child).mp mem)
  exact forest.walkDown_eq (by omega) (by omega)

/-- A walk visits the block and all blocks below it. -/
theorem mem_walk_iff (forest : tree.Forest) (known : block < tree.blocks.length) :
    other ∈ tree.walk block ↔ tree.AtOrAbove block other := by
  induction block using forest.children_induction with
  | step block ih =>
    rw [forest.walk_eq known, List.mem_cons, List.mem_flatMap, AtOrAbove,
      Relation.ReflTransGen.cases_head_iff, eq_comm]
    refine or_congr_right (exists_congr fun child => ?_)
    rw [forest.mem_childrenOf_iff]
    exact and_congr_right fun hchild => ih child hchild (lt_of_parentOf hchild)

/-- Walks from different children of a block have no block in common. -/
theorem disjoint_walk (forest : tree.Forest) {first second : BlockId}
    (hfirst : first ∈ tree.childrenOf parent) (hsecond : second ∈ tree.childrenOf parent)
    (hne : first ≠ second) : (tree.walk first).Disjoint (tree.walk second) := by
  intro lower mem mem'
  rw [forest.mem_childrenOf_iff] at hfirst hsecond
  rw [forest.mem_walk_iff (lt_of_parentOf hfirst)] at mem
  rw [forest.mem_walk_iff (lt_of_parentOf hsecond)] at mem'
  exact hne (forest.eq_of_siblings hfirst hsecond mem mem')

/-- A walk visits no block twice. -/
theorem nodup_walk (forest : tree.Forest) (known : block < tree.blocks.length) :
    (tree.walk block).Nodup := by
  induction block using forest.children_induction with
  | step block ih =>
    have hparent {child : BlockId} (mem : child ∈ tree.childrenOf block) :
        tree.IsParent block child := (forest.mem_childrenOf_iff block child).mp mem
    rw [forest.walk_eq known, List.nodup_cons, List.nodup_flatMap]
    refine ⟨?_, fun child mem => ih child (hparent mem) (lt_of_parentOf (hparent mem)), ?_⟩
    · rw [List.mem_flatMap]
      rintro ⟨child, mem, hblock⟩
      rw [forest.mem_walk_iff (lt_of_parentOf (hparent mem))] at hblock
      exact forest.acyclic block (.head' (hparent mem) hblock)
    · exact (forest.nodup block).pairwise_of_forall_ne
        fun first hfirst second hsecond => forest.disjoint_walk hfirst hsecond

/-! ## Other children of one block -/

/-- Two trees have the same blocks, and at most one of these has other children. -/
structure DiffersAt (tree after : SettingsTree) (parent : BlockId) : Prop where
  length : after.blocks.length = tree.blocks.length
  children : ∀ other, other ≠ parent → after.childrenOf other = tree.childrenOf other

/-- A walk that does not visit the block with other children is the same. -/
theorem walk_eq_of_not_mem (forest : tree.Forest) (forest' : after.Forest)
    (differs : DiffersAt tree after parent) (known : block < tree.blocks.length)
    (apart : parent ∉ tree.walk block) : after.walk block = tree.walk block := by
  induction block using forest.children_induction with
  | step block ih =>
    rw [forest.walk_eq known, List.mem_cons, List.mem_flatMap, not_or] at apart
    rw [forest.walk_eq known, forest'.walk_eq (differs.length ▸ known),
      differs.children block (Ne.symm apart.1)]
    refine congrArg (block :: ·) (List.flatMap_congr fun child mem => ?_)
    have hchild := (forest.mem_childrenOf_iff block child).mp mem
    exact ih child hchild (lt_of_parentOf hchild) fun hparent => apart.2 ⟨child, mem, hparent⟩

theorem flatMap_walk_eq (forest : tree.Forest) (forest' : after.Forest)
    (differs : DiffersAt tree after parent) {blocks : List BlockId}
    (apart : ∀ block ∈ blocks, block < tree.blocks.length ∧ parent ∉ tree.walk block) :
    blocks.flatMap after.walk = blocks.flatMap tree.walk := by
  refine List.flatMap_congr fun block mem => ?_
  obtain ⟨known, hblock⟩ := apart block mem
  exact forest.walk_eq_of_not_mem forest' differs known hblock

/-- In a walk that visits the block with other children, its new walk stands in the place of the
old one. -/
theorem walk_around (forest : tree.Forest) (forest' : after.Forest)
    (differs : DiffersAt tree after parent) (known : block < tree.blocks.length)
    (mem : parent ∈ tree.walk block) : ∃ before behind,
      tree.walk block = before ++ tree.walk parent ++ behind ∧
        after.walk block = before ++ after.walk parent ++ behind := by
  induction block using forest.children_induction with
  | step block ih =>
    by_cases hsame : block = parent
    · subst hsame
      exact ⟨[], [], by simp, by simp⟩
    · -- the walk from one child visits the block, and those from the others are the same
      rw [forest.walk_eq known, List.mem_cons, List.mem_flatMap] at mem
      obtain ⟨child, hchild, mem⟩ := mem.resolve_left (Ne.symm hsame)
      have hparent := (forest.mem_childrenOf_iff block child).mp hchild
      have hothers (sibling : BlockId) (hsibling : sibling ∈ tree.childrenOf block)
          (hne : sibling ≠ child) : sibling < tree.blocks.length ∧ parent ∉ tree.walk sibling :=
        ⟨lt_of_parentOf ((forest.mem_childrenOf_iff block sibling).mp hsibling),
          fun hboth => forest.disjoint_walk hsibling hchild hne hboth mem⟩
      obtain ⟨front, rest, hsplit⟩ := List.append_of_mem hchild
      have hnodup := forest.nodup block
      rw [hsplit, List.nodup_middle, List.nodup_cons, List.mem_append, not_or] at hnodup
      have hfront := forest.flatMap_walk_eq forest' differs fun sibling hmem =>
        hothers sibling (by simp [hsplit, hmem]) fun hsame => hnodup.1.1 (hsame ▸ hmem)
      have hrest := forest.flatMap_walk_eq forest' differs fun sibling hmem =>
        hothers sibling (by simp [hsplit, hmem]) fun hsame => hnodup.1.2 (hsame ▸ hmem)
      obtain ⟨before, behind, hbefore, hafter⟩ := ih child hparent (lt_of_parentOf hparent) mem
      refine ⟨block :: front.flatMap tree.walk ++ before, behind ++ rest.flatMap tree.walk, ?_, ?_⟩
      · rw [forest.walk_eq known, hsplit, List.flatMap_append, List.flatMap_cons, hbefore]
        simp
      · rw [forest'.walk_eq (differs.length ▸ known), differs.children block hsame, hsplit,
          List.flatMap_append, List.flatMap_cons, hafter, hfront, hrest]
        simp

/-- The walk from a block stands together in every walk that visits the block. -/
theorem walk_infix (forest : tree.Forest) (known : block < tree.blocks.length)
    (mem : other ∈ tree.walk block) : ∃ before behind,
      tree.walk block = before ++ tree.walk other ++ behind := by
  have same : DiffersAt tree tree other := ⟨rfl, fun _ _ => rfl⟩
  obtain ⟨before, behind, hwalk, -⟩ := forest.walk_around forest same known mem
  exact ⟨before, behind, hwalk⟩

/-- A walk visits a block before all that are below it. -/
theorem mem_behind_of_above (forest : tree.Forest) (known : block < tree.blocks.length)
    (mem : upper ∈ tree.walk block) (above : tree.Above upper lower) :
    ∃ before behind, tree.walk block = before ++ upper :: behind ∧ lower ∈ behind := by
  have hupper : upper < tree.blocks.length := forest.toLinked.lt_of_above above
  obtain ⟨before, behind, hwalk⟩ := forest.walk_infix known mem
  have hlower : lower ∈ tree.walk upper := (forest.mem_walk_iff hupper).mpr above.to_reflTransGen
  rw [forest.walk_eq hupper] at hlower hwalk
  refine ⟨before, (tree.childrenOf upper).flatMap tree.walk ++ behind, by simpa using hwalk, ?_⟩
  rcases List.mem_cons.mp hlower with rfl | hlower
  · exact absurd above (forest.acyclic lower)
  · exact List.mem_append_left behind hlower

/-! ## Registering and taking out -/

theorem differsAt_attach (tree : SettingsTree) (block : BlockId)
    (hparent : parent < tree.blocks.length) : DiffersAt tree (tree.attach block parent) parent where
  length := length_attach tree block parent
  children other hne := by rw [childrenOf_attach hparent, if_neg hne.symm]

theorem differsAt_unregister (hparent : tree.parentOf block = some parent) :
    DiffersAt tree (tree.unregister block) parent where
  length := length_unregister tree block
  children other hne := by rw [childrenOf_unregister hparent, if_neg hne.symm]

/-- No walk from a child of a block visits the block. -/
theorem not_mem_walk_child (forest : tree.Forest) (mem : child ∈ tree.childrenOf parent) :
    child < tree.blocks.length ∧ parent ∉ tree.walk child := by
  have hchild := (forest.mem_childrenOf_iff parent child).mp mem
  refine ⟨lt_of_parentOf hchild, fun hparent => forest.acyclic parent (.head' hchild ?_)⟩
  exact (forest.mem_walk_iff (lt_of_parentOf hchild)).mp hparent

/-- A registered block brings its walk to the end of the walk from its new parent. -/
theorem walk_attach (forest : tree.Forest) (horphan : tree.parentOf block = none)
    (hblock : block < tree.blocks.length) (hparent : parent < tree.blocks.length)
    (apart : ¬ tree.AtOrAbove block parent) :
    (tree.attach block parent).walk parent = tree.walk parent ++ tree.walk block := by
  have forest' := forest.attach horphan hblock hparent apart
  have differs := differsAt_attach tree block hparent
  have hchildren := forest.flatMap_walk_eq forest' differs fun child mem =>
    forest.not_mem_walk_child mem
  have hbrought : (tree.attach block parent).walk block = tree.walk block :=
    forest.walk_eq_of_not_mem forest' differs hblock
      fun mem => apart ((forest.mem_walk_iff hblock).mp mem)
  rw [forest'.walk_eq (by simpa using hparent), forest.walk_eq hparent,
    childrenOf_attach hparent, if_pos rfl, List.flatMap_append, hchildren,
    List.flatMap_singleton, hbrought, List.cons_append]

/-- A block that is taken out takes its walk away from the walk from its parent. -/
theorem walk_unregister (forest : tree.Forest) (hparent : tree.parentOf block = some parent) :
    ∃ before behind, tree.walk parent = before ++ tree.walk block ++ behind ∧
      (tree.unregister block).walk parent = before ++ behind := by
  have forest' := forest.unregister block
  have differs := differsAt_unregister hparent
  have hmem := (forest.mem_childrenOf_iff parent block).mpr hparent
  have known := lt_of_mem_childrenOf hmem
  obtain ⟨front, rest, hsplit⟩ := List.append_of_mem hmem
  have hothers (child : BlockId) (mem : child ∈ front ++ rest) :
      child < tree.blocks.length ∧ parent ∉ tree.walk child := by
    refine forest.not_mem_walk_child ?_
    rw [hsplit, List.perm_middle.mem_iff]
    exact List.mem_cons_of_mem block mem
  have herase : (tree.unregister block).childrenOf parent = front ++ rest := by
    rw [childrenOf_unregister hparent, if_pos rfl, hsplit,
      erase_between (hsplit ▸ forest.nodup parent)]
  refine ⟨parent :: front.flatMap tree.walk, rest.flatMap tree.walk, ?_, ?_⟩
  · rw [forest.walk_eq known, hsplit]
    simp
  · rw [forest'.walk_eq (by simpa using known), herase,
      forest.flatMap_walk_eq forest' differs hothers, List.flatMap_append, List.cons_append]

end Forest

/-! ## Looking for a value -/

/-- The values of a block are a matter of what it holds. -/
theorem fetchAt_eq (h : after.contentsOf? block = tree.contentsOf? block) (tag : Tag) :
    after.fetchAt block tag = tree.fetchAt block tag := by
  rw [contentsOf?, contentsOf?] at h
  rw [fetchAt, fetchAt]
  cases hafter : after.block? block <;> cases htree : tree.block? block <;>
    simp_all [Block.fetch]

/-- There is no value if and only if no block that the walk visits has one. -/
theorem fetch_eq_none_iff :
    tree.fetch block tag = none ↔ ∀ other ∈ tree.walk block, tree.fetchAt other tag = none :=
  List.findSome?_eq_none_iff

/-- A value is that of the first block of the walk which has one. -/
theorem fetch_eq_some_iff :
    tree.fetch block tag = some value ↔ ∃ before holder behind,
      tree.walk block = before ++ holder :: behind ∧ tree.fetchAt holder tag = some value ∧
        ∀ earlier ∈ before, tree.fetchAt earlier tag = none :=
  List.findSome?_eq_some_iff

/-- Blocks that are visited behind one with a value do not matter. -/
theorem fetch_eq_of_walk {front rest rest' : List BlockId}
    (contents : ∀ other, after.contentsOf? other = tree.contentsOf? other)
    (hwalk : tree.walk block = front ++ rest) (hwalk' : after.walk block = front ++ rest')
    (holds : ∃ holder ∈ front, tree.fetchAt holder tag ≠ none) :
    after.fetch block tag = tree.fetch block tag := by
  have hvalues : (after.fetchAt · tag) = (tree.fetchAt · tag) :=
    funext fun other => fetchAt_eq (contents other) tag
  have hfront : front.findSome? (tree.fetchAt · tag) ≠ none := by
    obtain ⟨holder, mem, hvalue⟩ := holds
    exact fun h => hvalue (List.findSome?_eq_none_iff.mp h holder mem)
  obtain ⟨value, hvalue⟩ := Option.ne_none_iff_exists'.mp hfront
  rw [fetch, fetch, hwalk, hwalk', hvalues, List.findSome?_append, List.findSome?_append, hvalue,
    Option.some_or, Option.some_or]

/-! ## Walks from the root -/

namespace WellFormed

theorem mem_walk_root_iff (wellFormed : tree.WellFormed) :
    block ∈ tree.walk root ↔ ∃ names, tree.Reaches root names block := by
  rw [wellFormed.mem_walk_iff wellFormed.known, wellFormed.toLinked.exists_reaches_iff]

theorem lt_of_mem_walk (wellFormed : tree.WellFormed) (mem : block ∈ tree.walk root) :
    block < tree.blocks.length := by
  rw [wellFormed.mem_walk_iff wellFormed.known] at mem
  rcases Relation.ReflTransGen.cases_tail mem with rfl | ⟨_, -, hparent⟩
  · exact wellFormed.known
  · exact lt_of_parentOf hparent

/-- A block other than the root which has no parent is not above any block below the root. -/
theorem apart (wellFormed : tree.WellFormed) (horphan : tree.parentOf block = none)
    (hroot : block ≠ root) (mem : parent ∈ tree.walk root) : ¬ tree.AtOrAbove block parent := by
  intro h
  rw [wellFormed.mem_walk_iff wellFormed.known] at mem
  rcases h.total mem with h | h
  · exact hroot (h.eq_of_top wellFormed.top)
  · exact hroot (h.eq_of_top horphan).symm

/-- Registering a block below the root or a block below that. -/
theorem register_below (wellFormed : tree.WellFormed) (hblock : block < tree.blocks.length)
    (hroot : block ≠ root) (mem : parent ∈ tree.walk root)
    (h : tree.register block parent = .ok after) : after.WellFormed :=
  wellFormed.register hblock (wellFormed.lt_of_mem_walk mem) hroot
    (wellFormed.apart (register_cases h).1 hroot mem) h

/-- A registered block brings its walk, right behind the walk from its new parent. -/
theorem walk_register (wellFormed : tree.WellFormed) (hblock : block < tree.blocks.length)
    (hroot : block ≠ root) (mem : parent ∈ tree.walk root)
    (h : tree.register block parent = .ok after) : ∃ before behind,
      tree.walk root = before ++ tree.walk parent ++ behind ∧
        after.walk root = before ++ tree.walk parent ++ tree.walk block ++ behind := by
  have forest' := (wellFormed.register_below hblock hroot mem h).toForest
  obtain ⟨horphan, -, rfl⟩ := register_cases h
  have hparent := wellFormed.lt_of_mem_walk mem
  obtain ⟨before, behind, hwalk, hwalk'⟩ := wellFormed.walk_around forest'
    (Forest.differsAt_attach tree block hparent) wellFormed.known mem
  refine ⟨before, behind, hwalk, ?_⟩
  rw [hwalk', wellFormed.walk_attach horphan hblock hparent
    (wellFormed.apart horphan hroot mem), ← List.append_assoc before]

/-- A block that is taken out takes its walk away. -/
theorem walk_unregister_of_mem (wellFormed : tree.WellFormed) (hroot : block ≠ root)
    (mem : block ∈ tree.walk root) : ∃ before behind,
      tree.walk root = before ++ tree.walk block ++ behind ∧
        (tree.unregister block).walk root = before ++ behind := by
  rw [wellFormed.mem_walk_iff wellFormed.known] at mem
  obtain ⟨parent, habove, hparent⟩ :=
    (Relation.ReflTransGen.cases_tail mem).resolve_left hroot
  obtain ⟨before, behind, hwalk, hwalk'⟩ := wellFormed.walk_around
    (wellFormed.toForest.unregister block) (Forest.differsAt_unregister hparent) wellFormed.known
    ((wellFormed.mem_walk_iff wellFormed.known).mpr habove)
  obtain ⟨front, rest, hparent, hparent'⟩ := wellFormed.toForest.walk_unregister hparent
  refine ⟨before ++ front, rest ++ behind, ?_, ?_⟩
  · simp [hwalk, hparent]
  · simp [hwalk', hparent']

/-- Nothing changes for the root if a block is taken out that is not below it. -/
theorem walk_unregister_of_not_mem (wellFormed : tree.WellFormed)
    (h : block ∉ tree.walk root ∨ block = root) :
    (tree.unregister block).walk root = tree.walk root := by
  cases hparent : tree.parentOf block with
  | none => rw [unregister_of_orphan hparent]
  | some parent =>
    refine wellFormed.walk_eq_of_not_mem (wellFormed.toForest.unregister block)
      (Forest.differsAt_unregister hparent) wellFormed.known fun mem => ?_
    rcases h with h | rfl
    · rw [wellFormed.mem_walk_iff wellFormed.known] at mem h
      exact h (mem.tail hparent)
    · rw [wellFormed.top] at hparent
      cases hparent

/-- In a well-formed tree the walk from the root visits every block that is reached from the root
once: each block before those below it, and the subtrees of siblings one behind the other, in the
order of the children.

Registering a block without a parent below a block that is reached puts its walk right behind the
subtree of its new parent, and taking a block out removes its walk; nothing else of the order
changes.  (The root has no parent, so it cannot be taken out.)

An option has a value for the root if and only if a block that is reached has one.  It is the
value of the first such block in this order, and blocks that are registered behind that one have
no influence on it. -/
theorem walk_orders_blocks (wellFormed : tree.WellFormed) :
    (tree.walk root).Nodup ∧
    (∀ block, block ∈ tree.walk root ↔ ∃ names, tree.Reaches root names block) ∧
    (∀ block ∈ tree.walk root,
      tree.walk block = block :: (tree.childrenOf block).flatMap tree.walk ∧
      ∃ before behind, tree.walk root = before ++ tree.walk block ++ behind) ∧
    (∀ upper ∈ tree.walk root, ∀ lower, tree.Above upper lower →
      ∃ before behind, tree.walk root = before ++ upper :: behind ∧ lower ∈ behind) ∧
    (∀ block parent after, block < tree.blocks.length → block ≠ root →
      parent ∈ tree.walk root → tree.register block parent = .ok after →
      after.WellFormed ∧ ∃ before behind,
        tree.walk root = before ++ tree.walk parent ++ behind ∧
        after.walk root = before ++ tree.walk parent ++ tree.walk block ++ behind ∧
        ∀ tag, (∃ holder ∈ before ++ tree.walk parent, tree.fetchAt holder tag ≠ none) →
          after.fetch root tag = tree.fetch root tag) ∧
    (∀ block, (tree.unregister block).WellFormed ∧
      (block ∈ tree.walk root → block ≠ root → ∃ before behind,
        tree.walk root = before ++ tree.walk block ++ behind ∧
        (tree.unregister block).walk root = before ++ behind) ∧
      (block ∉ tree.walk root ∨ block = root →
        (tree.unregister block).walk root = tree.walk root)) ∧
    (∀ tag, tree.fetch root tag = none ↔
      ∀ block names, tree.Reaches root names block → tree.fetchAt block tag = none) ∧
    ∀ tag value, tree.fetch root tag = some value ↔ ∃ before holder behind,
      tree.walk root = before ++ holder :: behind ∧ tree.fetchAt holder tag = some value ∧
        ∀ earlier ∈ before, tree.fetchAt earlier tag = none := by
  have known := wellFormed.known
  refine ⟨wellFormed.nodup_walk known, fun block => wellFormed.mem_walk_root_iff,
    fun block mem => ⟨wellFormed.walk_eq (wellFormed.lt_of_mem_walk mem),
      wellFormed.walk_infix known mem⟩,
    fun upper mem lower above => wellFormed.mem_behind_of_above known mem above,
    fun block parent after hblock hroot mem h => ?_, fun block => ?_, fun tag => ?_,
    fun tag value => fetch_eq_some_iff⟩
  · obtain ⟨before, behind, hwalk, hwalk'⟩ := wellFormed.walk_register hblock hroot mem h
    have hrest : after.walk root =
        before ++ tree.walk parent ++ (tree.walk block ++ behind) := by
      rw [hwalk', List.append_assoc]
    have contents (other : BlockId) : after.contentsOf? other = tree.contentsOf? other := by
      rw [eq_attach_of_register h, contentsOf?_attach]
    exact ⟨wellFormed.register_below hblock hroot mem h, before, behind, hwalk, hwalk',
      fun tag holds => fetch_eq_of_walk contents hwalk hrest holds⟩
  · exact ⟨wellFormed.unregister block,
      fun mem hroot => wellFormed.walk_unregister_of_mem hroot mem,
      wellFormed.walk_unregister_of_not_mem⟩
  · simp only [fetch_eq_none_iff, wellFormed.mem_walk_root_iff, forall_exists_index]

/-- Two devices, the first of which has a reply.  When a proxy reply with another block below it is
put below this device, it comes behind the reply, whose value goes on to count, and before the
second device. -/
theorem proxy_reply_comes_behind_reply :
    ∃ tree after : SettingsTree, tree.WellFormed ∧ tree.walk root = [0, 1, 3, 2] ∧
      tree.register 4 1 = .ok after ∧ (∃ before behind,
        [0, 1, 3, 2] = before ++ [1, 3] ++ behind ∧
        after.walk root = before ++ [1, 3] ++ [4, 5] ++ behind) ∧
      tree.fetch root 1 = some [10] ∧ after.fetchAt 4 1 = some [20] ∧
      after.fetch root 1 = some [10] := by
  have created := ((((empty.create "net0" (.values [])).create "net1" (.values [])).create "dhcp"
    (.values [(1, [10])])).create "proxydhcp" (.values [(1, [20])])).create "boot" (.values [])
  have devices := (created.register_below (by decide : 1 < _) (by decide) (by decide : root ∈ _)
    rfl).register_below (by decide : 2 < _) (by decide) (by decide : root ∈ _) rfl
  have replies := ((devices.register_below (by decide : 3 < _) (by decide) (by decide : 1 ∈ _)
    rfl).register_below (by decide : 4 < _) (by decide) (by decide : root ∈ _) rfl).register_below
    (by decide : 5 < _) (by decide) (by decide : 4 ∈ _) rfl
  have wellFormed := replies.unregister 4
  obtain ⟨-, -, -, -, registered, -⟩ := wellFormed.walk_orders_blocks
  obtain ⟨-, before, behind, hwalk, hafter, hsame⟩ :=
    registered 4 1 _ (by decide) (by decide) (by decide) rfl
  have hfetch := hsame 1 ⟨3, List.mem_append_right before (by decide), by decide⟩
  exact ⟨_, _, wellFormed, by decide, rfl, ⟨before, behind, hwalk, hafter⟩, by decide, by decide,
    hfetch⟩

end WellFormed

end NetBoot.SettingsTree
