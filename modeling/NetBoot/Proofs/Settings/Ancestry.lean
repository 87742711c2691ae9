/-
# Ancestors in a settings tree

A block is above another one if its parent, the parent's parent and so on lead to it.  In a
forest no block is above itself, and then the blocks below a child are fewer than those below
its parent, which is what inductions over a forest go by.  A forest stays one when a block is
taken out, and when a block that is not registered is put below a block outside its own subtree.

In a well-formed tree the root is a block on top of such a forest.
-/
import NetBoot.Proofs.Settings.Paths
import Mathlib.Data.Set.Card
import Mathlib.Logic.Relation

namespace NetBoot.SettingsTree

variable {tree after : SettingsTree} {block parent child other : BlockId}
variable {first second lower upper : BlockId}

/-- Taking a child out of a list without duplicates leaves those on both sides of it. -/
theorem erase_between {front rest : List BlockId} (nodup : (front ++ block :: rest).Nodup) :
    (front ++ block :: rest).erase block = front ++ rest := by
  rw [List.nodup_middle, List.nodup_cons, List.mem_append, not_or] at nodup
  rw [List.erase_append_right _ nodup.1.1, List.erase_cons_head]

/-! ## Above and below -/

/-- A block is the parent of another one. -/
def IsParent (tree : SettingsTree) (parent child : BlockId) : Prop :=
  tree.parentOf child = some parent

/-- A block is the parent of another one, or the parent of its parent, and so on. -/
def Above (tree : SettingsTree) : BlockId → BlockId → Prop :=
  Relation.TransGen tree.IsParent

/-- A block is another one or above it. -/
def AtOrAbove (tree : SettingsTree) : BlockId → BlockId → Prop :=
  Relation.ReflTransGen tree.IsParent

theorem IsParent.unique (h : tree.IsParent parent child) (h' : tree.IsParent other child) :
    parent = other :=
  Option.some.inj (h.symm.trans h')

theorem Above.lt (h : tree.Above upper lower) : lower < tree.blocks.length := by
  cases h with
  | single h => exact lt_of_parentOf h
  | tail _ h => exact lt_of_parentOf h

/-- Whatever is above a child is at or above its parent. -/
theorem Above.of_child (h : tree.Above upper child) (hparent : tree.IsParent parent child) :
    tree.AtOrAbove upper parent := by
  obtain ⟨middle, hmiddle, hchild⟩ := Relation.TransGen.tail'_iff.mp h
  exact hchild.unique hparent ▸ hmiddle

/-- What is not another block, but at or above it, is above it. -/
theorem AtOrAbove.above (h : tree.AtOrAbove upper lower) (hne : upper ≠ lower) :
    tree.Above upper lower :=
  (Relation.reflTransGen_iff_eq_or_transGen.mp h).resolve_left hne.symm

/-- Fewer links lead to fewer blocks. -/
theorem Above.mono (h : after.Above upper lower)
    (links : ∀ parent child, after.IsParent parent child → tree.IsParent parent child) :
    tree.Above upper lower :=
  Relation.TransGen.mono links _ _ h

/-- A block on top has nothing above it. -/
theorem AtOrAbove.eq_of_top (h : tree.AtOrAbove upper lower)
    (top : tree.parentOf lower = none) : upper = lower := by
  by_contra hne
  obtain ⟨middle, -, hparent⟩ := Relation.TransGen.tail'_iff.mp (h.above hne)
  rw [IsParent, top] at hparent
  cases hparent

/-- Of two blocks above the same one, one is above the other. -/
theorem AtOrAbove.total (h : tree.AtOrAbove first lower) (h' : tree.AtOrAbove second lower) :
    tree.AtOrAbove first second ∨ tree.AtOrAbove second first := by
  induction h with
  | refl => exact .inr h'
  | @tail middle lower hmiddle hparent ih =>
    by_cases hne : second = lower
    · exact .inl (hne ▸ hmiddle.tail hparent)
    · exact ih ((h'.above hne).of_child hparent)

/-- Blocks that children lead to are those below. -/
theorem Linked.exists_reaches_iff (linked : tree.Linked) :
    (∃ names, tree.Reaches first names block) ↔ tree.AtOrAbove first block := by
  constructor
  · rintro ⟨names, h⟩
    induction h with
    | here => exact .refl
    | child _ mem ih => exact ih.tail ((linked.mem_childrenOf_iff _ _).mp mem)
  · intro h
    induction h with
    | refl => exact ⟨[], .here⟩
    | tail _ hparent ih =>
      obtain ⟨names, hnames⟩ := ih
      exact ⟨_, hnames.child ((linked.mem_childrenOf_iff _ _).mpr hparent)⟩

/-! ## Forests -/

/-- The links of a tree agree, and no block is above itself. -/
structure Forest (tree : SettingsTree) : Prop extends tree.Linked where
  acyclic : ∀ block, ¬ tree.Above block block

/-- Links that agree make a forest if all parents have smaller numbers. -/
theorem Linked.forest_of_lt (linked : tree.Linked)
    (h : ∀ parent child, tree.IsParent parent child → parent < child) : tree.Forest where
  toLinked := linked
  acyclic block hcycle := by
    have hlt {lower : BlockId} (above : tree.Above block lower) : block < lower := by
      induction above with
      | single hlink => exact h _ _ hlink
      | tail _ hlink ih => exact Nat.lt_trans ih (h _ _ hlink)
    exact Nat.lt_irrefl block (hlt hcycle)

/-- A forest whose root is a block without a parent. -/
structure WellFormed (tree : SettingsTree) : Prop extends tree.Forest where
  known : root < tree.blocks.length
  top : tree.parentOf root = none

/-- Only blocks that exist have children. -/
theorem lt_of_mem_childrenOf (h : child ∈ tree.childrenOf parent) :
    parent < tree.blocks.length := by
  rw [childrenOf] at h
  cases hfound : tree.block? parent with
  | none => simp [hfound] at h
  | some found => exact lt_of_block? hfound

theorem Linked.lt_of_above (linked : tree.Linked) (h : tree.Above upper lower) :
    upper < tree.blocks.length := by
  obtain ⟨child, hchild, -⟩ := Relation.TransGen.head'_iff.mp h
  exact lt_of_mem_childrenOf ((linked.mem_childrenOf_iff upper child).mpr hchild)

namespace Forest

/-- Siblings have no block below both of them. -/
theorem eq_of_siblings (forest : tree.Forest) (hfirst : tree.IsParent parent first)
    (hsecond : tree.IsParent parent second) (h : tree.AtOrAbove first lower)
    (h' : tree.AtOrAbove second lower) : first = second := by
  have hcycle {upper sibling : BlockId} (hupper : tree.IsParent parent upper)
      (hsibling : tree.IsParent parent sibling) (h : tree.AtOrAbove upper sibling) :
      upper = sibling := by
    by_contra hne
    exact forest.acyclic parent (.head' hupper ((h.above hne).of_child hsibling))
  rcases h.total h' with h | h
  · exact hcycle hfirst hsecond h
  · exact (hcycle hsecond hfirst h).symm

/-- The blocks below a block. -/
def below (tree : SettingsTree) (block : BlockId) : Set BlockId :=
  {lower | tree.Above block lower}

/-- All blocks below a block are blocks of the tree. -/
theorem below_subset (tree : SettingsTree) (block : BlockId) :
    below tree block ⊆ Finset.range tree.blocks.length :=
  fun _ h => Finset.mem_coe.mpr (Finset.mem_range.mpr (Above.lt h))

/-- There are fewer blocks below a child than below its parent. -/
theorem ncard_below_lt (forest : tree.Forest) (h : tree.IsParent parent child) :
    (below tree child).ncard < (below tree parent).ncard := by
  have hsub : below tree child ⊆ below tree parent := fun _ hother => .head h hother
  have hfinite := (Finset.finite_toSet _).subset (below_subset tree parent)
  refine Set.ncard_lt_ncard ?_ hfinite
  exact (Set.ssubset_iff_of_subset hsub).mpr ⟨child, .single h, forest.acyclic child⟩

/-- There are fewer blocks below a block than in the tree. -/
theorem ncard_below_lt_length (forest : tree.Forest) (known : block < tree.blocks.length) :
    (below tree block).ncard < tree.blocks.length := by
  calc (below tree block).ncard
      < (Finset.range tree.blocks.length : Set BlockId).ncard := by
        refine Set.ncard_lt_ncard ?_ (Finset.finite_toSet _)
        exact (Set.ssubset_iff_of_subset (below_subset tree block)).mpr
          ⟨block, by simpa using known, forest.acyclic block⟩
    _ = tree.blocks.length := by rw [Set.ncard_coe_finset, Finset.card_range]

/-- What a block has if all its children have it, all blocks have. -/
theorem children_induction (forest : tree.Forest) {motive : BlockId → Prop}
    (step : ∀ block, (∀ child, tree.IsParent block child → motive child) → motive block)
    (block : BlockId) : motive block := by
  induction hcount : (below tree block).ncard using Nat.strong_induction_on generalizing block with
  | _ count ih =>
    refine step block fun child hchild => ih _ ?_ child rfl
    rw [← hcount]
    exact forest.ncard_below_lt hchild

/-! ## Operations -/

/-- A new block that is linked to no other one. -/
theorem create (forest : tree.Forest) (name : String) (contents : BlockContents) :
    (tree.add ⟨name, contents, none, []⟩).1.Forest where
  toLinked := forest.toLinked.add rfl rfl
  acyclic block h := forest.acyclic block
    (h.mono fun _ child hlink => (parentOf_add rfl child).symm.trans hlink)

/-- What is above a block after a registration was above it before, unless the new link is on
the way. -/
theorem above_attach (hblock : block < tree.blocks.length)
    (h : (tree.attach block parent).Above upper lower) :
    tree.Above upper lower ∨ tree.AtOrAbove upper parent ∧ tree.AtOrAbove block lower := by
  have hlink {above below : BlockId} (h : (tree.attach block parent).IsParent above below) :
      tree.IsParent above below ∨ above = parent ∧ below = block := by
    rw [IsParent, parentOf_attach hblock] at h
    split at h
    next hsame => exact .inr ⟨(Option.some.inj h).symm, hsame.symm⟩
    next => exact .inl h
  induction h with
  | single h =>
    rcases hlink h with h | ⟨rfl, rfl⟩
    · exact .inl (.single h)
    · exact .inr ⟨.refl, .refl⟩
  | tail _ h ih =>
    rcases hlink h with h | ⟨rfl, rfl⟩
    · exact ih.imp (fun prior => prior.tail h) fun prior => ⟨prior.1, prior.2.tail h⟩
    · exact .inr ⟨ih.elim (fun prior => prior.to_reflTransGen) And.left, .refl⟩

/-- A block that is not registered, below a block outside its subtree. -/
theorem attach (forest : tree.Forest) (horphan : tree.parentOf block = none)
    (hblock : block < tree.blocks.length) (hparent : parent < tree.blocks.length)
    (apart : ¬ tree.AtOrAbove block parent) : (tree.attach block parent).Forest where
  toLinked := forest.toLinked.attach horphan hblock hparent
  acyclic other h := by
    rcases above_attach hblock h with h | ⟨habove, hbelow⟩
    · exact forest.acyclic other h
    · exact apart (hbelow.trans habove)

/-- Registering a block below another one outside its subtree. -/
theorem register (forest : tree.Forest) (hblock : block < tree.blocks.length)
    (hparent : parent < tree.blocks.length) (apart : ¬ tree.AtOrAbove block parent)
    (h : tree.register block parent = .ok after) : after.Forest := by
  obtain ⟨horphan, -, rfl⟩ := register_cases h
  exact forest.attach horphan hblock hparent apart

theorem unregister (forest : tree.Forest) (block : BlockId) : (tree.unregister block).Forest where
  toLinked := forest.toLinked.unregister block
  acyclic other h := by
    refine forest.acyclic other (h.mono fun parent child hlink => ?_)
    rw [IsParent, parentOf_unregister] at hlink
    split at hlink
    · cases hlink
    · exact hlink

end Forest

namespace WellFormed

/-- The tree with nothing but a root. -/
theorem empty : WellFormed SettingsTree.empty where
  toLinked := Coherent.empty.toLinked
  acyclic block h := by
    obtain ⟨child, hchild, -⟩ := Relation.TransGen.head'_iff.mp h
    have horphan : SettingsTree.empty.parentOf child = none := by
      rcases child with _ | child <;> rfl
    rw [IsParent, horphan] at hchild
    cases hchild
  known := Nat.zero_lt_one
  top := rfl

/-- A new block that is linked to no other one. -/
theorem create (wellFormed : tree.WellFormed) (name : String) (contents : BlockContents) :
    (tree.add ⟨name, contents, none, []⟩).1.WellFormed := by
  exact {
    toForest := wellFormed.toForest.create name contents
    known := by
      rw [length_add]
      exact Nat.lt_succ_of_lt wellFormed.known
    top := (parentOf_add rfl root).trans wellFormed.top }

/-- Registering a block below another one outside its subtree. -/
theorem register (wellFormed : tree.WellFormed) (hblock : block < tree.blocks.length)
    (hparent : parent < tree.blocks.length) (hroot : block ≠ root)
    (apart : ¬ tree.AtOrAbove block parent) (h : tree.register block parent = .ok after) :
    after.WellFormed := by
  have forest := wellFormed.toForest.register hblock hparent apart h
  obtain ⟨-, -, rfl⟩ := register_cases h
  exact {
    toForest := forest
    known := by simpa using wellFormed.known
    top := by rw [parentOf_attach hblock, if_neg hroot, wellFormed.top] }

theorem unregister (wellFormed : tree.WellFormed) (block : BlockId) :
    (tree.unregister block).WellFormed where
  toForest := wellFormed.toForest.unregister block
  known := by simpa using wellFormed.known
  top := by rw [parentOf_unregister, wellFormed.top, ite_self]

end WellFormed

end NetBoot.SettingsTree
