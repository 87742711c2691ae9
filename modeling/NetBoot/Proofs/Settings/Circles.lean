/-
# Circles in a settings tree

Registering a block asks whether it has a parent already and whether its name is free, not where
the new parent is.  So a block can be put below itself or below one of those below it, and only
so do links ever form a circle.  Nothing refuses such a call, and it does not return: once it has
made the links, it follows them up from the block to say the path.

All other calls return.  While they do, the links form a forest, and there every way up and down
has an end.
-/
import NetBoot.Proofs.Settings.Namesake
import NetBoot.Proofs.Settings.Replacement
import Mathlib.Order.WellFoundedSet

namespace NetBoot.SettingsTree

variable {tree after : SettingsTree} {block parent child upper : BlockId} {name : String}

/-! ## Ways with an end

Following the links up from a block comes to an end if the block is accessible in the order of
parents, and a walk does if it is accessible in the order of children. -/

/-- The way up from a block that is above itself has no end. -/
theorem not_above_of_acc (ends : Acc tree.IsParent block) : ¬ tree.Above block block := by
  induction ends with
  | intro block _ ih =>
    -- the circle leads through the parent
    intro circle
    obtain ⟨parent, hup, hparent⟩ := Relation.TransGen.tail'_iff.mp circle
    exact ih parent hparent (.head' hparent hup)

/-- The blocks that are passed on the way up from a block. -/
def passed (tree : SettingsTree) (block : BlockId) : Set BlockId :=
  {upper | tree.AtOrAbove upper block ∧ tree.parentOf upper ≠ none}

theorem passed_subset (tree : SettingsTree) (block : BlockId) :
    passed tree block ⊆ Finset.range tree.blocks.length := by
  rintro upper ⟨-, hlinked⟩
  obtain ⟨parent, hparent⟩ := Option.ne_none_iff_exists'.mp hlinked
  exact Finset.mem_coe.mpr (Finset.mem_range.mpr (lt_of_parentOf hparent))

theorem ncard_passed_le (tree : SettingsTree) (block : BlockId) :
    (passed tree block).ncard ≤ tree.blocks.length := by
  calc (passed tree block).ncard
      ≤ (Finset.range tree.blocks.length : Set BlockId).ncard :=
        Set.ncard_le_ncard (passed_subset tree block) (Finset.finite_toSet _)
    _ = tree.blocks.length := by rw [Set.ncard_coe_finset, Finset.card_range]

theorem ncard_passed_lt (ends : Acc tree.IsParent child) (h : tree.IsParent parent child) :
    (passed tree parent).ncard < (passed tree child).ncard := by
  have hsub : passed tree parent ⊆ passed tree child :=
    fun _ hupper => ⟨hupper.1.tail h, hupper.2⟩
  have hfinite := (Finset.finite_toSet _).subset (passed_subset tree child)
  refine Set.ncard_lt_ncard ?_ hfinite
  refine (Set.ssubset_iff_of_subset hsub).mpr ⟨child, ⟨.refl, ?_⟩, fun hchild => ?_⟩
  · exact Option.ne_none_iff_exists'.mpr ⟨parent, h⟩
  · exact not_above_of_acc ends (.tail' hchild.1 h)

/-- A way up with an end passes no block twice, so there are enough steps for all of it. -/
theorem exists_topWithin? (ends : Acc tree.IsParent block) {steps : Nat}
    (far : (passed tree block).ncard < steps) : ∃ top, tree.topWithin? steps block = some top := by
  induction ends generalizing steps with
  | intro block h ih =>
    obtain ⟨steps, rfl⟩ := Nat.exists_eq_add_one.mpr (Nat.zero_lt_of_lt far)
    rw [topWithin?]
    split
    next => exact ⟨block, rfl⟩
    next parent hparent =>
      have hlt := ncard_passed_lt (.intro block h) hparent
      exact ih parent hparent (by omega)

theorem acc_of_topWithin? {steps : Nat} {top : BlockId}
    (h : tree.topWithin? steps block = some top) : Acc tree.IsParent block := by
  induction steps generalizing block with
  | zero => cases h
  | succ steps ih =>
    rw [topWithin?] at h
    split at h
    next orphan =>
      refine .intro block fun parent hparent => ?_
      rw [IsParent, orphan] at hparent
      cases hparent
    next parent hparent => exact .intro block fun other hother => hother.unique hparent ▸ ih h

theorem path?_eq_of_acc (ends : Acc tree.IsParent block) :
    tree.path? block = some (tree.path block) := by
  obtain ⟨top, htop⟩ := exists_topWithin? ends (Nat.lt_succ_of_le (ncard_passed_le tree block))
  rw [path?, htop, Option.map_some]

/-- A block has no path if and only if the way up from it has no end. -/
theorem path?_eq_none_iff : tree.path? block = none ↔ ¬ Acc tree.IsParent block := by
  constructor
  · intro h ends
    rw [path?_eq_of_acc ends] at h
    cases h
  · intro endless
    by_contra h
    obtain ⟨path, hpath⟩ := Option.ne_none_iff_exists'.mp h
    obtain ⟨top, htop, -⟩ := Option.map_eq_some_iff.mp hpath
    exact endless (acc_of_topWithin? htop)

theorem path?_eq_none_of_circle (circle : tree.Above block block) : tree.path? block = none :=
  path?_eq_none_iff.mpr fun ends => not_above_of_acc ends circle

namespace Forest

theorem wellFounded_isParent (forest : tree.Forest) : WellFounded tree.IsParent := by
  have order : IsStrictOrder BlockId tree.Above := {
    irrefl := forest.acyclic
    trans := fun _ _ _ => Relation.TransGen.trans }
  have known : (Finset.range tree.blocks.length : Set BlockId).WellFoundedOn tree.Above :=
    (Finset.finite_toSet _).wellFoundedOn
  refine (Set.wellFoundedOn_iff.mp known).mono fun parent child h => ?_
  have above : tree.Above parent child := .single h
  exact ⟨above, by simpa using forest.toLinked.lt_of_above above, by simpa using above.lt⟩

theorem wellFounded_isChild (forest : tree.Forest) :
    WellFounded fun child parent => tree.IsParent parent child := by
  refine ⟨fun block => ?_⟩
  induction block using forest.children_induction with
  | step block ih => exact .intro block fun child hchild => ih child hchild

theorem path?_eq (forest : tree.Forest) (block : BlockId) :
    tree.path? block = some (tree.path block) :=
  path?_eq_of_acc (forest.wellFounded_isParent.apply block)

end Forest

/-! ## Calls that return -/

/-- A registration that returns comes out as it is decided. -/
theorem register_eq_of_returns {outcome : Except Error SettingsTree}
    (h : tree.register? block parent = some outcome) : tree.register block parent = outcome := by
  obtain ⟨-, -, rfl⟩ := Option.map_eq_some_iff.mp h
  rfl

theorem replace_eq_of_returns {outcome : SettingsTree × Except Error Unit}
    (h : tree.replace? block parent = some outcome) : tree.replace block parent = outcome := by
  obtain ⟨vacated, -, h⟩ := Option.bind_eq_some_iff.mp h
  obtain ⟨-, -, rfl⟩ := Option.map_eq_some_iff.mp h
  rfl

theorem unregister_eq_of_returns (h : tree.unregister? block = some after) :
    tree.unregister block = after := by
  rw [unregister?] at h
  split at h
  next orphan => exact (unregister_of_orphan orphan).trans (Option.some.inj h)
  next =>
    obtain ⟨-, -, rfl⟩ := Option.map_eq_some_iff.mp h
    rfl

namespace Forest

/-- Registering a block puts it above itself if and only if the parent is the block or below it. -/
theorem above_register_self_iff (forest : tree.Forest) (hblock : block < tree.blocks.length)
    (h : tree.register block parent = .ok after) :
    after.Above block block ↔ tree.AtOrAbove block parent := by
  obtain ⟨orphan, -, rfl⟩ := register_cases h
  constructor
  · intro circle
    rcases above_attach hblock circle with circle | ⟨below, -⟩
    · exact absurd circle (forest.acyclic block)
    · exact below
  · intro below
    have hlink {above child : BlockId} (h : tree.IsParent above child) :
        (tree.attach block parent).IsParent above child := by
      rw [IsParent, parentOf_attach hblock, if_neg]
      · exact h
      · rintro rfl
        rw [IsParent, orphan] at h
        cases h
    have hnew : (tree.attach block parent).IsParent parent block := by
      rw [IsParent, parentOf_attach hblock, if_pos rfl]
    exact .tail' (Relation.ReflTransGen.mono (fun _ _ => hlink) _ _ below) hnew

/-- A registration does not return if and only if it is not refused and the parent is the block
or below it. -/
theorem register?_eq_none_iff (forest : tree.Forest) (hblock : block < tree.blocks.length)
    (hparent : parent < tree.blocks.length) : tree.register? block parent = none ↔
      (∃ after, tree.register block parent = .ok after) ∧ tree.AtOrAbove block parent := by
  rw [register?]
  cases hregister : tree.register block parent with
  | ok after =>
    have hcircle := forest.above_register_self_iff hblock hregister
    by_cases below : tree.AtOrAbove block parent
    · simp [path?_eq_none_of_circle (hcircle.mpr below), below]
    · simp [(forest.register hblock hparent below hregister).path?_eq, below]
  | error cause => cases cause <;> simp [forest.path?_eq]

theorem unregister?_eq (forest : tree.Forest) (block : BlockId) :
    tree.unregister? block = some (tree.unregister block) := by
  rw [unregister?]
  split
  next orphan => rw [unregister_of_orphan orphan]
  next => rw [forest.path?_eq, Option.map_some]

theorem vacate?_eq (forest : tree.Forest) (parent : BlockId) (name : String) :
    tree.vacate? parent name = some (tree.vacate parent name) := by
  rw [vacate?, SettingsTree.vacate]
  cases tree.findChild? parent name with
  | none => rfl
  | some old => exact forest.unregister?_eq old

/-- Taking a namesake out takes nothing away from above its parent. -/
theorem atOrAbove_vacate_iff (forest : tree.Forest) :
    (tree.vacate parent name).AtOrAbove upper parent ↔ tree.AtOrAbove upper parent := by
  refine ⟨AtOrAbove.of_vacate, fun h => ?_⟩
  induction h using Relation.ReflTransGen.head_induction_on with
  | refl => exact .refl
  | @head upper middle hlink h ih =>
    refine .head ?_ ih
    rw [IsParent, parentOf_vacate, if_neg]
    · exact hlink
    · -- a namesake above the parent would also be below it
      intro hfound
      have hchild := (forest.mem_childrenOf_iff parent middle).mp (mem_of_findChild? hfound).1
      exact forest.acyclic parent (.head' hchild h)

/-- A replacement does not return if and only if it is not refused and the parent is the block or
below it. -/
theorem replace?_eq_none_iff (forest : tree.Forest) (hblock : block < tree.blocks.length)
    (hparent : parent < tree.blocks.length) : tree.replace? block parent = none ↔
      (tree.replace block parent).2 = .ok () ∧ tree.AtOrAbove block parent := by
  have hblock' : block < (tree.vacate parent (tree.nameOf block)).blocks.length := by
    simpa using hblock
  have hparent' : parent < (tree.vacate parent (tree.nameOf block)).blocks.length := by
    simpa using hparent
  have vacated := forest.vacate parent (tree.nameOf block)
  have hregister := vacated.register?_eq_none_iff hblock' hparent'
  have hreplace : (tree.replace block parent).2 = .ok () ↔
      ∃ after, (tree.vacate parent (tree.nameOf block)).register block parent = .ok after := by
    rcases tree.replace_cases block parent with ⟨after, hvacated, h⟩ | ⟨cause, hvacated, h⟩ <;>
      simp [hvacated, h]
  have hreturns : tree.replace? block parent =
      ((tree.vacate parent (tree.nameOf block)).register? block parent).map
        fun _ => tree.replace block parent := by
    rw [replace?, forest.vacate?_eq]
    rfl
  rw [hreturns, Option.map_eq_none_iff, hregister, hreplace, forest.atOrAbove_vacate_iff]

end Forest

/-! ## Operations that all returned -/

/-- The tree after an operation, which may have been refused, if it returns. -/
def Edit.result? (tree : SettingsTree) : Edit → Option SettingsTree
  | create name contents => some (tree.add ⟨name, contents, none, []⟩).1
  | register block parent => (tree.register? block parent).map fun got => got.toOption.getD tree
  | replace block parent => (tree.replace? block parent).map Prod.fst
  | unregister block => tree.unregister? block

/-- An operation puts a block below itself: nothing refuses it, and the parent is the block or
below it. -/
def Edit.ClosesCircle (tree : SettingsTree) : Edit → Prop
  | register block parent =>
    (∃ after, tree.register block parent = .ok after) ∧ tree.AtOrAbove block parent
  | replace block parent =>
    (tree.replace block parent).2 = .ok () ∧ tree.AtOrAbove block parent
  | _ => False

theorem apply_eq_of_result? {edit : Edit} (h : edit.result? tree = some after) :
    edit.apply tree = after := by
  cases edit with
  | create name contents => exact Option.some.inj h
  | register block parent =>
    obtain ⟨outcome, hreturns, rfl⟩ := Option.map_eq_some_iff.mp h
    rw [Edit.apply, register_eq_of_returns hreturns]
  | replace block parent =>
    obtain ⟨outcome, hreturns, rfl⟩ := Option.map_eq_some_iff.mp h
    rw [Edit.apply, replace_eq_of_returns hreturns]
  | unregister block => exact unregister_eq_of_returns h

namespace Forest

/-- An operation does not return if and only if it closes a circle. -/
theorem result?_eq_none_iff (forest : tree.Forest) {edit : Edit} (fits : edit.Fits tree) :
    edit.result? tree = none ↔ edit.ClosesCircle tree := by
  cases edit with
  | create name contents => simp [Edit.result?, Edit.ClosesCircle]
  | register block parent =>
    rw [Edit.result?, Option.map_eq_none_iff]
    exact forest.register?_eq_none_iff fits.1 fits.2
  | replace block parent =>
    rw [Edit.result?, Option.map_eq_none_iff]
    exact forest.replace?_eq_none_iff fits.1 fits.2
  | unregister block => simp [Edit.result?, Edit.ClosesCircle, forest.unregister?_eq]

/-- A forest stays one unless an operation closes a circle. -/
theorem edit (forest : tree.Forest) {edit : Edit} (fits : edit.Fits tree)
    (h : ¬ edit.ClosesCircle tree) : (edit.apply tree).Forest := by
  cases edit with
  | create name contents => exact forest.create name contents
  | register block parent =>
    rw [Edit.apply]
    cases hregister : tree.register block parent with
    | ok after =>
      exact forest.register fits.1 fits.2 (fun below => h ⟨⟨after, hregister⟩, below⟩) hregister
    | error cause => exact forest
  | replace block parent =>
    have vacated := forest.vacate parent (tree.nameOf block)
    rw [Edit.ClosesCircle, ← forest.atOrAbove_vacate_iff] at h
    rw [Edit.apply]
    rcases tree.replace_cases block parent with accepted | ⟨cause, -, refused⟩
    · obtain ⟨after, hregister, hreplace⟩ := accepted
      rw [hreplace] at h ⊢
      exact vacated.register (by simpa using fits.1) (by simpa using fits.2)
        (fun below => h ⟨rfl, below⟩) hregister
    · rw [refused]
      exact vacated
  | unregister block => exact forest.unregister block

/-- A circle is there if and only if an operation closed it. -/
theorem exists_circle_iff (forest : tree.Forest) {edit : Edit} (fits : edit.Fits tree) :
    (∃ other, (edit.apply tree).Above other other) ↔ edit.ClosesCircle tree := by
  constructor
  · rintro ⟨other, circle⟩
    by_contra h
    exact (forest.edit fits h).acyclic other circle
  · intro h
    cases edit with
    | create name contents => exact h.elim
    | register block parent =>
      obtain ⟨⟨after, hregister⟩, below⟩ := h
      rw [Edit.apply, hregister]
      exact ⟨block, (forest.above_register_self_iff fits.1 hregister).mpr below⟩
    | replace block parent =>
      obtain ⟨hok, below⟩ := h
      have vacated := forest.vacate parent (tree.nameOf block)
      rw [Edit.apply]
      rcases tree.replace_cases block parent with accepted | ⟨cause, -, refused⟩
      · obtain ⟨after, hregister, hreplace⟩ := accepted
        have hcircle := vacated.above_register_self_iff (by simpa using fits.1) hregister
        rw [hreplace]
        exact ⟨block, hcircle.mpr (forest.atOrAbove_vacate_iff.mpr below)⟩
      · rw [refused] at hok
        cases hok
    | unregister block => exact h.elim

end Forest

/-- The trees that operations build from nothing but a root, each of which returned. -/
inductive Completed : SettingsTree → Prop
  | empty : Completed SettingsTree.empty
  | edit {tree after : SettingsTree} (prior : Completed tree) (edit : Edit) (fits : edit.Fits tree)
      (returns : edit.result? tree = some after) : Completed after

theorem Completed.built (completed : tree.Completed) : tree.Built := by
  induction completed with
  | empty => exact .empty
  | edit _ edit fits returns ih => exact apply_eq_of_result? returns ▸ ih.edit edit fits

theorem Completed.forest (completed : tree.Completed) : tree.Forest := by
  induction completed with
  | empty => exact WellFormed.empty.toForest
  | @edit tree after _ edit fits returns forest =>
    rw [← apply_eq_of_result? returns]
    refine forest.edit fits fun closes => ?_
    rw [(forest.result?_eq_none_iff fits).mpr closes] at returns
    cases returns

/-- An operation that closes no circle returns. -/
theorem Completed.next (completed : tree.Completed) (edit : Edit) (fits : edit.Fits tree)
    (h : ¬ edit.ClosesCircle tree) : (edit.apply tree).Completed := by
  rw [← completed.forest.result?_eq_none_iff fits] at h
  obtain ⟨after, hreturns⟩ := Option.ne_none_iff_exists'.mp h
  exact apply_eq_of_result? hreturns ▸ completed.edit edit fits hreturns

/-- Blocks are created, registered, replaced and unregistered, the root like any other block,
and every one of these calls returned.  Then no block is above itself, and from every block the
way up, which its path names, and every way down, which its walk follows, come to an end.

The next call, on any blocks, returns if and only if it leaves no block above itself.  It leaves
one above itself if and only if it registers a block below itself or below a block that is below
it, in the place of its namesake or not.  Nothing refuses this: a block without a parent can take
the place of its namesake anywhere, and can be registered anywhere if it has none there. -/
theorem Completed.returns_unless_circle (completed : tree.Completed) :
    (∀ block, ¬ tree.Above block block) ∧
    (WellFounded tree.IsParent ∧ ∀ block, tree.path? block = some (tree.path block)) ∧
    (WellFounded (fun child parent => tree.IsParent parent child) ∧
      ∀ block < tree.blocks.length,
        tree.walk block = block :: (tree.childrenOf block).flatMap tree.walk) ∧
    (∀ edit : Edit, edit.Fits tree →
      (∀ after, edit.result? tree = some after → edit.apply tree = after) ∧
      (edit.result? tree = none ↔ edit.ClosesCircle tree) ∧
      ((∃ other, (edit.apply tree).Above other other) ↔ edit.ClosesCircle tree)) ∧
    ∀ block parent, tree.parentOf block = none →
      (tree.replace block parent).2 = .ok () ∧
      (tree.findChild? parent (tree.nameOf block) = none →
        ∃ after, tree.register block parent = .ok after) := by
  have forest := completed.forest
  refine ⟨forest.acyclic, ⟨forest.wellFounded_isParent, forest.path?_eq⟩,
    ⟨forest.wellFounded_isChild, fun block known => forest.walk_eq known⟩,
    fun edit fits => ?_, fun block parent orphan => ?_⟩
  · exact ⟨fun after => apply_eq_of_result?, forest.result?_eq_none_iff fits,
      forest.exists_circle_iff fits⟩
  · rw [completed.built.coherent.replace_eq orphan]
    exact ⟨rfl, fun free => ⟨_, register_eq orphan free⟩⟩

/-- The root is registered below the device that is registered below the root. -/
theorem root_below_its_own_child :
    ∃ tree after : SettingsTree, tree.Completed ∧ ¬ tree.Above root root ∧
      tree.path? 1 = some "net0" ∧ tree.walk root = [root, 1] ∧
      tree.register root 1 = .ok after ∧ after.Above root root ∧ tree.register? root 1 = none := by
  have created := Completed.empty.next (.create "net0" (.values [])) trivial not_false
  have completed := created.next (.register 1 root) ⟨by decide, by decide⟩
    fun below => absurd (below.2.eq_of_top rfl) (by decide)
  obtain ⟨hacyclic, ⟨-, hpath⟩, ⟨-, hwalk⟩, hreturns, -⟩ := completed.returns_unless_circle
  obtain ⟨-, hnever, -⟩ := hreturns (.register root 1) ⟨by decide, by decide⟩
  have hnone := hnever.mpr ⟨⟨_, rfl⟩, .single rfl⟩
  rw [Edit.result?, Option.map_eq_none_iff] at hnone
  exact ⟨_, _, completed, hacyclic root, hpath 1, hwalk root (by decide), rfl,
    .tail (b := 1) (.single rfl) rfl, hnone⟩

end NetBoot.SettingsTree
