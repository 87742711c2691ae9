/-
# Taking the place of a namesake

A block that is not registered can always be put in the place of its namesake, below any block
outside its own subtree.  It becomes the last child there and the only one of its name.  The
namesake leaves with all that is below it, and nobody else notices.  Doing it once more takes the
block itself out and puts it back where it was.
-/
import NetBoot.Proofs.Settings.Publication
import NetBoot.Proofs.Settings.Walk

namespace NetBoot

/-- A block is known if its name, its contents, its parent and its children are. -/
theorem Block.eq_of_fields {first second : Block} (name : first.name = second.name)
    (contents : first.contents = second.contents) (parent : first.parent = second.parent)
    (children : first.children = second.children) : first = second := by
  cases first
  cases second
  simp_all

namespace SettingsTree

variable {tree after : SettingsTree} {block parent other : BlockId} {name : String}

/-! ## Trees that are the same -/

/-- A tree is known if its size is, and the parent, the children, the name and the contents of
every block. -/
theorem eq_of_accessors (length : after.blocks.length = tree.blocks.length)
    (parents : ∀ other, after.parentOf other = tree.parentOf other)
    (children : ∀ other, after.childrenOf other = tree.childrenOf other)
    (names : ∀ other, after.nameOf other = tree.nameOf other)
    (contents : ∀ other, after.contentsOf? other = tree.contentsOf? other) : after = tree := by
  have hblocks : after.blocks = tree.blocks := by
    refine List.ext_getElem length fun other hafter htree => ?_
    have hfound : after.block? other = some after.blocks[other] := List.getElem?_eq_getElem hafter
    have hfound' : tree.block? other = some tree.blocks[other] := List.getElem?_eq_getElem htree
    have hparent := parents other
    have hchildren := children other
    have hname := names other
    have hcontents := contents other
    rw [parentOf, parentOf, hfound, hfound'] at hparent
    rw [childrenOf, childrenOf, hfound, hfound'] at hchildren
    rw [nameOf, nameOf, hfound, hfound'] at hname
    rw [contentsOf?, contentsOf?, hfound, hfound'] at hcontents
    exact Block.eq_of_fields hname (Option.some.inj hcontents) hparent hchildren
  cases after
  cases tree
  exact congrArg SettingsTree.mk hblocks

/-- Putting the last child back where it was taken out changes nothing. -/
theorem Linked.attach_unregister (linked : tree.Linked)
    (hparent : tree.parentOf block = some parent) {front : List BlockId}
    (last : tree.childrenOf parent = front ++ [block]) :
    (tree.unregister block).attach block parent = tree := by
  have hblock : block < (tree.unregister block).blocks.length := by
    simpa using lt_of_parentOf hparent
  have known : parent < (tree.unregister block).blocks.length := by
    simpa using lt_of_mem_childrenOf ((linked.mem_childrenOf_iff parent block).mpr hparent)
  refine eq_of_accessors (by simp) (fun other => ?_) (fun other => ?_) (by simp) (by simp)
  · rw [parentOf_attach hblock, parentOf_unregister]
    split
    next same => rw [← same, hparent]
    next => rfl
  · rw [childrenOf_attach known, childrenOf_unregister hparent]
    split
    next same =>
      rw [← same, last, erase_between (last ▸ linked.nodup parent), List.append_nil]
    next => rfl

/-- Putting the last child in its own place changes nothing. -/
theorem Coherent.replace_last (coherent : tree.Coherent)
    (hparent : tree.parentOf block = some parent) {front : List BlockId}
    (last : tree.childrenOf parent = front ++ [block]) :
    tree.replace block parent = (tree, .ok ()) := by
  have hvacate : tree.vacate parent (tree.nameOf block) = tree.unregister block := by
    rw [SettingsTree.vacate, (coherent.only_child hparent).1]
  have horphan : (tree.vacate parent (tree.nameOf block)).parentOf block = none := by
    rw [hvacate, parentOf_unregister, if_pos rfl]
  rw [SettingsTree.replace, coherent.register_vacate horphan, hvacate,
    coherent.toLinked.attach_unregister hparent last]

/-! ## Subtrees -/

theorem Forest.vacate (forest : tree.Forest) (parent : BlockId) (name : String) :
    (tree.vacate parent name).Forest := by
  rw [SettingsTree.vacate]
  split
  · exact forest.unregister _
  · exact forest

/-- Taking a namesake out puts no block below another one. -/
theorem AtOrAbove.of_vacate {upper lower : BlockId}
    (h : (tree.vacate parent name).AtOrAbove upper lower) : tree.AtOrAbove upper lower := by
  refine Relation.ReflTransGen.mono (fun above below hlink => ?_) _ _ h
  rw [IsParent, parentOf_vacate] at hlink
  split at hlink
  · cases hlink
  · exact hlink

theorem Forest.replace (forest : tree.Forest) (coherent : tree.Coherent)
    (orphan : tree.parentOf block = none) (hblock : block < tree.blocks.length)
    (hparent : parent < tree.blocks.length) (apart : ¬ tree.AtOrAbove block parent) :
    (tree.replace block parent).1.Forest := by
  rw [coherent.replace_eq orphan]
  exact (forest.vacate parent _).attach (parentOf_vacate_of_orphan orphan) (by simpa using hblock)
    (by simpa using hparent) fun h => apart h.of_vacate

theorem Supplants.differsAt (h : tree.Supplants after block name parent)
    (length : after.blocks.length = tree.blocks.length) :
    Forest.DiffersAt tree after parent where
  length := length
  children other hne := by rw [h.children, if_neg hne.symm]

/-- In a forest whose siblings have different names, a block without a parent can be put in the
place of its namesake below any other block that is not below itself.

It is then the last child there and the only one of its name.  The namesake, if there was one,
has no parent, and the parent's other children keep their order.  All other blocks keep their
parents and children, all blocks their names and contents, and the block and its namesake what is
below them.  The tree is such a forest as before, and doing the same once more changes nothing. -/
theorem Coherent.takes_place_of_namesake (coherent : tree.Coherent) (forest : tree.Forest)
    (orphan : tree.parentOf block = none) (hblock : block < tree.blocks.length)
    (hparent : parent < tree.blocks.length) (hne : block ≠ parent)
    (outside : ¬ tree.Above block parent) :
    ∃ after, tree.replace block parent = (after, .ok ()) ∧
      (∀ other, after.parentOf other =
        if block = other then some parent
        else if tree.findChild? parent (tree.nameOf block) = some other then none
        else tree.parentOf other) ∧
      (∀ other, after.childrenOf other =
        if parent = other then
          ((tree.childrenOf other).filter fun child => tree.nameOf child ≠ tree.nameOf block) ++
            [block]
        else tree.childrenOf other) ∧
      (∀ child ∈ after.childrenOf parent, after.nameOf child = after.nameOf block →
        child = block) ∧
      (∀ other, after.nameOf other = tree.nameOf other ∧
        after.contentsOf? other = tree.contentsOf? other) ∧
      after.walk block = tree.walk block ∧
      (∀ old, tree.findChild? parent (tree.nameOf block) = some old →
        after.parentOf old = none ∧ after.walk old = tree.walk old) ∧
      after.Coherent ∧ after.Forest ∧ after.replace block parent = (after, .ok ()) := by
  have apart : ¬ tree.AtOrAbove block parent := fun h => outside (h.above hne)
  have supplants := coherent.supplants_replace orphan hblock hparent
  have coherent' := coherent.replace hblock hparent
  have forest' := forest.replace coherent orphan hblock hparent apart
  have hreplace : tree.replace block parent = _ := coherent.replace_eq orphan
  rw [hreplace] at supplants coherent' forest'
  have differs := supplants.differsAt (by simp)
  have hregistered := supplants.parents block
  rw [if_pos rfl] at hregistered
  have hlast := supplants.children parent
  rw [if_pos rfl] at hlast
  refine ⟨_, hreplace, supplants.parents, supplants.children,
    (coherent'.only_child hregistered).2, fun other => ⟨by simp, by simp⟩, ?_, fun old hold => ?_,
    coherent', forest', coherent'.replace_last hregistered hlast⟩
  · exact forest.walk_eq_of_not_mem forest' differs hblock
      fun mem => apart ((forest.mem_walk_iff hblock).mp mem)
  · obtain ⟨mem, hname⟩ := mem_of_findChild? hold
    obtain ⟨known, outside⟩ := forest.not_mem_walk_child mem
    refine ⟨?_, forest.walk_eq_of_not_mem forest' differs known outside⟩
    have hold' : block ≠ old := by
      rintro rfl
      rw [coherent.mem_childrenOf_iff, orphan] at mem
      cases mem
    rw [supplants.parents, if_neg hold', if_pos hold]

/-- A reply with a block below it takes the place of an earlier one, which also has a block below
it, between two other blocks. -/
theorem reply_takes_place_of_reply :
    ∃ tree after : SettingsTree, tree.Coherent ∧ tree.Forest ∧ tree.parentOf 6 = none ∧
      ¬ tree.Above 6 1 ∧ tree.childrenOf 1 = [2, 3, 5] ∧
      tree.findChild? 1 (tree.nameOf 6) = some 3 ∧ tree.replace 6 1 = (after, .ok ()) ∧
      after.childrenOf 1 = [2, 5, 6] ∧ after.parentOf 3 = none ∧ after.walk 3 = [3, 4] ∧
      after.walk 6 = [6, 7] ∧ after.replace 6 1 = (after, .ok ()) := by
  let tree : SettingsTree := [.create "net0" (.values []), .create "boot" (.values []),
    .create "dhcp" (.values []), .create "old" (.values []), .create "proxydhcp" (.values []),
    .create "dhcp" (.values []), .create "new" (.values []), .register 1 0, .register 2 1,
    .register 3 1, .register 4 3, .register 5 1, .register 7 6].foldl Edit.apply .empty
  have built : tree.Built := Built.empty.edits (by decide)
  have coherent := built.coherent
  have hparents : ∀ child < tree.blocks.length, ∀ parent ∈ tree.parentOf child, parent < child := by
    decide +kernel
  obtain ⟨hblock, hparent, orphan, hnamesake⟩ : 6 < tree.blocks.length ∧ 1 < tree.blocks.length ∧
    tree.parentOf 6 = none ∧ tree.findChild? 1 (tree.nameOf 6) = some 3 := by decide +kernel
  obtain ⟨hchildren, hothers, hbelow, hbrought⟩ : tree.childrenOf 1 = [2, 3, 5] ∧
    ((tree.childrenOf 1).filter fun child => tree.nameOf child ≠ tree.nameOf 6) = [2, 5] ∧
    tree.walk 3 = [3, 4] ∧ tree.walk 6 = [6, 7] := by decide +kernel
  clear_value tree
  have forest := coherent.toLinked.forest_of_lt fun parent child hparent =>
    hparents child (lt_of_parentOf hparent) parent hparent
  have outside : ¬ tree.Above 6 1 := fun h => by
    have mem := (forest.mem_walk_iff hblock).mpr h.to_reflTransGen
    simp [hbrought] at mem
  obtain ⟨after, hreplace, -, children, -, -, walk, old, -, -, again⟩ :=
    coherent.takes_place_of_namesake forest orphan hblock hparent (by decide) outside
  have hlast := children 1
  rw [if_pos rfl, hothers] at hlast
  exact ⟨tree, after, coherent, forest, orphan, outside, hchildren, hnamesake, hreplace, hlast,
    (old 3 hnamesake).1, (old 3 hnamesake).2.trans hbelow, walk.trans hbrought, again⟩

end SettingsTree
end NetBoot
