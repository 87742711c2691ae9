/-
# What a refused replacement leaves

Registering a block checks everything before it links anything, so a tree that refuses a block
is as it was.  Replacing takes the namesake out first, and only then asks whether the block is
registered already.  So it is refused if and only if the block has another parent, and then the
namesake is gone from the tree: nothing stands in its place.
-/
import NetBoot.Proofs.Settings.Coherence

namespace NetBoot.SettingsTree

variable {tree after : SettingsTree} {block parent other : BlockId} {name : String}

/-! ## Taking out a namesake -/

/-- The children of the parent keep their order, without the one of that name. -/
theorem Coherent.childrenOf_vacate (coherent : tree.Coherent) (parent : BlockId) (name : String)
    (other : BlockId) : (tree.vacate parent name).childrenOf other =
      if parent = other then
        (tree.childrenOf other).filter fun child => tree.nameOf child ≠ name
      else tree.childrenOf other := by
  rw [SettingsTree.vacate]
  cases hfound : tree.findChild? parent name with
  | none =>
    dsimp only
    split
    next same =>
      subst same
      refine (List.filter_eq_self.mpr fun child mem => ?_).symm
      exact decide_eq_true (nameOf_ne_of_findChild?_none hfound mem)
    next => rfl
  | some old =>
    dsimp only
    obtain ⟨hold, hname⟩ := mem_of_findChild? hfound
    rw [childrenOf_unregister ((coherent.mem_childrenOf_iff parent old).mp hold)]
    split
    next same =>
      subst same
      rw [(coherent.nodup parent).erase_eq_filter]
      refine List.filter_congr fun child mem => ?_
      -- children of one name are the same child
      have hiff : child = old ↔ tree.nameOf child = name := by
        refine ⟨fun same => same ▸ hname, fun same => ?_⟩
        exact coherent.siblingsDiffer parent child mem old hold (same.trans hname.symm)
      rw [bne, beq_eq_decide, ← decide_not, decide_eq_decide, hiff]
    next => rfl

/-- Nothing is taken out if and only if there is no namesake. -/
theorem Coherent.vacate_eq_self_iff (coherent : tree.Coherent) :
    tree.vacate parent name = tree ↔ tree.findChild? parent name = none := by
  constructor
  · intro same
    cases hfound : tree.findChild? parent name with
    | none => rfl
    | some old =>
      have hparent := (coherent.findChild?_eq_some_iff.mp hfound).1
      rw [← same, parentOf_vacate, if_pos hfound] at hparent
      cases hparent
  · intro free
    rw [SettingsTree.vacate, free]

/-! ## Replacing -/

/-- A replacement is refused if and only if the block has another parent. -/
theorem Coherent.replace_ends (coherent : tree.Coherent) (block parent : BlockId) :
    ((tree.parentOf block = none ∨ tree.parentOf block = some parent) ∧
      (tree.replace block parent).2 = .ok ()) ∨
    (∃ elsewhere, tree.parentOf block = some elsewhere ∧ elsewhere ≠ parent) ∧
      tree.replace block parent = (tree.vacate parent (tree.nameOf block),
        .error (.registered ((tree.vacate parent (tree.nameOf block)).path block))) := by
  have hparent := parentOf_vacate tree parent (tree.nameOf block) block
  have hsame : tree.findChild? parent (tree.nameOf block) = some block ↔
      tree.parentOf block = some parent := by
    rw [coherent.findChild?_eq_some_iff]
    exact and_iff_left rfl
  simp only [hsame] at hparent
  by_cases free : tree.parentOf block = none ∨ tree.parentOf block = some parent
  · refine .inl ⟨free, ?_⟩
    have horphan : (tree.vacate parent (tree.nameOf block)).parentOf block = none := by
      rw [hparent]
      rcases free with free | free <;> simp [free]
    rw [SettingsTree.replace, coherent.register_vacate horphan]
  · rw [not_or] at free
    obtain ⟨elsewhere, helsewhere⟩ := Option.ne_none_iff_exists'.mp free.1
    refine .inr ⟨⟨elsewhere, helsewhere, ?_⟩, ?_⟩
    · rintro rfl
      exact free.2 helsewhere
    · rw [if_neg free.2, helsewhere] at hparent
      rw [SettingsTree.replace, SettingsTree.register, hparent]
      rfl

/-- Blocks are created, registered, replaced and unregistered, with whatever outcomes.  Then a
replacement is refused if and only if the block is registered already, under another parent.

What is left of the tree has lost the child of that name, if the parent had one: this child is
registered nowhere, and the parent's other children keep their order.  All other blocks keep
their parents and children, and all blocks their names and contents.  So a refused replacement
leaves the tree as it was if and only if there was nothing to replace. -/
theorem Built.refused_replacement (built : tree.Built) (block parent : BlockId) :
    ((∃ cause, (tree.replace block parent).2 = .error cause) ↔
      ∃ elsewhere, tree.parentOf block = some elsewhere ∧ elsewhere ≠ parent) ∧
    ∀ after cause, tree.replace block parent = (after, .error cause) →
      cause = .registered (after.path block) ∧
      (∀ other, after.parentOf other =
        if tree.findChild? parent (tree.nameOf block) = some other then none
        else tree.parentOf other) ∧
      (∀ other, after.childrenOf other =
        if parent = other then
          (tree.childrenOf other).filter fun child => tree.nameOf child ≠ tree.nameOf block
        else tree.childrenOf other) ∧
      (∀ other, after.nameOf other = tree.nameOf other ∧
        after.contentsOf? other = tree.contentsOf? other) ∧
      (after = tree ↔ tree.findChild? parent (tree.nameOf block) = none) := by
  have coherent := built.coherent
  rcases coherent.replace_ends block parent with ⟨free, hok⟩ | ⟨taken, hrefused⟩
  · constructor
    · constructor
      · rintro ⟨cause, hcause⟩
        rw [hok] at hcause
        cases hcause
      · rintro ⟨elsewhere, helsewhere, hne⟩
        rw [helsewhere] at free
        rcases free with free | free
        · cases free
        · exact absurd (Option.some.inj free) hne
    · intro after cause hreplace
      rw [hreplace] at hok
      cases hok
  · refine ⟨⟨fun _ => taken, fun _ => ⟨_, congrArg Prod.snd hrefused⟩⟩, ?_⟩
    intro after cause hreplace
    obtain ⟨rfl, herror⟩ := Prod.mk.inj (hrefused.symm.trans hreplace)
    exact ⟨(Except.error.inj herror).symm, parentOf_vacate tree parent _,
      coherent.childrenOf_vacate parent _, fun other => ⟨by simp, by simp⟩,
      coherent.vacate_eq_self_iff⟩

/-- The settings of one device are to replace those of another one.  This is refused, and the
other device has lost its own. -/
theorem refused_replacement_loses_namesake :
    ∃ tree after : SettingsTree, tree.Built ∧
      tree.replace 3 2 = (after, .error (.registered "net0.dhcp")) ∧
      tree.find? "net1.dhcp" = some 4 ∧ after.find? "net1.dhcp" = none ∧
      after.parentOf 4 = none ∧ after.childrenOf 2 = [] ∧ after ≠ tree := by
  have devices := (Built.empty.edit (.create "net0" (.values [])) trivial).edit
    (.create "net1" (.values [])) trivial
  have created := (devices.edit (.create "dhcp" (.values [])) trivial).edit
    (.create "dhcp" (.values [])) trivial
  have linked := (created.edit (.register 1 0) ⟨by decide, by decide⟩).edit (.register 2 0)
    ⟨by decide, by decide⟩
  have built := (linked.edit (.register 3 1) ⟨by decide, by decide⟩).edit (.register 4 2)
    ⟨by decide, by decide⟩
  obtain ⟨-, hrefused⟩ := built.refused_replacement 3 2
  obtain ⟨-, hparents, hchildren, -, hsame⟩ := hrefused _ _ rfl
  refine ⟨_, _, built, rfl, by decide +kernel, by decide +kernel, ?_, ?_, ?_⟩
  · rw [hparents]
    rfl
  · rw [hchildren]
    rfl
  · rw [Ne, hsame]
    decide

end NetBoot.SettingsTree
