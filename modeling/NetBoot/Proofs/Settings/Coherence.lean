/-
# Coherent settings trees

A settings tree is coherent when its links agree in both directions and siblings have
different names.  Every tree that comes about by creating, registering, replacing and
unregistering blocks is coherent, also when some of these were refused.

In a coherent tree `replace` succeeds for every block that is not registered, because
the only sibling that could stand in its way is taken out first.
-/
import NetBoot.Proofs.Settings.Links

namespace NetBoot.SettingsTree

variable {tree after : SettingsTree} {block parent other first second : BlockId}

/-- The links of a tree agree: a block is a child, once, of its parent and of no other block. -/
structure Linked (tree : SettingsTree) : Prop where
  mem_childrenOf_iff : ∀ parent child,
    child ∈ tree.childrenOf parent ↔ tree.parentOf child = some parent
  nodup : ∀ parent, (tree.childrenOf parent).Nodup

/-- The children of a block have different names. -/
def SiblingsDiffer (tree : SettingsTree) : Prop :=
  ∀ parent, ∀ first ∈ tree.childrenOf parent, ∀ second ∈ tree.childrenOf parent,
    tree.nameOf first = tree.nameOf second → first = second

/-- The links of a tree agree, and siblings have different names. -/
structure Coherent (tree : SettingsTree) : Prop extends Linked tree where
  siblingsDiffer : tree.SiblingsDiffer

/-! ## Looking for a child -/

theorem mem_of_findChild? {name : String} (h : tree.findChild? parent name = some block) :
    block ∈ tree.childrenOf parent ∧ tree.nameOf block = name := by
  constructor
  · exact List.mem_of_find?_eq_some h
  · simpa using List.find?_some h

theorem nameOf_ne_of_findChild?_none {name : String} (h : tree.findChild? parent name = none)
    (hother : other ∈ tree.childrenOf parent) : tree.nameOf other ≠ name := by
  simpa using List.find?_eq_none.mp h other hother

/-- A child is found by its name. -/
theorem SiblingsDiffer.findChild?_eq (differ : tree.SiblingsDiffer)
    (h : block ∈ tree.childrenOf parent) :
    tree.findChild? parent (tree.nameOf block) = some block := by
  cases hfound : tree.findChild? parent (tree.nameOf block) with
  | none => exact absurd rfl (nameOf_ne_of_findChild?_none hfound h)
  | some found =>
    obtain ⟨hmem, hname⟩ := mem_of_findChild? hfound
    rw [differ parent found hmem block h hname]

/-! ## The operations keep a tree coherent -/

theorem Coherent.empty : Coherent SettingsTree.empty := by
  have hparent (child : BlockId) : SettingsTree.empty.parentOf child = none := by
    rcases child with _ | child <;> rfl
  have hchildren (parent : BlockId) : SettingsTree.empty.childrenOf parent = [] := by
    rcases parent with _ | parent <;> rfl
  refine ⟨⟨?_, ?_⟩, ?_⟩ <;> simp [SiblingsDiffer, hparent, hchildren]

/-- A new block that is linked to no other one. -/
theorem Linked.add (linked : tree.Linked) {added : Block} (hparent : added.parent = none)
    (hchildren : added.children = []) : (tree.add added).1.Linked where
  mem_childrenOf_iff other child := by
    rw [childrenOf_add hchildren, parentOf_add hparent]
    exact linked.mem_childrenOf_iff other child
  nodup other := by
    rw [childrenOf_add hchildren]
    exact linked.nodup other

/-- A new block that is linked to no other one. -/
theorem Coherent.add (coherent : tree.Coherent) {added : Block} (hparent : added.parent = none)
    (hchildren : added.children = []) : (tree.add added).1.Coherent where
  toLinked := coherent.toLinked.add hparent hchildren
  siblingsDiffer other first hfirst second hsecond hname := by
    rw [childrenOf_add hchildren] at hfirst hsecond
    have hlt (child : BlockId) (h : child ∈ tree.childrenOf other) :
        child < tree.blocks.length :=
      lt_of_parentOf ((coherent.mem_childrenOf_iff other child).mp h)
    rw [nameOf_add_of_lt added (hlt first hfirst),
      nameOf_add_of_lt added (hlt second hsecond)] at hname
    exact coherent.siblingsDiffer other first hfirst second hsecond hname

/-- Names have nothing to do with links. -/
theorem Linked.rename (linked : tree.Linked) (block : BlockId) (name : String) :
    (tree.rename block name).Linked where
  mem_childrenOf_iff other child := by
    rw [childrenOf_rename, parentOf_rename]
    exact linked.mem_childrenOf_iff other child
  nodup other := by
    rw [childrenOf_rename]
    exact linked.nodup other

/-- A block that is not registered may be given any name. -/
theorem Coherent.rename (coherent : tree.Coherent) (horphan : tree.parentOf block = none)
    (name : String) : (tree.rename block name).Coherent where
  toLinked := coherent.toLinked.rename block name
  siblingsDiffer other first hfirst second hsecond hname := by
    rw [childrenOf_rename] at hfirst hsecond
    have hne (child : BlockId) (h : child ∈ tree.childrenOf other) : block ≠ child := by
      rintro rfl
      rw [coherent.mem_childrenOf_iff, horphan] at h
      cases h
    rw [nameOf_rename_of_ne name (hne first hfirst),
      nameOf_rename_of_ne name (hne second hsecond)] at hname
    exact coherent.siblingsDiffer other first hfirst second hsecond hname

/-- A block that is not registered, under any parent. -/
theorem Linked.attach (linked : tree.Linked) (horphan : tree.parentOf block = none)
    (hblock : block < tree.blocks.length) (hparent : parent < tree.blocks.length) :
    (tree.attach block parent).Linked := by
  have hfresh (other : BlockId) : block ∉ tree.childrenOf other := by
    rw [linked.mem_childrenOf_iff, horphan]
    simp
  refine ⟨fun other child => ?_, fun other => ?_⟩
  · rw [childrenOf_attach hparent, parentOf_attach hblock]
    have hiff := linked.mem_childrenOf_iff other child
    by_cases hchild : block = child
    · subst hchild
      by_cases hother : parent = other <;> simp [hother, hfresh other]
    · by_cases hother : parent = other <;> simp [hother, hchild, hiff, Ne.symm hchild]
  · rw [childrenOf_attach hparent]
    split
    · exact (linked.nodup other).append (List.nodup_singleton block)
        (by simpa using hfresh other)
    · exact linked.nodup other

/-- A block that is not registered, under a parent that has no child of its name. -/
theorem Coherent.attach (coherent : tree.Coherent) (horphan : tree.parentOf block = none)
    (hblock : block < tree.blocks.length) (hparent : parent < tree.blocks.length)
    (hname : ∀ child ∈ tree.childrenOf parent, tree.nameOf child ≠ tree.nameOf block) :
    (tree.attach block parent).Coherent := by
  refine ⟨coherent.toLinked.attach horphan hblock hparent, fun other => ?_⟩
  rw [childrenOf_attach hparent]
  simp only [nameOf_attach]
  split
  next hother =>
    subst hother
    intro first hfirst second hsecond hequal
    simp only [List.mem_append, List.mem_singleton] at hfirst hsecond
    rcases hfirst with hfirst | rfl <;> rcases hsecond with hsecond | rfl
    · exact coherent.siblingsDiffer parent first hfirst second hsecond hequal
    · exact absurd hequal (hname first hfirst)
    · exact absurd hequal.symm (hname second hsecond)
    · rfl
  next => exact coherent.siblingsDiffer other

/-- A registration that is not refused: the block had no parent, the parent had no child of its
name, and now the block is one. -/
theorem register_cases (h : tree.register block parent = .ok after) :
    tree.parentOf block = none ∧ tree.findChild? parent (tree.nameOf block) = none ∧
      after = tree.attach block parent := by
  rw [register] at h
  split at h
  next => cases h
  next horphan =>
    split at h
    next => cases h
    next hfree =>
      rw [Option.not_isSome_iff_eq_none] at horphan hfree
      exact ⟨horphan, hfree, (Except.ok.inj h).symm⟩

/-- Registering, where it is not refused, makes the block a child. -/
theorem eq_attach_of_register (h : tree.register block parent = .ok after) :
    after = tree.attach block parent :=
  (register_cases h).2.2

theorem Coherent.register (coherent : tree.Coherent) (hblock : block < tree.blocks.length)
    (hparent : parent < tree.blocks.length) (h : tree.register block parent = .ok after) :
    after.Coherent := by
  obtain ⟨horphan, hfree, rfl⟩ := register_cases h
  exact coherent.attach horphan hblock hparent
    fun child hchild => nameOf_ne_of_findChild?_none hfree hchild

theorem Linked.unregister (linked : tree.Linked) (block : BlockId) :
    (tree.unregister block).Linked := by
  cases hparent : tree.parentOf block with
  | none => rwa [unregister_of_orphan hparent]
  | some parent =>
    refine ⟨fun other child => ?_, fun other => ?_⟩
    · rw [childrenOf_unregister hparent, parentOf_unregister]
      have hiff := linked.mem_childrenOf_iff other child
      by_cases hchild : block = child
      · subst hchild
        by_cases hother : parent = other
        · simp [hother, (linked.nodup other).mem_erase_iff]
        · simp [hother, hiff, hparent]
      · by_cases hother : parent = other <;>
          simp [hother, hchild, hiff, List.mem_erase_of_ne (Ne.symm hchild)]
    · rw [childrenOf_unregister hparent]
      split
      · exact (linked.nodup other).erase block
      · exact linked.nodup other

theorem Coherent.unregister (coherent : tree.Coherent) (block : BlockId) :
    (tree.unregister block).Coherent := by
  refine ⟨coherent.toLinked.unregister block, fun other first hfirst second hsecond => ?_⟩
  have hsub (child : BlockId) (h : child ∈ (tree.unregister block).childrenOf other) :
      child ∈ tree.childrenOf other := by
    cases hparent : tree.parentOf block with
    | none => rwa [unregister_of_orphan hparent] at h
    | some parent =>
      rw [childrenOf_unregister hparent] at h
      split at h
      · exact List.mem_of_mem_erase h
      · exact h
  rw [nameOf_unregister, nameOf_unregister]
  exact coherent.siblingsDiffer other first (hsub first hfirst) second (hsub second hsecond)

/-! ## Replacing -/

@[simp]
theorem length_vacate (tree : SettingsTree) (parent : BlockId) (name : String) :
    (tree.vacate parent name).blocks.length = tree.blocks.length := by
  rw [vacate]
  split <;> simp

@[simp]
theorem nameOf_vacate (tree : SettingsTree) (parent other : BlockId) (name : String) :
    (tree.vacate parent name).nameOf other = tree.nameOf other := by
  rw [vacate]
  split <;> simp

theorem Coherent.vacate (coherent : tree.Coherent) (parent : BlockId) (name : String) :
    (tree.vacate parent name).Coherent := by
  rw [SettingsTree.vacate]
  split
  · exact coherent.unregister _
  · exact coherent

@[simp]
theorem contentsOf?_vacate (tree : SettingsTree) (parent other : BlockId) (name : String) :
    (tree.vacate parent name).contentsOf? other = tree.contentsOf? other := by
  rw [vacate]
  split <;> simp

/-- The namesake has no parent afterwards, and all other blocks keep theirs. -/
theorem parentOf_vacate (tree : SettingsTree) (parent : BlockId) (name : String)
    (other : BlockId) : (tree.vacate parent name).parentOf other =
      if tree.findChild? parent name = some other then none else tree.parentOf other := by
  rw [vacate]
  cases tree.findChild? parent name with
  | none => rfl
  | some old =>
    dsimp only
    rw [parentOf_unregister]
    simp only [Option.some_inj]

/-- A block with another name stays where it is. -/
theorem parentOf_vacate_of_nameOf_ne {name : String} (h : tree.nameOf other ≠ name) :
    (tree.vacate parent name).parentOf other = tree.parentOf other := by
  rw [parentOf_vacate, if_neg]
  intro hfound
  exact h (mem_of_findChild? hfound).2

theorem parentOf_vacate_of_orphan {name : String} (horphan : tree.parentOf other = none) :
    (tree.vacate parent name).parentOf other = none := by
  rw [parentOf_vacate, horphan, ite_self]

/-- After its namesake is taken out, no child of the parent has the name. -/
theorem Coherent.nameOf_ne_of_mem_vacate (coherent : tree.Coherent) {name : String}
    (h : other ∈ (tree.vacate parent name).childrenOf parent) : tree.nameOf other ≠ name := by
  rw [SettingsTree.vacate] at h
  cases hfound : tree.findChild? parent name with
  | none =>
    rw [hfound] at h
    exact nameOf_ne_of_findChild?_none hfound h
  | some old =>
    obtain ⟨hold, hname⟩ := mem_of_findChild? hfound
    have hparent := (coherent.mem_childrenOf_iff parent old).mp hold
    simp only [hfound] at h
    rw [childrenOf_unregister hparent, if_pos rfl, (coherent.nodup parent).mem_erase_iff] at h
    intro hother
    exact h.1 (coherent.siblingsDiffer parent other h.2 old hold (hother.trans hname.symm))

theorem register_eq (horphan : tree.parentOf block = none)
    (hfree : tree.findChild? parent (tree.nameOf block) = none) :
    tree.register block parent = .ok (tree.attach block parent) := by
  rw [register, horphan, hfree]
  rfl

/-- Once its namesake is taken out, a block that is not registered can be registered. -/
theorem Coherent.register_vacate (coherent : tree.Coherent)
    (horphan : (tree.vacate parent (tree.nameOf block)).parentOf block = none) :
    (tree.vacate parent (tree.nameOf block)).register block parent =
      .ok ((tree.vacate parent (tree.nameOf block)).attach block parent) := by
  refine register_eq horphan ?_
  rw [nameOf_vacate]
  refine List.find?_eq_none.mpr fun child hchild => ?_
  simpa using coherent.nameOf_ne_of_mem_vacate hchild

/-- A block that is not registered takes the place of its namesake, if there is one. -/
theorem Coherent.replace_eq (coherent : tree.Coherent) (horphan : tree.parentOf block = none) :
    tree.replace block parent =
      ((tree.vacate parent (tree.nameOf block)).attach block parent, .ok ()) := by
  rw [SettingsTree.replace, coherent.register_vacate (parentOf_vacate_of_orphan horphan)]

/-- A replacement takes the namesake out and then comes out as the registration does. -/
theorem replace_cases (tree : SettingsTree) (block parent : BlockId) :
    (∃ after, (tree.vacate parent (tree.nameOf block)).register block parent = .ok after ∧
      tree.replace block parent = (after, .ok ())) ∨
    ∃ cause, (tree.vacate parent (tree.nameOf block)).register block parent = .error cause ∧
      tree.replace block parent = (tree.vacate parent (tree.nameOf block), .error cause) := by
  rw [SettingsTree.replace]
  cases (tree.vacate parent (tree.nameOf block)).register block parent with
  | ok after => exact .inl ⟨after, rfl, rfl⟩
  | error cause => exact .inr ⟨cause, rfl, rfl⟩

theorem Coherent.replace (coherent : tree.Coherent) (hblock : block < tree.blocks.length)
    (hparent : parent < tree.blocks.length) : (tree.replace block parent).1.Coherent := by
  rw [SettingsTree.replace]
  have vacated := coherent.vacate parent (tree.nameOf block)
  split
  next registered hregister =>
    exact vacated.register (by simpa using hblock) (by simpa using hparent) hregister
  next => exact vacated

/-! ## Blocks that are not registered -/

/-- A block stays unregistered unless it is the one that is registered. -/
theorem parentOf_register_of_orphan (hblock : block < tree.blocks.length)
    (h : tree.register block parent = .ok after) (horphan : tree.parentOf other = none)
    (hne : block ≠ other) : after.parentOf other = none := by
  rw [eq_attach_of_register h, parentOf_attach hblock, if_neg hne]
  exact horphan

theorem parentOf_replace_of_orphan (hblock : block < tree.blocks.length)
    (horphan : tree.parentOf other = none) (hne : block ≠ other) :
    (tree.replace block parent).1.parentOf other = none := by
  have hvacated : (tree.vacate parent (tree.nameOf block)).parentOf other = none :=
    parentOf_vacate_of_orphan horphan
  rw [SettingsTree.replace]
  split
  next registered hregister =>
    exact parentOf_register_of_orphan (by simpa using hblock) hregister hvacated hne
  next => exact hvacated

/-- The tree after a block was renamed and put in the place of its namesake. -/
structure Published (tree after : SettingsTree) (block : BlockId) (name : String)
    (parent : BlockId) : Prop where
  coherent : after.Coherent
  length : after.blocks.length = tree.blocks.length
  parentOf : after.parentOf block = some parent
  nameOf : after.nameOf block = name
  /-- All other blocks keep their names. -/
  others : ∀ other, other ≠ block → after.nameOf other = tree.nameOf other
  /-- All other blocks that are not registered stay so. -/
  orphans : ∀ other, other ≠ block → tree.parentOf other = none → after.parentOf other = none
  /-- All blocks of other names stay where they are. -/
  stays : ∀ other, other ≠ block → tree.nameOf other ≠ name →
    after.parentOf other = tree.parentOf other
  contents : ∀ other, after.contentsOf? other = tree.contentsOf? other

/-- Renaming a block that is not registered and putting it in the place of its namesake
always succeeds. -/
theorem Coherent.publish (coherent : tree.Coherent) (horphan : tree.parentOf block = none)
    (hblock : block < tree.blocks.length) (hparent : parent < tree.blocks.length)
    (name : String) :
    ((tree.rename block name).replace block parent).2 = .ok () ∧
      tree.Published ((tree.rename block name).replace block parent).1 block name parent := by
  have hrenamed := coherent.rename horphan name
  have horphan' : (tree.rename block name).parentOf block = none := by simpa using horphan
  have hcoherent : ((tree.rename block name).replace block parent).1.Coherent :=
    hrenamed.replace (by simpa using hblock) (by simpa using hparent)
  have hreplace : (tree.rename block name).replace block parent = _ := hrenamed.replace_eq horphan'
  rw [nameOf_rename_self name hblock] at hreplace
  have hlength : block < ((tree.rename block name).vacate parent name).blocks.length := by
    simpa using hblock
  rw [hreplace] at hcoherent ⊢
  refine ⟨rfl, hcoherent, by simp, ?_, ?_, fun other hother => ?_, fun other hother horphan => ?_,
    fun other hother hname => ?_, fun other => by simp⟩
  · rw [parentOf_attach hlength, if_pos rfl]
  · rw [nameOf_attach, nameOf_vacate, nameOf_rename_self name hblock]
  · rw [nameOf_attach, nameOf_vacate, nameOf_rename_of_ne name hother.symm]
  · rw [parentOf_attach hlength, if_neg hother.symm]
    exact parentOf_vacate_of_orphan (by simpa using horphan)
  · rw [parentOf_attach hlength, if_neg hother.symm, parentOf_vacate_of_nameOf_ne,
      parentOf_rename]
    rw [nameOf_rename_of_ne name hother.symm]
    exact hname

/-- A published block is the only child of its name. -/
theorem Coherent.only_child (coherent : tree.Coherent) (h : tree.parentOf block = some parent) :
    tree.findChild? parent (tree.nameOf block) = some block ∧
      ∀ other ∈ tree.childrenOf parent, tree.nameOf other = tree.nameOf block → other = block := by
  have hmem := (coherent.mem_childrenOf_iff parent block).mpr h
  exact ⟨coherent.siblingsDiffer.findChild?_eq hmem, fun other hother hname =>
    coherent.siblingsDiffer parent other hother block hmem hname⟩

/-- The child of a name is the block of that name which has the parent. -/
theorem Coherent.findChild?_eq_some_iff (coherent : tree.Coherent) {name : String} :
    tree.findChild? parent name = some block ↔
      tree.parentOf block = some parent ∧ tree.nameOf block = name := by
  constructor
  · intro h
    obtain ⟨hmem, hname⟩ := mem_of_findChild? h
    exact ⟨(coherent.mem_childrenOf_iff parent block).mp hmem, hname⟩
  · rintro ⟨hparent, rfl⟩
    exact (coherent.only_child hparent).1

/-- A published block is found by its name. -/
theorem Published.findChild?_self {name : String}
    (published : tree.Published after block name parent) :
    after.findChild? parent name = some block :=
  published.coherent.findChild?_eq_some_iff.mpr ⟨published.parentOf, published.nameOf⟩

/-- What is found by another name is the same before and after. -/
theorem Published.findChild?_of_ne {name sought : String}
    (published : tree.Published after block name parent) (coherent : tree.Coherent)
    (horphan : tree.parentOf block = none) (hne : sought ≠ name) (above : BlockId) :
    after.findChild? above sought = tree.findChild? above sought := by
  refine Option.ext fun found => ?_
  rw [published.coherent.findChild?_eq_some_iff, coherent.findChild?_eq_some_iff]
  by_cases hfound : found = block
  · subst hfound
    simp [published.nameOf, horphan, hne.symm]
  · rw [published.others found hfound]
    refine and_congr_left fun hname => ?_
    rw [published.stays found hfound (hname ▸ hne)]

/-! ## Trees that operations lead to -/

/-- An operation on a settings tree. -/
inductive Edit
  | create (name : String) (contents : BlockContents)
  | register (block parent : BlockId)
  | replace (block parent : BlockId)
  | unregister (block : BlockId)

/-- The tree after an operation, which may have been refused. -/
def Edit.apply (tree : SettingsTree) : Edit → SettingsTree
  | create name contents => (tree.add ⟨name, contents, none, []⟩).1
  | register block parent => ((tree.register block parent).toOption).getD tree
  | replace block parent => (tree.replace block parent).1
  | unregister block => tree.unregister block

/-- The blocks that an operation links exist. -/
def Edit.Fits (tree : SettingsTree) : Edit → Prop
  | register block parent => block < tree.blocks.length ∧ parent < tree.blocks.length
  | replace block parent => block < tree.blocks.length ∧ parent < tree.blocks.length
  | _ => True

theorem Coherent.edit (coherent : tree.Coherent) {edit : Edit} (fits : edit.Fits tree) :
    (edit.apply tree).Coherent := by
  cases edit with
  | create name contents => exact coherent.add rfl rfl
  | register block parent =>
    rw [Edit.apply]
    cases hregister : tree.register block parent with
    | ok after => exact coherent.register fits.1 fits.2 hregister
    | error cause => exact coherent
  | replace block parent => exact coherent.replace fits.1 fits.2
  | unregister block => exact coherent.unregister block

/-- The trees that operations build from nothing but a root. -/
inductive Built : SettingsTree → Prop
  | empty : Built SettingsTree.empty
  | edit {tree : SettingsTree} (prior : Built tree) (edit : Edit) (fits : edit.Fits tree) :
      Built (edit.apply tree)

/-- The blocks that each of several operations links exist when it is its turn. -/
def FitInTurn : SettingsTree → List Edit → Prop
  | _, [] => True
  | tree, edit :: rest => edit.Fits tree ∧ FitInTurn (edit.apply tree) rest

instance decidableFits (tree : SettingsTree) : (edit : Edit) → Decidable (edit.Fits tree)
  | .register _ _ => inferInstanceAs (Decidable (_ ∧ _))
  | .replace _ _ => inferInstanceAs (Decidable (_ ∧ _))
  | .create _ _ => inferInstanceAs (Decidable True)
  | .unregister _ => inferInstanceAs (Decidable True)

instance decidableFitInTurn :
    (tree : SettingsTree) → (edits : List Edit) → Decidable (FitInTurn tree edits)
  | _, [] => inferInstanceAs (Decidable True)
  | tree, edit :: rest =>
    have := decidableFitInTurn (edit.apply tree) rest
    inferInstanceAs (Decidable (edit.Fits tree ∧ FitInTurn (edit.apply tree) rest))

theorem Built.edits (built : tree.Built) {edits : List Edit} (fit : FitInTurn tree edits) :
    (edits.foldl Edit.apply tree).Built := by
  induction edits generalizing tree with
  | nil => exact built
  | cons edit rest ih => exact ih (built.edit edit fit.1) fit.2

/-- An operation never removes a block. -/
theorem length_le_edit (tree : SettingsTree) (edit : Edit) :
    tree.blocks.length ≤ (edit.apply tree).blocks.length := by
  cases edit with
  | create name contents => simp [Edit.apply]
  | register block parent =>
    rw [Edit.apply]
    cases hregister : tree.register block parent with
    | ok after =>
      rw [eq_attach_of_register hregister]
      simp [Except.toOption]
    | error cause => exact Nat.le_refl _
  | replace block parent =>
    rw [Edit.apply, SettingsTree.replace]
    split
    next registered hregister => simp [eq_attach_of_register hregister]
    next => simp
  | unregister block => simp [Edit.apply]

/-- The block that an operation registers, if it does. -/
def Edit.registered? : Edit → Option BlockId
  | register block _ => some block
  | replace block _ => some block
  | _ => none

/-- A block stays unregistered unless an operation registers it. -/
theorem parentOf_edit_of_orphan {edit : Edit} (fits : edit.Fits tree)
    (horphan : tree.parentOf other = none) (hne : edit.registered? ≠ some other) :
    (edit.apply tree).parentOf other = none := by
  cases edit with
  | create name contents => rwa [Edit.apply, parentOf_add rfl]
  | register block parent =>
    rw [Edit.apply]
    cases hregister : tree.register block parent with
    | ok after =>
      exact parentOf_register_of_orphan fits.1 hregister horphan fun h => hne (congrArg some h)
    | error cause => exact horphan
  | replace block parent =>
    exact parentOf_replace_of_orphan fits.1 horphan fun h => hne (congrArg some h)
  | unregister block =>
    rw [Edit.apply, parentOf_unregister, horphan, ite_self]

theorem Built.root_lt (built : tree.Built) : root < tree.blocks.length := by
  induction built with
  | empty => exact Nat.zero_lt_one
  | edit _ edit _ ih => exact Nat.lt_of_lt_of_le ih (length_le_edit _ edit)

theorem Built.coherent (built : tree.Built) : tree.Coherent := by
  induction built with
  | empty => exact Coherent.empty
  | edit _ edit fits coherent => exact coherent.edit fits

/-- After any number of operations, also where some of them were refused, no two children of a
block have the same name; a block is among the children of its parent once and among those of
no other block; and a block without a parent is nobody's child. -/
theorem Built.links_agree (built : tree.Built) :
    (∀ parent, ((tree.childrenOf parent).map tree.nameOf).Nodup) ∧
    (∀ parent child, (tree.childrenOf parent).count child =
      if tree.parentOf child = some parent then 1 else 0) ∧
    ∀ child, tree.parentOf child = none → ∀ parent, child ∉ tree.childrenOf parent := by
  have coherent := built.coherent
  refine ⟨fun parent => (coherent.nodup parent).map_on (coherent.siblingsDiffer parent),
    fun parent child => ?_, fun child horphan parent mem => ?_⟩
  · split
    next hparent =>
      exact List.count_eq_one_of_mem (coherent.nodup parent)
        ((coherent.mem_childrenOf_iff parent child).mpr hparent)
    next hparent =>
      exact List.count_eq_zero_of_not_mem fun mem =>
        hparent ((coherent.mem_childrenOf_iff parent child).mp mem)
  · rw [coherent.mem_childrenOf_iff, horphan] at mem
    cases mem

/-- A replacement that fails half way: the namesake is taken out, and then the block turns out
to be registered elsewhere. -/
theorem links_agree_after_failed_replacement :
    ∃ tree : SettingsTree, tree.Built ∧
      (tree.replace 2 0).2 = .error (.registered "net0.dhcp") ∧
      tree.parentOf 3 = some 0 ∧ (tree.replace 2 0).1.parentOf 3 = none ∧
      (∀ parent, (((tree.replace 2 0).1.childrenOf parent).map
        (tree.replace 2 0).1.nameOf).Nodup) ∧
      (∀ parent child, ((tree.replace 2 0).1.childrenOf parent).count child =
        if (tree.replace 2 0).1.parentOf child = some parent then 1 else 0) ∧
      ∀ parent, 3 ∉ (tree.replace 2 0).1.childrenOf parent := by
  have created := ((Built.empty.edit (.create "net0" (.values [])) trivial).edit
    (.create "dhcp" (.values [])) trivial).edit (.create "dhcp" (.values [])) trivial
  have built := ((created.edit (.register 1 0) ⟨by decide, by decide⟩).edit (.register 2 1)
    ⟨by decide, by decide⟩).edit (.register 3 0) ⟨by decide, by decide⟩
  have after := built.edit (.replace 2 0) ⟨by decide, by decide⟩
  obtain ⟨names, counts, orphans⟩ := after.links_agree
  exact ⟨_, built, rfl, rfl, rfl, names, counts, orphans 3 rfl⟩

end NetBoot.SettingsTree
