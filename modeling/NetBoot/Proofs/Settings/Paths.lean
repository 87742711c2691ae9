/-
# Paths in a settings tree

The path of a block joins the names on the way down to it with dots, and looking a path up
follows the parts between the dots.  A name with a dot falls into several parts, and an
empty one into none.  So a path leads back to its block exactly if every name on the way is
a single part, and two blocks whose names are all like that never have the same path.  A
block with another name cannot be found, and it can share its path with another one.
-/
import NetBoot.Proofs.Settings.Coherence
import NetBoot.Proofs.Text.Parts
import Mathlib.Data.List.Induction

namespace NetBoot

namespace SettingsTree

/-! ## The parts of a path -/

/-- A name that is a single part of a path: it is not empty and has no dot. -/
def IsPart (name : String) : Prop := name ≠ "" ∧ '.' ∉ name.toList

instance decidableIsPart (name : String) : Decidable (IsPart name) :=
  inferInstanceAs (Decidable (name ≠ "" ∧ '.' ∉ name.toList))

theorem pathParts_empty : pathParts "" = [] := by decide

/-- A dot ends a part. -/
theorem pathParts_append_dot (first rest : String) :
    pathParts (first ++ "." ++ rest) = pathParts first ++ pathParts rest := by
  have hsplit : (first ++ "." ++ rest).toList.splitOn '.' =
      first.toList.splitOn '.' ++ rest.toList.splitOn '.' := by
    simp only [String.toList_append, List.append_assoc]
    exact List.splitOn_append_cons_self first.toList rest.toList
  simp only [pathParts, Text.splitAt_eq_splitOn, hsplit, List.map_append, List.filter_append]

/-- A path has the parts of the names that it joins. -/
theorem pathParts_intercalate (names : List String) :
    pathParts (".".intercalate names) = names.flatMap pathParts := by
  induction names with
  | nil => simpa using pathParts_empty
  | cons name rest ih =>
    cases rest with
    | nil => simp
    | cons next rest =>
      rw [String.intercalate_cons_cons, pathParts_append_dot, ih]
      rfl

theorem isPart_of_mem_pathParts {part path : String} (mem : part ∈ pathParts path) :
    IsPart part := by
  simp only [pathParts, List.mem_filter, List.mem_map, decide_eq_true_eq] at mem
  obtain ⟨⟨chars, mem, rfl⟩, hne⟩ := mem
  rw [IsPart, String.toList_ofList]
  exact ⟨hne, Text.not_mem_of_mem_splitAt mem⟩

theorem IsPart.pathParts {name : String} (h : IsPart name) : pathParts name = [name] := by
  have hsplit : name.toList.splitOn '.' = [name.toList] :=
    List.splitOn_eq_singleton h.2
  simp [SettingsTree.pathParts, Text.splitAt_eq_splitOn, hsplit, h.1]

/-- Names come back from their path exactly if each is a single part. -/
theorem flatMap_pathParts_eq_iff (names : List String) :
    names.flatMap pathParts = names ↔ ∀ name ∈ names, IsPart name := by
  constructor
  · intro h name mem
    rw [← h, List.mem_flatMap] at mem
    obtain ⟨_, -, mem⟩ := mem
    exact isPart_of_mem_pathParts mem
  · intro h
    induction names with
    | nil => rfl
    | cons name rest ih =>
      rw [List.forall_mem_cons] at h
      rw [List.flatMap_cons, h.1.pathParts, ih h.2, List.singleton_append]

/-! ## Ways down -/

variable {tree : SettingsTree} {first block parent other : BlockId} {names others : List String}

/-- A block is reached from another one by children of these names, one after the other. -/
inductive Reaches (tree : SettingsTree) (first : BlockId) : List String → BlockId → Prop
  | here : Reaches tree first [] first
  | child {names : List String} {parent child : BlockId} (prior : Reaches tree first names parent)
      (mem : child ∈ tree.childrenOf parent) :
      Reaches tree first (names ++ [tree.nameOf child]) child

/-- Looking names up one after the other finds the block that they lead to. -/
theorem SiblingsDiffer.foldlM_findChild?_eq_some_iff (differ : tree.SiblingsDiffer) :
    names.foldlM tree.findChild? first = some block ↔ tree.Reaches first names block := by
  constructor
  · intro h
    induction names using List.reverseRecOn generalizing block with
    | nil =>
      rw [List.foldlM_nil, Option.pure_def, Option.some_inj] at h
      exact h ▸ .here
    | append_singleton names name ih =>
      rw [List.foldlM_append, Option.bind_eq_bind, Option.bind_eq_some_iff] at h
      obtain ⟨parent, hparent, hchild⟩ := h
      simp only [List.foldlM_cons, List.foldlM_nil, bind_pure] at hchild
      obtain ⟨mem, rfl⟩ := mem_of_findChild? hchild
      exact .child (ih hparent) mem
  · intro h
    induction h with
    | here => rfl
    | child _ mem ih =>
      rw [List.foldlM_append, ih, Option.bind_eq_bind, Option.bind_some, List.foldlM_cons,
        differ.findChild?_eq mem]
      rfl

theorem SiblingsDiffer.find?_eq_some_iff (differ : tree.SiblingsDiffer) (path : String) :
    tree.find? path = some block ↔ tree.Reaches root (pathParts path) block :=
  differ.foldlM_findChild?_eq_some_iff

/-- There is only one way from the root to a block, if the root is no child itself. -/
theorem Coherent.reaches_unique (coherent : tree.Coherent) (top : tree.parentOf root = none)
    (h : tree.Reaches root names block) (h' : tree.Reaches root others block) :
    names = others := by
  have htop {parent : BlockId} (mem : root ∈ tree.childrenOf parent) : False := by
    rw [coherent.mem_childrenOf_iff, top] at mem
    cases mem
  induction h generalizing others with
  | here =>
    cases h' with
    | here => rfl
    | child _ mem => exact (htop mem).elim
  | @child names parent block _ mem ih =>
    cases h' with
    | here => exact (htop mem).elim
    | @child others parent' _ prior mem' =>
      rw [coherent.mem_childrenOf_iff] at mem mem'
      rw [mem, Option.some_inj] at mem'
      rw [ih (mem' ▸ prior)]

/-- A way has fewer steps than there are blocks, so it can be followed upward to its end. -/
theorem Coherent.length_lt_of_reaches (coherent : tree.Coherent)
    (top : tree.parentOf root = none) (known : root < tree.blocks.length)
    (h : tree.Reaches root names block) : names.length < tree.blocks.length := by
  -- the blocks on a way are all different, because each is reached in its own number of steps
  have hway : ∃ way : List BlockId, way.length = names.length + 1 ∧ way.Nodup ∧
      ∀ passed ∈ way, passed < tree.blocks.length ∧
        ∃ steps, tree.Reaches root steps passed ∧ steps.length ≤ names.length := by
    induction h with
    | here => exact ⟨[root], rfl, List.nodup_singleton root, by simpa using ⟨known, .here⟩⟩
    | @child names parent block prior mem ih =>
      obtain ⟨way, hlength, nodup, hway⟩ := ih
      have hblock : block ∉ way := by
        intro hmem
        obtain ⟨-, steps, hsteps, hle⟩ := hway block hmem
        rw [coherent.reaches_unique top hsteps (prior.child mem), List.length_append] at hle
        exact absurd hle (by simp)
      refine ⟨block :: way, by simp [hlength], List.nodup_cons.mpr ⟨hblock, nodup⟩, ?_⟩
      intro passed hpassed
      rcases List.mem_cons.mp hpassed with rfl | hpassed
      · exact ⟨lt_of_parentOf ((coherent.mem_childrenOf_iff parent passed).mp mem), _,
          prior.child mem, Nat.le_refl _⟩
      · obtain ⟨hlt, steps, hsteps, hle⟩ := hway passed hpassed
        exact ⟨hlt, steps, hsteps, Nat.le_trans hle (by simp)⟩
  obtain ⟨way, hlength, nodup, hway⟩ := hway
  have hsub : way ⊆ List.range tree.blocks.length := fun passed mem =>
    List.mem_range.mpr (hway passed mem).1
  have hle := nodup.length_le_of_subset hsub
  rw [hlength, List.length_range] at hle
  exact hle

/-- Whoever follows the parents far enough meets the names on the way, in reverse. -/
theorem Coherent.namesUp_eq (coherent : tree.Coherent) (top : tree.parentOf root = none)
    (h : tree.Reaches root names block) {steps : Nat} (far : names.length ≤ steps) :
    tree.namesUp steps block = names.reverse := by
  induction h generalizing steps with
  | here => cases steps <;> simp [namesUp, top]
  | @child names parent block prior mem ih =>
    obtain ⟨steps, rfl⟩ : ∃ rest, steps = rest + 1 :=
      Nat.exists_eq_add_one.mpr (Nat.lt_of_lt_of_le (by simp) far)
    have hparent := (coherent.mem_childrenOf_iff parent block).mp mem
    have hprior : tree.namesUp steps parent = names.reverse := ih (by simpa using far)
    simp only [namesUp, hparent, hprior]
    simp

/-- The path of a block joins the names on the way to it. -/
theorem Coherent.path_eq (coherent : tree.Coherent) (top : tree.parentOf root = none)
    (known : root < tree.blocks.length) (h : tree.Reaches root names block) :
    tree.path block = ".".intercalate names := by
  have far := Nat.le_of_lt (coherent.length_lt_of_reaches top known h)
  rw [path, coherent.namesUp_eq top h far, List.reverse_reverse]

/-! ## Trees whose root stays on top -/

/-- The trees that operations build which never register the root itself. -/
inductive Rooted : SettingsTree → Prop
  | empty : Rooted SettingsTree.empty
  | edit {tree : SettingsTree} (prior : Rooted tree) (edit : Edit) (fits : edit.Fits tree)
      (lower : edit.registered? ≠ some root) : Rooted (edit.apply tree)

theorem Rooted.built (rooted : tree.Rooted) : tree.Built := by
  induction rooted with
  | empty => exact .empty
  | edit _ edit fits _ ih => exact ih.edit edit fits

theorem Rooted.top (rooted : tree.Rooted) : tree.parentOf root = none := by
  induction rooted with
  | empty => rfl
  | edit _ edit fits lower ih => exact parentOf_edit_of_orphan fits ih lower

/-- In every tree that was built from blocks of any names, a block that is reached from the root
has as its path the names on the way, joined by dots.  The path leads back to the block exactly
if none of these names is empty or has a dot, and blocks for which that is so have different
paths. -/
theorem Rooted.path_leads_back_iff (rooted : tree.Rooted) (h : tree.Reaches root names block) :
    tree.path block = ".".intercalate names ∧
    (tree.find? (tree.path block) = some block ↔ ∀ name ∈ names, IsPart name) ∧
    ((∀ name ∈ names, IsPart name) → ∀ other others, tree.Reaches root others other →
      (∀ name ∈ others, IsPart name) → tree.path other = tree.path block → other = block) := by
  have coherent := rooted.built.coherent
  have hiff {block : BlockId} {names : List String} (h : tree.Reaches root names block) :
      tree.find? (tree.path block) = some block ↔ ∀ name ∈ names, IsPart name := by
    rw [coherent.siblingsDiffer.find?_eq_some_iff,
      coherent.path_eq rooted.top rooted.built.root_lt h, pathParts_intercalate,
      ← flatMap_pathParts_eq_iff]
    constructor
    · exact fun h' => coherent.reaches_unique rooted.top h' h
    · exact fun hsame => hsame.symm ▸ h
  refine ⟨coherent.path_eq rooted.top rooted.built.root_lt h, hiff h,
    fun hparts other others hother hparts' hpath => ?_⟩
  have hfound := (hiff hother).mpr hparts'
  rw [hpath, (hiff h).mpr hparts, Option.some_inj] at hfound
  exact hfound.symm

/-- The block of a virtual interface has the path of a block below the interface, and that one
is found by it. -/
theorem virtual_interface_shares_path :
    ∃ tree : SettingsTree, tree.Rooted ∧ tree.Reaches root ["eth0.100"] 2 ∧
      tree.Reaches root ["eth0", "100"] 3 ∧ tree.path 2 = "eth0.100" ∧
      tree.path 3 = "eth0.100" ∧ tree.find? "eth0.100" = some 3 ∧
      tree.find? (tree.path 2) ≠ some 2 := by
  let tree : SettingsTree := [.create "eth0" (.values []), .create "eth0.100" (.values []),
    .create "100" (.values []), .register 1 0, .register 2 0, .register 3 1].foldl Edit.apply .empty
  have created := ((Rooted.empty.edit (.create "eth0" (.values [])) trivial (by decide)).edit
    (.create "eth0.100" (.values [])) trivial (by decide)).edit (.create "100" (.values []))
    trivial (by decide)
  have rooted : tree.Rooted := ((created.edit (.register 1 0) ⟨by decide, by decide⟩
    (by decide)).edit (.register 2 0) ⟨by decide, by decide⟩ (by decide)).edit (.register 3 1)
    ⟨by decide, by decide⟩ (by decide)
  have first : 1 ∈ tree.childrenOf root := by decide
  have second : 2 ∈ tree.childrenOf root := by decide
  have third : 3 ∈ tree.childrenOf 1 := by decide
  have hnames : tree.nameOf 1 = "eth0" ∧ tree.nameOf 2 = "eth0.100" ∧ tree.nameOf 3 = "100" := by
    decide
  have virtual := Reaches.here.child second
  have below := (Reaches.here.child first).child third
  rw [hnames.2.1, List.nil_append] at virtual
  rw [hnames.1, hnames.2.2, List.nil_append, List.singleton_append] at below
  obtain ⟨hvirtual, hfind, -⟩ := rooted.path_leads_back_iff virtual
  obtain ⟨hshared, hfound, -⟩ := rooted.path_leads_back_iff below
  rw [hshared] at hfound
  exact ⟨tree, rooted, virtual, below, hvirtual, hshared, hfound.mpr (by decide),
    fun h => absurd (hfind.mp h "eth0.100" (by simp)).2 (by decide)⟩

end SettingsTree
end NetBoot
