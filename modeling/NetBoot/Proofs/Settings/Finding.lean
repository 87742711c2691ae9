/-
# Finding a block by a path

A path is split at its dots, and empty parts do not count.  From the root each part leads to the
child of that name.  Where siblings have different names this is the only way along these names,
so a path finds the one block at its end, or nothing if there is none.
-/
import NetBoot.Proofs.Settings.Paths

namespace NetBoot.SettingsTree

variable {tree : SettingsTree} {first second : BlockId} {names : List String}

/-- What stands between the dots of a text, where it is not empty. -/
def partsBetweenDots (text : String) : List String :=
  ((text.toList.splitOn '.').filter (· ≠ [])).map String.ofList

theorem pathParts_eq_partsBetweenDots (path : String) : pathParts path = partsBetweenDots path := by
  rw [pathParts, partsBetweenDots, Text.splitAt_eq_splitOn, List.filter_map]
  refine congrArg (List.map String.ofList) (List.filter_congr fun part _ => ?_)
  rw [Function.comp_apply, decide_eq_decide, ← String.ofList_nil, Ne, String.ofList_inj]

/-- A text has no parts if and only if it consists of dots. -/
theorem partsBetweenDots_eq_nil_iff (text : String) :
    partsBetweenDots text = [] ↔ ∀ char ∈ text.toList, char = '.' := by
  have hchars (chars : List Char) :
      (∀ part ∈ chars.splitOn '.', part = []) ↔ ∀ char ∈ chars, char = '.' := by
    induction chars with
    | nil => simp
    | cons char rest ih =>
      obtain ⟨part, parts, hparts⟩ := List.exists_cons_of_ne_nil (List.splitOn_ne_nil '.' rest)
      rw [hparts] at ih
      rw [List.splitOn_cons_eq_if_modifyHead, hparts, List.forall_mem_cons, ← ih]
      by_cases h : char = '.' <;> simp [h]
  rw [partsBetweenDots, List.map_eq_nil_iff, List.filter_eq_nil_iff, ← hchars]
  simp

/-- An empty part of a path does not count, wherever it stands. -/
theorem find?_intercalate_empty (tree : SettingsTree) (before after : List String) :
    tree.find? (".".intercalate (before ++ "" :: after)) =
      tree.find? (".".intercalate (before ++ after)) := by
  have hparts : pathParts (".".intercalate (before ++ "" :: after)) =
      pathParts (".".intercalate (before ++ after)) := by
    simp only [pathParts_intercalate, List.flatMap_append, List.flatMap_cons, pathParts_empty,
      List.nil_append]
  rw [find?, find?, hparts]

/-- Names lead to one block at most. -/
theorem SiblingsDiffer.reaches_end_unique (differ : tree.SiblingsDiffer)
    (h : tree.Reaches root names first) (h' : tree.Reaches root names second) :
    first = second := by
  rw [← differ.foldlM_findChild?_eq_some_iff] at h h'
  exact Option.some.inj (h.symm.trans h')

/-- In a tree whose siblings have different names, a path finds a block if and only if children
whose names are the parts between its dots lead to the block from the root, one after the other;
and it finds nothing if and only if they lead nowhere.  They lead to one block at most.  A path
without parts, that is, one of dots alone, finds the root, and empty parts do not count, wherever
they are put. -/
theorem SiblingsDiffer.find?_follows_names (differ : tree.SiblingsDiffer) :
    (∀ path block, tree.find? path = some block ↔
      tree.Reaches root (partsBetweenDots path) block) ∧
    (∀ path, tree.find? path = none ↔
      ∀ block, ¬ tree.Reaches root (partsBetweenDots path) block) ∧
    (∀ names first second, tree.Reaches root names first → tree.Reaches root names second →
      first = second) ∧
    (∀ path, (partsBetweenDots path = [] ↔ ∀ char ∈ path.toList, char = '.') ∧
      (partsBetweenDots path = [] → tree.find? path = some root)) ∧
    ∀ before after, tree.find? (".".intercalate (before ++ "" :: after)) =
      tree.find? (".".intercalate (before ++ after)) := by
  have hfind (path : String) (block : BlockId) : tree.find? path = some block ↔
      tree.Reaches root (partsBetweenDots path) block := by
    rw [differ.find?_eq_some_iff, pathParts_eq_partsBetweenDots]
  refine ⟨hfind, fun path => ?_, fun names first second => differ.reaches_end_unique,
    fun path => ⟨partsBetweenDots_eq_nil_iff path, fun hparts => ?_⟩,
    find?_intercalate_empty tree⟩
  · simp only [Option.eq_none_iff_forall_ne_some, Ne, hfind]
  · rw [hfind, hparts]
    exact .here

/-- Two devices with a reply of the same name below each.  Dots at the ends and several dots in a
row do not matter, and nothing is found for a name that no child has. -/
theorem reply_found_between_dots :
    ∃ tree : SettingsTree, tree.SiblingsDiffer ∧ tree.Reaches root ["net1", "dhcp"] 4 ∧
      tree.find? ".net1..dhcp." = some 4 ∧ tree.find? ".." = some root ∧
      ∀ block, ¬ tree.Reaches root ["net1", "proxydhcp"] block := by
  let tree : SettingsTree := [.create "net0" (.values []), .create "net1" (.values []),
    .create "dhcp" (.values []), .create "dhcp" (.values []), .register 1 0, .register 2 0,
    .register 3 1, .register 4 2].foldl Edit.apply .empty
  have built : tree.Built := Built.empty.edits (by decide)
  have differ := built.coherent.siblingsDiffer
  obtain ⟨found, missed, -, top, -⟩ := differ.find?_follows_names
  have reached := (found ".net1..dhcp." 4).mp (by decide +kernel)
  have unreached := (missed "net1.proxydhcp").mp (by decide +kernel)
  obtain ⟨dots, first⟩ := top ".."
  have hparts : partsBetweenDots ".net1..dhcp." = ["net1", "dhcp"] ∧
      partsBetweenDots "net1.proxydhcp" = ["net1", "proxydhcp"] := by decide +kernel
  rw [hparts.1] at reached
  rw [hparts.2] at unreached
  exact ⟨tree, differ, reached, by decide +kernel, first (dots.mpr (by simp)), unreached⟩

end NetBoot.SettingsTree
