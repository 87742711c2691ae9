/-
# Parts of a text

A text is split at all occurrences of a separator, or cut at the first one, and what stands at
both ends of a part can be stripped.  What is joined with a separator that it does not hold is
split into the same parts again, and what stands around the rest is gone once it is stripped.
-/
import NetBoot.Text.Blank
import Mathlib.Data.List.DropRight

namespace NetBoot.Text

variable {separator : Char} {drop : Char → Bool}
  {chars part first rest before after : List Char}

/-! ## Separators -/

/-- The parts of a list of characters are those that core splits it into. -/
theorem splitAt_eq_splitOn (separator : Char) (chars : List Char) :
    splitAt separator chars = chars.splitOn separator := by
  induction chars with
  | nil => rfl
  | cons char rest ih =>
    obtain ⟨part, parts, hparts⟩ :=
      List.exists_cons_of_ne_nil (List.splitOn_ne_nil separator rest)
    rw [splitAt, ih, List.splitOn_cons_eq_if_modifyHead, hparts]
    by_cases h : char = separator <;> simp [h]

/-- No part has the separator. -/
theorem not_mem_of_mem_splitAt (mem : part ∈ splitAt separator chars) : separator ∉ part := by
  fun_induction splitAt separator chars generalizing part with
  | case1 => simp_all
  | case2 rest ih =>
    rcases List.mem_cons.mp mem with rfl | mem
    · exact List.not_mem_nil
    · exact ih mem
  | case3 char rest hne hrest => simp_all [Ne.symm hne]
  | case4 char rest hne first parts hrest ih =>
    rw [hrest] at ih
    rcases List.mem_cons.mp mem with rfl | mem
    · simpa [Ne.symm hne] using ih List.mem_cons_self
    · exact ih (List.mem_cons_of_mem first mem)

/-- Without a separator nothing stands behind it. -/
theorem cutAt_of_not_mem (h : separator ∉ chars) : cutAt separator chars = (chars, []) := by
  have hne (char : Char) (mem : char ∈ chars) : (char != separator) = true :=
    bne_iff_ne.mpr fun hsame => h (hsame ▸ mem)
  rw [cutAt, List.takeWhile_eq_self_iff.mpr hne, List.dropWhile_eq_nil_iff.mpr hne]
  rfl

/-- The first separator is the one that counts. -/
theorem cutAt_append (h : separator ∉ first) :
    cutAt separator (first ++ separator :: rest) = (first, rest) := by
  have hne (char : Char) (mem : char ∈ first) : (char != separator) = true :=
    bne_iff_ne.mpr fun hsame => h (hsame ▸ mem)
  rw [cutAt, List.takeWhile_append_of_pos hne, List.dropWhile_append_of_pos hne]
  simp

/-- A text has no separator, or a part without one stands in front of the first one. -/
theorem cutAt_cases (separator : Char) (chars : List Char) :
    separator ∉ chars ∨ ∃ first rest, separator ∉ first ∧ chars = first ++ separator :: rest := by
  by_cases h : separator ∈ chars
  · obtain ⟨first, rest, rfl, hfirst⟩ := List.eq_append_cons_of_mem h
    exact .inr ⟨first, rest, hfirst, rfl⟩
  · exact .inl h

/-! ## Stripping -/

/-- The characters at both ends are none of a class. -/
def EndsStay (drop : Char → Bool) (chars : List Char) : Prop :=
  ∀ given : chars ≠ [], drop (chars.head given) = false ∧ drop (chars.getLast given) = false

theorem endsStay_of_forall (h : ∀ char ∈ chars, drop char = false) : EndsStay drop chars :=
  fun given => ⟨h _ (List.head_mem given), h _ (List.getLast_mem given)⟩

/-- Ends that stay when they are put together. -/
theorem endsStay_append (hfirst : EndsStay drop first) (hrest : EndsStay drop rest)
    (opens : first ≠ []) (closes : rest ≠ []) (middle : List Char) :
    EndsStay drop (first ++ middle ++ rest) := by
  intro given
  rw [List.getLast_append_of_ne_nil _ closes, List.head_append_of_ne_nil (by simp [opens]),
    List.head_append_of_ne_nil opens]
  exact ⟨(hfirst opens).1, (hrest closes).2⟩

/-- What stands around a text is gone once it is stripped. -/
theorem stripWhile_around (hbefore : ∀ char ∈ before, drop char = true)
    (hafter : ∀ char ∈ after, drop char = true) (ends : EndsStay drop chars) :
    stripWhile drop (before ++ chars ++ after) = chars := by
  have hreverse : ∀ char ∈ after.reverse, drop char = true := by simpa using hafter
  rw [stripWhile, List.append_assoc, List.dropWhile_append_of_pos hbefore]
  by_cases given : chars = []
  · subst given
    rw [List.nil_append, List.dropWhile_eq_nil_iff.mpr hafter]
    rfl
  · obtain ⟨hhead, hlast⟩ := ends given
    have hfront : (chars ++ after).dropWhile drop = chars ++ after := by
      rw [← List.cons_head_tail given, List.cons_append,
        List.dropWhile_cons_of_neg (by simp [hhead])]
    have hback : chars.reverse.dropWhile drop = chars.reverse := by
      rw [← List.dropLast_append_getLast given, List.reverse_append, List.reverse_singleton,
        List.singleton_append, List.dropWhile_cons_of_neg (by simp [hlast])]
    rw [hfront, List.reverse_append, List.dropWhile_append_of_pos hreverse, hback,
      List.reverse_reverse]

theorem stripWhile_eq_nil (h : ∀ char ∈ chars, drop char = true) : stripWhile drop chars = [] := by
  rw [stripWhile, List.dropWhile_eq_nil_iff.mpr h]
  rfl

end NetBoot.Text
