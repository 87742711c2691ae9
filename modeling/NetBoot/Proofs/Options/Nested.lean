/-
# Options inside options

The value of an option can be a block of options itself.  Setting or removing an option
inside another one rewrites the value of the carrying option, and does to the options in
there what an update does; when nothing is left inside, the carrying option is gone.  So an
update shows at its own tag and nowhere else, apart from the options that it carries or is
carried by.
-/
import NetBoot.Options.Region
import NetBoot.Proofs.Options.RoundTrip

namespace NetBoot

namespace Tag

/-- A tag of an option that a block can hold, or of one that such an option can carry. -/
inductive Ordinary : Tag → Prop
  | plain {tag : Int} (least : 1 ≤ tag) (most : tag ≤ 254) : Ordinary tag
  | inside {carrier option : Int} (carries : 1 ≤ carrier ∧ carrier ≤ 254)
      (carried : 1 ≤ option ∧ option ≤ 254) : Ordinary (inside carrier option)

/-- The tag inside an option is the last of two base-256 digits. -/
theorem inside_eq {carrier option : Int} (hcarrier : 0 ≤ carrier) (hoption : 0 ≤ option)
    (hbyte : option < 256) : inside carrier option = carrier * 256 + option := by
  obtain ⟨carrier, rfl⟩ := Int.eq_ofNat_of_zero_le hcarrier
  obtain ⟨option, rfl⟩ := Int.eq_ofNat_of_zero_le hoption
  have hinside : inside (carrier : Int) (option : Int) = ((carrier * 256 ||| option : Nat) : Int) :=
    rfl
  have hlt : option < 2 ^ 8 := by omega
  have hor := Nat.two_pow_add_eq_or_of_lt hlt carrier
  rw [show 2 ^ 8 = 256 from rfl] at hor
  rw [hinside, Nat.mul_comm, ← hor]
  show ((256 * carrier + option : Nat) : Int) = carrier * 256 + option
  omega

/-- The parts of an ordinary tag. -/
theorem Ordinary.parts {tag : Tag} (h : tag.Ordinary) :
    tag.outer = 0 ∧ 1 ≤ tag ∧ tag ≤ 254 ∨
      (1 ≤ tag.outer ∧ tag.outer ≤ 254) ∧ 1 ≤ tag.inner ∧ tag.inner ≤ 254 := by
  cases h with
  | plain least most =>
    refine .inl ⟨?_, least, most⟩
    exact Int.ediv_eq_zero_of_lt (by omega) (by omega)
  | @inside carrier option carries carried =>
    rw [inside_eq (by omega) (by omega) (by omega)]
    simp only [outer, inner]
    omega

/-- The tags that frame a block are not ordinary. -/
theorem Ordinary.not_framing {tag : Tag} (h : tag.Ordinary) : ¬(tag = pad ∨ tag = stop) := by
  have hparts := h.parts
  rintro (rfl | rfl) <;> revert hparts <;> decide

theorem eq_of_parts {first second : Int} (houter : outer first = outer second)
    (hinner : inner first = inner second) : first = second := by
  simp only [outer, inner] at houter hinner
  omega

end Tag

namespace OptionMap

variable {options : OptionMap} {tag other : Tag}

/-- The options that an option carries, none if it is absent. -/
def carried (options : OptionMap) (carrier : Tag) : OptionMap :=
  OptionBlock.decode ((options.get? carrier).getD [])

/-- The value of an option, which may be one inside another option. -/
def lookup (options : OptionMap) (tag : Tag) : Option Bytes :=
  if tag.outer ≠ 0 then (options.carried tag.outer).get? tag.inner else options.get? tag

theorem lookup_of_plain (h : tag.outer = 0) : options.lookup tag = options.get? tag :=
  if_neg (not_not.mpr h)

theorem lookup_of_nested (h : tag.outer ≠ 0) :
    options.lookup tag = (options.carried tag.outer).get? tag.inner :=
  if_pos h

/-- What a carrying option becomes, if one of the options inside it is set or removed, can
always be written, and carries what an update makes of the options inside. -/
theorem exists_updateInner {inner : Tag} (h : 1 ≤ inner ∧ inner ≤ 254) (block : Bytes)
    (value : Option Bytes) : ∃ after, OptionRegion.updateInner? block inner value = some after ∧
      OptionBlock.decode (after.getD []) = (OptionBlock.decode block).update inner value := by
  obtain ⟨body, hbody, -, hdecode, -⟩ :=
    OptionBlock.exists_decode_body ((OptionBlock.proper_decode block).update h value)
  rw [OptionRegion.updateInner?]
  split
  next hempty => exact ⟨none, rfl, OptionBlock.decode_nil.trans (List.isEmpty_iff.mp hempty).symm⟩
  next => exact ⟨some body, by rw [hbody]; rfl, hdecode⟩

/-- What an update of an ordinary option does: the option itself changes, or the block of the
option that carries it. -/
theorem exists_updated (h : tag.Ordinary) (options : OptionMap) (value : Option Bytes) :
    ∃ known content, (1 ≤ known ∧ known ≤ 254) ∧
      OptionRegion.updated? options tag value = some (options.update known content) ∧
      (tag.outer = 0 → known = tag ∧ content = value) ∧
      (tag.outer ≠ 0 → known = tag.outer ∧
        OptionBlock.decode (content.getD []) =
          (options.carried tag.outer).update tag.inner value) := by
  rcases h.parts with ⟨houter, htag⟩ | ⟨houter, hinner⟩
  · exact ⟨tag, value, htag, if_neg (not_not.mpr houter), fun _ => ⟨rfl, rfl⟩,
      fun hne => absurd houter hne⟩
  · have hne : tag.outer ≠ 0 := by
      intro hzero
      rw [hzero] at houter
      exact absurd houter.1 (by decide)
    obtain ⟨content, hcontent, hdecode⟩ :=
      exists_updateInner hinner ((options.get? tag.outer).getD []) value
    refine ⟨tag.outer, content, houter, ?_, fun hzero => absurd hzero hne, fun _ => ⟨rfl, hdecode⟩⟩
    rw [OptionRegion.updated?, if_pos hne, hcontent]
    rfl

theorem carried_update_self (carrier : Tag) (content : Option Bytes) (options : OptionMap) :
    (options.update carrier content).carried carrier = OptionBlock.decode (content.getD []) := by
  rw [carried, get?_update_self]

theorem carried_update_of_ne {carrier known : Tag} (h : carrier ≠ known)
    (content : Option Bytes) (options : OptionMap) :
    (options.update known content).carried carrier = options.carried carrier := by
  rw [carried, get?_update_of_ne h]
  rfl

/-- An update keeps a map proper, shows at its own tag, and shows at no other tag that is
neither that of the carrying option nor one that the option carries. -/
theorem lookup_updated (ordinary : tag.Ordinary) (options : OptionMap)
    (value : Option Bytes) : ∃ after, OptionRegion.updated? options tag value = some after ∧
      (options.Proper → after.Proper) ∧ after.lookup tag = value ∧
      ∀ other : Tag, other ≠ tag → other ≠ tag.outer → other.outer ≠ tag →
        after.lookup other = options.lookup other := by
  obtain ⟨known, content, hknown, hupdated, hplain, hnested⟩ :=
    exists_updated ordinary options value
  refine ⟨_, hupdated, fun proper => proper.update hknown content, ?_,
    fun other hother hcarrier hinside => ?_⟩
  · by_cases houter : tag.outer = 0
    · obtain ⟨rfl, rfl⟩ := hplain houter
      rw [lookup_of_plain houter, get?_update_self]
    · obtain ⟨rfl, hdecode⟩ := hnested houter
      rw [lookup_of_nested houter, carried_update_self, hdecode, get?_update_self]
  · have hknown' : other ≠ known ∧ (other.outer ≠ known ∨ tag.outer ≠ 0 ∧
        other.outer = tag.outer) := by
      by_cases houter : tag.outer = 0
      · obtain ⟨rfl, -⟩ := hplain houter
        exact ⟨hother, .inl hinside⟩
      · obtain ⟨rfl, -⟩ := hnested houter
        exact ⟨hcarrier, (ne_or_eq _ _).imp_right fun h => ⟨houter, h⟩⟩
    by_cases hplace : other.outer = 0
    · rw [lookup_of_plain hplace, lookup_of_plain hplace, get?_update_of_ne hknown'.1]
    · rw [lookup_of_nested hplace, lookup_of_nested hplace]
      rcases hknown'.2 with hne | ⟨houter, hsame⟩
      · rw [carried_update_of_ne hne]
      · -- both options are carried by the same one, so they differ inside it
        obtain ⟨rfl, hdecode⟩ := hnested houter
        have hinner : other.inner ≠ tag.inner := fun h => hother (Tag.eq_of_parts hsame h)
        rw [hsame, carried_update_self, hdecode, get?_update_of_ne hinner]

end OptionMap

namespace OptionRegion

/-- A region answers what its map holds. -/
theorem fetch_eq_lookup (region : OptionRegion) (tag : Tag) :
    region.fetch tag = region.options.lookup tag := by
  rw [fetch, OptionMap.lookup]
  split
  · rw [OptionMap.carried]
    cases region.options.get? tag.outer with
    | none => exact (congrArg (OptionMap.get? tag.inner) OptionBlock.decode_nil).symm
    | some block => rfl
  · rfl

end OptionRegion
end NetBoot
