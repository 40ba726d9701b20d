import Mathlib.Data.List.Perm.Subperm
import Mathlib.Tactic.Common

/-! Facts about the ordered maps and sets of `Std` whose order is consistent
with equality: reading an insertion, and counting keys inside a list. -/

set_option autoImplicit false

namespace Library

variable {α β : Type} {cmp : α → α → Ordering} [Std.TransCmp cmp] [Std.LawfulEqCmp cmp]

/-- A list without duplicates inside a list that is no longer covers it. -/
theorem subset_of_nodup_subset {left right : List α} (nodup : left.Nodup)
    (contained : left ⊆ right) (long : right.length ≤ left.length) : right ⊆ left :=
  ((nodup.subperm contained).perm_of_length_le long).symm.subset

/-- A narrower test that one item fails counts fewer items. -/
theorem countP_lt {narrow wide : α → Bool} {items : List α}
    (implied : ∀ item ∈ items, narrow item = true → wide item = true) {item : α}
    (member : item ∈ items) (fails : narrow item = false) (passes : wide item = true) :
    items.countP narrow < items.countP wide := by
  induction items with
  | nil => cases member
  | cons head rest ih =>
      obtain ⟨first, others⟩ := List.forall_mem_cons.mp implied
      have fewer : rest.countP narrow ≤ rest.countP wide := List.countP_mono_left others
      rw [List.countP_cons, List.countP_cons]
      rcases List.mem_cons.mp member with rfl | later
      · simp only [fails, passes, Bool.false_eq_true, ↓reduceIte]
        omega
      · have less := ih others later
        have step : (if narrow head then 1 else 0) ≤ if wide head then 1 else 0 := by
          cases value : narrow head with
          | false => simp
          | true => simp [first value]
        omega

namespace OrderedMap

variable {map : Std.ExtTreeMap α β cmp} {keys : List α}

theorem getElem?_insert [DecidableEq α] (inserted key : α) (value : β) :
    (map.insert inserted value)[key]? = if key = inserted then some value else map[key]? := by
  simp only [Std.ExtTreeMap.getElem?_insert, Std.LawfulEqCmp.compare_eq_iff_eq,
    eq_comm (a := inserted)]

theorem getElem?_insert_fresh {inserted : α} {value : β} (fresh : map[inserted]? = none)
    {key : α} {found : β} :
    (map.insert inserted value)[key]? = some found ↔
      map[key]? = some found ∨ key = inserted ∧ found = value := by
  rw [Std.ExtTreeMap.getElem?_insert]
  split
  · rename_i same
    cases Std.LawfulEqCmp.eq_of_compare same
    simp [fresh, eq_comm]
  · rename_i different
    have other : key ≠ inserted := fun same => different (same ▸ Std.ReflCmp.compare_self)
    simp [other]

theorem mem_insert {inserted key : α} {value : β} :
    key ∈ map.insert inserted value ↔ key = inserted ∨ key ∈ map := by
  simp only [Std.ExtTreeMap.mem_insert, Std.LawfulEqCmp.compare_eq_iff_eq,
    eq_comm (a := inserted)]

theorem insert_eq_self {key : α} {value : β} (found : map[key]? = some value) :
    map.insert key value = map := by
  refine Std.ExtTreeMap.ext_getElem? fun other => ?_
  rw [Std.ExtTreeMap.getElem?_insert]
  split
  · rename_i same
    rw [← Std.LawfulEqCmp.eq_of_compare same, found]
  · rfl

omit [Std.LawfulEqCmp cmp] in
theorem mem_iff_exists {key : α} : key ∈ map ↔ ∃ value, map[key]? = some value := by
  rw [Std.ExtTreeMap.mem_iff_isSome_getElem?, Option.isSome_iff_exists]

theorem keys_nodup : map.keys.Nodup :=
  (Std.ExtTreeMap.distinct_keys (t := map)).imp fun {left right} different same =>
    different (by rw [same]; exact Std.ReflCmp.compare_self)

theorem eq_of_size_lt_two (small : map.size < 2) {left right : α} (leftMember : left ∈ map)
    (rightMember : right ∈ map) : left = right := by
  rw [← Std.ExtTreeMap.length_keys] at small
  rw [← Std.ExtTreeMap.mem_keys] at leftMember rightMember
  match keys : map.keys with
  | [] => simp [keys] at leftMember
  | [only] => simp_all
  | _ :: _ :: rest => exact absurd small (by simp [keys])

/-- A map over a list of keys with as many entries has an entry for each. -/
theorem mem_of_size_eq (contained : ∀ key ∈ map, key ∈ keys) (full : map.size = keys.length)
    {key : α} (member : key ∈ keys) : key ∈ map := by
  have covered : keys ⊆ map.keys := by
    refine subset_of_nodup_subset keys_nodup ?_ ?_
    · exact fun key present => contained key (Std.ExtTreeMap.mem_keys.mp present)
    · exact Nat.le_of_eq (by rw [Std.ExtTreeMap.length_keys, full])
  exact Std.ExtTreeMap.mem_keys.mp (covered member)

/-- A map with as many entries as a list without duplicates covers the list just
when it has no other keys. -/
theorem covers_iff (full : map.size = keys.length) (nodup : keys.Nodup) :
    (∀ key ∈ keys, key ∈ map) ↔ ∀ key ∈ map, key ∈ keys := by
  constructor
  · intro covered
    have contained : keys ⊆ map.keys := fun key member =>
      Std.ExtTreeMap.mem_keys.mpr (covered key member)
    have inside := subset_of_nodup_subset nodup contained
      (Nat.le_of_eq (by rw [Std.ExtTreeMap.length_keys, full]))
    exact fun key present => inside (Std.ExtTreeMap.mem_keys.mpr present)
  · exact fun contained key member => mem_of_size_eq contained full member

/-- A map with an entry for each key of a list without duplicates, and no others,
has as many entries. -/
theorem size_eq (contained : ∀ key ∈ map, key ∈ keys) (nodup : keys.Nodup)
    (covered : ∀ key ∈ keys, key ∈ map) : map.size = keys.length := by
  rw [← Std.ExtTreeMap.length_keys]
  apply List.Perm.length_eq
  rw [List.perm_ext_iff_of_nodup keys_nodup nodup]
  intro key
  rw [Std.ExtTreeMap.mem_keys]
  exact ⟨contained key, covered key⟩

/-- A map smaller than a list without duplicates misses a key of the list. -/
theorem exists_not_mem (nodup : keys.Nodup) (small : map.size < keys.length) :
    ∃ key ∈ keys, key ∉ map := by
  by_contra covered
  have contained : keys ⊆ map.keys := by
    intro key member
    rw [Std.ExtTreeMap.mem_keys]
    exact Classical.byContradiction fun absent => covered ⟨key, member, absent⟩
  have long := (nodup.subperm contained).length_le
  rw [Std.ExtTreeMap.length_keys] at long
  exact absurd small (Nat.not_lt.mpr long)

end OrderedMap

namespace OrderedSet

variable {set : Std.ExtTreeSet α cmp} {keys : List α}

theorem mem_insert {inserted key : α} :
    key ∈ set.insert inserted ↔ key = inserted ∨ key ∈ set := by
  simp only [Std.ExtTreeSet.mem_insert, Std.LawfulEqCmp.compare_eq_iff_eq,
    eq_comm (a := inserted)]

theorem toList_nodup : set.toList.Nodup :=
  (Std.ExtTreeSet.distinct_toList (t := set)).imp fun {left right} different same =>
    different (by rw [same]; exact Std.ReflCmp.compare_self)

theorem mem_of_size_eq (contained : ∀ key ∈ set, key ∈ keys) (full : set.size = keys.length)
    {key : α} (member : key ∈ keys) : key ∈ set := by
  have covered : keys ⊆ set.toList := by
    refine subset_of_nodup_subset toList_nodup ?_ ?_
    · exact fun key present => contained key (Std.ExtTreeSet.mem_toList.mp present)
    · exact Nat.le_of_eq (by rw [Std.ExtTreeSet.length_toList, full])
  exact Std.ExtTreeSet.mem_toList.mp (covered member)

theorem covers_iff (full : set.size = keys.length) (nodup : keys.Nodup) :
    (∀ key ∈ keys, key ∈ set) ↔ ∀ key ∈ set, key ∈ keys := by
  constructor
  · intro covered
    have contained : keys ⊆ set.toList := fun key member =>
      Std.ExtTreeSet.mem_toList.mpr (covered key member)
    have inside := subset_of_nodup_subset nodup contained
      (Nat.le_of_eq (by rw [Std.ExtTreeSet.length_toList, full]))
    exact fun key present => inside (Std.ExtTreeSet.mem_toList.mpr present)
  · exact fun contained key member => mem_of_size_eq contained full member

theorem size_eq (contained : ∀ key ∈ set, key ∈ keys) (nodup : keys.Nodup)
    (covered : ∀ key ∈ keys, key ∈ set) : set.size = keys.length := by
  rw [← Std.ExtTreeSet.length_toList]
  apply List.Perm.length_eq
  rw [List.perm_ext_iff_of_nodup toList_nodup nodup]
  intro key
  rw [Std.ExtTreeSet.mem_toList]
  exact ⟨contained key, covered key⟩

/-- A set smaller than a list without duplicates misses a member of the list. -/
theorem exists_not_mem (nodup : keys.Nodup) (small : set.size < keys.length) :
    ∃ key ∈ keys, key ∉ set := by
  by_contra covered
  have contained : keys ⊆ set.toList := by
    intro key member
    rw [Std.ExtTreeSet.mem_toList]
    exact Classical.byContradiction fun absent => covered ⟨key, member, absent⟩
  have long := (nodup.subperm contained).length_le
  rw [Std.ExtTreeSet.length_toList] at long
  exact absurd small (Nat.not_lt.mpr long)

end OrderedSet

end Library
