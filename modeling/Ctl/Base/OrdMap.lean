import Mathlib.Tactic.Common
import Mathlib.Order.Compare
import Mathlib.Algebra.Order.BigOperators.Group.List
import Mathlib.Algebra.Order.Group.Nat
import Mathlib.Algebra.GroupWithZero.Nat

/-!
# Ordered maps

A `BTreeMap` is an extensional tree map: two maps with the same entries are equal, and the entries
are listed in the order of their keys. The lemmas read an entry back after an update, with equality
of keys in place of the comparison.
-/

namespace Ctl.Base

/-- A map ordered by its keys (Rust `BTreeMap`). -/
abbrev OrdMap (K V : Type) [Ord K] := Std.ExtTreeMap K V

namespace OrdMap

variable {K V : Type} [Ord K] [Std.TransOrd K] [Std.LawfulEqOrd K] [DecidableEq K] {m : OrdMap K V}

lemma get_insert (m : OrdMap K V) (k a : K) (v : V) : (m.insert k v)[a]? = if k = a then some v else m[a]? := by
  simp only [Std.ExtTreeMap.getElem?_insert, Std.LawfulEqOrd.compare_eq_iff_eq]

lemma get_erase (m : OrdMap K V) (k a : K) : (m.erase k)[a]? = if k = a then none else m[a]? := by
  simp only [Std.ExtTreeMap.getElem?_erase, Std.LawfulEqOrd.compare_eq_iff_eq]

lemma erase_insert {k : K} (v : V) (fresh : m[k]? = none) : (m.insert k v).erase k = m := by
  apply Std.ExtTreeMap.ext_getElem?
  intro a
  rw [get_erase, get_insert]
  split
  case isTrue eq => rw [← eq, fresh]
  case isFalse => rfl

lemma insert_insert {k : K} {previous : V} (v : V) (found : m[k]? = some previous) :
    (m.insert k v).insert k previous = m := by
  apply Std.ExtTreeMap.ext_getElem?
  intro a
  rw [get_insert, get_insert]
  split
  case isTrue eq => rw [← eq, found]
  case isFalse => rfl

lemma ofList_toList (m : OrdMap K V) : Std.ExtTreeMap.ofList m.toList = m := by
  apply Std.ExtTreeMap.ext_getElem?
  intro a
  cases found : m[a]? with
  | some v =>
    exact Std.ExtTreeMap.getElem?_ofList_of_mem Std.ReflOrd.compare_self
      Std.ExtTreeMap.distinct_keys_toList
      (Std.ExtTreeMap.mem_toList_iff_getElem?_eq_some.2 found)
  | none =>
    apply Std.ExtTreeMap.getElem?_ofList_of_contains_eq_false
    rw [← Bool.not_eq_true, List.contains_iff_mem]
    intro mem
    obtain ⟨⟨k, v⟩, entry, rfl⟩ := List.mem_map.1 mem
    have := Std.ExtTreeMap.mem_toList_iff_getElem?_eq_some.1 entry
    rw [found] at this
    cases this

def valueList (m : OrdMap K V) : List V := m.toList.map Prod.snd

omit [DecidableEq K] in
lemma mem_valueList {v : V} : v ∈ m.valueList ↔ ∃ k : K, m[k]? = some v := by
  constructor
  · intro mem
    obtain ⟨⟨k, v⟩, entry, rfl⟩ := List.mem_map.1 mem
    exact ⟨k, Std.ExtTreeMap.mem_toList_iff_getElem?_eq_some.1 entry⟩
  · rintro ⟨k, found⟩
    exact List.mem_map.2 ⟨(k, v), Std.ExtTreeMap.mem_toList_iff_getElem?_eq_some.2 found, rfl⟩

lemma erase_of_none {k : K} (absent : m[k]? = none) : m.erase k = m := by
  apply Std.ExtTreeMap.ext_getElem?
  intro a
  rw [get_erase]
  split
  case isTrue eq => rw [← eq, absent]
  case isFalse => rfl

lemma insert_erase (m : OrdMap K V) (k : K) (v : V) : (m.erase k).insert k v = m.insert k v := by
  apply Std.ExtTreeMap.ext_getElem?
  intro a
  rw [get_insert, get_insert, get_erase]
  split
  case isTrue => rfl
  case isFalse => rfl

lemma erase_of_insert (m : OrdMap K V) (k : K) (v : V) : (m.insert k v).erase k = m.erase k := by
  apply Std.ExtTreeMap.ext_getElem?
  intro a
  rw [get_erase, get_erase, get_insert]
  split
  case isTrue => rfl
  case isFalse => rfl

lemma insert_of_found {k : K} {v : V} (found : m[k]? = some v) : m.insert k v = m := by
  apply Std.ExtTreeMap.ext_getElem?
  intro a
  rw [get_insert]
  split
  case isTrue eq => rw [← eq, found]
  case isFalse => rfl

lemma insert_of_insert (m : OrdMap K V) (k : K) (v v' : V) : (m.insert k v).insert k v' = m.insert k v' := by
  rw [← insert_erase (m.insert k v), erase_of_insert, insert_erase]

omit [DecidableEq K] in
lemma nodup_toList (m : OrdMap K V) : m.toList.Nodup := by
  apply List.Pairwise.imp _ Std.ExtTreeMap.distinct_keys_toList
  rintro a b ne rfl
  exact ne Std.ReflOrd.compare_self

omit [DecidableEq K] in
lemma mem_keys {k : K} : k ∈ m.keys ↔ ∃ v, m[k]? = some v := by
  rw [Std.ExtTreeMap.mem_keys, Std.ExtTreeMap.mem_iff_isSome_getElem?, Option.isSome_iff_exists]

omit [Std.LawfulEqOrd K] [DecidableEq K] in
lemma mem_keys_of_size {W : Type} {n : OrdMap K W} (sub : ∀ k ∈ m.keys, k ∈ n.keys) (size : n.size = m.size) {k : K}
    (mem : k ∈ n.keys) : k ∈ m.keys := by
  have few : m.keys.Subperm n.keys := List.subperm_of_subset Std.ExtTreeMap.nodup_keys sub
  have same : m.keys.Perm n.keys := by
    apply few.perm_of_length_le
    rw [Std.ExtTreeMap.length_keys, Std.ExtTreeMap.length_keys, size]
  exact same.mem_iff.2 mem

lemma valueList_perm {k : K} {v : V} (found : m[k]? = some v) : m.valueList.Perm (v :: valueList (m.erase k)) := by
  have entries : m.toList.Perm ((k, v) :: (m.erase k).toList) := by
    apply (List.perm_ext_iff_of_nodup (nodup_toList m) _).2
    · intro (a, x)
      rw [List.mem_cons, Std.ExtTreeMap.mem_toList_iff_getElem?_eq_some,
        Std.ExtTreeMap.mem_toList_iff_getElem?_eq_some, get_erase]
      split
      case isTrue eq =>
        subst eq
        rw [found]
        simp [eq_comm]
      case isFalse ne =>
        simp [show ¬ a = k from fun eq => ne eq.symm]
    · apply List.nodup_cons.2 ⟨_, nodup_toList _⟩
      rw [Std.ExtTreeMap.mem_toList_iff_getElem?_eq_some, get_erase, if_pos rfl]
      nofun
  exact entries.map Prod.snd

def total (m : OrdMap K V) (f : V → Nat) : Nat := (m.valueList.map f).sum

omit [DecidableEq K] [Std.LawfulEqOrd K] in
lemma total_empty (f : V → Nat) : total (∅ : OrdMap K V) f = 0 := by
  rw [total, valueList, show Std.ExtTreeMap.toList (∅ : OrdMap K V) = [] from rfl]
  rfl

lemma total_of_found {k : K} {v : V} (found : m[k]? = some v) (f : V → Nat) :
    m.total f = f v + total (m.erase k) f := by
  rw [total, ((valueList_perm found).map f).sum_nat, List.map_cons, List.sum_cons, total]

lemma total_insert (m : OrdMap K V) (k : K) (v : V) (f : V → Nat) :
    total (m.insert k v) f = f v + total (m.erase k) f := by
  rw [total_of_found (v := v) (by rw [get_insert, if_pos rfl]), erase_of_insert]

omit [DecidableEq K] [Std.LawfulEqOrd K] in
lemma total_le (m : OrdMap K V) {f : V → Nat} {bound : Nat} (le : ∀ v, f v ≤ bound) : m.total f ≤ m.size * bound := by
  have sum := List.sum_le_card_nsmul (m.valueList.map f) bound fun n mem => by
    obtain ⟨v, _, rfl⟩ := List.mem_map.1 mem
    exact le v
  rw [List.length_map, valueList, List.length_map, Std.ExtTreeMap.length_toList] at sum
  exact sum

lemma le_total {k : K} {v : V} (found : m[k]? = some v) (f : V → Nat) : f v ≤ m.total f := by
  rw [total_of_found found]
  exact Nat.le_add_right _ _

end OrdMap

end Ctl.Base
