import Mathlib.Data.List.AList

/-!
# Tables

Finite maps on top of `AList`: changing the value of a key in place (`modify`), and looking for a
value by a property (`find`, `any`). Tables are compared by their lookups, so every operation has one
lemma that says what `lookup` returns afterwards.
-/

namespace Ctl.Base

/-- A finite map from `κ` to `α`. -/
abbrev Table (κ α : Type) := AList fun _ : κ => α

namespace Table

variable {κ α : Type} [DecidableEq κ] {t : Table κ α} {p : α → Bool}

def modify (t : Table κ α) (key : κ) (f : α → α) : Table κ α :=
  match AList.lookup key t with
  | some value => AList.insert key (f value) t
  | none => t

def find (t : Table κ α) (p : α → Bool) : Option α := (t.entries.map (·.2)).find? p

def any (t : Table κ α) (p : α → Bool) : Bool := t.entries.any (p ·.2)

lemma lookup_modify (t : Table κ α) (key : κ) (f : α → α) (k : κ) :
    AList.lookup k (t.modify key f)
      = if k = key then (AList.lookup key t).map f else AList.lookup k t := by
  by_cases eq : k = key
  · subst eq
    rw [if_pos rfl, modify]
    cases found : AList.lookup k t with
    | none => exact found
    | some value => exact AList.lookup_insert t
  · rw [if_neg eq, modify]
    cases AList.lookup key t with
    | none => rfl
    | some value => exact AList.lookup_insert_ne eq

lemma lookup_modify_self (t : Table κ α) (key : κ) (f : α → α) :
    AList.lookup key (t.modify key f) = (AList.lookup key t).map f := by
  rw [lookup_modify, if_pos rfl]

lemma lookup_modify_ne {key k : κ} (ne : k ≠ key) (f : α → α) : AList.lookup k (t.modify key f) = AList.lookup k t := by
  rw [lookup_modify, if_neg ne]

lemma map_lookup_modify {β : Type} {key : κ} {f : α → α} {g : α → β} (same : ∀ a, g (f a) = g a) (k : κ) :
    (AList.lookup k (t.modify key f)).map g = (AList.lookup k t).map g := by
  rw [lookup_modify]
  split
  case isTrue eq =>
    rw [eq, Option.map_map]
    exact congrArg (fun h => Option.map h _) (funext same)
  case isFalse => rfl

lemma lookup_insert (t : Table κ α) (key : κ) (value : α) (k : κ) :
    AList.lookup k (AList.insert key value t) = if key = k then some value else AList.lookup k t := by
  split
  case isTrue eq =>
    subst eq
    exact AList.lookup_insert t
  case isFalse ne => exact AList.lookup_insert_ne fun eq => ne eq.symm

lemma lookup_erase (t : Table κ α) (key k : κ) :
    AList.lookup k (AList.erase key t) = if key = k then none else AList.lookup k t := by
  split
  case isTrue eq =>
    subst eq
    exact AList.lookup_erase key t
  case isFalse ne => exact AList.lookup_erase_ne fun eq => ne eq.symm

lemma mem_iff {k : κ} : k ∈ t ↔ ∃ value, AList.lookup k t = some value := by
  rw [← AList.lookup_isSome, Option.isSome_iff_exists]

lemma length_insert {key : κ} (new : AList.lookup key t = none) (value : α) :
    (AList.insert key value t).keys.length = t.keys.length + 1 := by
  have absent : key ∉ t.keys := by
    rw [← AList.mem_keys, ← AList.lookup_eq_none]
    exact new
  rw [AList.keys_insert, List.length_cons, List.erase_of_not_mem absent]

lemma length_update {key : κ} {old : α} (found : AList.lookup key t = some old) (value : α) :
    (AList.insert key value t).keys.length = t.keys.length := by
  have there : key ∈ t.keys := AList.mem_keys.1 (mem_iff.2 ⟨old, found⟩)
  have pos : 0 < t.keys.length := List.length_pos_of_mem there
  rw [AList.keys_insert, List.length_cons, List.length_erase_of_mem there]
  omega

lemma length_erase {key : κ} {old : α} (found : AList.lookup key t = some old) :
    (AList.erase key t).keys.length = t.keys.length - 1 := by
  have there : key ∈ t.keys := AList.mem_keys.1 (mem_iff.2 ⟨old, found⟩)
  rw [AList.keys_erase, List.length_erase_of_mem there]

lemma length_modify (t : Table κ α) (key : κ) (f : α → α) : (t.modify key f).keys.length = t.keys.length := by
  rw [modify]
  cases found : AList.lookup key t with
  | none => rfl
  | some value => exact length_update found (f value)

lemma find_eq_some {a : α} (h : t.find p = some a) : p a = true ∧ ∃ k, AList.lookup k t = some a := by
  refine ⟨List.find?_some h, ?_⟩
  obtain ⟨entry, mem, rfl⟩ := List.mem_map.1 (List.mem_of_find?_eq_some h)
  exact ⟨entry.1, AList.mem_lookup_iff.2 mem⟩

lemma any_iff : t.any p = true ↔ ∃ k a, AList.lookup k t = some a ∧ p a = true := by
  rw [any, List.any_eq_true]
  constructor
  · rintro ⟨entry, mem, hp⟩
    exact ⟨entry.1, entry.2, AList.mem_lookup_iff.2 mem, hp⟩
  · rintro ⟨k, a, found, hp⟩
    exact ⟨⟨k, a⟩, AList.mem_lookup_iff.1 found, hp⟩

end Table

end Ctl.Base
