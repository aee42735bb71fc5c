import Mathlib.Logic.Function.Basic
import Ctl.Base.Guards
import Ctl.Store.Repository

/-!
# Snapshots

What a snapshot stands for is its `view`, the definition of each identity. A well-formed snapshot has
unique identities and names, is sorted and has the revisions of its contents. It is determined by its
view, it is what `decode` returns, and it is read back from the bytes that `prepare` makes of it.
-/

namespace Ctl.Store
open Ctl.Base Ctl.Task

abbrev Definitions := String → Option TaskDefinition

def view (snapshot : Snapshot) : Definitions :=
  fun id => (snapshot.find? fun saved => saved.definitionId = id).map (·.definition)

variable {serde : Serde} {path : String} {snapshot : Snapshot} {identities names : List String} {bytes : Bytes}
  {id : String} {out : Snapshot} {io : Io}

/-- The definitions are valid, have their own identities and names, and the revisions of their
    contents. -/
structure Sound (serde : Serde) (path : String) (snapshot : Snapshot) : Prop where
  valid : ∀ saved ∈ snapshot, validateDefinition saved.definitionId saved.definition = .ok ()
  identities : (snapshot.map (·.definitionId)).Nodup
  names : (snapshot.map (·.definition.name)).Nodup
  revisions : ∀ saved ∈ snapshot, revision serde path saved.definition = .ok saved.revision

/-- A snapshot as `read` returns it. -/
structure WellFormed (serde : Serde) (path : String) (snapshot : Snapshot) : Prop
    extends Sound serde path snapshot where
  sorted : snapshot.Pairwise Precedes

/-! ### The order -/

instance : Std.Total Precedes where
  total left right := by
    rcases lt_trichotomy left.definition.name right.definition.name with lt | eq | gt
    · exact .inl (.inl lt)
    · rcases le_total left.definitionId right.definitionId with le | ge
      · exact .inl (.inr ⟨eq, le⟩)
      · exact .inr (.inr ⟨eq.symm, ge⟩)
    · exact .inr (.inl gt)

instance : IsTrans SavedTaskDefinition Precedes where
  trans a b c first second := by
    rcases first with lt | ⟨eq, le⟩
    · rcases second with lt' | ⟨eq', -⟩
      · exact .inl (lt.trans lt')
      · exact .inl (eq' ▸ lt)
    · rcases second with lt' | ⟨eq', le'⟩
      · exact .inl (eq ▸ lt')
      · exact .inr ⟨eq.trans eq', le.trans le'⟩

lemma sortDefinitions_perm (snapshot : Snapshot) : (sortDefinitions snapshot).Perm snapshot :=
  List.perm_insertionSort Precedes snapshot

lemma sortDefinitions_sorted (snapshot : Snapshot) : (sortDefinitions snapshot).Pairwise Precedes :=
  List.pairwise_insertionSort Precedes snapshot

/-! ### Views -/

lemma view_eq_some (identities : (snapshot.map (·.definitionId)).Nodup) {definition : TaskDefinition} :
    view snapshot id = some definition ↔
      ∃ saved ∈ snapshot, saved.definitionId = id ∧ saved.definition = definition := by
  induction snapshot with
  | nil => exact ⟨nofun, nofun⟩
  | cons first rest ih =>
    rw [List.map_cons, List.nodup_cons] at identities
    by_cases eq : first.definitionId = id
    · rw [view, List.find?_cons_of_pos (by simpa using eq), Option.map_some, Option.some_inj]
      refine ⟨fun h => ⟨first, List.mem_cons_self, eq, h⟩, ?_⟩
      rintro ⟨saved, found, same, rfl⟩
      rcases List.mem_cons.1 found with rfl | found
      · rfl
      · exact absurd (List.mem_map.2 ⟨saved, found, same.trans eq.symm⟩) identities.1
    · rw [view, List.find?_cons_of_neg (by simpa using eq)]
      refine (ih identities.2).trans ⟨?_, ?_⟩
      · rintro ⟨saved, found, h⟩
        exact ⟨saved, List.mem_cons_of_mem _ found, h⟩
      · rintro ⟨saved, found, same, h⟩
        rcases List.mem_cons.1 found with rfl | found
        · exact absurd same eq
        · exact ⟨saved, found, same, h⟩

lemma view_eq_none : view snapshot id = none ↔ ∀ saved ∈ snapshot, saved.definitionId ≠ id := by
  rw [view, Option.map_eq_none_iff, List.find?_eq_none]
  simp

lemma view_cons (saved : SavedTaskDefinition) (rest : Snapshot) :
    view (saved :: rest) = Function.update (view rest) saved.definitionId (some saved.definition) := by
  funext id
  by_cases eq : id = saved.definitionId
  · rw [eq, Function.update_self, view, List.find?_cons_of_pos (by simp), Option.map_some]
  · rw [Function.update_of_ne eq, view, List.find?_cons_of_neg (by simpa using Ne.symm eq), view]

namespace Sound

variable {s t : Snapshot} {saved : SavedTaskDefinition}

lemma nil : Sound serde path [] := ⟨nofun, List.nodup_nil, List.nodup_nil, nofun⟩

lemma perm (sound : Sound serde path s) (h : t.Perm s) : Sound serde path t :=
  ⟨fun saved found => sound.valid saved (h.mem_iff.1 found),
    (h.map _).nodup_iff.2 sound.identities, (h.map _).nodup_iff.2 sound.names,
    fun saved found => sound.revisions saved (h.mem_iff.1 found)⟩

lemma tail (sound : Sound serde path (saved :: s)) : Sound serde path s :=
  ⟨(List.forall_mem_cons.1 sound.valid).2, (List.nodup_cons.1 sound.identities).2,
    (List.nodup_cons.1 sound.names).2, (List.forall_mem_cons.1 sound.revisions).2⟩

lemma fresh (sound : Sound serde path (saved :: s)) : ∀ other ∈ s, other.definitionId ≠ saved.definitionId :=
  fun other found eq => (List.nodup_cons.1 sound.identities).1 (List.mem_map.2 ⟨other, found, eq⟩)

lemma cons (sound : Sound serde path s) {saved : SavedTaskDefinition}
    (valid : validateDefinition saved.definitionId saved.definition = .ok ())
    (identity : ∀ other ∈ s, other.definitionId ≠ saved.definitionId)
    (name : ∀ other ∈ s, other.definition.name ≠ saved.definition.name)
    (hr : revision serde path saved.definition = .ok saved.revision) : Sound serde path (saved :: s) := by
  refine ⟨List.forall_mem_cons.2 ⟨valid, sound.valid⟩, List.nodup_cons.2 ⟨?_, sound.identities⟩,
    List.nodup_cons.2 ⟨?_, sound.names⟩, List.forall_mem_cons.2 ⟨hr, sound.revisions⟩⟩
  · intro found
    obtain ⟨other, found, eq⟩ := List.mem_map.1 found
    exact identity other found eq
  · intro found
    obtain ⟨other, found, eq⟩ := List.mem_map.1 found
    exact name other found eq

lemma view_eq_some (sound : Sound serde path s) {id : String} {definition : TaskDefinition} :
    view s id = some definition ↔
      ∃ saved ∈ s, saved.definitionId = id ∧ saved.definition = definition :=
  Store.view_eq_some sound.identities

lemma view_perm (sound : Sound serde path s) (h : t.Perm s) : view t = view s := by
  funext id
  apply Option.ext
  intro definition
  rw [sound.view_eq_some, (sound.perm h).view_eq_some]
  simp only [h.mem_iff]

lemma sort (sound : Sound serde path s) : WellFormed serde path (sortDefinitions s) :=
  ⟨sound.perm (sortDefinitions_perm s), sortDefinitions_sorted s⟩

lemma view_sort (sound : Sound serde path s) : view (sortDefinitions s) = view s :=
  sound.view_perm (sortDefinitions_perm s)

end Sound

namespace WellFormed

variable {s t : Snapshot}

lemma nil : WellFormed serde path [] := ⟨.nil, .nil⟩

lemma sort_eq (wf : WellFormed serde path s) : sortDefinitions s = s :=
  List.Pairwise.insertionSort_eq wf.sorted

end WellFormed

/-! ### Reading -/

lemma checkDefinitions_cons {saved : SavedTaskDefinition} {rest : Snapshot} :
    checkDefinitions serde path (saved :: rest) identities names = .ok out ↔
      validateDefinition saved.definitionId saved.definition = .ok () ∧
      saved.definitionId ∉ identities ∧ saved.definition.name ∉ names ∧
      ∃ r, revision serde path saved.definition = .ok r ∧
      ∃ rest', checkDefinitions serde path rest (saved.definitionId :: identities)
        (saved.definition.name :: names) = .ok rest' ∧ { saved with revision := r } :: rest' = out := by
  rw [checkDefinitions, check_eq_ok]
  dsimp only
  rw [guard_eq_ok, guard_eq_ok, bind_eq_ok]
  simp only [bind_eq_ok, pure_eq_ok]

lemma checkDefinitions_sound (h : checkDefinitions serde path snapshot identities names = .ok out) :
    Sound serde path out ∧ (∀ saved ∈ out, saved.definitionId ∉ identities) ∧
      ∀ saved ∈ out, saved.definition.name ∉ names := by
  induction snapshot generalizing out identities names with
  | nil =>
    cases h
    exact ⟨.nil, nofun, nofun⟩
  | cons saved rest ih =>
    obtain ⟨valid, identity, name, r, hr, rest', hrest, rfl⟩ := checkDefinitions_cons.1 h
    obtain ⟨sound, apart, apart'⟩ := ih hrest
    refine ⟨sound.cons valid ?_ ?_ hr, ?_, ?_⟩
    · intro other found eq
      exact apart other found (eq ▸ List.mem_cons_self)
    · intro other found eq
      exact apart' other found (eq ▸ List.mem_cons_self)
    · exact List.forall_mem_cons.2 ⟨identity, fun other found member =>
        apart other found (List.mem_cons_of_mem _ member)⟩
    · exact List.forall_mem_cons.2 ⟨name, fun other found member =>
        apart' other found (List.mem_cons_of_mem _ member)⟩

lemma Sound.checkDefinitions (sound : Sound serde path snapshot)
    (apart : ∀ saved ∈ snapshot, saved.definitionId ∉ identities)
    (apart' : ∀ saved ∈ snapshot, saved.definition.name ∉ names) :
    checkDefinitions serde path snapshot identities names = .ok snapshot := by
  induction snapshot generalizing identities names with
  | nil => rfl
  | cons saved rest ih =>
    obtain ⟨valid, identities', names', revisions⟩ := sound
    rw [List.map_cons, List.nodup_cons] at identities' names'
    rw [List.forall_mem_cons] at valid revisions apart apart'
    refine checkDefinitions_cons.2 ⟨valid.1, apart.1, apart'.1, saved.revision, revisions.1, rest, ?_,
      rfl⟩
    apply ih ⟨valid.2, identities'.2, names'.2, revisions.2⟩
    · intro other found member
      rcases List.mem_cons.1 member with eq | member
      · exact identities'.1 (List.mem_map.2 ⟨other, found, eq⟩)
      · exact apart.2 other found member
    · intro other found member
      rcases List.mem_cons.1 member with eq | member
      · exact names'.1 (List.mem_map.2 ⟨other, found, eq⟩)
      · exact apart'.2 other found member

lemma decode_eq_ok :
    decode serde path bytes = .ok snapshot ↔
      ¬ MAX_STORE_BYTES < bytes.length ∧ ∃ value, serde.fromSlice bytes = .ok value ∧
        checkVersion value = .ok () ∧ rejectUnknownDefinitionFields value = .ok () ∧
        ∃ document, serde.fromValue value = .ok document ∧
        ∃ checked, checkDefinitions serde path document.definitions [] [] = .ok checked ∧
          sortDefinitions checked = snapshot := by
  rw [decode]
  dsimp only
  rw [guard_eq_ok]
  simp only [bind_eq_ok, exists_unit, jsonError, mapError_eq_ok, pure_eq_ok, gt_iff_lt]

lemma decode_wellFormed (h : decode serde path bytes = .ok snapshot) : WellFormed serde path snapshot := by
  obtain ⟨-, value, -, -, -, document, -, checked, hchecked, rfl⟩ := decode_eq_ok.1 h
  exact (checkDefinitions_sound hchecked).1.sort

lemma contents_wellFormed {file : Option Bytes} (h : contents serde path file = .ok snapshot) :
    WellFormed serde path snapshot := by
  cases file with
  | none =>
    cases h
    exact .nil
  | some bytes => exact decode_wellFormed h

/-! ### Writing -/

lemma unknownField_savedValue (saved : SavedTaskDefinition) : unknownField (savedValue saved) = none :=
  rfl

lemma checkVersion_documentValue (snapshot : Snapshot) :
    checkVersion (documentValue ⟨SCHEMA_VERSION, snapshot⟩) = .ok () := rfl

lemma rejectUnknownDefinitionFields_documentValue (document : Document) :
    rejectUnknownDefinitionFields (documentValue document) = .ok () := by
  have known : (document.definitions.map savedValue).findSome? unknownField = none := by
    rw [List.findSome?_eq_none_iff]
    intro value found
    obtain ⟨saved, -, rfl⟩ := List.mem_map.1 found
    exact unknownField_savedValue saved
  have found : ((documentValue document).get "definitions").bind Value.asArray =
      some (document.definitions.map savedValue) := rfl
  simp only [rejectUnknownDefinitionFields, found, known]

lemma attempt_eq_ok {fault : Option StoreError} : attempt fault = .ok () ↔ fault = none := by
  cases fault with
  | none => exact ⟨fun _ => rfl, fun _ => rfl⟩
  | some e => exact ⟨nofun, nofun⟩

lemma prepare_eq_ok :
    prepare serde path io snapshot = .ok bytes ↔
      serde.toVecPretty ⟨SCHEMA_VERSION, sortDefinitions snapshot⟩ = .ok bytes ∧
        ¬ MAX_STORE_BYTES < bytes.length ∧ io.recheck = none ∧ io.temporary = none ∧
        io.rename = none := by
  rw [prepare]
  dsimp only
  simp only [bind_eq_ok, guard_eq_ok, exists_unit, attempt_eq_ok, jsonError, mapError_eq_ok,
    pure_eq_ok, gt_iff_lt]
  constructor
  · rintro ⟨_, written, small, recheck, temporary, rename, rfl⟩
    exact ⟨written, small, recheck, temporary, rename⟩
  · rintro ⟨written, small, recheck, temporary, rename⟩
    exact ⟨bytes, written, small, recheck, temporary, rename, rfl⟩

lemma contents_prepare (trips : serde.RoundTrips) (sound : Sound serde path snapshot)
    (h : prepare serde path io snapshot = .ok bytes) :
    contents serde path (some bytes) = .ok (sortDefinitions snapshot) := by
  obtain ⟨written, small, -⟩ := prepare_eq_ok.1 h
  obtain ⟨slice, value⟩ := trips _ _ written
  have wf := sound.sort
  rw [contents, List.take_of_length_le (by omega)]
  exact decode_eq_ok.2 ⟨small, _, slice, checkVersion_documentValue _,
    rejectUnknownDefinitionFields_documentValue _, _, value, _,
    wf.checkDefinitions nofun nofun, wf.sort_eq⟩

end Ctl.Store
