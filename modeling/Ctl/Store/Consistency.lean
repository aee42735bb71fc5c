import Ctl.Store.Snapshot

/-!
# Consistency of the store

Every call finds a file that can be read and leaves one. A call that succeeds has its intended effect
on the definitions, and replaces or removes only what its caller has observed. A call that fails leaves
the snapshot as it is, as long as no synchronization of the directory fails: that comes after the
rename, when the file is replaced already.
-/

namespace Ctl.Store
open Ctl.Base Ctl.Task

variable {serde : Serde} {path : String}

/-! ### The intended effects -/

def Observed (serde : Serde) (path : String) (stored : Option TaskDefinition) (expected : Option String) : Prop :=
  match stored, expected with
  | none, none => True
  | some definition, some r => revision serde path definition = .ok r
  | _, _ => False

def Intended (serde : Serde) (path : String) : Call → (old new : Definitions) → Prop
  | .save id expected definition, old, new =>
    Observed serde path (old id) expected ∧ new = Function.update old id (some definition)
  | .remove id expected, old, new =>
    Observed serde path (old id) (some expected) ∧ new = Function.update old id none
  | .importLegacy batch, old, new =>
    (∀ saved ∈ batch, new saved.definitionId = some saved.definition) ∧
      (∀ id definition, old id = some definition → new id = some definition) ∧
      ∀ id, (∀ saved ∈ batch, saved.definitionId ≠ id) → new id = old id

/-- What a call that has succeeded returns. -/
def Answers : Call → (new : Snapshot) → Response → Prop
  | .save id _ definition, new, .saved saved =>
    saved ∈ new ∧ saved.definitionId = id ∧ saved.definition = definition
  | .remove _ _, _, .removed => True
  | .importLegacy _, new, .imported snapshot => snapshot = new
  | _, _, _ => False

/-- The result of a call and the file after it: a call that succeeds has its intended effect, and one
    that fails has none. -/
def CorrectResult (serde : Serde) (path : String) (file : Option Bytes) (call : Call) :
    Except StoreError Response × Option Bytes → Prop
  | (.error _, after) => contents serde path after = contents serde path file
  | (.ok response, after) => ∃ old new, contents serde path file = .ok old ∧
      contents serde path after = .ok new ∧ WellFormed serde path new ∧
      Intended serde path call (view old) (view new) ∧ Answers call new response

def Correct (serde : Serde) (path : String) (file : Option Bytes) (action : Action) : Prop :=
  CorrectResult serde path file action.call (perform serde path action.io file action.call)

def Call.expects : Call → Option (String × String)
  | .save id expected _ => expected.map fun r => (id, r)
  | .remove id expected => some (id, expected)
  | .importLegacy _ => none

/-- The digest tells two definitions apart. -/
def Serde.Distinguishes (serde : Serde) (a b : TaskDefinition) : Prop :=
  ∀ bytes bytes', serde.toVec a = .ok bytes → serde.toVec b = .ok bytes' →
    serde.digest bytes = serde.digest bytes' → a = b

/-- What a call replaces or removes is the definition that its caller has observed. -/
def NoLostUpdate (serde : Serde) (path : String) (file : Option Bytes) (action : Action) : Prop :=
  ∀ old response id r observed, contents serde path file = .ok old →
    (perform serde path action.io file action.call).1 = .ok response →
    action.call.expects = some (id, r) → revision serde path observed = .ok r →
    (∀ stored, view old id = some stored → serde.Distinguishes stored observed) →
    view old id = some observed

/-- A second import of a batch changes nothing and returns the same. -/
def ImportsOnce (serde : Serde) (path : String) (file : Option Bytes) : Prop :=
  ∀ batch io io' response after,
    perform serde path io file (.importLegacy batch) = (.ok response, after) →
    (perform serde path io' after (.importLegacy batch)).2 = after ∧
      (io'.lock = none → io'.access = none →
        (perform serde path io' after (.importLegacy batch)).1 = .ok response)

def replaces {β : Type} (serde : Serde) (path : String) (io : Io) (file : Option Bytes)
    (decision : Snapshot → Except StoreError (β × Option Snapshot)) : Bool :=
  match attempt io.lock >>= fun _ => read serde path io file >>= decision with
  | .ok (_, some snapshot) => (prepare serde path io snapshot).isOk
  | _ => false

def Call.replaces (serde : Serde) (path : String) (io : Io) (file : Option Bytes) : Call → Bool
  | .save id expected definition => (validateDefinition id definition).isOk &&
    Store.replaces serde path io file (saveDecision serde path id expected definition)
  | .remove id expected => Store.replaces serde path io file (removeDecision id expected)
  | .importLegacy batch =>
    (batch.forM fun saved => validateDefinition saved.definitionId saved.definition).isOk &&
      Store.replaces serde path io file (importDecision serde path batch)

/-- The synchronization of the directory does not fail in a call that comes to it. -/
def SyncsDirectory (serde : Serde) (path : String) (file : Option Bytes) (action : Action) : Prop :=
  action.call.replaces serde path action.io file = true → action.io.directory = none

/-- The file is absent or valid. -/
def Readable (serde : Serde) (path : String) (file : Option Bytes) : Prop :=
  ∃ snapshot, contents serde path file = .ok snapshot

/-! ### Decisions -/

lemma position_some {snapshot : Snapshot} {id : String} {index : Nat} (h : position snapshot id = some index) :
    ∃ left saved right, snapshot = left ++ saved :: right ∧ left.length = index ∧
      saved.definitionId = id := by
  obtain ⟨lt, found, -⟩ := List.findIdx?_eq_some_iff_getElem.1 h
  refine ⟨snapshot.take index, snapshot[index], snapshot.drop (index + 1), ?_, ?_, ?_⟩
  · rw [← List.drop_eq_getElem_cons lt, List.take_append_drop]
  · rw [List.length_take, min_eq_left lt.le]
  · exact of_decide_eq_true found

lemma position_none {snapshot : Snapshot} {id : String} (h : position snapshot id = none) :
    ∀ saved ∈ snapshot, saved.definitionId ≠ id := by
  intro saved found
  simpa using List.findIdx?_eq_none_iff.1 h saved found

namespace Sound

variable {left right s : Snapshot} {saved : SavedTaskDefinition} (next : SavedTaskDefinition)

lemma replace (sound : Sound serde path (left ++ saved :: right)) (same : saved.definitionId = next.definitionId)
    (valid : validateDefinition next.definitionId next.definition = .ok ())
    (name : ∀ other ∈ left ++ saved :: right, other.definitionId ≠ next.definitionId →
      other.definition.name ≠ next.definition.name) (hr : revision serde path next.definition = .ok next.revision) :
    Sound serde path (left ++ next :: right) ∧ view (left ++ next :: right) =
      Function.update (view (left ++ saved :: right)) next.definitionId (some next.definition) := by
  have old := sound.perm List.perm_middle.symm
  have fresh : ∀ other ∈ left ++ right, other.definitionId ≠ next.definitionId := same ▸ old.fresh
  have new : Sound serde path (next :: (left ++ right)) := by
    apply old.tail.cons valid fresh _ hr
    intro other found
    apply name other _ (fresh other found)
    exact List.perm_middle.mem_iff.2 (List.mem_cons_of_mem _ found)
  refine ⟨new.perm List.perm_middle, ?_⟩
  rw [new.view_perm List.perm_middle, ← sound.view_perm List.perm_middle.symm, view_cons, view_cons,
    same, Function.update_idem]

lemma append (sound : Sound serde path s) (valid : validateDefinition next.definitionId next.definition = .ok ())
    (identity : ∀ other ∈ s, other.definitionId ≠ next.definitionId)
    (name : ∀ other ∈ s, other.definition.name ≠ next.definition.name)
    (hr : revision serde path next.definition = .ok next.revision) :
    Sound serde path (s ++ [next]) ∧
      view (s ++ [next]) = Function.update (view s) next.definitionId (some next.definition) := by
  have new := sound.cons valid identity name hr
  refine ⟨new.perm (List.perm_append_singleton next s), ?_⟩
  rw [new.view_perm (List.perm_append_singleton next s), view_cons]

lemma erase (sound : Sound serde path (left ++ saved :: right)) :
    Sound serde path (left ++ right) ∧ view (left ++ right) =
      Function.update (view (left ++ saved :: right)) saved.definitionId none := by
  have old := sound.perm List.perm_middle.symm
  refine ⟨old.tail, ?_⟩
  rw [← sound.view_perm List.perm_middle.symm, view_cons, Function.update_idem,
    ← view_eq_none.2 old.fresh, Function.update_eq_self]

end Sound

lemma view_middle {left right : Snapshot} {saved : SavedTaskDefinition}
    (sound : Sound serde path (left ++ saved :: right)) :
    view (left ++ saved :: right) saved.definitionId = some saved.definition :=
  sound.view_eq_some.2 ⟨saved, List.mem_append_right _ List.mem_cons_self, rfl, rfl⟩

lemma names_apart {snapshot : Snapshot} {id name : String}
    (h : ¬ (snapshot.any fun saved => saved.definitionId ≠ id && saved.definition.name = name) = true) :
    ∀ other ∈ snapshot, other.definitionId ≠ id → other.definition.name ≠ name := by
  intro other found apart eq
  apply h
  rw [List.any_eq_true]
  exact ⟨other, found, by simp [apart, eq]⟩

lemma saveDecision_spec {id : String} {expected : Option String} {definition : TaskDefinition}
    {snapshot : Snapshot} {saved : SavedTaskDefinition} {next : Option Snapshot}
    (sound : Sound serde path snapshot) (valid : validateDefinition id definition = .ok ())
    (h : saveDecision serde path id expected definition snapshot = .ok (saved, next)) :
    Sound serde path (next.getD snapshot) ∧ saved ∈ next.getD snapshot ∧
      saved.definitionId = id ∧ saved.definition = definition ∧
      Observed serde path (view snapshot id) expected ∧
      view (next.getD snapshot) = Function.update (view snapshot) id (some definition) := by
  unfold saveDecision at h
  dsimp only at h
  split at h
  case h_1 missing =>
    rw [guard_eq_ok, bind_eq_ok] at h
    obtain ⟨name, r, hr, h⟩ := h
    simp only [missing] at h
    obtain ⟨rfl, rfl⟩ := Prod.mk.inj (pure_eq_ok.1 h)
    have fresh := position_none missing
    obtain ⟨sound', eq⟩ := sound.append ⟨id, r, definition⟩ valid fresh
      (fun other found => names_apart name other found (fresh other found)) hr
    refine ⟨sound', List.mem_append_right _ List.mem_cons_self, rfl, rfl, ?_, eq⟩
    rw [view_eq_none.2 fresh]
    trivial
  case h_2 index r₀ there =>
    rw [guard_eq_ok, guard_eq_ok, bind_eq_ok] at h
    obtain ⟨observed, name, r, hr, h⟩ := h
    obtain ⟨left, old, right, rfl, rfl, rfl⟩ := position_some there
    have place : (left ++ old :: right)[left.length]? = some old := by simp
    simp only [there, place] at h
    rw [not_not, place, Option.map_some, Option.some_inj] at observed
    obtain ⟨sound', eq⟩ := sound.replace ⟨old.definitionId, r, definition⟩ rfl valid
      (names_apart name) hr
    have was : Observed serde path (view (left ++ old :: right) old.definitionId) (some r₀) := by
      rw [view_middle sound]
      exact observed ▸ sound.revisions old (List.mem_append_right _ List.mem_cons_self)
    split at h
    case isTrue same =>
      obtain ⟨rfl, rfl⟩ := Prod.mk.inj (pure_eq_ok.1 h)
      cases old
      cases Option.some.inj same
      exact ⟨sound, List.mem_append_right _ List.mem_cons_self, rfl, rfl, was, eq⟩
    case isFalse =>
      obtain ⟨rfl, rfl⟩ := Prod.mk.inj (pure_eq_ok.1 h)
      have set : (left ++ old :: right).set left.length ⟨old.definitionId, r, definition⟩ =
          left ++ ⟨old.definitionId, r, definition⟩ :: right := by simp
      rw [set, Option.getD_some]
      exact ⟨sound', List.mem_append_right _ List.mem_cons_self, rfl, rfl, was, eq⟩
  case h_3 => cases h

lemma removeDecision_spec {id expected : String} {snapshot : Snapshot} {next : Option Snapshot}
    (sound : Sound serde path snapshot) (h : removeDecision id expected snapshot = .ok ((), next)) :
    Sound serde path (next.getD snapshot) ∧
      Observed serde path (view snapshot id) (some expected) ∧
      view (next.getD snapshot) = Function.update (view snapshot) id none := by
  unfold removeDecision at h
  split at h
  case h_1 => cases h
  case h_2 index there =>
    obtain ⟨left, old, right, rfl, rfl, rfl⟩ := position_some there
    have place : (left ++ old :: right)[left.length]? = some old := by simp
    have erased : (left ++ old :: right).eraseIdx left.length = left ++ right := by
      rw [List.eraseIdx_append_of_length_le le_rfl, Nat.sub_self, List.eraseIdx_cons_zero]
    rw [place, erased] at h
    split at h
    case isTrue => cases h
    case isFalse observed =>
      cases h
      rw [not_not, Option.map_some, Option.some_inj] at observed
      refine ⟨sound.erase.1, ?_, sound.erase.2⟩
      rw [view_middle sound]
      exact observed ▸ sound.revisions old (List.mem_append_right _ List.mem_cons_self)

lemma importLoop_spec {batch snapshot next : Snapshot} {changed changed' : Bool} (sound : Sound serde path snapshot)
    (valid : ∀ saved ∈ batch, validateDefinition saved.definitionId saved.definition = .ok ())
    (h : importLoop serde path batch snapshot changed = .ok (next, changed')) :
    Sound serde path next ∧
      (∀ saved ∈ batch, view next saved.definitionId = some saved.definition) ∧
      (∀ id definition, view snapshot id = some definition → view next id = some definition) ∧
      (∀ id, (∀ saved ∈ batch, saved.definitionId ≠ id) → view next id = view snapshot id) ∧
      (changed = true → changed' = true) ∧ (changed' = false → next = snapshot) := by
  induction batch generalizing snapshot changed with
  | nil =>
    cases h
    exact ⟨sound, (by intros; contradiction), fun _ _ h => h, fun _ _ => rfl, id, fun _ => rfl⟩
  | cons saved rest ih =>
    rw [List.forall_mem_cons] at valid
    rw [importLoop] at h
    split at h
    case h_1 existing found =>
      split at h
      case isTrue => cases h
      case isFalse same =>
        obtain ⟨sound', imported, kept, apart, changes⟩ := ih sound valid.2 h
        have there : view snapshot saved.definitionId = some saved.definition := by
          rw [view, found, Option.map_some, not_not.1 same]
        refine ⟨sound', List.forall_mem_cons.2 ⟨kept _ _ there, imported⟩, kept, fun id h => ?_, changes⟩
        exact apart id (List.forall_mem_cons.1 h).2
    case h_2 missing =>
      have fresh : ∀ other ∈ snapshot, other.definitionId ≠ saved.definitionId := by
        intro other found
        simpa using List.find?_eq_none.1 missing other found
      split at h
      case isTrue => cases h
      case isFalse name =>
        obtain ⟨r, hr, h⟩ := bind_eq_ok.1 h
        obtain ⟨sound', eq⟩ := sound.append { saved with revision := r } valid.1 fresh
          (fun other found eq => name (List.any_eq_true.2 ⟨other, found, decide_eq_true eq⟩)) hr
        obtain ⟨sound'', imported, kept, apart, changes⟩ := ih sound' valid.2 h
        rw [eq] at kept apart
        refine ⟨sound'', List.forall_mem_cons.2 ⟨kept _ _ (Function.update_self ..), imported⟩,
          fun id definition there => kept _ _ ?_, fun id h => ?_, fun _ => changes.1 rfl,
          fun same => absurd (changes.1 rfl) (by rw [same]; exact Bool.false_ne_true)⟩
        · have ne : id ≠ saved.definitionId := by
            rintro rfl
            rw [view_eq_none.2 fresh] at there
            cases there
          rw [Function.update_of_ne ne, there]
        · obtain ⟨ne, h⟩ := List.forall_mem_cons.1 h
          rw [apart id h, Function.update_of_ne ne.symm]

lemma importDecision_spec {batch snapshot result : Snapshot} {next : Option Snapshot}
    (wf : WellFormed serde path snapshot)
    (valid : ∀ saved ∈ batch, validateDefinition saved.definitionId saved.definition = .ok ())
    (h : importDecision serde path batch snapshot = .ok (result, next)) :
    WellFormed serde path result ∧ next.getD snapshot = result ∧
      Intended serde path (.importLegacy batch) (view snapshot) (view result) := by
  obtain ⟨⟨imported, changed⟩, loop, h⟩ := bind_eq_ok.1 h
  obtain ⟨sound, all, kept, apart, -, same⟩ := importLoop_spec wf.toSound valid loop
  obtain ⟨rfl, rfl⟩ := Prod.mk.inj (pure_eq_ok.1 h)
  refine ⟨sound.sort, ?_, ?_⟩
  · cases changed with
    | true => rfl
    | false =>
      show snapshot = sortDefinitions imported
      rw [same rfl, wf.sort_eq]
  · rw [sound.view_sort]
    exact ⟨all, kept, apart⟩

lemma importLoop_again {batch snapshot : Snapshot}
    (there : ∀ saved ∈ batch, view snapshot saved.definitionId = some saved.definition) :
    importLoop serde path batch snapshot false = .ok (snapshot, false) := by
  induction batch with
  | nil => rfl
  | cons saved rest ih =>
    rw [List.forall_mem_cons] at there
    obtain ⟨existing, found, same⟩ := Option.map_eq_some_iff.1 there.1
    rw [importLoop, found]
    dsimp only
    rw [if_neg (not_not.2 same), ih there.2]

/-! ### Calls -/

lemma read_eq_ok {io : Io} {file : Option Bytes} {snapshot : Snapshot} :
    read serde path io file = .ok snapshot ↔
      io.access = none ∧ contents serde path file = .ok snapshot := by
  rw [read, check_eq_ok, attempt_eq_ok]

lemma transact_spec {β : Type} (io : Io) {file : Option Bytes} {s : Snapshot}
    {decision : Snapshot → Except StoreError (β × Option Snapshot)} (trips : serde.RoundTrips)
    (readable : contents serde path file = .ok s)
    (good : ∀ result next, decision s = .ok (result, next) → Sound serde path (next.getD s)) :
    match transact serde path io file decision with
    | (.error _, after) =>
      after = file ∨ replaces serde path io file decision = true ∧ io.directory ≠ none
    | (.ok result, after) => ∃ next, decision s = .ok (result, next) ∧
      contents serde path after = .ok (sortDefinitions (next.getD s)) := by
  unfold transact replaces
  cases h : attempt io.lock >>= fun _ => read serde path io file >>= decision with
  | error e => exact .inl rfl
  | ok found =>
    obtain ⟨result, next⟩ := found
    obtain ⟨-, h⟩ := check_eq_ok.1 h
    obtain ⟨s', hread, decided⟩ := bind_eq_ok.1 h
    cases readable.symm.trans (read_eq_ok.1 hread).2
    have sound := good result next decided
    cases next with
    | none =>
      refine ⟨none, decided, ?_⟩
      rw [readable, Option.getD_none, (contents_wellFormed readable).sort_eq]
    | some snapshot =>
      dsimp only [write]
      cases prepared : prepare serde path io snapshot with
      | error e => exact .inl rfl
      | ok bytes =>
        cases directory : io.directory with
        | some e => exact .inr ⟨rfl, nofun⟩
        | none => exact ⟨some snapshot, decided, contents_prepare trips sound prepared⟩

lemma transact_correct {β : Type} {io : Io} {file : Option Bytes} {s : Snapshot} {call : Call}
    {decision : Snapshot → Except StoreError (β × Option Snapshot)} {respond : β → Response}
    (trips : serde.RoundTrips) (readable : contents serde path file = .ok s)
    (sync : replaces serde path io file decision = true → io.directory = none)
    (good : ∀ result next, decision s = .ok (result, next) → Sound serde path (next.getD s) ∧
      Intended serde path call (view s) (view (next.getD s)) ∧
      Answers call (sortDefinitions (next.getD s)) (respond result)) :
    CorrectResult serde path file call
      ((transact serde path io file decision).map (·.map respond) id) := by
  have spec := transact_spec io trips readable fun result next h => (good result next h).1
  generalize transact serde path io file decision = done at spec ⊢
  obtain ⟨result, after⟩ := done
  cases result with
  | error e =>
    rcases spec with rfl | ⟨reached, failed⟩
    · rfl
    · exact absurd (sync reached) failed
  | ok result =>
    obtain ⟨next, decided, written⟩ := spec
    obtain ⟨sound, intended, answers⟩ := good result next decided
    exact ⟨s, _, readable, written, sound.sort, sound.view_sort ▸ intended, answers⟩

lemma perform_correct {file : Option Bytes} {action : Action} (trips : serde.RoundTrips)
    (readable : Readable serde path file) (sync : SyncsDirectory serde path file action) :
    Correct serde path file action := by
  obtain ⟨s, readable⟩ := readable
  have wf := contents_wellFormed readable
  obtain ⟨io, call⟩ := action
  cases call with
  | save id expected definition =>
    simp only [SyncsDirectory, Call.replaces] at sync
    simp only [Correct, perform, save]
    cases valid : validateDefinition id definition with
    | error e => rfl
    | ok =>
      rw [valid] at sync
      apply transact_correct trips readable sync
      intro saved next decided
      obtain ⟨sound, member, identity, same, observed, eq⟩ :=
        saveDecision_spec wf.toSound valid decided
      refine ⟨sound, ⟨observed, eq⟩, ?_, identity, same⟩
      exact (sortDefinitions_perm _).mem_iff.2 member
  | remove id expected =>
    apply transact_correct trips readable sync
    intro removed next decided
    obtain ⟨sound, observed, eq⟩ := removeDecision_spec wf.toSound decided
    exact ⟨sound, ⟨observed, eq⟩, trivial⟩
  | importLegacy batch =>
    simp only [SyncsDirectory, Call.replaces] at sync
    simp only [Correct, perform, importLegacy]
    cases valid : batch.forM fun saved => validateDefinition saved.definitionId saved.definition with
    | error e => rfl
    | ok =>
      rw [valid] at sync
      apply transact_correct trips readable sync
      intro result next decided
      obtain ⟨wf', eq, intended⟩ := importDecision_spec wf (forM_eq_ok.1 valid) decided
      rw [eq, wf'.sort_eq]
      exact ⟨wf'.toSound, intended, rfl⟩

lemma revision_injective {a b : TaskDefinition} {r : String} (apart : serde.Distinguishes a b)
    (ha : revision serde path a = .ok r) (hb : revision serde path b = .ok r) : a = b := by
  obtain ⟨bytes, encoded, eq⟩ := bind_eq_ok.1 ha
  obtain ⟨bytes', encoded', eq'⟩ := bind_eq_ok.1 hb
  apply apart bytes bytes' (mapError_eq_ok.1 encoded) (mapError_eq_ok.1 encoded')
  exact String.append_right_inj _ |>.1 ((pure_eq_ok.1 eq).trans (pure_eq_ok.1 eq').symm)

lemma perform_noLostUpdate {file : Option Bytes} {action : Action} (trips : serde.RoundTrips)
    (readable : Readable serde path file) (sync : SyncsDirectory serde path file action) :
    NoLostUpdate serde path file action := by
  intro old response id r observed found succeeds expects hr apart
  have correct := perform_correct trips readable sync
  rw [Correct] at correct
  generalize perform serde path action.io file action.call = done at correct succeeds
  obtain ⟨result, after⟩ := done
  dsimp only at succeeds
  subst succeeds
  obtain ⟨old', new, found', -, -, intended, -⟩ := correct
  cases found.symm.trans found'
  obtain ⟨io, call⟩ := action
  have seen : Observed serde path (view old id) (some r) := by
    cases call with
    | save id' expected definition =>
      obtain ⟨r', rfl, eq⟩ := Option.map_eq_some_iff.1 expects
      cases eq
      exact intended.1
    | remove id' expected =>
      cases expects
      exact intended.1
    | importLegacy batch => cases expects
  cases stored : view old id with
  | none =>
    rw [stored] at seen
    cases seen
  | some definition =>
    rw [stored] at seen
    rw [revision_injective (apart definition stored) seen hr]

lemma transact_unwritten {β : Type} (io : Io) {file : Option Bytes} {s : Snapshot} {result : β}
    {decision : Snapshot → Except StoreError (β × Option Snapshot)}
    (readable : contents serde path file = .ok s) (decided : decision s = .ok (result, none)) :
    (transact serde path io file decision).2 = file ∧
      (io.lock = none → io.access = none →
        (transact serde path io file decision).1 = .ok result) := by
  have found : io.lock = none → io.access = none →
      (attempt io.lock >>= fun _ => read serde path io file >>= decision) = .ok (result, none) :=
    fun lock access => check_eq_ok.2 ⟨attempt_eq_ok.2 lock,
      bind_eq_ok.2 ⟨s, read_eq_ok.2 ⟨access, readable⟩, decided⟩⟩
  unfold transact
  cases h : attempt io.lock >>= fun _ => read serde path io file >>= decision with
  | error e => exact ⟨rfl, fun lock access => nomatch h.symm.trans (found lock access)⟩
  | ok value =>
    obtain ⟨lock, h'⟩ := check_eq_ok.1 h
    obtain ⟨s', hread, -⟩ := bind_eq_ok.1 h'
    cases h.symm.trans (found (attempt_eq_ok.1 lock) (read_eq_ok.1 hread).1)
    exact ⟨rfl, fun _ _ => rfl⟩

lemma importLegacy_again {file : Option Bytes} (trips : serde.RoundTrips)
    (readable : Readable serde path file) : ImportsOnce serde path file := by
  obtain ⟨s, readable⟩ := readable
  intro batch io io' response after h
  simp only [perform, importLegacy] at h ⊢
  cases valid : batch.forM fun saved => validateDefinition saved.definitionId saved.definition with
  | error e =>
    rw [valid] at h
    cases h
  | ok =>
    rw [valid] at h
    have wf := contents_wellFormed readable
    have good {result next} (decided : importDecision serde path batch s = .ok (result, next)) :=
      importDecision_spec wf (forM_eq_ok.1 valid) decided
    have spec := transact_spec io trips readable fun result next decided => by
      obtain ⟨wf', eq, -⟩ := good decided
      exact eq ▸ wf'.toSound
    dsimp only at h
    generalize transact serde path io file (importDecision serde path batch) = done at h spec
    obtain ⟨result, last⟩ := done
    obtain ⟨hresult, rfl⟩ := Prod.mk.inj h
    cases result with
    | error e => cases hresult
    | ok result =>
      cases hresult
      obtain ⟨next, decided, written⟩ := spec
      obtain ⟨wf', eq, there, -⟩ := good decided
      rw [eq, wf'.sort_eq] at written
      have decided' : importDecision serde path batch result = .ok (result, none) := by
        rw [importDecision, importLoop_again there]
        show Except.ok (sortDefinitions result, none) = _
        rw [wf'.sort_eq]
      obtain ⟨same, succeeds⟩ := transact_unwritten io' written decided'
      refine ⟨same, fun lock access => ?_⟩
      exact congrArg (Except.map Response.imported) (succeeds lock access)

/-! ### Runs -/

lemma step_readable {file after : Option Bytes} {action : Action} (trips : serde.RoundTrips)
    (readable : Readable serde path file) (sync : SyncsDirectory serde path file action)
    (h : step serde path file action = some after) : Readable serde path after := by
  have correct := perform_correct trips readable sync
  rw [Correct] at correct
  obtain rfl := Option.some.inj h
  generalize perform serde path action.io file action.call = done at correct ⊢
  obtain ⟨result, last⟩ := done
  cases result with
  | error e =>
    obtain ⟨s, readable⟩ := readable
    exact ⟨s, Eq.trans correct readable⟩
  | ok response =>
    obtain ⟨-, new, -, written, -⟩ := correct
    exact ⟨new, written⟩

/-- In every run in which no synchronization of the directory fails, the file holds a well-formed
    snapshot. Every call then has its intended effect or none, no update is lost, and a batch can be
    imported again. -/
theorem store_consistent {file : Option Bytes} (trips : serde.RoundTrips)
    (run : ReachableWhile (step serde path) (Readable serde path) (SyncsDirectory serde path) file) :
    (∃ snapshot, contents serde path file = .ok snapshot ∧ WellFormed serde path snapshot) ∧
      (∀ action, SyncsDirectory serde path file action →
        Correct serde path file action ∧ NoLostUpdate serde path file action) ∧
      ImportsOnce serde path file := by
  have readable : Readable serde path file :=
    run.invariant (Readable serde path) (fun _ init => init) fun _ _ _ => step_readable trips
  refine ⟨?_, fun action sync => ⟨?_, ?_⟩, importLegacy_again trips readable⟩
  · obtain ⟨snapshot, found⟩ := readable
    exact ⟨snapshot, found, contents_wellFormed found⟩
  · exact perform_correct trips readable sync
  · exact perform_noLostUpdate trips readable sync

/-! ### Files with one definition and with none -/

def build : TaskDefinition := ⟨"build", "make", [], none, .background⟩

/-- The JSON of the definition: `{"name":"build","program":"make",…}`. -/
@[irreducible]
def buildJson : Bytes :=
  [123, 34, 110, 97, 109, 101, 34, 58, 34, 98, 117, 105, 108, 100, 34, 44, 34, 112, 114, 111, 103,
    114, 97, 109, 34, 58, 34, 109, 97, 107, 101, 34, 44, 34, 97, 114, 103, 117, 109, 101, 110,
    116, 115, 34, 58, 91, 93, 44, 34, 119, 111, 114, 107, 105, 110, 103, 95, 100, 105, 114, 101,
    99, 116, 111, 114, 121, 34, 58, 110, 117, 108, 108, 44, 34, 101, 120, 101, 99, 117, 116, 105,
    111, 110, 95, 109, 111, 100, 101, 34, 58, 34, 98, 97, 99, 107, 103, 114, 111, 117, 110, 100,
    34, 125]

def buildDigest : String := "c027acfa3c57688262c448e304781c7a712f1728029cfc0abdaa611106c19436"

def buildDocument : Document := ⟨1, [⟨"d1", "sha256:" ++ buildDigest, build⟩]⟩

/-- The JSON of the document, with indentation. -/
@[irreducible]
def buildFile : Bytes :=
  [123, 10, 32, 32, 34, 115, 99, 104, 101, 109, 97, 95, 118, 101, 114, 115, 105, 111, 110, 34, 58,
    32, 49, 44, 10, 32, 32, 34, 100, 101, 102, 105, 110, 105, 116, 105, 111, 110, 115, 34, 58, 32,
    91, 10, 32, 32, 32, 32, 123, 10, 32, 32, 32, 32, 32, 32, 34, 100, 101, 102, 105, 110, 105,
    116, 105, 111, 110, 95, 105, 100, 34, 58, 32, 34, 100, 49, 34, 44, 10, 32, 32, 32, 32, 32, 32,
    34, 114, 101, 118, 105, 115, 105, 111, 110, 34, 58, 32, 34, 115, 104, 97, 50, 53, 54, 58, 99,
    48, 50, 55, 97, 99, 102, 97, 51, 99, 53, 55, 54, 56, 56, 50, 54, 50, 99, 52, 52, 56, 101, 51,
    48, 52, 55, 56, 49, 99, 55, 97, 55, 49, 50, 102, 49, 55, 50, 56, 48, 50, 57, 99, 102, 99, 48,
    97, 98, 100, 97, 97, 54, 49, 49, 49, 48, 54, 99, 49, 57, 52, 51, 54, 34, 44, 10, 32, 32, 32,
    32, 32, 32, 34, 100, 101, 102, 105, 110, 105, 116, 105, 111, 110, 34, 58, 32, 123, 10, 32, 32,
    32, 32, 32, 32, 32, 32, 34, 110, 97, 109, 101, 34, 58, 32, 34, 98, 117, 105, 108, 100, 34, 44,
    10, 32, 32, 32, 32, 32, 32, 32, 32, 34, 112, 114, 111, 103, 114, 97, 109, 34, 58, 32, 34, 109,
    97, 107, 101, 34, 44, 10, 32, 32, 32, 32, 32, 32, 32, 32, 34, 97, 114, 103, 117, 109, 101,
    110, 116, 115, 34, 58, 32, 91, 93, 44, 10, 32, 32, 32, 32, 32, 32, 32, 32, 34, 119, 111, 114,
    107, 105, 110, 103, 95, 100, 105, 114, 101, 99, 116, 111, 114, 121, 34, 58, 32, 110, 117, 108,
    108, 44, 10, 32, 32, 32, 32, 32, 32, 32, 32, 34, 101, 120, 101, 99, 117, 116, 105, 111, 110,
    95, 109, 111, 100, 101, 34, 58, 32, 34, 98, 97, 99, 107, 103, 114, 111, 117, 110, 100, 34, 10,
    32, 32, 32, 32, 32, 32, 125, 10, 32, 32, 32, 32, 125, 10, 32, 32, 93, 10, 125]

/-- The JSON of the document without definitions. -/
@[irreducible]
def emptyFile : Bytes :=
  [123, 10, 32, 32, 34, 115, 99, 104, 101, 109, 97, 95, 118, 101, 114, 115, 105, 111, 110, 34, 58,
    32, 49, 44, 10, 32, 32, 34, 100, 101, 102, 105, 110, 105, 116, 105, 111, 110, 115, 34, 58, 32,
    91, 93, 10, 125]

def buildSerde : Serde where
  toVecPretty document :=
    if document = buildDocument then .ok buildFile
    else if document = ⟨1, []⟩ then .ok emptyFile
    else .error "unsupported"
  toVec definition := if definition = build then .ok buildJson else .error "unsupported"
  fromSlice bytes :=
    if bytes = buildFile then .ok (documentValue buildDocument)
    else if bytes = emptyFile then .ok (documentValue ⟨1, []⟩)
    else .error "unsupported"
  fromValue value :=
    match (value.get "definitions").bind Value.asArray with
    | some [] => .ok ⟨1, []⟩
    | some _ => .ok buildDocument
    | none => .error "missing field"
  digest bytes := if bytes = buildJson then buildDigest else "unsupported"

lemma buildSerde_roundTrips : buildSerde.RoundTrips := by
  intro document bytes h
  dsimp only [buildSerde] at h
  split at h
  case isTrue eq =>
    cases h
    subst eq
    exact ⟨if_pos rfl, rfl⟩
  case isFalse =>
    split at h
    case isTrue eq =>
      cases h
      subst eq
      have apart : emptyFile ≠ buildFile := by decide +kernel
      exact ⟨(if_neg apart).trans (if_pos rfl), rfl⟩
    case isFalse => cases h

def saveRemoveImport : List Action :=
  [⟨.fine, .save "d1" none build⟩, ⟨.fine, .remove "d1" ("sha256:" ++ buildDigest)⟩,
    ⟨.fine, .importLegacy [⟨"d1", "legacy", build⟩]⟩]

instance {file : Option Bytes} {action : Action} :
    Decidable (SyncsDirectory serde path file action) :=
  inferInstanceAs (Decidable (_ = true → action.io.directory = none))

theorem store_consistent_saveRemoveImport :
    exec (step buildSerde "tasks.json") none saveRemoveImport = some (some buildFile) ∧
      buildSerde.RoundTrips ∧
      (∃ snapshot, contents buildSerde "tasks.json" (some buildFile) = .ok snapshot ∧
        WellFormed buildSerde "tasks.json" snapshot) ∧
      (∀ action, SyncsDirectory buildSerde "tasks.json" (some buildFile) action →
        Correct buildSerde "tasks.json" (some buildFile) action ∧
          NoLostUpdate buildSerde "tasks.json" (some buildFile) action) ∧
      ImportsOnce buildSerde "tasks.json" (some buildFile) := by
  have run : exec (step buildSerde "tasks.json") none saveRemoveImport = some (some buildFile) := by
    decide +kernel
  exact ⟨run, buildSerde_roundTrips, store_consistent buildSerde_roundTrips
    (ReachableWhile.exec (.start ⟨[], rfl⟩) _ run (by decide +kernel))⟩

def removeUnsynced : Action :=
  ⟨{ Io.fine with directory := some (.io "." "Input/output error (os error 5)") },
    .remove "d1" ("sha256:" ++ buildDigest)⟩

/-- A removal that fails has removed the definition. -/
theorem removeUnsynced_removes :
    buildSerde.RoundTrips ∧
      Reachable (step buildSerde "tasks.json") (Readable buildSerde "tasks.json") (some buildFile) ∧
      perform buildSerde "tasks.json" removeUnsynced.io (some buildFile) removeUnsynced.call =
        (.error (.io "." "Input/output error (os error 5)"), some emptyFile) ∧
      contents buildSerde "tasks.json" (some buildFile) = .ok buildDocument.definitions ∧
      contents buildSerde "tasks.json" (some emptyFile) = .ok [] ∧
      ¬ Correct buildSerde "tasks.json" (some buildFile) removeUnsynced := by
  have run : exec (step buildSerde "tasks.json") none saveRemoveImport = some (some buildFile) := by
    decide +kernel
  have performed :
      perform buildSerde "tasks.json" removeUnsynced.io (some buildFile) removeUnsynced.call =
        (.error (.io "." "Input/output error (os error 5)"), some emptyFile) := by
    decide +kernel
  have before : contents buildSerde "tasks.json" (some buildFile) = .ok buildDocument.definitions := by
    decide +kernel
  have after : contents buildSerde "tasks.json" (some emptyFile) = .ok [] := by decide +kernel
  refine ⟨buildSerde_roundTrips, Reachable.exec (.start ⟨[], rfl⟩) _ run, performed, before, after, ?_⟩
  intro correct
  rw [Correct, performed] at correct
  cases after.symm.trans (Eq.trans correct before)

end Ctl.Store
