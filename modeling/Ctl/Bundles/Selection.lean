import Ctl.Bundles.Store

/-!
# What the readers return, and who changes a selection

In a state that meets the invariant the readers return complete builds, and `selected` returns the build
that was selected last (`Inv.selected`). A call that selects adds at most its own choice, and a call that
publishes a build again changes nothing.
-/

namespace Ctl.Bundles
open Ctl.Base

/-! ### Readers -/

def storedBundle (manifest : Manifest) : Bundle :=
  ⟨bundleDirectory manifest.targetTriple manifest.bundleId, manifest⟩

def Complete (env : Env) (w : World) (bundle : Bundle) : Prop :=
  bundle = storedBundle bundle.manifest ∧ ∃ files tree, (bundle.manifest, files) ∈ w.published ∧
    w.tree bundle.manifest.targetTriple bundle.manifest.bundleId = some tree ∧
    Holds env bundle.manifest files tree ∧
    ∀ manifest' files', (manifest', files') ∈ w.published →
      manifest'.targetTriple = bundle.manifest.targetTriple →
      manifest'.bundleId = bundle.manifest.bundleId → manifest' = bundle.manifest ∧ files' = files

namespace Inv
variable {env : Env} {w : World} {manifest : Manifest} {target : String} {files : Files} {id : String} {bundle : Bundle}

lemma load_published (inv : Inv env w) (ok : env.Sound) (mem : (manifest, files) ∈ w.published) :
    load env w manifest.targetTriple manifest.bundleId = .ok (storedBundle manifest) := by
  obtain ⟨sound, _, tree, found, holds⟩ := inv.published manifest files mem
  have bundles : w.bundles ≠ none := by
    intro none
    rw [World.tree, none] at found
    cases found
  exact load_of_holds ok (inv.rooted (.inl bundles)).1 found holds sound

lemma complete_published (inv : Inv env w) (mem : (manifest, files) ∈ w.published) :
    Complete env w (storedBundle manifest) := by
  obtain ⟨_, _, tree, found, holds⟩ := inv.published manifest files mem
  refine ⟨rfl, files, tree, mem, found, holds, ?_⟩
  intro manifest' files' mem' target id
  exact inv.unique manifest' files' manifest files mem' mem target id

lemma load_complete (inv : Inv env w) (ok : env.Sound) (digest : validDigest id)
    (h : load env w target id = .ok bundle) : Complete env w bundle := by
  obtain ⟨_, _, _, _, tree, found⟩ := load_eq_ok h
  obtain ⟨manifest, files, mem, rfl, rfl⟩ :=
    inv.stored target id tree (not_temporary_of_validDigest digest) found
  obtain rfl := Except.ok.inj (h.symm.trans (inv.load_published ok mem))
  exact inv.complete_published mem

lemma get_complete (inv : Inv env w) (ok : env.Sound) (h : get env w target id = .ok bundle) :
    Complete env w bundle := by
  rw [get, check_eq_ok, check_eq_ok, reject_eq_ok, Bool.not_eq_false'] at h
  exact inv.load_complete ok h.2.1 h.2.2

lemma mapM_ok_mem {α β : Type} {f : α → Except IoError β} {xs : List α} {ys : List β} (h : xs.mapM f = .ok ys) {y : β}
    (mem : y ∈ ys) : ∃ x ∈ xs, f x = .ok y := by
  induction xs generalizing ys with
  | nil =>
    rw [List.mapM_nil, pure_eq_ok] at h
    rw [← h] at mem
    cases mem
  | cons x xs ih =>
    rw [List.mapM_cons] at h
    obtain ⟨z, first, h⟩ := bind_eq_ok.1 h
    obtain ⟨zs, rest, h⟩ := bind_eq_ok.1 h
    obtain rfl := pure_eq_ok.1 h
    cases mem with
    | head => exact ⟨x, List.mem_cons_self, first⟩
    | tail _ mem =>
      obtain ⟨x', mem', ok⟩ := ih rest mem
      exact ⟨x', List.mem_cons_of_mem x mem', ok⟩

lemma list_complete (inv : Inv env w) (ok : env.Sound) {bundles : List Bundle} (h : list env w target = .ok bundles) :
    ∀ bundle ∈ bundles, Complete env w bundle := by
  rw [list, check_eq_ok] at h
  replace h := h.2
  intro bundle mem
  split at h
  case isTrue =>
    obtain rfl := pure_eq_ok.1 h
    cases mem
  case isFalse =>
    split at h
    case h_1 =>
      obtain rfl := pure_eq_ok.1 h
      cases mem
    case h_2 names _ =>
      rw [loadAll, check_eq_ok] at h
      obtain ⟨id, sorted, loaded⟩ := mapM_ok_mem h.2 mem
      have kept := ((List.perm_insertionSort _ _).mem_iff.1 sorted)
      exact inv.load_complete ok (List.mem_filter.1 kept).2 loaded

/-! ### The selection -/

lemma mem_lastChoice {chosen : List (Purpose × Manifest)} {purpose : Purpose}
    (last : lastChoice chosen purpose target = some manifest) :
    (purpose, manifest) ∈ chosen ∧ (purpose = .upload → manifest.targetTriple = target) := by
  rw [lastChoice, Option.map_eq_some_iff] at last
  obtain ⟨⟨choice, manifest'⟩, found, rfl⟩ := last
  have mem := List.mem_of_find?_eq_some found
  have met := List.find?_some found
  simp only [Bool.and_eq_true, Bool.or_eq_true, decide_eq_true_eq] at met
  obtain ⟨rfl, suited⟩ := met
  refine ⟨mem, fun upload => suited.resolve_left ?_⟩
  rw [upload]
  exact Purpose.noConfusion

end Inv

/-- The bundle that was selected last, if it was for uploads to exactly this target, or for this machine
    and the question is about its native target or the target of the bundle. -/
def lastSelected (env : Env) (w : World) (purpose : Purpose) (target : String) : Option Bundle :=
  (lastChoice w.chosen purpose target).bind fun manifest =>
    if purpose = .upload ∨ target = env.nativeTarget ∨ target = manifest.targetTriple then
      some (storedBundle manifest)
    else none

lemma localTarget_native (env : Env) : localTarget env env.nativeTarget := by
  rw [localTarget, decide_eq_true rfl, Bool.true_or]

variable {env : Env} {target : String}

lemma size_le_of_validateTarget (h : validateTarget env target = .ok ()) : target.utf8ByteSize ≤ 128 := by
  rw [validateTarget] at h
  split at h
  case isTrue => cases h
  case isFalse named =>
    rw [Bool.or_eq_true, Bool.or_eq_true, not_or, not_or] at named
    simpa using named.1.2

namespace Inv
variable {env : Env} {w : World} {purpose : Purpose} {manifest : Manifest} {target : String}

lemma rooted_of_chosen (inv : Inv env w) (mem : (purpose, manifest) ∈ w.chosen) : rootExists w = true := by
  obtain ⟨⟨files, mem⟩, _⟩ := inv.chosen purpose manifest mem
  obtain ⟨_, _, tree, found, _⟩ := inv.published manifest files mem
  have bundles : w.bundles ≠ none := by
    intro none
    rw [World.tree, none] at found
    cases found
  exact decide_eq_true (inv.rooted (.inl bundles)).1

lemma loadSelected (inv : Inv env w) (ok : env.Sound) {bytes : Bytes}
    (last : lastChoice w.chosen purpose target = some manifest)
    (encoded : env.selectionToVec ⟨manifest.bundleId, manifest.targetTriple⟩ = .ok bytes) :
    loadSelected env w purpose target bytes = .ok (lastSelected env w purpose target) := by
  obtain ⟨mem, own⟩ := mem_lastChoice last
  obtain ⟨⟨files, published⟩, suited⟩ := inv.chosen purpose manifest mem
  obtain ⟨sound, _⟩ := inv.published manifest files published
  have valid := validated sound.valid
  have digest := validDigest_of_validate sound.valid ok
  have small := ok.selectionSize _ bytes digest (size_le_of_validateTarget valid.target) encoded
  rw [Bundles.loadSelected, check_eq_ok, reject_eq_ok, decide_eq_false_iff_not, Nat.not_lt]
  refine ⟨small, bind_eq_ok.2 ⟨_, other_eq_ok.2 (ok.selection _ bytes encoded), ?_⟩⟩
  rw [check_eq_ok, check_eq_ok, check_eq_ok, check_eq_ok, reject_eq_ok, reject_eq_ok, reject_eq_ok]
  refine ⟨by rw [digest]; rfl, valid.target, ?_, ?_, ?_⟩
  · cases purpose with
    | «local» => rfl
    | upload => simp [own rfl]
  · cases purpose with
    | «local» => simp [suited rfl]
    | upload => rfl
  · rw [lastSelected, last, Option.bind_some]
    have loaded := inv.load_published ok published
    cases purpose with
    | upload =>
      rw [if_neg (by simp), if_pos (.inl rfl)]
      exact bind_eq_ok.2 ⟨_, loaded, rfl⟩
    | «local» =>
      by_cases asked : target = env.nativeTarget ∨ target = manifest.targetTriple
      · rw [if_neg (by simpa [imp_iff_not_or] using asked), if_pos (.inr asked)]
        exact bind_eq_ok.2 ⟨_, loaded, rfl⟩
      · rw [not_or] at asked
        rw [if_pos (by simpa using asked), if_neg (by simpa using asked)]
        rfl

theorem selected (inv : Inv env w) (ok : env.Sound) (valid : validateTarget env target = .ok ()) (purpose : Purpose) :
    selected env w purpose target = .ok (lastSelected env w purpose target) := by
  rw [Bundles.selected, check_eq_ok]
  refine ⟨valid, ?_⟩
  have there := inv.selection purpose target
  cases last : lastChoice w.chosen purpose target with
  | none =>
    rw [last] at there
    rw [there, lastSelected, last]
    split <;> rfl
  | some manifest =>
    rw [last] at there
    obtain ⟨bytes, stored, encoded⟩ := there
    obtain ⟨mem, _⟩ := mem_lastChoice last
    rw [inv.rooted_of_chosen mem, Bool.not_true, Bool.or_false]
    split
    case isTrue foreign =>
      -- The build that was selected for this machine runs on it, so it has another target.
      rw [Bool.and_eq_true, decide_eq_true_eq, Bool.not_eq_true'] at foreign
      obtain ⟨rfl, foreign⟩ := foreign
      have suited := (inv.chosen _ _ mem).2 rfl
      rw [lastSelected, last, Option.bind_some, if_neg]
      · rfl
      · rintro (other | native | own)
        · cases other
        · rw [native, localTarget_native] at foreign
          cases foreign
        · rw [own, suited] at foreign
          cases foreign
    case isFalse =>
      rw [stored]
      exact inv.loadSelected ok last encoded

end Inv

/-! ### Writers -/

lemma selectionPath_inj {purpose purpose' : Purpose} {target' : String} :
    selectionPath env purpose target = selectionPath env purpose' target' ↔
      purpose = purpose' ∧ (purpose = .local ∨ target = target') := by
  rw [selectionPath, selectionPath, ← String.toList_inj]
  simp only [String.toList_append, List.append_left_inj]
  cases purpose with
  | «local» =>
    cases purpose' with
    | «local» => simp [selectionTarget]
    | upload => simp [Purpose.name]
  | upload =>
    cases purpose' with
    | «local» => simp [Purpose.name]
    | upload => simp [selectionTarget, String.toList_inj]

lemma lastChoice_cons (chosen : List (Purpose × Manifest)) (purpose : Purpose) (manifest : Manifest)
    (purpose' : Purpose) (target : String) :
    lastChoice ((purpose, manifest) :: chosen) purpose' target =
      if purpose = purpose' ∧ (purpose = .local ∨ manifest.targetTriple = target) then some manifest
      else lastChoice chosen purpose' target := by
  by_cases both : purpose = purpose' ∧ (purpose = .local ∨ manifest.targetTriple = target)
  · obtain ⟨rfl, suited⟩ := both
    rw [if_pos ⟨rfl, suited⟩, lastChoice, List.find?_cons_of_pos (by simpa using suited)]
    rfl
  · rw [if_neg both, lastChoice, List.find?_cons_of_neg, lastChoice]
    intro met
    simp only [Bool.and_eq_true, Bool.or_eq_true, decide_eq_true_eq] at met
    exact both ⟨met.1, by rw [met.1]; exact met.2⟩

lemma Inv.modifySelections {w : World} (inv : Inv env w) {next : String} (temporary : Temporary next)
    {f : Table String Bytes → Table String Bytes}
    (others : ∀ files path, path ≠ next → AList.lookup path (f files) = AList.lookup path files) (n : Nat) :
    Inv env ({ w with asked := n }.modifySelections f) := by
  apply inv.withSelections
  · intro there
    apply inv.rooted
    right
    intro none
    rw [none] at there
    exact there rfl
  · intro path permanent
    show (w.selections.map f).bind _ = _
    rw [Option.bind_map, World.selection]
    congr 1
    funext files
    exact others files path fun same => permanent (same ▸ temporary)

section
variable {env : Env} {answers : Nat → Answer} {chosen : List (Purpose × Manifest)} {purpose : Purpose}
  {manifest : Manifest} {next : String} {w : World} {bundle : Bundle}

/-- What every step of a selection keeps. -/
structure Choosing (env : Env) (chosen : List (Purpose × Manifest)) (purpose : Purpose)
    (manifest : Manifest) (w : World) : Prop where
  inv : Inv env w
  chosen : w.chosen = chosen ∨ w.chosen = (purpose, manifest) :: chosen

structure Ready (env : Env) (chosen : List (Purpose × Manifest)) (purpose : Purpose)
    (manifest : Manifest) (w : World) : Prop where
  inv : Inv env w
  chosen : w.chosen = chosen
  published : ∃ files, (manifest, files) ∈ w.published
  suited : purpose = .local → localTarget env manifest.targetTriple
  there : w.selections ≠ none

lemma Ready.choosing (ready : Ready env chosen purpose manifest w) : Choosing env chosen purpose manifest w :=
  ⟨ready.inv, .inl ready.chosen⟩

lemma Ready.ask (ready : Ready env chosen purpose manifest w) (n : Nat) :
    Ready env chosen purpose manifest { w with asked := n } :=
  ⟨ready.inv.ask n, ready.chosen, ready.published, ready.suited, ready.there⟩

lemma setSelection_triple (temporary : Temporary next) (bytes : Bytes) :
    Triple (Ready env chosen purpose manifest) (call answers (setSelection next bytes))
      (fun _ w => Ready env chosen purpose manifest w ∧ w.selection next = some bytes)
      (Choosing env chosen purpose manifest) := by
  apply call_triple
  intro w n ready
  obtain ⟨files, there⟩ := Option.ne_none_iff_exists'.1 ready.there
  refine ⟨(ready.ask n).choosing, ⟨?_, ready.chosen, ready.published, ready.suited, ?_⟩, ?_⟩
  · apply ready.inv.modifySelections temporary
    intro files path ne
    rw [Table.lookup_insert, if_neg ne.symm]
  · show w.selections.map _ ≠ none
    rw [there]
    exact Option.some_ne_none _
  · show (w.selections.map _).bind _ = _
    rw [there, Option.map_some, Option.bind_some, Table.lookup_insert, if_pos rfl]

lemma writeSelection_triple (temporary : Temporary next) (bytes : Bytes) :
    Triple (Ready env chosen purpose manifest) (writeSelection answers next bytes)
      (fun _ w => Ready env chosen purpose manifest w ∧ w.selection next = some bytes)
      (Choosing env chosen purpose manifest) := by
  apply Triple.getBind
  intro s
  refine Triple.bind (Q := fun _ => Ready env chosen purpose manifest) ?_ fun _ => ?_
  · exact liftExcept_triple (fun _ _ _ ready => ready) fun _ ready => ready.choosing
  refine Triple.bind (setSelection_triple temporary []) fun _ => ?_
  refine Triple.bind ((setSelection_triple temporary bytes).pre fun _ before => before.1) fun _ => ?_
  apply call_triple
  exact fun w n before => ⟨(before.1.ask n).choosing, before.1.ask n, before.2⟩

lemma moveSelection_inv {bytes : Bytes} (ready : Ready env chosen purpose manifest w) (temporary : Temporary next)
    (written : w.selection next = some bytes)
    (encoded : env.selectionToVec ⟨manifest.bundleId, manifest.targetTriple⟩ = .ok bytes) :
    Inv env (moveSelection next (selectionPath env purpose manifest.targetTriple) purpose manifest w) := by
  obtain ⟨files, there, found⟩ := Option.bind_eq_some_iff.1 written
  refine ⟨?_, ready.inv.stored, ready.inv.published, ready.inv.unique, ?_, ?_⟩
  · intro _
    apply ready.inv.rooted
    right
    exact ready.there
  · intro purpose' manifest' mem
    cases List.mem_cons.1 mem with
    | inl new =>
      obtain ⟨rfl, rfl⟩ := Prod.mk.inj new
      exact ⟨ready.published, ready.suited⟩
    | inr old => exact ready.inv.chosen purpose' manifest' old
  · intro purpose' target
    have ne : next ≠ selectionPath env purpose' target :=
      fun same => not_temporary_selectionPath env purpose' target (same ▸ temporary)
    have stored : (moveSelection next (selectionPath env purpose manifest.targetTriple) purpose manifest
        w).selection (selectionPath env purpose' target) =
        if purpose = purpose' ∧ (purpose = .local ∨ manifest.targetTriple = target) then some bytes
        else w.selection (selectionPath env purpose' target) := by
      show (w.selections.map _).bind _ = ite _ _ (w.selections.bind _)
      rw [there, Option.map_some, Option.bind_some, found]
      dsimp only
      rw [Table.lookup_insert, Table.lookup_erase, if_neg ne]
      exact ite_congr (propext selectionPath_inj) (fun _ => rfl) fun _ => rfl
    have last : lastChoice (moveSelection next (selectionPath env purpose manifest.targetTriple) purpose
        manifest w).chosen purpose' target = _ := lastChoice_cons w.chosen purpose manifest purpose' target
    rw [stored, last]
    by_cases own : purpose = purpose' ∧ (purpose = .local ∨ manifest.targetTriple = target)
    · rw [if_pos own, if_pos own]
      exact ⟨bytes, rfl, encoded⟩
    · rw [if_neg own, if_neg own]
      exact ready.inv.selection purpose' target

lemma replaceSelection_triple (temporary : Temporary next) :
    Triple (Ready env chosen purpose manifest) (replaceSelection answers env purpose manifest next)
      (fun _ => Choosing env chosen purpose manifest) (Choosing env chosen purpose manifest) := by
  refine Triple.bind (Q := fun bytes w => Ready env chosen purpose manifest w ∧
    env.selectionToVec ⟨manifest.bundleId, manifest.targetTriple⟩ = .ok bytes) ?_ fun bytes => ?_
  · apply liftExcept_triple
    · exact fun bytes encoded w ready => ⟨ready, other_eq_ok.1 encoded⟩
    · exact fun w ready => ready.choosing
  intro w before
  obtain ⟨ready, encoded⟩ := before
  suffices rest : Triple (Ready env chosen purpose manifest) _
      (fun _ => Choosing env chosen purpose manifest) (Choosing env chosen purpose manifest) from
    rest w ready
  refine Triple.bind (writeSelection_triple temporary bytes) fun _ => ?_
  refine Triple.bind (Q := fun _ => Choosing env chosen purpose manifest) (call_triple fun w n before => ?_)
    fun _ => call_keeps fun w n choosing => ?_
  · obtain ⟨ready, written⟩ := before
    refine ⟨(ready.ask n).choosing, moveSelection_inv (ready.ask n) temporary written encoded, .inr ?_⟩
    exact congrArg _ ready.chosen
  · exact ⟨⟨choosing.inv.ask n, choosing.chosen⟩, choosing.inv.ask n, choosing.chosen⟩

lemma ensureSelected_triple (suited : purpose = .local → localTarget env manifest.targetTriple) :
    Triple (fun w => Inv env w ∧ w.chosen = chosen ∧ (∃ files, (manifest, files) ∈ w.published) ∧
        4 ≤ w.roots ∧ w.lockFile = true)
      (ensureSelected answers) (fun _ => Ready env chosen purpose manifest)
      (Choosing env chosen purpose manifest) := by
  apply Triple.getEqBind
  intro s before
  obtain ⟨inv, same, published, roots, lock⟩ := before
  split
  case isTrue missing =>
    have absent := Option.isNone_iff_eq_none.1 missing
    apply call_triple
    rintro w n rfl
    refine ⟨⟨inv.ask n, .inl same⟩, ?_, same, published, suited, Option.some_ne_none _⟩
    apply inv.withSelections fun _ => ⟨roots, lock⟩
    intro path _
    rw [World.selection, World.selection, absent, Option.bind_some, AList.lookup_empty]
    rfl
  case isFalse present =>
    apply Triple.pure
    rintro w rfl
    exact ⟨inv, same, published, suited, Option.isSome_iff_ne_none.1 (isSome_of_not_isNone present)⟩

lemma checkSelected_ok {current : Bundle} (h : checkSelected env purpose bundle current = .ok ()) :
    current.manifest = bundle.manifest ∧
      (purpose = .local → localTarget env bundle.manifest.targetTriple) := by
  rw [checkSelected, check_eq_ok, check_eq_ok, reject_eq_ok, reject_eq_ok] at h
  obtain ⟨same, suited, _⟩ := h
  simp only [Bool.or_eq_false_iff, decide_eq_false_iff_not, not_not] at same
  refine ⟨same.1, ?_⟩
  rintro rfl
  simpa using suited

lemma selectBundle_triple (ok : env.Sound) (bundle : Bundle) (uuid : String) :
    Triple (fun w => Inv env w ∧ w.chosen = chosen ∧ 4 ≤ w.roots ∧ w.lockFile = true)
      (selectBundle answers env purpose bundle uuid)
      (fun _ => Choosing env chosen purpose bundle.manifest)
      (Choosing env chosen purpose bundle.manifest) := by
  apply Triple.getEqBind
  intro s before
  obtain ⟨inv, same, roots, lock⟩ := before
  have choosing : ∀ w, w = s → Choosing env chosen purpose bundle.manifest w := by
    rintro w rfl
    exact ⟨inv, .inl same⟩
  refine Triple.bind (Q := fun current w => w = s ∧ load env s bundle.manifest.targetTriple
    bundle.manifest.bundleId = .ok current) ?_ fun current => ?_
  · exact liftExcept_triple (fun current loaded w here => ⟨here, loaded⟩) choosing
  refine Triple.bind (Q := fun _ w => (w = s ∧ load env s bundle.manifest.targetTriple
    bundle.manifest.bundleId = .ok current) ∧ checkSelected env purpose bundle current = .ok ()) ?_
    fun _ => ?_
  · exact liftExcept_triple (fun _ checked w here => ⟨here, checked⟩) fun w here => choosing w here.1
  intro w before
  obtain ⟨⟨rfl, loaded⟩, checked⟩ := before
  obtain ⟨stored, suited⟩ := checkSelected_ok checked
  have valid := (load_eq_ok loaded).2.2.2.1
  rw [stored] at valid
  obtain ⟨_, files, _, published, _⟩ :=
    inv.load_complete ok (validDigest_of_validate valid ok) loaded
  rw [stored] at published
  have temporary := temporary_nextName uuid
  refine (Triple.bind (ensureSelected_triple suited) fun _ =>
    withTemporary_triple (replaceSelection_triple temporary) (ignore_triple (call_keeps ?_)))
    w ⟨inv, same, ⟨files, published⟩, roots, lock⟩
  intro w n choosing
  refine ⟨⟨choosing.inv.ask n, choosing.chosen⟩, choosing.inv.modifySelections temporary ?_ n,
    choosing.chosen⟩
  intro files path ne
  rw [Table.lookup_erase, if_neg ne.symm]

/-- A call of `select_if_unset` overwrites a selection: there is one for this machine, which does not
    answer the question for the target of the bundle. -/
def Overwrites (env : Env) (chosen : List (Purpose × Manifest)) (purpose : Purpose) (bundle : Bundle) : Prop :=
  purpose = .local ∧ localTarget env bundle.manifest.targetTriple ∧
    bundle.manifest.targetTriple ≠ env.nativeTarget ∧
    ∃ manifest, lastChoice chosen .local bundle.manifest.targetTriple = some manifest ∧
      manifest.targetTriple ≠ bundle.manifest.targetTriple

lemma Choosing.overwrites (choosing : Choosing env chosen purpose bundle.manifest w) (s : World)
    (same : s.chosen = chosen) (unset : lastSelected env s purpose bundle.manifest.targetTriple = none) :
    w.chosen = chosen ∨ w.chosen = (purpose, bundle.manifest) :: chosen ∧
      (lastChoice chosen purpose bundle.manifest.targetTriple = none ∨
        Overwrites env chosen purpose bundle) := by
  apply choosing.chosen.imp_right
  intro new
  refine ⟨new, ?_⟩
  cases last : lastChoice chosen purpose bundle.manifest.targetTriple with
  | none => exact .inl rfl
  | some manifest =>
    right
    rw [lastSelected, same, last, Option.bind_some] at unset
    split at unset
    case isTrue => cases unset
    case isFalse other =>
      rw [not_or, not_or] at other
      have isLocal : purpose = .local := by
        cases purpose with
        | «local» => rfl
        | upload => exact (other.1 rfl).elim
      have suited := (choosing.inv.chosen purpose bundle.manifest (new ▸ List.mem_cons_self)).2 isLocal
      subst isLocal
      exact ⟨rfl, suited, other.2.1, manifest, last, fun eq => other.2.2 eq.symm⟩

/-- What is left by a call that selects. -/
structure Chosen (env : Env) (chosen : List (Purpose × Manifest)) (purpose : Purpose) (bundle : Bundle)
    (onlyUnset : Bool) (w : World) : Prop where
  inv : Inv env w
  chosen : w.chosen = chosen ∨ w.chosen = (purpose, bundle.manifest) :: chosen ∧
    (onlyUnset = true → lastChoice chosen purpose bundle.manifest.targetTriple = none ∨
      Overwrites env chosen purpose bundle)

lemma lock_triple {Q E : World → Prop} {rest : Operation Unit}
    (h : Triple (fun w => Inv env w ∧ w.chosen = chosen ∧ 4 ≤ w.roots ∧ w.lockFile = true) rest
      (fun _ => Q) E) (error : ∀ w, Inv env w → w.chosen = chosen → E w) :
    Triple (fun w => Inv env w ∧ w.chosen = chosen)
      (do ensureRoot answers; acquireLock answers; rest) (fun _ => Q) E := by
  have front : Indifferent fun w => w.chosen = chosen := fun _ _ _ _ same => same
  have early : ∀ w, Inv env w ∧ w.chosen = chosen → E w := fun w e => error w e.1 e.2
  refine Triple.bind (Triple.conseq (ensureRoot_triple front) (fun _ _ p => p) early) fun _ => ?_
  exact Triple.bind (Triple.conseq (acquireLock_triple front) (fun _ _ p => p) early) fun _ => h

theorem select_triple (ok : env.Sound) (bundle : Bundle) (onlyUnset : Bool) (uuid : String) :
    Triple (fun w => Inv env w ∧ w.chosen = chosen)
      (select answers env purpose bundle onlyUnset uuid)
      (fun _ => Chosen env chosen purpose bundle onlyUnset)
      (Chosen env chosen purpose bundle onlyUnset) := by
  apply lock_triple
  · cases onlyUnset with
    | false =>
      have always : ∀ w, Choosing env chosen purpose bundle.manifest w →
          Chosen env chosen purpose bundle false w :=
        fun w choosing => ⟨choosing.inv, choosing.chosen.imp_right fun new => ⟨new, nofun⟩⟩
      exact Triple.conseq (selectBundle_triple ok bundle uuid) (fun _ => always) always
    | true =>
      apply Triple.getEqBind
      intro s before
      refine Triple.bind (Q := fun found w => w = s ∧
        selected env s purpose bundle.manifest.targetTriple = .ok found) ?_ fun found => ?_
      · refine liftExcept_triple (fun found h w here => ⟨here, h⟩) ?_
        rintro w rfl
        exact ⟨before.1, .inl before.2.1⟩
      · rintro w ⟨rfl, read⟩
        have valid : validateTarget env bundle.manifest.targetTriple = .ok () := by
          rw [selected, check_eq_ok] at read
          exact read.1
        rw [before.1.selected ok valid] at read
        cases found with
        | some bundle' => exact ⟨before.1, .inl before.2.1⟩
        | none =>
          have unset := Except.ok.inj read
          have only : ∀ v, Choosing env chosen purpose bundle.manifest v →
              Chosen env chosen purpose bundle true v := by
            intro v choosing
            refine ⟨choosing.inv, (choosing.overwrites w before.2.1 unset).imp_right ?_⟩
            exact fun new => ⟨new.1, fun _ => new.2⟩
          exact Triple.conseq (selectBundle_triple ok bundle uuid) (fun _ => only) only w before
  · exact fun w inv same => ⟨inv, .inl same⟩

end

end Ctl.Bundles
