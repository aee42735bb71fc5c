import Ctl.Bundles.Contents

/-!
# The store keeps complete builds and explicit selections

`Inv` is the invariant of the store: the directories that are named by a digest hold exactly one
published build each, and the file of a selection names the build that was selected last. Every call to
the file system keeps it, so a crash after any of them does. An operation is verified by the rules of
computations that fail and keep their state.
-/

namespace Ctl.Bundles
open Ctl.Base

/-! ### Lookups after changes -/

namespace World

def names (w : World) (target : String) : Option (Table String Tree) :=
  w.bundles.bind (AList.lookup target)

lemma tree_eq (w : World) (target name : String) : w.tree target name = (w.names target).bind (AList.lookup name) := by
  rw [tree, names, Option.bind_assoc]

lemma names_modifyTarget (w : World) (target target' : String) (f) :
    (w.modifyTarget target f).names target' =
      if target' = target then (w.names target).map f else w.names target' := by
  unfold names modifyTarget
  cases w.bundles with
  | none =>
    split <;> rfl
  | some targets =>
    exact Table.lookup_modify targets target f target'

variable {w : World} {target : String}

lemma tree_modifyTarget_ne {target' : String} (ne : target' ≠ target) (f name) :
    (w.modifyTarget target f).tree target' name = w.tree target' name := by
  rw [tree_eq, names_modifyTarget, if_neg ne, tree_eq]

lemma tree_modifyTarget (w : World) (target : String) (f name) :
    (w.modifyTarget target f).tree target name =
      (w.names target).bind fun names => AList.lookup name (f names) := by
  rw [tree_eq, names_modifyTarget, if_pos rfl, Option.bind_map]
  rfl

lemma tree_modifyTree (w : World) (target name : String) (f) (target' name' : String) :
    (w.modifyTree target name f).tree target' name' =
      if target' = target ∧ name' = name then (w.tree target name).map f else w.tree target' name' := by
  by_cases same : target' = target
  · subst same
    rw [modifyTree, tree_modifyTarget, tree_eq, tree_eq]
    cases w.names target' with
    | none => split <;> rfl
    | some names =>
      rw [Option.bind_some, Table.lookup_modify]
      by_cases named : name' = name
      · rw [if_pos named, if_pos ⟨rfl, named⟩]
        rfl
      · rw [if_neg named, if_neg fun both => named both.2]
        rfl
  · rw [modifyTree, tree_modifyTarget_ne same, if_neg fun both => same both.1]

lemma tree_modifyTree_self (w : World) (target name : String) (f) :
    (w.modifyTree target name f).tree target name = (w.tree target name).map f := by
  rw [tree_modifyTree, if_pos ⟨rfl, rfl⟩]

lemma tree_modifyTree_ne {name name' : String} (ne : name' ≠ name) (target f target') :
    (w.modifyTree target name f).tree target' name' = w.tree target' name' := by
  rw [tree_modifyTree, if_neg fun both => ne both.2]

lemma tree_setNode {stage : String} {tree : Tree} (there : w.tree target stage = some tree) (name : String)
    (node : Node) (n : Nat) :
    (setNode target stage name node { w with asked := n }).tree target stage =
      some (AList.insert name node tree) := by
  have same : { w with asked := n : World }.tree target stage = some tree := there
  rw [setNode, tree_modifyTree_self, same]
  rfl

end World

def lastChoice (chosen : List (Purpose × Manifest)) (purpose : Purpose) (target : String) : Option Manifest :=
  (chosen.find? fun (choice, manifest) =>
    choice = purpose && (purpose = .local || manifest.targetTriple = target)).map (·.2)

/-! ### The rules of the operations -/

section
variable {P : World → Prop} {E : World → Prop} {answers : Nat → Answer} {change : World → World}

lemma call_triple {Q : World → Prop} (h : ∀ w n, P w → E { w with asked := n } ∧ Q (change { w with asked := n })) :
    Triple P (call answers change) (fun _ => Q) E := by
  intro w p
  -- Only the answer to this call is read.
  have run : perform (call answers change) w = perform (call (fun _ => answers w.asked) change) w := rfl
  rw [run]
  cases answers w.asked with
  | done => exact (h w _ p).2
  | failed error => exact (h w _ p).1
  | crashed => exact (h w _ p).1

lemma liftExcept_triple {α : Type} {r : Except IoError α} {Q : α → World → Prop}
    (ok : ∀ a, r = .ok a → ∀ w, P w → Q a w) (error : ∀ w, P w → E w) : Triple P (liftExcept r) Q E := by
  cases r with
  | ok a => exact Triple.pure (ok a rfl)
  | error e => exact Triple.throw error

lemma perform_attempt {α : Type} (body : Operation α) (w : World) :
    perform (attempt body) w = match perform body w with
      | (.ok a, w') => (.ok (.ok a), w')
      | (.error (.failed error), w') => (.ok (.error error), w')
      | (.error .crashed, w') => (.error .crashed, w') := by
  have ran : perform (attempt body) w = perform (attempt (fun _ => perform body w : Operation α)) w := rfl
  rw [ran]
  generalize perform body w = done
  obtain ⟨result, w'⟩ := done
  cases result with
  | ok a => rfl
  | error exit => cases exit <;> rfl

lemma attempt_triple {α : Type} {body : Operation α} (h : Triple P body (fun _ => E) E) :
    Triple P (attempt body) (fun _ => E) E := by
  intro w p
  have done := h w p
  rw [perform_attempt]
  generalize perform body w = result at done ⊢
  obtain ⟨result, w'⟩ := result
  cases result with
  | ok a => exact done
  | error exit =>
    cases exit with
    | failed error => exact done
    | crashed => exact done

lemma withTemporary_triple {α : Type} {cleanup : Operation Unit} {body : Operation α}
    (h : Triple P body (fun _ => E) E) (clean : Triple E cleanup (fun _ => E) E) :
    Triple P (withTemporary cleanup body) (fun _ => E) E := by
  refine Triple.bind (attempt_triple h) fun result => Triple.bind clean fun _ => ?_
  exact liftExcept_triple (fun _ _ _ e => e) fun _ e => e

lemma ignore_triple {body : Operation Unit} (h : Triple P body (fun _ => E) E) :
    Triple P (ignore body) (fun _ => E) E :=
  Triple.bind (attempt_triple h) fun _ => Triple.pure fun _ e => e

lemma call_keeps (h : ∀ w n, P w → P { w with asked := n } ∧ P (change { w with asked := n })) :
    Triple P (call answers change) (fun _ => P) P :=
  call_triple h

end

/-! ### The invariant -/

/-- A name that no selection and no bundle has. -/
def Temporary (name : String) : Prop := ∃ rest, name.toList = '.' :: rest

lemma temporary_stageName (uuid : String) : Temporary (stageName uuid) :=
  ⟨_, String.toList_append⟩

lemma temporary_nextName (uuid : String) : Temporary (nextName uuid) :=
  ⟨_, String.toList_append⟩

lemma not_temporary_of_validDigest {name : String} (valid : validDigest name) : ¬ Temporary name := by
  intro temporary
  obtain ⟨rest, dot⟩ := temporary
  rw [not_validDigest_of_dot dot] at valid
  cases valid

lemma not_temporary_selectionPath (env : Env) (purpose : Purpose) (target : String) :
    ¬ Temporary (selectionPath env purpose target) := by
  intro temporary
  obtain ⟨rest, dot⟩ := temporary
  rw [selectionPath, String.toList_append, String.toList_append, String.toList_append] at dot
  cases purpose <;> cases dot

structure Inv (env : Env) (w : World) : Prop where
  rooted : w.bundles ≠ none ∨ w.selections ≠ none → 4 ≤ w.roots ∧ w.lockFile = true
  stored : ∀ target id tree, ¬ Temporary id → w.tree target id = some tree →
    ∃ manifest files, (manifest, files) ∈ w.published ∧ manifest.targetTriple = target ∧
      manifest.bundleId = id
  published : ∀ manifest files, (manifest, files) ∈ w.published → Sound env manifest files ∧
    ¬ Temporary manifest.bundleId ∧
    ∃ tree, w.tree manifest.targetTriple manifest.bundleId = some tree ∧ Holds env manifest files tree
  unique : ∀ manifest files manifest' files', (manifest, files) ∈ w.published →
    (manifest', files') ∈ w.published → manifest.targetTriple = manifest'.targetTriple →
    manifest.bundleId = manifest'.bundleId → manifest = manifest' ∧ files = files'
  chosen : ∀ purpose manifest, (purpose, manifest) ∈ w.chosen →
    (∃ files, (manifest, files) ∈ w.published) ∧
      (purpose = .local → localTarget env manifest.targetTriple)
  selection : ∀ purpose target, match lastChoice w.chosen purpose target with
    | none => w.selection (selectionPath env purpose target) = none
    | some manifest => ∃ bytes, w.selection (selectionPath env purpose target) = some bytes ∧
      env.selectionToVec ⟨manifest.bundleId, manifest.targetTriple⟩ = .ok bytes

namespace Inv
variable {env : Env} {w : World} {asked : Nat}

lemma initial (h : Initial w) : Inv env w := by
  obtain ⟨bundles, selections, published, chosen⟩ := h
  refine ⟨?_, ?_, ?_, ?_, ?_, ?_⟩
  · intro there
    rw [bundles, selections] at there
    simp at there
  · intro target id tree _ found
    rw [World.tree, bundles] at found
    cases found
  · intro manifest files mem
    rw [published] at mem
    cases mem
  · intro manifest files _ _ mem
    rw [published] at mem
    cases mem
  · intro purpose manifest mem
    rw [chosen] at mem
    cases mem
  · intro purpose target
    rw [chosen, World.selection, selections]
    rfl

lemma withBundles (inv : Inv env w) {bundles : Option (Table String (Table String Tree))} {roots : Nat}
    {lockFile : Bool} (rooted : bundles ≠ none ∨ w.selections ≠ none → 4 ≤ roots ∧ lockFile = true)
    (trees : ∀ target id, ¬ Temporary id →
      { w with bundles, roots, lockFile, asked : World }.tree target id = w.tree target id) :
    Inv env { w with bundles, roots, lockFile, asked } := by
  refine ⟨rooted, ?_, ?_, inv.unique, inv.chosen, inv.selection⟩
  · intro target id tree permanent found
    rw [trees target id permanent] at found
    exact inv.stored target id tree permanent found
  · intro manifest files mem
    obtain ⟨sound, permanent, tree, found, holds⟩ := inv.published manifest files mem
    refine ⟨sound, permanent, tree, ?_, holds⟩
    rw [trees _ _ permanent]
    exact found

lemma withSelections (inv : Inv env w) {selections : Option (Table String Bytes)}
    (rooted : selections ≠ none → 4 ≤ w.roots ∧ w.lockFile = true)
    (files : ∀ path, ¬ Temporary path →
      { w with selections, asked : World }.selection path = w.selection path) :
    Inv env { w with selections, asked } := by
  refine ⟨?_, inv.stored, inv.published, inv.unique, inv.chosen, ?_⟩
  · intro there
    cases there with
    | inl bundles => exact inv.rooted (.inl bundles)
    | inr selections => exact rooted selections
  · intro purpose target
    rw [files _ (not_temporary_selectionPath env purpose target)]
    exact inv.selection purpose target

lemma ask (inv : Inv env w) (n : Nat) : Inv env { w with asked := n } :=
  inv.withBundles inv.rooted fun _ _ _ => rfl

end Inv

/-! ### The steps before the lock and after it -/

section
variable {env : Env} {answers : Nat → Answer} {R : World → Prop}

/-- An assertion that does not depend on what `ensure_root` and the lock change. -/
def Indifferent (R : World → Prop) : Prop :=
  ∀ w roots lockFile asked, R w → R { w with roots, lockFile, asked }

lemma ensureRoot_triple (front : Indifferent R) :
    Triple (fun w => Inv env w ∧ R w) (ensureRoot answers)
      (fun _ w => Inv env w ∧ R w ∧ 4 ≤ w.roots) (fun w => Inv env w ∧ R w) := by
  have loop : Triple (fun w => (Inv env w ∧ R w) ∧ ([] : List Nat).length ≤ w.roots)
      (ensureRoot answers) (fun _ w => (Inv env w ∧ R w) ∧ (List.range 4).length ≤ w.roots)
      (fun w => Inv env w ∧ R w) := by
    apply Triple.forM (List.range 4) fun done w => (Inv env w ∧ R w) ∧ done.length ≤ w.roots
    intro done i rest split
    have index : i = done.length := by
      have there : (List.range 4)[done.length]? = some i := by
        rw [split, List.getElem?_append_right (Nat.le_refl _), Nat.sub_self, List.getElem?_cons_zero]
      obtain ⟨_, same⟩ := List.getElem?_eq_some_iff.1 there
      rw [List.getElem_range] at same
      exact same.symm
    have few : i < 4 := by
      have mem : i ∈ List.range 4 := split ▸ List.mem_append_right done List.mem_cons_self
      exact List.mem_range.1 mem
    apply Triple.getEqBind
    intro s before
    obtain ⟨⟨inv, r⟩, le⟩ := before
    split
    case isTrue create =>
      apply call_triple
      rintro w n rfl
      refine ⟨⟨inv.ask n, front w w.roots w.lockFile n r⟩, ⟨?_, front w (i + 1) w.lockFile n r⟩, ?_⟩
      · apply inv.withBundles
        · intro there
          have enough := (inv.rooted there).1
          omega
        · exact fun _ _ _ => rfl
      · rw [List.length_append, List.length_singleton, index]
    case isFalse there =>
      apply Triple.pure
      rintro _ rfl
      refine ⟨⟨inv, r⟩, ?_⟩
      rw [List.length_append, List.length_singleton]
      omega
  refine Triple.conseq (loop.pre fun w p => ⟨p, Nat.zero_le _⟩) ?_ fun _ e => e
  intro _ w p
  exact ⟨p.1.1, p.1.2, by simpa using p.2⟩

lemma acquireLock_triple (front : Indifferent R) :
    Triple (fun w => Inv env w ∧ R w ∧ 4 ≤ w.roots) (acquireLock answers)
      (fun _ w => Inv env w ∧ R w ∧ 4 ≤ w.roots ∧ w.lockFile = true) (fun w => Inv env w ∧ R w) := by
  apply call_triple
  intro w n p
  obtain ⟨inv, r, roots⟩ := p
  refine ⟨⟨inv.ask n, front w w.roots w.lockFile n r⟩, ?_, front w w.roots true n r, roots, rfl⟩
  exact inv.withBundles (fun _ => ⟨roots, rfl⟩) fun _ _ _ => rfl

end

/-! ### Publication -/

section
variable {env : Env} {answers : Nat → Answer} {chosen : List (Purpose × Manifest)} {manifest : Manifest}
  {stage : String} {w : World} {files : List (String × Bytes)}

/-- What every step of a publication keeps. -/
structure Kept (env : Env) (chosen : List (Purpose × Manifest)) (w : World) : Prop where
  inv : Inv env w
  chosen : w.chosen = chosen

lemma Kept.ask (kept : Kept env chosen w) (n : Nat) : Kept env chosen { w with asked := n } :=
  ⟨kept.inv.ask n, kept.chosen⟩

lemma Kept.modifyTree (kept : Kept env chosen w) (temporary : Temporary stage) (target : String) (f : Tree → Tree) :
    Kept env chosen (w.modifyTree target stage f) := by
  refine ⟨?_, kept.chosen⟩
  apply kept.inv.withBundles
  · intro there
    apply kept.inv.rooted
    apply there.imp_left
    intro bundles none
    rw [none] at bundles
    exact bundles rfl
  · intro target' id permanent
    exact World.tree_modifyTree_ne (fun same => permanent (by rw [same]; exact temporary)) ..

lemma Kept.modifyTarget (kept : Kept env chosen w) (temporary : Temporary stage) (target : String)
    (f : Table String Tree → Table String Tree)
    (others : ∀ names name, name ≠ stage → AList.lookup name (f names) = AList.lookup name names) :
    Kept env chosen (w.modifyTarget target f) := by
  refine ⟨?_, kept.chosen⟩
  apply kept.inv.withBundles
  · intro there
    apply kept.inv.rooted
    apply there.imp_left
    intro bundles none
    rw [none] at bundles
    exact bundles rfl
  · intro target' id permanent
    have ne : id ≠ stage := fun same => permanent (by rw [same]; exact temporary)
    by_cases same : target' = target
    · subst same
      show (w.modifyTarget target' f).tree target' id = _
      rw [World.tree_modifyTarget, World.tree_eq]
      exact congrArg _ (funext fun names => others names id ne)
    · exact World.tree_modifyTarget_ne same ..

structure Staged (env : Env) (chosen : List (Purpose × Manifest)) (manifest : Manifest) (stage : String)
    (files : List (String × Bytes)) (more : List String) (w : World) : Prop where
  kept : Kept env chosen w
  free : w.tree manifest.targetTriple manifest.bundleId = none
  there : ∃ tree, w.tree manifest.targetTriple stage = some tree ∧ Written manifest files more tree

structure Writing (env : Env) (chosen : List (Purpose × Manifest)) (manifest : Manifest) (stage : String)
    (files : List (String × Bytes)) (name : String) (node : Node) (w : World) : Prop where
  kept : Kept env chosen w
  free : w.tree manifest.targetTriple manifest.bundleId = none
  there : ∃ before tree, w.tree manifest.targetTriple stage = some tree ∧
    Written manifest files (parents name) before ∧ AList.lookup name before = none ∧
    ∀ k, AList.lookup k tree = if name = k then some node else AList.lookup k before

lemma Staged.ask {more : List String} (staged : Staged env chosen manifest stage files more w) (n : Nat) :
    Staged env chosen manifest stage files more { w with asked := n } :=
  ⟨staged.kept.ask n, staged.free, staged.there⟩

lemma Writing.ask {name : String} {node : Node} (writing : Writing env chosen manifest stage files name node w)
    (n : Nat) : Writing env chosen manifest stage files name node { w with asked := n } :=
  ⟨writing.kept.ask n, writing.free, writing.there⟩

lemma free_setNode (temporary : Temporary stage) (permanent : ¬ Temporary manifest.bundleId)
    (free : w.tree manifest.targetTriple manifest.bundleId = none) (f : Tree → Tree) :
    (w.modifyTree manifest.targetTriple stage f).tree manifest.targetTriple manifest.bundleId = none := by
  rw [World.tree_modifyTree_ne (fun same => permanent (by rw [same]; exact temporary))]
  exact free

section
variable (temporary : Temporary stage) (permanent : ¬ Temporary manifest.bundleId)
include temporary permanent

variable (files : List (String × Bytes))

lemma ensureDirectory_triple (more : List String) (name : String) :
    Triple (Staged env chosen manifest stage files more)
      (ensureDirectory answers manifest.targetTriple stage name)
      (fun _ => Staged env chosen manifest stage files (more ++ [name])) (Kept env chosen) := by
  apply Triple.getEqBind
  intro s staged
  obtain ⟨tree, there, written⟩ := staged.there
  have node : stageNode s manifest.targetTriple stage name = AList.lookup name tree := by
    rw [stageNode, there, Option.bind_some]
  generalize stageNode s manifest.targetTriple stage name = found at node
  subst node
  cases found : AList.lookup name tree with
  | none =>
    apply call_triple
    rintro w n rfl
    refine ⟨staged.kept.ask n, (staged.kept.ask n).modifyTree temporary .., ?_, ?_⟩
    · exact free_setNode temporary permanent (staged.ask n).free _
    · exact ⟨_, World.tree_setNode there name .dir n, written.addDir found⟩
  | some node =>
    apply liftExcept_triple
    · rintro _ dir w rfl
      cases node with
      | dir => exact ⟨staged.kept, staged.free, tree, there, written.addFound found⟩
      | file bytes executable => cases dir
    · rintro w rfl
      exact staged.kept

lemma setNode_triple (name : String) (node next : Node) :
    Triple (Writing env chosen manifest stage files name node)
      (call answers (setNode manifest.targetTriple stage name next))
      (fun _ => Writing env chosen manifest stage files name next) (Kept env chosen) := by
  apply call_triple
  intro w n writing
  obtain ⟨before, tree, there, written, free, lookup⟩ := writing.there
  refine ⟨writing.kept.ask n, (writing.kept.ask n).modifyTree temporary .., ?_, ?_⟩
  · exact free_setNode temporary permanent (writing.ask n).free _
  · refine ⟨before, _, World.tree_setNode there name next n, written, free, ?_⟩
    intro k
    rw [Table.lookup_insert, lookup]
    split <;> rfl

lemma write_triple (name : String) (bytes : Bytes) :
    Triple (Staged env chosen manifest stage files (parents name))
      (write answers manifest.targetTriple stage name bytes (executableIn manifest name))
      (fun _ => Staged env chosen manifest stage (files ++ [(name, bytes)]) []) (Kept env chosen) := by
  apply Triple.getEqBind
  intro s staged
  obtain ⟨tree, there, written⟩ := staged.there
  have node : stageNode s manifest.targetTriple stage name = AList.lookup name tree := by
    rw [stageNode, there, Option.bind_some]
  rw [node]
  have fresh : AList.lookup name tree = none → ∀ w n, w = s → Writing env chosen manifest stage files name
      (.file [] false) (setNode manifest.targetTriple stage name (.file [] false) { w with asked := n }) := by
    rintro free w n rfl
    refine ⟨(staged.kept.ask n).modifyTree temporary .., ?_, ?_⟩
    · exact free_setNode temporary permanent (staged.ask n).free _
    · exact ⟨tree, _, World.tree_setNode there name _ n, written, free, Table.lookup_insert tree name _⟩
  apply Triple.bind (Q := fun _ w => w = s ∧ AList.lookup name tree = none)
  · apply liftExcept_triple
    · intro _ free w same
      rw [reject_eq_ok] at free
      exact ⟨same, by simpa using free⟩
    · rintro w rfl
      exact staged.kept
  intro _
  apply Triple.bind (Q := fun _ => Writing env chosen manifest stage files name (.file [] false))
  · apply call_triple
    intro w n free
    exact ⟨free.1 ▸ staged.kept.ask n, fresh free.2 w n free.1⟩
  intro _
  apply Triple.bind (setNode_triple temporary permanent files name _ (.file bytes false))
  intro _
  have last : Triple (Writing env chosen manifest stage files name
      (.file bytes (executableIn manifest name))) (call answers id)
      (fun _ => Staged env chosen manifest stage (files ++ [(name, bytes)]) []) (Kept env chosen) := by
    apply call_triple
    intro w n writing
    obtain ⟨before, tree, there, written, free, lookup⟩ := writing.there
    refine ⟨writing.kept.ask n, writing.kept.ask n, (writing.ask n).free, tree, there, ?_⟩
    exact written.addFile free lookup
  dsimp only
  split
  case isTrue executable =>
    rw [executable] at last
    exact Triple.bind (setNode_triple temporary permanent files name _ (.file bytes true)) fun _ => last
  case isFalse plain =>
    rw [Bool.eq_false_iff.2 plain] at last
    exact last

lemma writeFile_triple (file : String × Bytes) :
    Triple (Staged env chosen manifest stage files [])
      (writeFile answers manifest manifest.targetTriple stage file)
      (fun _ => Staged env chosen manifest stage (files ++ [file]) []) (Kept env chosen) := by
  refine Triple.bind (Q := fun _ => Staged env chosen manifest stage files (parents file.1)) ?_ fun _ => ?_
  · apply Triple.forM (parents file.1) (Staged env chosen manifest stage files)
    intro done parent _ _
    exact ensureDirectory_triple temporary permanent files done parent
  · exact write_triple temporary permanent files file.1 file.2

lemma moveStage_inv {w : World} {files : Files} {tree : Tree} (kept : Kept env chosen w)
    (free : w.tree manifest.targetTriple manifest.bundleId = none)
    (there : w.tree manifest.targetTriple stage = some tree) (sound : Sound env manifest files)
    (holds : Holds env manifest files tree) : Kept env chosen (moveStage manifest files stage w) := by
  obtain ⟨inv, same⟩ := kept
  have tree_eq : ∀ target name, ¬ Temporary name → (moveStage manifest files stage w).tree target name =
      if manifest.targetTriple = target ∧ manifest.bundleId = name then some tree
      else w.tree target name := by
    intro target name lasting
    have ne : stage ≠ name := fun same => lasting (same ▸ temporary)
    show (w.modifyTarget manifest.targetTriple _).tree target name = _
    by_cases same : target = manifest.targetTriple
    · subst same
      rw [World.tree_eq] at there
      obtain ⟨names, found, stored⟩ := Option.bind_eq_some_iff.1 there
      rw [World.tree_modifyTarget, World.tree_eq, found, Option.bind_some, Option.bind_some, stored]
      dsimp only
      rw [Table.lookup_insert, Table.lookup_erase, if_neg ne]
      by_cases named : manifest.bundleId = name
      · rw [if_pos named, if_pos ⟨rfl, named⟩]
      · rw [if_neg named, if_neg fun both => named both.2]
    · rw [World.tree_modifyTarget_ne same, if_neg fun both => same both.1.symm]
  refine ⟨⟨?_, ?_, ?_, ?_, ?_, ?_⟩, same⟩
  · intro there'
    apply inv.rooted
    apply there'.imp_left
    intro bundles none
    rw [World.tree, none] at there
    cases there
  · intro target id tree' lasting found
    rw [tree_eq target id lasting] at found
    split at found
    case isTrue new => exact ⟨manifest, files, List.mem_cons_self, new⟩
    case isFalse =>
      obtain ⟨old, files', mem, place⟩ := inv.stored target id tree' lasting found
      exact ⟨old, files', List.mem_cons_of_mem _ mem, place⟩
  · intro manifest' files' mem
    cases List.mem_cons.1 mem with
    | inl new =>
      obtain ⟨rfl, rfl⟩ := Prod.mk.inj new
      refine ⟨sound, permanent, tree, ?_, holds⟩
      rw [tree_eq _ _ permanent, if_pos ⟨rfl, rfl⟩]
    | inr old =>
      obtain ⟨sound', permanent', tree', found, holds'⟩ := inv.published manifest' files' old
      refine ⟨sound', permanent', tree', ?_, holds'⟩
      rw [tree_eq _ _ permanent', if_neg, found]
      intro both
      rw [← both.1, ← both.2, free] at found
      cases found
  · intro m f m' f' mem mem' target id
    have old : ∀ m f, (m, f) ∈ w.published → m.targetTriple = manifest.targetTriple →
        m.bundleId = manifest.bundleId → False := by
      intro m f mem target id
      obtain ⟨_, _, tree', found, _⟩ := inv.published m f mem
      rw [target, id, free] at found
      cases found
    cases List.mem_cons.1 mem with
    | inl new =>
      obtain ⟨rfl, rfl⟩ := Prod.mk.inj new
      cases List.mem_cons.1 mem' with
      | inl new' => exact ⟨(Prod.mk.inj new').1.symm, (Prod.mk.inj new').2.symm⟩
      | inr old' => exact (old m' f' old' target.symm id.symm).elim
    | inr before =>
      cases List.mem_cons.1 mem' with
      | inl new' =>
        obtain ⟨rfl, rfl⟩ := Prod.mk.inj new'
        exact (old m f before target id).elim
      | inr before' => exact inv.unique m f m' f' before before' target id
  · intro purpose m mem
    obtain ⟨⟨files', mem'⟩, suited⟩ := inv.chosen purpose m mem
    exact ⟨⟨files', List.mem_cons_of_mem _ mem'⟩, suited⟩
  · exact inv.selection

lemma fillStage_triple {files : Files} (sound : Sound env manifest files) :
    Triple (fun w => Kept env chosen w ∧ w.tree manifest.targetTriple manifest.bundleId = none ∧
        (w.names manifest.targetTriple).isSome)
      (fillStage answers env manifest files stage) (fun _ => Kept env chosen) (Kept env chosen) := by
  refine Triple.bind (Q := fun _ => Staged env chosen manifest stage [] []) ?_ fun _ => ?_
  · apply call_triple
    intro w n before
    obtain ⟨kept, free, names⟩ := before
    obtain ⟨names, there⟩ := Option.isSome_iff_exists.1 names
    refine ⟨kept.ask n, (kept.ask n).modifyTarget temporary _ _ ?_, ?_, ?_⟩
    · intro names name ne
      rw [Table.lookup_insert, if_neg ne.symm]
    · have ne : stage ≠ manifest.bundleId := fun same => permanent (same ▸ temporary)
      rw [World.tree_eq] at free
      have names' : { w with asked := n : World }.names manifest.targetTriple = some names := there
      rw [World.tree_modifyTarget, names', Option.bind_some, Table.lookup_insert, if_neg ne]
      rw [there] at free
      exact free
    · have names' : { w with asked := n : World }.names manifest.targetTriple = some names := there
      refine ⟨∅, ?_, Written.empty manifest⟩
      rw [World.tree_modifyTarget, names', Option.bind_some, Table.lookup_insert, if_pos rfl]
  refine Triple.bind (Q := fun _ => Staged env chosen manifest stage files.toList []) ?_ fun _ => ?_
  · apply Triple.forM files.toList fun done => Staged env chosen manifest stage done []
    intro done file _ _
    exact writeFile_triple temporary permanent done file
  refine Triple.bind (Q := fun bytes w => Staged env chosen manifest stage files.toList [] w ∧
    env.toVec manifest = .ok bytes) ?_ fun bytes => ?_
  · apply liftExcept_triple
    · exact fun bytes encoded w staged => ⟨staged, other_eq_ok.1 encoded⟩
    · exact fun w staged => staged.kept
  have whole : Triple (Staged env chosen manifest stage files.toList [])
      (write answers manifest.targetTriple stage MANIFEST_FILE bytes false)
      (fun _ => Staged env chosen manifest stage (files.toList ++ [(MANIFEST_FILE, bytes)]) [])
      (Kept env chosen) := by
    have done : Triple (Staged env chosen manifest stage files.toList (parents MANIFEST_FILE))
      (write answers manifest.targetTriple stage MANIFEST_FILE bytes (executableIn manifest MANIFEST_FILE))
      (fun _ => Staged env chosen manifest stage (files.toList ++ [(MANIFEST_FILE, bytes)]) [])
      (Kept env chosen) := write_triple temporary permanent files.toList MANIFEST_FILE bytes
    rw [sound.manifest_plain, parents_manifest] at done
    exact done
  refine Triple.bind (Q := fun _ w => Staged env chosen manifest stage
    (files.toList ++ [(MANIFEST_FILE, bytes)]) [] w ∧ env.toVec manifest = .ok bytes) ?_ fun _ => ?_
  · intro w before
    refine Triple.conseq (P := fun v => v = w) (whole.pre ?_) ?_ (fun _ e => e) w rfl
    · rintro _ rfl
      exact before.1
    · exact fun _ _ staged => ⟨staged, before.2⟩
  refine Triple.bind (Q := fun _ w => Staged env chosen manifest stage
    (files.toList ++ [(MANIFEST_FILE, bytes)]) [] w ∧ env.toVec manifest = .ok bytes) ?_ fun _ => ?_
  · apply call_triple
    exact fun w n before => ⟨before.1.kept.ask n, before.1.ask n, before.2⟩
  refine Triple.bind (Q := fun _ => Kept env chosen) (call_triple fun w n before => ?_) fun _ => ?_
  · obtain ⟨staged, encoded⟩ := before
    obtain ⟨tree, there, written⟩ := (staged.ask n).there
    refine ⟨staged.kept.ask n, ?_⟩
    exact moveStage_inv temporary permanent (staged.kept.ask n) (staged.ask n).free there sound
      (Holds.of_written sound encoded written)
  refine Triple.bind (Q := fun _ => Kept env chosen) (call_keeps fun w n kept => ?_) fun _ => ?_
  · exact ⟨kept.ask n, kept.ask n⟩
  apply Triple.getBind
  intro w
  exact liftExcept_triple (fun _ _ _ kept => kept) fun _ kept => kept

omit permanent in
lemma removeStage_triple (target : String) :
    Triple (Kept env chosen) (removeStage answers target stage) (fun _ => Kept env chosen)
      (Kept env chosen) := by
  apply Triple.getBind
  intro w
  split
  case h_1 => exact Triple.pure fun _ kept => kept
  case h_2 tree there =>
    refine Triple.bind (Q := fun _ => Kept env chosen) ?_ fun _ => ?_
    · apply Triple.forM tree.keys fun _ => Kept env chosen
      intro _ name _ _
      exact call_keeps fun w n kept => ⟨kept.ask n, (kept.ask n).modifyTree temporary ..⟩
    · apply call_keeps
      intro w n kept
      refine ⟨kept.ask n, (kept.ask n).modifyTarget temporary _ _ fun names name ne => ?_⟩
      rw [Table.lookup_erase, if_neg ne.symm]

end

lemma isSome_of_not_isNone {α : Type} {o : Option α} (h : ¬ o.isNone) : o.isSome := by
  cases o with
  | none => exact (h rfl).elim
  | some a => rfl

lemma ensureBundles_triple :
    Triple (fun w => Inv env w ∧ w.chosen = chosen ∧ 4 ≤ w.roots ∧ w.lockFile = true)
      (ensureBundles answers) (fun _ w => Kept env chosen w ∧ w.bundles.isSome) (Kept env chosen) := by
  apply Triple.getEqBind
  intro s before
  obtain ⟨inv, same, roots, lock⟩ := before
  split
  case isTrue missing =>
    apply call_triple
    rintro w n rfl
    refine ⟨⟨inv.ask n, same⟩, ⟨?_, same⟩, rfl⟩
    apply inv.withBundles fun _ => ⟨roots, lock⟩
    intro target id _
    rw [World.tree, World.tree, Option.isNone_iff_eq_none.1 missing, Option.bind_some, AList.lookup_empty]
    rfl
  case isFalse present =>
    apply Triple.pure
    rintro w rfl
    exact ⟨⟨inv, same⟩, isSome_of_not_isNone present⟩

lemma ensureTarget_triple (target : String) :
    Triple (fun w => Kept env chosen w ∧ w.bundles.isSome) (ensureTarget answers target)
      (fun _ w => Kept env chosen w ∧ (w.names target).isSome) (Kept env chosen) := by
  apply Triple.getEqBind
  intro s before
  obtain ⟨kept, present⟩ := before
  obtain ⟨targets, there⟩ := Option.isSome_iff_exists.1 present
  split
  case isTrue missing =>
    have absent : s.names target = none := Option.isNone_iff_eq_none.1 missing
    apply call_triple
    rintro w n rfl
    have found : ∀ t, World.names { w with
        bundles := w.bundles.map (AList.insert target (∅ : Table String Tree)), asked := n } t =
        if target = t then some ∅ else w.names t := by
      intro t
      rw [World.names, World.names, there]
      exact Table.lookup_insert targets target ∅ t
    refine ⟨kept.ask n, ⟨?_, kept.chosen⟩, ?_⟩
    · apply kept.inv.withBundles
      · intro _
        apply kept.inv.rooted
        left
        rw [there]
        exact Option.some_ne_none targets
      · intro t id _
        rw [World.tree_eq, found, World.tree_eq]
        split
        case isTrue eq =>
          rw [← eq, absent, Option.bind_some, AList.lookup_empty]
          rfl
        case isFalse => rfl
    · rw [found, if_pos rfl]
      rfl
  case isFalse found =>
    apply Triple.pure
    rintro w rfl
    exact ⟨kept, isSome_of_not_isNone found⟩

lemma validDigest_of_validate (valid : manifest.validate env = .ok ()) (ok : env.Sound) :
    validDigest manifest.bundleId := by
  have identity := (validated valid).identity
  rw [Manifest.contentId, bind_eq_ok] at identity
  obtain ⟨bytes, _, same⟩ := identity
  rw [pure_eq_ok] at same
  rw [← same]
  exact ok.digest bytes

lemma Sound.permanent {files : Files} (sound : Sound env manifest files) (ok : env.Sound) :
    ¬ Temporary manifest.bundleId :=
  not_temporary_of_validDigest (validDigest_of_validate sound.valid ok)

theorem publish_triple (ok : env.Sound) (files : Files) (uuid : String) :
    Triple (Kept env chosen) (publish answers env manifest files uuid) (fun _ => Kept env chosen)
      (Kept env chosen) := by
  refine Triple.bind (Q := fun _ w => Kept env chosen w ∧ manifest.validate env = .ok ()) ?_ fun _ => ?_
  · exact liftExcept_triple (fun _ valid _ kept => ⟨kept, valid⟩) fun _ kept => kept
  refine Triple.bind (Q := fun _ w => Kept env chosen w ∧ Sound env manifest files) ?_ fun _ => ?_
  · apply liftExcept_triple
    · exact fun _ verified w before => ⟨before.1, before.2, verified⟩
    · exact fun _ before => before.1
  intro w before
  obtain ⟨kept, sound⟩ := before
  have permanent := sound.permanent ok
  have temporary := temporary_stageName uuid
  have front : Indifferent fun w => w.chosen = chosen := fun _ _ _ _ same => same
  suffices rest : Triple (Kept env chosen) _ (fun _ => Kept env chosen) (Kept env chosen) from
    rest w kept
  have error : ∀ w, Inv env w ∧ w.chosen = chosen → Kept env chosen w := fun _ e => ⟨e.1, e.2⟩
  refine Triple.bind (Triple.conseq ((ensureRoot_triple front).pre fun w kept => ⟨kept.inv, kept.chosen⟩)
    (fun _ _ p => p) error) fun _ => ?_
  refine Triple.bind (Triple.conseq (acquireLock_triple front) (fun _ _ p => p) error) fun _ => ?_
  refine Triple.bind ensureBundles_triple fun _ => ?_
  refine Triple.bind (ensureTarget_triple manifest.targetTriple) fun _ => ?_
  apply Triple.getEqBind
  intro s placed
  split
  case isTrue =>
    refine Triple.getBind fun _ => Triple.bind (Q := fun _ => Kept env chosen) ?_ fun _ => ?_
    · apply liftExcept_triple
      · rintro _ _ w rfl
        exact placed.1
      · rintro w rfl
        exact placed.1
    · refine Triple.bind (Q := fun _ => Kept env chosen) ?_ fun _ => Triple.pure fun _ kept => kept
      exact liftExcept_triple (fun _ _ _ kept => kept) fun _ kept => kept
  case isFalse absent =>
    apply withTemporary_triple
    · apply (fillStage_triple temporary permanent sound).pre
      rintro w rfl
      exact ⟨placed.1, by simpa using absent, placed.2⟩
    · exact ignore_triple (removeStage_triple temporary manifest.targetTriple)

end

end Ctl.Bundles
