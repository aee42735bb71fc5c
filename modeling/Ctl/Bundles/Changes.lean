import Ctl.Bundles.Selection

/-!
# Complete builds and explicit selections

After any calls, with any failures and crashes, the readers return complete builds and the build that
was selected last, and a build that is published again changes nothing. A selection is changed by a call
of `select`, or by a call of `select_if_unset` where there was none; the exception is `Overwrites`
(`selections_explicit`). On a GNU machine the selection of a GNU build is overwritten by a musl build
(`selections_overwritten`).
-/

namespace Ctl.Bundles
open Ctl.Base

section
variable {env : Env} {answers : Nat → Answer} {s : World}

/-! ### A build is published again -/

/-- Nothing has changed but the number of calls. -/
def Unchanged (s w : World) : Prop := ∃ n, w = { s with asked := n }

lemma call_unchanged {change : World → World}
    (same : ∀ n, change { s with asked := n } =
    { s with asked := n }) : Triple (Unchanged s) (call answers change) (fun _ => Unchanged s) (Unchanged s) := by
  apply call_triple
  rintro _ n ⟨_, rfl⟩
  exact ⟨⟨n, rfl⟩, n, same n⟩

lemma liftExcept_unchanged {α : Type} (r : Except IoError α) :
    Triple (Unchanged s) (liftExcept r) (fun _ => Unchanged s) (Unchanged s) :=
  liftExcept_triple (fun _ _ _ same => same) fun _ same => same

lemma ensureRoot_unchanged (roots : 4 ≤ s.roots) :
    Triple (Unchanged s) (ensureRoot answers) (fun _ => Unchanged s) (Unchanged s) := by
  apply Triple.forM (List.range 4) fun _ => Unchanged s
  intro done i rest split
  have few : i < 4 := by
    have mem : i ∈ List.range 4 := split ▸ List.mem_append_right done List.mem_cons_self
    exact List.mem_range.1 mem
  apply Triple.getEqBind
  rintro _ ⟨n, rfl⟩
  rw [if_neg (show ¬ s.roots ≤ i by omega)]
  apply Triple.pure
  rintro _ rfl
  exact ⟨n, rfl⟩

lemma publish_unchanged (inv : Inv env s) {manifest manifest' : Manifest} {files' : Files}
    (mem : (manifest', files') ∈ s.published) (target : manifest'.targetTriple = manifest.targetTriple)
    (id : manifest'.bundleId = manifest.bundleId) (files : Files) (uuid : String) :
    Triple (Unchanged s) (publish answers env manifest files uuid) (fun _ => Unchanged s)
      (Unchanged s) := by
  obtain ⟨_, _, tree, found, _⟩ := inv.published manifest' files' mem
  rw [target, id] at found
  obtain ⟨targets, bundles, rest⟩ := Option.bind_eq_some_iff.1 found
  obtain ⟨names, there, _⟩ := Option.bind_eq_some_iff.1 rest
  have rooted := inv.rooted (.inl (by rw [bundles]; exact Option.some_ne_none _))
  refine Triple.bind (liftExcept_unchanged _) fun _ => Triple.bind (liftExcept_unchanged _) fun _ => ?_
  refine Triple.bind (ensureRoot_unchanged rooted.1) fun _ => ?_
  refine Triple.bind (call_unchanged fun n => ?_) fun _ => ?_
  · rw [← rooted.2]
  refine Triple.bind (Q := fun _ => Unchanged s) ?_ fun _ => ?_
  · apply Triple.getEqBind
    rintro _ ⟨n, rfl⟩
    rw [if_neg (by rw [bundles]; exact Bool.false_ne_true)]
    apply Triple.pure
    rintro _ rfl
    exact ⟨n, rfl⟩
  refine Triple.bind (Q := fun _ => Unchanged s) ?_ fun _ => ?_
  · apply Triple.getEqBind
    rintro _ ⟨n, rfl⟩
    rw [if_neg (by rw [bundles, Option.bind_some, there]; exact Bool.false_ne_true)]
    apply Triple.pure
    rintro _ rfl
    exact ⟨n, rfl⟩
  apply Triple.getEqBind
  rintro _ ⟨n, rfl⟩
  have present : ({ s with asked := n } : World).tree manifest.targetTriple manifest.bundleId =
    some tree := found
  rw [present, Option.isSome_some, if_pos rfl]
  have here : ∀ w, w = ({ s with asked := n } : World) → Unchanged s w := fun w eq => ⟨n, eq⟩
  refine Triple.pre ?_ here
  refine Triple.getBind fun _ => Triple.bind (liftExcept_unchanged _) fun _ => ?_
  exact Triple.bind (liftExcept_unchanged _) fun _ => Triple.pure fun _ same => same

end

/-! ### Steps and runs -/

/-- A call of `select_if_unset` that overwrites a selection. -/
def Action.Overwrites (env : Env) (w : World) : Action → Prop
  | .selectIfUnset purpose bundle _ => Bundles.Overwrites env w.chosen purpose bundle
  | _ => False

/-- What a call leaves. -/
structure Left (env : Env) (w : World) (action : Action) (w' : World) : Prop where
  inv : Inv env w'
  chosen : w'.chosen = w.chosen ∨ ∃ purpose bundle uuid,
    w'.chosen = (purpose, bundle.manifest) :: w.chosen ∧ (action = .select purpose bundle uuid ∨
      action = .selectIfUnset purpose bundle uuid ∧
        (lastChoice w.chosen purpose bundle.manifest.targetTriple = none ∨ action.Overwrites env w))

section
variable {env : Env} {w w' : World} {s : Step}

lemma perform_after {α : Type} {P E : World → Prop} {x : Operation α} {w : World} (h : Triple P x (fun _ => E) E)
    (p : P w) : E (perform x w).2 := by
  have done := h w p
  generalize perform x w = result at done ⊢
  obtain ⟨result, w'⟩ := result
  cases result with
  | ok a => exact done
  | error exit => exact done

lemma Inv.left (inv : Inv env w) (ok : env.Sound) (h : step env w s = some w') : Left env w s.action w' := by
  obtain ⟨action, answers⟩ := s
  rw [step] at h
  split at h
  case isFalse => cases h
  case isTrue =>
    obtain rfl := Option.some.inj h
    cases action with
    | publish manifest files uuid =>
      have kept : Kept env w.chosen (perform (publish answers env manifest files uuid)
          { w with asked := 0 }).2 :=
        perform_after (publish_triple ok files uuid) ⟨inv.ask 0, rfl⟩
      exact ⟨kept.inv, .inl kept.chosen⟩
    | select purpose bundle uuid =>
      have chosen : Chosen env w.chosen purpose bundle false
          (perform (select answers env purpose bundle false uuid) { w with asked := 0 }).2 :=
        perform_after (select_triple ok bundle false uuid) ⟨inv.ask 0, rfl⟩
      refine ⟨chosen.inv, chosen.chosen.imp_right fun new => ?_⟩
      exact ⟨purpose, bundle, uuid, new.1, .inl rfl⟩
    | selectIfUnset purpose bundle uuid =>
      have read : Triple (Chosen env w.chosen purpose bundle true)
          (do
            let found ← liftExcept (Bundles.selected env (← MonadState.get) purpose
              bundle.manifest.targetTriple)
            liftExcept (orError found (invalid "component selection disappeared")))
          (fun _ => Chosen env w.chosen purpose bundle true)
          (Chosen env w.chosen purpose bundle true) := by
        refine Triple.getBind fun _ => Triple.bind (Q := fun _ => Chosen env w.chosen purpose bundle true)
          ?_ fun _ => ?_
        · exact liftExcept_triple (fun _ _ _ chosen => chosen) fun _ chosen => chosen
        · exact liftExcept_triple (fun _ _ _ chosen => chosen) fun _ chosen => chosen
      have chosen : Chosen env w.chosen purpose bundle true
          (perform (selectIfUnset answers env purpose bundle uuid) { w with asked := 0 }).2 :=
        perform_after (Triple.bind (select_triple ok bundle true uuid) fun _ => read) ⟨inv.ask 0, rfl⟩
      refine ⟨chosen.inv, chosen.chosen.imp_right fun new => ?_⟩
      exact ⟨purpose, bundle, uuid, new.1, .inr ⟨rfl, new.2 rfl⟩⟩

lemma inv_of_reachable (ok : env.Sound) (reached : Reachable (step env) Initial w) : Inv env w :=
  Reachable.invariant (Inv env) (fun _ => Inv.initial) (fun _ _ _ inv h => (inv.left ok h).inv) reached

end

lemma lastChoice_congr (chosen : List (Purpose × Manifest)) {purpose : Purpose} {target target' : String}
    (same : purpose = .local ∨ target = target') :
    lastChoice chosen purpose target = lastChoice chosen purpose target' := by
  cases same with
  | inl isLocal => simp [lastChoice, isLocal]
  | inr eq => rw [eq]

/-- What the readers return in a state. -/
structure Reads (env : Env) (w : World) : Prop where
  get : ∀ target id bundle, get env w target id = .ok bundle → Complete env w bundle
  list : ∀ target bundles, list env w target = .ok bundles → ∀ bundle ∈ bundles, Complete env w bundle
  selected : ∀ purpose target, validateTarget env target = .ok () →
    selected env w purpose target = .ok (lastSelected env w purpose target)
  complete : ∀ purpose target bundle, Bundles.selected env w purpose target = .ok (some bundle) →
    Complete env w bundle

structure Explicit (env : Env) (w : World) (action : Action) (w' : World) : Prop where
  /-- A build that is published again changes nothing. -/
  again : ∀ manifest files uuid, action = .publish manifest files uuid →
    (∃ manifest' files', (manifest', files') ∈ w.published ∧
      manifest'.targetTriple = manifest.targetTriple ∧ manifest'.bundleId = manifest.bundleId) →
    Unchanged w w'
  /-- A selection is changed by a call that names another bundle for it, and it is changed by
      `select_if_unset` only where there was none. -/
  changed : ∀ purpose target, w'.selection (selectionPath env purpose target) ≠
      w.selection (selectionPath env purpose target) → ∃ bundle uuid,
    lastChoice w'.chosen purpose target = some bundle.manifest ∧
      lastChoice w.chosen purpose target ≠ some bundle.manifest ∧
      (action = .select purpose bundle uuid ∨ action = .selectIfUnset purpose bundle uuid ∧
        lastChoice w.chosen purpose target = none)

section
variable {env : Env} {w w' : World} {s : Step}

lemma Inv.reads (inv : Inv env w) (ok : env.Sound) : Reads env w := by
  refine ⟨fun _ _ _ => inv.get_complete ok, fun _ _ => inv.list_complete ok,
    fun purpose _ valid => inv.selected ok valid purpose, ?_⟩
  intro purpose target bundle h
  have valid : validateTarget env target = .ok () := by
    rw [Bundles.selected, check_eq_ok] at h
    exact h.1
  rw [inv.selected ok valid] at h
  obtain ⟨manifest, last, found⟩ := Option.bind_eq_some_iff.1 (Except.ok.inj h)
  obtain ⟨⟨files, mem⟩, _⟩ := inv.chosen purpose manifest (mem_lastChoice last).1
  split at found
  case isTrue =>
    obtain rfl := Option.some.inj found
    exact inv.complete_published mem
  case isFalse => cases found

lemma Inv.selection_congr (inv : Inv env w) (inv' : Inv env w') {purpose : Purpose} {target : String}
    (same : lastChoice w'.chosen purpose target = lastChoice w.chosen purpose target) :
    w'.selection (selectionPath env purpose target) = w.selection (selectionPath env purpose target) := by
  have old := inv.selection purpose target
  have new := inv'.selection purpose target
  rw [same] at new
  cases last : lastChoice w.chosen purpose target with
  | none =>
    rw [last] at old new
    rw [old, new]
  | some manifest =>
    rw [last] at old new
    obtain ⟨bytes, stored, encoded⟩ := old
    obtain ⟨bytes', stored', encoded'⟩ := new
    rw [stored, stored', Except.ok.inj (encoded'.symm.trans encoded)]

lemma Inv.explicit (inv : Inv env w) (ok : env.Sound) (h : step env w s = some w')
    (allowed : ¬ s.action.Overwrites env w) : Explicit env w s.action w' := by
  have left := inv.left ok h
  refine ⟨?_, ?_⟩
  · rintro manifest files uuid published ⟨manifest', files', mem, target, id⟩
    obtain ⟨action, answers⟩ := s
    obtain rfl : action = _ := published
    rw [step] at h
    split at h
    case isFalse => cases h
    case isTrue =>
      obtain rfl := Option.some.inj h
      exact perform_after (publish_unchanged inv mem target id files uuid) ⟨0, rfl⟩
  · intro purpose target changed
    cases left.chosen with
    | inl same => exact (changed (inv.selection_congr left.inv (by rw [same]))).elim
    | inr new =>
      obtain ⟨purpose', bundle, uuid, chosen, cause⟩ := new
      have last := lastChoice_cons w.chosen purpose' bundle.manifest purpose target
      rw [← chosen] at last
      by_cases own : purpose' = purpose ∧ (purpose' = .local ∨ bundle.manifest.targetTriple = target)
      · rw [if_pos own] at last
        obtain ⟨rfl, suited⟩ := own
        refine ⟨bundle, uuid, last, ?_, cause.imp_right ?_⟩
        · intro before
          exact changed (inv.selection_congr left.inv (last.trans before.symm))
        · rintro ⟨named, unset⟩
          rw [lastChoice_congr w.chosen suited] at unset
          exact ⟨named, unset.resolve_right allowed⟩
      · rw [if_neg own] at last
        exact (changed (inv.selection_congr left.inv last)).elim

end

/-- **The store keeps complete builds and explicit selections**, for the calls that do not overwrite a
    selection. -/
theorem selections_explicit (env : Env) (ok : env.Sound) {w : World} (reached : Reachable (step env) Initial w) :
    Reads env w ∧ ∀ s w', step env w s = some w' → ¬ s.action.Overwrites env w →
      Explicit env w s.action w' := by
  have inv := inv_of_reachable ok reached
  exact ⟨inv.reads ok, fun s w' h allowed => inv.explicit ok h allowed⟩

/-! ### A GNU machine -/

def sampleProtocols : List (String × List String) := [
  ("ctl-agent", ["ctld", "ctmux", "ctmux_control", "task", "task_control"]),
  ("ctl-taskd", ["ctmux", "ctmux_control", "task", "task_control"]),
  ("ctld", ["ctld"]),
  ("ctmuxd", ["ctmux", "ctmux_control"])]

def sampleBuild : ComponentBuildInfo :=
  ⟨"0.1.0", some "aaaaaaaaaaaaaaaaaaaaaaaaaaaaaaaaaaaaaaaa",
    "bbbbbbbbbbbbbbbbbbbbbbbbbbbbbbbbbbbbbbbbbbbbbbbbbbbbbbbbbbbbbbbb", false⟩

def sampleComponent (names : List String) : ComponentInfo :=
  ⟨sampleBuild, names.map fun name => ⟨name, 1, ⟨1, 0, 1⟩, [⟨1, 0, 1⟩]⟩⟩

def tableOf {V : Type} (entries : List (String × V)) : OrdMap String V :=
  entries.foldl (fun table entry => table.insert entry.1 entry.2) ∅

def sampleManifest (id target sha256 : String) : Manifest where
  schemaVersion := 1
  bundleId := id
  targetTriple := target
  source := .ci
  distributionId := none
  components := tableOf (sampleProtocols.map fun (name, protocols) => (name, sampleComponent protocols))
  files := tableOf (SERVICES.map fun name => (name, ⟨sha256, true⟩))

def sampleFiles (byte : UInt8) : Files :=
  tableOf (SERVICES.map fun name => (name, List.replicate 8 byte))

def bytesOf (parts : List String) : Bytes := parts.flatMap (·.toUTF8.data.toList)

def protocolJson (name : String) : List String :=
  ["\x7b\"name\":\"", name, "\",\"build\":1,\"version\":\"1.0.1\",\"supported_versions\":[\"1.0.1\"]\x7d"]

def componentJson : String × List String → List String
  | (name, protocols) =>
    ["\"", name, "\":\x7b\"build\":\x7b\"version\":\"0.1.0\",\"source_revision\":\"",
      "aaaaaaaaaaaaaaaaaaaaaaaaaaaaaaaaaaaaaaaa\",\"source_fingerprint\":\"",
      "bbbbbbbbbbbbbbbbbbbbbbbbbbbbbbbbbbbbbbbbbbbbbbbbbbbbbbbbbbbbbbbb\",\"dirty\":false\x7d,\"protocols\":["] ++
      [","].intercalate (protocols.map protocolJson) ++ ["]\x7d"]

def fileJson (sha256 name : String) : List String :=
  ["\"", name, "\":\x7b\"sha256\":\"", sha256, "\",\"executable\":true\x7d"]

def sampleJson (id target sha256 : String) : Bytes :=
  bytesOf (["\x7b\"schema_version\":1,\"bundle_id\":\"", id, "\",\"target_triple\":\"", target,
    "\",\"source\":\"ci\",\"components\":\x7b"] ++
    [","].intercalate (sampleProtocols.map componentJson) ++ ["\x7d,\"files\":\x7b"] ++
    [","].intercalate (sampleProtocols.map fun (name, _) => fileJson sha256 name) ++ ["\x7d\x7d"])

def gnuTarget : String := "x86_64-unknown-linux-gnu"
def muslTarget : String := "x86_64-unknown-linux-musl"

def gnuDigest : String := "04abc8821a06e5a30937967d11ad10221cb5ac3b5273e434f1284ee87129a061"
def muslDigest : String := "10ae0fdbf8c4f1f2b5e708fd7478abd2bf03b190edc878dc62ada645aa7e0310"

def gnuId : String := "9ae00b2eed99db1e41bde8332ba33b19a866767027e422a0427a35fe945f20a5"
def muslId : String := "0b681e87d97392534ded99e9dbb9d3d80bb7944e9f9dc2e9dcdc0734029fbf4d"

/-- The builds with their JSON; their content IDs are the digests of the JSON without an ID. -/
def samples : List (Manifest × Bytes) :=
  [(gnuId, gnuTarget, gnuDigest), ("", gnuTarget, gnuDigest), (muslId, muslTarget, muslDigest),
    ("", muslTarget, muslDigest)].map fun (id, target, sha256) =>
      (sampleManifest id target sha256, sampleJson id target sha256)

def sampleSelections : List (Selection × Bytes) :=
  [(gnuId, gnuTarget), (muslId, muslTarget)].map fun (id, target) =>
    (⟨id, target⟩, bytesOf ["\x7b\"bundle_id\":\"", id, "\",\"target_triple\":\"", target, "\"\x7d"])

def known {A B : Type} (table : List (A × B)) (p : A → Bool) : Except String B :=
  match table.find? (p ·.1) with
  | some entry => .ok entry.2
  | none => .error "expected value at line 1 column 1"

lemma known_eq_ok {A B : Type} {table : List (A × B)} {p : A → Bool} {b : B} (h : known table p = .ok b) :
    ∃ a, (a, b) ∈ table ∧ p a := by
  rw [known] at h
  split at h
  case h_1 entry found =>
    obtain rfl := Except.ok.inj h
    have met := List.find?_some found
    exact ⟨entry.1, List.mem_of_find?_eq_some found, met⟩
  case h_2 => cases h

/-- The other libraries on a GNU machine, at these builds. Their JSON differs in its length. -/
def gnuEnv : Env where
  nativeTarget := gnuTarget
  digest bytes :=
    match bytes.length with
    | 8 => if bytes.head? = some 1 then gnuDigest else muslDigest
    | 2355 => gnuId
    | 2356 => muslId
    | _ => "0000000000000000000000000000000000000000000000000000000000000000"
  toVec manifest := known samples (· = manifest)
  fromSlice bytes := known (samples.map Prod.swap) (·.length = bytes.length)
  selectionToVec selection := known sampleSelections (· = selection)
  selectionFromSlice bytes := known (sampleSelections.map Prod.swap) (·.length = bytes.length)

lemma samples_read : (∀ sample ∈ samples, gnuEnv.fromSlice sample.2 = .ok sample.1) ∧
    (∀ sample ∈ sampleSelections, gnuEnv.selectionFromSlice sample.2 = .ok sample.1 ∧ sample.2.length ≤ 1024) ∧
    ∀ value ∈ [gnuDigest, muslDigest, gnuId, muslId,
      "0000000000000000000000000000000000000000000000000000000000000000"], validDigest value := by
  decide +kernel

lemma gnuEnv_sound : gnuEnv.Sound := by
  refine ⟨?_, ?_, ?_, ?_⟩
  · intro bytes
    show validDigest (match bytes.length with | 8 => _ | 2355 => _ | 2356 => _ | _ => _)
    have valid := samples_read.2.2
    split
    case h_1 =>
      split
      · exact valid _ (.head _)
      · exact valid _ (.tail _ (.head _))
    case h_2 => exact valid _ (.tail _ (.tail _ (.head _)))
    case h_3 => exact valid _ (.tail _ (.tail _ (.tail _ (.head _))))
    case h_4 => exact valid _ (.tail _ (.tail _ (.tail _ (.tail _ (.head _)))))
  · intro manifest bytes _ encoded
    have listed : known samples (· = manifest) = .ok bytes := encoded
    obtain ⟨manifest', mem, same⟩ := known_eq_ok listed
    obtain rfl := of_decide_eq_true same
    have read := samples_read.1 (manifest', bytes) mem
    exact read
  · intro selection bytes encoded
    have listed : known sampleSelections (· = selection) = .ok bytes := encoded
    obtain ⟨selection', mem, same⟩ := known_eq_ok listed
    obtain rfl := of_decide_eq_true same
    exact (samples_read.2.1 _ mem).1
  · intro selection bytes _ _ encoded
    have listed : known sampleSelections (· = selection) = .ok bytes := encoded
    obtain ⟨selection', mem, same⟩ := known_eq_ok listed
    exact (samples_read.2.1 _ mem).2

def unused : World := ⟨1, false, none, none, [], [], 0⟩

def calm : Nat → Answer := fun _ => .done

def gnuManifest : Manifest := sampleManifest gnuId gnuTarget gnuDigest
def muslManifest : Manifest := sampleManifest muslId muslTarget muslDigest

def selecting : List Step := [
  ⟨.publish gnuManifest (sampleFiles 1) "35b2c07e-5c7e-4f0e-9a53-1f4c5d0e8a11", calm⟩,
  ⟨.publish muslManifest (sampleFiles 2) "b7f6a1d2-0c3e-4a55-8f0d-6e2b9c4d7f22", calm⟩,
  ⟨.select .local (storedBundle gnuManifest) "0d9e8c7b-6a5f-4e3d-8c2b-1a0f9e8d7c33", calm⟩]

def initializing : Step :=
  ⟨.selectIfUnset .local (storedBundle muslManifest) "4c3b2a19-0877-4665-9544-332211009f44", calm⟩

lemma run_selecting : (exec (step gnuEnv) unused selecting).any fun w =>
    (lastChoice w.chosen .local muslTarget).isSome && (step gnuEnv w initializing).any fun w' =>
      decide (w'.selection (selectionPath gnuEnv .local muslTarget) ≠
        w.selection (selectionPath gnuEnv .local muslTarget)) := by
  decide +kernel

/-- The store of a GNU machine after the selection of the GNU build, which a call of `select` may change. -/
theorem selections_explicit_gnu : ∃ w, exec (step gnuEnv) unused selecting = some w ∧ Reads gnuEnv w ∧
    ∀ uuid answers w', step gnuEnv w ⟨.select .local (storedBundle muslManifest) uuid, answers⟩ = some w' →
      Explicit gnuEnv w (.select .local (storedBundle muslManifest) uuid) w' := by
  obtain ⟨w, run, _⟩ := (Option.any_eq_true _ _).1 run_selecting
  have reached : Reachable (step gnuEnv) Initial w :=
    Reachable.exec (.start ⟨rfl, rfl, rfl, rfl⟩) _ run
  have kept := selections_explicit gnuEnv gnuEnv_sound reached
  exact ⟨w, run, kept.1, fun uuid answers w' h => kept.2 ⟨_, answers⟩ w' h id⟩

/-- `select_if_unset` of a musl build overwrites the selection of a GNU build. -/
theorem selections_overwritten : ¬ ∀ (env : Env) (w : World), env.Sound →
    Reachable (step env) Initial w → ∀ s w', step env w s = some w' → Explicit env w s.action w' := by
  intro claim
  obtain ⟨w, run, last⟩ := (Option.any_eq_true _ _).1 run_selecting
  rw [Bool.and_eq_true] at last
  obtain ⟨set, changed⟩ := last
  obtain ⟨w', h, changed⟩ := (Option.any_eq_true _ _).1 changed
  have reached : Reachable (step gnuEnv) Initial w :=
    Reachable.exec (.start ⟨rfl, rfl, rfl, rfl⟩) _ run
  have explicit := claim gnuEnv w gnuEnv_sound reached initializing w' h
  obtain ⟨bundle, uuid, _, _, cause⟩ := explicit.changed .local muslTarget (of_decide_eq_true changed)
  cases cause with
  | inl select => cases select
  | inr unset =>
    rw [unset.2] at set
    cases set

end Ctl.Bundles
