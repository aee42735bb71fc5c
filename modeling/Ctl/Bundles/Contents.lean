import Ctl.Bundles.Filesystem

/-!
# Complete bundle directories

`Holds` says that a directory holds exactly the files of a build and its manifest. Such a directory is
loaded (`load_of_holds`), and `Written` describes it while it is filled.
-/

namespace Ctl.Bundles
open Ctl.Base

/-- What the model relies on: a digest is written in hexadecimal digits, `serde_json` reads back what it
    has written, and the JSON of a selection is short. -/
structure Env.Sound (env : Env) : Prop where
  digest : ∀ bytes, validDigest (env.digest bytes)
  manifest : ∀ manifest bytes, manifest.validate env = .ok () → env.toVec manifest = .ok bytes →
    env.fromSlice bytes = .ok manifest
  selection : ∀ selection bytes, env.selectionToVec selection = .ok bytes →
    env.selectionFromSlice bytes = .ok selection
  selectionSize : ∀ selection bytes, validDigest selection.bundleId →
    selection.targetTriple.utf8ByteSize ≤ 128 → env.selectionToVec selection = .ok bytes →
    bytes.length ≤ 1024

/-! ### Names -/

variable {name : String} {error : IoError} {w : World} {tree : Tree}

lemma mem_parents {parent : String} (mem : parent ∈ parents name) : (parent ++ "/").toList <+: name.toList := by
  obtain ⟨k, _, found⟩ := List.mem_filterMap.1 mem
  split at found
  case isFalse => cases found
  case isTrue slash =>
    obtain rfl := Option.some.inj found
    rw [String.toList_append, String.toList_ofList]
    have next : name.toList.take k ++ "/".toList = name.toList.take (k + 1) := by
      rw [List.take_add_one, slash]
      rfl
    rw [next]
    exact List.take_prefix ..

lemma size_le_of_prefix {left right : String} (h : left.toList <+: right.toList) :
    left.utf8ByteSize ≤ right.utf8ByteSize := by
  obtain ⟨rest, same⟩ := h
  have whole : right = left ++ String.ofList rest := by
    rw [← String.toList_inj, String.toList_append, String.toList_ofList, same]
  rw [whole, String.utf8ByteSize_append]
  exact Nat.le_add_right _ _

lemma not_validDigest_of_dot {rest : List Char} (dot : name.toList = '.' :: rest) : validDigest name = false := by
  rw [validDigest, dot, List.all_cons]
  simp

/-! ### Builds that may be published -/

structure Validated (env : Env) (manifest : Manifest) : Prop where
  target : validateTarget env manifest.targetTriple = .ok ()
  files : ∃ layout, ∀ name ∈ manifest.files.keys, safeFile name layout
  bytes : ∃ bytes, env.toVec manifest = .ok bytes ∧ bytes.length ≤ MAX_MANIFEST_BYTES
  identity : manifest.contentId env = .ok manifest.bundleId

lemma other_eq_ok {α : Type} {x : Except String α} {a : α} : other x = .ok a ↔ x = .ok a := by
  rw [other, mapError_eq_ok]

lemma reject_eq_ok {wrong : Bool} : reject wrong error = .ok () ↔ wrong = false := by
  rw [reject]
  cases wrong <;> simp

lemma orError_eq_ok {α : Type} {value : Option α} {a : α} : orError value error = .ok a ↔ value = some a := by
  cases value <;> simp [orError]

variable {env : Env} {manifest : Manifest} {files : Files}

lemma validated (h : manifest.validate env = .ok ()) : Validated env manifest := by
  rw [Manifest.validate, check_eq_ok] at h
  obtain ⟨target, h⟩ := h
  obtain ⟨layout, managed, h⟩ := bind_eq_ok.1 h
  obtain ⟨bytes, encoded, h⟩ := bind_eq_ok.1 h
  rw [check_eq_ok, reject_eq_ok, Bool.or_eq_false_iff, decide_eq_false_iff_not, Nat.not_lt] at h
  obtain ⟨size, h⟩ := h
  obtain ⟨contentId, identity, h⟩ := bind_eq_ok.1 h
  rw [check_eq_ok, reject_eq_ok] at h
  simp only [Bool.or_eq_false_iff, decide_eq_false_iff_not, not_not, List.any_eq_false,
    Bool.not_eq_true', Bool.not_eq_false] at h
  refine ⟨target, ⟨layout, ?_⟩, ⟨bytes, other_eq_ok.1 encoded, size.1⟩, ?_⟩
  · exact h.1.1.1.1.2
  · rw [h.1.1.1.1.1.1.1]
    exact identity

structure Sound (env : Env) (manifest : Manifest) (files : Files) : Prop where
  valid : manifest.validate env = .ok ()
  verified : manifest.verifyFiles env files = .ok ()

namespace Sound
variable {env : Env} {manifest : Manifest} {files : Files}

lemma verifyFile_ok (sound : Sound env manifest files) :
    files.size = manifest.files.size ∧
      ∃ total, manifest.files.toList.foldlM (Manifest.verifyFile env files) 0 = .ok total := by
  have h := sound.verified
  rw [Manifest.verifyFiles, check_eq_ok, reject_eq_ok] at h
  obtain ⟨total, loop, _⟩ := bind_eq_ok.1 h.2
  exact ⟨by simpa using h.1, total, loop⟩

end Sound

lemma verifyFile_eq_ok {total next : Nat} {entry : String × FileInfo} :
    Manifest.verifyFile env files total entry = .ok next ↔ ∃ bytes, files[entry.1]? = some bytes ∧
      bytes.isEmpty = false ∧ bytes.length ≤ MAX_FILE_BYTES ∧ total + bytes.length ≤ MAX_TOTAL_BYTES ∧
      env.digest bytes = entry.2.sha256 ∧ next = total + bytes.length := by
  rw [Manifest.verifyFile, bind_eq_ok]
  constructor
  · intro h
    obtain ⟨bytes, found, h⟩ := h
    rw [check_eq_ok, reject_eq_ok, pure_eq_ok] at h
    simp only [Bool.or_eq_false_iff, decide_eq_false_iff_not, Nat.not_lt, not_not] at h
    exact ⟨bytes, orError_eq_ok.1 found, h.1.1.1.1, h.1.1.1.2, h.1.1.2, h.1.2, h.2.symm⟩
  · intro h
    obtain ⟨bytes, found, some, small, fits, digest, rfl⟩ := h
    refine ⟨bytes, orError_eq_ok.2 found, ?_⟩
    rw [check_eq_ok, reject_eq_ok, pure_eq_ok]
    simp only [Bool.or_eq_false_iff, decide_eq_false_iff_not, Nat.not_lt, not_not]
    exact ⟨⟨⟨⟨some, small⟩, fits⟩, digest⟩, trivial⟩

lemma foldlM_ok_of_mem {α β : Type} {f : β → α → Except IoError β} {xs : List α} {b c : β} (h : xs.foldlM f b = .ok c)
    {x : α} (mem : x ∈ xs) : ∃ s t, f s x = .ok t := by
  induction xs generalizing b with
  | nil => cases mem
  | cons y ys ih =>
    rw [List.foldlM_cons] at h
    obtain ⟨d, first, rest⟩ := bind_eq_ok.1 h
    cases mem with
    | head => exact ⟨b, d, first⟩
    | tail _ mem => exact ih rest mem

lemma foldlM_ok_mono {α β : Type} {f g : β → α → Except IoError β} {xs : List α} {b c : β} (h : xs.foldlM f b = .ok c)
    (step : ∀ x ∈ xs, ∀ s t, f s x = .ok t → g s x = .ok t) : xs.foldlM g b = .ok c := by
  induction xs generalizing b with
  | nil => exact h
  | cons y ys ih =>
    rw [List.foldlM_cons] at h ⊢
    obtain ⟨d, first, rest⟩ := bind_eq_ok.1 h
    apply bind_eq_ok.2
    refine ⟨d, step y List.mem_cons_self b d first, ih rest ?_⟩
    exact fun x mem => step x (List.mem_cons_of_mem y mem)

namespace Sound
variable {env : Env} {manifest : Manifest} {files : Files} {name : String}

lemma mem_keys (sound : Sound env manifest files) : name ∈ files.keys ↔ name ∈ manifest.files.keys := by
  obtain ⟨size, total, loop⟩ := sound.verifyFile_ok
  have sub : ∀ name ∈ manifest.files.keys, name ∈ files.keys := by
    intro name mem
    obtain ⟨info, found⟩ := OrdMap.mem_keys.1 mem
    obtain ⟨s, t, verified⟩ :=
      foldlM_ok_of_mem loop (Std.ExtTreeMap.mem_toList_iff_getElem?_eq_some.2 found)
    obtain ⟨bytes, given, _⟩ := verifyFile_eq_ok.1 verified
    exact OrdMap.mem_keys.2 ⟨bytes, given⟩
  exact ⟨OrdMap.mem_keys_of_size sub size, sub name⟩

lemma safe (sound : Sound env manifest files) : ∃ layout, ∀ name ∈ files.keys, safeFile name layout := by
  obtain ⟨layout, safe⟩ := (validated sound.valid).files
  exact ⟨layout, fun name mem => safe name (sound.mem_keys.1 mem)⟩

lemma manifest_not_mem (sound : Sound env manifest files) : MANIFEST_FILE ∉ files.keys := by
  intro mem
  obtain ⟨layout, safe⟩ := sound.safe
  have named := safe _ mem
  cases layout <;> exact absurd named (by decide +kernel)

lemma size_le (sound : Sound env manifest files) (mem : name ∈ files.keys) : name.utf8ByteSize ≤ 512 := by
  obtain ⟨layout, safe⟩ := sound.safe
  have named := safe name mem
  rw [safeFile, Bool.and_eq_true, Bool.and_eq_true, decide_eq_true_eq] at named
  exact named.1.2

end Sound

/-! ### Contents -/

def executableIn (manifest : Manifest) (name : String) : Bool :=
  manifest.files[name]?.any (·.executable)

lemma Sound.manifest_plain (sound : Sound env manifest files) : executableIn manifest MANIFEST_FILE = false := by
  have absent : manifest.files[MANIFEST_FILE]? = none := by
    cases found : manifest.files[MANIFEST_FILE]? with
    | none => rfl
    | some info =>
      exact absurd (sound.mem_keys.2 (OrdMap.mem_keys.2 ⟨info, found⟩)) sound.manifest_not_mem
  rw [executableIn, absent]
  rfl

lemma parents_manifest : parents MANIFEST_FILE = [] := by decide +kernel

/-- A directory holds the files of a build, its manifest, and the directories on the way to them. -/
structure Holds (env : Env) (manifest : Manifest) (files : Files) (tree : Tree) : Prop where
  described : ∃ bytes, env.toVec manifest = .ok bytes ∧
    AList.lookup MANIFEST_FILE tree = some (.file bytes false)
  stored : ∀ name bytes, files[name]? = some bytes →
    AList.lookup name tree = some (.file bytes (executableIn manifest name))
  dirs : ∀ name ∈ files.keys, ∀ parent ∈ parents name, AList.lookup parent tree = some .dir
  only : ∀ name node, AList.lookup name tree = some node →
    (node = .dir ∧ ∃ file ∈ files.keys, name ∈ parents file) ∨
      (node ≠ .dir ∧ (name = MANIFEST_FILE ∨ name ∈ files.keys))

namespace Holds
variable {env : Env} {manifest : Manifest} {files : Files} {tree : Tree}

lemma readManifest (holds : Holds env manifest files tree) (sound : Sound env manifest files)
    (ok : env.Sound) : readManifest env (some tree) = .ok (tree, manifest) := by
  obtain ⟨bytes, encoded, found⟩ := holds.described
  obtain ⟨bytes', encoded', small⟩ := (validated sound.valid).bytes
  obtain rfl := Except.ok.inj (encoded.symm.trans encoded')
  have whole : read (AList.lookup MANIFEST_FILE tree) MAX_MANIFEST_BYTES = .ok bytes := by
    rw [found, read, if_neg (Nat.not_lt.2 small)]
  have decoded := ok.manifest manifest bytes sound.valid encoded
  rw [Bundles.readManifest, bind_eq_ok]
  refine ⟨tree, rfl, bind_eq_ok.2 ⟨bytes, whole, bind_eq_ok.2 ⟨manifest, other_eq_ok.2 decoded, ?_⟩⟩⟩
  exact check_eq_ok.2 ⟨sound.valid, rfl⟩

lemma verifyTree (holds : Holds env manifest files tree) (sound : Sound env manifest files) :
    verifyTree tree manifest = .ok () := by
  rw [Bundles.verifyTree, forM_eq_ok]
  intro entry mem
  have found : AList.lookup entry.1 tree = some entry.2 := AList.mem_lookup_iff.2 mem
  rw [verifyEntry, check_eq_ok, reject_eq_ok, reject_eq_ok, decide_eq_false_iff_not, Nat.not_lt,
    Bool.not_eq_false']
  cases holds.only entry.1 entry.2 found with
  | inl dir =>
    obtain ⟨node, file, stored, parent⟩ := dir
    have ahead := mem_parents parent
    constructor
    · have longer := size_le_of_prefix ahead
      rw [String.utf8ByteSize_append] at longer
      have short := sound.size_le stored
      omega
    · rw [node, expects, List.any_eq_true]
      exact ⟨file, sound.mem_keys.1 stored, List.isPrefixOf_iff_prefix.2 ahead⟩
  | inr file =>
    obtain ⟨node, named⟩ := file
    constructor
    · cases named with
      | inl manifest => rw [manifest]; decide
      | inr stored => exact sound.size_le stored
    · cases kind : entry.2 with
      | dir => exact absurd kind node
      | file bytes executable =>
        rw [expects, Bool.or_eq_true, decide_eq_true_eq]
        apply named.imp_right
        intro stored
        exact Std.ExtTreeMap.contains_iff_mem.2 (Std.ExtTreeMap.mem_keys.1 (sound.mem_keys.1 stored))

lemma verifyStored (holds : Holds env manifest files tree) {entry : String × FileInfo}
    (mem : entry ∈ manifest.files.toList) {total next : Nat}
    (h : Manifest.verifyFile env files total entry = .ok next) : verifyStored env tree total entry = .ok next := by
  obtain ⟨bytes, given, some, small, fits, digest, rfl⟩ := verifyFile_eq_ok.1 h
  have info := Std.ExtTreeMap.mem_toList_iff_getElem?_eq_some.1 mem
  have found := holds.stored entry.1 bytes given
  have executable : executableIn manifest entry.1 = entry.2.executable := by
    rw [executableIn, info, Option.any_some]
  rw [Bundles.verifyStored, check_eq_ok, forM_eq_ok]
  constructor
  · intro parent between
    rw [holds.dirs entry.1 (OrdMap.mem_keys.2 ⟨bytes, given⟩) parent between, requireDirectory]
  · apply bind_eq_ok.2
    refine ⟨bytes, ?_, ?_⟩
    · rw [found, read, if_neg (Nat.not_lt.2 small)]
    · rw [check_eq_ok, reject_eq_ok, pure_eq_ok, found, isExecutable, executable]
      simp [some, digest, fits]

lemma verifyPayload (holds : Holds env manifest files tree) (sound : Sound env manifest files) :
    verifyPayload env tree manifest = .ok () := by
  obtain ⟨_, total, loop⟩ := sound.verifyFile_ok
  have stored : manifest.files.toList.foldlM (Bundles.verifyStored env tree) 0 = .ok total :=
    foldlM_ok_mono loop fun entry mem _ _ h => holds.verifyStored mem h
  rw [Bundles.verifyPayload, check_eq_ok]
  exact ⟨holds.verifyTree sound, bind_eq_ok.2 ⟨total, stored, rfl⟩⟩

end Holds

theorem load_of_holds (ok : env.Sound) (rooted : 4 ≤ w.roots)
    (found : w.tree manifest.targetTriple manifest.bundleId = some tree) (holds : Holds env manifest files tree)
    (sound : Sound env manifest files) :
    load env w manifest.targetTriple manifest.bundleId =
      .ok ⟨bundleDirectory manifest.targetTriple manifest.bundleId, manifest⟩ := by
  have read := holds.readManifest sound ok
  obtain ⟨targets, there, rest⟩ := Option.bind_eq_some_iff.1 found
  obtain ⟨names, target, _⟩ := Option.bind_eq_some_iff.1 rest
  rw [load, check_eq_ok, reject_eq_ok, rootExists, decide_eq_true rooted]
  refine ⟨rfl, bind_eq_ok.2 ⟨targets, orError_eq_ok.2 there, check_eq_ok.2 ⟨?_, ?_⟩⟩⟩
  · rw [reject_eq_ok, Bool.not_eq_false', List.contains_iff_mem]
    exact AList.mem_keys.1 (Table.mem_iff.2 ⟨names, target⟩)
  · rw [found]
    apply bind_eq_ok.2
    refine ⟨_, read, check_eq_ok.2 ⟨?_, check_eq_ok.2 ⟨holds.verifyPayload sound, rfl⟩⟩⟩
    rw [reject_eq_ok]
    simp

theorem load_eq_ok {target id : String} {bundle : Bundle} (h : load env w target id = .ok bundle) :
    bundle.directory = bundleDirectory target id ∧
      bundle.manifest.bundleId = id ∧ bundle.manifest.targetTriple = target ∧
      bundle.manifest.validate env = .ok () ∧ ∃ tree, w.tree target id = some tree := by
  rw [load, check_eq_ok] at h
  obtain ⟨targets, _, h⟩ := bind_eq_ok.1 h.2
  rw [check_eq_ok] at h
  obtain ⟨found, read, h⟩ := bind_eq_ok.1 h.2
  obtain ⟨tree, manifest⟩ := found
  rw [Bundles.readManifest] at read
  obtain ⟨tree', there, read⟩ := bind_eq_ok.1 read
  obtain ⟨bytes, _, read⟩ := bind_eq_ok.1 read
  obtain ⟨manifest', _, read⟩ := bind_eq_ok.1 read
  rw [check_eq_ok, pure_eq_ok] at read
  obtain ⟨rfl, rfl⟩ := Prod.mk.inj read.2
  rw [check_eq_ok, reject_eq_ok, check_eq_ok, pure_eq_ok] at h
  obtain ⟨same, _, rfl⟩ := h
  simp only [Bool.or_eq_false_iff, decide_eq_false_iff_not, not_not] at same
  exact ⟨rfl, same.1, same.2, read.1, tree', orError_eq_ok.1 there⟩

/-! ### Stages -/

/-- A directory holds these files, the directories on the way to them and some more directories. -/
structure Written (manifest : Manifest) (files : List (String × Bytes)) (more : List String)
    (tree : Tree) : Prop where
  stored : ∀ file ∈ files,
    AList.lookup file.1 tree = some (.file file.2 (executableIn manifest file.1))
  dirs : ∀ file ∈ files, ∀ parent ∈ parents file.1, AList.lookup parent tree = some .dir
  made : ∀ parent ∈ more, AList.lookup parent tree = some .dir
  only : ∀ name node, AList.lookup name tree = some node →
    (node = .dir ∧ (name ∈ more ∨ ∃ file ∈ files, name ∈ parents file.1)) ∨
      (node ≠ .dir ∧ ∃ file ∈ files, name = file.1)

namespace Written
variable {manifest : Manifest} {files : List (String × Bytes)} {more : List String} {tree tree' : Tree}
  {name : String}

lemma empty (manifest : Manifest) : Written manifest [] [] (∅ : Tree) := by
  refine ⟨nofun, nofun, nofun, ?_⟩
  intro name node found
  rw [AList.lookup_empty] at found
  cases found

lemma addFound (written : Written manifest files more tree)
    (found : AList.lookup name tree = some .dir) : Written manifest files (more ++ [name]) tree := by
  refine ⟨written.stored, written.dirs, ?_, ?_⟩
  · intro parent mem
    cases List.mem_append.1 mem with
    | inl before => exact written.made parent before
    | inr new => rw [List.mem_singleton.1 new, found]
  · intro other node there
    apply (written.only other node there).imp_left
    exact fun dir => ⟨dir.1, dir.2.imp_left (List.mem_append_left _)⟩

lemma addDir (written : Written manifest files more tree) (free : AList.lookup name tree = none) :
    Written manifest files (more ++ [name]) (AList.insert name .dir tree) := by
  have other : ∀ {k node}, AList.lookup k tree = some node →
      AList.lookup k (AList.insert name .dir tree) = some node := by
    intro k node found
    rw [Table.lookup_insert, if_neg, found]
    rintro rfl
    cases free.symm.trans found
  refine ⟨fun file mem => other (written.stored file mem), ?_, ?_, ?_⟩
  · exact fun file mem parent between => other (written.dirs file mem parent between)
  · intro parent mem
    cases List.mem_append.1 mem with
    | inl before => exact other (written.made parent before)
    | inr new => rw [List.mem_singleton.1 new, Table.lookup_insert, if_pos rfl]
  · intro k node found
    rw [Table.lookup_insert] at found
    split at found
    case isTrue same =>
      exact .inl ⟨(Option.some.inj found).symm, .inl (by rw [← same]; simp)⟩
    case isFalse =>
      apply (written.only k node found).imp_left
      exact fun dir => ⟨dir.1, dir.2.imp_left (List.mem_append_left _)⟩

lemma addFile {bytes : Bytes} (written : Written manifest files (parents name) tree)
    (free : AList.lookup name tree = none)
    (lookup : ∀ k, AList.lookup k tree' =
      if name = k then some (.file bytes (executableIn manifest name)) else AList.lookup k tree) :
    Written manifest (files ++ [(name, bytes)]) [] tree' := by
  have other : ∀ {k node}, AList.lookup k tree = some node → AList.lookup k tree' = some node := by
    intro k node found
    rw [lookup, if_neg, found]
    rintro rfl
    cases free.symm.trans found
  refine ⟨?_, ?_, nofun, ?_⟩
  · intro file mem
    cases List.mem_append.1 mem with
    | inl before => exact other (written.stored file before)
    | inr new => rw [List.mem_singleton.1 new, lookup, if_pos rfl]
  · intro file mem parent between
    cases List.mem_append.1 mem with
    | inl before => exact other (written.dirs file before parent between)
    | inr new =>
      rw [List.mem_singleton.1 new] at between
      exact other (written.made parent between)
  · intro k node found
    rw [lookup] at found
    split at found
    case isTrue same =>
      obtain rfl := Option.some.inj found
      exact .inr ⟨Node.noConfusion, _, List.mem_append_right _ (List.mem_singleton.2 rfl), same.symm⟩
    case isFalse =>
      cases written.only k node found with
      | inl dir =>
        refine .inl ⟨dir.1, .inr ?_⟩
        cases dir.2 with
        | inl own => exact ⟨_, List.mem_append_right _ (List.mem_singleton.2 rfl), own⟩
        | inr before =>
          obtain ⟨file, mem, between⟩ := before
          exact ⟨file, List.mem_append_left _ mem, between⟩
      | inr file =>
        obtain ⟨kind, file, mem, same⟩ := file
        exact .inr ⟨kind, file, List.mem_append_left _ mem, same⟩

end Written

lemma Holds.of_written {bytes : Bytes} (sound : Sound env manifest files) (encoded : env.toVec manifest = .ok bytes)
    (written : Written manifest (files.toList ++ [(MANIFEST_FILE, bytes)]) [] tree) :
    Holds env manifest files tree := by
  have mem_of : ∀ name, name ∈ files.keys → ∃ bytes, (name, bytes) ∈ files.toList := by
    intro name mem
    obtain ⟨bytes, found⟩ := OrdMap.mem_keys.1 mem
    exact ⟨bytes, Std.ExtTreeMap.mem_toList_iff_getElem?_eq_some.2 found⟩
  have of_mem : ∀ file ∈ files.toList, file.1 ∈ files.keys := by
    intro file mem
    exact OrdMap.mem_keys.2 ⟨file.2, Std.ExtTreeMap.mem_toList_iff_getElem?_eq_some.1 mem⟩
  refine ⟨⟨bytes, encoded, ?_⟩, ?_, ?_, ?_⟩
  · have last := written.stored (MANIFEST_FILE, bytes) (List.mem_append_right _ (List.mem_singleton.2 rfl))
    rw [sound.manifest_plain] at last
    exact last
  · intro name content found
    have mem := Std.ExtTreeMap.mem_toList_iff_getElem?_eq_some.2 found
    exact written.stored (name, content) (List.mem_append_left _ mem)
  · intro name mem parent between
    obtain ⟨content, mem⟩ := mem_of name mem
    exact written.dirs (name, content) (List.mem_append_left _ mem) parent between
  · intro name node found
    cases written.only name node found with
    | inl dir =>
      obtain ⟨kind, more⟩ := dir
      obtain ⟨file, mem, between⟩ := more.resolve_left List.not_mem_nil
      cases List.mem_append.1 mem with
      | inl stored => exact .inl ⟨kind, file.1, of_mem file stored, between⟩
      | inr last =>
        rw [List.mem_singleton.1 last, parents_manifest] at between
        cases between
    | inr file =>
      obtain ⟨kind, file, mem, rfl⟩ := file
      refine .inr ⟨kind, ?_⟩
      cases List.mem_append.1 mem with
      | inl stored => exact .inr (of_mem file stored)
      | inr last => exact .inl (by rw [List.mem_singleton.1 last])

end Ctl.Bundles
