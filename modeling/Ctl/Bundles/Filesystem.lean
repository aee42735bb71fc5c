import Ctl.Base.Effects
import Ctl.Base.System
import Ctl.Base.Table
import Ctl.Bundles.Manifest
import Mathlib.Data.List.Sort

/-!
# The component store

Model of `ctl-core/src/bundles/filesystem.rs` and of `Store` in `ctl-core/src/bundles.rs`. The writers
hold the lock of the store from their first change to their last one, so their calls come one after
another; a call ends early where a call to the file system fails, and nothing more of it happens after
a crash. A crash leaves what was there, so the state between two calls to the file system is one that a
crash leaves as well, and the readers see no others.

The program is the only one that changes the store, so its directories and files are private and are
no links. A bundle directory is the map of the paths below it; the store is the map of such directories
for each target, and the map of the selection files.
-/

namespace Ctl.Bundles
open Ctl.Base

/-! ### The directories -/

inductive Node
  | dir
  | file (bytes : Bytes) (executable : Bool)

abbrev Tree := Table String Node

abbrev Path := List String

/-- A stored build (Rust `Bundle`). -/
structure Bundle where
  directory : Path
  manifest : Manifest

structure World where
  /-- How many of the directories from the home to the root exist; there are four of them. -/
  roots : Nat
  lockFile : Bool
  /-- The directory `bundles`: the directories of a target, stages among them. -/
  bundles : Option (Table String (Table String Tree))
  /-- The directory `selected`. -/
  selections : Option (Table String Bytes)
  /-- Ghost: the builds that were moved to their directory, the last one first. -/
  published : List (Manifest × Files)
  /-- Ghost: the selections that were moved to their path, the last one first. -/
  chosen : List (Purpose × Manifest)
  /-- Ghost: the calls to the file system that the operation has made. -/
  asked : Nat

namespace World

variable (w : World) (target : String)

/-- A directory below `bundles`. -/
def tree (name : String) : Option Tree :=
  w.bundles.bind fun targets => (AList.lookup target targets).bind fun names => AList.lookup name names

def modifyTarget (f : Table String Tree → Table String Tree) : World :=
  { w with bundles := w.bundles.map fun targets => Table.modify targets target f }

def modifyTree (name : String) (f : Tree → Tree) : World :=
  w.modifyTarget target fun names => Table.modify names name f

/-- A file below `selected`. -/
def selection (path : String) : Option Bytes :=
  w.selections.bind fun files => AList.lookup path files

/-- Change the directory `selected`. -/
def modifySelections (f : Table String Bytes → Table String Bytes) : World :=
  { w with selections := w.selections.map f }

end World

def absent : IoError := ⟨.notFound, "No such file or directory (os error 2)"⟩

/-- Rust `unsafe_path`. -/
def unsafePath : IoError :=
  ⟨.permissionDenied,
    "component store paths must be owned directories or private regular files, not links or special files"⟩

/-! ### Reading -/

variable (env : Env) (w : World) (target : String) (purpose : Purpose) (tree : Tree) (manifest : Manifest)

/-- Rust `root_exists`. -/
def rootExists : Bool := decide (4 ≤ w.roots)

/-- Rust `read`. -/
def read (node : Option Node) (maximum : Nat) : Except IoError Bytes :=
  match node with
  | none => .error absent
  | some .dir => .error unsafePath
  | some (.file bytes _) =>
    if maximum < bytes.length then .error (invalid "component bundle file exceeds its size limit")
    else .ok bytes

/-- Rust `require_directory`. -/
def requireDirectory : Option Node → Except IoError Unit
  | none => .error absent
  | some .dir => .ok ()
  | some (.file _ _) => .error unsafePath

def parents (name : String) : List String :=
  (List.range name.toList.length).filterMap fun k =>
    if name.toList[k]? = some '/' then some (String.ofList (name.toList.take k)) else none

/-- Rust `read_manifest`. -/
def readManifest (directory : Option Tree) : Except IoError (Tree × Manifest) := do
  let tree ← orError directory absent
  let bytes ← read (AList.lookup MANIFEST_FILE tree) MAX_MANIFEST_BYTES
  let manifest ← other (env.fromSlice bytes)
  manifest.validate env
  return (tree, manifest)

/-- An entry of a bundle directory is a file of the manifest, or a directory on the way to one. -/
def expects (name : String) : Node → Bool
  | .dir => manifest.files.keys.any fun file => (name ++ "/").toList.isPrefixOf file.toList
  | .file _ _ => name = MANIFEST_FILE || manifest.files.contains name

/-- One entry of `verify_tree`. -/
def verifyEntry (entry : (_ : String) × Node) : Except IoError Unit := do
  reject (512 < entry.1.utf8ByteSize) (invalid "excessive bundle payload path")
  reject (!expects manifest entry.1 entry.2)
    (invalid "unexpected file in immutable component bundle")

/-- Rust `verify_tree`. Directories that are not expected are errors, so all entries below the bundle
    directory are looked at. -/
def verifyTree : Except IoError Unit :=
  tree.entries.forM (verifyEntry manifest)

def isExecutable : Option Node → Bool
  | some (.file _ executable) => executable
  | _ => false

/-- One file of `verify_payload`; the size of the files before it is `total`. -/
def verifyStored (total : Nat) (entry : String × FileInfo) :
    Except IoError Nat := do
  -- Rust `check_parents`.
  (parents entry.1).forM fun parent => requireDirectory (AList.lookup parent tree)
  let bytes ← read (AList.lookup entry.1 tree) MAX_FILE_BYTES
  reject (bytes.isEmpty || MAX_TOTAL_BYTES < total + bytes.length ||
      env.digest bytes ≠ entry.2.sha256 ||
      (entry.2.executable && !isExecutable (AList.lookup entry.1 tree)))
    (invalid "stored component bundle failed payload verification")
  return total + bytes.length

/-- Rust `verify_payload`. -/
def verifyPayload : Except IoError Unit := do
  verifyTree tree manifest
  let _ ← manifest.files.toList.foldlM (verifyStored env tree) 0

def bundleDirectory (id : String) : Path := ["bundles", target, id]

/-- Rust `load`. -/
def load (id : String) : Except IoError Bundle := do
  reject (!rootExists w) ⟨.notFound, "component store is absent"⟩
  let targets ← orError w.bundles absent
  reject (!targets.keys.contains target) absent
  let (tree, manifest) ← readManifest env (w.tree target id)
  reject (manifest.bundleId ≠ id || manifest.targetTriple ≠ target)
    (invalid "bundle identity differs from its immutable path")
  verifyPayload env tree manifest
  return ⟨bundleDirectory target id, manifest⟩

/-- Rust `Store::get`. -/
def get (bundleId : String) : Except IoError Bundle := do
  validateTarget env target
  reject (!validDigest bundleId) (invalid "invalid component bundle identity")
  load env w target bundleId

def loadAll (ids : List String) :
    Except IoError (List Bundle) := do
  reject (4096 < ids.length) (invalid "too many stored component bundles")
  (ids.insertionSort (· ≤ ·)).mapM (load env w target)

/-- Rust `list`. -/
def list : Except IoError (List Bundle) := do
  validateTarget env target
  if !rootExists w then
    return []
  else
    match w.bundles.bind (AList.lookup target) with
    | none => return []
    | some names => loadAll env w target (names.keys.filter validDigest)

def selectionTarget (target : String) : String :=
  if purpose = .local then
    match env.nativeTarget with
    | "x86_64-unknown-linux-gnu" => "x86_64-unknown-linux-musl"
    | "aarch64-unknown-linux-gnu" => "aarch64-unknown-linux-musl"
    | native => native
  else target

/-- Rust `selection_path`, below `selected`. -/
def selectionPath (target : String) : String :=
  purpose.name ++ "-" ++ selectionTarget env purpose target ++ ".json"

/-- The bundle of a selection that was read in `selected`. -/
def loadSelected (target : String) (bytes : Bytes) :
    Except IoError (Option Bundle) := do
  reject (1024 < bytes.length) (invalid "component bundle file exceeds its size limit")
  let selection ← other (env.selectionFromSlice bytes)
  reject (!validDigest selection.bundleId) (invalid "invalid bundle selection")
  validateTarget env selection.targetTriple
  reject (purpose = .upload && selection.targetTriple ≠ target)
    (invalid "upload selection target differs from its profile")
  reject (purpose = .local && !localTarget env selection.targetTriple)
    (invalid "local selection has an incompatible target")
  if purpose = .local && target ≠ env.nativeTarget && target ≠ selection.targetTriple then
    return none
  else return some (← load env w selection.targetTriple selection.bundleId)

/-- Rust `selected`. -/
def selected (target : String) :
    Except IoError (Option Bundle) := do
  validateTarget env target
  if (purpose = .local && !localTarget env target) || !rootExists w then
    return none
  else
    match w.selection (selectionPath env purpose target) with
    | none => return none
    | some bytes => loadSelected env w purpose target bytes

/-! ### Writing -/

/-- What happens at a call to the file system. -/
inductive Answer
  | done
  | failed (error : IoError)
  | crashed

/-- How an operation ends early. -/
inductive Exit
  | failed (error : IoError)
  | crashed

abbrev Operation := ExceptT Exit (StateM World)

def liftExcept {α : Type} : Except IoError α → Operation α
  | .ok a => pure a
  | .error error => throw (.failed error)

section
variable (answers : Nat → Answer)

def call (change : World → World) : Operation Unit := do
  let n := (← MonadState.get).asked
  modify fun w => { w with asked := w.asked + 1 }
  match answers n with
  | .done => modify change
  | .failed error => throw (.failed error)
  | .crashed => throw .crashed

def attempt {α : Type} (body : Operation α) : Operation (Except IoError α) :=
  ExceptT.mk do
    match ← body.run with
    | .ok a => return .ok (.ok a)
    | .error (.failed error) => return .ok (.error error)
    | .error .crashed => return .error .crashed

/-- A call whose failure is ignored (Rust `let _ = …`). -/
def ignore (body : Operation Unit) : Operation Unit := do
  let _ ← attempt body

/-- An operation with a temporary file or directory, which is removed at the end (Rust `Temporary`). -/
def withTemporary {α : Type} (cleanup : Operation Unit) (body : Operation α) : Operation α := do
  let result ← attempt body
  cleanup
  liftExcept result

/-- Rust `ensure_root`. -/
def ensureRoot : Operation Unit :=
  (List.range 4).forM fun i => do
    if (← MonadState.get).roots ≤ i then
      call answers fun w => { w with roots := i + 1 }

/-- Rust `Lock::acquire`, by the only writer. -/
def acquireLock : Operation Unit :=
  call answers fun w => { w with lockFile := true }

/-- Create the directory `bundles`, if there is none. -/
def ensureBundles : Operation Unit := do
  if (← MonadState.get).bundles.isNone then
    call answers fun w => { w with bundles := some ∅ }

variable (target : String) (env : Env) (manifest : Manifest) (purpose : Purpose) (bundle : Bundle) (stage : String)

def ensureTarget : Operation Unit := do
  let w ← MonadState.get
  if (w.bundles.bind (AList.lookup target)).isNone then
    call answers fun w =>
      { w with bundles := w.bundles.map (AList.insert target (∅ : Table String Tree)) }

/-- Create the directory `selected`, if there is none. -/
def ensureSelected : Operation Unit := do
  if (← MonadState.get).selections.isNone then
    call answers fun w => { w with selections := some ∅ }

def stageNode (w : World) (target stage name : String) : Option Node :=
  (w.tree target stage).bind (AList.lookup name)

def setNode (name : String) (node : Node) (w : World) : World :=
  w.modifyTree target stage (AList.insert name node)

/-- Rust `ensure_directory` below a stage. -/
def ensureDirectory (name : String) : Operation Unit := do
  match stageNode (← MonadState.get) target stage name with
  | none => call answers (setNode target stage name .dir)
  | node => liftExcept (requireDirectory node)

def alreadyExists : IoError := ⟨.other, "File exists (os error 17)"⟩

/-- Rust `write` below a stage. -/
def write (name : String) (bytes : Bytes) (executable : Bool) : Operation Unit := do
  liftExcept (reject (stageNode (← MonadState.get) target stage name).isSome alreadyExists)
  call answers (setNode target stage name (.file [] false))
  call answers (setNode target stage name (.file bytes false))
  if executable then
    call answers (setNode target stage name (.file bytes true))
  call answers id

def writeFile (target stage : String) (file : String × Bytes) : Operation Unit := do
  -- Rust `ensure_descendants`.
  (parents file.1).forM (ensureDirectory answers target stage)
  write answers target stage file.1 file.2 (manifest.files[file.1]?.any (·.executable))

/-- Remove a stage with all that it holds (Rust `fs::remove_dir_all`). -/
def removeStage : Operation Unit := do
  match (← MonadState.get).tree target stage with
  | none => return
  | some tree =>
    tree.keys.forM fun name =>
      call answers (·.modifyTree target stage (AList.erase name))
    call answers (·.modifyTarget target (AList.erase stage))

def moveStage (files : Files) (stage : String) (w : World) : World :=
  { w.modifyTarget manifest.targetTriple fun names =>
      match AList.lookup stage names with
      | some tree => AList.insert manifest.bundleId tree (AList.erase stage names)
      | none => names with
    published := (manifest, files) :: w.published }

def stageName (uuid : String) : String := ".partial-" ++ uuid

def fillStage (files : Files) (stage : String) : Operation Bundle := do
  let target := manifest.targetTriple
  call answers (·.modifyTarget target (AList.insert stage (∅ : Tree)))
  files.toList.forM (writeFile answers manifest target stage)
  let bytes ← liftExcept (other (env.toVec manifest))
  write answers target stage MANIFEST_FILE bytes false
  call answers id
  call answers (moveStage manifest files stage)
  call answers id
  liftExcept (load env (← MonadState.get) target manifest.bundleId)

/-- The part of `publish` for a directory that exists. -/
def reuse : Operation Bundle := do
  let existing ← liftExcept (load env (← MonadState.get) manifest.targetTriple manifest.bundleId)
  liftExcept (reject (existing.manifest ≠ manifest)
    (invalid "immutable bundle already contains different metadata"))
  return existing

/-- Rust `publish`. -/
def publish (files : Files) (uuid : String) : Operation Bundle := do
  liftExcept (manifest.validate env)
  liftExcept (manifest.verifyFiles env files)
  ensureRoot answers
  acquireLock answers
  ensureBundles answers
  ensureTarget answers manifest.targetTriple
  if ((← MonadState.get).tree manifest.targetTriple manifest.bundleId).isSome then
    reuse env manifest
  else
    withTemporary (ignore (removeStage answers manifest.targetTriple (stageName uuid)))
      (fillStage answers env manifest files (stageName uuid))

/-- The checks of `select`, for the bundle that is stored. -/
def checkSelected (current : Bundle) : Except IoError Unit := do
  reject (current.manifest ≠ bundle.manifest || current.directory ≠ bundle.directory)
    (invalid "selected bundle changed")
  reject (purpose = .local && !localTarget env bundle.manifest.targetTriple)
    (invalid "a local bundle must run on this computer")
  reject (purpose = .local && macos env &&
      (!bundle.manifest.files.contains "ctld.app/Contents/MacOS/ctld" ||
        !bundle.manifest.files.contains "ctld-package.json"))
    (invalid "local macOS bundles require the complete provisioned ctld.app and package receipt")

/-- Put a file into `selected`. -/
def setSelection (path : String) (bytes : Bytes) (w : World) : World :=
  w.modifySelections (AList.insert path bytes)

def moveSelection (next path : String) (purpose : Purpose) (manifest : Manifest) (w : World) : World :=
  { w.modifySelections fun files =>
      match AList.lookup next files with
      | some bytes => AList.insert path bytes (AList.erase next files)
      | none => files with
    chosen := (purpose, manifest) :: w.chosen }

def nextName (uuid : String) : String := ".next-" ++ uuid

/-- Rust `write` below `selected`. -/
def writeSelection (path : String) (bytes : Bytes) : Operation Unit := do
  liftExcept (reject ((← MonadState.get).selection path).isSome alreadyExists)
  call answers (setSelection path [])
  call answers (setSelection path bytes)
  call answers id

def replaceSelection (manifest : Manifest) (next : String) :
    Operation Unit := do
  let bytes ← liftExcept (other (env.selectionToVec ⟨manifest.bundleId, manifest.targetTriple⟩))
  writeSelection answers next bytes
  call answers (moveSelection next (selectionPath env purpose manifest.targetTriple) purpose manifest)
  call answers id

/-- The part of `select` that does not depend on the selection before it. -/
def selectBundle (uuid : String) :
    Operation Unit := do
  let current ← liftExcept (load env (← MonadState.get) bundle.manifest.targetTriple
    bundle.manifest.bundleId)
  liftExcept (checkSelected env purpose bundle current)
  ensureSelected answers
  withTemporary (ignore (call answers (·.modifySelections (AList.erase (nextName uuid)))))
    (replaceSelection answers env purpose bundle.manifest (nextName uuid))

/-- Rust `select`. -/
def select (onlyUnset : Bool) (uuid : String) :
    Operation Unit := do
  ensureRoot answers
  acquireLock answers
  if onlyUnset then
    match ← liftExcept (selected env (← MonadState.get) purpose bundle.manifest.targetTriple) with
    | some _ => return
    | none => selectBundle answers env purpose bundle uuid
  else selectBundle answers env purpose bundle uuid

/-- Rust `Store::select_if_unset`. -/
def selectIfUnset (uuid : String) :
    Operation Bundle := do
  select answers env purpose bundle true uuid
  let found ← liftExcept (selected env (← MonadState.get) purpose bundle.manifest.targetTriple)
  liftExcept (orError found (invalid "component selection disappeared"))

end

/-! ### Runs -/

/-- A call of a writer, with the UUID of its temporary name. -/
inductive Action
  | publish (manifest : Manifest) (files : Files) (uuid : String)
  | select (purpose : Purpose) (bundle : Bundle) (uuid : String)
  | selectIfUnset (purpose : Purpose) (bundle : Bundle) (uuid : String)

def Action.fresh : Action → Bool
  | .publish manifest _ uuid => (w.tree manifest.targetTriple (stageName uuid)).isNone
  | .select _ _ uuid | .selectIfUnset _ _ uuid => (w.selection (nextName uuid)).isNone

def Action.perform (answers : Nat → Answer) (w : World) : Action → World
  | .publish manifest files uuid => (Base.perform (Bundles.publish answers env manifest files uuid) w).2
  | .select purpose bundle uuid => (Base.perform (Bundles.select answers env purpose bundle false uuid) w).2
  | .selectIfUnset purpose bundle uuid =>
    (Base.perform (Bundles.selectIfUnset answers env purpose bundle uuid) w).2

/-- A call of a writer and what it meets. -/
structure Step where
  action : Action
  answers : Nat → Answer

def step (s : Step) : Option World :=
  if s.action.fresh w then some (s.action.perform env s.answers { w with asked := 0 }) else none

/-- A store that nobody has used; the directories on the way to it can exist. -/
def Initial : Prop :=
  w.bundles = none ∧ w.selections = none ∧ w.published = [] ∧ w.chosen = []

end Ctl.Bundles
