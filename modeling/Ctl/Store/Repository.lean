import Mathlib.Data.List.Sort
import Mathlib.Data.String.Basic
import Ctl.Base.System
import Ctl.Task.Proto

/-!
# The store of task definitions

Model of `task/store/src/repository.rs`: a JSON file of task definitions that several processes read
and replace under a file lock. A call holds the lock from its read to its write, so calls happen one
after the other, in any order.

The serialization of `serde_json` and the digest of `sha2` are the parameter `Serde`. The file system
is the parameter `Io` of a call: the error of each of its operations, for the case that the call comes
to it. A file is its bytes, or nothing when it is absent.
-/

namespace Ctl.Store
open Ctl.Base Ctl.Task
open Ctl.Proto (isControl)

abbrev Bytes := List UInt8

/-- The message of a `serde_json::Error`. -/
abbrev JsonError := String

/-- Rust `SCHEMA_VERSION`. -/
def SCHEMA_VERSION : Nat := 1

/-- Rust `MAX_STORE_BYTES`. -/
def MAX_STORE_BYTES : Nat := 4 * 1024 * 1024

/-- A reusable definition (Rust `SavedTaskDefinition`). -/
structure SavedTaskDefinition where
  definitionId : String
  revision : String
  definition : TaskDefinition
  deriving DecidableEq

/-- The definitions of a store (Rust `Snapshot`). -/
abbrev Snapshot := List SavedTaskDefinition

/-- The contents of a file (Rust `Document`). -/
structure Document where
  schemaVersion : Nat
  definitions : Snapshot
  deriving DecidableEq

/-- Rust `StoreError`, without the errors of the search for a store. -/
inductive StoreError
  | io (path source : String)
  | json (path : String) (source : JsonError)
  | invalidDefinition (message : String)
  | unsupportedVersion (version : Nat)
  | tooLarge
  | unsafePath (path : String)
  | conflict (definitionId : String)
  | nameConflict (name : String)
  | notFound (definitionId : String)
  deriving DecidableEq

/-! ### JSON -/

/-- A JSON value (`serde_json::Value`), with the keys of an object in their order. -/
inductive Value
  | null
  | bool (b : Bool)
  | unsigned (n : Nat)
  | number (literal : String)
  | string (s : String)
  | array (values : List Value)
  | object (fields : List (String × Value))

namespace Value

/-- Rust `Value::as_u64`. -/
def asU64 : Value → Option Nat
  | unsigned n => some n
  | _ => none

/-- Rust `Value::as_array`. -/
def asArray : Value → Option (List Value)
  | array values => some values
  | _ => none

/-- Rust `Value::as_object`. -/
def asObject : Value → Option (List (String × Value))
  | object fields => some fields
  | _ => none

/-- Rust `Value::get`. -/
def get (value : Value) (key : String) : Option Value := value.asObject.bind (·.lookup key)

end Value

def executionModeValue : ExecutionMode → Value
  | .interactive => .string "interactive"
  | .background => .string "background"

def definitionValue (definition : TaskDefinition) : Value :=
  .object
    [("arguments", .array (definition.arguments.map .string)),
      ("execution_mode", executionModeValue definition.executionMode),
      ("name", .string definition.name),
      ("program", .string definition.program),
      ("working_directory", definition.workingDirectory.elim .null .string)]

def savedValue (saved : SavedTaskDefinition) : Value :=
  .object
    [("definition", definitionValue saved.definition),
      ("definition_id", .string saved.definitionId),
      ("revision", .string saved.revision)]

def documentValue (document : Document) : Value :=
  .object
    [("definitions", .array (document.definitions.map savedValue)),
      ("schema_version", .unsigned document.schemaVersion)]

structure Serde where
  /-- `serde_json::to_vec_pretty`. -/
  toVecPretty : Document → Except JsonError Bytes
  /-- `serde_json::to_vec`. -/
  toVec : TaskDefinition → Except JsonError Bytes
  /-- `serde_json::from_slice`. -/
  fromSlice : Bytes → Except JsonError Value
  /-- `serde_json::from_value`. -/
  fromValue : Value → Except JsonError Document
  /-- The hexadecimal digits of `Sha256::digest`. -/
  digest : Bytes → String

/-- A document that was serialized is read back. -/
def Serde.RoundTrips (serde : Serde) : Prop :=
  ∀ document bytes, serde.toVecPretty document = .ok bytes →
    serde.fromSlice bytes = .ok (documentValue document) ∧
      serde.fromValue (documentValue document) = .ok document

/-! ### Checks -/

/-- Rust `validate_definition`. -/
def validateDefinition (definitionId : String) (definition : TaskDefinition) : Except StoreError Unit :=
  if definitionId.isEmpty || definitionId.utf8ByteSize > 4096 || definitionId.toList.any isControl then
    .error (.invalidDefinition "definition ID must be nonempty text without control characters")
  else if definition.name.isEmpty || definition.name.utf8ByteSize > 64 ||
      trim definition.name ≠ definition.name || definition.name.toList.any isControl then
    .error (.invalidDefinition
      "name must contain 1–64 bytes without control characters or surrounding whitespace")
  else if definition.program.isEmpty || hasNul definition.program then
    .error (.invalidDefinition "program must be nonempty and cannot contain null characters")
  else if definition.arguments.length > 4096 ||
      definition.arguments.any (fun argument => argument.utf8ByteSize > 65536 || hasNul argument) ||
      definition.workingDirectory.any hasNul then
    .error (.invalidDefinition
      "arguments or working directory exceed limits or contain null characters")
  else .ok ()

/-- The fields of a definition (the constant of `reject_unknown_definition_fields`). -/
def FIELDS : List String := ["name", "program", "arguments", "working_directory", "execution_mode"]

def unknownField (saved : Value) : Option String :=
  match (saved.get "definition").bind Value.asObject with
  | some fields => (fields.map (·.1)).find? (· ∉ FIELDS)
  | none => none

/-- Rust `reject_unknown_definition_fields`. -/
def rejectUnknownDefinitionFields (document : Value) : Except StoreError Unit :=
  match (document.get "definitions").bind Value.asArray with
  | some definitions =>
    match definitions.findSome? unknownField with
    | some field =>
      .error (.invalidDefinition s!"unsupported field {field.quote}; the definition file was preserved")
    | none => .ok ()
  | none => .ok ()

def Precedes (left right : SavedTaskDefinition) : Prop :=
  left.definition.name < right.definition.name ∨
    left.definition.name = right.definition.name ∧ left.definitionId ≤ right.definitionId

instance : DecidableRel Precedes :=
  fun left right => inferInstanceAs (Decidable
    (left.definition.name < right.definition.name ∨
      left.definition.name = right.definition.name ∧ left.definitionId ≤ right.definitionId))

/-- Rust `sort_definitions`. -/
def sortDefinitions (snapshot : Snapshot) : Snapshot := snapshot.insertionSort Precedes

/-! ### Reading and writing -/

/-- The errors of the operations on files that a call comes to. -/
structure Io where
  /-- The directories and the lock file. -/
  lock : Option StoreError
  /-- The metadata and the contents of the file. -/
  access : Option StoreError
  /-- The metadata of the file, once more. -/
  recheck : Option StoreError
  /-- The temporary file, with its synchronization. -/
  temporary : Option StoreError
  rename : Option StoreError
  /-- The synchronization of the directory, after the rename. -/
  directory : Option StoreError

def Io.fine : Io := ⟨none, none, none, none, none, none⟩

def attempt (fault : Option StoreError) : Except StoreError Unit :=
  match fault with
  | some e => .error e
  | none => .ok ()

section
variable (serde : Serde) (path : String)

/-- Rust `Repository::json_error`, for a result. -/
def jsonError {α : Type} (result : Except JsonError α) : Except StoreError α :=
  result.mapError (.json path)

/-- Rust `Repository::revision`. -/
def revision (definition : TaskDefinition) : Except StoreError String := do
  let bytes ← jsonError path (serde.toVec definition)
  return s!"sha256:{serde.digest bytes}"

/-- The loop of `read` over the definitions. -/
def checkDefinitions : Snapshot → (identities names : List String) → Except StoreError Snapshot
  | [], _, _ => .ok []
  | saved :: rest, identities, names => do
    validateDefinition saved.definitionId saved.definition
    if saved.definitionId ∈ identities then
      throw (.invalidDefinition s!"duplicate definition ID {saved.definitionId.quote}")
    if saved.definition.name ∈ names then throw (.nameConflict saved.definition.name)
    let revision ← revision serde path saved.definition
    let rest ← checkDefinitions rest (saved.definitionId :: identities)
      (saved.definition.name :: names)
    return { saved with revision } :: rest

def checkVersion (value : Value) : Except StoreError Unit :=
  match (value.get "schema_version").bind Value.asU64 with
  | some version => if version ≠ SCHEMA_VERSION then .error (.unsupportedVersion version) else .ok ()
  | none => .ok ()

def decode (bytes : Bytes) : Except StoreError Snapshot := do
  if bytes.length > MAX_STORE_BYTES then throw .tooLarge
  let value ← jsonError path (serde.fromSlice bytes)
  checkVersion value
  rejectUnknownDefinitionFields value
  let document ← jsonError path (serde.fromValue value)
  let snapshot ← checkDefinitions serde path document.definitions [] []
  return sortDefinitions snapshot

def contents : Option Bytes → Except StoreError Snapshot
  | none => .ok []
  | some bytes => decode serde path (bytes.take (MAX_STORE_BYTES + 1))

variable (io : Io) (file : Option Bytes) (definitionId : String) (snapshot : Snapshot)

/-- Rust `Repository::read`. -/
def read : Except StoreError Snapshot := do
  attempt io.access
  contents serde path file

/-- The bytes that `write` moves to the file. -/
def prepare : Except StoreError Bytes := do
  let bytes ← jsonError path (serde.toVecPretty ⟨SCHEMA_VERSION, sortDefinitions snapshot⟩)
  if bytes.length > MAX_STORE_BYTES then throw .tooLarge
  attempt io.recheck
  attempt io.temporary
  attempt io.rename
  return bytes

/-- Rust `Repository::write`: its result and the file after it. -/
def write : Except StoreError Unit × Option Bytes :=
  match prepare serde path io snapshot with
  | .error e => (.error e, file)
  | .ok bytes => (attempt io.directory, some bytes)

/-! ### Calls -/

def position (definitionId : String) : Option Nat :=
  snapshot.findIdx? fun saved => saved.definitionId = definitionId

/-- The decision of `save`: the definition that it returns and the snapshot that it writes. -/
def saveDecision (expectedRevision : Option String) (definition : TaskDefinition) (snapshot : Snapshot) :
    Except StoreError (SavedTaskDefinition × Option Snapshot) := do
  let existing := position snapshot definitionId
  match existing, expectedRevision with
  | none, none => pure ()
  | some index, some expected =>
    if (snapshot[index]?).map (·.revision) ≠ some expected then throw (.conflict definitionId)
  | _, _ => throw (.conflict definitionId)
  if snapshot.any fun saved =>
      saved.definitionId ≠ definitionId && saved.definition.name = definition.name then
    throw (.nameConflict definition.name)
  let revision ← revision serde path definition
  let saved : SavedTaskDefinition := { definitionId, revision, definition }
  match existing with
  | some index =>
    if snapshot[index]? = some saved then return (saved, none)
    return (saved, some (snapshot.set index saved))
  | none => return (saved, some (snapshot ++ [saved]))

/-- The decision of `remove`. -/
def removeDecision (expectedRevision : String) (snapshot : Snapshot) : Except StoreError (Unit × Option Snapshot) :=
  match position snapshot definitionId with
  | none => .error (.notFound definitionId)
  | some index =>
    if (snapshot[index]?).map (·.revision) ≠ some expectedRevision then
      .error (.conflict definitionId)
    else .ok ((), some (snapshot.eraseIdx index))

/-- The loop of `import_legacy`. -/
def importLoop : (definitions snapshot : Snapshot) → (changed : Bool) →
    Except StoreError (Snapshot × Bool)
  | [], snapshot, changed => .ok (snapshot, changed)
  | saved :: rest, snapshot, changed =>
    match snapshot.find? fun existing => existing.definitionId = saved.definitionId with
    | some existing =>
      if existing.definition ≠ saved.definition then .error (.conflict saved.definitionId)
      else importLoop rest snapshot changed
    | none =>
      if snapshot.any fun existing => existing.definition.name = saved.definition.name then
        .error (.nameConflict saved.definition.name)
      else do
        let revision ← revision serde path saved.definition
        importLoop rest (snapshot ++ [{ saved with revision }]) true

/-- The decision of `import_legacy`. -/
def importDecision (definitions snapshot : Snapshot) :
    Except StoreError (Snapshot × Option Snapshot) := do
  let (snapshot, changed) ← importLoop serde path definitions snapshot false
  let snapshot := sortDefinitions snapshot
  return (snapshot, if changed then some snapshot else none)

/-- A call after its checks of the arguments: take the lock, read the file, decide, and write the file
    when the decision asks for it. -/
def transact {β : Type} (io : Io) (file : Option Bytes)
    (decision : Snapshot → Except StoreError (β × Option Snapshot)) : Except StoreError β × Option Bytes :=
  match attempt io.lock >>= fun _ => read serde path io file >>= decision with
  | .error e => (.error e, file)
  | .ok (result, none) => (.ok result, file)
  | .ok (result, some snapshot) =>
    let (written, file) := write serde path io file snapshot
    (written.map fun _ => result, file)

/-- Rust `Repository::save`. -/
def save (expectedRevision : Option String) (definition : TaskDefinition) :
    Except StoreError SavedTaskDefinition × Option Bytes :=
  match validateDefinition definitionId definition with
  | .error e => (.error e, file)
  | .ok () =>
    transact serde path io file (saveDecision serde path definitionId expectedRevision definition)

/-- Rust `Repository::remove`. -/
def remove (expectedRevision : String) : Except StoreError Unit × Option Bytes :=
  transact serde path io file (removeDecision definitionId expectedRevision)

/-- Rust `Repository::import_legacy`. -/
def importLegacy (definitions : Snapshot) : Except StoreError Snapshot × Option Bytes :=
  match definitions.forM fun saved => validateDefinition saved.definitionId saved.definition with
  | .error e => (.error e, file)
  | .ok () => transact serde path io file (importDecision serde path definitions)

end

inductive Call
  | save (definitionId : String) (expectedRevision : Option String) (definition : TaskDefinition)
  | remove (definitionId expectedRevision : String)
  | importLegacy (definitions : Snapshot)

/-- What a call returns. -/
inductive Response
  | saved (saved : SavedTaskDefinition)
  | removed
  | imported (snapshot : Snapshot)
  deriving DecidableEq

def perform (serde : Serde) (path : String) (io : Io) (file : Option Bytes) :
    Call → Except StoreError Response × Option Bytes
  | .save definitionId expectedRevision definition =>
    (save serde path io file definitionId expectedRevision definition).map (·.map .saved) id
  | .remove definitionId expectedRevision =>
    (remove serde path io file definitionId expectedRevision).map (·.map fun _ => .removed) id
  | .importLegacy definitions =>
    (importLegacy serde path io file definitions).map (·.map .imported) id

/-- A call with what the file system does in it. -/
structure Action where
  io : Io
  call : Call

def step (serde : Serde) (path : String) (file : Option Bytes) (action : Action) : Option (Option Bytes) :=
  some (perform serde path action.io file action.call).2

end Ctl.Store
