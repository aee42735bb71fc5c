import Mathlib.Data.List.Sort
import Mathlib.Logic.Function.Basic
import Ctl.Base.System
import Ctl.Proto.History

/-!
# The presence registry

Model of `ctl-core/src/presence.rs` and `ctl-core/src/presence/registry.rs`: a directory with a lease
and a record for each live service channel. The gateway of a channel holds the lock of its lease for as
long as the channel lives, so whoever gets the lock knows that the gateway is gone.

Owners, readers and crashes take turns after every call to the file system. A file is its contents; a
temporary lease and the lease that is linked to it are one inode, which the lock belongs to. The names
of a directory are read as they are met, so an entry can be of any name. What `uuid` and `serde_json`
do is the parameter `Env`.
-/

namespace Ctl.Presence
open Ctl.Base
open Ctl.Proto (isControl isWhitespace)

/-- Rust `MAX_RECORD_BYTES`. -/
def MAX_RECORD_BYTES : Nat := 8192

/-- Rust `MAX_RECORDS`. -/
def MAX_RECORDS : Nat := 4096

/-! ### Records -/

/-- A client process (Rust `ClientIdentity`). -/
structure ClientIdentity where
  instanceId : String
  deviceName : Option String
  clientName : String
  clientVersion : String
  deriving DecidableEq

/-- One live inbound service channel (Rust `ServiceConnection`). -/
structure ServiceConnection where
  connectionId : String
  client : Option ClientIdentity
  service : String
  connectedAtMs : Nat
  source : Option String
  deriving DecidableEq

/-- Rust `valid_label`. -/
def validLabel (value : String) (limit : Nat) : Bool :=
  value.toList.any (fun c => !isWhitespace c) && decide (value.utf8ByteSize ≤ limit) &&
    !value.toList.any isControl

/-- Rust `ClientIdentity::validate`. -/
def ClientIdentity.validate (client : ClientIdentity) : Bool :=
  validLabel client.instanceId 128 && validLabel client.clientName 64 &&
    validLabel client.clientVersion 64 && client.deviceName.all (validLabel · 128)

/-- The check of the metadata of a channel, at its registration and in a record that was read. -/
def validMetadata (client : Option ClientIdentity) (service : String) (source : Option String) : Bool :=
  client.all ClientIdentity.validate && ["ctmux", "task", "vpn"].contains service &&
    source.all (validLabel · 128)

/-- The order of the result: the time, and then the ID. -/
def Precedes (left right : ServiceConnection) : Prop :=
  left.connectedAtMs < right.connectedAtMs ∨
    (left.connectedAtMs = right.connectedAtMs ∧ left.connectionId ≤ right.connectionId)

instance : DecidableRel Precedes := fun _ _ => inferInstanceAs (Decidable (_ ∨ _))

/-- What other libraries do: `Uuid::parse_str`, `serde_json::to_vec` and `serde_json::from_slice`. -/
structure Env where
  parseStr : String → Bool
  toVec : ServiceConnection → Option (List UInt8)
  fromSlice : List UInt8 → Except String ServiceConnection

/-! ### Owners -/

/-- The extensions of the files of a connection. -/
inductive Extension
  | lease | locktmp | json | tmp
  deriving DecidableEq

/-- Where an owner is in `register_at` or in `ConnectionRegistration::drop`. -/
inductive Stage
  /-- No registration has this ID. -/
  | unused
  /-- The temporary lease exists and is to be locked. -/
  | opened
  /-- The lock is held, and the lease to be linked. -/
  | locked
  /-- The lease is linked, and the temporary lease to be removed. -/
  | linked
  /-- The record is to be made. -/
  | leased
  /-- The temporary record is to be created with these bytes. -/
  | encoded (bytes : List UInt8)
  /-- The temporary record is to be written. -/
  | created (bytes : List UInt8)
  /-- The record is to be linked. -/
  | written
  /-- The record is linked, and the temporary one to be removed. -/
  | published
  /-- The record was not linked, and the temporary one is to be removed. -/
  | failed
  /-- The registration was returned. -/
  | registered
  /-- The drop is to remove the record, … -/
  | dropRecord
  /-- … the temporary record, … -/
  | dropTemporary
  /-- … to close the lease, … -/
  | dropLease
  /-- … to remove the lease … -/
  | removeLease
  /-- … and the temporary lease. -/
  | removeTemporary
  /-- The registration was dropped, or its owner has crashed. -/
  | ended
  deriving DecidableEq

def Stage.released : Stage → Bool
  | .removeLease | .removeTemporary | .ended => true
  | _ => false

def Stage.alive (stage : Stage) : Bool := stage ≠ .unused && !stage.released

/-- A registration. -/
structure Owner where
  stage : Stage
  client : Option ClientIdentity
  service : String
  source : Option String

/-! ### Readers -/

/-- Who holds the lock of a lease. -/
inductive Holder
  | owner
  | reader (number : Nat)
  deriving DecidableEq

/-- The steps of a sweep, in their order. -/
inductive Sweep
  | record | temporary | unlock | lease | leaseAgain | lockTemporary

/-- Where a reader is in `connections_in`. -/
inductive Phase
  | idle
  /-- The next entry of the directory is to be looked at. -/
  | listing
  /-- The lease is to be opened. -/
  | opening (id : String)
  /-- The lease is to be locked. -/
  | opened (id : String)
  /-- The lock was not held, and the files are removed. -/
  | sweeping (id : String) (sweep : Sweep)
  /-- The lock was held by `holder` (which the reader does not learn), and the record is to be opened. -/
  | blocked (id : String) (holder : Holder)
  /-- The record was opened and has these bytes. -/
  | reading (id : String) (bytes : List UInt8)
  | done (result : Except String (List ServiceConnection))

/-- A call of `connections_in`. -/
structure Reader where
  phase : Phase
  checked : Nat
  records : List ServiceConnection
  /-- The registrations that had ended when the call began (no code reads this). -/
  ended : String → Bool

/-! ### Steps -/

structure State where
  files : String → Extension → Option (List UInt8)
  lock : String → Option Holder
  owners : String → Owner
  readers : Nat → Reader

def State.alive (s : State) (id : String) : Bool := (s.owners id).stage.alive

def State.ended (s : State) (id : String) : Bool := (s.owners id).stage.released

def State.empty : State where
  files _ _ := none
  lock _ := none
  owners _ := ⟨.unused, none, "", none⟩
  readers _ := ⟨.idle, 0, [], fun _ => false⟩

namespace State

variable (s : State) (id : String)

def setFile (extension : Extension) (contents : Option (List UInt8)) : State :=
  { s with files := Function.update s.files id (Function.update (s.files id) extension contents) }

def setLock (holder : Option Holder) : State :=
  { s with lock := Function.update s.lock id holder }

def setStage (stage : Stage) : State :=
  { s with owners := Function.update s.owners id { s.owners id with stage := stage } }

def setReader (r : Nat) (reader : Reader) : State :=
  { s with readers := Function.update s.readers r reader }

def setPhase (r : Nat) (phase : Phase) : State :=
  s.setReader r { s.readers r with phase := phase }

def unlock (holder : Holder) : State :=
  if s.lock id = some holder then s.setLock id none else s

/-- Remove a path; a failure is ignored (Rust `let _ = fs::remove_file(…)`). -/
def removeFile (extension : Extension) (ok : Bool) : State :=
  if ok then s.setFile id extension none else s

end State

/-- What happens next, and whether a call to the file system succeeds in it. -/
inductive Action
  /-- `register_at` begins, and the temporary lease is created under a new ID. -/
  | register (id : String) (client : Option ClientIdentity) (service : String) (source : Option String)
  /-- The owner makes its next call. -/
  | own (id : String) (ok : Bool)
  /-- The owner reads the clock, which can be before the epoch, and makes its record. -/
  | stamp (id : String) (now : Option Nat)
  /-- The registration is dropped. -/
  | drop (id : String)
  /-- The owner crashes. -/
  | crash (id : String)
  /-- `connections_in` begins. -/
  | begin (r : Nat)
  /-- The directory has another entry. -/
  | entry (r : Nat) (id : String) (extension : Extension)
  | openLease (r : Nat)
  | tryLock (r : Nat)
  /-- The next step of a sweep. -/
  | sweep (r : Nat) (ok : Bool)
  | openRecord (r : Nat)
  /-- The record is read and checked. -/
  | check (r : Nat)
  /-- The directory has no further entry. -/
  | finish (r : Nat)
  /-- A call to the file system fails with another error than those that the code expects. -/
  | ioError (r : Nat) (message : String)
  /-- The reader's process ends. -/
  | quit (r : Nat)
  deriving DecidableEq

def Action.reader : Action → Option Nat
  | .begin r | .entry r _ _ | .openLease r | .tryLock r | .sweep r _ | .openRecord r | .check r
  | .finish r | .ioError r _ | .quit r => some r
  | _ => none

namespace State

variable (env : Env) (s : State)

/-- The next call of an owner (Rust `register_at` and `ConnectionRegistration::drop`). -/
def own (id : String) (ok : Bool) : Option State :=
  match (s.owners id).stage with
  | .opened =>
    if ok then
      if s.lock id = none then some ((s.setLock id (some .owner)).setStage id .locked) else none
    else some (s.setStage id .dropRecord)
  | .locked =>
    if ok then some ((s.setFile id .lease (s.files id .locktmp)).setStage id .linked)
    else some (s.setStage id .dropRecord)
  | .linked =>
    some ((s.removeFile id .locktmp ok).setStage id (if ok then .leased else .dropRecord))
  | .encoded bytes =>
    if ok then some ((s.setFile id .tmp (some [])).setStage id (.created bytes))
    else some (s.setStage id .failed)
  | .created bytes =>
    if ok then some ((s.setFile id .tmp (some bytes)).setStage id .written)
    else some (s.setStage id .failed)
  | .written =>
    if ok then some ((s.setFile id .json (s.files id .tmp)).setStage id .published)
    else some (s.setStage id .failed)
  | .published => some ((s.removeFile id .tmp ok).setStage id .registered)
  | .failed => some ((s.removeFile id .tmp ok).setStage id .dropRecord)
  | .dropRecord => some ((s.removeFile id .json ok).setStage id .dropTemporary)
  | .dropTemporary => some ((s.removeFile id .tmp ok).setStage id .dropLease)
  | .dropLease => some ((s.unlock id .owner).setStage id .removeLease)
  | .removeLease => some ((s.removeFile id .lease ok).setStage id .removeTemporary)
  | .removeTemporary => some ((s.removeFile id .locktmp ok).setStage id .ended)
  | _ => none

def stamp (id : String) (now : Option Nat) : Option State :=
  if (s.owners id).stage = .leased then
    let owner := s.owners id
    let record := now.map fun ms =>
      (⟨id, owner.client, owner.service, min ms (2 ^ 64 - 1), owner.source⟩ : ServiceConnection)
    match record.bind env.toVec with
    | some bytes => some (s.setStage id (.encoded bytes))
    | none => some (s.setStage id .dropRecord)
  else none

def entry (env : Env) (s : State) (r : Nat) (id : String) (extension : Extension) : State :=
  if extension ≠ .lease then s
  else
    let reader := { s.readers r with checked := (s.readers r).checked + 1 }
    if reader.checked > MAX_RECORDS then
      s.setReader r { reader with phase := .done (.error "Connection registry exceeds its entry limit") }
    else if !env.parseStr id then
      s.setReader r { reader with phase := .done (.error "Invalid connection lease") }
    else s.setReader r { reader with phase := .opening id }

def sweep (r : Nat) (id : String) (ok : Bool) : Sweep → State
  | .record => (s.removeFile id .json ok).setPhase r (.sweeping id .temporary)
  | .temporary => (s.removeFile id .tmp ok).setPhase r (.sweeping id .unlock)
  | .unlock => (s.unlock id (.reader r)).setPhase r (.sweeping id .lease)
  | .lease => (s.removeFile id .lease ok).setPhase r (.sweeping id .leaseAgain)
  | .leaseAgain => (s.removeFile id .lease ok).setPhase r (.sweeping id .lockTemporary)
  | .lockTemporary => (s.removeFile id .locktmp ok).setPhase r .listing

def check (r : Nat) (id : String) (bytes : List UInt8) : State :=
  if MAX_RECORD_BYTES < bytes.length then
    s.setPhase r (.done (.error "Oversized connection record"))
  else
    match env.fromSlice bytes with
    | .error error => s.setPhase r (.done (.error error))
    | .ok record =>
      if record.connectionId ≠ id || !validMetadata record.client record.service record.source then
        s.setPhase r (.done (.error "Invalid connection record"))
      else
        let reader := s.readers r
        s.setReader r { reader with phase := .listing, records := reader.records ++ [record] }

def fallible : Phase → Bool
  | .listing | .opening _ | .opened _ | .blocked _ _ | .reading _ _ => true
  | _ => false

def step : Action → Option State
  | .register id client service source =>
    if (s.owners id).stage ≠ .unused || !validMetadata client service source then none
    else
      let owners := Function.update s.owners id ⟨.opened, client, service, source⟩
      some ({ s with owners := owners }.setFile id .locktmp (some []))
  | .own id ok => s.own id ok
  | .stamp id now => s.stamp env id now
  | .drop id =>
    if (s.owners id).stage = .registered then some (s.setStage id .dropRecord) else none
  | .crash id =>
    if (s.owners id).stage = .unused then none
    else some ((s.unlock id .owner).setStage id .ended)
  | .begin r =>
    match (s.readers r).phase with
    | .idle | .done _ => some (s.setReader r ⟨.listing, 0, [], s.ended⟩)
    | _ => none
  | .entry r id extension =>
    match (s.readers r).phase with
    | .listing => some (s.entry env r id extension)
    | _ => none
  | .openLease r =>
    match (s.readers r).phase with
    | .opening id =>
      match s.files id .lease with
      | some _ => some (s.setPhase r (.opened id))
      | none => some (s.setPhase r .listing)
    | _ => none
  | .tryLock r =>
    match (s.readers r).phase with
    | .opened id =>
      match s.lock id with
      | none => some ((s.setLock id (some (.reader r))).setPhase r (.sweeping id .record))
      | some holder => some (s.setPhase r (.blocked id holder))
    | _ => none
  | .sweep r ok =>
    match (s.readers r).phase with
    | .sweeping id sweep => some (s.sweep r id ok sweep)
    | _ => none
  | .openRecord r =>
    match (s.readers r).phase with
    | .blocked id _ =>
      match s.files id .json with
      | some bytes => some (s.setPhase r (.reading id bytes))
      | none => some (s.setPhase r .listing)
    | _ => none
  | .check r =>
    match (s.readers r).phase with
    | .reading id bytes => some (s.check env r id bytes)
    | _ => none
  | .finish r =>
    match (s.readers r).phase with
    | .listing =>
      some (s.setPhase r (.done (.ok ((s.readers r).records.insertionSort Precedes))))
    | _ => none
  | .ioError r message =>
    if fallible (s.readers r).phase then some (s.setPhase r (.done (.error message))) else none
  | .quit r =>
    match (s.readers r).phase with
    | .sweeping id _ => some ((s.unlock id (.reader r)).setPhase r .idle)
    | _ => some (s.setPhase r .idle)

end State

end Ctl.Presence
