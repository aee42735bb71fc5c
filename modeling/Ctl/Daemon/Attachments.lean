import Ctl.Daemon.Topology

/-!
# Attachments and their leases

Model of the attachment and lease methods of `Terminal` in `ctmux/daemon/src/session.rs`. Each function
here is one section under one lock: the records and the input lease of a terminal and the layout lease
of its view are behind three different locks, so opening and closing an attachment takes three
sections. The peer of an attachment and the channel that tells a superseded transport are left out.
-/

namespace Ctl.Daemon
open Ctl.Base Ctl.Proto Ctl.Core

/-- A record that a replacement transport has taken over (the change of `resume_attachment_inner`). -/
def AttachmentRecord.resumed (record : AttachmentRecord) : AttachmentRecord :=
  if record.generation + 1 < 2 ^ 64 then
    { record with generation := record.generation + 1, connected := true }
  else record

/-- A record whose transport is disconnected (the change of `suspend_attachment_inner`). -/
def AttachmentRecord.suspended (generation : Nat) (record : AttachmentRecord) : AttachmentRecord :=
  if record.generation ≠ generation ∨ ¬ record.connected then record
  else { record with connected := false }

def Terminal.withLeases (action : AttachmentLeaseRegistry → AttachmentLeaseRegistry) (terminal : Terminal) : Terminal :=
  { terminal with leases := action terminal.leases }

def Terminal.withAttachments (action : Table String AttachmentRecord → Table String AttachmentRecord)
    (terminal : Terminal) : Terminal :=
  { terminal with attachments := action terminal.attachments }

def View.withLeases (action : AttachmentLeaseRegistry → AttachmentLeaseRegistry) (view : View) : View :=
  { view with leases := action view.leases }

namespace Registry

variable (r : Registry) (self token attachmentId : String)

/-- Change the leases of the view that owns a terminal (Rust `change_view_leases`). -/
def changeViewLeases (action : AttachmentLeaseRegistry → AttachmentLeaseRegistry) : Registry :=
  match AList.lookup self r.heap with
  | none => r
  | some terminal => r.editView terminal.owner.sessionId (View.withLeases action)

def changeLeases (action : AttachmentLeaseRegistry → AttachmentLeaseRegistry) : Registry :=
  r.editTerminal self (Terminal.withLeases action)

def changeAttachments (action : Table String AttachmentRecord → Table String AttachmentRecord) : Registry :=
  r.editTerminal self (Terminal.withAttachments action)

/-- Record a new attachment (the first section of `create_attachment_inner`). -/
def insertAttachment : Registry :=
  r.changeAttachments self (AList.insert token ⟨attachmentId, 0, true⟩)

def requestInput (r : Registry) (self attachmentId : String) (requestInputLease : Bool) : Registry :=
  r.changeLeases self fun leases => leases.requestInitial attachmentId requestInputLease false

def requestLayout (r : Registry) (self attachmentId : String) (requestLayoutLease : Bool) : Registry :=
  r.changeViewLeases self fun leases => leases.requestInitial attachmentId false requestLayoutLease

/-- Rebind a replacement transport (Rust `resume_attachment_inner`). -/
def resumeAttachment : Registry :=
  r.changeAttachments self fun records => records.modify token AttachmentRecord.resumed

/-- Mark a transport as disconnected (Rust `suspend_attachment_inner`). -/
def suspendAttachment (generation : Nat) : Registry :=
  r.changeAttachments self fun records =>
    records.modify token (AttachmentRecord.suspended generation)

def removableAttachment (generation : Nat) (expire : Bool) :
    Option AttachmentRecord := do
  let terminal ← AList.lookup self r.heap
  let record ← AList.lookup token terminal.attachments
  if record.generation ≠ generation ∨ expire ∧ record.connected then none else some record

/-- Forget an attachment (the first section of `close_attachment_inner` and
    `expire_attachment_inner`). -/
def removeAttachment : Registry :=
  r.changeAttachments self (AList.erase token)

def releaseInput (r : Registry) (self attachmentId : String) : Registry :=
  r.changeLeases self fun leases => leases.releaseAttachment attachmentId

def releaseLayout (r : Registry) (self attachmentId : String) : Registry :=
  r.changeViewLeases self fun leases => leases.releaseAttachment attachmentId

/-- Claim a lease (Rust `acquire_lease_inner`). -/
def acquireLease (lease : LeaseKind) : Registry :=
  match lease with
  | .layout => r.changeViewLeases self fun leases => leases.acquire attachmentId .layout
  | .input => r.changeLeases self fun leases => leases.acquire attachmentId .input

/-- Release a lease (Rust `release_lease_inner`). -/
def releaseLease (lease : LeaseKind) : Registry :=
  match lease with
  | .layout => r.changeViewLeases self fun leases => leases.release attachmentId .layout
  | .input => r.changeLeases self fun leases => leases.release attachmentId .input

end Registry

end Ctl.Daemon
