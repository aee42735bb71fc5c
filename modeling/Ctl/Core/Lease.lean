import Mathlib.Data.Option.Basic

/-!
# Attachment leases

Model of `AttachmentLeaseRegistry` in `ctmux/core/src/lib.rs`: at most one attachment owns the input
lease and at most one owns the layout lease.
-/

namespace Ctl.Core

/-- The leases of a registry (Rust `LeaseKind`). -/
inductive LeaseKind where
  | input
  | layout
  deriving DecidableEq

/-- A lease as one attachment sees it (Rust `LeaseStatus`). -/
structure LeaseStatus where
  held : Bool
  ownedByClient : Bool

/-- The owners of the leases (Rust `AttachmentLeaseRegistry`). -/
structure AttachmentLeaseRegistry where
  inputOwner : Option String
  layoutOwner : Option String

namespace AttachmentLeaseRegistry

/-- No lease is held (Rust `AttachmentLeaseRegistry::default`). -/
def default : AttachmentLeaseRegistry := ⟨none, none⟩

/-- The owner of a lease (Rust `lease_owner`). -/
def leaseOwner (leases : AttachmentLeaseRegistry) : LeaseKind → Option String
  | .input => leases.inputOwner
  | .layout => leases.layoutOwner

/-- Set the owner of a lease (through Rust `lease_owner_mut`). -/
def setOwner (leases : AttachmentLeaseRegistry) (owner : Option String) :
    LeaseKind → AttachmentLeaseRegistry
  | .input => { leases with inputOwner := owner }
  | .layout => { leases with layoutOwner := owner }

/-- A lease from the perspective of an attachment (Rust `status`). -/
def status (leases : AttachmentLeaseRegistry) (attachmentId : String) (lease : LeaseKind) : LeaseStatus :=
  ⟨(leases.leaseOwner lease).isSome, decide (leases.leaseOwner lease = some attachmentId)⟩

/-- Claim the requested leases that nobody holds (Rust `request_initial`). -/
def requestInitial (leases : AttachmentLeaseRegistry) (attachmentId : String)
    (requestInputLease requestLayoutLease : Bool) : AttachmentLeaseRegistry where
  inputOwner := if requestInputLease ∧ leases.inputOwner.isNone then some attachmentId
    else leases.inputOwner
  layoutOwner := if requestLayoutLease ∧ leases.layoutOwner.isNone then some attachmentId
    else leases.layoutOwner

/-- Claim a lease that nobody else holds (Rust `acquire`). -/
def acquire (leases : AttachmentLeaseRegistry) (attachmentId : String) (lease : LeaseKind) : AttachmentLeaseRegistry :=
  let owner := leases.leaseOwner lease
  if owner = none ∨ owner = some attachmentId then leases.setOwner (some attachmentId) lease
  else leases

/-- The owner after an attachment gave up what it owns (Rust `release_owned_lease`). -/
def releaseOwnedLease (owner : Option String) (attachmentId : String) : Option String :=
  if owner = some attachmentId then none else owner

/-- Release a lease that belongs to an attachment (Rust `release`). -/
def release (leases : AttachmentLeaseRegistry) (attachmentId : String) (lease : LeaseKind) : AttachmentLeaseRegistry :=
  leases.setOwner (releaseOwnedLease (leases.leaseOwner lease) attachmentId) lease

/-- Release every lease of a detached attachment (Rust `release_attachment`). -/
def releaseAttachment (leases : AttachmentLeaseRegistry) (attachmentId : String) :
    AttachmentLeaseRegistry where
  inputOwner := releaseOwnedLease leases.inputOwner attachmentId
  layoutOwner := releaseOwnedLease leases.layoutOwner attachmentId

/-! ### Owners -/

variable {attachmentId a : String} {leases : AttachmentLeaseRegistry}

lemma releaseOwnedLease_eq_some {owner : Option String} :
    releaseOwnedLease owner attachmentId = some a ↔ owner = some a ∧ a ≠ attachmentId := by
  unfold releaseOwnedLease
  split
  case isTrue eq =>
    simp only [reduceCtorEq, eq, Option.some.injEq, false_iff, not_and, not_not]
    exact Eq.symm
  case isFalse ne =>
    refine ⟨fun h => ⟨h, ?_⟩, fun h => h.1⟩
    rintro rfl
    exact ne h

variable (kind : LeaseKind) {lease : LeaseKind}

lemma acquire_owner (h : (leases.acquire attachmentId lease).leaseOwner kind = some a) :
    leases.leaseOwner kind = some a ∨
      lease = kind ∧ a = attachmentId ∧ leases.leaseOwner kind = none := by
  unfold acquire at h
  dsimp only at h
  split at h
  case isTrue free =>
    cases lease <;> cases kind <;> simp_all [setOwner, leaseOwner] <;> exact free.symm
  case isFalse => exact .inl h

lemma requestInitial_owner {input layout : Bool}
    (h : (leases.requestInitial attachmentId input layout).leaseOwner kind = some a) :
    leases.leaseOwner kind = some a ∨
      a = attachmentId ∧ leases.leaseOwner kind = none ∧ (match kind with
        | .input => input
        | .layout => layout) = true := by
  cases kind <;> simp only [requestInitial, leaseOwner] at h ⊢ <;> split at h <;> simp_all

lemma release_owner (h : (leases.release attachmentId lease).leaseOwner kind = some a) :
    leases.leaseOwner kind = some a := by
  unfold release at h
  cases lease <;> cases kind <;>
    simp only [setOwner, leaseOwner, releaseOwnedLease_eq_some] at h ⊢
  · exact h.1
  · exact h
  · exact h
  · exact h.1

lemma releaseAttachment_owner :
    (leases.releaseAttachment attachmentId).leaseOwner kind = some a ↔
      leases.leaseOwner kind = some a ∧ a ≠ attachmentId := by
  cases kind <;> exact releaseOwnedLease_eq_some

end AttachmentLeaseRegistry

end Ctl.Core
