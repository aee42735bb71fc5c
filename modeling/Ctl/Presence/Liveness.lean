import Ctl.Presence.Registry

/-!
# The registry shows live channels

A lease that is linked is locked by its owner until the owner has closed it (`Inv.guarded`), so a reader
that gets the lock sweeps the files of an owner that is gone. A reader that does not get the lock takes
this as a sign of life. The sign is false where the lock is held by another reader, which has not come
to the removal of the record: then the record of an owner that has crashed is listed. `Told` is the
condition that this does not happen.
-/

namespace Ctl.Presence
open Ctl.Base

namespace State
variable {env : Env} {s t : State} {id : String} {u : State} {stage : Stage} {a : Action} {r : Nat} {reader : Reader}
  {before : Sweep} {actions : List Action} {extension : Extension} {ok : Bool} {bytes : List UInt8}

/-! ### What the updates leave alone -/

@[simp] lemma setFile_owners (id extension contents) :
    (s.setFile id extension contents).owners = s.owners := rfl

@[simp] lemma setFile_lock (id extension contents) :
    (s.setFile id extension contents).lock = s.lock := rfl

@[simp] lemma setFile_readers (id extension contents) :
    (s.setFile id extension contents).readers = s.readers := rfl

@[simp] lemma setLock_owners (id holder) : (s.setLock id holder).owners = s.owners := rfl

@[simp] lemma setLock_files (id holder) : (s.setLock id holder).files = s.files := rfl

@[simp] lemma setLock_readers (id holder) : (s.setLock id holder).readers = s.readers := rfl

@[simp] lemma setStage_files (id stage) : (s.setStage id stage).files = s.files := rfl

@[simp] lemma setStage_lock (id stage) : (s.setStage id stage).lock = s.lock := rfl

@[simp] lemma setStage_readers (id stage) : (s.setStage id stage).readers = s.readers := rfl

@[simp] lemma setReader_files (r reader) : (s.setReader r reader).files = s.files := rfl

@[simp] lemma setReader_lock (r reader) : (s.setReader r reader).lock = s.lock := rfl

@[simp] lemma setReader_owners (r reader) : (s.setReader r reader).owners = s.owners := rfl

lemma setFile_files (id extension contents) :
    (s.setFile id extension contents).files =
      Function.update s.files id (Function.update (s.files id) extension contents) := rfl

lemma removeFile_files (id extension ok id' extension') :
    (s.removeFile id extension ok).files id' extension' = s.files id' extension' ∨
      (s.removeFile id extension ok).files id' extension' = none := by
  rw [removeFile]
  split
  case isFalse => exact .inl rfl
  case isTrue =>
    rw [setFile_files]
    by_cases same : id' = id
    · subst same
      rw [Function.update_self]
      by_cases ext : extension' = extension
      · subst ext
        exact .inr (Function.update_self ..)
      · exact .inl (Function.update_of_ne ext ..)
    · rw [Function.update_of_ne same]
      exact .inl rfl

lemma removeFile_other (id extension ok) {id' extension'} (other : id' ≠ id ∨ extension' ≠ extension) :
    (s.removeFile id extension ok).files id' extension' = s.files id' extension' := by
  rw [removeFile]
  split
  case isFalse => rfl
  case isTrue =>
    rw [setFile_files]
    by_cases same : id' = id
    · subst same
      have ext : extension' ≠ extension := other.resolve_left fun h => h rfl
      rw [Function.update_self, Function.update_of_ne ext]
    · rw [Function.update_of_ne same]

@[simp] lemma removeFile_owners (id extension ok) : (s.removeFile id extension ok).owners = s.owners := by
  rw [removeFile]
  split <;> rfl

@[simp] lemma removeFile_lock (id extension ok) : (s.removeFile id extension ok).lock = s.lock := by
  rw [removeFile]
  split <;> rfl

@[simp] lemma removeFile_readers (id extension ok) : (s.removeFile id extension ok).readers = s.readers := by
  rw [removeFile]
  split <;> rfl

@[simp] lemma unlock_files (id holder) : (s.unlock id holder).files = s.files := by
  rw [unlock]
  split <;> rfl

@[simp] lemma unlock_owners (id holder) : (s.unlock id holder).owners = s.owners := by
  rw [unlock]
  split <;> rfl

@[simp] lemma unlock_readers (id holder) : (s.unlock id holder).readers = s.readers := by
  rw [unlock]
  split <;> rfl

lemma unlock_lock (id holder id') :
    (s.unlock id holder).lock id' = s.lock id' ∨
      (id' = id ∧ s.lock id = some holder ∧ (s.unlock id holder).lock id' = none) := by
  rw [unlock]
  split
  case isFalse => exact .inl rfl
  case isTrue held =>
    by_cases same : id' = id
    · subst same
      exact .inr ⟨rfl, held, Function.update_self ..⟩
    · exact .inl (Function.update_of_ne same ..)

lemma unlock_self (id holder) : (s.unlock id holder).lock id ≠ some holder := by
  rw [unlock]
  split
  case isTrue =>
    show Function.update s.lock id none id ≠ some holder
    rw [Function.update_self]
    exact (Option.some_ne_none _).symm
  case isFalse other => exact other

lemma not_released (alive : s.alive id) : ¬ (s.owners id).stage.released := by
  intro late
  rw [State.alive, Stage.alive, late] at alive
  simp at alive

/-! ### What a step can do -/

@[simp] lemma setStage_stage (id stage) : ((s.setStage id stage).owners id).stage = stage := by
  show (Function.update s.owners id _ id).stage = stage
  rw [Function.update_self]

/-- What a step of the owner of `id` can do. -/
structure OwnerStep (s t : State) (id : String) : Prop where
  readers : t.readers = s.readers
  others : ∀ id', id' ≠ id → t.files id' = s.files id' ∧ t.lock id' = s.lock id' ∧
    t.owners id' = s.owners id'
  used : t.alive id ∨ ((s.owners id).stage ≠ .unused ∧ (t.owners id).stage.released)
  released : (s.owners id).stage.released → (t.owners id).stage.released
  locked : (t.owners id).stage = .locked → t.lock id = some .owner
  held : (s.lock id = some .owner → s.alive id) → t.lock id = some .owner → t.alive id
  lease : (t.owners id).stage.released ∨ t.lock id = some .owner ∨
    (t.lock id = s.lock id ∧ ((s.owners id).stage = .locked ∨ t.files id .lease = s.files id .lease))

structure ReaderStep (s t : State) (r : Nat) : Prop where
  owners : t.owners = s.owners
  others : ∀ r', r' ≠ r → t.readers r' = s.readers r'
  files : ∀ id, (∀ sweep, (s.readers r).phase ≠ .sweeping id sweep) → t.files id = s.files id
  removed : ∀ id extension, t.files id extension = s.files id extension ∨ t.files id extension = none
  lock : ∀ id, t.lock id = some .owner ↔ s.lock id = some .owner
  opened : ∀ id, (t.readers r).phase = .opened id → s.files id .lease ≠ none
  sweeping : ∀ id sweep, (t.readers r).phase = .sweeping id sweep →
    (∃ before, (s.readers r).phase = .sweeping id before) ∨
      ((s.readers r).phase = .opened id ∧ s.lock id = none)

lemma OwnerStep.of_setStage (readers : u.readers = s.readers) (owners : u.owners = s.owners)
    (others : ∀ id', id' ≠ id → u.files id' = s.files id' ∧ u.lock id' = s.lock id')
    (used : stage.alive ∨ ((s.owners id).stage ≠ .unused ∧ stage.released))
    (released : (s.owners id).stage.released → stage.released) (locked : stage = .locked → u.lock id = some .owner)
    (held : (s.lock id = some .owner → s.alive id) → u.lock id = some .owner → stage.alive)
    (lease : stage.released ∨ u.lock id = some .owner ∨ (u.lock id = s.lock id ∧
      ((s.owners id).stage = .locked ∨ u.files id .lease = s.files id .lease))) :
    OwnerStep s (u.setStage id stage) id := by
  have moved : ((u.setStage id stage).owners id).stage = stage := setStage_stage id stage
  refine ⟨readers, ?_, ?_, ?_, ?_, ?_, ?_⟩
  · intro id' ne
    refine ⟨(others id' ne).1, (others id' ne).2, ?_⟩
    show Function.update u.owners id _ id' = s.owners id'
    rw [Function.update_of_ne ne, owners]
  · rw [State.alive, moved]
    exact used
  · rw [moved]
    exact released
  · rw [moved]
    exact locked
  · show _ → _ → ((u.setStage id stage).owners id).stage.alive
    rw [moved]
    exact held
  · rw [moved]
    exact lease

lemma OwnerStep.move {id : String} {stage : Stage} (released : (s.owners id).stage.released → stage.released)
    (unlocked : stage ≠ .locked) (alive : stage.alive) : OwnerStep s (s.setStage id stage) id := by
  apply OwnerStep.of_setStage rfl rfl (fun _ _ => ⟨rfl, rfl⟩) (.inl alive) released
  · intro locked
    exact absurd locked unlocked
  · exact fun _ _ => alive
  · exact .inr (.inr ⟨rfl, .inr rfl⟩)

lemma OwnerStep.remove (extension : Extension) (ok : Bool) (released : (s.owners id).stage.released → stage.released)
    (unlocked : stage ≠ .locked) (kept : (extension ≠ .lease ∧ stage.alive) ∨ (s.owners id).stage.released) :
    OwnerStep s ((s.removeFile id extension ok).setStage id stage) id := by
  apply OwnerStep.of_setStage (removeFile_readers ..) (removeFile_owners ..) ?_ ?_ released
  · intro locked
    exact absurd locked unlocked
  · rw [removeFile_lock]
    intro before held
    cases kept with
    | inl early => exact early.2
    | inr late => exact absurd late (not_released (before held))
  · rw [removeFile_lock]
    cases kept with
    | inl early =>
      exact .inr (.inr ⟨rfl, .inr (removeFile_other id extension ok (.inr early.1.symm))⟩)
    | inr late => exact .inl (released late)
  · intro id' ne
    rw [removeFile_lock]
    refine ⟨?_, rfl⟩
    funext extension'
    exact removeFile_other id extension ok (.inl ne)
  · cases kept with
    | inl early => exact .inl early.2
    | inr late =>
      refine .inr ⟨fun unused => ?_, released late⟩
      rw [unused] at late
      cases late

lemma OwnerStep.write (contents : Option (List UInt8)) (released : (s.owners id).stage.released → stage.released)
    (unlocked : stage ≠ .locked) (alive : stage.alive) (kept : extension ≠ .lease ∨ (s.owners id).stage = .locked) :
    OwnerStep s ((s.setFile id extension contents).setStage id stage) id := by
  refine OwnerStep.of_setStage rfl rfl ?_ (.inl alive) released
    (fun locked => absurd locked unlocked) (fun _ _ => alive) ?_
  · intro id' ne
    refine ⟨?_, rfl⟩
    rw [setFile_files, Function.update_of_ne ne]
  · refine .inr (.inr ⟨rfl, ?_⟩)
    cases kept with
    | inl other =>
      right
      rw [setFile_files, Function.update_self, Function.update_of_ne other.symm]
    | inr before => exact .inl before

lemma OwnerStep.close (used : (s.owners id).stage ≠ .unused) (late : stage.released) :
    OwnerStep s ((s.unlock id .owner).setStage id stage) id := by
  apply OwnerStep.of_setStage (unlock_readers ..) (unlock_owners ..) ?_ (.inr ⟨used, late⟩)
    (fun _ => late) ?_ ?_ (.inl late)
  · intro id' ne
    rw [unlock_files]
    refine ⟨rfl, ?_⟩
    cases unlock_lock (s := s) id .owner id' with
    | inl same => exact same
    | inr own => exact absurd own.1 ne
  · rintro rfl
    cases late
  · exact fun _ held => absurd held (unlock_self id .owner)

lemma released_of_early {late : Stage} (before : (s.owners id).stage = stage) (early : stage.released = false) :
    (s.owners id).stage.released → late.released := by
  rw [before, early]
  exact fun closed => absurd closed Bool.false_ne_true

lemma own_ownerStep (h : s.own id ok = some t) : OwnerStep s t id := by
  rw [own] at h
  split at h
  case h_1 before =>
    split at h
    case isFalse =>
      obtain rfl := Option.some.inj h
      exact OwnerStep.move (released_of_early before rfl) (by decide) rfl
    case isTrue =>
      split at h
      case isFalse => cases h
      case isTrue free =>
        obtain rfl := Option.some.inj h
        have held : (s.setLock id (some .owner)).lock id = some .owner := Function.update_self ..
        refine OwnerStep.of_setStage rfl rfl ?_ (.inl rfl) (released_of_early before rfl) (fun _ => held)
          (fun _ _ => rfl) (.inr (.inl held))
        intro id' ne
        exact ⟨rfl, Function.update_of_ne ne ..⟩
  case h_2 before =>
    split at h
    case isFalse =>
      obtain rfl := Option.some.inj h
      exact OwnerStep.move (released_of_early before rfl) (by decide) rfl
    case isTrue =>
      obtain rfl := Option.some.inj h
      exact OwnerStep.write _ (released_of_early before rfl) (by decide) rfl (.inr before)
  case h_3 before =>
    obtain rfl := Option.some.inj h
    apply OwnerStep.remove
    · exact released_of_early before rfl
    · split <;> decide
    · refine .inl ⟨by decide, ?_⟩
      split <;> rfl
  case h_4 bytes before | h_5 bytes before =>
    split at h
    case isFalse =>
      obtain rfl := Option.some.inj h
      exact OwnerStep.move (released_of_early before rfl) (by decide) rfl
    case isTrue =>
      obtain rfl := Option.some.inj h
      exact OwnerStep.write _ (released_of_early before rfl) Stage.noConfusion rfl (.inl (by decide))
  case h_6 before =>
    split at h
    case isFalse =>
      obtain rfl := Option.some.inj h
      exact OwnerStep.move (released_of_early before rfl) (by decide) rfl
    case isTrue =>
      obtain rfl := Option.some.inj h
      exact OwnerStep.write _ (released_of_early before rfl) (by decide) rfl (.inl (by decide))
  case h_7 before | h_8 before | h_9 before | h_10 before =>
    obtain rfl := Option.some.inj h
    exact OwnerStep.remove _ ok (released_of_early before rfl) (by decide) (.inl ⟨by decide, rfl⟩)
  case h_11 before =>
    obtain rfl := Option.some.inj h
    refine OwnerStep.close ?_ rfl
    rw [before]
    exact Stage.noConfusion
  case h_12 before | h_13 before =>
    obtain rfl := Option.some.inj h
    have late : (s.owners id).stage.released := by rw [before]; rfl
    exact OwnerStep.remove _ ok (fun _ => rfl) (by decide) (.inr late)
  case h_14 => cases h

lemma stamp_ownerStep {now : Option Nat} (h : s.stamp env id now = some t) : OwnerStep s t id := by
  rw [stamp] at h
  split at h
  case isFalse => cases h
  case isTrue before =>
    dsimp only at h
    split at h <;> obtain rfl := Option.some.inj h
    · exact OwnerStep.move (released_of_early before rfl) Stage.noConfusion rfl
    · exact OwnerStep.move (released_of_early before rfl) Stage.noConfusion rfl

lemma step_ownerStep (h : s.step env a = some t) (own : a.reader = none) : ∃ id, OwnerStep s t id := by
  cases a with
  | register id client service source =>
    rw [step] at h
    split at h
    case isTrue => cases h
    case isFalse new =>
      obtain rfl := Option.some.inj h
      rw [Bool.or_eq_true, not_or] at new
      have unused : (s.owners id).stage = .unused := by simpa using new.1
      refine ⟨id, rfl, ?_, .inl ?_, released_of_early unused rfl, ?_, ?_, ?_⟩
      · intro id' ne
        refine ⟨?_, rfl, Function.update_of_ne ne ..⟩
        rw [setFile_files, Function.update_of_ne ne]
      · simp [State.alive, Stage.alive, Stage.released]
      · intro locked
        simp at locked
      · intro before held
        have alive := before held
        rw [State.alive, unused] at alive
        cases alive
      · refine .inr (.inr ⟨rfl, .inr ?_⟩)
        rw [setFile_files, Function.update_self, Function.update_of_ne (by decide)]
  | own id ok => exact ⟨id, own_ownerStep h⟩
  | stamp id now => exact ⟨id, stamp_ownerStep h⟩
  | drop id =>
    rw [step] at h
    split at h
    case isFalse => cases h
    case isTrue before =>
      obtain rfl := Option.some.inj h
      exact ⟨id, OwnerStep.move (released_of_early before rfl) (by decide) rfl⟩
  | crash id =>
    rw [step] at h
    split at h
    case isTrue => cases h
    case isFalse used =>
      obtain rfl := Option.some.inj h
      exact ⟨id, OwnerStep.close used rfl⟩
  | _ => cases own

def plain : Phase → Bool
  | .opened _ | .sweeping _ _ => false
  | _ => true

lemma ReaderStep.of_setReader (owners : u.owners = s.owners) (readers : u.readers = s.readers)
    (files : ∀ id, (∀ sweep, (s.readers r).phase ≠ .sweeping id sweep) → u.files id = s.files id)
    (removed : ∀ id extension, u.files id extension = s.files id extension ∨ u.files id extension = none)
    (lock : ∀ id, u.lock id = some .owner ↔ s.lock id = some .owner)
    (opened : ∀ id, reader.phase = .opened id → s.files id .lease ≠ none)
    (sweeping : ∀ id sweep, reader.phase = .sweeping id sweep →
      (∃ before, (s.readers r).phase = .sweeping id before) ∨
        ((s.readers r).phase = .opened id ∧ s.lock id = none)) : ReaderStep s (u.setReader r reader) r := by
  have moved : ((u.setReader r reader).readers r) = reader := Function.update_self ..
  refine ⟨owners, ?_, files, removed, lock, ?_, ?_⟩
  · intro r' ne
    show Function.update u.readers r reader r' = s.readers r'
    rw [Function.update_of_ne ne, readers]
  · rw [moved]
    exact opened
  · rw [moved]
    exact sweeping

lemma ReaderStep.move {r : Nat} {reader : Reader} (next : plain reader.phase) :
    ReaderStep s (s.setReader r reader) r := by
  apply ReaderStep.of_setReader rfl rfl (fun _ _ => rfl) (fun _ _ => .inl rfl) (fun _ => .rfl)
  · intro id opened
    rw [opened] at next
    cases next
  · intro id sweep sweeping
    rw [sweeping] at next
    cases next

lemma ReaderStep.of_sweep (now : (s.readers r).phase = .sweeping id before)
    (next : plain reader.phase ∨ ∃ after, reader.phase = .sweeping id after) (owners : u.owners = s.owners)
    (readers : u.readers = s.readers) (files : ∀ id', id' ≠ id → u.files id' = s.files id')
    (removed : ∀ id extension, u.files id extension = s.files id extension ∨ u.files id extension = none)
    (lock : ∀ id, u.lock id = some .owner ↔ s.lock id = some .owner) : ReaderStep s (u.setReader r reader) r := by
  apply ReaderStep.of_setReader owners readers ?_ removed lock
  · intro id' opened
    cases next with
    | inl next => simp [opened, plain] at next
    | inr next =>
      obtain ⟨after, next⟩ := next
      cases opened.symm.trans next
  · intro id' sweep sweeping
    cases next with
    | inl next => simp [sweeping, plain] at next
    | inr next =>
      obtain ⟨after, next⟩ := next
      cases sweeping.symm.trans next
      exact .inl ⟨before, now⟩
  · intro id' other
    exact files id' fun same => other before (same ▸ now)

lemma ReaderStep.remove (extension ok) (now : (s.readers r).phase = .sweeping id before)
    (next : plain reader.phase ∨ ∃ after, reader.phase = .sweeping id after) :
    ReaderStep s ((s.removeFile id extension ok).setReader r reader) r := by
  apply ReaderStep.of_sweep now next (removeFile_owners ..) (removeFile_readers ..)
  · intro id' ne
    funext extension'
    exact removeFile_other id extension ok (.inl ne)
  · exact removeFile_files id extension ok
  · rw [removeFile_lock]
    exact fun _ => .rfl

lemma ReaderStep.unlock (now : (s.readers r).phase = .sweeping id before)
    (next : plain reader.phase ∨ ∃ after, reader.phase = .sweeping id after) :
    ReaderStep s ((s.unlock id (.reader r)).setReader r reader) r := by
  apply ReaderStep.of_sweep now next (unlock_owners ..) (unlock_readers ..)
  · intro id' _
    rw [unlock_files]
  · intro id' extension
    rw [unlock_files]
    exact .inl rfl
  · intro id'
    cases unlock_lock (s := s) id (.reader r) id' with
    | inl same => rw [same]
    | inr own =>
      obtain ⟨rfl, before, after⟩ := own
      rw [before, after]
      simp

lemma sweep_readerStep (sweeping : (s.readers r).phase = .sweeping id before) :
    ReaderStep s (s.sweep r id ok before) r := by
  cases before with
  | unlock => exact ReaderStep.unlock sweeping (.inr ⟨_, rfl⟩)
  | lockTemporary => exact ReaderStep.remove _ ok sweeping (.inl rfl)
  | record | temporary | lease | leaseAgain =>
    exact ReaderStep.remove _ ok sweeping (.inr ⟨_, rfl⟩)

lemma entry_readerStep (listing : (s.readers r).phase = .listing) : ReaderStep s (s.entry env r id extension) r := by
  rw [entry]
  split
  case isTrue =>
    have stays : ReaderStep s (s.setReader r (s.readers r)) r := by
      apply ReaderStep.move
      rw [listing]
      rfl
    rwa [setReader, Function.update_eq_self] at stays
  case isFalse =>
    dsimp only
    split
    case isTrue => exact ReaderStep.move rfl
    case isFalse =>
      split
      case isTrue => exact ReaderStep.move rfl
      case isFalse => exact ReaderStep.move rfl

lemma check_readerStep : ReaderStep s (s.check env r id bytes) r := by
  rw [check]
  split
  case isTrue => exact ReaderStep.move rfl
  case isFalse =>
    split
    case h_1 => exact ReaderStep.move rfl
    case h_2 =>
      split
      case isTrue => exact ReaderStep.move rfl
      case isFalse => exact ReaderStep.move rfl

lemma step_readerStep (h : s.step env a = some t) (own : a.reader = some r) : ReaderStep s t r := by
  cases a with
  | register | own | stamp | drop | crash => cases own
  | begin =>
    cases own
    rw [step] at h
    split at h
    case h_1 | h_2 =>
      obtain rfl := Option.some.inj h
      exact ReaderStep.move rfl
    case h_3 => cases h
  | finish =>
    cases own
    rw [step] at h
    split at h
    case h_1 =>
      obtain rfl := Option.some.inj h
      exact ReaderStep.move rfl
    case h_2 => cases h
  | ioError =>
    cases own
    rw [step] at h
    split at h
    case isTrue =>
      obtain rfl := Option.some.inj h
      exact ReaderStep.move rfl
    case isFalse => cases h
  | openRecord =>
    cases own
    rw [step] at h
    split at h
    case h_2 => cases h
    case h_1 id holder blocked =>
      split at h <;> obtain rfl := Option.some.inj h
      · exact ReaderStep.move rfl
      · exact ReaderStep.move rfl
  | entry r id extension =>
    cases own
    rw [step] at h
    split at h
    case h_2 => cases h
    case h_1 listing =>
      obtain rfl := Option.some.inj h
      exact entry_readerStep listing
  | openLease =>
    cases own
    rw [step] at h
    split at h
    case h_2 => cases h
    case h_1 id opening =>
      split at h
      case h_2 =>
        obtain rfl := Option.some.inj h
        exact ReaderStep.move rfl
      case h_1 lease found =>
        obtain rfl := Option.some.inj h
        apply ReaderStep.of_setReader rfl rfl (fun _ _ => rfl) (fun _ _ => .inl rfl) (fun _ => .rfl)
        · intro id' opened
          cases opened
          rw [found]
          exact Option.some_ne_none lease
        · intro id' sweep sweeping
          cases sweeping
  | tryLock =>
    cases own
    rw [step] at h
    split at h
    case h_2 => cases h
    case h_1 id opened =>
      split at h
      case h_2 =>
        obtain rfl := Option.some.inj h
        exact ReaderStep.move rfl
      case h_1 free =>
        obtain rfl := Option.some.inj h
        refine ReaderStep.of_setReader rfl rfl (fun _ _ => rfl) (fun _ _ => .inl rfl) ?_ ?_ ?_
        · intro id'
          show Function.update s.lock id _ id' = some .owner ↔ _
          by_cases same : id' = id
          · rw [same, Function.update_self, free]
            simp
          · rw [Function.update_of_ne same]
        · intro id' other
          cases other
        · intro id' sweep sweeping
          cases sweeping
          exact .inr ⟨opened, free⟩
  | sweep r ok =>
    cases own
    rw [step] at h
    split at h
    case h_2 => cases h
    case h_1 id before sweeping =>
      obtain rfl := Option.some.inj h
      exact sweep_readerStep sweeping
  | check =>
    cases own
    rw [step] at h
    split at h
    case h_2 => cases h
    case h_1 id bytes reading =>
      obtain rfl := Option.some.inj h
      exact check_readerStep
  | quit =>
    cases own
    rw [step] at h
    split at h
    case h_1 id before sweeping =>
      obtain rfl := Option.some.inj h
      exact ReaderStep.unlock sweeping (.inl rfl)
    case h_2 =>
      obtain rfl := Option.some.inj h
      exact ReaderStep.move rfl

/-! ### The invariant -/

/-- The lease of a live owner is locked by it once it is linked, and swept leases are of owners that are
    gone. -/
structure Inv (s : State) : Prop where
  unused : ∀ id, (s.owners id).stage = .unused → s.files id .json = none
  locked : ∀ id, (s.owners id).stage = .locked → s.lock id = some .owner
  held : ∀ id, s.lock id = some .owner → s.alive id
  guarded : ∀ id, (s.owners id).stage.released ∨ s.lock id = some .owner ∨
    (s.files id .lease = none ∧ ∀ r, (s.readers r).phase ≠ .opened id)
  swept : ∀ id r sweep, (s.readers r).phase = .sweeping id sweep → (s.owners id).stage.released

lemma Inv.released (inv : Inv s) (opened : (s.readers r).phase = .opened id) (free : s.lock id = none) :
    (s.owners id).stage.released := by
  cases inv.guarded id with
  | inl gone => exact gone
  | inr guarded =>
    cases guarded with
    | inl held => cases free.symm.trans held
    | inr absent => exact absurd opened (absent.2 r)

lemma OwnerStep.not_unused (move : OwnerStep s t id) : (t.owners id).stage ≠ .unused := by
  intro unused
  cases move.used with
  | inl alive =>
    rw [State.alive, unused] at alive
    cases alive
  | inr late =>
    rw [unused] at late
    cases late.2

lemma OwnerStep.inv (move : OwnerStep s t id) (inv : Inv s) : Inv t := by
  refine ⟨fun id' unused => ?_, fun id' => ?_, fun id' => ?_, fun id' => ?_, fun id' r sweep sweeping => ?_⟩
  · have other : id' ≠ id := fun same => move.not_unused (same ▸ unused)
    obtain ⟨files, _, owners⟩ := move.others id' other
    rw [owners] at unused
    rw [files]
    exact inv.unused id' unused
  · by_cases same : id' = id
    · subst same
      exact move.locked
    · obtain ⟨_, lock, owners⟩ := move.others id' same
      rw [lock, owners]
      exact inv.locked id'
  · by_cases same : id' = id
    · subst same
      exact move.held (inv.held id')
    · obtain ⟨_, lock, owners⟩ := move.others id' same
      rw [lock, State.alive, owners]
      exact inv.held id'
  · rw [move.readers]
    by_cases same : id' = id
    · subst same
      cases move.lease with
      | inl late => exact .inl late
      | inr lease =>
        cases lease with
        | inl held => exact .inr (.inl held)
        | inr kept =>
          obtain ⟨lock, lease⟩ := kept
          rw [lock]
          cases lease with
          | inl locked => exact .inr (.inl (inv.locked id' locked))
          | inr lease =>
            rw [lease]
            exact (inv.guarded id').imp_left move.released
    · obtain ⟨files, lock, owners⟩ := move.others id' same
      rw [files, lock, owners]
      exact inv.guarded id'
  · rw [move.readers] at sweeping
    have gone := inv.swept id' r sweep sweeping
    by_cases same : id' = id
    · subst same
      exact move.released gone
    · rw [(move.others id' same).2.2]
      exact gone

lemma ReaderStep.inv (move : ReaderStep s t r) (inv : Inv s) : Inv t := by
  refine ⟨fun id unused => ?_, fun id locked => ?_, fun id held => ?_, fun id => ?_,
    fun id r' sweep sweeping => ?_⟩
  · rw [move.owners] at unused
    cases move.removed id .json with
    | inl same => exact same.trans (inv.unused id unused)
    | inr removed => exact removed
  · rw [move.owners] at locked
    exact (move.lock id).2 (inv.locked id locked)
  · rw [State.alive, move.owners]
    exact inv.held id ((move.lock id).1 held)
  · rw [move.owners]
    cases inv.guarded id with
    | inl gone => exact .inl gone
    | inr guarded =>
      cases guarded with
      | inl held => exact .inr (.inl ((move.lock id).2 held))
      | inr absent =>
        refine .inr (.inr ⟨?_, fun r' opened => ?_⟩)
        · cases move.removed id .lease with
          | inl same => exact same.trans absent.1
          | inr removed => exact removed
        · by_cases same : r' = r
          · subst same
            exact move.opened id opened absent.1
          · rw [move.others r' same] at opened
            exact absent.2 r' opened
  · rw [move.owners]
    by_cases same : r' = r
    · subst same
      cases move.sweeping id sweep sweeping with
      | inl before =>
        obtain ⟨before, sweeping⟩ := before
        exact inv.swept id r' before sweeping
      | inr opened => exact inv.released opened.1 opened.2
    · rw [move.others r' same] at sweeping
      exact inv.swept id r' sweep sweeping

theorem Inv.step (inv : Inv s) (h : s.step env a = some t) : Inv t := by
  cases own : a.reader with
  | some r => exact (step_readerStep h own).inv inv
  | none =>
    obtain ⟨id, move⟩ := step_ownerStep h own
    exact move.inv inv

/-- A reader that has not got the lock because of another reader finds no record, or one of a
    registration that had not ended when the call began. -/
def Told (s : State) : Action → Prop
  | .openRecord r =>
    match (s.readers r).phase with
    | .blocked id (.reader _) => s.files id .json = none ∨ (s.readers r).ended id = false
    | _ => True
  | _ => True

instance : ∀ s a, Decidable (Told s a) := by
  intro s a
  unfold Told
  split
  · split <;> infer_instance
  · infer_instance

/-- An owner was alive at some moment of a sequence of steps. -/
def Lived (env : Env) (s : State) (actions : List Action) (id : String) : Prop :=
  ∃ before after u, actions = before ++ after ∧ exec (step env) s before = some u ∧ u.alive id

lemma Lived.concat (lived : Lived env s actions id) (a : Action) : Lived env s (actions ++ [a]) id := by
  obtain ⟨before, after, u, rfl, run, alive⟩ := lived
  exact ⟨before, after ++ [a], u, List.append_assoc .., run, alive⟩

lemma Lived.cons {u : State} {a : Action} {actions : List Action} {id : String}
    (lived : Lived env u actions id) (h : s.step env a = some u) : Lived env s (a :: actions) id := by
  obtain ⟨before, after, w, rfl, run, alive⟩ := lived
  refine ⟨a :: before, after, w, rfl, ?_, alive⟩
  rw [exec, List.foldlM_cons, h]
  exact run

lemma unused_of (alive : s.alive id = false) (since : s.ended id = false) : (s.owners id).stage = .unused := by
  rw [State.ended] at since
  rw [State.alive, Stage.alive, since] at alive
  simpa using alive

lemma lived_of_used (run : exec (step env) s actions = some t) (since : s.ended id = false)
    (used : (t.owners id).stage ≠ .unused) : Lived env s actions id := by
  induction actions generalizing s with
  | nil =>
    obtain rfl : s = t := Option.some.inj run
    refine ⟨[], [], s, rfl, rfl, ?_⟩
    by_contra alive
    exact used (unused_of (Bool.eq_false_iff.2 alive) since)
  | cons a actions ih =>
    obtain ⟨u, h, rest⟩ := exec_cons run
    by_cases alive : s.alive id
    · exact ⟨[], _, s, rfl, rfl, alive⟩
    -- A registration that is not alive and has not ended is yet to begin, and begins alive.
    have unused := unused_of (Bool.eq_false_iff.2 alive) since
    cases own : a.reader with
    | some r =>
      have owners := (step_readerStep h own).owners
      refine (ih rest ?_).cons h
      rw [State.ended, owners]
      exact since
    | none =>
      obtain ⟨id', move⟩ := step_ownerStep h own
      by_cases same : id = id'
      · subst same
        have born := move.used.resolve_right fun late => late.1 unused
        refine ⟨[a], actions, u, rfl, ?_, born⟩
        rw [exec, List.foldlM_cons, h]
        rfl
      · refine (ih rest ?_).cons h
        rw [State.ended, (move.others id same).2.2]
        exact since

/-- What a reader has learned in a call that began in `s`. -/
structure Learned (env : Env) (s : State) (actions : List Action) (reader : Reader) : Prop where
  ended : reader.ended = s.ended
  records : ∀ record ∈ reader.records, Lived env s actions record.connectionId
  blocked : ∀ id, reader.phase = .blocked id .owner → Lived env s actions id
  reading : ∀ id bytes, reader.phase = .reading id bytes → Lived env s actions id
  done : ∀ result, reader.phase = .done (.ok result) →
    ∀ record ∈ result, Lived env s actions record.connectionId

lemma Learned.move {actions : List Action} {reader : Reader} (learned : Learned env s actions reader)
    (a : Action) {phase : Phase} {checked : Nat} (blocked : ∀ id, phase ≠ .blocked id .owner)
    (reading : ∀ id bytes, phase ≠ .reading id bytes) (done : ∀ result, phase ≠ .done (.ok result)) :
    Learned env s (actions ++ [a]) ⟨phase, checked, reader.records, reader.ended⟩ where
  ended := learned.ended
  records record mem := (learned.records record mem).concat a
  blocked id now := absurd now (blocked id)
  reading id bytes now := absurd now (reading id bytes)
  done result now := absurd now (done result)

lemma Learned.concat (learned : Learned env s actions reader) (a : Action) : Learned env s (actions ++ [a]) reader where
  ended := learned.ended
  records record mem := (learned.records record mem).concat a
  blocked id now := (learned.blocked id now).concat a
  reading id bytes now := (learned.reading id bytes now).concat a
  done result now record mem := (learned.done result now record mem).concat a

@[simp] lemma setReader_self (r reader) : (s.setReader r reader).readers r = reader :=
  Function.update_self ..

@[simp] lemma setPhase_self (r phase) :
    (s.setPhase r phase).readers r = { s.readers r with phase := phase } := Function.update_self ..

lemma Learned.check (learned : Learned env s actions (u.readers r)) (a : Action) (lived : Lived env s actions id) :
    Learned env s (actions ++ [a]) ((u.check env r id bytes).readers r) := by
  rw [State.check]
  split
  case isTrue =>
    rw [setPhase_self]
    apply learned.move a <;> simp
  case isFalse =>
    split
    case h_1 =>
      rw [setPhase_self]
      apply learned.move a <;> simp
    case h_2 record decoded =>
      split
      case isTrue =>
        rw [setPhase_self]
        apply learned.move a <;> simp
      case isFalse valid =>
        rw [Bool.or_eq_true, not_or, decide_eq_true_eq, not_not] at valid
        rw [setReader_self]
        refine ⟨learned.ended, ?_, nofun, nofun, nofun⟩
        intro record' mem
        cases List.mem_append.1 mem with
        | inl before => exact (learned.records record' before).concat a
        | inr new =>
          obtain rfl := List.mem_singleton.1 new
          rw [valid.1]
          exact lived.concat a

lemma Learned.own (learned : Learned env s actions (u.readers r)) (inv : Inv u)
    (run : exec (step env) s actions = some u) (h : u.step env a = some t) (own : a.reader = some r)
    (begun : a ≠ .begin r) (told : Told u a) : Learned env s (actions ++ [a]) (t.readers r) := by
  cases a with
  | register | own | stamp | drop | crash => cases own
  | begin r' =>
    obtain rfl := Option.some.inj own
    exact absurd rfl begun
  | entry r' id extension =>
    obtain rfl := Option.some.inj own
    rw [step] at h
    split at h
    case h_2 => cases h
    case h_1 listing =>
      obtain rfl := Option.some.inj h
      rw [entry]
      split
      case isTrue => exact learned.concat _
      case isFalse =>
        dsimp only
        split
        case isTrue =>
          rw [setReader_self]
          apply learned.move <;> simp
        case isFalse =>
          split
          case isTrue =>
            rw [setReader_self]
            apply learned.move <;> simp
          case isFalse =>
            rw [setReader_self]
            apply learned.move <;> simp
  | openLease r' =>
    obtain rfl := Option.some.inj own
    rw [step] at h
    split at h
    case h_2 => cases h
    case h_1 id opening =>
      split at h <;> obtain rfl := Option.some.inj h <;> rw [setPhase_self]
      · apply learned.move <;> simp
      · apply learned.move <;> simp
  | tryLock r' =>
    obtain rfl := Option.some.inj own
    rw [step] at h
    split at h
    case h_2 => cases h
    case h_1 id opened =>
      split at h
      case h_1 =>
        obtain rfl := Option.some.inj h
        rw [setPhase_self]
        apply learned.move <;> simp
      case h_2 holder held =>
        obtain rfl := Option.some.inj h
        rw [setPhase_self]
        refine ⟨learned.ended, fun record mem => (learned.records record mem).concat _, ?_, nofun, nofun⟩
        -- The lock of the owner is the sign of life that the reader is after.
        intro id' blocked
        obtain ⟨rfl, rfl⟩ := Phase.blocked.inj blocked
        exact ⟨actions, _, u, rfl, run, inv.held id held⟩
  | sweep r' ok =>
    obtain rfl := Option.some.inj own
    rw [step] at h
    split at h
    case h_2 => cases h
    case h_1 id sweep sweeping =>
      obtain rfl := Option.some.inj h
      cases sweep <;> rw [State.sweep, setPhase_self] <;> first
        | rw [removeFile_readers]; apply learned.move <;> simp
        | rw [unlock_readers]; apply learned.move <;> simp
  | openRecord r' =>
    obtain rfl := Option.some.inj own
    rw [step] at h
    split at h
    case h_2 => cases h
    case h_1 id holder blocked =>
      split at h
      case h_2 =>
        obtain rfl := Option.some.inj h
        rw [setPhase_self]
        apply learned.move <;> simp
      case h_1 bytes found =>
        obtain rfl := Option.some.inj h
        rw [setPhase_self]
        refine ⟨learned.ended, fun record mem => (learned.records record mem).concat _, nofun, ?_, nofun⟩
        intro id' bytes' reading
        obtain ⟨rfl, rfl⟩ := Phase.reading.inj reading
        cases holder with
        | owner => exact (learned.blocked id blocked).concat _
        | reader other =>
          rw [Told, blocked] at told
          cases told with
          | inl gone => cases gone.symm.trans found
          | inr since =>
            rw [learned.ended] at since
            have used : (u.owners id).stage ≠ .unused := by
              intro unused
              cases (inv.unused id unused).symm.trans found
            exact (lived_of_used run since used).concat _
  | check r' =>
    obtain rfl := Option.some.inj own
    rw [step] at h
    split at h
    case h_2 => cases h
    case h_1 id bytes reading =>
      obtain rfl := Option.some.inj h
      exact learned.check _ (learned.reading id bytes reading)
  | finish r' =>
    obtain rfl := Option.some.inj own
    rw [step] at h
    split at h
    case h_2 => cases h
    case h_1 listing =>
      obtain rfl := Option.some.inj h
      rw [setPhase_self]
      refine ⟨learned.ended, fun record mem => (learned.records record mem).concat _, nofun, nofun, ?_⟩
      intro result done record mem
      obtain rfl := Except.ok.inj (Phase.done.inj done)
      exact (learned.records record ((List.mem_insertionSort Precedes).1 mem)).concat _
  | ioError r' message =>
    obtain rfl := Option.some.inj own
    rw [step] at h
    split at h
    case isFalse => cases h
    case isTrue =>
      obtain rfl := Option.some.inj h
      rw [setPhase_self]
      apply learned.move <;> simp
  | quit r' =>
    obtain rfl := Option.some.inj own
    rw [step] at h
    split at h <;> obtain rfl := Option.some.inj h <;> rw [setPhase_self]
    · rw [unlock_readers]
      apply learned.move <;> simp
    · apply learned.move <;> simp

lemma Learned.step (learned : Learned env s actions (u.readers r)) (inv : Inv u)
    (run : exec (step env) s actions = some u) (h : u.step env a = some t) (begun : a ≠ .begin r) (told : Told u a) :
    Learned env s (actions ++ [a]) (t.readers r) := by
  cases own : a.reader with
  | none =>
    obtain ⟨id, move⟩ := step_ownerStep h own
    rw [move.readers]
    exact learned.concat a
  | some r' =>
    by_cases same : r = r'
    · subst same
      exact learned.own inv run h own begun told
    · rw [(step_readerStep h own).others r same]
      exact learned.concat a

lemma Inv.exec (inv : Inv s) (run : exec (State.step env) s actions = some t) : Inv t := by
  induction actions generalizing s with
  | nil =>
    obtain rfl : s = t := Option.some.inj run
    exact inv
  | cons a actions ih =>
    obtain ⟨u, h, rest⟩ := exec_cons run
    exact ih (inv.step h) rest

theorem Learned.run (learned : Learned env s [] (s.readers r)) (inv : Inv s)
    (run : exec (State.step env) s actions = some t) (begun : .begin r ∉ actions)
    (told : Allows (State.step env) Told s actions) : Learned env s actions (t.readers r) := by
  induction actions using List.reverseRecOn generalizing t with
  | nil =>
    obtain rfl : s = t := Option.some.inj run
    exact learned
  | append_singleton actions a ih =>
    obtain ⟨u, first, last⟩ := exec_concat run
    rw [List.mem_append, not_or, List.mem_singleton] at begun
    obtain ⟨before, now⟩ := Allows.concat first told
    have kept : Inv u := inv.exec first
    exact (ih first begun.1 before).step kept first last (Ne.symm begun.2) now

end State

open State

def channelId : String := "6f1c2a34-8b7d-4e59-9c0a-1d2e3f405162"

def channel : ServiceConnection := ⟨channelId, none, "ctmux", 1700000000000, none⟩

def listing (r : Nat) : List Action := [.openRecord r, .check r, .finish r]

end Ctl.Presence
