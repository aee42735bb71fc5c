import Ctl.Base.System
import Mathlib.Data.List.Basic
import Mathlib.Algebra.GroupWithZero.Nat

/-!
# The desktop's cache writer

Model of `apps/desktop/src-tauri/src/state/cache_writer.rs`. A producer enqueues the events of a terminal; a worker
persists them one by one, and may fail each time. What does not fit into the queue or its byte budget is lost, and what
follows a loss must not be persisted before a checkpoint. Both sides share a `Recovery`: an epoch that each loss
advances, and whether a checkpoint is awaited and has been requested.

`Writer` is the writer between two steps, with a log of what has happened. `Ordered` is what keeps the persisted events
whole, `Marked` what has gaps marked, and `Asked` what has checkpoints requested.
-/

namespace Ctl.Desktop
open Ctl.Base

/-- The kinds of events that the writer tells apart. -/
inductive EventKind where
  | checkpoint
  | output
  | ptyGeometryChanged
  | historySynced
  | other
  deriving DecidableEq

/-- An `AttachmentEvent`: its kind and its size (Rust `event_bytes`). -/
structure AttachmentEvent where
  kind : EventKind
  eventBytes : Nat
  deriving DecidableEq

def AttachmentEvent.isCheckpoint (event : AttachmentEvent) : Bool := event.kind = .checkpoint

def AttachmentEvent.bytes (event : AttachmentEvent) : Nat :=
  max (if event.eventBytes < 2 ^ 32 then event.eventBytes else 2 ^ 32 - 1) 1

structure Recovery where
  epoch : Nat
  waiting : Bool
  requested : Bool
  deriving DecidableEq

/-- Rust `Recovery::invalidate`. -/
def Recovery.invalidate (recovery : Recovery) : Recovery :=
  { recovery with epoch := if recovery.waiting then recovery.epoch else recovery.epoch + 1, waiting := true }

/-- A checkpoint is to be requested (the condition of Rust `Recovery::request`). -/
def Recovery.unasked (recovery : Recovery) : Bool := recovery.waiting && !recovery.requested

/-- Rust `PendingWrite`; the events of the terminal are numbered. -/
structure PendingWrite where
  index : Nat
  event : AttachmentEvent
  epoch : Nat
  deriving DecidableEq

/-- What happens: an event is enqueued or dropped, persisting it succeeds or fails, a checkpoint is requested, and a
    gap is marked. -/
inductive Entry where
  | enqueued (write : PendingWrite)
  | dropped (write : PendingWrite)
  | persisted (write : PendingWrite)
  | failed (write : PendingWrite)
  | requested
  | gap
  deriving DecidableEq

/-- Where Rust `run_writer` is: at each lock section, and at each call that may take time. -/
inductive Worker where
  | receiving
  | received (write : PendingWrite)
  | persisting (write : PendingWrite)
  | failed (write : PendingWrite)
  | releasing (write : PendingWrite)
  | requesting
  | marking (epoch : Nat)
  | closing
  | markingLast
  | returned
  deriving DecidableEq

structure Writer where
  recovery : Recovery
  /-- The free permits. -/
  capacity : Nat
  queue : List PendingWrite
  /-- The sender has been dropped. -/
  finished : Bool
  worker : Worker
  writtenEpoch : Option Nat
  markedEpoch : Option Nat
  lastError : Bool
  /-- The number of events that have been passed to `enqueue`. -/
  arrivals : Nat
  log : List Entry

namespace Writer

/-- Rust `CacheWriter::start`. -/
def start (bytes : Nat) : Writer where
  recovery := ⟨0, false, false⟩
  capacity := bytes
  queue := []
  finished := false
  worker := .receiving
  writtenEpoch := some 0
  markedEpoch := none
  lastError := false
  arrivals := 0
  log := []

def note (w : Writer) (entry : Entry) : Writer := { w with log := w.log ++ [entry] }

/-- Rust `Recovery::request`. -/
def request (w : Writer) : Writer :=
  if w.recovery.unasked then { w with recovery.requested := true }.note .requested else w

def pending (w : Writer) (event : AttachmentEvent) : PendingWrite := ⟨w.arrivals, event, w.recovery.epoch⟩

def accept (w : Writer) (event : AttachmentEvent) : Writer :=
  { w with
    arrivals := w.arrivals + 1
    capacity := w.capacity - event.bytes
    queue := w.queue ++ [w.pending event]
    recovery := if event.isCheckpoint then ⟨w.recovery.epoch, false, false⟩ else w.recovery }.note
      (.enqueued (w.pending event))

def drop (w : Writer) (event : AttachmentEvent) : Writer :=
  { w with arrivals := w.arrivals + 1, recovery := w.recovery.invalidate }.note (.dropped (w.pending event))

def room (slots : Nat) (w : Writer) (event : AttachmentEvent) : Bool :=
  event.bytes ≤ w.capacity && w.queue.length < slots

/-- Rust `CacheWriter::enqueue`. It holds the lock all the time, and the worker only makes room. -/
def enqueue (slots : Nat) (w : Writer) (event : AttachmentEvent) : Writer :=
  if event.kind = .other then w
  else if w.recovery.waiting && !event.isCheckpoint then
    { w with arrivals := w.arrivals + 1 }.note (.dropped (w.pending event))
  else if w.room slots event then w.accept event
  -- The answer did not fit. It is requested again once the worker has released space.
  else if event.isCheckpoint && w.recovery.waiting then { w.drop event with recovery.requested := false }
  else (w.drop event).request

def needsGap (w : Writer) : Bool :=
  w.writtenEpoch ≠ some w.recovery.epoch && w.markedEpoch ≠ some w.recovery.epoch

/-- One step of Rust `run_writer`; `ok` is whether persisting an event, or marking a gap, succeeds. -/
def work (w : Writer) (ok : Bool) : Option Writer :=
  match w.worker with
  | .receiving =>
    match w.queue with
    | write :: rest => some { w with worker := .received write, queue := rest }
    | [] => if w.finished then some { w with worker := .closing } else none
  | .received write =>
    some { w with worker := if write.epoch = w.recovery.epoch then .persisting write else .releasing write }
  | .persisting write =>
    if ok then
      some <| { w with
        worker := .releasing write
        writtenEpoch := if write.event.isCheckpoint then some write.epoch else w.writtenEpoch
        lastError := w.lastError && !write.event.isCheckpoint }.note (.persisted write)
    else some <| { w with worker := .failed write, lastError := true }.note (.failed write)
  | .failed write => some { w with worker := .releasing write, recovery := w.recovery.invalidate }
  | .releasing write => some { w with worker := .requesting, capacity := w.capacity + write.event.bytes }
  | .requesting =>
    some { w.request with worker := if w.needsGap then .marking w.recovery.epoch else .receiving }
  | .marking epoch =>
    some <| { w with worker := .receiving, markedEpoch := some epoch, lastError := w.lastError || !ok }.note .gap
  | .closing => some { w with worker := if w.needsGap then .markingLast else .returned }
  | .markingLast => some <| { w with worker := .returned, lastError := w.lastError || !ok }.note .gap
  | .returned => none

end Writer

/-- The producer enqueues an event or drops the sender, or the worker makes a step. -/
inductive WriterAction where
  | enqueue (event : AttachmentEvent)
  | finish
  | work (ok : Bool)

def Writer.step (slots : Nat) (w : Writer) : WriterAction → Option Writer
  | .enqueue event => if w.finished then none else some (w.enqueue slots event)
  | .finish => if w.finished then none else some { w with finished := true }
  | .work ok => w.work ok

/-! ### Outcomes of an enqueue -/

inductive Outcome (slots : Nat) (w : Writer) (event : AttachmentEvent) : Writer → Prop where
  | ignored : Outcome slots w event w
  | sent (fits : w.recovery.waiting → event.isCheckpoint) (room : w.room slots event) :
      Outcome slots w event (w.accept event)
  | refused (awaited : w.recovery.waiting) (plain : event.isCheckpoint = false) : Outcome slots w event (w.drop event)
  | unanswered (awaited : w.recovery.waiting) (is : event.isCheckpoint) (full : w.room slots event = false) :
      Outcome slots w event { w.drop event with recovery.requested := false }
  | lost (unawaited : w.recovery.waiting = false) : Outcome slots w event (w.drop event).request

lemma enqueue_outcome (slots : Nat) (w : Writer) (event : AttachmentEvent) :
    Outcome slots w event (w.enqueue slots event) := by
  unfold Writer.enqueue
  split
  · exact .ignored
  cases waiting : w.recovery.waiting with
  | false =>
    rw [Bool.false_and, Bool.and_false, if_neg Bool.false_ne_true, if_neg Bool.false_ne_true]
    split
    · exact .sent (fun awaited => by cases waiting.symm.trans awaited) ‹_›
    · exact .lost waiting
  | true =>
    cases is : event.isCheckpoint with
    | false =>
      have same : w.recovery.invalidate = w.recovery := by rw [Recovery.invalidate, if_pos waiting, ← waiting]
      have outcome : Outcome slots w event (w.drop event) := .refused waiting is
      rwa [Writer.drop, same] at outcome
    | true =>
      rw [Bool.not_true, Bool.and_false, Bool.and_true, if_neg Bool.false_ne_true, if_pos rfl]
      split
      · exact .sent (fun _ => is) ‹_›
      case isFalse full => exact .unanswered waiting is (Bool.eq_false_iff.2 full)

variable {w : Writer} {log more : List Entry} {entry : Entry} {entries : List Entry} {of : PendingWrite → Entry}
  {checkpoint : Option PendingWrite} {slots bytes : Nat}

lemma accept_recovery {event : AttachmentEvent} (fits : w.recovery.waiting → event.isCheckpoint) :
    (w.accept event).recovery.epoch = w.recovery.epoch ∧ (w.accept event).recovery.waiting = false := by
  show Recovery.epoch (if _ then _ else _) = _ ∧ Recovery.waiting (if _ then _ else _) = _
  split
  · exact ⟨rfl, rfl⟩
  case isFalse plain => exact ⟨rfl, Bool.eq_false_iff.2 fun awaited => plain (fits awaited)⟩

/-! ### Logs -/

def Entry.lost : Entry → Option Nat
  | .dropped write | .failed write => some write.index
  | _ => none

def persistedOf (log : List Entry) : List PendingWrite :=
  log.filterMap fun
    | .persisted write => some write
    | _ => none

def lastCheckpoint (log : List Entry) : Option PendingWrite :=
  ((persistedOf log).filter (·.event.isCheckpoint)).getLast?

/-- Events each of which is a checkpoint or the next event of the terminal; the first may have the number `start`. -/
def Contiguous : (start : Nat) → List PendingWrite → Prop
  | _, [] => True
  | start, write :: rest =>
    (write.event.isCheckpoint ∨ write.index = start) ∧ Contiguous (write.index + 1) rest

def nextIndex (start : Nat) (writes : List PendingWrite) : Nat := (writes.getLast?.map (·.index + 1)).getD start

def Recovered (log : List Entry) (entry : Entry) : Prop :=
  ∃ checkpoint : PendingWrite, checkpoint.event.isCheckpoint ∧
    [entry, .enqueued checkpoint, .persisted checkpoint].Sublist log

lemma mem_persistedOf {write : PendingWrite} : write ∈ persistedOf log ↔ .persisted write ∈ log := by
  rw [persistedOf, List.mem_filterMap]
  constructor
  · rintro ⟨entry, mem, eq⟩
    cases entry <;> cases eq
    exact mem
  · intro mem
    exact ⟨_, mem, rfl⟩

lemma persistedOf_append (log more : List Entry) : persistedOf (log ++ more) = persistedOf log ++ persistedOf more :=
  List.filterMap_append ..

lemma sublist_append (h : entries.Sublist log) (more : List Entry) : entries.Sublist (log ++ more) :=
  h.trans (List.sublist_append_left log more)

lemma sublist_concat (h : entries.Sublist log) (entry : Entry) : (entries ++ [entry]).Sublist (log ++ [entry]) :=
  h.append (List.Sublist.refl _)

lemma mem_of_loss {lost : Nat} (loss : entry.lost = some lost) (harmless : ∀ entry ∈ more, entry.lost = none)
    (mem : entry ∈ log ++ more) : entry ∈ log :=
  (List.mem_append.1 mem).resolve_right fun new => by cases loss.symm.trans (harmless entry new)

lemma Recovered.append (h : Recovered log entry) (more : List Entry) : Recovered (log ++ more) entry := by
  obtain ⟨checkpoint, is, order⟩ := h
  exact ⟨checkpoint, is, sublist_append order more⟩

lemma contiguous_append {start : Nat} {first last : List PendingWrite} :
    Contiguous start (first ++ last) ↔ Contiguous start first ∧ Contiguous (nextIndex start first) last := by
  induction first generalizing start with
  | nil => exact ⟨fun h => ⟨trivial, h⟩, fun h => h.2⟩
  | cons write first ih =>
    have behind : nextIndex start (write :: first) = nextIndex (write.index + 1) first := by
      unfold nextIndex
      rw [List.getLast?_cons]
      cases first.getLast? <;> rfl
    rw [List.cons_append, Contiguous, Contiguous, ih, behind, and_assoc]

lemma nextIndex_concat (start : Nat) (writes : List PendingWrite) (write : PendingWrite) :
    nextIndex start (writes ++ [write]) = write.index + 1 := by
  rw [nextIndex, List.getLast?_concat]
  rfl

/-! ### What is persisted is whole -/

namespace Writer

def inFlight (w : Writer) : List PendingWrite :=
  match w.worker with
  | .persisting write => [write]
  | _ => []

def unchecked (w : Writer) : List PendingWrite :=
  match w.worker with
  | .received write => write :: w.queue
  | _ => w.queue

def lane (w : Writer) : List PendingWrite :=
  w.inFlight ++ w.unchecked.filter (·.epoch = w.recovery.epoch)

/-- No event is at hand that could still be persisted. -/
def Free (w : Writer) : Prop :=
  match w.worker with
  | .received _ | .persisting _ | .failed _ => False
  | _ => True

lemma Free.at_hand {w : Writer} (free : w.Free) : w.inFlight = [] ∧ w.unchecked = w.queue := by
  unfold Free at free
  unfold inFlight unchecked
  split at free
  case h_4 => exact ⟨by split <;> first | rfl | simp_all, by split <;> first | rfl | simp_all⟩
  all_goals exact free.elim

lemma request_same (w : Writer) : w.request.worker = w.worker ∧ w.request.queue = w.queue := by
  unfold request
  split <;> exact ⟨rfl, rfl⟩

/-- Nothing of what is queued will be persisted. -/
def Halted (w : Writer) : Prop := w.recovery.waiting ∨ ∃ write, w.worker = .failed write

end Writer

structure Ordered (w : Writer) : Prop where
  increasing : (persistedOf w.log ++ w.inFlight ++ w.unchecked).Pairwise (·.index < ·.index)
  below : ∀ write ∈ persistedOf w.log ++ w.inFlight ++ w.unchecked, write.index < w.arrivals
  past : ∀ write ∈ w.unchecked, write.epoch ≤ w.recovery.epoch ∧ (w.recovery.waiting → write.epoch < w.recovery.epoch)
  contiguous : Contiguous 0 (persistedOf w.log ++ w.inFlight)
  whole : ¬ w.Halted → Contiguous 0 (persistedOf w.log ++ w.lane) ∧
    nextIndex 0 (persistedOf w.log ++ w.lane) = w.arrivals
  flight : ∀ write ∈ w.inFlight, write.event.isCheckpoint = false → ∀ entry lost, entry.lost = some lost →
    entry ∈ w.log → lost < write.index → Recovered w.log entry
  /-- A loss has been recovered from, or the next event behind it that will be persisted is a checkpoint. -/
  covered : ¬ w.Halted → ∀ entry lost, entry.lost = some lost → entry ∈ w.log → Recovered w.log entry ∨
    ∃ before checkpoint after, w.lane = before ++ checkpoint :: after ∧ checkpoint.event.isCheckpoint ∧
      [entry, .enqueued checkpoint].Sublist w.log ∧
      ∀ write ∈ before, write.index ≤ lost ∨ write.event.isCheckpoint
  recovered : ∀ entry lost write, entry.lost = some lost → entry ∈ w.log → .persisted write ∈ w.log →
    write.event.isCheckpoint = false → lost < write.index →
    ∃ checkpoint : PendingWrite, checkpoint.event.isCheckpoint ∧
      [entry, .enqueued checkpoint, .persisted checkpoint, .persisted write].Sublist w.log

namespace Ordered

variable {w : Writer} {w' : Writer} {write : PendingWrite}

lemma of_log (h : Ordered w)
    (log : ∃ more, w'.log = w.log ++ more ∧ persistedOf more = [] ∧
      ∀ entry ∈ more, entry.lost = none) (flight : w'.inFlight = w.inFlight) (unchecked : w'.unchecked = w.unchecked)
    (arrivals : w'.arrivals = w.arrivals) (epoch : w'.recovery.epoch = w.recovery.epoch)
    (waiting : w'.recovery.waiting = w.recovery.waiting) (halted : w.Halted → w'.Halted) : Ordered w' := by
  obtain ⟨more, log, none, harmless⟩ := log
  have lane : w'.lane = w.lane := by rw [Writer.lane, Writer.lane, flight, unchecked, epoch]
  have persisted : persistedOf w'.log = persistedOf w.log := by rw [log, persistedOf_append, none, List.append_nil]
  have old : ∀ {entry lost}, entry.lost = some lost → entry ∈ w'.log → entry ∈ w.log := by
    intro entry lost loss mem
    exact mem_of_loss loss harmless (log ▸ mem)
  constructor
  · rw [persisted, flight, unchecked]
    exact h.increasing
  · rw [persisted, flight, unchecked, arrivals]
    exact h.below
  · rw [unchecked, epoch, waiting]
    exact h.past
  · rw [persisted, flight]
    exact h.contiguous
  · intro going
    rw [persisted, lane, arrivals]
    exact h.whole fun stopped => going (halted stopped)
  · intro write mem plain entry lost loss logged behind
    rw [flight] at mem
    rw [log]
    exact (h.flight write mem plain entry lost loss (old loss logged) behind).append more
  · intro going entry lost loss logged
    rw [lane, log]
    rcases h.covered (fun stopped => going (halted stopped)) entry lost loss (old loss logged) with
      done | ⟨before, checkpoint, after, split, is, order, others⟩
    · exact .inl (done.append more)
    · exact .inr ⟨before, checkpoint, after, split, is, sublist_append order more, others⟩
  · intro entry lost write loss logged saved plain behind
    rw [← mem_persistedOf, persisted, mem_persistedOf] at saved
    obtain ⟨checkpoint, is, order⟩ := h.recovered entry lost write loss (old loss logged) saved plain behind
    rw [log]
    exact ⟨checkpoint, is, sublist_append order more⟩

lemma halt (h : Ordered w) {more : List Entry} (log : w'.log = w.log ++ more) (none : persistedOf more = [])
    (behind : ∀ entry ∈ more, ∀ lost, entry.lost = some lost → ∀ write ∈ persistedOf w.log ++ w'.inFlight,
      write.index ≤ lost) (flight : w'.inFlight = w.inFlight ∨ w'.inFlight = [])
    (unchecked : w'.unchecked.Sublist w.unchecked) (arrivals : w.arrivals ≤ w'.arrivals)
    (past : ∀ write ∈ w'.unchecked, write.epoch ≤ w'.recovery.epoch ∧
      (w'.recovery.waiting → write.epoch < w'.recovery.epoch)) (halted : w'.Halted) : Ordered w' := by
  have persisted : persistedOf w'.log = persistedOf w.log := by rw [log, persistedOf_append, none, List.append_nil]
  have flight' : w'.inFlight.Sublist w.inFlight := by
    rcases flight with same | empty
    · rw [same]
    · rw [empty]
      exact List.nil_sublist _
  have fewer : (persistedOf w.log ++ w'.inFlight ++ w'.unchecked).Sublist
      (persistedOf w.log ++ w.inFlight ++ w.unchecked) := ((List.Sublist.refl _).append flight').append unchecked
  constructor
  · rw [persisted]
    exact h.increasing.sublist fewer
  · rw [persisted]
    exact fun write mem => Nat.lt_of_lt_of_le (h.below write (fewer.subset mem)) arrivals
  · exact past
  · rw [persisted]
    rcases flight with same | empty
    · rw [same]
      exact h.contiguous
    · rw [empty, List.append_nil]
      exact (contiguous_append.1 h.contiguous).1
  · exact fun going => absurd halted going
  · intro write mem plain entry lost loss logged before
    rw [log] at logged ⊢
    rcases List.mem_append.1 logged with logged | logged
    · exact (h.flight write (flight'.subset mem) plain entry lost loss logged before).append more
    · exact absurd before (Nat.not_lt_of_le (behind entry logged lost loss write (List.mem_append_right _ mem)))
  · exact fun going => absurd halted going
  · intro entry lost write loss logged saved plain before
    rw [← mem_persistedOf, persisted] at saved
    rw [log] at logged ⊢
    rcases List.mem_append.1 logged with logged | logged
    · obtain ⟨checkpoint, is, order⟩ :=
        h.recovered entry lost write loss logged (mem_persistedOf.1 saved) plain before
      exact ⟨checkpoint, is, sublist_append order more⟩
    · exact absurd before (Nat.not_lt_of_le (behind entry logged lost loss write (List.mem_append_left _ saved)))

lemma past_invalidate (h : Ordered w) (mem : write ∈ w.unchecked) :
    write.epoch ≤ w.recovery.invalidate.epoch ∧
      (w.recovery.invalidate.waiting → write.epoch < w.recovery.invalidate.epoch) := by
  have past := h.past write mem
  unfold Recovery.invalidate
  cases waiting : w.recovery.waiting with
  | false => exact ⟨Nat.le_succ_of_le past.1, fun _ => Nat.lt_succ_of_le past.1⟩
  | true => exact ⟨past.1, fun _ => past.2 waiting⟩

lemma dropped (h : Ordered w) (event : AttachmentEvent) : Ordered (w.drop event) := by
  refine h.halt rfl rfl ?_ (.inl rfl) (List.Sublist.refl _) (Nat.le_succ _) ?_ (.inl rfl)
  · intro entry mem lost loss write before
    rw [List.mem_singleton.1 mem] at loss
    cases loss
    exact Nat.le_of_lt (h.below write (List.mem_append_left _ before))
  · exact fun write mem => h.past_invalidate mem

lemma failed (h : Ordered w) {write : PendingWrite} (worker : w.worker = .persisting write) :
    Ordered ({ w with worker := .failed write, lastError := true }.note (.failed write)) := by
  have flight : w.inFlight = [write] := by rw [Writer.inFlight, worker]
  have unchecked : w.unchecked = w.queue := by rw [Writer.unchecked, worker]
  refine h.halt rfl rfl ?_ (.inr rfl) ?_ (Nat.le_refl _) ?_ (.inr ⟨write, rfl⟩)
  · intro entry mem lost loss other before
    rw [List.mem_singleton.1 mem] at loss
    cases loss
    have order := (List.pairwise_append.1 h.increasing).1
    rw [flight] at order
    exact Nat.le_of_lt ((List.pairwise_append.1 order).2.2 other
      ((List.mem_append.1 before).resolve_right List.not_mem_nil) write List.mem_cons_self)
  · rw [unchecked]
    exact List.Sublist.refl _
  · rw [← unchecked]
    exact h.past

lemma invalidated (h : Ordered w) (worker : w.worker = .failed write) :
    Ordered { w with worker := .releasing write, recovery := w.recovery.invalidate } := by
  have unchecked : w.unchecked = w.queue := by rw [Writer.unchecked, worker]
  refine h.halt (List.append_nil _).symm rfl nofun (.inr rfl) ?_ (Nat.le_refl _) ?_ (.inl rfl)
  · rw [unchecked]
    exact List.Sublist.refl _
  · exact fun other mem => h.past_invalidate (unchecked ▸ mem)

lemma enqueued (h : Ordered w) (log : w'.log = w.log ++ [Entry.enqueued write]) (index : write.index = w.arrivals)
    (current : write.epoch = w.recovery.epoch) (fits : w.recovery.waiting → write.event.isCheckpoint)
    (waiting : w'.recovery.waiting = false) (epoch : w'.recovery.epoch = w.recovery.epoch)
    (worker : w'.worker = w.worker) (queue : w'.queue = w.queue ++ [write]) (arrivals : w'.arrivals = w.arrivals + 1) :
    Ordered w' := by
  have flight : w'.inFlight = w.inFlight := by rw [Writer.inFlight, Writer.inFlight, worker]
  have unchecked : w'.unchecked = w.unchecked ++ [write] := by
    rw [Writer.unchecked, Writer.unchecked, worker, queue]
    cases w.worker <;> rfl
  have lane : w'.lane = w.lane ++ [write] := by
    rw [Writer.lane, Writer.lane, flight, unchecked, epoch, List.filter_append, List.append_assoc]
    simp [current]
  have persisted : persistedOf w'.log = persistedOf w.log := by
    rw [log, persistedOf_append]
    exact List.append_nil _
  have old : ∀ {entry lost}, entry.lost = some lost → entry ∈ w'.log → entry ∈ w.log := by
    intro entry lost loss mem
    exact mem_of_loss loss (List.forall_mem_singleton.2 rfl) (log ▸ mem)
  -- While a checkpoint was awaited, only the event in flight could be persisted.
  have awaited : w.recovery.waiting = true → w.lane = w.inFlight := by
    intro waiting
    rw [Writer.lane, List.filter_eq_nil_iff.2, List.append_nil]
    intro other mem same
    exact Nat.ne_of_lt ((h.past other mem).2 waiting) (of_decide_eq_true same)
  have going : ¬ w'.Halted → w.recovery.waiting = false → ¬ w.Halted := by
    rintro going unawaited (waiting | ⟨other, failed⟩)
    · rw [unawaited] at waiting
      cases waiting
    · exact going (.inr ⟨other, worker.trans failed⟩)
  constructor
  · rw [persisted, flight, unchecked, ← List.append_assoc, List.pairwise_append]
    refine ⟨h.increasing, List.pairwise_singleton _ _, fun first mem second last => ?_⟩
    rw [List.mem_singleton.1 last, index]
    exact h.below first mem
  · rw [persisted, flight, unchecked, ← List.append_assoc, arrivals]
    intro other mem
    rcases List.mem_append.1 mem with mem | last
    · exact Nat.lt_succ_of_lt (h.below other mem)
    · rw [List.mem_singleton.1 last, index]
      exact Nat.lt_succ_self _
  · intro other mem
    rw [epoch, waiting]
    refine ⟨?_, nofun⟩
    rw [unchecked] at mem
    rcases List.mem_append.1 mem with mem | last
    · exact (h.past other mem).1
    · exact Nat.le_of_eq ((List.mem_singleton.1 last) ▸ current)
  · rw [persisted, flight]
    exact h.contiguous
  · intro running
    rw [persisted, lane, ← List.append_assoc, nextIndex_concat, arrivals, index, contiguous_append]
    refine ⟨?_, rfl⟩
    cases awaiting : w.recovery.waiting with
    | false =>
      obtain ⟨whole, next⟩ := h.whole (going running awaiting)
      exact ⟨whole, .inr (index.trans next.symm), trivial⟩
    | true =>
      rw [awaited awaiting]
      exact ⟨h.contiguous, .inl (fits awaiting), trivial⟩
  · intro other mem plain entry lost loss logged behind
    rw [log]
    exact (h.flight other (flight ▸ mem) plain entry lost loss (old loss logged) behind).append _
  · intro running entry lost loss logged
    rw [lane, log]
    have logged := old loss logged
    cases awaiting : w.recovery.waiting with
    | false =>
      rcases h.covered (going running awaiting) entry lost loss logged with
        done | ⟨before, checkpoint, after, split, is, order, others⟩
      · exact .inl (done.append _)
      · exact .inr ⟨before, checkpoint, after ++ [write], by rw [split, List.append_assoc]; rfl, is,
          sublist_append order _, others⟩
    | true =>
      by_cases done : Recovered w.log entry
      · exact .inl (done.append _)
      · refine .inr ⟨w.inFlight, write, [], by rw [awaited awaiting], fits awaiting,
          sublist_concat (List.singleton_sublist.2 logged) _, fun other mem => ?_⟩
        by_cases is : other.event.isCheckpoint
        · exact .inr is
        · refine .inl (Nat.le_of_not_lt fun behind => done ?_)
          exact h.flight other mem (Bool.eq_false_iff.2 is) entry lost loss logged behind
  · intro entry lost other loss logged saved plain behind
    rw [← mem_persistedOf, persisted, mem_persistedOf] at saved
    obtain ⟨checkpoint, is, order⟩ := h.recovered entry lost other loss (old loss logged) saved plain behind
    rw [log]
    exact ⟨checkpoint, is, sublist_append order _⟩

lemma skipped (h : Ordered w) (worker : w.worker = .received write) (stale : write.epoch ≠ w.recovery.epoch) :
    Ordered { w with worker := .releasing write } := by
  have flight : w.inFlight = [] := by rw [Writer.inFlight, worker]
  have unchecked : w.unchecked = write :: w.queue := by rw [Writer.unchecked, worker]
  have lane : w.lane = w.queue.filter (·.epoch = w.recovery.epoch) := by
    rw [Writer.lane, flight, unchecked]
    simp [stale]
  obtain ⟨increasing, below, past, contiguous, whole, _, covered, recovered⟩ := h
  rw [unchecked, flight] at increasing below
  rw [unchecked] at past
  rw [flight] at contiguous
  rw [lane] at whole covered
  have going : ¬ Writer.Halted { w with worker := .releasing write } → ¬ w.Halted := by
    rintro going (waiting | ⟨other, failed⟩)
    · exact going (.inl waiting)
    · cases worker.symm.trans failed
  have fewer : (persistedOf w.log ++ [] ++ w.queue).Sublist (persistedOf w.log ++ [] ++ write :: w.queue) :=
    (List.Sublist.refl _).append (List.sublist_cons_self _ _)
  exact ⟨increasing.sublist fewer, fun other mem => below other (fewer.subset mem),
    fun other mem => past other (List.mem_cons_of_mem _ mem), contiguous, fun running => whole (going running), nofun,
    fun running => covered (going running), recovered⟩

lemma begun (h : Ordered w) (worker : w.worker = .received write) (present : write.epoch = w.recovery.epoch) :
    Ordered { w with worker := .persisting write } := by
  have flight : w.inFlight = [] := by rw [Writer.inFlight, worker]
  have unchecked : w.unchecked = write :: w.queue := by rw [Writer.unchecked, worker]
  have lane : w.lane = [write] ++ w.queue.filter (·.epoch = w.recovery.epoch) := by
    rw [Writer.lane, flight, unchecked]
    simp [present]
  have running : ¬ w.Halted := by
    rintro (waiting | ⟨other, failed⟩)
    · exact Nat.ne_of_lt ((h.past write (unchecked ▸ List.mem_cons_self)).2 waiting) present
    · cases worker.symm.trans failed
  obtain ⟨increasing, below, past, _, whole, _, covered, recovered⟩ := h
  rw [flight, unchecked, List.append_nil, List.append_cons] at increasing below
  rw [unchecked] at past
  have ⟨contiguous, next⟩ := whole running
  rw [lane] at contiguous next covered
  refine ⟨increasing, below, fun other mem => past other (List.mem_cons_of_mem _ mem), ?_, fun _ => ⟨contiguous, next⟩,
    ?_, fun _ => covered running, recovered⟩
  · rw [← List.append_assoc] at contiguous
    exact (contiguous_append.1 contiguous).1
  · intro other mem plain entry lost loss logged behind
    obtain rfl := List.mem_singleton.1 mem
    rcases covered running entry lost loss logged with done | ⟨before, checkpoint, after, split, is, _, others⟩
    · exact done
    · cases before with
      | nil =>
        obtain rfl : other = checkpoint := (List.cons.inj split).1
        cases plain.symm.trans is
      | cons first before =>
        obtain rfl : other = first := (List.cons.inj split).1
        rcases others other List.mem_cons_self with early | is
        · exact absurd behind (Nat.not_lt_of_le early)
        · cases plain.symm.trans is

lemma persisted (h : Ordered w) (worker : w.worker = .persisting write) (log : w'.log = w.log ++ [Entry.persisted write])
    (worker' : w'.worker = .releasing write) (queue : w'.queue = w.queue) (recovery : w'.recovery = w.recovery)
    (arrivals : w'.arrivals = w.arrivals) : Ordered w' := by
  have flight : w.inFlight = [write] := by rw [Writer.inFlight, worker]
  have unchecked : w.unchecked = w'.unchecked := by rw [Writer.unchecked, Writer.unchecked, worker, worker', queue]
  have flight' : w'.inFlight = [] := by rw [Writer.inFlight, worker']
  have lane : w.lane = [write] ++ w'.lane := by
    rw [Writer.lane, Writer.lane, flight, flight', unchecked, recovery]
    rfl
  have persisted : persistedOf w'.log = persistedOf w.log ++ [write] := by
    rw [log, persistedOf_append]
    rfl
  have running : ¬ w'.Halted → ¬ w.Halted := by
    rintro going (waiting | ⟨other, failed⟩)
    · exact going (.inl (recovery ▸ waiting))
    · cases worker.symm.trans failed
  have old : ∀ {entry lost}, entry.lost = some lost → entry ∈ w'.log → entry ∈ w.log := by
    intro entry lost loss mem
    exact mem_of_loss loss (List.forall_mem_singleton.2 rfl) (log ▸ mem)
  obtain ⟨increasing, below, past, contiguous, whole, flying, covered, recovered⟩ := h
  rw [flight, unchecked, ← persisted] at increasing below
  rw [flight, ← persisted] at contiguous
  rw [flight] at flying
  rw [lane, ← List.append_assoc, ← persisted] at whole
  constructor
  · rw [flight', List.append_nil]
    exact increasing
  · rw [flight', List.append_nil, arrivals]
    exact below
  · rw [← unchecked, recovery]
    exact past
  · rw [flight', List.append_nil]
    exact contiguous
  · rw [arrivals]
    exact fun going => whole (running going)
  · rw [flight']
    exact nofun
  · intro going entry lost loss logged
    rcases covered (running going) entry lost loss (old loss logged) with
      done | ⟨before, checkpoint, after, split, is, order, others⟩
    · exact .inl (log ▸ done.append _)
    · rw [lane] at split
      cases before with
      | nil =>
        obtain rfl : write = checkpoint := (List.cons.inj split).1
        exact .inl ⟨write, is, log ▸ sublist_concat order _⟩
      | cons first before =>
        exact .inr ⟨before, checkpoint, after, (List.cons.inj split).2, is, log ▸ sublist_append order _,
          fun other mem => others other (List.mem_cons_of_mem _ mem)⟩
  · intro entry lost other loss logged saved plain behind
    rw [← mem_persistedOf, persisted] at saved
    rcases List.mem_append.1 saved with saved | last
    · obtain ⟨checkpoint, is, order⟩ :=
        recovered entry lost other loss (old loss logged) (mem_persistedOf.1 saved) plain behind
      exact ⟨checkpoint, is, log ▸ sublist_append order _⟩
    · obtain ⟨checkpoint, is, order⟩ := flying other last plain entry lost loss (old loss logged) behind
      rw [List.mem_singleton.1 last]
      exact ⟨checkpoint, is, log ▸ sublist_concat order _⟩

lemma request (h : Ordered w) : Ordered w.request := by
  unfold Writer.request
  split
  · exact h.of_log ⟨[.requested], rfl, rfl, List.forall_mem_singleton.2 rfl⟩ rfl rfl rfl rfl rfl id
  · exact h

lemma moved (h : Ordered w) (log : w'.log = w.log ∨ w'.log = w.log ++ [Entry.gap]) (free : w.Free) (free' : w'.Free)
    (queue : w'.queue = w.queue) (arrivals : w'.arrivals = w.arrivals) (recovery : w'.recovery = w.recovery) :
    Ordered w' := by
  have flight : w'.inFlight = w.inFlight := free'.at_hand.1.trans free.at_hand.1.symm
  have unchecked : w'.unchecked = w.unchecked := by rw [free'.at_hand.2, free.at_hand.2, queue]
  have halted : w.Halted → w'.Halted := by
    rintro (waiting | ⟨other, failed⟩)
    · exact .inl (recovery ▸ waiting)
    · rw [Writer.Free, failed] at free
      exact free.elim
  rcases log with log | log
  · exact h.of_log ⟨[], by rw [log, List.append_nil], rfl, nofun⟩ flight unchecked arrivals (by rw [recovery])
      (by rw [recovery]) halted
  · exact h.of_log ⟨[.gap], log, rfl, List.forall_mem_singleton.2 rfl⟩ flight unchecked arrivals (by rw [recovery])
      (by rw [recovery]) halted

lemma received (h : Ordered w) {rest : List PendingWrite} (worker : w.worker = .receiving)
    (queue : w.queue = write :: rest) : Ordered { w with worker := .received write, queue := rest } := by
  have free : w.Free := by rw [Writer.Free, worker]; trivial
  refine h.of_log ⟨[], (List.append_nil _).symm, rfl, nofun⟩ free.at_hand.1.symm ?_ rfl rfl rfl ?_
  · rw [free.at_hand.2, queue]
    rfl
  · rintro (waiting | ⟨other, failed⟩)
    · exact .inl waiting
    · cases worker.symm.trans failed

lemma start (bytes : Nat) : Ordered (.start bytes) :=
  ⟨.nil, nofun, nofun, trivial, fun _ => ⟨trivial, rfl⟩, nofun, fun _ => nofun, nofun⟩

lemma enqueue (h : Ordered w) {slots : Nat} {event : AttachmentEvent} (outcome : Outcome slots w event w') :
    Ordered w' := by
  cases outcome with
  | ignored => exact h
  | sent fits => exact h.enqueued rfl rfl rfl fits (accept_recovery fits).2 (accept_recovery fits).1 rfl rfl rfl
  | refused => exact h.dropped event
  | unanswered => exact (h.dropped event).of_log ⟨[], (List.append_nil _).symm, rfl, nofun⟩ rfl rfl rfl rfl rfl id
  | lost => exact (h.dropped event).request

lemma work (h : Ordered w) {ok : Bool} (step : w.work ok = some w') : Ordered w' := by
  unfold Writer.work at step
  split at step
  case h_1 worker =>
    split at step
    case h_1 write rest queue =>
      cases step
      exact h.received worker queue
    case h_2 =>
      split at step <;> cases step
      exact h.moved (.inl rfl) (by rw [Writer.Free, worker]; trivial) trivial rfl rfl rfl
  case h_2 write worker =>
    cases step
    by_cases present : write.epoch = w.recovery.epoch
    · rw [if_pos present]
      exact h.begun worker present
    · rw [if_neg present]
      exact h.skipped worker present
  case h_3 write worker =>
    split at step <;> cases step
    · exact h.persisted worker rfl rfl rfl rfl rfl
    · exact h.failed worker
  case h_4 write worker =>
    cases step
    exact h.invalidated worker
  case h_5 write worker =>
    cases step
    exact h.moved (.inl rfl) (by rw [Writer.Free, worker]; trivial) trivial rfl rfl rfl
  case h_6 worker =>
    cases step
    refine h.request.moved (.inl rfl) (by rw [Writer.Free, (Writer.request_same w).1, worker]; trivial) ?_ rfl rfl rfl
    cases w.needsGap <;> trivial
  case h_7 epoch worker =>
    cases step
    exact h.moved (.inr rfl) (by rw [Writer.Free, worker]; trivial) trivial rfl rfl rfl
  case h_8 worker =>
    cases step
    refine h.moved (.inl rfl) (by rw [Writer.Free, worker]; trivial) ?_ rfl rfl rfl
    cases w.needsGap <;> trivial
  case h_9 worker =>
    cases step
    exact h.moved (.inr rfl) (by rw [Writer.Free, worker]; trivial) trivial rfl rfl rfl
  case h_10 => cases step

end Ordered

/-! ### Gaps are marked -/

def epochOf (checkpoint : Option PendingWrite) : Nat := checkpoint.elim 0 (·.epoch)

def Behind (log : List Entry) (of : PendingWrite → Entry) (checkpoint : Option PendingWrite) (entry : Entry) : Prop :=
  match checkpoint with
  | some checkpoint => [of checkpoint, entry].Sublist log
  | none => entry ∈ log

lemma Behind.append (h : Behind log of checkpoint entry) (more : List Entry) :
    Behind (log ++ more) of checkpoint entry := by
  cases checkpoint with
  | none => exact List.mem_append_left _ h
  | some checkpoint => exact sublist_append h more

lemma Behind.of_append (h : Behind (log ++ more) of checkpoint entry) (old : entry ∉ more) :
    Behind log of checkpoint entry := by
  cases checkpoint with
  | none => exact (List.mem_append.1 h).resolve_right old
  | some checkpoint =>
    obtain ⟨first, rest, split, sub, rest_sub⟩ := List.sublist_append_iff.1 h
    rcases List.eq_nil_or_concat rest with rfl | ⟨rest, last, rfl⟩
    · show [of checkpoint, entry].Sublist log
      rwa [split, List.append_nil]
    · have last_eq : [of checkpoint, entry].getLast? = some last := by
        rw [split, List.concat_eq_append, ← List.append_assoc, List.getLast?_concat]
      cases last_eq
      exact absurd (rest_sub.subset (by simp)) old

lemma lastCheckpoint_mem {checkpoint : PendingWrite} (last : lastCheckpoint log = some checkpoint) :
    checkpoint.event.isCheckpoint ∧ .persisted checkpoint ∈ log := by
  obtain ⟨mem, is⟩ := List.mem_filter.1 (List.mem_of_getLast? last)
  exact ⟨is, mem_persistedOf.1 mem⟩

lemma lastCheckpoint_concat (log : List Entry) (write : PendingWrite) :
    lastCheckpoint (log ++ [Entry.persisted write]) =
      if write.event.isCheckpoint then some write else lastCheckpoint log := by
  rw [lastCheckpoint, persistedOf_append, List.filter_append]
  cases is : write.event.isCheckpoint with
  | true => simp [persistedOf, is]
  | false => simp [persistedOf, lastCheckpoint, is]

lemma lastCheckpoint_append (none : persistedOf more = []) : lastCheckpoint (log ++ more) = lastCheckpoint log := by
  rw [lastCheckpoint, persistedOf_append, none, List.append_nil, lastCheckpoint]

lemma behind_gap (log : List Entry) : Behind (log ++ [Entry.gap]) .persisted (lastCheckpoint log) .gap := by
  cases last : lastCheckpoint log with
  | none => exact List.mem_append_right _ List.mem_cons_self
  | some checkpoint => exact sublist_concat (List.singleton_sublist.2 (lastCheckpoint_mem last).2) _

lemma request_cases (w : Writer) : w.request = w ∨
    w.recovery.unasked ∧ w.request = { w with recovery.requested := true }.note .requested := by
  unfold Writer.request
  split
  · exact .inr ⟨‹_›, rfl⟩
  · exact .inl rfl

def Ended (w : Writer) : Prop :=
  ∀ checkpoint : Option PendingWrite, (∀ c ∈ checkpoint, c.event.isCheckpoint ∧ .enqueued c ∈ w.log) →
    epochOf checkpoint ≤ w.recovery.epoch ∧ (w.recovery.waiting → epochOf checkpoint < w.recovery.epoch) ∧
    ∀ entry, entry.lost.isSome → Behind w.log .enqueued checkpoint entry →
      epochOf checkpoint < w.recovery.epoch ∨ ∃ write, w.worker = .failed write

structure Noted (w : Writer) : Prop where
  written : w.writtenEpoch = some (epochOf (lastCheckpoint w.log))
  marked : ∀ m, w.markedEpoch = some m → m ≤ w.recovery.epoch ∧ (∀ write ∈ w.inFlight, m ≤ write.epoch) ∧
    (epochOf (lastCheckpoint w.log) < m → Behind w.log .persisted (lastCheckpoint w.log) .gap)
  marking : ∀ epoch, w.worker = .marking epoch → epoch ≤ w.recovery.epoch
  finished : (w.worker = .closing ∨ w.worker = .markingLast ∨ w.worker = .returned) → w.finished
  returned : w.worker = .returned → w.needsGap = false ∨ Behind w.log .persisted (lastCheckpoint w.log) .gap

section
variable {w w' : Writer} {more : List Entry} {slots : Nat} {event : AttachmentEvent} {ok : Bool}

lemma enqueued_before {checkpoint : Option PendingWrite} (log : w'.log = w.log ++ more) (fresh : ∀ c, .enqueued c ∉ more)
    (mem : ∀ c ∈ checkpoint, c.event.isCheckpoint ∧ .enqueued c ∈ w'.log) :
    ∀ c ∈ checkpoint, c.event.isCheckpoint ∧ .enqueued c ∈ w.log := by
  intro c is
  obtain ⟨is, logged⟩ := mem c is
  rw [log] at logged
  exact ⟨is, (List.mem_append.1 logged).resolve_right (fresh c)⟩

lemma Ended.lost (h : Ended w) (log : w'.log = w.log ++ more) (fresh : ∀ c, .enqueued c ∉ more)
    (epoch : w'.recovery.epoch = w.recovery.invalidate.epoch) : Ended w' := by
  intro checkpoint mem
  obtain ⟨le, lt, _⟩ := h checkpoint (enqueued_before log fresh mem)
  have past : epochOf checkpoint < w'.recovery.epoch := by
    rw [epoch, Recovery.invalidate]
    cases waiting : w.recovery.waiting with
    | false => exact Nat.lt_succ_of_le le
    | true => exact lt waiting
  exact ⟨Nat.le_of_lt past, fun _ => past, fun _ _ _ => .inl past⟩

lemma Ended.moved (h : Ended w) (log : w'.log = w.log ++ more) (fresh : ∀ c, .enqueued c ∉ more)
    (kind : (∃ write, w'.worker = .failed write) ∨
      (∀ write, w.worker ≠ .failed write) ∧ ∀ entry ∈ more, entry.lost = none)
    (recovery : w'.recovery.epoch = w.recovery.epoch ∧ w'.recovery.waiting = w.recovery.waiting) : Ended w' := by
  intro checkpoint mem
  obtain ⟨le, lt, ends⟩ := h checkpoint (enqueued_before log fresh mem)
  rw [recovery.1, recovery.2]
  refine ⟨le, lt, fun entry loss behind => ?_⟩
  rcases kind with stopped | ⟨sound, harmless⟩
  · exact .inr stopped
  · rw [log] at behind
    have old : entry ∉ more := fun new => by
      rw [harmless entry new] at loss
      cases loss
    exact .inl ((ends entry loss (behind.of_append old)).resolve_right fun ⟨write, failed⟩ => sound write failed)

lemma Ended.request (h : Ended w) : Ended w.request := by
  rcases request_cases w with same | ⟨_, same⟩
  · rwa [same]
  · rw [same]
    refine h.moved rfl (by simp) ?_ ⟨rfl, rfl⟩
    by_cases stopped : ∃ write, w.worker = .failed write
    · exact .inl stopped
    · exact .inr ⟨not_exists.1 stopped, List.forall_mem_singleton.2 rfl⟩

lemma Ended.enqueued (h : Ended w) {write : PendingWrite} (log : w'.log = w.log ++ [Entry.enqueued write])
    (current : write.epoch = w.recovery.epoch) (epoch : w'.recovery.epoch = w.recovery.epoch)
    (waiting : w'.recovery.waiting = false) (worker : w'.worker = w.worker) : Ended w' := by
  intro checkpoint mem
  rw [epoch, waiting, worker]
  have behind : ∀ {entry}, entry.lost.isSome → Behind w'.log .enqueued checkpoint entry →
      Behind w.log .enqueued checkpoint entry := by
    intro entry loss behind
    rw [log] at behind
    refine behind.of_append fun new => ?_
    rw [List.mem_singleton.1 new] at loss
    cases loss
  by_cases before : ∀ c ∈ checkpoint, c.event.isCheckpoint ∧ .enqueued c ∈ w.log
  · obtain ⟨le, _, ends⟩ := h checkpoint before
    exact ⟨le, nofun, fun entry loss after => ends entry loss (behind loss after)⟩
  · -- It is the new one, and no loss is behind it.
    cases checkpoint with
    | none => exact absurd nofun before
    | some c =>
      obtain ⟨is, logged⟩ := mem c rfl
      have absent : .enqueued c ∉ w.log := fun logged => before fun d same => by
        obtain rfl := Option.some.inj same
        exact ⟨is, logged⟩
      rw [log] at logged
      cases List.mem_singleton.1 ((List.mem_append.1 logged).resolve_left absent)
      refine ⟨Nat.le_of_eq current, nofun, fun entry loss after => ?_⟩
      exact absurd ((behind loss after).subset List.mem_cons_self) absent

lemma Ended.enqueue (h : Ended w) (outcome : Outcome slots w event w') : Ended w' := by
  have dropped : Ended (w.drop event) := h.lost rfl (by simp) rfl
  cases outcome with
  | ignored => exact h
  | sent fits => exact h.enqueued rfl rfl (accept_recovery fits).1 (accept_recovery fits).2 rfl
  | refused => exact dropped
  | unanswered => exact dropped
  | lost => exact Ended.request dropped

lemma Noted.outside (h : Noted w) (open' : w.finished = false) (log : w'.log = w.log ++ more)
    (none : persistedOf more = []) (epoch : w.recovery.epoch ≤ w'.recovery.epoch) (worker : w'.worker = w.worker)
    (written : w'.writtenEpoch = w.writtenEpoch) (marked : w'.markedEpoch = w.markedEpoch) : Noted w' := by
  have last : lastCheckpoint w'.log = lastCheckpoint w.log := by rw [log, lastCheckpoint_append none]
  have flight : w'.inFlight = w.inFlight := by rw [Writer.inFlight, Writer.inFlight, worker]
  have running : ¬ (w'.worker = .closing ∨ w'.worker = .markingLast ∨ w'.worker = .returned) := by
    rw [worker]
    intro ending
    cases open'.symm.trans (h.finished ending)
  constructor
  · rw [written, last, h.written]
  · intro m is
    obtain ⟨le, flying, gap⟩ := h.marked m (marked ▸ is)
    rw [last, flight, log]
    exact ⟨Nat.le_trans le epoch, flying, fun lt => (gap lt).append more⟩
  · exact fun e is => Nat.le_trans (h.marking e (worker ▸ is)) epoch
  · exact fun ending => absurd ending running
  · exact fun ending => absurd (.inr (.inr ending)) running

lemma Noted.enqueue (h : Noted w) (open' : w.finished = false) (outcome : Outcome slots w event w') : Noted w' := by
  have later : w.recovery.epoch ≤ w.recovery.invalidate.epoch := by
    unfold Recovery.invalidate
    split
    · exact Nat.le_refl _
    · exact Nat.le_succ _
  have dropped : Noted (w.drop event) := h.outside open' rfl rfl later rfl rfl rfl
  cases outcome with
  | ignored => exact h
  | sent fits => exact h.outside open' rfl rfl (Nat.le_of_eq (accept_recovery fits).1.symm) rfl rfl rfl
  | refused => exact dropped
  | unanswered => exact dropped.outside open' (List.append_nil _).symm rfl (Nat.le_refl _) rfl rfl rfl
  | lost =>
    rcases request_cases (w.drop event) with same | ⟨_, same⟩
    · rwa [same]
    · rw [same]
      exact dropped.outside open' rfl rfl (Nat.le_refl _) rfl rfl rfl

lemma Ended.work (h : Ended w) (step : w.work ok = some w') : Ended w' := by
  unfold Writer.work at step
  split at step
  case h_1 worker =>
    have sound : ∀ write, w.worker ≠ .failed write := fun write failed => by cases worker.symm.trans failed
    split at step
    · cases step
      exact h.moved (List.append_nil _).symm nofun (.inr ⟨sound, nofun⟩) ⟨rfl, rfl⟩
    · split at step <;> cases step
      exact h.moved (List.append_nil _).symm nofun (.inr ⟨sound, nofun⟩) ⟨rfl, rfl⟩
  case h_3 write worker =>
    have sound : ∀ write, w.worker ≠ .failed write := fun write failed => by cases worker.symm.trans failed
    split at step <;> cases step
    · exact h.moved rfl (by simp) (.inr ⟨sound, List.forall_mem_singleton.2 rfl⟩) ⟨rfl, rfl⟩
    · exact h.moved rfl (by simp) (.inl ⟨write, rfl⟩) ⟨rfl, rfl⟩
  case h_4 =>
    cases step
    exact h.lost (List.append_nil _).symm nofun rfl
  case h_6 worker =>
    cases step
    have requested := Ended.request h
    have sound : ∀ write, w.request.worker ≠ .failed write := fun write failed => by
      rw [(Writer.request_same w).1, worker] at failed
      cases failed
    exact requested.moved (List.append_nil _).symm nofun (.inr ⟨sound, nofun⟩) ⟨rfl, rfl⟩
  case h_10 => cases step
  all_goals
    rename_i worker
    have sound : ∀ write, w.worker ≠ .failed write := fun write failed => by cases worker.symm.trans failed
    cases step
  · exact h.moved (List.append_nil _).symm nofun (.inr ⟨sound, nofun⟩) ⟨rfl, rfl⟩
  · exact h.moved (List.append_nil _).symm nofun (.inr ⟨sound, nofun⟩) ⟨rfl, rfl⟩
  · exact h.moved rfl (by simp) (.inr ⟨sound, List.forall_mem_singleton.2 rfl⟩) ⟨rfl, rfl⟩
  · exact h.moved (List.append_nil _).symm nofun (.inr ⟨sound, nofun⟩) ⟨rfl, rfl⟩
  · exact h.moved rfl (by simp) (.inr ⟨sound, List.forall_mem_singleton.2 rfl⟩) ⟨rfl, rfl⟩

lemma Noted.turned (h : Noted w) (log : w'.log = w.log ++ more) (none : persistedOf more = [])
    (epoch : w.recovery.epoch ≤ w'.recovery.epoch)
    (same : w'.writtenEpoch = w.writtenEpoch ∧ w'.markedEpoch = w.markedEpoch)
    (flight : ∀ write ∈ w'.inFlight, write.epoch = w.recovery.epoch)
    (marking : ∀ e, w'.worker = .marking e → e ≤ w'.recovery.epoch)
    (finished : (w'.worker = .closing ∨ w'.worker = .markingLast ∨ w'.worker = .returned) → w'.finished)
    (returned : w'.worker = .returned → w'.needsGap = false ∨ more = [.gap]) : Noted w' := by
  have last : lastCheckpoint w'.log = lastCheckpoint w.log := by rw [log, lastCheckpoint_append none]
  refine ⟨by rw [same.1, last, h.written], fun m is => ?_, marking, finished, fun ended => ?_⟩
  · obtain ⟨le, _, gap⟩ := h.marked m (same.2 ▸ is)
    rw [last, log]
    exact ⟨Nat.le_trans le epoch, fun write mem => flight write mem ▸ le, fun lt => (gap lt).append more⟩
  · rw [last, log]
    refine (returned ended).imp_right ?_
    rintro rfl
    exact behind_gap w.log

lemma Noted.work (h : Noted w) (step : w.work ok = some w') : Noted w' := by
  have later : w.recovery.epoch ≤ w.recovery.invalidate.epoch := by
    unfold Recovery.invalidate
    split
    · exact Nat.le_refl _
    · exact Nat.le_succ _
  have same : w.writtenEpoch = w.writtenEpoch ∧ w.markedEpoch = w.markedEpoch := ⟨rfl, rfl⟩
  unfold Writer.work at step
  split at step
  case h_1 worker =>
    split at step
    · cases step
      exact h.turned (List.append_nil _).symm rfl (Nat.le_refl _) same nofun nofun (by simp) nofun
    · split at step
      · cases step
        exact h.turned (List.append_nil _).symm rfl (Nat.le_refl _) same nofun nofun (fun _ => ‹_›) nofun
      · cases step
  case h_2 write worker =>
    cases step
    by_cases present : write.epoch = w.recovery.epoch
    · rw [if_pos present]
      exact h.turned (List.append_nil _).symm rfl (Nat.le_refl _) same (List.forall_mem_singleton.2 present) nofun
        (by simp) nofun
    · rw [if_neg present]
      exact h.turned (List.append_nil _).symm rfl (Nat.le_refl _) same nofun nofun (by simp) nofun
  case h_3 write worker =>
    split at step
    · cases step
      have flying : write ∈ w.inFlight := by
        rw [Writer.inFlight, worker]
        exact List.mem_cons_self
      refine ⟨?_, fun m is => ?_, nofun, by simp [Writer.note], nofun⟩
      · show (if _ then some write.epoch else w.writtenEpoch) = some (epochOf (lastCheckpoint (w.log ++ _)))
        rw [lastCheckpoint_concat, h.written]
        split <;> rfl
      · obtain ⟨le, flight, gap⟩ := h.marked m is
        refine ⟨le, nofun, fun lt => ?_⟩
        show Behind (w.log ++ _) .persisted (lastCheckpoint (w.log ++ _)) .gap
        have lt : epochOf (lastCheckpoint (w.log ++ [Entry.persisted write])) < m := lt
        rw [lastCheckpoint_concat] at lt ⊢
        split at lt
        · exact absurd lt (Nat.not_lt_of_le (flight write flying))
        case isFalse plain =>
          rw [if_neg plain]
          exact (gap lt).append _
    · cases step
      exact h.turned rfl rfl (Nat.le_refl _) same nofun nofun (by simp [Writer.note]) nofun
  case h_4 write worker =>
    cases step
    exact h.turned (List.append_nil _).symm rfl later same nofun nofun (by simp) nofun
  case h_5 =>
    cases step
    exact h.turned (List.append_nil _).symm rfl (Nat.le_refl _) same nofun nofun (by simp) nofun
  case h_6 worker =>
    cases step
    have marking : ∀ e, (if w.needsGap then Worker.marking w.recovery.epoch else .receiving) = .marking e →
        e ≤ w.recovery.epoch := by
      intro e is
      split at is <;> cases is
      exact Nat.le_refl _
    have free : ∀ {P : Prop}, (if w.needsGap then Worker.marking w.recovery.epoch else .receiving) = .closing ∨
        (if w.needsGap then Worker.marking w.recovery.epoch else .receiving) = .markingLast ∨
        (if w.needsGap then Worker.marking w.recovery.epoch else .receiving) = .returned → P := by
      intro P is
      split at is <;> simp at is
    rcases request_cases w with unasked | ⟨_, asked⟩
    · rw [unasked]
      exact h.turned (List.append_nil _).symm rfl (Nat.le_refl _) same (by cases w.needsGap <;> exact nofun) marking free
        fun is => free (.inr (.inr is))
    · rw [asked]
      exact h.turned rfl rfl (Nat.le_refl _) same (by cases w.needsGap <;> exact nofun) marking free
        fun is => free (.inr (.inr is))
  case h_7 epoch worker =>
    cases step
    have last : lastCheckpoint (w.log ++ [Entry.gap]) = lastCheckpoint w.log := lastCheckpoint_append rfl
    refine ⟨?_, fun m is => ?_, nofun, by simp [Writer.note], nofun⟩
    · exact h.written.trans (congrArg (fun c => some (epochOf c)) last.symm)
    · obtain rfl : epoch = m := Option.some.inj is
      refine ⟨h.marking epoch worker, nofun, fun _ => ?_⟩
      show Behind (w.log ++ [Entry.gap]) .persisted (lastCheckpoint (w.log ++ [Entry.gap])) .gap
      rw [last]
      exact behind_gap w.log
  case h_8 worker =>
    cases step
    have ending : w.finished := h.finished (.inl worker)
    cases gap : w.needsGap with
    | true => exact h.turned (List.append_nil _).symm rfl (Nat.le_refl _) same nofun nofun (fun _ => ending) nofun
    | false =>
      exact h.turned (List.append_nil _).symm rfl (Nat.le_refl _) same nofun nofun (fun _ => ending) fun _ => .inl gap
  case h_9 worker =>
    cases step
    exact h.turned rfl rfl (Nat.le_refl _) same nofun nofun (fun _ => h.finished (.inr (.inl worker))) fun _ => .inr rfl
  case h_10 => cases step

end

/-! ### Checkpoints are requested -/

/-- A checkpoint has been requested, and none has been enqueued since. -/
def Outstanding (log : List Entry) : Prop :=
  ∃ before after, log = before ++ Entry.requested :: after ∧ ∀ write, write.event.isCheckpoint → .enqueued write ∉ after

def Writer.held (w : Writer) : List PendingWrite :=
  match w.worker with
  | .received write | .persisting write | .failed write | .releasing write => write :: w.queue
  | _ => w.queue

def Writer.busy (w : Writer) : Bool :=
  match w.worker with
  | .received _ | .persisting _ | .failed _ | .releasing _ | .requesting => true
  | _ => !w.queue.isEmpty

/-- While a checkpoint is awaited, it is requested, or will be when the worker gets there. -/
structure Asked (bytes : Nat) (w : Writer) : Prop where
  permits : w.capacity + (w.held.map (·.event.bytes)).sum = bytes
  requested : w.recovery.requested → w.recovery.waiting ∧ Outstanding w.log
  awaited : w.recovery.waiting → w.recovery.requested ∨ w.busy

section
variable {w w' : Writer} {bytes slots : Nat} {event : AttachmentEvent}

lemma Outstanding.append {log : List Entry} (h : Outstanding log) (more : List Entry)
    (fresh : ∀ write, .enqueued write ∉ more) : Outstanding (log ++ more) := by
  obtain ⟨before, after, rfl, none⟩ := h
  refine ⟨before, after ++ more, List.append_assoc .., fun write is mem => ?_⟩
  exact (List.mem_append.1 mem).elim (none write is) (fresh write)

lemma Outstanding.concat (log : List Entry) : Outstanding (log ++ [Entry.requested]) := ⟨log, [], rfl, nofun⟩

lemma request_asked (awaiting : w.recovery.requested → Outstanding w.log) (waiting : w.recovery.waiting) :
    w.request.recovery.requested ∧ Outstanding w.request.log := by
  cases requested : w.recovery.requested with
  | true =>
    have same : w.request = w := by
      rw [Writer.request, Recovery.unasked, requested, Bool.not_true, Bool.and_false]
      rfl
    rw [same]
    exact ⟨requested, awaiting requested⟩
  | false =>
    have asked : w.request = { w with recovery.requested := true }.note .requested := by
      rw [Writer.request, Recovery.unasked, requested, waiting]
      rfl
    rw [asked]
    exact ⟨rfl, .concat w.log⟩

lemma Asked.room (h : Asked bytes w) (idle : w.busy = false) (some : 0 < slots) (small : event.bytes ≤ bytes) :
    w.room slots event := by
  have permits := h.permits
  unfold Writer.busy at idle
  unfold Writer.held at permits
  have empty : w.queue = [] := by
    split at idle <;> simp_all
  rw [Writer.room, empty]
  split at permits <;> simp_all

lemma Asked.enqueue (h : Asked bytes w) (some : 0 < slots) (small : event.isCheckpoint → event.bytes ≤ bytes)
    (outcome : Outcome slots w event w') : Asked bytes w' := by
  cases outcome with
  | ignored => exact h
  | sent fits room =>
    refine ⟨?_, fun requested => ?_, fun waiting => ?_⟩
    · have enough : event.bytes ≤ w.capacity := by
        rw [Writer.room, Bool.and_eq_true] at room
        exact of_decide_eq_true room.1
      have held : (w.accept event).held = w.held ++ [w.pending event] := by
        unfold Writer.held Writer.accept Writer.note
        dsimp only
        split <;> rfl
      have permits := h.permits
      rw [held, List.map_append, List.sum_append]
      show w.capacity - event.bytes + (_ + (event.bytes + 0)) = bytes
      omega
    · -- An answer leaves nothing requested, and nothing else is sent while something is.
      have requested : (if event.isCheckpoint then (⟨w.recovery.epoch, false, false⟩ : Recovery) else w.recovery).requested :=
        requested
      split at requested
      · cases requested
      case isFalse plain => exact absurd (fits (h.requested requested).1) plain
    · cases (accept_recovery fits).2.symm.trans waiting
  | refused awaited =>
    refine ⟨h.permits, fun requested => ⟨rfl, (h.requested requested).2.append _ (by simp)⟩, fun _ => h.awaited awaited⟩
  | unanswered awaited is full =>
    refine ⟨h.permits, nofun, fun _ => .inr ?_⟩
    cases busy : w.busy with
    | true => exact busy
    | false => cases full.symm.trans (h.room busy some (small is))
  | lost unawaited =>
    have unrequested : (w.drop event).recovery.requested → Outstanding (w.drop event).log := by
      intro requested
      cases unawaited.symm.trans (h.requested requested).1
    obtain ⟨requested, outstanding⟩ := request_asked unrequested rfl
    refine ⟨?_, fun _ => ⟨?_, outstanding⟩, fun _ => .inl requested⟩
    · rcases request_cases (w.drop event) with same | ⟨_, same⟩ <;> rw [same] <;> exact h.permits
    · rcases request_cases (w.drop event) with same | ⟨_, same⟩ <;> rw [same] <;> rfl

lemma Asked.work (h : Asked bytes w) {ok : Bool} (step : w.work ok = some w') : Asked bytes w' := by
  obtain ⟨permits, requested, awaited⟩ := h
  unfold Writer.held at permits
  unfold Writer.busy at awaited
  have logged : ∀ entry, (∀ write, entry ≠ .enqueued write) → w.recovery.requested →
      w.recovery.waiting ∧ Outstanding (w.log ++ [entry]) := fun entry fresh is =>
    ⟨(requested is).1, (requested is).2.append _ fun write mem => fresh write (List.mem_singleton.1 mem).symm⟩
  unfold Writer.work at step
  split at step
  case h_1 worker =>
    rw [worker] at permits awaited
    split at step
    case h_1 queue =>
      cases step
      exact ⟨by rw [queue] at permits; exact permits, requested, fun _ => .inr rfl⟩
    case h_2 queue =>
      split at step <;> cases step
      exact ⟨permits, requested, awaited⟩
  case h_2 write worker =>
    rw [worker] at permits
    cases step
    by_cases present : write.epoch = w.recovery.epoch
    · rw [if_pos present]
      exact ⟨permits, requested, fun _ => .inr rfl⟩
    · rw [if_neg present]
      exact ⟨permits, requested, fun _ => .inr rfl⟩
  case h_3 write worker =>
    rw [worker] at permits
    split at step <;> cases step
    · exact ⟨permits, logged _ nofun, fun _ => .inr rfl⟩
    · exact ⟨permits, logged _ nofun, fun _ => .inr rfl⟩
  case h_4 write worker =>
    rw [worker] at permits
    cases step
    exact ⟨permits, fun is => ⟨rfl, (requested is).2⟩, fun _ => .inr rfl⟩
  case h_5 write worker =>
    rw [worker] at permits
    cases step
    refine ⟨?_, requested, fun _ => .inr rfl⟩
    rw [List.map_cons, List.sum_cons, ← Nat.add_assoc] at permits
    exact permits
  case h_6 worker =>
    rw [worker] at permits
    cases step
    have free : ∀ {w'' : Writer}, w''.worker = (if w.needsGap then .marking w.recovery.epoch else .receiving) →
        w''.held = w''.queue := by
      intro w'' is
      unfold Writer.held
      rw [is]
      cases w.needsGap <;> rfl
    have asked : w.recovery.waiting → w.request.recovery.requested ∧ Outstanding w.request.log :=
      request_asked fun is => (requested is).2
    rcases request_cases w with same | ⟨unasked, same⟩
    · rw [same] at asked ⊢
      refine ⟨?_, requested, fun waiting => .inl (asked waiting).1⟩
      rw [free rfl]
      exact permits
    · have waiting : w.recovery.waiting := (Bool.and_eq_true_iff.1 unasked).1
      rw [same] at asked ⊢
      refine ⟨?_, fun _ => ⟨waiting, (asked waiting).2⟩, fun _ => .inl rfl⟩
      rw [free rfl]
      exact permits
  case h_7 epoch worker =>
    rw [worker] at permits awaited
    cases step
    exact ⟨permits, logged _ nofun, awaited⟩
  case h_8 worker =>
    rw [worker] at permits awaited
    cases step
    cases w.needsGap <;> exact ⟨permits, requested, awaited⟩
  case h_9 worker =>
    rw [worker] at permits awaited
    cases step
    exact ⟨permits, logged _ nofun, awaited⟩
  case h_10 => cases step

end

/-! ### All runs -/

abbrev Reached (slots bytes : Nat) (w : Writer) : Prop := Reachable (Writer.step slots) (· = Writer.start bytes) w

lemma Reached.noted (h : Reached slots bytes w) : Ordered w ∧ Ended w ∧ Noted w := by
  refine h.invariant (fun w => Ordered w ∧ Ended w ∧ Noted w) ?_ ?_
  · rintro w rfl
    refine ⟨.start bytes, fun checkpoint mem => ?_, rfl, nofun, nofun, by simp [Writer.start], nofun⟩
    cases checkpoint with
    | none => exact ⟨Nat.le_refl _, nofun, fun _ _ => nofun⟩
    | some c => cases (mem c rfl).2
  · rintro w action w' ⟨ordered, ended, noted⟩ step
    cases action with
    | enqueue event =>
      rw [Writer.step] at step
      split at step
      · cases step
      case isFalse open' =>
        cases step
        have outcome := enqueue_outcome slots w event
        exact ⟨ordered.enqueue outcome, Ended.enqueue ended outcome, noted.enqueue (Bool.eq_false_iff.2 open') outcome⟩
    | finish =>
      rw [Writer.step] at step
      split at step <;> cases step
      refine ⟨?_, ended, noted.written, noted.marked, noted.marking, fun _ => rfl, noted.returned⟩
      exact ordered.of_log ⟨[], (List.append_nil _).symm, rfl, nofun⟩ rfl rfl rfl rfl rfl id
    | work ok => exact ⟨ordered.work step, Ended.work ended step, noted.work step⟩

def SmallCheckpoints (bytes : Nat) (_ : Writer) (action : WriterAction) : Prop :=
  ∀ event, action = .enqueue event → event.isCheckpoint → event.bytes ≤ bytes

lemma asked (some : 0 < slots)
    (h : ReachableWhile (Writer.step slots) (· = Writer.start bytes) (SmallCheckpoints bytes) w) : Asked bytes w := by
  refine h.invariant (Asked bytes) ?_ ?_
  · rintro w rfl
    exact ⟨rfl, nofun, nofun⟩
  · intro w action w' asked small step
    cases action with
    | enqueue event =>
      rw [Writer.step] at step
      split at step <;> cases step
      exact asked.enqueue some (small event rfl) (enqueue_outcome slots w event)
    | finish =>
      rw [Writer.step] at step
      split at step <;> cases step
      exact ⟨asked.permits, asked.requested, asked.awaited⟩
    | work ok => exact asked.work step

/-- What the cache gets is whole: no event that follows a loss is persisted before a checkpoint that was enqueued after
    the loss has been, and what is persisted after a checkpoint is contiguous. When the writer has returned, a loss that
    no checkpoint covers has its gap marked. While the worker has nothing to do and a checkpoint is awaited, one has been
    requested. -/
theorem cacheWriter_exact {slots bytes : Nat} {w : Writer} (h : Reached slots bytes w) :
    (∀ entry lost write, entry.lost = some lost → entry ∈ w.log → .persisted write ∈ w.log →
      write.event.isCheckpoint = false → lost < write.index →
      ∃ checkpoint : PendingWrite, checkpoint.event.isCheckpoint ∧
        [entry, .enqueued checkpoint, .persisted checkpoint, .persisted write].Sublist w.log) ∧
    Contiguous 0 (persistedOf w.log) ∧
    (w.worker = .returned → ∀ entry, entry.lost.isSome →
      Behind w.log .enqueued (lastCheckpoint w.log) entry → Behind w.log .persisted (lastCheckpoint w.log) .gap) ∧
    (0 < slots → ReachableWhile (Writer.step slots) (· = Writer.start bytes) (SmallCheckpoints bytes) w →
      w.worker = .receiving → w.queue = [] → w.recovery.waiting → Outstanding w.log) := by
  obtain ⟨ordered, ended, noted⟩ := h.noted
  refine ⟨ordered.recovered, (contiguous_append.1 ordered.contiguous).1, fun returned entry loss behind => ?_, ?_⟩
  · -- The loss has ended the epoch that was written.
    have known : ∀ c ∈ lastCheckpoint w.log, c.event.isCheckpoint ∧ .enqueued c ∈ w.log := by
      intro c is
      have is : lastCheckpoint w.log = some c := is
      rw [is] at behind
      exact ⟨(lastCheckpoint_mem is).1, behind.subset List.mem_cons_self⟩
    have past : epochOf (lastCheckpoint w.log) < w.recovery.epoch :=
      ((ended _ known).2.2 entry loss behind).resolve_right fun ⟨_, failed⟩ => by cases returned.symm.trans failed
    rcases noted.returned returned with covered | marked
    · have unwritten : w.writtenEpoch ≠ some w.recovery.epoch := by
        rw [noted.written]
        exact fun same => Nat.ne_of_lt past (Option.some.inj same)
      have marked : w.markedEpoch = some w.recovery.epoch := by
        simpa [Writer.needsGap, unwritten] using covered
      exact (noted.marked _ marked).2.2 past
    · exact marked
  · intro some reached worker queue waiting
    have asked := asked some reached
    refine (asked.requested ((asked.awaited waiting).resolve_right ?_)).2
    rw [Writer.busy, worker, queue]
    exact Bool.false_ne_true

/-- A checkpoint is being persisted while one output is queued and the next one does not fit. -/
def overflow : List WriterAction :=
  [WriterAction.enqueue ⟨.checkpoint, 0⟩, .work true, .work true, .enqueue ⟨.output, 1⟩, .enqueue ⟨.output, 1⟩] ++
    List.replicate 8 (.work true) ++ [WriterAction.finish, .work true, .work true]

/-- The output that is queued is passed over, and the gap behind the checkpoint is marked. -/
theorem cacheWriter_exact_overflow :
    ∃ w, exec (Writer.step 1) (.start 8) overflow = some w ∧
      persistedOf w.log = [⟨0, ⟨.checkpoint, 0⟩, 0⟩] ∧ Behind w.log .persisted (lastCheckpoint w.log) .gap := by
  obtain ⟨w, run⟩ : ∃ w, exec (Writer.step 1) (.start 8) overflow = some w := ⟨_, rfl⟩
  have reached : Reached 1 8 w := Reachable.exec (.start rfl) overflow run
  have returned : w.worker = .returned := by cases run; rfl
  have log : w.log = [.enqueued ⟨0, ⟨.checkpoint, 0⟩, 0⟩, .enqueued ⟨1, ⟨.output, 1⟩, 0⟩,
      .dropped ⟨2, ⟨.output, 1⟩, 0⟩, .requested, .persisted ⟨0, ⟨.checkpoint, 0⟩, 0⟩, .gap] := by
    cases run
    rfl
  refine ⟨w, run, by rw [log]; rfl, ?_⟩
  apply (cacheWriter_exact reached).2.2.1 returned (.dropped ⟨2, ⟨.output, 1⟩, 0⟩) rfl
  rw [log]
  show List.Sublist [_, _] _
  decide

end Ctl.Desktop
