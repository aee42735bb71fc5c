import Ctl.Base.Chunks

/-!
# The output journal

Model of `OutputJournal` in `ctmux/core/src/lib.rs`: the bounded replay buffer of the bytes a
terminal has written. Sequence numbers and byte counts are numbers: the `u64` sequence counts the
bytes of one terminal, and the `usize` counters are bounded by the memory that holds them.

`Holds j stream` relates a journal to the raw stream it was fed: it keeps the newest `capacityBytes`
bytes of it, as contiguous non-empty chunks. `append_holds` and `snapshotFrom_holds` are the
specifications the callers use.
-/

namespace Ctl.Core
open Ctl.Base

/-- A run of output bytes (Rust `OutputChunk`). -/
abbrev OutputChunk := Chunk UInt8

/-- The retained output from a position on (Rust `JournalSnapshot`). -/
structure JournalSnapshot where
  earliestSequence : Nat
  nextSequence : Nat
  replayFrom : Nat
  historyGap : Bool
  chunks : List OutputChunk

/-- Why a snapshot is refused (Rust `JournalError`). -/
inductive JournalError where
  | sequenceAhead (requested next : Nat)

/-- The retained output of a terminal (Rust `OutputJournal`). -/
structure OutputJournal where
  capacityBytes : Nat
  retainedBytes : Nat
  nextSequence : Nat
  chunks : List OutputChunk

namespace OutputJournal

/-- An empty journal; a capacity of zero bytes is raised to one (Rust `new`). -/
def new (capacityBytes : Nat) : OutputJournal := ⟨max capacityBytes 1, 0, 0, []⟩

/-- The number of the oldest retained byte (Rust `earliest_sequence`). -/
def earliestSequence (journal : OutputJournal) : Nat :=
  match journal.chunks.head? with
  | some chunk => chunk.sequenceStart
  | none => journal.nextSequence

/-- The loop of `enforce_capacity` on the chunks and the retained byte count: whole chunks are
    popped, the last excess is drained from the front chunk. -/
def evict (capacity : Nat) : List OutputChunk → (retained : Nat) → List OutputChunk × Nat
  | [], retained => if retained ≤ capacity then ([], retained) else ([], 0)
  | front :: chunks, retained =>
    if retained ≤ capacity then (front :: chunks, retained)
    else if front.data.length ≤ retained - capacity then
      evict capacity chunks (retained - front.data.length)
    else
      let excess := retained - capacity
      (⟨front.sequenceStart + excess, front.data.drop excess⟩ :: chunks, retained - excess)

/-- Drop the oldest bytes beyond the capacity (Rust `enforce_capacity`). -/
def enforceCapacity (journal : OutputJournal) : OutputJournal :=
  let (chunks, retainedBytes) := evict journal.capacityBytes journal.chunks journal.retainedBytes
  { journal with chunks, retainedBytes }

/-- Append output, returning the chunk to be broadcast (Rust `append`). -/
def append (journal : OutputJournal) (data : List UInt8) : Option OutputChunk × OutputJournal :=
  if data.isEmpty then (none, journal) else
  let liveChunk : OutputChunk := ⟨journal.nextSequence, data⟩
  (some liveChunk, enforceCapacity { journal with
    nextSequence := liveChunk.sequenceEnd
    retainedBytes := journal.retainedBytes + data.length
    chunks := journal.chunks ++ [liveChunk] })

/-- The retained output from `requested` on, or all of it (Rust `snapshot_from`). -/
def snapshotFrom (journal : OutputJournal) (requested : Option Nat) : Except JournalError JournalSnapshot :=
  let earliest := journal.earliestSequence
  let sequence := requested.getD earliest
  if requested.isSome ∧ journal.nextSequence < sequence then
    .error (.sequenceAhead sequence journal.nextSequence)
  else
    let replayFrom := max sequence earliest
    .ok {
      earliestSequence := earliest
      nextSequence := journal.nextSequence
      replayFrom
      historyGap := decide (sequence < earliest)
      chunks := journal.chunks.filterMap (·.sliceFrom replayFrom) }

/-! ### The journal of a stream -/

/-- The journal keeps the newest `capacityBytes` bytes of `stream`. -/
structure Holds (journal : OutputJournal) (stream : List UInt8) : Prop where
  capacity : 0 < journal.capacityBytes
  next : journal.nextSequence = stream.length
  retained : journal.retainedBytes = min stream.length journal.capacityBytes
  replays : Replays stream (stream.length - journal.capacityBytes) journal.chunks stream.length

variable (capacity : Nat)

lemma new_holds : (new capacity).Holds [] where
  capacity := by simp only [new]; omega
  next := rfl
  retained := by simp [new]
  replays := by
    rw [List.length_nil, Nat.zero_sub]
    exact .nil (Nat.zero_le _)

variable {journal : OutputJournal} {stream : List UInt8}

lemma Holds.earliest (h : journal.Holds stream) : journal.earliestSequence = stream.length - journal.capacityBytes := by
  have replays := h.replays
  have next := h.next
  generalize stream.length - journal.capacityBytes = start at *
  unfold earliestSequence
  cases hc : journal.chunks with
  | nil =>
    rw [hc] at replays
    cases replays
    exact next
  | cons chunk chunks =>
    rw [hc] at replays
    cases replays
    rfl

lemma evict_replays {a b : Nat} {chunks : List OutputChunk} {capacity : Nat} (pos : 0 < capacity)
    (h : Replays stream a chunks b) :
    (evict capacity chunks (b - a)).2 = min (b - a) capacity ∧
      Replays stream (max a (b - capacity)) (evict capacity chunks (b - a)).1 b := by
  induction h with
  | @nil a h =>
    rw [evict, if_pos (by omega)]
    refine ⟨by omega, ?_⟩
    rw [show max a (a - capacity) = a by omega]
    exact .nil h
  | @cons front chunks b h hs ih =>
    have bounds := hs.bounds
    have lt := h.lt
    have len : front.data.length = front.sequenceEnd - front.sequenceStart := by
      simp [Chunk.sequenceEnd]
    rw [evict]
    by_cases fits : b - front.sequenceStart ≤ capacity
    · rw [if_pos fits, show max front.sequenceStart (b - capacity) = front.sequenceStart by omega]
      exact ⟨by omega, .cons h hs⟩
    rw [if_neg fits]
    by_cases whole : front.data.length ≤ b - front.sequenceStart - capacity
    · rw [if_pos whole, show b - front.sequenceStart - front.data.length = b - front.sequenceEnd by
        omega, show max front.sequenceStart (b - capacity)
          = max front.sequenceEnd (b - capacity) by omega]
      exact ⟨by rw [ih.1]; omega, ih.2⟩
    · rw [if_neg whole]
      obtain ⟨k, e⟩ := h.cut (n := b - front.sequenceStart - capacity) (by omega)
      rw [show max front.sequenceStart (b - capacity)
        = front.sequenceStart + (b - front.sequenceStart - capacity) by omega]
      exact ⟨by simp only; omega, .cons k (e ▸ hs)⟩

lemma append_holds (h : journal.Holds stream) (data : List UInt8) : (journal.append data).2.Holds (stream ++ data) := by
  by_cases empty : data = []
  · subst empty
    simpa [append] using h
  have stop : Chunk.sequenceEnd ⟨stream.length, data⟩ = stream.length + data.length := rfl
  have replays := (h.replays.grow data).append (Replays.single (Chunk.Of.appended empty))
  rw [stop] at replays
  obtain ⟨retained, evicted⟩ := evict_replays h.capacity replays
  have count : journal.retainedBytes + data.length
      = stream.length + data.length - (stream.length - journal.capacityBytes) := by
    rw [h.retained]
    omega
  rw [append, if_neg (by simpa using empty), h.next, count]
  refine ⟨h.capacity, ?_, ?_, ?_⟩
  · simp [enforceCapacity, Chunk.sequenceEnd]
  · change (evict _ _ _).2 = min _ journal.capacityBytes
    rw [retained, List.length_append]
    omega
  · change Replays _ (_ - journal.capacityBytes) (evict _ _ _).1 _
    rw [List.length_append]
    convert evicted using 1
    omega

@[simp] lemma append_capacityBytes (journal : OutputJournal) (data : List UInt8) :
    (journal.append data).2.capacityBytes = journal.capacityBytes := by
  unfold append
  split <;> rfl

lemma snapshotFrom_holds (h : journal.Holds stream) (requested : Option Nat) (hr : ∀ r ∈ requested, r ≤ stream.length) :
    ∃ snapshot, journal.snapshotFrom requested = .ok snapshot ∧
      snapshot.earliestSequence = journal.earliestSequence ∧
      snapshot.nextSequence = stream.length ∧
      snapshot.replayFrom = max (requested.getD journal.earliestSequence)
        journal.earliestSequence ∧
      snapshot.historyGap = decide (requested.getD journal.earliestSequence
        < journal.earliestSequence) ∧
      Replays stream snapshot.replayFrom snapshot.chunks stream.length := by
  have earliest := h.earliest
  have le : requested.getD journal.earliestSequence ≤ stream.length := by
    cases requested with
    | none => simp only [Option.getD_none]; omega
    | some r => exact hr r rfl
  refine ⟨_, if_neg ?_, rfl, h.next, rfl, rfl, ?_⟩
  · rw [h.next]
    omega
  · refine h.replays.cut ?_ ?_ <;> simp only <;> omega

lemma snapshotFrom_ahead (h : journal.Holds stream) {r : Nat} (hr : stream.length < r) :
    journal.snapshotFrom (some r) = .error (.sequenceAhead r stream.length) := by
  rw [snapshotFrom, ← h.next]
  exact if_pos ⟨rfl, by simpa [h.next] using hr⟩

/-! ### Sequences of appends -/

def run (appends : List (List UInt8)) : OutputJournal :=
  appends.foldl (fun journal data => (journal.append data).2) (new capacity)

lemma foldl_append_holds (h : journal.Holds stream) (appends : List (List UInt8)) :
    (appends.foldl (fun journal data => (journal.append data).2) journal).Holds
        (stream ++ appends.flatten) ∧
      (appends.foldl (fun journal data => (journal.append data).2) journal).capacityBytes
        = journal.capacityBytes := by
  induction appends generalizing journal stream with
  | nil => simpa using h
  | cons data appends ih =>
    obtain ⟨holds, capacity⟩ := ih (append_holds h data)
    rw [List.flatten_cons, ← List.append_assoc]
    exact ⟨holds, by rw [List.foldl_cons, capacity, append_capacityBytes]⟩

lemma run_holds (appends : List (List UInt8)) :
    (run capacity appends).Holds appends.flatten ∧
      (run capacity appends).capacityBytes = max capacity 1 :=
  foldl_append_holds (new_holds capacity) appends

/-- The journal retains the stream from `earliest` to its end in non-empty chunks that line up, and a
    snapshot from `r` is refused exactly ahead of the stream; otherwise it holds the stream from the
    later of `r` and `earliest` on, with the gap flag set exactly below `earliest`. -/
structure Retains (journal : OutputJournal) (stream : List UInt8) (earliest : Nat) : Prop where
  next : journal.nextSequence = stream.length
  first : journal.earliestSequence = earliest
  bytes : journal.chunks.flatMap (·.data) = stream.drop earliest
  replays : Replays stream earliest journal.chunks stream.length
  ahead : ∀ r, stream.length < r →
    journal.snapshotFrom (some r) = .error (.sequenceAhead r stream.length)
  snapshot : ∀ r ≤ stream.length, ∃ snapshot, journal.snapshotFrom (some r) = .ok snapshot ∧
    snapshot.replayFrom = max r earliest ∧ (snapshot.historyGap = true ↔ r < earliest) ∧
    snapshot.chunks.flatMap (·.data) = range stream snapshot.replayFrom stream.length ∧
    Replays stream snapshot.replayFrom snapshot.chunks stream.length

/-- After any appends the journal retains the last `max capacity 1` bytes of the stream, or all of
    it. -/
theorem run_retains (capacity : Nat) (appends : List (List UInt8)) :
    (run capacity appends).Retains appends.flatten
      (appends.flatten.length - min appends.flatten.length (max capacity 1)) := by
  obtain ⟨holds, capacityBytes⟩ := run_holds capacity appends
  have start : appends.flatten.length - (run capacity appends).capacityBytes
      = appends.flatten.length - min appends.flatten.length (max capacity 1) := by
    omega
  have replays := start ▸ holds.replays
  have first := start ▸ holds.earliest
  refine ⟨holds.next, first, ?_, replays, fun r => snapshotFrom_ahead holds, fun r hr => ?_⟩
  · rw [replays.flatMap_data, range_length]
  · obtain ⟨snapshot, ok, -, -, position, gap, covers⟩ :=
      snapshotFrom_holds holds (some r) (fun q hq => Option.mem_some.1 hq ▸ hr)
    rw [Option.getD_some, first] at position gap
    exact ⟨snapshot, ok, position, by rw [gap, decide_eq_true_iff], covers.flatMap_data, covers⟩

/-- A journal of capacity zero retains the last byte, not the last `min total 0` bytes. -/
theorem run_zero_capacity_keeps_one :
    (run 0 [[97]]).chunks.flatMap (·.data)
      ≠ [97].drop ([97].length - min [97].length 0) := by
  decide

end OutputJournal

end Ctl.Core
