import Ctl.Base.System
import Ctl.Daemon.Checkpoint

/-!
# Delivery to one attachment

Model of the delivery loop in `ctmux/daemon/src/server.rs`: `AttachmentDriver` with
`accept_presentation_progress`, `send_available_output`, `send_checkpoint` and the session events that
start them. The driver awaits between its lock-protected sections, so the terminal may take any number
of operations between two of its steps; a write either completes or ends the connection.

`step_inv` shows that every step of this system keeps the frames sent so far one contiguous replay of
the raw stream, restarted only by checkpoints, and that no boundary is crossed without one.
-/

namespace Ctl.Daemon.Delivery
open Ctl.Base Ctl.Proto Ctl.Core Ctl.Daemon.TerminalState

/-! ### Frames of output -/

/-- `MIN_OUTPUT_FRAME_CHARGE_BYTES`. -/
def minOutputFrameChargeBytes : Nat := 4 * 1024

/-- `MAX_OUTPUT_FRAME_BYTES`. -/
def maxOutputFrameBytes : Nat := 64 * 1024

/-- What a frame takes from the presentation window (Rust `output_frame_charge`). -/
def outputFrameCharge (dataLen presentationWindowBytes : Nat) : Nat :=
  max dataLen (min presentationWindowBytes minOutputFrameChargeBytes)

/-- The part of a chunk behind `sequence` (Rust `chunk_after`). -/
def chunkAfter (chunk : Chunk UInt8) (sequence : Nat) : Option (Chunk UInt8) :=
  chunk.sliceFrom sequence

/-- The loop of `coalesce_output_chunks`: the data collected up to `nextSequence`. -/
def coalesceLoop (maxBytes : Nat) :
    List (Chunk UInt8) → (data : List UInt8) → (nextSequence : Nat) → List UInt8
  | [], data, _ => data
  | chunk :: chunks, data, nextSequence =>
    match chunkAfter chunk nextSequence with
    | none => coalesceLoop maxBytes chunks data nextSequence
    | some chunk =>
      if chunk.sequenceStart ≠ nextSequence then data
      else
        let take := min (maxBytes - data.length) chunk.data.length
        let data := data ++ chunk.data.take take
        if data.length = maxBytes then data
        else coalesceLoop maxBytes chunks data (nextSequence + take)

/-- One frame of output from `sequence` on (Rust `coalesce_output_chunks`). -/
def coalesceOutputChunks (chunks : List (Chunk UInt8)) (sequence maxBytes : Nat) : Option (Chunk UInt8) :=
  if maxBytes = 0 then none
  else
    let data := coalesceLoop maxBytes chunks [] sequence
    if data = [] then none else some ⟨sequence, data⟩

lemma coalesceLoop_spec {log : List UInt8} {start next stop : Nat} (maxBytes : Nat)
    {chunks : List (Chunk UInt8)} (data : List UInt8) (h : Replays log next chunks stop)
    (le : start ≤ next) (hdata : data = range log start next) (room : data.length < maxBytes) :
    ∃ last, next ≤ last ∧ last ≤ log.length ∧
      coalesceLoop maxBytes chunks data next = range log start last := by
  induction h generalizing data with
  | @nil next bound => exact ⟨next, le_refl _, bound, hdata⟩
  | @cons chunk chunks stop of rest ih =>
    have lt := of.lt
    have after : chunkAfter chunk chunk.sequenceStart = some chunk := by
      rw [chunkAfter, Chunk.sliceFrom, if_neg (by omega), if_pos (le_refl _)]
    rw [coalesceLoop, after]
    simp only [ne_eq, not_true_eq_false, if_false]
    generalize htake : min (maxBytes - data.length) chunk.data.length = take
    have few : take ≤ chunk.data.length := htake ▸ Nat.min_le_right _ _
    have bound := of.bound
    have size : chunk.sequenceEnd = chunk.sequenceStart + chunk.data.length := rfl
    have taken : data ++ chunk.data.take take = range log start (chunk.sequenceStart + take) := by
      have front : chunk.data.take take
          = range log chunk.sequenceStart (chunk.sequenceStart + take) := by
        rw [of.data, range, range, List.take_take]
        congr 1
        omega
      rw [hdata, front, range_append_range le (Nat.le_add_right _ _)]
    split
    · exact ⟨chunk.sequenceStart + take, by omega, by omega, taken⟩
    case isFalse more =>
      -- The frame is not full, so the whole chunk was taken.
      rw [List.length_append, List.length_take] at more
      obtain rfl : take = chunk.data.length := by omega
      obtain ⟨last, behind, inside, eq⟩ := ih _ (le_trans le lt.le) taken (by
        rw [List.length_append, List.length_take]
        omega)
      exact ⟨last, le_trans lt.le behind, inside, eq⟩

lemma coalesceOutputChunks_spec {log : List UInt8} {sequence stop maxBytes : Nat}
    {chunks : List (Chunk UInt8)} {frame : Chunk UInt8} (h : Replays log sequence chunks stop)
    (some : coalesceOutputChunks chunks sequence maxBytes = some frame) :
    frame.Of log ∧ frame.sequenceStart = sequence := by
  rw [coalesceOutputChunks] at some
  split at some
  · cases some
  case isFalse room =>
    obtain ⟨last, behind, inside, eq⟩ := coalesceLoop_spec maxBytes [] h
      (le_refl _) (by simp) (Nat.pos_of_ne_zero room)
    dsimp only at some
    split at some
    · cases some
    case isFalse ne =>
      cases some
      refine ⟨⟨ne, ?_, ?_⟩, rfl⟩
      · simp only [Chunk.sequenceEnd, eq, length_range inside]
        omega
      · simp only [Chunk.sequenceEnd, eq, length_range inside]
        congr 1
        omega

/-! ### The driver -/

/-- An output frame that the client has not acknowledged (Rust `OutputDelivery`). -/
structure OutputDelivery where
  sequenceEnd : Nat
  chargeBytes : Nat

/-- The delivery state of an attachment (Rust `LiveAttachment`). -/
structure LiveAttachment where
  sentSequence : Nat
  checkpointGeometryRevision : Option Nat
  presentationWindowBytes : Nat
  appliedSequence : Option Nat
  inFlightOutput : List OutputDelivery
  inFlightChargeBytes : Nat
  pendingCheckpoint : Bool

/-- Why an acknowledgement is refused. -/
inductive ProgressError where
  | ahead
  | regressed
  | notFrameBoundary
  | notPendingCheckpoint

def ProgressError.message : ProgressError → String
  | .ahead => "presentation acknowledgement is ahead of sent output"
  | .regressed => "presentation acknowledgement regressed"
  | .notFrameBoundary => "presentation acknowledgement is not an output frame boundary"
  | .notPendingCheckpoint => "presentation acknowledgement does not match the pending checkpoint"

/-- The loop of `accept_presentation_progress`: forget the acknowledged frames. -/
def popAcknowledged (sequence : Nat) :
    List OutputDelivery → (charge : Nat) → List OutputDelivery × Nat
  | [], charge => ([], charge)
  | delivery :: rest, charge =>
    if delivery.sequenceEnd ≤ sequence then
      popAcknowledged sequence rest (charge - delivery.chargeBytes)
    else (delivery :: rest, charge)

def LiveAttachment.acknowledge (a : LiveAttachment) (sequence : Nat) : LiveAttachment :=
  let popped := popAcknowledged sequence a.inFlightOutput a.inFlightChargeBytes
  { a with
    appliedSequence := some sequence
    inFlightOutput := popped.1
    inFlightChargeBytes := popped.2 }

/-- The client has presented everything before `sequence` (Rust `accept_presentation_progress`). -/
def LiveAttachment.acceptPresentationProgress (a : LiveAttachment) (sequence : Nat) :
    Except ProgressError LiveAttachment :=
  if a.sentSequence < sequence then .error .ahead
  else match a.appliedSequence with
    | some applied =>
      if sequence < applied then .error .regressed
      else if sequence = applied then .ok a
      else if a.inFlightOutput.any (·.sequenceEnd = sequence) then .ok (a.acknowledge sequence)
      else .error .notFrameBoundary
    | none =>
      if sequence ≠ a.sentSequence ∨ ¬ a.inFlightOutput.isEmpty then .error .notPendingCheckpoint
      else .ok (a.acknowledge sequence)

/-- The geometry event is already represented in what was sent (Rust `geometry_event_is_stale`). -/
def geometryEventIsStale (checkpointGeometryRevision : Option Nat)
    (sentSequence observedSequence geometryRevision : Nat) : Bool :=
  checkpointGeometryRevision.any (geometryRevision ≤ ·) || decide (observedSequence < sentSequence)

/-- The frames that carry terminal contents to the client. `geometryRevision` is the daemon's revision
    of the checkpoint and not on the wire. -/
inductive Frame where
  | attached (replayFrom : Nat) (checkpoint : Option TerminalCheckpoint)
      (geometryRevision : Option Nat)
  | output (chunk : Chunk UInt8)
  | checkpoint (checkpoint : TerminalCheckpoint) (geometryRevision : Option Nat)

/-- Where the driver stands between two lock-protected sections or writes. -/
inductive Phase where
  /-- `take_initial_snapshot` has not run. -/
  | attaching (resumeFrom : Option Nat)
  /-- Between the two sections of the `fresh_snapshot` of an attach. -/
  | attachingFresh
  /-- Writing `Attached`. -/
  | sendingAttached (snapshot : AttachSnapshot)
  /-- Waiting for an event or a message. -/
  | idle
  /-- At the head of the loop of `send_available_output`. -/
  | delivering
  /-- Before and between the two sections of a requested `fresh_snapshot`. -/
  | refreshing
  | capturing
  /-- Writing `Output`. -/
  | sendingOutput (chunk : Chunk UInt8) (chargeBytes : Nat)
  /-- Writing `Checkpoint`. -/
  | sendingCheckpoint (checkpoint : TerminalCheckpoint) (geometryRevision : Option Nat)
  | closed

/-- A terminal with one attachment: the operations on the terminal so far, the driver and the frames
    it has written. -/
structure System where
  ops : List Op
  attachment : LiveAttachment
  phase : Phase
  frames : List Frame

def System.attach (ops : List Op) (resumeFrom : Option Nat) (presentationWindowBytes : Nat) :
    System where
  ops
  attachment := ⟨0, none, presentationWindowBytes, none, [], 0, false⟩
  phase := .attaching resumeFrom
  frames := []

/-- Enter `send_available_output`. -/
def System.sendAvailableOutput (s : System) : System :=
  if s.attachment.appliedSequence.isNone then { s with phase := .idle }
  else if s.attachment.pendingCheckpoint ∧ s.attachment.inFlightOutput.isEmpty then
    { s with phase := .refreshing }
  else { s with phase := .delivering }

/-- Enter `send_checkpoint`; a snapshot without a checkpoint ends the driver. -/
def System.sendCheckpoint (s : System) (snapshot : AttachSnapshot) : System :=
  match snapshot.checkpoint with
  | none => { s with phase := .closed }
  | some checkpoint =>
    { s with phase := .sendingCheckpoint checkpoint snapshot.checkpointGeometryRevision }

def System.setPendingCheckpoint (s : System) (pendingCheckpoint : Bool) : System :=
  { s with attachment := { s.attachment with pendingCheckpoint } }

/-- One turn of the loop of `send_available_output`, up to its write, on the snapshot it took. -/
def System.deliver (s : System) (snapshot : AttachSnapshot) (availableBytes : Nat) : System :=
  match snapshot.checkpoint with
  | some _ =>
    if s.attachment.inFlightOutput.isEmpty then s.sendCheckpoint snapshot
    else { s with phase := .idle }
  | none =>
    match coalesceOutputChunks snapshot.journal.chunks s.attachment.sentSequence
      (min availableBytes maxOutputFrameBytes) with
    | none => { s with phase := .idle }
    | some chunk =>
      let charge := outputFrameCharge chunk.data.length s.attachment.presentationWindowBytes
      if availableBytes < charge then { s with phase := .idle }
      else { s with phase := .sendingOutput chunk charge }

/-- `Attached` was written: the attachment is live, and the driver starts to deliver. -/
def System.attachedWritten (s : System) (snapshot : AttachSnapshot) : System :=
  System.sendAvailableOutput { s with
    frames := s.frames ++
      [.attached snapshot.journal.replayFrom snapshot.checkpoint snapshot.checkpointGeometryRevision]
    attachment := { s.attachment with
      sentSequence := snapshot.journal.replayFrom
      checkpointGeometryRevision := snapshot.checkpointGeometryRevision
      appliedSequence :=
        if snapshot.checkpoint.isNone then some snapshot.journal.replayFrom else none } }

/-- `Output` was written: the loop of `send_available_output` goes on. -/
def System.outputWritten (s : System) (chunk : Chunk UInt8) (chargeBytes : Nat) : System :=
  { s with
    frames := s.frames ++ [Frame.output chunk]
    phase := .delivering
    attachment := { s.attachment with
      sentSequence := chunk.sequenceEnd
      inFlightChargeBytes := s.attachment.inFlightChargeBytes + chargeBytes
      inFlightOutput := s.attachment.inFlightOutput ++ [⟨chunk.sequenceEnd, chargeBytes⟩] } }

/-- `Checkpoint` was written: nothing more is sent before the client has applied it. -/
def System.checkpointWritten (s : System) (checkpoint : TerminalCheckpoint) (geometryRevision : Option Nat) : System :=
  { s with
    frames := s.frames ++ [Frame.checkpoint checkpoint geometryRevision]
    phase := .idle
    attachment := { s.attachment with
      sentSequence := checkpoint.sequence
      appliedSequence := none
      checkpointGeometryRevision := geometryRevision } }

section
variable (E : Emulator) (setup : Setup)

def System.withSnapshot (s : System) (requested revision : Option Nat) (use : AttachSnapshot → System) : System :=
  match (run E setup s.ops).snapshotForDelivery requested revision with
  | .error _ => { s with phase := .closed }
  | .ok snapshot => use snapshot

/-- The driver runs up to its next await or lock; nothing happens while it waits for an event. -/
def System.proceed (s : System) : Option System :=
  match s.phase with
  | .attaching none => some { s with ops := s.ops ++ [TerminalState.Op.refresh], phase := .attachingFresh }
  | .attaching (some resumeFrom) => some <| s.withSnapshot E setup (some resumeFrom) none
      fun snapshot => { s with phase := .sendingAttached snapshot }
  | .attachingFresh => some <| s.withSnapshot E setup none none
      fun snapshot => { s with phase := .sendingAttached snapshot }
  | .sendingAttached snapshot => some (s.attachedWritten snapshot)
  | .idle => none
  | .delivering =>
    let available := s.attachment.presentationWindowBytes - s.attachment.inFlightChargeBytes
    if available = 0 then some { s with phase := .idle }
    else some <| s.withSnapshot E setup (some s.attachment.sentSequence)
      s.attachment.checkpointGeometryRevision fun snapshot => s.deliver snapshot available
  | .refreshing => some { s with ops := s.ops ++ [TerminalState.Op.refresh], phase := .capturing }
  | .capturing => some <| s.withSnapshot E setup none none fun snapshot =>
      (s.setPendingCheckpoint false).sendCheckpoint snapshot
  | .sendingOutput chunk chargeBytes => some (s.outputWritten chunk chargeBytes)
  | .sendingCheckpoint checkpoint geometryRevision =>
    some (s.checkpointWritten checkpoint geometryRevision)
  | .closed => none

/-- What can happen next. The events of the session may be late, merged or lost (`Lagged`), so any of
    them may arrive whenever the driver waits. -/
inductive Action where
  /-- An operation on the terminal, by its PTY reader or through another attachment. -/
  | terminal (op : Op)
  /-- `PresentationApplied` from the client. -/
  | presentationApplied (sequence : Nat)
  /-- `RequestCheckpoint` from the client. -/
  | requestCheckpoint
  /-- `Output`, `Ended` or `Lagged`, or a turn before a history page. -/
  | output
  | ptyGeometryChanged (observedSequence geometryRevision : Nat)
  | proceed
  /-- The connection ends, at the latest when a write fails. -/
  | disconnect

def System.whenIdle (s : System) (handle : System) : Option System :=
  match s.phase with
  | .idle => some handle
  | _ => none

def step (s : System) : Action → Option System
  | .terminal op => some { s with ops := s.ops ++ [op] }
  | .presentationApplied sequence => s.whenIdle <|
    match s.attachment.acceptPresentationProgress sequence with
    | .error _ => s
    | .ok attachment => System.sendAvailableOutput { s with attachment }
  | .requestCheckpoint => s.whenIdle (s.setPendingCheckpoint true).sendAvailableOutput
  | .output => s.whenIdle s.sendAvailableOutput
  | .ptyGeometryChanged observedSequence geometryRevision => s.whenIdle <|
    if geometryEventIsStale s.attachment.checkpointGeometryRevision s.attachment.sentSequence
        observedSequence geometryRevision then s
    else s.sendAvailableOutput
  | .proceed => s.proceed E setup
  | .disconnect => some { s with phase := .closed }

end

/-! ### Boundaries -/

section
variable {E : Emulator} {setup : Setup} {ops : List Op} {b v : Nat}

/-- At position `b` the terminal had its screen replaced, as revision `v`. -/
def IsBoundary (E : Emulator) (setup : Setup) (ops : List Op) (b v : Nat) : Prop :=
  ∃ before op after, ops = before ++ [op] ++ after ∧
    Replaced (run E setup before) (run E setup (before ++ [op])) ∧
    b = (rawStream (before ++ [op])).length ∧ v = (run E setup (before ++ [op])).geometryRevision

lemma geometryRevision_le (E : Emulator) (setup : Setup) (ops more : List Op) :
    (run E setup ops).geometryRevision ≤ (run E setup (ops ++ more)).geometryRevision := by
  induction more using List.reverseRecOn with
  | nil => rw [List.append_nil]
  | append_singleton more op ih =>
    rw [← List.append_assoc]
    exact le_trans ih (run_last E setup (ops ++ more) op).2.revision_le

lemma checkpoint_le (E : Emulator) (setup : Setup) (ops : List Op) (op : Op) :
    (run E setup ops).checkpoint.sequence ≤ (run E setup (ops ++ [op])).checkpoint.sequence := by
  rcases (run_last E setup ops op).1 with captured | ⟨same, -, -⟩
  · have next := (run_consistent E setup (ops ++ [op])).journal.next
    have reached := (run_consistent E setup ops).reached
    rw [captured.checkpoint]
    refine le_trans reached (le_trans ?_ next.ge)
    rw [rawStream_concat, List.length_append]
    exact Nat.le_add_right _ _
  · rw [same]

lemma IsBoundary.revision_le (h : IsBoundary E setup ops b v) : v ≤ (run E setup ops).geometryRevision := by
  obtain ⟨before, op, after, rfl, -, -, rfl⟩ := h
  exact geometryRevision_le E setup _ _

lemma IsBoundary.last (h : IsBoundary E setup ops b v) :
    ∃ last ∈ (run E setup ops).lastGeometryChangeSequence, b ≤ last := by
  obtain ⟨before, op, after, rfl, replaced, rfl, -⟩ := h
  exact run_boundary E setup before op after replaced

lemma IsBoundary.concat {op : Op} (h : IsBoundary E setup (ops ++ [op]) b v) :
    IsBoundary E setup ops b v ∨ (rawStream ops).length ≤ b := by
  obtain ⟨before, op', after, split, replaced, hb, hv⟩ := h
  cases after using List.reverseRecOn with
  | nil =>
    rw [List.append_nil] at split
    right
    rw [hb, ← split, rawStream_concat, List.length_append]
    exact Nat.le_add_right _ _
  | append_singleton after op'' =>
    rw [← List.append_assoc] at split
    exact .inl ⟨before, op', after, (List.append_inj' split rfl).1, replaced, hb, hv⟩

end

/-! ### The frames as one stream -/

def Frame.stop : Frame → Nat
  | .attached replayFrom _ _ => replayFrom
  | .output chunk => chunk.sequenceEnd
  | .checkpoint captured _ => captured.sequence

def Frame.revision : Frame → Option Nat
  | .attached _ _ revision => revision
  | .output _ => none
  | .checkpoint _ revision => revision

/-- Some checkpoint among the frames has at least revision `v`. -/
def Carried (frames : List Frame) (v : Nat) : Prop := ∃ frame ∈ frames, ∃ r ∈ frame.revision, v ≤ r

/-- The client attached behind position `b` and was not sent a checkpoint: it resumed from output it
    had received before. -/
def ResumedBehind (frames : List Frame) (b : Nat) : Prop :=
  ∃ p, .attached p none none ∈ frames ∧ b < p

/-- The client knows the boundary at `b` with revision `v`. -/
def Seen (frames : List Frame) (b v : Nat) : Prop := Carried frames v ∨ ResumedBehind frames b

lemma Seen.mono {frames : List Frame} {b v : Nat} (h : Seen frames b v) (more : List Frame) :
    Seen (frames ++ more) b v := by
  rcases h with ⟨frame, hf, carried⟩ | ⟨p, hp, lt⟩
  · exact .inl ⟨frame, List.mem_append_left _ hf, carried⟩
  · exact .inr ⟨p, List.mem_append_left _ hp, lt⟩

/-- The frames bring the client to `position`: it attaches, and from then on output continues where
    the last frame stopped, checkpoints do not move back, and no output behind a boundary is sent to
    a client that has not seen the boundary. -/
inductive Delivers (log : List UInt8) (boundary : Nat → Nat → Prop) : List Frame → Nat → Prop
  | nil : Delivers log boundary [] 0
  | attached {replayFrom : Nat} {checkpoint : Option TerminalCheckpoint} {revision : Option Nat} :
    Delivers log boundary [.attached replayFrom checkpoint revision] replayFrom
  | output {frames : List Frame} {chunk : Chunk UInt8} :
    frames ≠ [] → Delivers log boundary frames chunk.sequenceStart → chunk.Of log →
    (∀ b v, boundary b v → b < chunk.sequenceEnd → Seen frames b v) →
    Delivers log boundary (frames ++ [Frame.output chunk]) chunk.sequenceEnd
  | checkpoint {frames : List Frame} {position : Nat} {checkpoint : TerminalCheckpoint}
    {revision : Option Nat} :
    Delivers log boundary frames position → position ≤ checkpoint.sequence →
    Delivers log boundary (frames ++ [Frame.checkpoint checkpoint revision]) checkpoint.sequence

namespace Delivers

variable {log : List UInt8} {boundary boundary' : Nat → Nat → Prop} {frames : List Frame}
  {position : Nat}

lemma grow (h : Delivers log boundary frames position) (more : List UInt8)
    (new : ∀ b v, boundary' b v → boundary b v ∨ log.length ≤ b) :
    Delivers (log ++ more) boundary' frames position := by
  induction h with
  | nil => exact .nil
  | attached => exact .attached
  | @output frames chunk ne _ of seen ih =>
    refine .output ne ih (of.grow more) fun b v hb lt => ?_
    have bound := of.bound
    rcases new b v hb with old | behind
    · exact seen b v old lt
    · omega
  | checkpoint _ le ih => exact .checkpoint ih le

lemma eq_zero (h : Delivers log boundary [] position) : position = 0 := by
  generalize hall : ([] : List Frame) = all at h
  cases h with
  | nil => rfl
  | attached => cases hall
  | output => simp at hall
  | checkpoint => simp at hall

lemma last (h : Delivers log boundary frames position) (ne : frames ≠ []) :
    ∃ frame ∈ frames.getLast?, position = frame.stop := by
  cases h with
  | nil => exact absurd rfl ne
  | attached => exact ⟨_, rfl, rfl⟩
  | output => exact ⟨_, List.getLast?_concat, rfl⟩
  | checkpoint => exact ⟨_, List.getLast?_concat, rfl⟩

lemma of_append {more : List Frame} (h : Delivers log boundary (frames ++ more) position) :
    ∃ p, p ≤ position ∧ Delivers log boundary frames p := by
  induction more using List.reverseRecOn generalizing position with
  | nil => exact ⟨position, le_refl _, by rwa [List.append_nil] at h⟩
  | append_singleton more frame ih =>
    rw [← List.append_assoc] at h
    generalize hall : frames ++ more ++ [frame] = all at h
    cases h with
    | nil => simp at hall
    | attached =>
      have empty : frames ++ more = [] :=
        (List.append_inj' (hall.trans (List.nil_append [_]).symm) rfl).1
      rw [(List.append_eq_nil_iff.1 empty).1]
      exact ⟨0, Nat.zero_le _, .nil⟩
    | output _ h of =>
      rw [← (List.append_inj' hall rfl).1] at h
      obtain ⟨p, le, before⟩ := ih h
      exact ⟨p, le_trans le of.lt.le, before⟩
    | checkpoint h le' =>
      rw [← (List.append_inj' hall rfl).1] at h
      obtain ⟨p, le, before⟩ := ih h
      exact ⟨p, le_trans le le', before⟩

lemma output_spec {chunk : Chunk UInt8} {after : List Frame}
    (h : Delivers log boundary (frames ++ Frame.output chunk :: after) position) :
    frames ≠ [] ∧ Delivers log boundary frames chunk.sequenceStart ∧ chunk.Of log ∧
      chunk.sequenceEnd ≤ position ∧
      ∀ b v, boundary b v → b < chunk.sequenceEnd → Seen frames b v := by
  rw [List.append_cons] at h
  obtain ⟨p, le, h⟩ := h.of_append
  generalize hall : frames ++ [Frame.output chunk] = all at h
  cases h with
  | nil => simp at hall
  | attached =>
    cases (List.append_inj' (hall.trans (List.nil_append [_]).symm) rfl).2
  | output ne h of seen =>
    obtain ⟨rfl, hframe⟩ := List.append_inj' hall rfl
    cases hframe
    exact ⟨ne, h, of, le, seen⟩
  | checkpoint => cases (List.append_inj' hall rfl).2

end Delivers

/-! ### Snapshots -/

section
variable {E : Emulator} {setup : Setup} {revision requested : Option Nat} {s s' : System} {snapshot : AttachSnapshot}

/-- What the driver relies on in a snapshot that it took after `ops`. -/
structure Taken (E : Emulator) (setup : Setup) (ops : List Op) (requested revision : Option Nat)
    (snapshot : AttachSnapshot) : Prop where
  bound : snapshot.journal.replayFrom ≤ (rawStream ops).length
  replays : Replays (rawStream ops) snapshot.journal.replayFrom snapshot.journal.chunks
    (rawStream ops).length
  /-- A checkpoint is of the current revision and not behind the requested position. -/
  restart : ∀ c ∈ snapshot.checkpoint, snapshot.journal.replayFrom = c.sequence ∧
    snapshot.checkpointGeometryRevision = some (run E setup ops).geometryRevision ∧
    ∀ r ∈ requested, r ≤ c.sequence
  /-- Without a checkpoint the requested position has no unseen boundary behind it. -/
  resume : snapshot.checkpoint = none → requested = some snapshot.journal.replayFrom ∧
    snapshot.checkpointGeometryRevision = none ∧
    ∀ b v, IsBoundary E setup ops b v → snapshot.journal.replayFrom ≤ b → ∃ r ∈ revision, v ≤ r
  /-- A fresh snapshot is the current checkpoint. -/
  fresh : requested = none →
    ∃ c ∈ snapshot.checkpoint, c.sequence = (run E setup ops).checkpoint.sequence

lemma seen_of_deliveryCheckpoint_eq_none {ops : List Op} {r : Nat}
    (none : (run E setup ops).deliveryCheckpoint (some r) revision = none) {b v : Nat}
    (boundary : IsBoundary E setup ops b v) (le : r ≤ b) : ∃ r ∈ revision, v ≤ r := by
  by_contra unseen
  push Not at unseen
  obtain ⟨last, hlast, behind⟩ := boundary.last
  have isSome := deliveryCheckpoint_isSome (some r) revision rfl hlast
    (le_trans le behind) fun q hq => lt_of_lt_of_le (unseen q hq) boundary.revision_le
  rw [none] at isSome
  cases isSome

lemma snapshotForDelivery_taken {ops : List Op} (revision : Option Nat)
    (hr : ∀ r ∈ requested, r ≤ (rawStream ops).length) :
    ∃ snapshot, (run E setup ops).snapshotForDelivery requested revision = .ok snapshot ∧
      Taken E setup ops requested revision snapshot := by
  have consistent := run_consistent E setup ops
  have start := deliveryCheckpoint_spec consistent requested revision
  obtain ⟨snapshot, ok, -, checkpoint, geometry, position, resumed, -, replays⟩ :=
    snapshotForDelivery_spec consistent revision hr
  refine ⟨snapshot, ok, replays.bounds.1, replays, ?_, ?_, ?_⟩
  · intro c hc
    refine ⟨position c hc, ?_⟩
    rw [checkpoint] at hc
    obtain ⟨g, hg, rfl⟩ := Option.map_eq_some_iff.1 hc
    rw [hg] at start geometry
    exact ⟨geometry, start.2⟩
  · intro none
    have from_ := resumed none
    rw [checkpoint, Option.map_eq_none_iff] at none
    refine ⟨from_, by rw [geometry, none]; rfl, ?_⟩
    rw [from_] at none
    exact fun b v boundary le => seen_of_deliveryCheckpoint_eq_none none boundary le
  · rintro rfl
    have latest : (run E setup ops).deliveryCheckpoint none revision = some
        { (run E setup ops).captured with
          geometryRevision := (run E setup ops).checkpointGeometryRevision } := by
      rw [deliveryCheckpoint]
      exact if_pos (by simp)
    rw [checkpoint, latest]
    exact ⟨_, rfl, rfl⟩

lemma withSnapshot_rule {P : System → Prop} {use : AttachSnapshot → System} (closed : P { s with phase := .closed })
    (taken : ∀ snapshot, Taken E setup s.ops requested revision snapshot → P (use snapshot)) :
    P (s.withSnapshot E setup requested revision use) := by
  unfold System.withSnapshot
  by_cases hr : ∀ r ∈ requested, r ≤ (rawStream s.ops).length
  · obtain ⟨snapshot, ok, h⟩ := snapshotForDelivery_taken revision hr
    rw [ok]
    exact taken snapshot h
  · push Not at hr
    obtain ⟨r, rfl, ahead⟩ := hr
    rw [snapshotForDelivery, if_pos]
    · exact closed
    · simpa [(run_consistent E setup s.ops).journal.next] using ahead

/-! ### The invariant -/

/-- What the driver has established where it stands. -/
def PhaseInv (E : Emulator) (setup : Setup) (s : System) : Prop :=
  match s.phase with
  | .attaching _ => s.frames = []
  | .attachingFresh => s.frames = []
  | .sendingAttached snapshot => s.frames = [] ∧
    snapshot.journal.replayFrom ≤ (rawStream s.ops).length ∧
    (snapshot.checkpoint = none ∧ snapshot.checkpointGeometryRevision = none ∨
      ∃ r ∈ snapshot.checkpointGeometryRevision, ∀ b v, IsBoundary E setup s.ops b v →
        b < snapshot.journal.replayFrom → v ≤ r)
  | .idle => s.frames ≠ []
  | .delivering => s.frames ≠ []
  | .refreshing => s.frames ≠ []
  | .capturing => s.frames ≠ [] ∧
    s.attachment.sentSequence ≤ (run E setup s.ops).checkpoint.sequence
  | .sendingOutput chunk _ => s.frames ≠ [] ∧ chunk.Of (rawStream s.ops) ∧
    chunk.sequenceStart = s.attachment.sentSequence ∧
    ∀ b v, IsBoundary E setup s.ops b v → b < chunk.sequenceEnd → Seen s.frames b v
  | .sendingCheckpoint checkpoint revision => s.frames ≠ [] ∧
    s.attachment.sentSequence ≤ checkpoint.sequence ∧
    checkpoint.sequence ≤ (rawStream s.ops).length ∧
    ∃ r ∈ revision, ∀ b v, IsBoundary E setup s.ops b v → b < checkpoint.sequence → v ≤ r
  | .closed => True

structure Contiguous (E : Emulator) (setup : Setup) (s : System) : Prop where
  bound : s.attachment.sentSequence ≤ (rawStream s.ops).length
  delivers : Delivers (rawStream s.ops) (IsBoundary E setup s.ops) s.frames s.attachment.sentSequence
  seen : ∀ b v, IsBoundary E setup s.ops b v → b < s.attachment.sentSequence → Seen s.frames b v
  revision : ∀ r ∈ s.attachment.checkpointGeometryRevision,
    ∃ frame ∈ s.frames, frame.revision = some r

structure Inv (E : Emulator) (setup : Setup) (s : System) : Prop extends Contiguous E setup s where
  phase : PhaseInv E setup s

lemma Contiguous.move {s : System} (h : Contiguous E setup s) {a : LiveAttachment}
    (sent : a.sentSequence = s.attachment.sentSequence)
    (revision : a.checkpointGeometryRevision = s.attachment.checkpointGeometryRevision) :
    Contiguous E setup { s with attachment := a } where
  bound := sent.symm ▸ h.bound
  delivers := sent.symm ▸ h.delivers
  seen b v boundary lt := h.seen b v boundary (sent ▸ lt)
  revision r hr := h.revision r (revision ▸ hr)

lemma Contiguous.setPendingCheckpoint (h : Contiguous E setup s) (pending : Bool) :
    Contiguous E setup (s.setPendingCheckpoint pending) :=
  h.move rfl rfl

lemma Contiguous.enter (h : Contiguous E setup s) {phase : Phase} (next : PhaseInv E setup { s with phase }) :
    Inv E setup { s with phase } where
  toContiguous := ⟨h.bound, h.delivers, h.seen, h.revision⟩
  phase := next

lemma Contiguous.sendAvailableOutput (h : Contiguous E setup s) (ne : s.frames ≠ []) :
    Inv E setup s.sendAvailableOutput := by
  unfold System.sendAvailableOutput
  split
  · exact h.enter ne
  · split
    · exact h.enter ne
    · exact h.enter ne

lemma sendAvailableOutput_attachment (s : System) : s.sendAvailableOutput.attachment = s.attachment := by
  unfold System.sendAvailableOutput
  split
  · rfl
  · split <;> rfl

lemma sendCheckpoint_attachment (s : System) (snapshot : AttachSnapshot) :
    (s.sendCheckpoint snapshot).attachment = s.attachment := by
  unfold System.sendCheckpoint
  split <;> rfl

lemma deliver_attachment (s : System) (snapshot : AttachSnapshot) (available : Nat) :
    (s.deliver snapshot available).attachment = s.attachment := by
  unfold System.deliver
  split
  · split
    · exact sendCheckpoint_attachment s snapshot
    · rfl
  · split
    · rfl
    · dsimp only
      split <;> rfl

/-! ### The steps -/

lemma terminal_inv (h : Inv E setup s) (op : Op) : Inv E setup { s with ops := s.ops ++ [op] } := by
  have new : ∀ b v, IsBoundary E setup (s.ops ++ [op]) b v →
      IsBoundary E setup s.ops b v ∨ (rawStream s.ops).length ≤ b := fun b v hb => hb.concat
  have longer : (rawStream s.ops).length ≤ (rawStream (s.ops ++ [op])).length := by
    rw [rawStream_concat, List.length_append]
    exact Nat.le_add_right _ _
  -- A fact about the boundaries before a position that was reached stays a fact.
  have keep : ∀ {p : Nat} {P : Nat → Nat → Prop}, p ≤ (rawStream s.ops).length →
      (∀ b v, IsBoundary E setup s.ops b v → b < p → P b v) →
      ∀ b v, IsBoundary E setup (s.ops ++ [op]) b v → b < p → P b v := by
    intro p P reached old b v hb lt
    rcases new b v hb with before | behind
    · exact old b v before lt
    · omega
  refine ⟨⟨le_trans h.bound longer, ?_, keep h.bound h.seen, h.revision⟩, ?_⟩
  · simp only [rawStream_concat]
    exact h.delivers.grow _ new
  · have phase := h.phase
    unfold PhaseInv at phase ⊢
    dsimp only
    split <;> rename_i heq <;> rw [heq] at phase <;> try exact phase
    · obtain ⟨first, reached, none | ⟨r, hr, old⟩⟩ := phase
      · exact ⟨first, le_trans reached longer, .inl none⟩
      · exact ⟨first, le_trans reached longer, .inr ⟨r, hr, keep reached old⟩⟩
    · exact ⟨phase.1, le_trans phase.2 (checkpoint_le E setup s.ops op)⟩
    · obtain ⟨ne, of, start, seen⟩ := phase
      refine ⟨ne, ?_, start, keep of.bound seen⟩
      rw [rawStream_concat]
      exact of.grow _
    · obtain ⟨ne, le, reached, r, hr, old⟩ := phase
      exact ⟨ne, le, le_trans reached longer, r, hr, keep reached old⟩

lemma Taken.sendingAttached (taken : Taken E setup s.ops requested none snapshot) (first : s.frames = []) :
    PhaseInv E setup { s with phase := .sendingAttached snapshot } := by
  refine ⟨first, taken.bound, ?_⟩
  cases hc : snapshot.checkpoint with
  | none => exact .inl ⟨rfl, (taken.resume hc).2.1⟩
  | some c =>
    obtain ⟨-, revision, -⟩ := taken.restart c hc
    exact .inr ⟨_, revision, fun b v boundary _ => boundary.revision_le⟩

lemma Taken.sendCheckpoint (h : Contiguous E setup s) (ne : s.frames ≠ [])
    (taken : Taken E setup s.ops requested revision snapshot)
    (behind : ∀ c ∈ snapshot.checkpoint, s.attachment.sentSequence ≤ c.sequence) :
    Inv E setup (s.sendCheckpoint snapshot) := by
  unfold System.sendCheckpoint
  split
  case h_1 => exact h.enter trivial
  case h_2 c hc =>
    obtain ⟨position, current, -⟩ := taken.restart c hc
    exact h.enter ⟨ne, behind c hc, position ▸ taken.bound, _, current,
      fun b v boundary _ => boundary.revision_le⟩

lemma deliver_inv (h : Contiguous E setup s) (ne : s.frames ≠ [])
    (taken : Taken E setup s.ops (some s.attachment.sentSequence)
      s.attachment.checkpointGeometryRevision snapshot) (available : Nat) :
    Inv E setup (s.deliver snapshot available) := by
  unfold System.deliver
  split
  case h_1 c hc =>
    split
    · exact taken.sendCheckpoint h ne fun c hc => (taken.restart c hc).2.2 _ rfl
    · exact h.enter ne
  case h_2 hc =>
    obtain ⟨position, -, resumed⟩ := taken.resume hc
    have position := Option.some.inj position
    rw [← position] at resumed
    split
    · exact h.enter ne
    case h_2 chunk coalesced =>
      obtain ⟨of, start⟩ := coalesceOutputChunks_spec (position ▸ taken.replays) coalesced
      dsimp only
      split
      · exact h.enter ne
      · refine h.enter ⟨ne, of, start, fun b v boundary _ => ?_⟩
        -- Boundaries before the chunk were seen; one inside it needs the revision of a checkpoint.
        rcases Nat.lt_or_ge b s.attachment.sentSequence with before | inside
        · exact h.seen b v boundary before
        · obtain ⟨r, hr, le⟩ := resumed b v boundary inside
          obtain ⟨frame, mem, revision⟩ := h.revision r hr
          exact .inl ⟨frame, mem, r, revision, le⟩

lemma attachedWritten_inv (h : Inv E setup s) (phase : s.phase = .sendingAttached snapshot) :
    Inv E setup (s.attachedWritten snapshot) ∧
      s.attachment.sentSequence ≤ (s.attachedWritten snapshot).attachment.sentSequence := by
  have ready := h.phase
  rw [PhaseInv, phase] at ready
  obtain ⟨first, reached, known⟩ := ready
  have frames : s.frames ++ [Frame.attached snapshot.journal.replayFrom snapshot.checkpoint
      snapshot.checkpointGeometryRevision] = [.attached snapshot.journal.replayFrom
      snapshot.checkpoint snapshot.checkpointGeometryRevision] := by rw [first]; rfl
  refine ⟨Contiguous.sendAvailableOutput ⟨reached, ?_, ?_, ?_⟩ (by simp), ?_⟩
  · dsimp only
    rw [frames]
    exact .attached
  · intro b v boundary lt
    dsimp only
    rw [frames]
    rcases known with ⟨none, revision⟩ | ⟨r, hr, le⟩
    · rw [none, revision]
      exact .inr ⟨_, List.mem_singleton.2 rfl, lt⟩
    · exact .inl ⟨_, List.mem_singleton.2 rfl, r, hr, le b v boundary lt⟩
  · intro r hr
    exact ⟨_, List.mem_append_right _ (List.mem_singleton.2 rfl), hr⟩
  · have zero := (first ▸ h.delivers).eq_zero
    rw [zero]
    exact Nat.zero_le _

lemma outputWritten_inv (h : Inv E setup s) {chunk : Chunk UInt8} {chargeBytes : Nat}
    (phase : s.phase = .sendingOutput chunk chargeBytes) :
    Inv E setup (s.outputWritten chunk chargeBytes) ∧
      s.attachment.sentSequence ≤ chunk.sequenceEnd := by
  have ready := h.phase
  rw [PhaseInv, phase] at ready
  obtain ⟨ne, of, start, seen⟩ := ready
  refine ⟨⟨⟨of.bound, ?_, ?_, ?_⟩, ?_⟩, start ▸ of.lt.le⟩
  · exact .output ne (start ▸ h.delivers) of seen
  · exact fun b v boundary lt => (seen b v boundary lt).mono _
  · intro r hr
    obtain ⟨frame, mem, eq⟩ := h.revision r hr
    exact ⟨frame, List.mem_append_left _ mem, eq⟩
  · simp [PhaseInv, System.outputWritten]

lemma checkpointWritten_inv (h : Inv E setup s) {checkpoint : TerminalCheckpoint}
    (phase : s.phase = .sendingCheckpoint checkpoint revision) :
    Inv E setup (s.checkpointWritten checkpoint revision) ∧
      s.attachment.sentSequence ≤ checkpoint.sequence := by
  have ready := h.phase
  rw [PhaseInv, phase] at ready
  obtain ⟨ne, behind, reached, r, hr, le⟩ := ready
  have last : Frame.checkpoint checkpoint revision ∈ s.frames ++ [Frame.checkpoint checkpoint revision] :=
    List.mem_append_right _ (List.mem_singleton.2 rfl)
  refine ⟨⟨⟨reached, .checkpoint h.delivers behind, ?_, ?_⟩, ?_⟩, behind⟩
  · exact fun b v boundary lt => .inl ⟨_, last, r, hr, le b v boundary lt⟩
  · exact fun r hr => ⟨_, last, hr⟩
  · simp [PhaseInv, System.checkpointWritten]

/-- A state that the driver may reach from `s` in one step. -/
def Advances (E : Emulator) (setup : Setup) (s s' : System) : Prop :=
  Inv E setup s' ∧ s.attachment.sentSequence ≤ s'.attachment.sentSequence

lemma proceed_inv (h : Inv E setup s) (step : s.proceed E setup = some s') : Advances E setup s s' := by
  have ready := h.phase
  unfold PhaseInv at ready
  unfold System.proceed at step
  have close : Advances E setup s { s with phase := .closed } := ⟨h.enter trivial, le_refl _⟩
  cases phase : s.phase with
  | attaching resumeFrom =>
    rw [phase] at ready step
    cases resumeFrom with
    | none =>
      cases step
      exact ⟨(terminal_inv h .refresh).enter ready, le_refl _⟩
    | some resumeFrom =>
      cases step
      exact withSnapshot_rule close fun snapshot taken =>
        ⟨h.enter (taken.sendingAttached ready), le_refl _⟩
  | attachingFresh =>
    rw [phase] at ready step
    cases step
    exact withSnapshot_rule close fun snapshot taken =>
      ⟨h.enter (taken.sendingAttached ready), le_refl _⟩
  | sendingAttached snapshot =>
    rw [phase] at step
    cases step
    exact attachedWritten_inv h phase
  | idle => rw [phase] at step; cases step
  | delivering =>
    rw [phase] at ready step
    dsimp only at step
    split at step
    · cases step
      exact ⟨h.enter ready, le_refl _⟩
    · cases step
      refine withSnapshot_rule close fun snapshot taken => ?_
      exact ⟨deliver_inv h.toContiguous ready taken _, by rw [deliver_attachment]⟩
  | refreshing =>
    rw [phase] at ready step
    cases step
    refine ⟨(terminal_inv h .refresh).enter ⟨ready, ?_⟩, le_refl _⟩
    dsimp only
    rw [run_concat, TerminalState.step, refreshCheckpoint_sequence,
      (run_consistent E setup s.ops).journal.next]
    exact h.bound
  | capturing =>
    rw [phase] at ready step
    cases step
    refine withSnapshot_rule close fun snapshot taken => ?_
    refine ⟨Taken.sendCheckpoint (h.setPendingCheckpoint false) ready.1 taken ?_, by rw [sendCheckpoint_attachment]; rfl⟩
    intro c hc
    obtain ⟨c', hc', latest⟩ := taken.fresh rfl
    obtain rfl := Option.mem_unique hc hc'
    exact latest ▸ ready.2
  | sendingOutput chunk chargeBytes =>
    rw [phase] at step
    cases step
    exact outputWritten_inv h phase
  | sendingCheckpoint checkpoint revision =>
    rw [phase] at step
    cases step
    exact checkpointWritten_inv h phase
  | closed => rw [phase] at step; cases step

lemma acceptPresentationProgress_spec {a a' : LiveAttachment} {sequence : Nat}
    (ok : a.acceptPresentationProgress sequence = .ok a') :
    a'.sentSequence = a.sentSequence ∧
      a'.checkpointGeometryRevision = a.checkpointGeometryRevision := by
  unfold LiveAttachment.acceptPresentationProgress at ok
  split at ok
  · cases ok
  · split at ok
    · split at ok
      · cases ok
      · split at ok
        · cases ok
          exact ⟨rfl, rfl⟩
        · split at ok
          · cases ok
            exact ⟨rfl, rfl⟩
          · cases ok
    · split at ok
      · cases ok
      · cases ok
        exact ⟨rfl, rfl⟩

lemma whenIdle_eq_some {handled : System} (h : Inv E setup s) (step : s.whenIdle handled = some s') :
    handled = s' ∧ s.frames ≠ [] := by
  unfold System.whenIdle at step
  split at step
  case h_1 idle =>
    have ready := h.phase
    rw [PhaseInv, idle] at ready
    exact ⟨Option.some.inj step, ready⟩
  case h_2 => cases step

lemma step_inv {action : Action} (h : Inv E setup s) (next : step E setup s action = some s') :
    Advances E setup s s' := by
  cases action with
  | terminal op =>
    cases next
    exact ⟨terminal_inv h op, le_refl _⟩
  | presentationApplied sequence =>
    obtain ⟨rfl, ne⟩ := whenIdle_eq_some h next
    split
    · exact ⟨h, le_refl _⟩
    case h_2 a ok =>
      obtain ⟨sent, revision⟩ := acceptPresentationProgress_spec ok
      rw [Advances, sendAvailableOutput_attachment]
      exact ⟨(h.toContiguous.move sent revision).sendAvailableOutput ne, sent.ge⟩
  | requestCheckpoint =>
    obtain ⟨rfl, ne⟩ := whenIdle_eq_some h next
    rw [Advances, sendAvailableOutput_attachment]
    exact ⟨(h.setPendingCheckpoint true).sendAvailableOutput ne, le_refl _⟩
  | output =>
    obtain ⟨rfl, ne⟩ := whenIdle_eq_some h next
    rw [Advances, sendAvailableOutput_attachment]
    exact ⟨h.sendAvailableOutput ne, le_refl _⟩
  | ptyGeometryChanged observedSequence geometryRevision =>
    obtain ⟨rfl, ne⟩ := whenIdle_eq_some h next
    split
    · exact ⟨h, le_refl _⟩
    · rw [Advances, sendAvailableOutput_attachment]
      exact ⟨h.sendAvailableOutput ne, le_refl _⟩
  | proceed => exact proceed_inv h next
  | disconnect =>
    cases next
    exact ⟨h.enter trivial, le_refl _⟩

/-! ### Runs -/

/-- A system before the attachment has taken its first snapshot. -/
def Starts (s : System) : Prop := ∃ ops resumeFrom window, s = System.attach ops resumeFrom window

lemma reachable_inv (h : Reachable (step E setup) Starts s) : Inv E setup s := by
  refine h.invariant _ ?_ fun s action s' inv next => (step_inv inv next).1
  rintro s ⟨ops, resumeFrom, window, rfl⟩
  exact ⟨⟨Nat.zero_le _, .nil, fun b v _ lt => absurd lt (Nat.not_lt_zero b),
    fun r hr => (Option.not_mem_none r hr).elim⟩, rfl⟩

/-- In every run the frames sent to one attachment are one contiguous stream. Every output frame
    starts where the frame before it stopped, which is the start of the replay, the end of an output
    frame or the sequence of a checkpoint, and holds the raw bytes of its range. Behind a boundary it
    is preceded by a checkpoint of at least the boundary's revision, unless the client resumed from a
    position behind the boundary. No byte is sent twice, and the position of the attachment never
    decreases. -/
theorem frames_contiguous (E : Emulator) (setup : Setup) (s : System) (h : Reachable (step E setup) Starts s) :
    (∀ before chunk after, s.frames = before ++ Frame.output chunk :: after →
      (∃ previous ∈ before.getLast?, chunk.sequenceStart = previous.stop) ∧
      chunk.Of (rawStream s.ops) ∧
      ∀ b v, IsBoundary E setup s.ops b v → b < chunk.sequenceEnd →
        Carried before v ∨ ResumedBehind before b) ∧
    (∀ before first between second after,
      s.frames = before ++ Frame.output first :: (between ++ Frame.output second :: after) →
      first.sequenceEnd ≤ second.sequenceStart) ∧
    ∀ action s', step E setup s action = some s' →
      s.attachment.sentSequence ≤ s'.attachment.sentSequence := by
  have inv := reachable_inv h
  refine ⟨?_, ?_, fun action s' next => (step_inv inv next).2⟩
  · intro before chunk after split
    obtain ⟨ne, start, of, -, seen⟩ := (split ▸ inv.delivers).output_spec
    exact ⟨start.last ne, of, seen⟩
  · intro before first between second after split
    have regroup : s.frames
        = (before ++ Frame.output first :: between) ++ Frame.output second :: after := by simp [split]
    obtain ⟨-, start, -⟩ := (regroup ▸ inv.delivers).output_spec
    exact start.output_spec.2.2.2.1

end

def blank : Emulator where
  Vt := Unit
  terminalEmulator _ := ()
  feed _ _ := ()
  feedStr _ _ := ()
  resize _ _ _ := ()
  dump _ := []
  lines _ := []
  Parser := Unit
  parser := ()
  observe _ _ := ((), none)
  InputModes := Unit
  inputModes := ()
  feedModes _ _ := ()
  restoreKeyboardSequence _ := []
  restoreSequences _ := []

def resizedSetup : Setup := ⟨⟨80, 24, 0, 0⟩, 1024, 1024, 512⟩

def resizedOps : List Op := [.resize ⟨100, 30, 0, 0⟩, .append [97, 98, 99]]

lemma resumed_run : exec (step blank resizedSetup) (.attach resizedOps (some 1) 4096)
    [.proceed, .proceed, .proceed, .proceed] = some
      { ops := resizedOps
        attachment := ⟨3, none, 4096, some 1, [⟨3, 4096⟩], 4096, false⟩
        phase := .delivering
        frames := [.attached 1 none none, .output ⟨1, [98, 99]⟩] } := rfl

lemma resumed_reachable {s : System} (run : exec (step blank resizedSetup)
    (.attach resizedOps (some 1) 4096) [.proceed, .proceed, .proceed, .proceed] = some s) :
    Reachable (step blank resizedSetup) Starts s :=
  Reachable.exec (.start ⟨resizedOps, some 1, 4096, rfl⟩) _ run

lemma resized_boundary : IsBoundary blank resizedSetup resizedOps 0 1 :=
  ⟨[], .resize ⟨100, 30, 0, 0⟩, [.append [97, 98, 99]], rfl, .inl (by decide), rfl, rfl⟩

/-- The resumed client is sent output behind the resize, in frames that form one stream. -/
theorem frames_contiguous_resumed :
    ∃ s, Reachable (step blank resizedSetup) Starts s ∧
      s.frames = [.attached 1 none none, .output ⟨1, [98, 99]⟩] ∧
      (∃ previous ∈ [Frame.attached 1 none none].getLast?, 1 = previous.stop) ∧
      Chunk.Of ⟨1, [98, 99]⟩ (rawStream s.ops) ∧
      (Carried [.attached 1 none none] 1 ∨ ResumedBehind [.attached 1 none none] 0) := by
  have reachable := resumed_reachable resumed_run
  obtain ⟨start, of, seen⟩ := (frames_contiguous blank resizedSetup _ reachable).1
    [.attached 1 none none] ⟨1, [98, 99]⟩ [] rfl
  exact ⟨_, reachable, rfl, start, of, seen 0 1 resized_boundary (by decide)⟩

/-- A client that resumes behind a boundary is sent output without any checkpoint before it. -/
theorem resumed_without_checkpoint :
    ∃ s, Reachable (step blank resizedSetup) Starts s ∧
      ∃ before chunk after, s.frames = before ++ Frame.output chunk :: after ∧
        (∀ frame ∈ before, frame.revision = none) ∧
        ∃ b v, IsBoundary blank resizedSetup s.ops b v ∧ b < chunk.sequenceEnd ∧
          ¬ Carried before v := by
  refine ⟨_, resumed_reachable resumed_run, [.attached 1 none none], ⟨1, [98, 99]⟩, [], rfl, ?_,
    0, 1, resized_boundary, by decide, ?_⟩
  · intro frame mem
    rw [List.mem_singleton.1 mem]
    rfl
  · rintro ⟨frame, mem, r, revision, -⟩
    rw [List.mem_singleton.1 mem] at revision
    cases revision

end Ctl.Daemon.Delivery
