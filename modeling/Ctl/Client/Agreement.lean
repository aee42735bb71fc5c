import Ctl.Client.AttachmentController

/-!
# The attachment controller and the daemon agree

A daemon's attachment and its client as two parties. Frames travel in one order, and so do the messages
of the client; the renderer answers events in their order, whenever it likes; the progress that the
client owes the daemon waits in a cell that a later one replaces.

`Owed` is what the two parties agree on. While the daemon knows what the client has applied, its output
in flight is that which the client has reported or will report, followed by that which the client has
not applied. After a checkpoint, nothing but this checkpoint is under way in either direction.
-/

namespace Ctl.Client
open Ctl.Base Ctl.Proto Ctl.Core Ctl.Daemon Ctl.Daemon.TerminalState Ctl.Daemon.Delivery

inductive ClientMessage where
  | presentationApplied (sequence : Nat)
  | requestCheckpoint

/-- The two parties, and what is on its way between them. -/
structure Link where
  daemon : System
  options : AttachmentControllerOptions
  /-- How many frames the client has read; the others are on the way. -/
  read : Nat
  controller : Option AttachmentController
  /-- Why the controller has ended. -/
  failure : Option ClientError
  /-- The events that the renderer has not answered. -/
  events : List PendingPresentation
  /-- The answers that the controller has not taken. -/
  acknowledgements : List PresentationAck
  /-- The progress that was not written yet. -/
  progress : Option Nat
  /-- The messages that the daemon has not read. -/
  toDaemon : List ClientMessage
  /-- The progress that the daemon has refused. -/
  refused : List ProgressError

inductive LinkAction where
  /-- A step of the daemon that is not the arrival of a message. -/
  | daemon (action : Delivery.Action)
  /-- The daemon reads the next message. -/
  | receive
  /-- The client reads the next frame. -/
  | frame (bundleValid : Bool)
  /-- The renderer answers the next event. -/
  | answer (compatible : Bool)
  /-- The controller takes the next answer. -/
  | acknowledgement
  /-- The writer sends the progress. -/
  | write
  | requestCheckpoint

def isLocal : Delivery.Action → Bool
  | .presentationApplied _ | .requestCheckpoint => false
  | _ => true

namespace Link

def fails (l : Link) (error : ClientError) : Link := { l with failure := some error }

def accepted (l : Link) (c : AttachmentController) (event : Option PendingPresentation) : Link :=
  { l with read := l.read + 1, controller := some c, events := l.events ++ event.toList }

def readFrame (l : Link) (bundleValid : Bool) (frame : Frame) : Option Link :=
  match l.controller with
  | none =>
    match message frame with
    | .attached replayFrom checkpoint =>
      match AttachmentController.new l.options bundleValid replayFrom checkpoint with
      | .error error => some (l.fails error)
      | .ok (c, event) => some (l.accepted c event)
    | _ => some (l.fails .unexpected)
  | some c =>
    if c.eventQueueCapacity ≤ c.pendingPresentations.length then none
    else match c.processServerMessage bundleValid (message frame) with
      | .error error => some (l.fails error)
      | .ok (c, event) => some (l.accepted c event)

def takeAcknowledgement (l : Link) (c : AttachmentController) (acknowledgement : PresentationAck)
    (rest : List PresentationAck) : Link :=
  match c.acceptPresentationAcknowledgement acknowledgement with
  | .error error => { l with acknowledgements := rest }.fails error
  | .ok (c, progress) =>
    { l with
      acknowledgements := rest
      controller := some c
      progress := progress.or l.progress }

section

variable (E : Emulator) (setup : Setup)

def readMessage (l : Link) (rest : List ClientMessage) : ClientMessage → Option Link
  | .requestCheckpoint =>
    (Delivery.step E setup l.daemon .requestCheckpoint).map fun daemon =>
      { l with daemon, toDaemon := rest }
  | .presentationApplied sequence =>
    (Delivery.step E setup l.daemon (.presentationApplied sequence)).map fun daemon =>
      { l with
        daemon
        toDaemon := rest
        refused := match l.daemon.attachment.acceptPresentationProgress sequence with
          | .error error => error :: l.refused
          | .ok _ => l.refused }

/-- One step of the two parties. The client does nothing any more when its controller has ended. -/
def step (l : Link) : LinkAction → Option Link
  | .daemon action =>
    if isLocal action then (Delivery.step E setup l.daemon action).map fun daemon => { l with daemon }
    else none
  | .receive =>
    match l.toDaemon with
    | [] => none
    | message :: rest => l.readMessage E setup rest message
  | .frame bundleValid =>
    if l.failure.isSome then none else (l.daemon.frames[l.read]?).bind (l.readFrame bundleValid)
  | .answer compatible =>
    match l.events with
    | [] => none
    | event :: rest => some { l with
        events := rest
        acknowledgements := l.acknowledgements ++ [event.answer compatible] }
  | .acknowledgement =>
    if l.failure.isSome then none
    else match l.controller, l.acknowledgements with
      | some c, acknowledgement :: rest => some (l.takeAcknowledgement c acknowledgement rest)
      | _, _ => none
  | .write =>
    if l.failure.isSome then none
    else l.progress.map fun sequence => { l with
      progress := none
      toDaemon := l.toDaemon ++ [ClientMessage.presentationApplied sequence] }
  | .requestCheckpoint =>
    if l.failure.isSome then none
    else some { l with toDaemon := l.toDaemon ++ [ClientMessage.requestCheckpoint] }

end

/-- A client that has asked the daemon for an attachment. -/
def Starts (l : Link) : Prop :=
  ∃ ops resumeFrom window options,
    l = ⟨System.attach ops resumeFrom window, options, 0, none, none, [], [], none, [], []⟩

end Link

/-! ### What is owed -/

/-- What the client will tell the daemon, in its order: `reported` is on the way already, `unapplied` are
    the events that the renderer has not applied. -/
inductive Owed : Option Nat → List Nat → Nat → List Nat → List PendingPresentation → Prop
  | applied {a sent : Nat} {reported past ends : List Nat} :
    (a :: (past ++ ends)).Pairwise (· < ·) → (a :: (past ++ ends)).getLast? = some sent →
    reported.Sublist past → reported.getLast? = past.getLast? →
    Owed (some a) (past ++ ends) sent reported (ends.map .output)
  | checkpoint {sent : Nat} : Owed none [] sent [] [.checkpoint sent]
  | reported {sent : Nat} : Owed none [] sent [sent] []

variable {l before after : List Nat} {sequence : Nat}

lemma le_getLast {last x : Nat} (ascending : l.Pairwise (· < ·)) (eq : l.getLast? = some last) (mem : x ∈ l) :
    x ≤ last := by
  obtain ⟨front, rfl⟩ := List.getLast?_eq_some_iff.1 eq
  cases List.mem_append.1 mem with
  | inl before =>
    exact Nat.le_of_lt ((List.pairwise_append.1 ascending).2.2 x before last (List.mem_singleton.2 rfl))
  | inr same => exact Nat.le_of_eq (List.mem_singleton.1 same)

lemma sublist_of_cons {t : Nat} (fresh : t ∉ before) (h : (t :: l).Sublist (before ++ t :: after)) :
    l.Sublist after := by
  induction before with
  | nil => exact List.cons_sublist_cons.1 h
  | cons x before ih =>
    cases h with
    | cons _ h => exact ih (fun mem => fresh (List.mem_cons_of_mem x mem)) h
    | cons_cons _ h => exact absurd List.mem_cons_self fresh

namespace Owed

variable {a : Option Nat} {ends : List Nat} {sent : Nat} {reported : List Nat}
  {unapplied : List PendingPresentation}

lemma start (position : Nat) : Owed (some position) [] position [] [] :=
  @Owed.applied position position [] [] [] (List.pairwise_singleton _ _) rfl (.refl _) rfl

lemma output {stop : Nat} (h : Owed a ends sent reported unapplied) (known : a.isSome = true)
    (lt : sent < stop) : Owed a (ends ++ [stop]) stop reported (unapplied ++ [PendingPresentation.output stop]) := by
  cases h with
  | @applied a sent reported past ends ascending last sub same =>
    rw [List.append_assoc, ← List.map_singleton, ← List.map_append]
    refine .applied ?_ ?_ sub same
    · rw [← List.append_assoc, ← List.cons_append, List.pairwise_append]
      refine ⟨ascending, List.pairwise_singleton _ _, fun x mem y single => ?_⟩
      rw [List.mem_singleton.1 single]
      exact Nat.lt_of_le_of_lt (le_getLast ascending last mem) lt
    · rw [← List.append_assoc, ← List.cons_append, List.getLast?_concat]
  | checkpoint => cases known
  | reported => cases known

lemma nothing (h : Owed a [] sent reported unapplied) (known : a.isSome = true) : reported = [] ∧ unapplied = [] := by
  generalize none : ([] : List Nat) = flying at h
  cases h with
  | @applied a sent reported past ends _ _ sub =>
    obtain ⟨rfl, rfl⟩ := List.append_eq_nil_iff.1 none.symm
    exact ⟨List.sublist_nil.1 sub, rfl⟩
  | checkpoint => cases known
  | reported => cases known

lemma answered {event : PendingPresentation} (h : Owed a ends sent reported (event :: unapplied)) :
    ∃ sequence, event.progress = some sequence ∧ ∀ written : List Nat, written.Sublist reported →
      Owed a ends sent (written ++ [sequence]) unapplied := by
  generalize all : event :: unapplied = events at h
  cases h with
  | @applied a sent reported past ends ascending last sub same =>
    cases ends with
    | nil => cases all
    | cons stop ends =>
      obtain ⟨rfl, rfl⟩ := List.cons.inj all
      refine ⟨stop, rfl, fun written fewer => ?_⟩
      rw [List.append_cons] at ascending last ⊢
      refine .applied ascending last ((fewer.trans sub).append (.refl _)) ?_
      rw [List.getLast?_concat, List.getLast?_concat]
  | checkpoint =>
    obtain ⟨rfl, rfl⟩ := List.cons.inj all
    refine ⟨sent, rfl, fun written fewer => ?_⟩
    rw [List.sublist_nil.1 fewer]
    exact .reported
  | reported => cases all

lemma settled (h : Owed a ends sent [] []) : a = some sent ∧ ends = [] := by
  generalize none : ([] : List PendingPresentation) = events at h
  generalize silent : ([] : List Nat) = reported at h
  cases h with
  | @applied a sent reported past ends _ last _ same =>
    obtain rfl : ends = [] := List.map_eq_nil_iff.1 none.symm
    subst silent
    obtain rfl : past = [] := List.getLast?_eq_none_iff.1 same.symm
    exact ⟨last, rfl⟩
  | checkpoint => cases none
  | reported => cases silent

end Owed

/-! ### What the daemon knows -/

lemma popAcknowledged_ends {deliveries : List OutputDelivery} (charge : Nat)
    (eq : deliveries.map (·.sequenceEnd) = before ++ sequence :: after)
    (ascending : (before ++ sequence :: after).Pairwise (· < ·)) :
    (popAcknowledged sequence deliveries charge).1.map (·.sequenceEnd) = after := by
  have keeps : ∀ {rest : List OutputDelivery} {charge : Nat}, rest.map (·.sequenceEnd) = after →
      (popAcknowledged sequence rest charge).1.map (·.sequenceEnd) = after := by
    intro rest charge eq
    cases rest with
    | nil => exact eq
    | cons delivery rest =>
      have later : sequence < delivery.sequenceEnd := by
        have tail := (List.pairwise_append.1 ascending).2.1
        apply (List.pairwise_cons.1 tail).1
        rw [← eq]
        exact List.mem_cons_self
      rw [popAcknowledged, if_neg (Nat.not_le.2 later)]
      exact eq
  induction before generalizing deliveries charge with
  | nil =>
    cases deliveries with
    | nil => cases eq
    | cons delivery rest =>
      obtain ⟨same, eq⟩ := List.cons.inj eq
      rw [popAcknowledged, if_pos (Nat.le_of_eq same)]
      exact keeps eq
  | cons x before ih =>
    cases deliveries with
    | nil => cases eq
    | cons delivery rest =>
      obtain ⟨same, eq⟩ := List.cons.inj eq
      obtain ⟨first, ascending⟩ := List.pairwise_cons.1 ascending
      have same : delivery.sequenceEnd = x := same
      have earlier : x < sequence := first sequence (List.mem_append_right _ List.mem_cons_self)
      rw [popAcknowledged, if_pos (Nat.le_of_lt (same ▸ earlier))]
      exact ih _ eq ascending

/-- The agreement in terms of an attachment. -/
def OwedTo (d : LiveAttachment) (reported : List Nat) (unapplied : List PendingPresentation) : Prop :=
  Owed d.appliedSequence (d.inFlightOutput.map (·.sequenceEnd)) d.sentSequence reported unapplied

lemma OwedTo.received {d : LiveAttachment} {reported : List Nat} {unapplied : List PendingPresentation}
    (h : OwedTo d (sequence :: reported) unapplied) :
    ∃ d', d.acceptPresentationProgress sequence = .ok d' ∧ OwedTo d' reported unapplied := by
  generalize flying : d.inFlightOutput.map (·.sequenceEnd) = ends at h
  rw [OwedTo, flying] at h
  generalize known : d.appliedSequence = a at h
  generalize all : sequence :: reported = owed at h
  generalize position : d.sentSequence = sent at h
  cases h with
  | @applied a sent owed past ends ascending last sub same =>
    subst all
    have mem : sequence ∈ past := sub.subset List.mem_cons_self
    have le : sequence ≤ sent :=
      le_getLast ascending last (List.mem_cons_of_mem a (List.mem_append_left ends mem))
    have later : a < sequence :=
      (List.pairwise_cons.1 ascending).1 sequence (List.mem_append_left ends mem)
    have boundary : d.inFlightOutput.any (·.sequenceEnd = sequence) = true := by
      have there : sequence ∈ d.inFlightOutput.map (·.sequenceEnd) :=
        flying ▸ List.mem_append_left ends mem
      obtain ⟨delivery, inside, eq⟩ := List.mem_map.1 there
      exact List.any_eq_true.2 ⟨delivery, inside, decide_eq_true eq⟩
    refine ⟨d.acknowledge sequence, ?_, ?_⟩
    · rw [LiveAttachment.acceptPresentationProgress, if_neg (Nat.not_lt.2 (position ▸ le)), known]
      dsimp only
      rw [if_neg (Nat.not_lt.2 (Nat.le_of_lt later)), if_neg (Nat.ne_of_gt later), if_pos boundary]
    · obtain ⟨before, after, rfl⟩ := List.append_of_mem mem
      have ordered := (List.pairwise_cons.1 ascending).2
      rw [List.append_assoc, List.cons_append] at ordered flying
      have rest := popAcknowledged_ends d.inFlightChargeBytes flying ordered
      have tail := (List.pairwise_append.1 ordered).2.1
      have fresh : sequence ∉ before := fun inside =>
        Nat.lt_irrefl _ ((List.pairwise_append.1 ordered).2.2 sequence inside sequence
          List.mem_cons_self)
      have sub := sublist_of_cons fresh sub
      show Owed (some sequence) _ d.sentSequence reported _
      rw [LiveAttachment.acknowledge, rest, position]
      refine .applied tail ?_ sub ?_
      · rw [List.append_assoc, List.cons_append, ← List.cons_append] at last
        rw [List.getLast?_append_cons] at last
        exact last
      · rw [List.getLast?_append_cons] at same
        cases after with
        | nil => exact congrArg List.getLast? (List.sublist_nil.1 sub)
        | cons next after =>
          cases reported with
          | cons first reported => exact same
          | nil =>
            have last : (next :: after).getLast? = some sequence :=
              List.getLast?_cons_cons.symm.trans same.symm
            have inside := List.mem_append_left ends (List.mem_of_getLast? last)
            exact absurd ((List.pairwise_cons.1 tail).1 sequence inside) (Nat.lt_irrefl _)
  | checkpoint => cases all
  | reported =>
    obtain ⟨rfl, rfl⟩ := List.cons.inj all
    have landed : d.inFlightOutput = [] := List.map_eq_nil_iff.1 flying
    refine ⟨d.acknowledge sequence, ?_, ?_⟩
    · rw [LiveAttachment.acceptPresentationProgress, if_neg (Nat.not_lt.2 (Nat.le_of_eq position.symm)),
        known]
      dsimp only
      rw [if_neg]
      rw [not_or, not_not, not_not, landed]
      exact ⟨position.symm, rfl⟩
    · show Owed (some sequence) _ d.sentSequence [] []
      rw [LiveAttachment.acknowledge, landed, position]
      exact .start sequence

/-! ### The steps of the daemon -/

/-- What the daemon relies on where it stands. -/
def ReadyPhase (s : System) : Prop :=
  match s.phase with
  | .sendingAttached snapshot =>
    ∀ c ∈ snapshot.checkpoint, snapshot.journal.replayFrom = c.sequence
  | .delivering => s.attachment.appliedSequence.isSome = true
  | .sendingOutput _ _ => s.attachment.appliedSequence.isSome = true
  | .refreshing => s.attachment.appliedSequence.isSome = true ∧ s.attachment.inFlightOutput = []
  | .capturing => s.attachment.appliedSequence.isSome = true ∧ s.attachment.inFlightOutput = []
  | .sendingCheckpoint _ _ =>
    s.attachment.appliedSequence.isSome = true ∧ s.attachment.inFlightOutput = []
  | _ => True

structure Ready (s : System) : Prop where
  phase : ReadyPhase s
  fresh : s.frames = [] → s.attachment.inFlightOutput = []

/-- Nothing changes between the parties. -/
structure Silent (s s' : System) : Prop where
  frames : s'.frames = s.frames
  sent : s'.attachment.sentSequence = s.attachment.sentSequence
  applied : s'.attachment.appliedSequence = s.attachment.appliedSequence
  inFlight : s'.attachment.inFlightOutput = s.attachment.inFlightOutput

/-- What a step of the daemon means to the client. -/
inductive Emits (s s' : System) : Prop
  | silent : Silent s s' → Emits s s'
  | attached (replayFrom : Nat) (checkpoint : Option TerminalCheckpoint) (revision : Option Nat) :
    s.frames = [] → s'.frames = [.attached replayFrom checkpoint revision] →
    (∀ c ∈ checkpoint, replayFrom = c.sequence) → s'.attachment.sentSequence = replayFrom →
    s'.attachment.appliedSequence = (if checkpoint.isNone then some replayFrom else none) →
    s'.attachment.inFlightOutput = [] → Emits s s'
  | output (chunk : Chunk UInt8) (chargeBytes : Nat) :
    s.frames ≠ [] → s'.frames = s.frames ++ [Frame.output chunk] →
    s.attachment.appliedSequence.isSome = true →
    s.attachment.sentSequence < chunk.sequenceEnd →
    s'.attachment.sentSequence = chunk.sequenceEnd →
    s'.attachment.appliedSequence = s.attachment.appliedSequence →
    s'.attachment.inFlightOutput = s.attachment.inFlightOutput ++ [⟨chunk.sequenceEnd, chargeBytes⟩] →
    Emits s s'
  | checkpoint (checkpoint : TerminalCheckpoint) (revision : Option Nat) :
    s.frames ≠ [] → s'.frames = s.frames ++ [Frame.checkpoint checkpoint revision] →
    s.attachment.appliedSequence.isSome = true → s.attachment.inFlightOutput = [] →
    s'.attachment.sentSequence = checkpoint.sequence → s'.attachment.appliedSequence = none →
    s'.attachment.inFlightOutput = [] → Emits s s'

lemma Silent.enter (s : System) (phase : Phase) : Silent s { s with phase } :=
  ⟨rfl, rfl, rfl, rfl⟩

variable {s : System}

lemma sendAvailableOutput_ready (fresh : s.frames = [] → s.attachment.inFlightOutput = []) :
    Ready s.sendAvailableOutput ∧ Silent s s.sendAvailableOutput := by
  rw [System.sendAvailableOutput]
  split
  case isTrue => exact ⟨⟨trivial, fresh⟩, .enter s _⟩
  case isFalse known =>
    have known : s.attachment.appliedSequence.isSome = true := by
      rw [Option.isNone_iff_eq_none] at known
      exact Option.isSome_iff_ne_none.2 known
    split
    case isTrue requested =>
      exact ⟨⟨⟨known, List.isEmpty_iff.1 requested.2⟩, fresh⟩, .enter s _⟩
    case isFalse => exact ⟨⟨known, fresh⟩, .enter s _⟩

lemma sendCheckpoint_ready (snapshot : AttachSnapshot) (known : s.attachment.appliedSequence.isSome = true)
    (landed : s.attachment.inFlightOutput = []) :
    Ready (s.sendCheckpoint snapshot) ∧ Silent s (s.sendCheckpoint snapshot) := by
  rw [System.sendCheckpoint]
  split
  case h_1 => exact ⟨⟨trivial, fun _ => landed⟩, .enter s _⟩
  case h_2 => exact ⟨⟨⟨known, landed⟩, fun _ => landed⟩, .enter s _⟩

lemma deliver_ready (h : Ready s) (snapshot : AttachSnapshot) (available : Nat)
    (known : s.attachment.appliedSequence.isSome = true) :
    Ready (s.deliver snapshot available) ∧ Silent s (s.deliver snapshot available) := by
  rw [System.deliver]
  split
  case h_1 =>
    split
    case isTrue landed => exact sendCheckpoint_ready snapshot known (List.isEmpty_iff.1 landed)
    case isFalse => exact ⟨⟨trivial, h.fresh⟩, .enter s _⟩
  case h_2 =>
    split
    case h_1 => exact ⟨⟨trivial, h.fresh⟩, .enter s _⟩
    case h_2 =>
      dsimp only
      split
      case isTrue => exact ⟨⟨trivial, h.fresh⟩, .enter s _⟩
      case isFalse => exact ⟨⟨known, h.fresh⟩, .enter s _⟩

section

variable {E : Emulator} {setup : Setup} {s s' : System}

lemma proceed_emits (inv : Inv E setup s) (h : Ready s) (step : s.proceed E setup = some s') :
    Ready s' ∧ Emits s s' := by
  have stands := h.phase
  have reached := inv.phase
  have close : Ready { s with phase := .closed } ∧ Emits s { s with phase := .closed } :=
    ⟨⟨trivial, h.fresh⟩, .silent (.enter s _)⟩
  cases phase : s.phase with
  | attaching resumeFrom =>
    rw [System.proceed, phase] at step
    cases resumeFrom with
    | none =>
      cases step
      exact ⟨⟨trivial, h.fresh⟩, .silent ⟨rfl, rfl, rfl, rfl⟩⟩
    | some resumeFrom =>
      cases step
      refine withSnapshot_rule (P := fun s' => Ready s' ∧ Emits s s') close fun snapshot taken => ?_
      exact ⟨⟨fun c has => (taken.restart c has).1, h.fresh⟩, .silent (.enter s _)⟩
  | attachingFresh =>
    rw [System.proceed, phase] at step
    cases step
    refine withSnapshot_rule (P := fun s' => Ready s' ∧ Emits s s') close fun snapshot taken => ?_
    exact ⟨⟨fun c has => (taken.restart c has).1, h.fresh⟩, .silent (.enter s _)⟩
  | sendingAttached snapshot =>
    rw [System.proceed, phase] at step
    cases step
    rw [ReadyPhase, phase] at stands
    rw [PhaseInv, phase] at reached
    have first := reached.1
    have landed := h.fresh first
    obtain ⟨ready, silent⟩ := sendAvailableOutput_ready (s := { s with
      frames := s.frames ++ [Frame.attached snapshot.journal.replayFrom snapshot.checkpoint
        snapshot.checkpointGeometryRevision]
      attachment := { s.attachment with
        sentSequence := snapshot.journal.replayFrom
        checkpointGeometryRevision := snapshot.checkpointGeometryRevision
        appliedSequence :=
          if snapshot.checkpoint.isNone then some snapshot.journal.replayFrom else none } })
      fun _ => landed
    refine ⟨ready, .attached snapshot.journal.replayFrom snapshot.checkpoint
      snapshot.checkpointGeometryRevision first ?_ stands silent.sent silent.applied ?_⟩
    · exact silent.frames.trans (by rw [first]; rfl)
    · exact silent.inFlight.trans landed
  | idle => rw [System.proceed, phase] at step; cases step
  | delivering =>
    rw [System.proceed, phase] at step
    rw [ReadyPhase, phase] at stands
    dsimp only at step
    split at step
    case isTrue =>
      cases step
      exact ⟨⟨trivial, h.fresh⟩, .silent (.enter s _)⟩
    case isFalse =>
      cases step
      refine withSnapshot_rule (P := fun s' => Ready s' ∧ Emits s s') close fun snapshot _ => ?_
      obtain ⟨ready, silent⟩ := deliver_ready h snapshot _ stands
      exact ⟨ready, .silent silent⟩
  | refreshing =>
    rw [System.proceed, phase] at step
    rw [ReadyPhase, phase] at stands
    cases step
    exact ⟨⟨stands, h.fresh⟩, .silent ⟨rfl, rfl, rfl, rfl⟩⟩
  | capturing =>
    rw [System.proceed, phase] at step
    rw [ReadyPhase, phase] at stands
    cases step
    refine withSnapshot_rule (P := fun s' => Ready s' ∧ Emits s s') close fun snapshot _ => ?_
    obtain ⟨ready, silent⟩ :=
      sendCheckpoint_ready (s := s.setPendingCheckpoint false) snapshot stands.1 stands.2
    exact ⟨ready, .silent ⟨silent.frames, silent.sent, silent.applied, silent.inFlight⟩⟩
  | sendingOutput chunk chargeBytes =>
    rw [System.proceed, phase] at step
    rw [ReadyPhase, phase] at stands
    rw [PhaseInv, phase] at reached
    cases step
    obtain ⟨ne, of, start, _⟩ := reached
    refine ⟨⟨stands, fun none => ?_⟩, .output chunk chargeBytes ne rfl stands (start ▸ of.lt) rfl rfl
      rfl⟩
    exact absurd none (by simp [System.outputWritten])
  | sendingCheckpoint checkpoint revision =>
    rw [System.proceed, phase] at step
    rw [ReadyPhase, phase] at stands
    rw [PhaseInv, phase] at reached
    cases step
    exact ⟨⟨trivial, fun _ => stands.2⟩, .checkpoint checkpoint revision reached.1 rfl stands.1
      stands.2 rfl rfl stands.2⟩
  | closed => rw [System.proceed, phase] at step; cases step

lemma whenIdle_ready {handled : System} (step : s.whenIdle handled = some s') : s' = handled := by
  rw [System.whenIdle] at step
  split at step
  case h_1 => exact (Option.some.inj step).symm
  case h_2 => cases step

lemma step_emits {action : Delivery.Action} (inv : Inv E setup s) (h : Ready s) (own : isLocal action = true)
    (step : Delivery.step E setup s action = some s') : Ready s' ∧ Emits s s' := by
  cases action with
  | terminal op =>
    cases step
    exact ⟨⟨h.phase, h.fresh⟩, .silent ⟨rfl, rfl, rfl, rfl⟩⟩
  | presentationApplied sequence => cases own
  | requestCheckpoint => cases own
  | output =>
    obtain rfl := whenIdle_ready step
    obtain ⟨ready, silent⟩ := sendAvailableOutput_ready h.fresh
    exact ⟨ready, .silent silent⟩
  | ptyGeometryChanged observedSequence geometryRevision =>
    obtain rfl := whenIdle_ready step
    split
    case isTrue => exact ⟨h, .silent ⟨rfl, rfl, rfl, rfl⟩⟩
    case isFalse =>
      obtain ⟨ready, silent⟩ := sendAvailableOutput_ready h.fresh
      exact ⟨ready, .silent silent⟩
  | proceed => exact proceed_emits inv h step
  | disconnect =>
    cases step
    exact ⟨⟨trivial, h.fresh⟩, .silent (.enter s _)⟩

end

/-! ### The invariant -/

def ClientMessage.progress : ClientMessage → Option Nat
  | .presentationApplied sequence => some sequence
  | .requestCheckpoint => none

def presentations : Frame → List PendingPresentation
  | .attached _ checkpoint _ => (checkpoint.map fun c => .checkpoint c.sequence).toList
  | .output chunk => [.output chunk.sequenceEnd]
  | .checkpoint checkpoint _ => [.checkpoint checkpoint.sequence]

namespace Link

def reported (l : Link) : List Nat := l.toDaemon.filterMap ClientMessage.progress ++ l.progress.toList

def pending (l : Link) : List PendingPresentation :=
  l.acknowledgements.map PresentationAck.presentation ++ l.events

def unapplied (l : Link) : List PendingPresentation :=
  l.pending ++ (l.daemon.frames.drop l.read).flatMap presentations

end Link

def ControllerInv (l : Link) : Prop :=
  match l.controller with
  | none => l.read = 0 ∧ l.reported = [] ∧ l.pending = []
  | some c => c.pendingPresentations = l.pending ∧
    (l.daemon.frames.take l.read).getLast?.map Frame.stop = some c.receivedSequence

def BeginsAttachment : Frame → Prop
  | .attached replayFrom checkpoint _ => ∀ c ∈ checkpoint, replayFrom = c.sequence
  | _ => False

/-- What the two parties keep. -/
structure LinkInv (E : Emulator) (setup : Setup) (l : Link) : Prop where
  daemon : Delivery.Inv E setup l.daemon
  ready : Ready l.daemon
  read : l.read ≤ l.daemon.frames.length
  begins : ∀ frame ∈ l.daemon.frames.head?, BeginsAttachment frame
  owed : l.daemon.frames ≠ [] → OwedTo l.daemon.attachment l.reported l.unapplied
  controller : ControllerInv l
  refused : l.refused = []
  failure : ∀ error ∈ l.failure,
    error = .invalidCheckpointBundle ∨ error = .invalidAttachmentQueueCapacity

section

variable {E : Emulator} {setup : Setup} {l l' : Link} {more : List Frame} {c : AttachmentController} {frame : Frame}
  {frames before after : List Frame} {n position : Nat} {log : List UInt8} {boundary : Nat → Nat → Prop}
  {revision : Option Nat} {bundleValid : Bool}

lemma drop_unread (le : n ≤ frames.length) :
    (frames ++ more).drop n = frames.drop n ++ more := List.drop_append_of_le_length le

lemma take_unread (le : n ≤ frames.length) :
    (frames ++ more).take n = frames.take n := List.take_append_of_le_length le

lemma LinkInv.unattached (h : LinkInv E setup l) (first : l.daemon.frames = []) :
    l.read = 0 ∧ l.reported = [] ∧ l.pending = [] := by
  have controller := h.controller
  rw [ControllerInv] at controller
  split at controller
  case h_1 => exact controller
  case h_2 =>
    rw [first, List.take_nil] at controller
    cases controller.2

lemma ControllerInv.daemon (h : ControllerInv l) (read : l.read ≤ l.daemon.frames.length) {daemon : System}
    {more : List Frame} (frames : daemon.frames = l.daemon.frames ++ more) : ControllerInv { l with daemon } := by
  cases controller : l.controller with
  | none =>
    rw [ControllerInv, controller] at h
    rw [ControllerInv]
    dsimp only
    exact h
  | some c =>
    rw [ControllerInv, controller] at h
    rw [ControllerInv]
    dsimp only
    rw [frames, take_unread read]
    exact h

lemma LinkInv.begins_append (h : LinkInv E setup l) (ne : l.daemon.frames ≠ []) {daemon : System}
    (frames : daemon.frames = l.daemon.frames ++ more) : ∀ frame ∈ daemon.frames.head?, BeginsAttachment frame := by
  rw [frames, List.head?_append_of_ne_nil _ ne]
  exact h.begins

lemma LinkInv.emits (h : LinkInv E setup l) {daemon : System} (inv : Delivery.Inv E setup daemon)
    (ready : Ready daemon) (emits : Emits l.daemon daemon) : LinkInv E setup { l with daemon } := by
  have unread : ∀ more, daemon.frames = l.daemon.frames ++ more →
      Link.unapplied { l with daemon } = l.unapplied ++ more.flatMap presentations := by
    intro more frames
    rw [Link.unapplied, Link.unapplied]
    dsimp only
    rw [frames, drop_unread h.read, List.flatMap_append, List.append_assoc]
    rfl
  have longer : ∀ more, daemon.frames = l.daemon.frames ++ more → l.read ≤ daemon.frames.length := by
    intro more frames
    rw [frames, List.length_append]
    exact Nat.le_trans h.read (Nat.le_add_right _ _)
  cases emits with
  | silent silent =>
    have frames : daemon.frames = l.daemon.frames ++ [] :=
      silent.frames.trans (List.append_nil _).symm
    refine ⟨inv, ready, longer [] frames, silent.frames ▸ h.begins, fun ne => ?_, h.controller.daemon h.read frames, h.refused,
      h.failure⟩
    have owed := h.owed fun none => ne (silent.frames.trans none)
    rw [unread [] frames, List.flatMap_nil, List.append_nil, OwedTo]
    dsimp only
    rw [silent.sent, silent.applied, silent.inFlight]
    exact owed
  | attached replayFrom checkpoint revision first frames position sent applied inFlight =>
    have frames : daemon.frames = l.daemon.frames ++ [Frame.attached replayFrom checkpoint revision] := by
      rw [first]
      exact frames
    obtain ⟨none, quiet⟩ := h.unattached first
    have begins : ∀ frame ∈ daemon.frames.head?, BeginsAttachment frame := by
      rw [frames, first]
      intro frame mem
      cases mem
      exact position
    refine ⟨inv, ready, longer _ frames, begins, fun _ => ?_, h.controller.daemon h.read frames,
      h.refused, h.failure⟩
    have unapplied : l.unapplied = [] := by rw [Link.unapplied, quiet.2, first, none]; rfl
    rw [unread _ frames, unapplied, OwedTo]
    dsimp only
    rw [sent, applied, inFlight]
    have reported : Link.reported { l with daemon } = [] := quiet.1
    rw [reported]
    cases checkpoint with
    | none => exact .start replayFrom
    | some c =>
      rw [position c rfl]
      exact .checkpoint
  | output chunk chargeBytes ne frames known lt sent applied inFlight =>
    refine ⟨inv, ready, longer _ frames, h.begins_append ne frames, fun _ => ?_,
      h.controller.daemon h.read frames, h.refused, h.failure⟩
    have owed := Owed.output (h.owed ne) known lt
    rw [unread _ frames, OwedTo]
    dsimp only
    rw [sent, applied, inFlight, List.map_append]
    exact owed
  | checkpoint checkpoint revision ne frames known landed sent applied inFlight =>
    refine ⟨inv, ready, longer _ frames, h.begins_append ne frames, fun _ => ?_,
      h.controller.daemon h.read frames, h.refused, h.failure⟩
    have owed := h.owed ne
    rw [OwedTo, landed] at owed
    obtain ⟨reported, unapplied⟩ := owed.nothing known
    have reported : Link.reported { l with daemon } = [] := reported
    rw [unread _ frames, unapplied, reported, OwedTo]
    dsimp only
    rw [sent, applied, inFlight]
    exact .checkpoint

/-! ### The steps of the client -/

lemma LinkInv.messages (h : LinkInv E setup l) {toDaemon : List ClientMessage}
    (same : toDaemon.filterMap ClientMessage.progress = l.toDaemon.filterMap ClientMessage.progress) :
    LinkInv E setup { l with toDaemon } := by
  have reported : Link.reported { l with toDaemon } = l.reported := by
    rw [Link.reported, Link.reported]
    dsimp only
    rw [same]
  refine ⟨h.daemon, h.ready, h.read, h.begins, fun ne => ?_, ?_, h.refused, h.failure⟩
  · rw [reported]
    exact h.owed ne
  · have controller := h.controller
    rw [ControllerInv] at controller ⊢
    dsimp only
    rw [reported]
    exact controller

lemma LinkInv.readMessage (h : LinkInv E setup l) {message : ClientMessage}
    {rest : List ClientMessage} (next : l.toDaemon = message :: rest)
    (step : l.readMessage E setup rest message = some l') : LinkInv E setup l' := by
  cases message with
  | requestCheckpoint =>
    obtain ⟨daemon, stepped, rfl⟩ := Option.map_eq_some_iff.1 step
    have inv := (step_inv h.daemon stepped).1
    obtain rfl := whenIdle_ready stepped
    obtain ⟨ready, silent⟩ :=
      sendAvailableOutput_ready (s := l.daemon.setPendingCheckpoint true) h.ready.fresh
    have sent := h.emits inv ready
      (.silent ⟨silent.frames, silent.sent, silent.applied, silent.inFlight⟩)
    apply sent.messages
    rw [next]
    rfl
  | presentationApplied sequence =>
    obtain ⟨daemon, stepped, rfl⟩ := Option.map_eq_some_iff.1 step
    have inv := (step_inv h.daemon stepped).1
    have ne : l.daemon.frames ≠ [] := by
      intro first
      have none := (h.unattached first).2.1
      rw [Link.reported, next] at none
      cases none
    have owed := h.owed ne
    rw [Link.reported, next] at owed
    obtain ⟨d, accepts, owed⟩ := owed.received
    obtain rfl := whenIdle_ready stepped
    rw [accepts] at inv ⊢
    dsimp only at inv ⊢
    obtain ⟨ready, silent⟩ :=
      sendAvailableOutput_ready (s := { l.daemon with attachment := d }) fun none => absurd none ne
    refine ⟨inv, ready, silent.frames.symm ▸ h.read, silent.frames.symm ▸ h.begins, fun _ => ?_, ?_,
      h.refused, h.failure⟩
    · rw [OwedTo]
      dsimp only
      rw [silent.sent, silent.applied, silent.inFlight, Link.unapplied]
      dsimp only
      rw [silent.frames]
      exact owed
    · have controller := h.controller
      rw [ControllerInv] at controller ⊢
      dsimp only
      rw [silent.frames]
      split at controller
      case h_1 =>
        rw [Link.reported, next] at controller
        cases controller.2.1
      case h_2 => exact controller

lemma LinkInv.answer (h : LinkInv E setup l) {event : PendingPresentation}
    {rest : List PendingPresentation} (next : l.events = event :: rest) (compatible : Bool) :
    LinkInv E setup { l with
      events := rest
      acknowledgements := l.acknowledgements ++ [event.answer compatible] } := by
  have pending : Link.pending { l with
      events := rest
      acknowledgements := l.acknowledgements ++ [event.answer compatible] } = l.pending := by
    rw [Link.pending, Link.pending, next]
    dsimp only
    rw [List.map_append, List.map_singleton, AttachmentController.answer_presentation,
      List.append_assoc]
    rfl
  refine ⟨h.daemon, h.ready, h.read, h.begins, fun ne => ?_, ?_, h.refused, h.failure⟩
  · rw [Link.unapplied, pending]
    exact h.owed ne
  · have controller := h.controller
    rw [ControllerInv] at controller ⊢
    dsimp only
    rw [pending]
    exact controller

lemma LinkInv.write (h : LinkInv E setup l) {sequence : Nat} (next : l.progress = some sequence) :
    LinkInv E setup { l with
      progress := none
      toDaemon := l.toDaemon ++ [ClientMessage.presentationApplied sequence] } := by
  have reported : Link.reported { l with
      progress := none
      toDaemon := l.toDaemon ++ [ClientMessage.presentationApplied sequence] } = l.reported := by
    rw [Link.reported, Link.reported, next]
    dsimp only
    rw [List.filterMap_append, Option.toList_none, List.append_nil]
    rfl
  refine ⟨h.daemon, h.ready, h.read, h.begins, fun ne => ?_, ?_, h.refused, h.failure⟩
  · rw [reported]
    exact h.owed ne
  · have controller := h.controller
    rw [ControllerInv] at controller ⊢
    dsimp only
    rw [reported]
    exact controller

lemma LinkInv.acknowledgement (h : LinkInv E setup l) {acknowledgement : PresentationAck}
    {rest : List PresentationAck} (controller : l.controller = some c)
    (next : l.acknowledgements = acknowledgement :: rest) :
    LinkInv E setup (l.takeAcknowledgement c acknowledgement rest) := by
  have known := h.controller
  rw [ControllerInv, controller] at known
  obtain ⟨ledger, stands⟩ := known
  have ne : l.daemon.frames ≠ [] := by
    intro first
    rw [first, List.take_nil] at stands
    cases stands
  have pending : l.pending = acknowledgement.presentation ::
      (rest.map PresentationAck.presentation ++ l.events) := by
    rw [Link.pending, next]
    rfl
  obtain ⟨c', accepts, ledger', received, _⟩ :=
    AttachmentController.acceptPresentationAcknowledgement_spec (ledger.trans pending)
  rw [Link.takeAcknowledgement, accepts]
  dsimp only
  have owed := h.owed ne
  rw [Link.unapplied, pending] at owed
  obtain ⟨sequence, progress, owed⟩ := Owed.answered owed
  rw [progress, Option.some_or]
  refine ⟨h.daemon, h.ready, h.read, h.begins, fun _ => ?_, ⟨ledger', received ▸ stands⟩, h.refused,
    h.failure⟩
  exact owed _ (List.sublist_append_left _ _)

lemma LinkInv.fails (h : LinkInv E setup l) {error : ClientError}
    (other : error = .invalidCheckpointBundle ∨ error = .invalidAttachmentQueueCapacity) :
    LinkInv E setup (l.fails error) := by
  refine ⟨h.daemon, h.ready, h.read, h.begins, h.owed, h.controller, h.refused, fun error' mem => ?_⟩
  cases mem
  exact other

/-! ### Reading a frame -/

lemma attached_first {replayFrom : Nat} {checkpoint : Option TerminalCheckpoint}
    (h : Delivers log boundary
      (before ++ Frame.attached replayFrom checkpoint revision :: after) position) : before = [] := by
  rw [List.append_cons] at h
  obtain ⟨p, _, h⟩ := h.of_append
  generalize all : before ++ [Frame.attached replayFrom checkpoint revision] = frames at h
  cases h with
  | nil => simp at all
  | attached => exact (List.append_inj' (all.trans (List.nil_append [_]).symm) rfl).1
  | output => cases (List.append_inj' all rfl).2
  | checkpoint => cases (List.append_inj' all rfl).2

lemma checkpoint_spec {checkpoint : TerminalCheckpoint}
    (h : Delivers log boundary (before ++ Frame.checkpoint checkpoint revision :: after) position) :
    ∃ p, Delivers log boundary before p ∧ p ≤ checkpoint.sequence := by
  rw [List.append_cons] at h
  obtain ⟨p, _, h⟩ := h.of_append
  generalize all : before ++ [Frame.checkpoint checkpoint revision] = frames at h
  cases h with
  | nil => simp at all
  | attached => cases (List.append_inj' (all.trans (List.nil_append [_]).symm) rfl).2
  | output => cases (List.append_inj' all rfl).2
  | checkpoint h le =>
    obtain ⟨rfl, same⟩ := List.append_inj' all rfl
    cases same
    exact ⟨_, h, le⟩

lemma LinkInv.accepted (h : LinkInv E setup l) (next : l.daemon.frames[l.read]? = some frame)
    {event : Option PendingPresentation} (leads : event.toList = presentations frame)
    (ledger : c.pendingPresentations = l.pending ++ event.toList) (received : c.receivedSequence = frame.stop) :
    LinkInv E setup (l.accepted c event) := by
  obtain ⟨lt, same⟩ := List.getElem?_eq_some_iff.1 next
  have pending : (l.accepted c event).pending = l.pending ++ event.toList := by
    rw [Link.pending, Link.pending, Link.accepted, List.append_assoc]
  have unread : l.daemon.frames.drop l.read = frame :: l.daemon.frames.drop (l.read + 1) := by
    rw [List.drop_eq_getElem_cons lt, same]
  have unapplied : (l.accepted c event).unapplied = l.unapplied := by
    rw [Link.unapplied, Link.unapplied, pending, unread, List.flatMap_cons, leads, List.append_assoc]
    rfl
  refine ⟨h.daemon, h.ready, lt, h.begins, fun ne => unapplied.symm ▸ h.owed ne, ?_, h.refused,
    h.failure⟩
  refine ⟨ledger.trans pending.symm, ?_⟩
  have last : l.daemon.frames.take (l.read + 1) = l.daemon.frames.take l.read ++ [frame] := by
    rw [List.take_add_one, next]
    rfl
  show (l.daemon.frames.take (l.read + 1)).getLast?.map Frame.stop = some c.receivedSequence
  rw [last, List.getLast?_concat, received]
  rfl

lemma LinkInv.readFirst (h : LinkInv E setup l) (controller : l.controller = none)
    (next : l.daemon.frames[l.read]? = some frame) (step : l.readFrame bundleValid frame = some l') :
    LinkInv E setup l' := by
  have known := h.controller
  rw [ControllerInv, controller] at known
  obtain ⟨read, _, quiet⟩ := known
  have begins : BeginsAttachment frame := by
    apply h.begins
    rw [List.head?_eq_getElem?, ← read]
    exact next
  rw [Link.readFrame, controller] at step
  cases frame with
  | output chunk => exact absurd begins id
  | checkpoint checkpoint revision => exact absurd begins id
  | attached replayFrom checkpoint revision =>
    dsimp only [message] at step
    have start : ∀ sequence ∈ checkpoint.map (·.sequence), sequence = replayFrom := by
      intro sequence mem
      obtain ⟨c, has, rfl⟩ := Option.map_eq_some_iff.1 mem
      exact (begins c has).symm
    obtain ⟨error, refuses, other⟩ | ⟨c, accepts, ledger, received⟩ :=
      AttachmentController.new_spec l.options bundleValid start
    · rw [refuses] at step
      cases step
      exact h.fails other
    · rw [accepts] at step
      cases step
      refine h.accepted next ?_ ?_ received
      · rw [presentations, Option.map_map]
        rfl
      · rw [quiet, List.nil_append, ledger]

lemma LinkInv.readNext (h : LinkInv E setup l) (controller : l.controller = some c)
    (next : l.daemon.frames[l.read]? = some frame) (step : l.readFrame bundleValid frame = some l') :
    LinkInv E setup l' := by
  have known := h.controller
  rw [ControllerInv, controller] at known
  obtain ⟨ledger, stands⟩ := known
  obtain ⟨lt, same⟩ := List.getElem?_eq_some_iff.1 next
  have split : l.daemon.frames = l.daemon.frames.take l.read ++ frame ::
      l.daemon.frames.drop (l.read + 1) := by
    rw [← same, ← List.drop_eq_getElem_cons lt, List.take_append_drop]
  have delivers := h.daemon.delivers
  rw [split] at delivers
  have before : l.daemon.frames.take l.read ≠ [] := by
    intro none
    rw [none] at stands
    cases stands
  have position : ∀ p, Delivers (rawStream l.daemon.ops) (IsBoundary E setup l.daemon.ops)
      (l.daemon.frames.take l.read) p → p = c.receivedSequence := by
    intro p reaches
    obtain ⟨previous, last, rfl⟩ := reaches.last before
    rw [Option.mem_def.1 last] at stands
    exact Option.some.inj stands
  rw [Link.readFrame, controller] at step
  dsimp only at step
  split at step
  case isTrue => cases step
  case isFalse room =>
    have room := Nat.not_le.1 room
    cases frame with
    | attached replayFrom checkpoint revision => exact absurd (attached_first delivers) before
    | output chunk =>
      obtain ⟨_, reaches, _⟩ := delivers.output_spec
      have stop : chunk.sequenceStart + chunk.data.length = chunk.sequenceEnd := rfl
      obtain ⟨c', accepts, ledger', received⟩ :=
        AttachmentController.output_spec room bundleValid (position _ reaches) stop
      rw [message, accepts] at step
      cases step
      exact h.accepted next rfl (ledger'.trans (by rw [ledger]; rfl)) received
    | checkpoint checkpoint revision =>
      obtain ⟨p, reaches, le⟩ := checkpoint_spec delivers
      rw [position p reaches] at le
      obtain refuses | ⟨c', accepts, ledger', received⟩ :=
        AttachmentController.checkpoint_spec room bundleValid le
      · rw [message, refuses] at step
        cases step
        exact h.fails (.inl rfl)
      · rw [message, accepts] at step
        cases step
        exact h.accepted next rfl (ledger'.trans (by rw [ledger]; rfl)) received

/-! ### The runs -/

lemma LinkInv.step (h : LinkInv E setup l) {action : LinkAction}
    (step : l.step E setup action = some l') : LinkInv E setup l' := by
  cases action with
  | daemon action =>
    simp only [Link.step] at step
    split at step
    case isFalse => cases step
    case isTrue own =>
      obtain ⟨daemon, stepped, rfl⟩ := Option.map_eq_some_iff.1 step
      obtain ⟨ready, emits⟩ := step_emits h.daemon h.ready own stepped
      exact h.emits (step_inv h.daemon stepped).1 ready emits
  | receive =>
    simp only [Link.step] at step
    split at step
    case h_1 => cases step
    case h_2 message rest next => exact h.readMessage next step
  | frame bundleValid =>
    simp only [Link.step] at step
    split at step
    case isTrue => cases step
    case isFalse =>
      obtain ⟨frame, next, step⟩ := Option.bind_eq_some_iff.1 step
      cases controller : l.controller with
      | none => exact h.readFirst controller next step
      | some c => exact h.readNext controller next step
  | answer compatible =>
    simp only [Link.step] at step
    split at step
    case h_1 => cases step
    case h_2 event rest next =>
      cases step
      exact h.answer next compatible
  | acknowledgement =>
    simp only [Link.step] at step
    split at step
    case isTrue => cases step
    case isFalse =>
      split at step
      case h_1 c acknowledgement rest controller next =>
        cases step
        exact h.acknowledgement controller next
      case h_2 => cases step
  | write =>
    simp only [Link.step] at step
    split at step
    case isTrue => cases step
    case isFalse =>
      obtain ⟨sequence, next, rfl⟩ := Option.map_eq_some_iff.1 step
      exact h.write next
  | requestCheckpoint =>
    simp only [Link.step] at step
    split at step
    case isTrue => cases step
    case isFalse =>
      cases step
      apply h.messages
      rw [List.filterMap_append]
      exact List.append_nil _

lemma Link.Starts.inv (h : Link.Starts l) : LinkInv E setup l := by
  obtain ⟨ops, resumeFrom, window, options, rfl⟩ := h
  have start : Delivery.Inv E setup (System.attach ops resumeFrom window) :=
    Delivery.reachable_inv (.start ⟨ops, resumeFrom, window, rfl⟩)
  exact ⟨start, ⟨trivial, fun _ => rfl⟩, Nat.le_refl _, nofun, fun ne => absurd rfl ne,
    ⟨rfl, rfl, rfl⟩, rfl, nofun⟩

lemma link_inv (h : Reachable (Link.step E setup) Link.Starts l) : LinkInv E setup l :=
  h.invariant (LinkInv E setup) (fun _ start => start.inv) fun _ _ _ inv next => inv.step next

/-- Everything that was sent has arrived, and every event is acknowledged. -/
structure Link.Quiet (l : Link) : Prop where
  attached : l.daemon.frames ≠ []
  frames : l.read = l.daemon.frames.length
  events : l.events = []
  acknowledgements : l.acknowledgements = []
  progress : l.progress = none
  messages : ∀ message ∈ l.toDaemon, message.progress = none

/-- In every run the daemon refuses no progress, the controller ends with no error of the order, what it
    has received is a boundary that the daemon has sent, and once all has arrived and is acknowledged,
    the daemon knows that everything was applied, and nothing is in flight. -/
theorem parties_agree (h : Reachable (Link.step E setup) Link.Starts l) :
    l.refused = [] ∧
    (∀ error ∈ l.failure, error = .invalidCheckpointBundle ∨ error = .invalidAttachmentQueueCapacity) ∧
    (∀ c ∈ l.controller, (∃ frame ∈ l.daemon.frames, c.receivedSequence = frame.stop) ∧
      c.receivedSequence ≤ l.daemon.attachment.sentSequence) ∧
    (l.Quiet → l.daemon.attachment.appliedSequence = some l.daemon.attachment.sentSequence ∧
      l.daemon.attachment.inFlightOutput = []) := by
  have inv := link_inv h
  refine ⟨inv.refused, inv.failure, fun c mem => ?_, fun quiet => ?_⟩
  · have known := inv.controller
    rw [ControllerInv, Option.mem_def.1 mem] at known
    obtain ⟨frame, last, stop⟩ := Option.map_eq_some_iff.1 known.2
    refine ⟨⟨frame, List.mem_of_mem_take (List.mem_of_getLast? last), stop.symm⟩, ?_⟩
    have delivers := inv.daemon.delivers
    rw [← List.take_append_drop l.read l.daemon.frames] at delivers
    obtain ⟨p, le, reaches⟩ := delivers.of_append
    have before : l.daemon.frames.take l.read ≠ [] := by
      intro none
      rw [none] at last
      cases last
    obtain ⟨previous, last', rfl⟩ := reaches.last before
    cases last.symm.trans (Option.mem_def.1 last')
    exact stop ▸ le
  · have owed := inv.owed quiet.attached
    have reported : l.reported = [] := by
      rw [Link.reported, quiet.progress, Option.toList_none, List.append_nil]
      exact List.filterMap_eq_nil_iff.2 quiet.messages
    have unapplied : l.unapplied = [] := by
      rw [Link.unapplied, Link.pending, quiet.events, quiet.acknowledgements, quiet.frames,
        List.drop_length]
      rfl
    rw [reported, unapplied] at owed
    obtain ⟨applied, landed⟩ := Owed.settled owed
    exact ⟨applied, List.map_eq_nil_iff.1 landed⟩

end

def opening : Link :=
  ⟨System.attach resizedOps none 16384, ⟨2, true⟩, 0, none, none, [], [], none, [], []⟩

def proceeds (n : Nat) : List LinkAction := List.replicate n (.daemon .proceed)

/-- After its first checkpoint the client is sent two frames of output, whose acknowledgements reach the
    daemon as one, and the checkpoint that it has asked for. -/
def presented : List LinkAction :=
  proceeds 3 ++ [LinkAction.frame true, .answer true, .acknowledgement, .write, .receive] ++ proceeds 1 ++
  [LinkAction.daemon (.terminal (.append [100, 101])), .daemon .output] ++ proceeds 3 ++
  [LinkAction.frame true, .daemon (.terminal (.append [102])), .daemon .output] ++ proceeds 3 ++
  [LinkAction.frame true, .answer true, .answer true, .acknowledgement, .acknowledgement, .requestCheckpoint,
    .write, .receive, .daemon .proceed, .receive] ++ proceeds 3 ++
  [LinkAction.frame true, .answer false, .acknowledgement, .write, .receive] ++ proceeds 1

theorem parties_agree_presented :
    ∃ l, exec (Link.step blank resizedSetup) opening presented = some l ∧ l.read = 4 ∧
      l.refused = [] ∧ l.daemon.attachment.appliedSequence = some l.daemon.attachment.sentSequence ∧
      l.daemon.attachment.inFlightOutput = [] := by
  have done : (exec (Link.step blank resizedSetup) opening presented).any (fun l =>
      l.read = 4 && l.daemon.frames.length = 4 && l.events.isEmpty && l.acknowledgements.isEmpty &&
      l.progress.isNone && l.toDaemon.isEmpty) = true := by decide +kernel
  obtain ⟨l, run, done⟩ := (Option.any_eq_true _ _).1 done
  simp only [Bool.and_eq_true, decide_eq_true_eq, List.isEmpty_iff, Option.isNone_iff_eq_none] at done
  obtain ⟨⟨⟨⟨⟨read, frames⟩, events⟩, acknowledgements⟩, progress⟩, messages⟩ := done
  have start : Reachable (Link.step blank resizedSetup) Link.Starts opening :=
    .start ⟨resizedOps, none, 16384, ⟨2, true⟩, rfl⟩
  obtain ⟨refused, _, _, settles⟩ := parties_agree (start.exec presented run)
  have quiet : l.Quiet := by
    refine ⟨fun none => ?_, read.trans frames.symm, events, acknowledgements, progress, ?_⟩
    · rw [none] at frames
      cases frames
    · rw [messages]
      nofun
  exact ⟨l, run, read, refused, settles quiet⟩

end Ctl.Client
