import Ctl.Daemon.TerminalState

/-!
# Checkpoints stay replayable

The journal forgets old output and the checkpoint is refreshed lazily; `Consistent` is the invariant
that keeps them together: the journal always reaches back to the checkpoint, and the checkpoint at
the last boundary belongs to the current revision. Every operation keeps it (`step_consistent`), so
every run does, and `snapshotForDelivery_spec` derives from it that a delivery can start anywhere.
-/

namespace Ctl.Daemon.TerminalState
open Ctl.Base Ctl.Proto Ctl.Avt Ctl.Core

variable {E : Emulator} {t t' : TerminalState E} {stream : List UInt8}

/-! ### What feeding output leaves alone -/

/-- The part of the state that only the checkpoint operations write. -/
structure DeliveryState where
  checkpointHistory : TerminalHistorySnapshot
  checkpointHistoryRows : PhysicalHistory
  journal : OutputJournal
  checkpoint : TerminalCheckpoint
  checkpointKeyboardPrefixBytes : Nat
  checkpointGeometryRevision : Nat
  terminalSize : TerminalSize
  geometryRevision : Nat
  lastGeometryChangeSequence : Option Nat
  lastGeometryCheckpoint : Option GeometryCheckpoint

def delivery (t : TerminalState E) : DeliveryState where
  checkpointHistory := t.checkpointHistory
  checkpointHistoryRows := t.checkpointHistoryRows
  journal := t.journal
  checkpoint := t.checkpoint
  checkpointKeyboardPrefixBytes := t.checkpointKeyboardPrefixBytes
  checkpointGeometryRevision := t.checkpointGeometryRevision
  terminalSize := t.terminalSize
  geometryRevision := t.geometryRevision
  lastGeometryChangeSequence := t.lastGeometryChangeSequence
  lastGeometryCheckpoint := t.lastGeometryCheckpoint

@[simp] lemma refreshHistory_delivery (t : TerminalState E) : t.refreshHistory.delivery = t.delivery := by
  unfold refreshHistory
  by_cases h : t.historyAlternateScreen
  · simp only [h, if_true]
    split <;> rfl
  · simp only [h]
    rfl

lemma applyPendingHistoryClear_delivery (t : TerminalState E) : t.applyPendingHistoryClear.delivery = t.delivery := by
  unfold applyPendingHistoryClear
  split <;> rfl

lemma switchModes_delivery (t : TerminalState E) (control : Option HistoryControl) :
    (t.switchModes control).delivery = t.delivery := by
  rcases control with _ | switch | _ | _ | _ <;> try rfl
  simp only [switchModes]
  split
  · exact t.refreshHistory_delivery
  · rfl

lemma clearHistory_delivery (t : TerminalState E) (control : Option HistoryControl) :
    (t.clearHistory control).delivery = t.delivery := by
  rcases control with _ | switch | _ | _ | _
  case some.ris => rfl
  all_goals exact applyPendingHistoryClear_delivery _

lemma feedTerminalCharacter_delivery (t : TerminalState E) (ch : Char) :
    (t.feedTerminalCharacter ch).delivery = t.delivery :=
  (clearHistory_delivery _ _).trans (switchModes_delivery _ _)

lemma feedCharacters_delivery (interval : Nat) (t : TerminalState E) (text : Text) (index : Nat) :
    (feedCharacters interval t text index).delivery = t.delivery := by
  induction text generalizing t index with
  | nil => rfl
  | cons ch text ih =>
    rw [feedCharacters, ih]
    split
    · exact t.feedTerminalCharacter_delivery ch
    · exact t.feedTerminalCharacter_delivery ch

lemma feedTerminalText_delivery (t : TerminalState E) (text : Text) : (t.feedTerminalText text).delivery = t.delivery :=
  feedCharacters_delivery _ t text 0

lemma feedPending_delivery (fuel : Nat) (t : TerminalState E) : (feedPending fuel t).delivery = t.delivery := by
  induction fuel generalizing t with
  | zero => rfl
  | succ fuel ih =>
    rw [feedPending]
    split
    · exact t.feedTerminalText_delivery _
    · split
      · rw [ih]
        exact t.feedTerminalText_delivery _
      · split
        · rw [ih]
          exact t.feedTerminalCharacter_delivery _
        · rfl

lemma feedTerminalOutput_delivery (t : TerminalState E) (data : List UInt8) :
    (t.feedTerminalOutput data).delivery = t.delivery :=
  feedPending_delivery _ _

/-! ### What a refresh captures -/

def screen (t : TerminalState E) : TerminalCheckpoint where
  sequence := t.journal.nextSequence
  terminalSize := t.terminalSize
  payload := E.restoreKeyboardSequence t.inputModes ++ E.restoreSequences t.inputModes ++
    E.dump t.terminal
  inputPrefix := t.pendingInput

/-- The checkpoint, history and rows of `t` are those of the screen and scrollback of `origin`, at
    the end of its output. -/
structure CapturedFrom (origin t : TerminalState E) : Prop where
  checkpoint : t.checkpoint = origin.screen
  history : t.checkpointHistory = origin.history.snapshot origin.journal.nextSequence
  rows : t.checkpointHistoryRows = origin.primaryHistoryRows

lemma CapturedFrom.congr {origin origin' : TerminalState E} (h : CapturedFrom origin t)
    (screen : origin'.screen = origin.screen) (history : origin'.history = origin.history)
    (rows : origin'.primaryHistoryRows = origin.primaryHistoryRows) (checkpoint : t'.checkpoint = t.checkpoint)
    (checkpointHistory : t'.checkpointHistory = t.checkpointHistory)
    (checkpointRows : t'.checkpointHistoryRows = t.checkpointHistoryRows) :
    CapturedFrom origin' t' where
  checkpoint := by rw [checkpoint, screen, h.checkpoint]
  history := by
    have next : origin'.journal.nextSequence = origin.journal.nextSequence :=
      congrArg TerminalCheckpoint.sequence screen
    rw [checkpointHistory, history, next, h.history]
  rows := by rw [checkpointRows, rows, h.rows]

lemma refreshCheckpoint_captured (t : TerminalState E) :
    CapturedFrom t.refreshCheckpoint t.refreshCheckpoint where
  checkpoint := rfl
  history := rfl
  rows := rfl

@[simp] lemma refreshCheckpoint_journal (t : TerminalState E) : t.refreshCheckpoint.journal = t.journal :=
  congrArg DeliveryState.journal t.refreshHistory_delivery

@[simp] lemma refreshCheckpoint_geometryRevision (t : TerminalState E) :
    t.refreshCheckpoint.geometryRevision = t.geometryRevision :=
  congrArg DeliveryState.geometryRevision t.refreshHistory_delivery

@[simp] lemma refreshCheckpoint_checkpointGeometryRevision (t : TerminalState E) :
    t.refreshCheckpoint.checkpointGeometryRevision = t.geometryRevision :=
  congrArg DeliveryState.geometryRevision t.refreshHistory_delivery

@[simp] lemma refreshCheckpoint_lastGeometryChangeSequence (t : TerminalState E) :
    t.refreshCheckpoint.lastGeometryChangeSequence = t.lastGeometryChangeSequence :=
  congrArg DeliveryState.lastGeometryChangeSequence t.refreshHistory_delivery

@[simp] lemma refreshCheckpoint_lastGeometryCheckpoint (t : TerminalState E) :
    t.refreshCheckpoint.lastGeometryCheckpoint = t.lastGeometryCheckpoint :=
  congrArg DeliveryState.lastGeometryCheckpoint t.refreshHistory_delivery

@[simp] lemma refreshCheckpoint_sequence (t : TerminalState E) :
    t.refreshCheckpoint.checkpoint.sequence = t.journal.nextSequence :=
  congrArg (fun d => d.journal.nextSequence) t.refreshHistory_delivery

@[simp] lemma refreshCheckpoint_historySequence (t : TerminalState E) :
    t.refreshCheckpoint.checkpointHistory.sequence = t.journal.nextSequence :=
  congrArg (fun d => d.journal.nextSequence) t.refreshHistory_delivery

/-! ### The invariant -/

def BoundaryKept (t : TerminalState E) (stop : Nat) : Prop :=
  ∀ b ∈ t.lastGeometryChangeSequence, b ≤ stop ∧ ∃ c ∈ t.lastGeometryCheckpoint,
    c.checkpoint.sequence = b ∧ c.history.sequence = b ∧ c.geometryRevision = t.geometryRevision

/-- The journal of a terminal that has written `stream` reaches back to its checkpoint, which belongs
    to the current revision. -/
structure Covered (t : TerminalState E) (stream : List UInt8) : Prop where
  journal : t.journal.Holds stream
  covered : t.journal.earliestSequence ≤ t.checkpoint.sequence
  reached : t.checkpoint.sequence ≤ stream.length
  revision : t.checkpointGeometryRevision = t.geometryRevision
  sequence : t.checkpointHistory.sequence = t.checkpoint.sequence

/-- The invariant of a terminal that has written `stream`. -/
structure Consistent (t : TerminalState E) (stream : List UInt8) : Prop
    extends t.Covered stream where
  boundary : t.BoundaryKept t.checkpoint.sequence

lemma refreshCheckpoint_covered (journal : t.journal.Holds stream) : t.refreshCheckpoint.Covered stream := by
  have earliest := journal.earliest
  have next := journal.next
  refine ⟨?_, ?_, ?_, ?_, ?_⟩
  · rwa [refreshCheckpoint_journal]
  · rw [refreshCheckpoint_journal, refreshCheckpoint_sequence]
    omega
  · rw [refreshCheckpoint_sequence]
    omega
  · rw [refreshCheckpoint_checkpointGeometryRevision, refreshCheckpoint_geometryRevision]
  · rw [refreshCheckpoint_historySequence, refreshCheckpoint_sequence]

lemma refreshCheckpoint_consistent (journal : t.journal.Holds stream) (boundary : t.BoundaryKept stream.length) :
    t.refreshCheckpoint.Consistent stream where
  toCovered := refreshCheckpoint_covered journal
  boundary := by
    unfold BoundaryKept at *
    rw [refreshCheckpoint_sequence, refreshCheckpoint_lastGeometryChangeSequence,
      refreshCheckpoint_lastGeometryCheckpoint, refreshCheckpoint_geometryRevision, journal.next]
    exact boundary

lemma markBoundary_consistent (h : t.Covered stream) (atEnd : t.checkpoint.sequence = stream.length) :
    t.markBoundary.Consistent stream where
  toCovered := ⟨h.journal, h.covered, h.reached, h.revision, h.sequence⟩
  boundary := by
    intro b hb
    obtain rfl : t.journal.nextSequence = b := Option.some.inj hb
    rw [h.journal.next]
    exact ⟨atEnd.ge, t.captured, rfl, atEnd, h.sequence.trans atEnd, rfl⟩

lemma BoundaryKept.mono {m n : Nat} (h : t.BoundaryKept m) (le : m ≤ n) : t.BoundaryKept n :=
  fun b hb => ⟨le_trans (h b hb).1 le, (h b hb).2⟩

/-! ### The operations -/

/-- The operations on the locked state of one terminal. A PTY resize that fails does not reach the
    state, and output that clears the history is an `append`. -/
inductive Op where
  | append (data : List UInt8)
  | resize (size : TerminalSize)
  | refresh

def Op.output : Op → List UInt8
  | .append data => data
  | .resize _ => []
  | .refresh => []

def step (interval : Nat) (t : TerminalState E) : Op → TerminalState E
  | .append data => t.appendOutput interval data
  | .resize size => t.resizePty size
  | .refresh => t.refreshCheckpoint

/-- The screen changed its size, dropped its history or returned to the primary buffer with another
    width: the operation has a revision of its own. -/
def Replaced (t t' : TerminalState E) : Prop :=
  t.terminalSize ≠ t'.terminalSize ∨ t.history.generation ≠ t'.history.generation ∨
    t.geometryRevision ≠ t'.geometryRevision

/-- What one operation does to the checkpoint: it stays, or it is captured at the end. -/
def Recaptured (t t' : TerminalState E) : Prop :=
  CapturedFrom t' t' ∨ t'.checkpoint = t.checkpoint ∧ t'.checkpointHistory = t.checkpointHistory ∧
    t'.checkpointHistoryRows = t.checkpointHistoryRows

/-- The last boundary after an operation: the end of the output with a revision of its own, or the
    last boundary before it when nothing was replaced. -/
def Marked (t t' : TerminalState E) : Prop :=
  t'.lastGeometryChangeSequence = some t'.journal.nextSequence ∧
      t'.geometryRevision = t.geometryRevision + 1 ∨
    t'.lastGeometryChangeSequence = t.lastGeometryChangeSequence ∧ ¬ Replaced t t'

lemma not_replaced (size : t'.terminalSize = t.terminalSize)
    (generation : t'.history.generation = t.history.generation) (revision : t'.geometryRevision = t.geometryRevision) :
    ¬ Replaced t t' := by
  rw [Replaced, size, generation, revision]
  simp

lemma Marked.revision_le (h : Marked t t') : t.geometryRevision ≤ t'.geometryRevision := by
  rcases h with ⟨-, next⟩ | ⟨-, same⟩
  · omega
  · rw [Replaced] at same
    push Not at same
    exact same.2.2.le

@[simp] lemma replace_generation (history : TerminalHistory) (lines : List Text)
    (truncated : Bool) : (history.replace lines truncated).generation = history.generation := by
  unfold TerminalHistory.replace
  dsimp only
  split <;> rfl

lemma refreshHistory_generation (t : TerminalState E) : t.refreshHistory.history.generation = t.history.generation := by
  unfold refreshHistory
  by_cases h : t.historyAlternateScreen
  · simp only [h, if_true]
    split
    · exact replace_generation _ _ _
    · rfl
  · simp only [h]
    exact replace_generation _ _ _

lemma refreshCheckpoint_generation (t : TerminalState E) :
    t.refreshCheckpoint.history.generation = t.history.generation :=
  t.refreshHistory_generation

lemma refreshCheckpoint_terminalSize (t : TerminalState E) : t.refreshCheckpoint.terminalSize = t.terminalSize :=
  congrArg DeliveryState.terminalSize t.refreshHistory_delivery

lemma resizePty_spec (h : t.Consistent stream) (size : TerminalSize) : (t.resizePty size).Consistent stream ∧
      Recaptured t (t.resizePty size) ∧ Marked t (t.resizePty size) := by
  unfold resizePty
  by_cases same : t.terminalSize = size
  · rw [if_pos same]
    exact ⟨h, .inr ⟨rfl, rfl, rfl⟩, .inr ⟨rfl, not_replaced rfl rfl rfl⟩⟩
  · rw [if_neg same]
    refine ⟨markBoundary_consistent (refreshCheckpoint_covered h.journal) ?_, .inl ?_,
      .inl ⟨rfl, ?_⟩⟩
    · rw [refreshCheckpoint_sequence]
      exact h.journal.next
    · exact (refreshCheckpoint_captured _).congr rfl rfl rfl rfl rfl rfl
    · exact refreshCheckpoint_geometryRevision _

lemma refreshCheckpointAfterOutput_spec (journal : t.journal.Holds stream)
    (reached : t.checkpoint.sequence ≤ stream.length) (revision : t.checkpointGeometryRevision = t.geometryRevision)
    (sequence : t.checkpointHistory.sequence = t.checkpoint.sequence)
    (boundary : t.BoundaryKept t.checkpoint.sequence) (generation interval : Nat) :
    (t.refreshCheckpointAfterOutput generation interval).Consistent stream := by
  unfold refreshCheckpointAfterOutput
  split
  case isTrue =>
    refine markBoundary_consistent ?_ ?_
    · have := refreshCheckpoint_covered (t := { t with geometryRevision := t.geometryRevision + 1 })
        journal
      exact ⟨this.journal, this.covered, this.reached, this.revision, this.sequence⟩
    · exact (refreshCheckpoint_sequence _).trans journal.next
  case isFalse =>
    split
    case isTrue => exact refreshCheckpoint_consistent journal (boundary.mono reached)
    case isFalse due =>
      rw [refreshDue, Bool.not_eq_true, Bool.or_eq_false_iff, decide_eq_false_iff_not] at due
      exact ⟨⟨journal, not_lt.1 due.1, reached, revision, sequence⟩, boundary⟩

/-- The state between feeding output and refreshing the checkpoint: the journal has grown, and the
    rest of the delivery state is untouched. -/
def fed (t : TerminalState E) (data : List UInt8) : TerminalState E :=
  { t.feedTerminalOutput data with journal := ((t.feedTerminalOutput data).journal.append data).2 }

lemma fed_delivery (t : TerminalState E) (data : List UInt8) :
    (t.fed data).delivery = { t.delivery with journal := (t.journal.append data).2 } := by
  have h := t.feedTerminalOutput_delivery data
  simp only [delivery, DeliveryState.mk.injEq, fed] at h ⊢
  obtain ⟨h1, h2, h3, h4, h5, h6, h7, h8, h9, h10⟩ := h
  exact ⟨h1, h2, by rw [h3], h4, h5, h6, h7, h8, h9, h10⟩

lemma appendOutput_spec (h : t.Consistent stream) (interval : Nat) (data : List UInt8) :
    (t.appendOutput interval data).Consistent (stream ++ data) ∧
      Recaptured t (t.appendOutput interval data) ∧ Marked t (t.appendOutput interval data) := by
  have same := t.fed_delivery data
  simp only [delivery, DeliveryState.mk.injEq] at same
  obtain ⟨history, rows, journal, checkpoint, -, revision, size, geometry, last, lastCheckpoint⟩ :=
    same
  have holds : (t.fed data).journal.Holds (stream ++ data) := by
    rw [journal]
    exact OutputJournal.append_holds h.journal data
  have eq : t.appendOutput interval data
      = (t.fed data).refreshCheckpointAfterOutput t.history.generation interval := rfl
  rw [eq]
  refine ⟨refreshCheckpointAfterOutput_spec holds ?_ ?_ ?_ ?_ _ _, ?_, ?_⟩
  · rw [checkpoint, List.length_append]
    exact Nat.le_add_right_of_le h.reached
  · rw [revision, geometry, h.revision]
  · rw [history, checkpoint, h.sequence]
  · unfold BoundaryKept
    rw [checkpoint, last, lastCheckpoint, geometry]
    exact h.boundary
  · unfold refreshCheckpointAfterOutput
    split
    · exact .inl ((refreshCheckpoint_captured _).congr rfl rfl rfl rfl rfl rfl)
    · split
      · exact .inl (refreshCheckpoint_captured _)
      · exact .inr ⟨checkpoint, history, rows⟩
  · unfold refreshCheckpointAfterOutput
    split
    case isTrue =>
      refine .inl ⟨rfl, (refreshCheckpoint_geometryRevision _).trans ?_⟩
      exact congrArg (· + 1) geometry
    case isFalse kept =>
      rw [replacementRequired, Bool.not_eq_true, Bool.or_eq_false_iff, decide_eq_false_iff_not,
        ne_eq, not_not] at kept
      split
      · exact .inr ⟨(refreshCheckpoint_lastGeometryChangeSequence _).trans last,
          not_replaced ((refreshCheckpoint_terminalSize _).trans size)
            ((refreshCheckpoint_generation _).trans kept.1.symm)
            ((refreshCheckpoint_geometryRevision _).trans geometry)⟩
      · exact .inr ⟨last, not_replaced size kept.1.symm geometry⟩

lemma step_spec (h : t.Consistent stream) (interval : Nat) (op : Op) :
    (t.step interval op).Consistent (stream ++ op.output) ∧ Recaptured t (t.step interval op) ∧
      Marked t (t.step interval op) := by
  cases op with
  | append data => exact appendOutput_spec h interval data
  | resize size =>
    rw [Op.output, List.append_nil]
    exact resizePty_spec h size
  | refresh =>
    rw [Op.output, List.append_nil]
    refine ⟨refreshCheckpoint_consistent h.journal (h.boundary.mono h.reached),
      .inl (refreshCheckpoint_captured t), .inr ⟨refreshCheckpoint_lastGeometryChangeSequence t, ?_⟩⟩
    exact not_replaced (refreshCheckpoint_terminalSize t) (refreshCheckpoint_generation t)
      (refreshCheckpoint_geometryRevision t)

/-! ### Runs -/

/-- How a terminal is created. -/
structure Setup where
  terminalSize : TerminalSize
  journalCapacityBytes : Nat
  historyCapacityBytes : Nat
  checkpointIntervalBytes : Nat

def rawStream (ops : List Op) : List UInt8 := ops.flatMap Op.output

def run (E : Emulator) (setup : Setup) (ops : List Op) : TerminalState E :=
  ops.foldl (step setup.checkpointIntervalBytes)
    (new E setup.terminalSize setup.journalCapacityBytes setup.historyCapacityBytes)

lemma run_concat (E : Emulator) (setup : Setup) (ops : List Op) (op : Op) :
    run E setup (ops ++ [op]) = (run E setup ops).step setup.checkpointIntervalBytes op := by
  simp [run]

lemma rawStream_concat (ops : List Op) (op : Op) : rawStream (ops ++ [op]) = rawStream ops ++ op.output := by
  simp [rawStream]

lemma run_consistent (E : Emulator) (setup : Setup) (ops : List Op) : (run E setup ops).Consistent (rawStream ops) := by
  induction ops using List.reverseRecOn with
  | nil =>
    exact refreshCheckpoint_consistent (OutputJournal.new_holds _) (by simp [BoundaryKept])
  | append_singleton ops op ih =>
    rw [run_concat, rawStream_concat]
    exact (step_spec ih _ op).1

lemma run_last (E : Emulator) (setup : Setup) (ops : List Op) (op : Op) :
    Recaptured (run E setup ops) (run E setup (ops ++ [op])) ∧
      Marked (run E setup ops) (run E setup (ops ++ [op])) := by
  rw [run_concat]
  exact (step_spec (run_consistent E setup ops) _ op).2

lemma run_captured (E : Emulator) (setup : Setup) (ops : List Op) :
    ∃ past, past <+: ops ∧ CapturedFrom (run E setup past) (run E setup ops) := by
  induction ops using List.reverseRecOn with
  | nil => exact ⟨[], List.prefix_rfl, refreshCheckpoint_captured _⟩
  | append_singleton ops op ih =>
    obtain ⟨past, before, captured⟩ := ih
    rcases (run_last E setup ops op).1 with now | ⟨checkpoint, history, rows⟩
    · exact ⟨ops ++ [op], List.prefix_rfl, now⟩
    · exact ⟨past, before.trans (List.prefix_append _ _),
        captured.congr rfl rfl rfl checkpoint history rows⟩

lemma run_boundary (E : Emulator) (setup : Setup) (before : List Op) (op : Op) (after : List Op)
    (replaced : Replaced (run E setup before) (run E setup (before ++ [op]))) :
    ∃ b ∈ (run E setup (before ++ [op] ++ after)).lastGeometryChangeSequence,
      (rawStream (before ++ [op])).length ≤ b := by
  induction after using List.reverseRecOn with
  | nil =>
    rw [List.append_nil]
    refine ⟨_, ((run_last E setup before op).2.resolve_right fun h => h.2 replaced).1, ?_⟩
    exact (run_consistent E setup (before ++ [op])).journal.next.ge
  | append_singleton after next ih =>
    obtain ⟨b, hb, le⟩ := ih
    rw [← List.append_assoc]
    generalize before ++ [op] ++ after = ops at hb ⊢
    rcases (run_last E setup ops next).2 with ⟨now, -⟩ | ⟨same, -⟩
    · refine ⟨_, now, le_trans le ?_⟩
      have consistent := run_consistent E setup ops
      have bounded := (consistent.boundary b hb).1
      have reached := consistent.reached
      rw [(run_consistent E setup (ops ++ [next])).journal.next, rawStream_concat,
        List.length_append]
      omega
    · exact ⟨b, by rw [same]; exact hb, le⟩

/-! ### Deliveries -/

/-- A checkpoint from which the journal replays to the end, for the current revision. -/
structure Startable (t : TerminalState E) (stream : List UInt8) (c : GeometryCheckpoint) :
    Prop where
  covered : t.journal.earliestSequence ≤ c.checkpoint.sequence
  reached : c.checkpoint.sequence ≤ stream.length
  sequence : c.history.sequence = c.checkpoint.sequence
  revision : c.geometryRevision = t.geometryRevision

lemma deliveryCheckpoint_spec (h : t.Consistent stream) (requested revision : Option Nat) :
    match t.deliveryCheckpoint requested revision with
    | some c => t.Startable stream c ∧ ∀ r ∈ requested, r ≤ c.checkpoint.sequence
    | none => ∃ r, requested = some r ∧ t.journal.earliestSequence ≤ r := by
  have latest : t.Startable stream { t.captured with
      geometryRevision := t.checkpointGeometryRevision } :=
    ⟨h.covered, h.reached, h.sequence, h.revision⟩
  unfold deliveryCheckpoint
  by_cases behind : ∀ sequence ∈ requested, sequence < t.journal.earliestSequence
  · simp only [if_pos behind]
    exact ⟨latest, fun r hr => le_trans (behind r hr).le h.covered⟩
  simp only [if_neg behind]
  push Not at behind
  obtain ⟨r, hr, within⟩ := behind
  split
  case h_1 c start =>
    split at start
    case isFalse => cases start
    case isTrue required =>
      obtain ⟨-, sequence, hsequence, b, hb, le⟩ := required
      obtain rfl := Option.mem_unique hr hsequence
      obtain ⟨bounded, kept, hkept, at_, history, current⟩ := h.boundary b hb
      -- The checkpoint at the last boundary is still inside the journal, so it is the one chosen.
      have inside : t.journal.earliestSequence ≤ kept.checkpoint.sequence := by omega
      have chosen : t.lastGeometryCheckpoint.filter
          (fun c => t.journal.earliestSequence ≤ c.checkpoint.sequence) = some kept := by
        rw [Option.mem_def.1 hkept]
        exact Option.filter_some_pos (by simpa using inside)
      rw [chosen, Option.getD_some, Option.some.injEq] at start
      subst start
      have reached := h.reached
      refine ⟨⟨inside, by omega, history.trans at_.symm, current⟩, ?_⟩
      intro q hq
      obtain rfl := Option.mem_unique hr hq
      exact at_ ▸ le
  case h_2 => exact ⟨r, hr, within⟩

lemma deliveryCheckpoint_isSome (requested revision : Option Nat) {r b : Nat} (hr : r ∈ requested)
    (hb : b ∈ t.lastGeometryChangeSequence) (le : r ≤ b) (old : ∀ v ∈ revision, v < t.geometryRevision) :
    (t.deliveryCheckpoint requested revision).isSome := by
  unfold deliveryCheckpoint
  dsimp only
  split
  · rfl
  · rw [if_pos ⟨old, r, hr, b, hb, le⟩]
    rfl

/-- A delivery from a position of the stream succeeds: it replays the stream from its checkpoint, or
    from the requested position when it needs none, to the end. -/
lemma snapshotForDelivery_spec (h : t.Consistent stream) {requested : Option Nat} (revision : Option Nat)
    (hr : ∀ r ∈ requested, r ≤ stream.length) :
    ∃ snapshot, t.snapshotForDelivery requested revision = .ok snapshot ∧
      snapshot.nextSequence = stream.length ∧
      snapshot.checkpoint = (t.deliveryCheckpoint requested revision).map (·.checkpoint) ∧
      snapshot.checkpointGeometryRevision
        = (t.deliveryCheckpoint requested revision).map (fun _ => t.geometryRevision) ∧
      (∀ c ∈ snapshot.checkpoint, snapshot.journal.replayFrom = c.sequence) ∧
      (snapshot.checkpoint = none → requested = some snapshot.journal.replayFrom) ∧
      (∀ r ∈ requested, r < snapshot.journal.replayFrom → snapshot.historyGap = true) ∧
      Replays stream snapshot.journal.replayFrom snapshot.journal.chunks stream.length := by
  have start := deliveryCheckpoint_spec h requested revision
  have ahead : requested.any (t.journal.nextSequence < ·) = false := by
    cases requested with
    | none => rfl
    | some r =>
      have := hr r rfl
      simpa [h.journal.next] using this
  rw [snapshotForDelivery, if_neg (by rw [ahead]; decide)]
  cases hstart : t.deliveryCheckpoint requested revision with
  | some c =>
    rw [hstart] at start
    obtain ⟨start, -⟩ := start
    obtain ⟨journal, ok, -, -, position, -, replays⟩ :=
      OutputJournal.snapshotFrom_holds h.journal (some c.checkpoint.sequence)
        (fun q hq => Option.mem_some.1 hq ▸ start.reached)
    have covered := start.covered
    rw [Option.getD_some, Nat.max_eq_left covered] at position
    simp only [ok]
    refine ⟨_, rfl, h.journal.next, rfl, ?_, ?_, ?_, ?_, replays⟩
    · simp [start.revision]
    · intro checkpoint hc
      rw [Option.map_some, Option.mem_some] at hc
      rw [position, ← hc]
    · intro none
      cases none
    · intro r hr lt
      rw [Option.mem_def.1 hr]
      simp [lt]
  | none =>
    rw [hstart] at start
    obtain ⟨r, rfl, within⟩ := start
    obtain ⟨journal, ok, -, -, position, -, replays⟩ :=
      OutputJournal.snapshotFrom_holds h.journal (some r) hr
    rw [Option.getD_some, Nat.max_eq_left within] at position
    simp only [Option.getD_some, ok]
    refine ⟨_, rfl, h.journal.next, rfl, rfl, ?_, ?_, ?_, replays⟩
    · intro checkpoint hc
      cases hc
    · intro _
      rw [position]
    · intro q hq lt
      have same := Option.mem_some.1 hq
      dsimp only at lt
      omega

/-- In every run the journal reaches back to the checkpoint, which was captured together with its
    history and rows at its sequence and belongs to the current revision. A delivery can start at
    every position and for every revision; it replays exactly the raw bytes behind its start, a
    receiver at or before a boundary it has not seen is sent a checkpoint of the current revision,
    and skipped bytes are reported as a gap. -/
theorem run_replayable (E : Emulator) (setup : Setup) (ops : List Op) :
    let t := run E setup ops
    let stream := rawStream ops
    t.journal.nextSequence = stream.length ∧
    t.journal.earliestSequence ≤ t.checkpoint.sequence ∧
    t.checkpoint.sequence ≤ t.journal.nextSequence ∧
    t.checkpointGeometryRevision = t.geometryRevision ∧
    (∃ past, past <+: ops ∧ t.checkpoint.sequence = (rawStream past).length ∧
      t.checkpointHistory.sequence = (rawStream past).length ∧
      CapturedFrom (run E setup past) t) ∧
    ∀ requested revision : Option Nat, (∀ r ∈ requested, r ≤ t.journal.nextSequence) →
      ∃ snapshot, t.snapshotForDelivery requested revision = .ok snapshot ∧
        Replays stream snapshot.journal.replayFrom snapshot.journal.chunks
          t.journal.nextSequence ∧
        (∀ c ∈ snapshot.checkpoint, snapshot.journal.replayFrom = c.sequence) ∧
        (∀ before op after, ops = before ++ [op] ++ after →
          Replaced (run E setup before) (run E setup (before ++ [op])) →
          (∃ r ∈ requested, r ≤ (rawStream (before ++ [op])).length) →
          (∀ v ∈ revision, v < t.geometryRevision) →
          snapshot.checkpoint.isSome ∧
            snapshot.checkpointGeometryRevision = some t.geometryRevision) ∧
        (∀ r ∈ requested, r < snapshot.journal.replayFrom → snapshot.historyGap = true) := by
  intro t stream
  have h := run_consistent E setup ops
  have next : t.journal.nextSequence = stream.length := h.journal.next
  obtain ⟨past, before, captured⟩ := run_captured E setup ops
  have at_ : t.checkpoint.sequence = (rawStream past).length := by
    rw [captured.checkpoint]
    exact (run_consistent E setup past).journal.next
  refine ⟨next, h.covered, next.symm ▸ h.reached, h.revision,
    ⟨past, before, at_, h.sequence.trans at_, captured⟩, ?_⟩
  intro requested revision hr
  rw [next] at hr ⊢
  obtain ⟨snapshot, ok, -, checkpoint, geometry, position, -, gap, replays⟩ :=
    snapshotForDelivery_spec h revision hr
  refine ⟨snapshot, ok, replays, position, ?_, gap⟩
  rintro before op after split replaced ⟨r, hrequested, le⟩ old
  obtain ⟨b, hb, behind⟩ := run_boundary E setup before op after replaced
  rw [← split] at hb
  have isSome := deliveryCheckpoint_isSome _ _ hrequested hb (le_trans le behind) old
  rw [checkpoint, geometry]
  obtain ⟨c, hc⟩ := Option.isSome_iff_exists.1 isSome
  rw [hc]
  exact ⟨rfl, rfl⟩

end Ctl.Daemon.TerminalState
