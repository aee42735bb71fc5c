import Ctl.Avt.Redump
import Ctl.Daemon.Checkpoint
import Ctl.Daemon.Decoding
import Ctl.Daemon.Emulator

/-!
# The flag of the alternate screen

The daemon follows the control functions with a parser of its own, and keeps a flag that says whether the
alternate buffer is active. `Agrees` is what keeps the flag and the emulator together: both parsers are at the
same place, also when the emulator was replaced by one that was fed its dump. So the history is captured
from the primary buffer, and before a character leaves it (`alternate_screen_agrees`).
-/

namespace Ctl.Daemon
open Ctl.Base Ctl.Proto Ctl.Avt Ctl.Core

variable {width : Char → Option Nat}

/-! ### The probe -/

lemma probe_eq (f : Function) (alternate : Bool) :
    probe width f alternate =
      decide (f.activates (if alternate then .alternate else .primary) = .alternate) := by
  rw [probe]
  cases alternate with
  | false =>
    rw [if_neg Bool.false_ne_true, if_neg Bool.false_ne_true]
    rw [Terminal.execute_active]
    rfl
  | true =>
    rw [if_pos rfl, if_pos rfl, Terminal.execute_active, Terminal.execute_active]
    rfl

/-! ### What the flag depends on -/

/-- The part of a terminal that the flag depends on. -/
structure Watched where
  terminal : Vt
  historyControlParser : Parser
  historyClearPending : Bool
  historyAlternateScreen : Bool

namespace Watched

/-- `apply_pending_history_clear`, for a terminal of this size. -/
def applyPending (width : Char → Option Nat) (size : TerminalSize) (s : Watched) : Watched :=
  if !s.historyClearPending || s.historyAlternateScreen then s
  else { s with
    terminal := Vt.feedStr width (terminalEmulator size) s.terminal.dump
    historyClearPending := false }

def flagAfter (width : Char → Option Nat) (flag : Bool) : Option Function → Bool
  | some (.decset modes) => probe width (.decset modes) flag
  | some (.decrst modes) => probe width (.decrst modes) flag
  | _ => flag

/-- The end of `feed_terminal_character`. -/
def clear (width : Char → Option Nat) (size : TerminalSize) (s : Watched) : Option Function → Watched
  | some (.ed .savedLines) => { s with historyClearPending := true }.applyPending width size
  | some .ris => { s with historyAlternateScreen := false, historyClearPending := false }
  | _ => s.applyPending width size

/-- `feed_terminal_character`. -/
def feed (width : Char → Option Nat) (size : TerminalSize) (s : Watched) (ch : Char) : Watched :=
  let (parser, function) := s.historyControlParser.feed ch
  ({ s with
    terminal := s.terminal.feed width ch
    historyControlParser := parser
    historyAlternateScreen := flagAfter width s.historyAlternateScreen function } : Watched).clear
      width size function

/-- The parsers are at the same place, the flag says which buffer is active, and the history waits for its
    end only while the alternate buffer is active. -/
structure Agrees (s : Watched) : Prop where
  parsers : s.historyControlParser.Alike s.terminal.parser
  flag : s.historyAlternateScreen = true ↔ s.terminal.active = .alternate
  pending : s.historyClearPending = true → s.historyAlternateScreen = true
  holds : s.terminal.Holds

variable {s : Watched}

lemma applyPending_agrees (size : TerminalSize) (parsers : s.historyControlParser.Alike s.terminal.parser)
    (flag : s.historyAlternateScreen = true ↔ s.terminal.active = .alternate) (holds : s.terminal.Holds)
    (ground : s.historyClearPending = true → s.historyAlternateScreen = false →
      s.terminal.parser.state = .ground) : (s.applyPending width size).Agrees := by
  unfold applyPending
  split
  case isTrue waits =>
    refine ⟨parsers, flag, fun pending => ?_, holds⟩
    rw [pending] at waits
    exact waits
  case isFalse drops =>
    rw [Bool.or_eq_true, Bool.not_eq_true', not_or, Bool.not_eq_false, Bool.not_eq_true] at drops
    have own := ground drops.1 drops.2
    have primary : s.terminal.active = .primary := by
      cases type : s.terminal.active with
      | primary => rfl
      | alternate => exact absurd ((flag.2 type).symm.trans drops.2) nofun
    have start : (terminalEmulator size).Holds := Vt.build_holds _ _ _ _
    have fresh : (terminalEmulator size).parser.state = .ground ∧
        (terminalEmulator size).active = .primary := ⟨rfl, rfl⟩
    obtain ⟨still, active⟩ := Vt.feedStr_dump width holds primary own fresh.1 fresh.2
    refine ⟨.of_ground (parsers.1.trans own) still, ?_, nofun, start.feedStr width _⟩
    exact ⟨fun set => absurd (set.symm.trans drops.2) nofun, fun type => nomatch active.symm.trans type⟩

lemma flagAfter_iff (width : Char → Option Nat) (h : s.Agrees) {function : Option Function}
    (reset : function ≠ some .ris) :
    flagAfter width s.historyAlternateScreen function = true ↔
      function.toList.foldl (fun active f => f.activates active) s.terminal.active = .alternate := by
  have probed : ∀ f : Function, probe width f s.historyAlternateScreen = true ↔
      f.activates s.terminal.active = .alternate := by
    intro f
    rw [probe_eq, decide_eq_true_eq]
    cases type : s.terminal.active with
    | primary =>
      rw [if_neg]
      exact fun set => nomatch (h.flag.1 set).symm.trans type
    | alternate => rw [if_pos (h.flag.2 type)]
  cases function with
  | none => exact h.flag
  | some f =>
    cases f with
    | ris => exact (reset rfl).elim
    | decset modes => exact probed (.decset modes)
    | decrst modes => exact probed (.decrst modes)
    | _ => exact h.flag

lemma ground_of_change (width : Char → Option Nat) {parser : Parser} {ch : Char} {f : Function}
    (read : s.historyControlParser.feed ch = (parser, some f))
    (change : flagAfter width s.historyAlternateScreen (some f) ≠ s.historyAlternateScreen ∨
      f = .ed .savedLines) : parser.state = .ground := by
  have ends : f ∉ [.bs, .ht, .lf, .cr, .so, .si, .nel, .hts, .ri] ∧ ∀ ch, f ≠ .print ch := by
    cases f with
    | decset modes => exact ⟨by simp, nofun⟩
    | decrst modes => exact ⟨by simp, nofun⟩
    | ed scope => exact ⟨by simp, nofun⟩
    | _ => exact absurd change (by simp [flagAfter])
  exact Parser.ground_of_feed read ends.1 ends.2

theorem feed_agrees (size : TerminalSize) (h : s.Agrees) (ch : Char) : (s.feed width size ch).Agrees := by
  obtain ⟨parsers, same⟩ := h.parsers.feed ch
  have holds := h.holds.feed width ch
  have active := Vt.feed_active width s.terminal ch
  rw [← same] at active
  unfold feed
  cases read : s.historyControlParser.feed ch with
  | mk parser function =>
    rw [read] at parsers active
    dsimp only at parsers active ⊢
    by_cases reset : function = some .ris
    · subst reset
      exact ⟨parsers, ⟨nofun, fun type => nomatch active.symm.trans type⟩, nofun, holds⟩
    have flag := (flagAfter_iff width h reset).trans (by rw [← active])
    have unfinished : (s.terminal.feed width ch).parser.state = parser.state := parsers.1.symm
    -- The history waits since the alternate buffer became active; now it is left.
    have left : s.historyClearPending = true → flagAfter width s.historyAlternateScreen function = false →
        (s.terminal.feed width ch).parser.state = .ground := by
      intro waits primary
      rw [unfinished]
      cases function with
      | none => exact absurd ((h.pending waits).symm.trans primary) nofun
      | some f =>
        apply ground_of_change width read
        left
        rw [primary, h.pending waits]
        exact nofun
    unfold clear
    split
    · refine applyPending_agrees size parsers flag holds fun _ _ => ?_
      rw [unfinished]
      exact ground_of_change width read (.inr rfl)
    · exact (reset rfl).elim
    · exact applyPending_agrees size parsers flag holds left

end Watched

namespace TerminalState

def watched (t : TerminalState (emulator width)) : Watched :=
  ⟨t.terminal, t.historyControlParser, t.historyClearPending, t.historyAlternateScreen⟩

lemma refreshHistory_watched (t : TerminalState (emulator width)) : t.refreshHistory.watched = t.watched := by
  unfold refreshHistory
  dsimp only
  split
  · split
    · rfl
    · rfl
  · rfl

lemma applyPendingHistoryClear_watched (t : TerminalState (emulator width)) :
    t.applyPendingHistoryClear.watched = t.watched.applyPending width t.terminalSize := by
  unfold applyPendingHistoryClear Watched.applyPending
  show watched (if (!t.historyClearPending || t.historyAlternateScreen) = true then _ else _) =
    if (!t.historyClearPending || t.historyAlternateScreen) = true then _ else _
  split
  · rfl
  · rfl

lemma switchModes_watched (t : TerminalState (emulator width)) (function : Option Function) :
    (t.switchModes (function.map (historyControl width))).watched =
      { t.watched with
        historyAlternateScreen := Watched.flagAfter width t.historyAlternateScreen function } := by
  have switched : ∀ switch : Bool → Bool, (t.switchModes (some (.modes switch))).watched =
      { t.watched with historyAlternateScreen := switch t.historyAlternateScreen } := by
    intro switch
    rw [switchModes]
    dsimp only
    split
    · exact congrArg (fun s : Watched => { s with
        historyAlternateScreen := switch t.historyAlternateScreen }) t.refreshHistory_watched
    · rfl
  cases function with
  | none => rfl
  | some f =>
    cases f with
    | decset modes => exact switched _
    | decrst modes => exact switched _
    | ed scope => cases scope <;> rfl
    | _ => rfl

lemma clearHistory_watched (t : TerminalState (emulator width)) (function : Option Function) :
    (t.clearHistory (function.map (historyControl width))).watched =
      t.watched.clear width t.terminalSize function := by
  cases function with
  | none => exact t.applyPendingHistoryClear_watched
  | some f =>
    cases f with
    | ris => rfl
    | ed scope =>
      cases scope with
      | savedLines => exact applyPendingHistoryClear_watched _
      | _ => exact t.applyPendingHistoryClear_watched
    | _ => exact t.applyPendingHistoryClear_watched

lemma feedTerminalCharacter_watched (t : TerminalState (emulator width)) (ch : Char) :
    (t.feedTerminalCharacter ch).watched = t.watched.feed width t.terminalSize ch := by
  have observed : (emulator width).observe t.historyControlParser ch =
      ((t.watched.historyControlParser.feed ch).1,
        (t.watched.historyControlParser.feed ch).2.map (historyControl width)) := rfl
  have size : ∀ (t : TerminalState (emulator width)) control,
      (t.switchModes control).terminalSize = t.terminalSize :=
    fun t control => congrArg DeliveryState.terminalSize (t.switchModes_delivery control)
  rw [feedTerminalCharacter, observed, clearHistory_watched, Watched.feed]
  generalize t.watched.historyControlParser.feed ch = read
  dsimp only
  rw [size]
  congr 1
  have switched := switchModes_watched ({ t with
    inputModes := (emulator width).feedModes t.inputModes ch
    historyControlParser := read.1 } : TerminalState (emulator width)) read.2
  exact congrArg (fun s : Watched => { s with terminal := s.terminal.feed width ch }) switched

variable {t : TerminalState (emulator width)}

lemma Feeds.agrees {t' : TerminalState (emulator width)} {text : Text} (fed : Feeds t text t') (h : t.watched.Agrees) :
    t'.watched.Agrees := by
  induction fed with
  | nil => exact h
  | @char t t' ch text _ ih =>
    apply ih
    rw [feedTerminalCharacter_watched]
    exact Watched.feed_agrees t.terminalSize h ch
  | collect _ ih => exact ih ⟨h.parsers, h.flag, h.pending, h.holds.collect⟩
  | wait _ _ ih => exact ih h

lemma step_agrees (h : t.watched.Agrees) (interval : Nat) (op : Op) : (t.step interval op).watched.Agrees := by
  have checkpointed : ∀ t : TerminalState (emulator width), t.refreshCheckpoint.watched = t.watched :=
    fun t => t.refreshHistory_watched
  cases op with
  | append data =>
    have fed := (t.feedTerminalOutput_feeds data).1.agrees h
    show (t.appendOutput interval data).watched.Agrees
    unfold appendOutput refreshCheckpointAfterOutput
    dsimp only
    split
    · show (refreshCheckpoint _).watched.Agrees
      rw [checkpointed]
      exact fed
    · split
      · rw [checkpointed]
        exact fed
      · exact fed
  | resize size =>
    show (t.resizePty size).watched.Agrees
    unfold resizePty
    split
    · exact h
    · show (refreshCheckpoint _).watched.Agrees
      rw [checkpointed]
      refine ⟨h.parsers, h.flag.trans ?_, h.pending, h.holds.resize _ _⟩
      rw [← Vt.resize_active t.watched.terminal size.columns.toNat size.rows.toNat]
      exact Iff.rfl
  | refresh =>
    show t.refreshCheckpoint.watched.Agrees
    rw [checkpointed]
    exact h

theorem run_agrees (width : Char → Option Nat) (setup : Setup) (ops : List Op) :
    (run (emulator width) setup ops).watched.Agrees := by
  induction ops using List.reverseRecOn with
  | nil =>
    show (refreshCheckpoint _).watched.Agrees
    rw [show ∀ t : TerminalState (emulator width), t.refreshCheckpoint.watched = t.watched from
      fun t => t.refreshHistory_watched]
    exact ⟨.refl _, ⟨nofun, nofun⟩, nofun, Vt.build_holds _ _ _ _⟩
  | append_singleton ops op ih =>
    rw [run_concat]
    exact step_agrees ih _ op

/-! ### The history -/

def scrollbackRows (b : Buffer) (size : TerminalSize) : List TerminalHistoryRow :=
  let historyRows := b.lines.length - size.rows.toNat
  let retainedRows := min historyRows (terminalScrollbackRows size)
  ((b.lines.drop (historyRows - retainedRows)).take retainedRows).map fun line => captureRow line line.wrapped

lemma refreshHistory_rows (primary : t.historyAlternateScreen = false) :
    t.refreshHistory.primaryHistoryRows =
      t.primaryHistoryRows.replace (scrollbackRows t.watched.terminal.terminal.buffer t.terminalSize) := by
  unfold refreshHistory
  dsimp only
  rw [primary]
  rfl

lemma refreshHistory_blind (alternate : t.historyAlternateScreen = true) (vt : Vt) :
    ({ t with terminal := vt } : TerminalState (emulator width)).refreshHistory =
      { t.refreshHistory with terminal := vt } := by
  unfold refreshHistory
  dsimp only
  rw [if_pos alternate, if_pos alternate]
  split
  · rfl
  · rfl

lemma applyPendingHistoryClear_kept (kept : t.historyClearPending = false) : t.applyPendingHistoryClear = t := by
  unfold applyPendingHistoryClear
  rw [kept]
  rfl

lemma feedTerminalCharacter_captures {ch : Char} (primary : t.historyAlternateScreen = false)
    (kept : t.historyClearPending = false) (alternate : (t.feedTerminalCharacter ch).historyAlternateScreen = true) :
    (t.feedTerminalCharacter ch).primaryHistoryRows = t.refreshHistory.primaryHistoryRows := by
  have applied : ∀ t : TerminalState (emulator width),
      t.applyPendingHistoryClear.historyAlternateScreen = t.historyAlternateScreen := by
    intro t
    unfold applyPendingHistoryClear
    split
    · rfl
    · rfl
  unfold feedTerminalCharacter at alternate ⊢
  dsimp only at alternate ⊢
  generalize (emulator width).observe t.historyControlParser ch = observed at alternate ⊢
  have down : ∀ {flag : Bool}, flag = true → flag = t.historyAlternateScreen → False :=
    fun up same => nomatch up.symm.trans (same.trans primary)
  obtain ⟨parser, control⟩ := observed
  cases control with
  | none => exact (down alternate (applied _)).elim
  | some control =>
    cases control with
    | savedLines => exact (down alternate (applied _)).elim
    | ris => exact nomatch alternate
    | other => exact (down alternate (applied _)).elim
    | modes switch =>
      have switched : switch t.historyAlternateScreen = true := (applied _).symm.trans alternate
      have captured := refreshHistory_rows (t := { t with
        inputModes := (emulator width).feedModes t.inputModes ch
        historyControlParser := parser }) primary
      rw [refreshHistory_rows primary]
      show (applyPendingHistoryClear _).primaryHistoryRows = _
      rw [applyPendingHistoryClear_kept]
      · unfold switchModes
        dsimp only
        rw [if_pos (by rw [switched, primary]; rfl)]
        exact captured
      · unfold switchModes
        dsimp only
        rw [if_pos (by rw [switched, primary]; rfl)]
        have watched := refreshHistory_watched ({ t with
          inputModes := (emulator width).feedModes t.inputModes ch
          historyControlParser := parser } : TerminalState (emulator width))
        exact (congrArg Watched.historyClearPending watched).trans kept

/-- After every character of every output, the flag says which buffer of the emulator is active. So a
    capture takes the scrollback of the primary buffer while that one is active, and nothing from the
    emulator while the alternate one is; and a character that leaves the primary buffer captures it before. -/
theorem alternate_screen_agrees (width : Char → Option Nat) (setup : Setup) (ops : List Op)
    {text : Text} {t : TerminalState (emulator width)} (fed : Feeds (run (emulator width) setup ops) text t) :
    let screen : TerminalState (emulator width) → Avt.Terminal := fun t => t.watched.terminal.terminal
    (t.historyAlternateScreen = true ↔ (screen t).activeBufferType = .alternate) ∧
    ((screen t).activeBufferType = .primary → t.refreshHistory.primaryHistoryRows =
      t.primaryHistoryRows.replace (scrollbackRows (screen t).primaryBuffer t.terminalSize)) ∧
    ((screen t).activeBufferType = .alternate → ∀ vt : Vt, ({ t with terminal := vt }).refreshHistory =
      { t.refreshHistory with terminal := vt }) ∧
    ∀ ch, (screen t).activeBufferType = .primary →
      (screen (t.feedTerminalCharacter ch)).activeBufferType = .alternate →
      (t.feedTerminalCharacter ch).primaryHistoryRows = t.refreshHistory.primaryHistoryRows := by
  have agrees := fed.agrees (run_agrees width setup ops)
  have down : t.watched.terminal.terminal.activeBufferType = .primary → t.historyAlternateScreen = false := by
    intro primary
    rw [Bool.eq_false_iff]
    exact fun up => by cases (agrees.flag.1 up).symm.trans primary
  refine ⟨agrees.flag, fun primary => ?_, fun alternate => refreshHistory_blind (agrees.flag.2 alternate), ?_⟩
  · dsimp only at primary ⊢
    rw [refreshHistory_rows (down primary), Terminal.primaryBuffer, if_pos primary]
  · intro ch primary alternate
    have kept : t.historyClearPending = false := by
      rw [Bool.eq_false_iff]
      exact fun waits => by cases (agrees.pending waits).symm.trans (down primary)
    have next : (t.feedTerminalCharacter ch).watched.Agrees :=
      Feeds.agrees (.char (.nil _)) agrees
    exact feedTerminalCharacter_captures (down primary) kept (next.flag.2 alternate)

/-- Two modes that select the alternate buffer are set, and the first is about to be reset when the sequence
    is interrupted. -/
theorem alternate_screen_agrees_interrupted :
    let setup : Setup := ⟨⟨4, 2, 0, 0⟩, 64, 64, 32⟩
    let t := run (emulator fun _ => none) setup [.append "\x1b[?47;1049h\x1b[?47".toUTF8.toList]
    ∃ t', Feeds t ['\x18', 'l'] t' ∧ t'.historyAlternateScreen = true ∧
      (t'.historyAlternateScreen = true ↔
        t'.watched.terminal.terminal.activeBufferType = .alternate) :=
  ⟨_, .char (.char (.nil _)), by decide +kernel,
    (alternate_screen_agrees (fun _ => none) _ _ (.char (.char (.nil _)))).1⟩

end TerminalState

end Ctl.Daemon
