import Ctl.Avt.Vt
import Ctl.Core.InputModes
import Ctl.Daemon.TerminalState

/-!
# The emulator of the daemon

The emulator that a terminal of the daemon runs on, as `ctmux/daemon/src/session.rs` builds it, the observing
parser beside it, and the observer of the input modes. The display width of a character is a parameter.
-/

namespace Ctl.Daemon
open Ctl.Proto Ctl.Avt Ctl.Core

variable (width : Char → Option Nat)

/-- Whether the alternate buffer is active once a function was executed, from whether it was before: the
    `probe` of `feed_terminal_character`. -/
def probe (function : Function) (alternate : Bool) : Bool :=
  let probe := Terminal.new 2 1 (some 0)
  let probe := if alternate then probe.execute width (.decset [.altScreenBuffer]) else probe
  (probe.execute width function).activeBufferType = .alternate

def historyControl : Function → HistoryControl
  | .decset modes => .modes (probe width (.decset modes))
  | .decrst modes => .modes (probe width (.decrst modes))
  | .ed .savedLines => .savedLines
  | .ris => .ris
  | _ => .other

def observe (parser : Parser) (ch : Char) : Parser × Option HistoryControl :=
  let (parser, function) := parser.feed ch
  (parser, function.map (historyControl width))

/-- A new emulator (Rust `terminal_emulator`). -/
def terminalEmulator (size : TerminalSize) : Vt :=
  .build size.columns.toNat size.rows.toNat (some (terminalScrollbackRows size)) false

def emulator : Emulator where
  Vt := Vt
  terminalEmulator := terminalEmulator
  feed := Vt.feed width
  feedStr := Vt.feedStr width
  resize := Vt.resize
  dump := Vt.dump
  lines := Vt.lines
  Parser := Parser
  parser := .new
  observe := observe width
  InputModes := TerminalInputModes
  inputModes := .default
  feedModes := TerminalInputModes.feed
  restoreKeyboardSequence := TerminalInputModes.restoreKeyboardSequence
  restoreSequences := TerminalInputModes.restoreSequences

end Ctl.Daemon
