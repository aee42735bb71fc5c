import Ctl.Base.Reading
import Ctl.Base.Utf8Text
import Ctl.Core.InputModes

/-!
# Shell reports

Model of `parse_report` and `RecordParser` in `ctmux/daemon/src/shell_reporter.rs`. A shell writes its reports as
records of nine fields, each with a NUL behind it. A record with a field or a sum of fields that is too long is
dropped; the parser counts the delimiters that are still to come, so that the next record begins in step.

The file that the bytes come from and the rate at which reports are delivered are not modelled.
-/

namespace Ctl.Daemon
open Ctl.Base Ctl.Proto Ctl.Core

inductive ShellType where
  | bash
  | fish
  | pwsh
  | zsh
  | cmd
  | sh
  | unknown
  deriving DecidableEq

structure ShellCapabilities where
  reportsCwd : Bool
  reportsCommandLine : Bool
  reportsCursor : Bool
  reportsPromptPhase : Bool
  reportsRunningCommand : Bool
  deriving DecidableEq

structure ShellDescriptor where
  shellType : ShellType
  integrationVersion : Option Nat
  capabilities : ShellCapabilities
  deriving DecidableEq

inductive PromptPhase where
  | unknown
  | atPrompt
  | editing
  | running
  deriving DecidableEq

structure CommandLine where
  text : Text
  cursorScalarOffset : Option Nat
  deriving DecidableEq

structure ShellReport where
  shell : ShellDescriptor
  cwd : Option Text
  promptPhase : PromptPhase
  currentCommandLine : Option CommandLine
  runningCommand : Option Text

/-- `REPORT_FIELD_COUNT`. -/
def reportFieldCount : Nat := 9

/-- `MAX_FIELD_BYTES`. -/
def maxFieldBytes : Nat := 4 * 1024

/-- `MAX_RECORD_BYTES`. -/
def maxRecordBytes : Nat := 16 * 1024

/-- `MAX_COMMAND_LINE_BYTES`. -/
def maxCommandLineBytes : Nat := 4 * 1024

/-- `MAX_RUNNING_COMMAND_BYTES`. -/
def maxRunningCommandBytes : Nat := 256

/-! ### Fields -/

/-- Rust `has_valid_cursor`. -/
def CommandLine.hasValidCursor (line : CommandLine) : Bool :=
  match line.cursorScalarOffset with
  | none => true
  | some offset => offset ≤ line.text.length

/-- Rust `is_valid_running_command`. -/
def isValidRunningCommand (command : Text) : Bool :=
  !command.isEmpty && utf8Len command ≤ maxRunningCommandBytes && !command.any isControl

/-- Rust `str::parse::<u32>`. -/
def parseU32 (text : Text) : Option Nat := parseNat (2 ^ 32) text

/-- The number of a field that may be empty, or nothing if it is no number (Rust `parse_optional_u16` and
    `parse_optional_u32`). -/
def parseOptional (parse : Text → Option Nat) (value : Text) : Option (Option Nat) :=
  if value.isEmpty then some none else (parse value).map some

variable (activeTextPresent activeText cursorScalarOffset value : Text)

/-- Rust `parse_shell_type`. -/
def parseShellType : Option ShellType :=
  if value = "bash".toList then some .bash
  else if value = "fish".toList then some .fish
  else if value = "pwsh".toList then some .pwsh
  else if value = "zsh".toList then some .zsh
  else if value = "cmd".toList then some .cmd
  else if value = "sh".toList then some .sh
  else if value = "unknown".toList then some .unknown
  else none

/-- Add one capability, unless it is there already (the loop of `parse_capabilities`). -/
def addCapability (capabilities : ShellCapabilities) (name : Text) : Option ShellCapabilities :=
  if name = "cwd".toList then
    if capabilities.reportsCwd then none else some { capabilities with reportsCwd := true }
  else if name = "command_line".toList then
    if capabilities.reportsCommandLine then none else some { capabilities with reportsCommandLine := true }
  else if name = "cursor".toList then
    if capabilities.reportsCursor then none else some { capabilities with reportsCursor := true }
  else if name = "prompt_phase".toList then
    if capabilities.reportsPromptPhase then none else some { capabilities with reportsPromptPhase := true }
  else if name = "running_command".toList then
    if capabilities.reportsRunningCommand then none else some { capabilities with reportsRunningCommand := true }
  else none

/-- Rust `parse_capabilities`. -/
def parseCapabilities : Option ShellCapabilities :=
  if value.isEmpty then some ⟨false, false, false, false, false⟩
  else (value.splitOn ',').foldlM addCapability ⟨false, false, false, false, false⟩

/-- Rust `parse_prompt_phase`. -/
def parsePromptPhase : Option PromptPhase :=
  if value = "unknown".toList then some .unknown
  else if value = "at_prompt".toList then some .atPrompt
  else if value = "editing".toList then some .editing
  else if value = "running".toList then some .running
  else none

/-- Rust `parse_optional_text`. -/
def parseOptionalText : Option Text := if value.isEmpty then none else some value

/-- Rust `parse_absent_active_text`. -/
def parseAbsentActiveText : Bool :=
  activeTextPresent = ['0'] && activeText.isEmpty && cursorScalarOffset.isEmpty

/-- The command line, or nothing for a record that is wrong (Rust `parse_command_line` with `into_option`). -/
def parseCommandLine : Option (Option CommandLine) :=
  if activeTextPresent = ['0'] then
    if parseAbsentActiveText activeTextPresent activeText cursorScalarOffset then some none else none
  else if activeTextPresent = ['1'] then
    if maxCommandLineBytes < utf8Len activeText then none
    else do
      let cursorScalarOffset ← parseOptional parseU32 cursorScalarOffset
      let commandLine : CommandLine := ⟨activeText, cursorScalarOffset⟩
      if commandLine.hasValidCursor then some (some commandLine) else none
  else none

/-- The running command, or nothing for a record that is wrong (Rust `parse_running_command` with
    `into_option`). -/
def parseRunningCommand : Option (Option Text) :=
  if activeTextPresent = ['0'] then
    if parseAbsentActiveText activeTextPresent activeText cursorScalarOffset then some none else none
  else if activeTextPresent = ['1'] ∧ cursorScalarOffset.isEmpty then
    -- An invalid preview is left out, but the phase is still reported.
    some (if isValidRunningCommand activeText then some activeText else none)
  else none

/-- Whether the record is of version 2 (Rust `ShellReportFormat`). -/
def parseFormat (magic : Text) : Option Bool :=
  if magic = "ctmux-shell-v1".toList then some false
  else if magic = "ctmux-shell-v2".toList then some true
  else none

/-- Rust `parse_report`. -/
def parseReport (fields : List (List UInt8)) : Option ShellReport :=
  match fields with
  | [magic, shellType, integrationVersion, capabilities, cwd, promptPhase, activeTextPresent, activeText,
      cursorScalarOffset] => do
    let version2 ← parseFormat (← textOf magic)
    let shellType ← parseShellType (← textOf shellType)
    let integrationVersion ← parseOptional parseU16 (← textOf integrationVersion)
    let capabilities ← parseCapabilities (← textOf capabilities)
    let cwd := parseOptionalText (← textOf cwd)
    let promptPhase ← parsePromptPhase (← textOf promptPhase)
    let activeTextPresent ← textOf activeTextPresent
    let activeText ← textOf activeText
    let cursorScalarOffset ← textOf cursorScalarOffset
    let (currentCommandLine, runningCommand) ←
      if !version2 || promptPhase = .atPrompt || promptPhase = .editing then
        (parseCommandLine activeTextPresent activeText cursorScalarOffset).map fun line => (line, none)
      else if promptPhase = .running then
        (parseRunningCommand activeTextPresent activeText cursorScalarOffset).map fun command => (none, command)
      else if parseAbsentActiveText activeTextPresent activeText cursorScalarOffset then some (none, none)
      else none
    if cwd.isSome ∧ capabilities.reportsCwd = false ∨
        currentCommandLine.isSome ∧ capabilities.reportsCommandLine = false ∨
        (currentCommandLine.any fun line => line.cursorScalarOffset.isSome) ∧ capabilities.reportsCursor = false ∨
        version2 ∧ promptPhase = .running ∧ activeTextPresent = ['1'] ∧
          capabilities.reportsRunningCommand = false ∨
        promptPhase ≠ .unknown ∧ capabilities.reportsPromptPhase = false then none
    else some ⟨⟨shellType, integrationVersion, capabilities⟩, cwd, promptPhase, currentCommandLine, runningCommand⟩
  | _ => none

/-! ### The record parser -/

structure RecordParser where
  fields : List (List UInt8)
  field : List UInt8
  recordBytes : Nat
  discardDelimitersRemaining : Option Nat

namespace RecordParser

/-- Rust `RecordParser::default`. -/
def default : RecordParser := ⟨[], [], 0, none⟩

variable (p : RecordParser)

/-- Rust `complete_field`. -/
def completeField : RecordParser × Option ShellReport :=
  let fields := p.fields ++ [p.field]
  if fields.length ≠ reportFieldCount then ({ p with fields, field := [] }, none)
  else ({ p with fields := [], field := [], recordBytes := 0 }, parseReport fields)

/-- Rust `discard_record`. -/
def discardRecord : RecordParser :=
  ⟨[], [], 0, some (reportFieldCount - p.fields.length)⟩

/-- Rust `discard_byte`, with `remaining` delimiters to come. -/
def discardByte (remaining : Nat) (byte : UInt8) : RecordParser :=
  if byte ≠ 0 then p
  else if remaining ≤ 1 then { p with discardDelimitersRemaining := none }
  else { p with discardDelimitersRemaining := some (remaining - 1) }

/-- One byte of `push`, and the report that it completes. -/
def pushByte (byte : UInt8) : RecordParser × Option ShellReport :=
  match p.discardDelimitersRemaining with
  | some remaining => (p.discardByte remaining byte, none)
  | none =>
    if byte = 0 then p.completeField
    else if maxFieldBytes ≤ p.field.length ∨ maxRecordBytes ≤ p.recordBytes then (p.discardRecord, none)
    else ({ p with field := p.field ++ [byte], recordBytes := p.recordBytes + 1 }, none)

/-- The parser after some bytes, and the reports in them (Rust `push`). -/
def push (p : RecordParser) : List UInt8 → RecordParser × List ShellReport
  | [] => (p, [])
  | byte :: bytes =>
    let (q, report) := p.pushByte byte
    let (r, reports) := q.push bytes
    (r, report.toList ++ reports)

/-- The parser after several calls of `push`, and the reports of all of them. -/
def pushes (p : RecordParser) : List (List UInt8) → RecordParser × List ShellReport
  | [] => (p, [])
  | bytes :: more =>
    let (q, reports) := p.push bytes
    let (r, others) := q.pushes more
    (r, reports ++ others)

def buffered : Nat := (p.fields.map List.length).sum + p.field.length

end RecordParser

end Ctl.Daemon
