import Ctl.Proto.History
import Mathlib.Tactic.SplitIfs

/-!
# Input modes

Model of `TerminalInputModes` in `ctmux/core/src/mouse.rs`: an observer of terminal output that keeps the
modes for the mouse, for pasted text and for modified keys.
-/

namespace Ctl.Core
open Ctl.Proto (Text)

/-- Rust `MouseTracking`. -/
inductive MouseTracking
  | none | buttons | drag | any
  deriving DecidableEq

/-- Rust `ModifyOtherKeys`. -/
inductive ModifyOtherKeys
  | off | mode1 | mode2
  deriving DecidableEq

/-- Rust `ModifyOtherKeys::level`. -/
def ModifyOtherKeys.level : ModifyOtherKeys → Nat
  | .off => 0
  | .mode1 => 1
  | .mode2 => 2

/-- Rust `MouseModes`. -/
structure MouseModes where
  tracking : MouseTracking
  encodings : UInt8
  deriving DecidableEq

/-- `UTF8`. -/
def UTF8 : UInt8 := 1

/-- `SGR`. -/
def SGR : UInt8 := 2

/-- `URXVT`. -/
def URXVT : UInt8 := 4

/-- `SGR_PIXELS`. -/
def SGR_PIXELS : UInt8 := 8

/-- `MAX_CSI_PARAMETER_BYTES`. -/
def MAX_CSI_PARAMETER_BYTES : Nat := 64

/-- Rust `Control`. -/
inductive Control
  | ground
  | escape
  | csi (parameters : Text)
  | ignoreCsi
  | string (osc : Bool)
  deriving DecidableEq

structure Modes where
  mouse : MouseModes
  bracketedPaste : Bool
  modifyOtherKeys : ModifyOtherKeys
  deriving DecidableEq

def Modes.default : Modes := ⟨⟨.none, 0⟩, false, .off⟩

/-- Rust `TerminalInputModes`. -/
structure TerminalInputModes where
  modes : Modes
  control : Control

/-- Rust `TerminalInputModes::default`. -/
def TerminalInputModes.default : TerminalInputModes := ⟨.default, .ground⟩

/-! ### Parameters -/

/-- The number that digits stand for, after `value`. -/
def parseDigits : Nat → Text → Option Nat
  | value, [] => some value
  | value, c :: rest =>
    if c.isDigit ∧ value * 10 + (c.toNat - 48) < 65536 then
      parseDigits (value * 10 + (c.toNat - 48)) rest
    else none

/-- Rust `str::parse::<u16>`: there may be a plus sign in front of the digits. -/
def parseU16 (text : Text) : Option Nat :=
  match text with
  | [] => none
  | ['+'] => none
  | '+' :: digits => parseDigits 0 digits
  | digits => parseDigits 0 digits

namespace Modes

/-- Rust `encoding`. -/
def encoding (modes : Modes) (encoding : UInt8) (enabled : Bool) : Modes :=
  { modes with mouse := { modes.mouse with
      encodings := if enabled then modes.mouse.encodings ||| encoding
        else modes.mouse.encodings &&& ~~~encoding } }

/-- One private mode (the loop of `private_modes`). -/
def privateMode (enabled : Bool) (modes : Modes) (mode : Nat) : Modes :=
  match mode with
  | 1000 =>
    { modes with mouse := { modes.mouse with tracking := if enabled then .buttons else .none } }
  | 1002 => { modes with mouse := { modes.mouse with tracking := if enabled then .drag else .none } }
  | 1003 => { modes with mouse := { modes.mouse with tracking := if enabled then .any else .none } }
  | 1001 =>
    if enabled then modes else { modes with mouse := { modes.mouse with tracking := .none } }
  | 1005 => modes.encoding UTF8 enabled
  | 1006 => modes.encoding SGR enabled
  | 1015 => modes.encoding URXVT enabled
  | 1016 => modes.encoding SGR_PIXELS enabled
  | 2004 => { modes with bracketedPaste := enabled }
  | _ => modes

/-- Rust `private_modes`. -/
def privateModes (modes : Modes) (parameters : Text) (enabled : Bool) : Modes :=
  match parameters with
  | '?' :: parameters =>
    match (parameters.splitOn ';').mapM parseU16 with
    | some numbers => numbers.foldl (privateMode enabled) modes
    | none => modes
  | _ => modes

/-- Rust `keyboard_modes`. -/
def keyboardModes (modes : Modes) (parameters : Text) (finalByte : Char) : Modes :=
  match parameters with
  | '>' :: parameters =>
    if parameters = [] ∧ finalByte = 'm' then { modes with modifyOtherKeys := .off }
    else
      match parameters.splitOn ';' with
      | first :: levels =>
        if parseU16 first ≠ some 4 then modes
        else
          match finalByte, levels with
          | 'm', [] => { modes with modifyOtherKeys := .off }
          | 'm', [[]] => { modes with modifyOtherKeys := .off }
          | 'n', [] => { modes with modifyOtherKeys := .off }
          | 'm', [value] =>
            match parseU16 value with
            | some 0 => { modes with modifyOtherKeys := .off }
            | some 1 => { modes with modifyOtherKeys := .mode1 }
            | some 2 => { modes with modifyOtherKeys := .mode2 }
            | _ => modes
          | _, _ => modes
      | [] => modes
  | _ => modes

def finish (modes : Modes) (parameters : Text) (ch : Char) : Modes :=
  if ch = 'm' ∧ parameters = ['?', '4'] then modes
  else if ch = 'h' ∨ ch = 'l' then modes.privateModes parameters (ch = 'h')
  else if ch = 'm' ∨ ch = 'n' then modes.keyboardModes parameters ch
  else modes

end Modes

/-! ### The observer -/

/-- An ASCII control character (Rust `is_ascii_control`). -/
def isAsciiControl (ch : Char) : Bool := ch.toNat < 0x20 || ch.toNat = 0x7f

def isFinal (ch : Char) : Bool := (0x40 ≤ ch.toNat && ch.toNat ≤ 0x7e) || 0x9f < ch.toNat

def isParameter (ch : Char) : Bool := 0x20 ≤ ch.toNat && ch.toNat ≤ 0x3f

def cancels (ch : Char) : Bool :=
  let n := ch.toNat
  n = 0x18 || n = 0x1a || (0x80 ≤ n && n ≤ 0x8f) || (0x91 ≤ n && n ≤ 0x97) || n = 0x99 || n = 0x9a ||
    n = 0x9c

namespace TerminalInputModes

variable (t : TerminalInputModes) (ch : Char)

/-- Rust `feed`, for a character that no state treats in the same way. -/
def feedControl : TerminalInputModes :=
  match t.control with
  | .ground => t
  | .string osc => if osc && ch.toNat = 0x07 then { t with control := .ground } else t
  | .escape =>
    if ch = '[' then { t with control := .csi [] }
    else if ch = ']' then { t with control := .string true }
    else if ch = 'P' ∨ ch = 'X' ∨ ch = '^' ∨ ch = '_' then { t with control := .string false }
    else if ch = 'c' then .default
    else if isAsciiControl ch then t
    else { t with control := .ground }
  | .csi parameters =>
    if isFinal ch then ⟨t.modes.finish parameters ch, .ground⟩
    else if isAsciiControl ch then t
    else if isParameter ch ∧ parameters.length < MAX_CSI_PARAMETER_BYTES then
      { t with control := .csi (parameters ++ [ch]) }
    else { t with control := .ignoreCsi }
  | .ignoreCsi => if isFinal ch then { t with control := .ground } else t

/-- Rust `feed`; whether the application asks for the keyboard level is left out. -/
def feed : TerminalInputModes :=
  if cancels ch then { t with control := .ground }
  else if ch.toNat = 0x1b then { t with control := .escape }
  else if ch.toNat = 0x9b then { t with control := .csi [] }
  else if ch.toNat = 0x9d then { t with control := .string true }
  else if ch.toNat = 0x90 ∨ ch.toNat = 0x98 ∨ ch.toNat = 0x9e ∨ ch.toNat = 0x9f then
    { t with control := .string false }
  else t.feedControl ch

/-- The result of `feed`: the application asks for the keyboard level. -/
def queriesKeyboard : Bool :=
  ch = 'm' && t.control = .csi ['?', '4']

def numbers : List Nat :=
  (match t.modes.mouse.tracking with
    | .none => []
    | .buttons => [1000]
    | .drag => [1002]
    | .any => [1003]) ++
  (if t.modes.mouse.encodings &&& UTF8 ≠ 0 then [1005] else []) ++
  (if t.modes.mouse.encodings &&& SGR ≠ 0 then [1006] else []) ++
  (if t.modes.mouse.encodings &&& URXVT ≠ 0 then [1015] else []) ++
  (if t.modes.mouse.encodings &&& SGR_PIXELS ≠ 0 then [1016] else []) ++
  (if t.modes.bracketedPaste then [2004] else [])

/-- Rust `restore_sequences`. -/
def restoreSequences : Text :=
  if t.numbers = [] then []
  else "\x1b[?".toList ++ [';'].intercalate (t.numbers.map (Nat.toDigits 10)) ++ ['h']

/-- Rust `restore_keyboard_sequence`. -/
def restoreKeyboardSequence : Text :=
  "\x1b[>4;".toList ++ Nat.toDigits 10 t.modes.modifyOtherKeys.level ++ ['m']

end TerminalInputModes

/-! ### What the observer can be -/

def ENCODINGS : UInt8 := UTF8 ||| SGR ||| URXVT ||| SGR_PIXELS

def Modes.Known (modes : Modes) : Prop := modes.mouse.encodings &&& ~~~ENCODINGS = 0

lemma known_iff (e : UInt8) : e &&& ~~~ENCODINGS = 0 ↔ e ∈ (List.range 16).map UInt8.ofNat := by
  have all : ∀ n : Fin 256, UInt8.ofNat n.val &&& ~~~ENCODINGS = 0 ↔
      UInt8.ofNat n.val ∈ (List.range 16).map UInt8.ofNat := by decide +kernel
  have own := all ⟨e.toNat, e.toNat_lt⟩
  rwa [UInt8.ofNat_toNat] at own

variable {modes : Modes}

lemma Modes.Known.encoding (h : modes.Known) {bit : UInt8} (mem : bit ∈ [UTF8, SGR, URXVT, SGR_PIXELS])
    (enabled : Bool) : (modes.encoding bit enabled).Known := by
  have all : ∀ e ∈ (List.range 16).map UInt8.ofNat, ∀ bit ∈ [UTF8, SGR, URXVT, SGR_PIXELS],
      (e ||| bit) &&& ~~~ENCODINGS = 0 ∧ (e &&& ~~~bit) &&& ~~~ENCODINGS = 0 := by decide +kernel
  have both := all _ ((known_iff _).1 h) bit mem
  cases enabled with
  | true => exact both.1
  | false => exact both.2

lemma Modes.Known.privateMode (h : modes.Known) (enabled : Bool) (mode : Nat) :
    (Modes.privateMode enabled modes mode).Known := by
  unfold Modes.privateMode
  split
  case h_5 => exact h.encoding (by decide) enabled
  case h_6 => exact h.encoding (by decide) enabled
  case h_7 => exact h.encoding (by decide) enabled
  case h_8 => exact h.encoding (by decide) enabled
  case h_4 => cases enabled <;> exact h
  all_goals exact h

lemma Modes.Known.finish (h : modes.Known) (parameters : Text) (ch : Char) : (modes.finish parameters ch).Known := by
  have several : ∀ (numbers : List Nat) (enabled : Bool) (modes : Modes), modes.Known →
      (numbers.foldl (Modes.privateMode enabled) modes).Known := by
    intro numbers enabled
    induction numbers with
    | nil => exact fun _ h => h
    | cons n numbers ih => exact fun modes h => ih _ (h.privateMode enabled n)
  unfold Modes.finish
  split_ifs
  · exact h
  · unfold Modes.privateModes
    split
    · split
      · exact several _ _ _ h
      · exact h
    · exact h
  · unfold Modes.keyboardModes
    split
    · split_ifs
      · exact h
      · split
        · split_ifs
          · exact h
          · split
            · exact h
            · exact h
            · exact h
            · split <;> exact h
            · exact h
        · exact h
    · exact h
  · exact h

/-- An unfinished control sequence is short and has parameters only. -/
def Control.Bounded : Control → Prop
  | .csi parameters => parameters.length ≤ MAX_CSI_PARAMETER_BYTES ∧ ∀ ch ∈ parameters, isParameter ch
  | _ => True

lemma TerminalInputModes.feed_bounded {t : TerminalInputModes} (h : t.modes.Known ∧ t.control.Bounded)
    (ch : Char) : (t.feed ch).modes.Known ∧ (t.feed ch).control.Bounded := by
  obtain ⟨known, bounded⟩ := h
  have nothing : Control.Bounded (.csi []) := ⟨Nat.zero_le _, nofun⟩
  unfold TerminalInputModes.feed
  split_ifs
  · exact ⟨known, trivial⟩
  · exact ⟨known, trivial⟩
  · exact ⟨known, nothing⟩
  · exact ⟨known, trivial⟩
  · exact ⟨known, trivial⟩
  unfold TerminalInputModes.feedControl
  split
  · exact ⟨known, bounded⟩
  · split_ifs
    · exact ⟨known, trivial⟩
    · exact ⟨known, bounded⟩
  · split_ifs
    · exact ⟨known, nothing⟩
    · exact ⟨known, trivial⟩
    · exact ⟨known, trivial⟩
    · exact ⟨rfl, trivial⟩
    · exact ⟨known, bounded⟩
    · exact ⟨known, trivial⟩
  case h_4 parameters inside =>
    rw [inside] at bounded
    split_ifs with final inert room
    · exact ⟨known.finish parameters ch, trivial⟩
    · exact ⟨known, inside ▸ bounded⟩
    · refine ⟨known, ?_, ?_⟩
      · rw [List.length_append, List.length_singleton]
        exact room.2
      · intro c mem
        cases List.mem_append.1 mem with
        | inl before => exact bounded.2 c before
        | inr new => rw [List.mem_singleton.1 new]; exact room.1
    · exact ⟨known, trivial⟩
  · split_ifs
    · exact ⟨known, trivial⟩
    · exact ⟨known, bounded⟩

end Ctl.Core
