import Ctl.Base.Observer
import Ctl.Base.Guards
import Ctl.Core.AlternateScreen
import Mathlib.Data.FinEnum

/-!
# Checkpoints of the observers

Model of `ctmux/core/src/mouse/state.rs` and `ctmux/core/src/alternate_screen/state.rs`. The imports
admit exactly the states that their observers can be in (`TerminalInputModes.fromState_eq_ok`,
`AlternateScreenTracker.fromState_eq_ok`), so that both are instances of `Base.Checkpoint`.
-/

namespace Ctl.Core
open Ctl.Proto (Text)

/-- Rust `ObserverStateError`. -/
inductive ObserverStateError
  | unsupportedVersion (component : String) (version : UInt32)
  | invalidState (reason : String)

/-- Rust `validate_version`. -/
def validateVersion (component : String) (actual expected : UInt32) : Except ObserverStateError Unit :=
  if actual = expected then .ok () else .error (.unsupportedVersion component actual)

lemma validateVersion_eq_ok {component : String} {actual expected : UInt32} :
    validateVersion component actual expected = .ok () ↔ actual = expected := by
  unfold validateVersion
  split
  case isTrue same => exact ⟨fun _ => same, fun _ => rfl⟩
  case isFalse other => exact ⟨nofun, fun same => (other same).elim⟩

/-! ### Input modes -/

/-- `INPUT_MODES_STATE_VERSION`. -/
def INPUT_MODES_STATE_VERSION : UInt32 := 1

/-- Rust `TerminalInputModesState`. -/
structure TerminalInputModesState where
  version : UInt32
  mouseTracking : MouseTracking
  mouseEncodings : UInt8
  bracketedPaste : Bool
  modifyOtherKeys : ModifyOtherKeys
  control : Control

def utf8 (text : Text) : List UInt8 := text.flatMap String.utf8EncodeChar

/-- Rust `TerminalInputModesState::validate`. -/
def TerminalInputModesState.validate (state : TerminalInputModesState) : Except ObserverStateError Unit := do
  validateVersion "input modes" state.version INPUT_MODES_STATE_VERSION
  if state.mouseEncodings &&& ~~~(UTF8 ||| SGR ||| URXVT ||| SGR_PIXELS) ≠ 0 then
    throw (.invalidState "unknown mouse encoding bits")
  match state.control with
  | .csi parameters =>
    if (utf8 parameters).length > MAX_CSI_PARAMETER_BYTES ∨
        ¬ ∀ byte ∈ utf8 parameters, 0x20 ≤ byte ∧ byte ≤ 0x3f then
      throw (.invalidState "input mode CSI prefix")
    else pure ()
  | _ => pure ()

namespace TerminalInputModes

/-- Rust `export_state`. -/
def exportState (t : TerminalInputModes) : TerminalInputModesState where
  version := INPUT_MODES_STATE_VERSION
  mouseTracking := t.modes.mouse.tracking
  mouseEncodings := t.modes.mouse.encodings
  bracketedPaste := t.modes.bracketedPaste
  modifyOtherKeys := t.modes.modifyOtherKeys
  control := t.control

/-- Rust `from_state`. -/
def fromState (state : TerminalInputModesState) : Except ObserverStateError TerminalInputModes := do
  state.validate
  pure ⟨⟨⟨state.mouseTracking, state.mouseEncodings⟩, state.bracketedPaste, state.modifyOtherKeys⟩,
    state.control⟩

end TerminalInputModes

/-! ### Parameters and their bytes -/

def Inside (byte : UInt8) : Prop := 0x20 ≤ byte ∧ byte ≤ 0x3f

lemma inside_iff {n : Nat} (small : n < 256) : Inside (UInt8.ofNat n) ↔ 0x20 ≤ n ∧ n ≤ 0x3f := by
  rw [Inside, UInt8.le_iff_toNat_le, UInt8.le_iff_toNat_le, UInt8.toNat_ofNat', Nat.mod_eq_of_lt small]
  exact Iff.rfl

lemma utf8EncodeChar_inside (ch : Char) : (∀ byte ∈ String.utf8EncodeChar ch, Inside byte) ↔ isParameter ch := by
  have numbers : isParameter ch ↔ 0x20 ≤ ch.val.toNat ∧ ch.val.toNat ≤ 0x3f := by
    rw [isParameter, Bool.and_eq_true, decide_eq_true_eq, decide_eq_true_eq]
    exact Iff.rfl
  rw [numbers]
  -- The first byte of a longer encoding is too large.
  have large : ∀ {n : Nat} {bytes : List UInt8}, 0xc0 ≤ n → n < 256 → 0x7f < ch.val.toNat →
      ((∀ byte ∈ UInt8.ofNat n :: bytes, Inside byte) ↔ 0x20 ≤ ch.val.toNat ∧ ch.val.toNat ≤ 0x3f) := by
    intro n bytes lower upper long
    constructor
    · intro all
      have first := (inside_iff upper).1 (all _ List.mem_cons_self)
      omega
    · intro short
      omega
  unfold String.utf8EncodeChar
  dsimp only
  split_ifs with one two three
  · rw [List.forall_mem_singleton]
    exact inside_iff (by omega)
  · exact large (by omega) (by omega) (by omega)
  · exact large (by omega) (by omega) (by omega)
  · exact large (by omega) (by omega) (by omega)

lemma utf8_inside (text : Text) : (∀ byte ∈ utf8 text, Inside byte) ↔ ∀ ch ∈ text, isParameter ch := by
  constructor
  · intro all ch mem
    exact (utf8EncodeChar_inside ch).1 fun byte of => all byte (List.mem_flatMap.2 ⟨ch, mem, of⟩)
  · intro all byte mem
    obtain ⟨ch, listed, of⟩ := List.mem_flatMap.1 mem
    exact (utf8EncodeChar_inside ch).2 (all ch listed) byte of

lemma utf8_length {text : Text} (h : ∀ ch ∈ text, isParameter ch) : (utf8 text).length = text.length := by
  induction text with
  | nil => rfl
  | cons ch text ih =>
    have own := h ch List.mem_cons_self
    rw [isParameter, Bool.and_eq_true, decide_eq_true_eq, decide_eq_true_eq] at own
    have small : ch.val.toNat ≤ 0x7f := Nat.le_trans own.2 (by decide)
    have one : (String.utf8EncodeChar ch).length = 1 := by
      unfold String.utf8EncodeChar
      dsimp only
      rw [if_pos small]
      rfl
    rw [utf8, List.flatMap_cons, List.length_append, one, List.length_cons, Nat.add_comm 1]
    exact congrArg (· + 1) (ih fun c mem => h c (List.mem_cons_of_mem ch mem))

namespace TerminalInputModes

/-- Known modes, and an unfinished control sequence within its bounds. -/
def Admitted (t : TerminalInputModes) : Prop := t.modes.Known ∧ t.control.Bounded

variable {state : TerminalInputModesState}

lemma validate_eq_ok :
    state.validate = .ok () ↔ state.version = INPUT_MODES_STATE_VERSION ∧
      state.mouseEncodings &&& ~~~ENCODINGS = 0 ∧ state.control.Bounded := by
  rw [TerminalInputModesState.validate, Base.check_eq_ok, validateVersion_eq_ok, Base.guard_eq_ok, not_not]
  refine and_congr_right fun _ => and_congr_right fun _ => ?_
  split
  case h_1 parameters control =>
    have bounded : state.control.Bounded ↔
        (utf8 parameters).length ≤ MAX_CSI_PARAMETER_BYTES ∧ ∀ byte ∈ utf8 parameters, Inside byte := by
      rw [control, utf8_inside]
      constructor
      · exact fun h => ⟨Nat.le_trans (Nat.le_of_eq (utf8_length h.2)) h.1, h.2⟩
      · exact fun h => ⟨Nat.le_trans (Nat.le_of_eq (utf8_length h.2).symm) h.1, h.2⟩
    rw [bounded]
    split
    case isTrue outside =>
      refine ⟨nofun, fun inside => ?_⟩
      cases outside with
      | inl long => exact absurd inside.1 (Nat.not_le_of_lt long)
      | inr other => exact absurd inside.2 other
    case isFalse inside =>
      rw [not_or, not_not] at inside
      exact ⟨fun _ => ⟨Nat.le_of_not_lt inside.1, inside.2⟩, fun _ => rfl⟩
  case h_2 none =>
    refine ⟨fun _ => ?_, fun _ => rfl⟩
    cases control : state.control with
    | csi parameters => exact (none parameters control).elim
    | _ => exact trivial

theorem fromState_eq_ok {t : TerminalInputModes} : fromState state = .ok t ↔ t.Admitted ∧ state = t.exportState := by
  rw [fromState, Base.check_eq_ok, Base.pure_eq_ok, validate_eq_ok]
  constructor
  · rintro ⟨⟨version, known, bounded⟩, rfl⟩
    refine ⟨⟨known, bounded⟩, ?_⟩
    rw [exportState, ← version]
  · rintro ⟨⟨known, bounded⟩, rfl⟩
    exact ⟨⟨rfl, known, bounded⟩, rfl⟩

def checkpoint : Base.Checkpoint TerminalInputModes TerminalInputModesState ObserverStateError where
  exportState := exportState
  fromState := fromState
  Admitted := Admitted
  restores _ h := fromState_eq_ok.2 ⟨h, rfl⟩

def step (t : TerminalInputModes) (ch : Char) : TerminalInputModes × Bool := (t.feed ch, t.queriesKeyboard ch)

end TerminalInputModes

/-! ### The alternate screen -/

/-- `ALTERNATE_SCREEN_STATE_VERSION`. -/
def ALTERNATE_SCREEN_STATE_VERSION : UInt32 := 1

/-- Rust `AlternateScreenState`. -/
structure AlternateScreenState where
  version : UInt32
  parser : CsiObserverState
  activeModes : UInt8
  tuiHint : TuiHint

/-- Rust `AlternateScreenState::validate`. -/
def AlternateScreenState.validate (state : AlternateScreenState) : Except ObserverStateError Unit := do
  validateVersion "alternate screen" state.version ALTERNATE_SCREEN_STATE_VERSION
  if state.activeModes &&& ~~~0x07 ≠ 0 then
    throw (.invalidState "unknown alternate-screen mode bits")
  if decide (state.activeModes ≠ 0) ≠ decide (state.tuiHint = .alternateScreen) then
    throw (.invalidState "inconsistent alternate-screen hint")
  if state.tuiHint = .unknown ∧ state.parser ≠ .ground then
    throw (.invalidState "unknown hint with consumed control bytes")
  match state.parser with
  | .csi bytes =>
    if bytes.length > MAX_CSI_PREFIX_BYTES ∨ bytes.any fun byte => byte = 0x1b ∨ isFinalByte byte then
      throw (.invalidState "alternate-screen CSI prefix")
    else pure ()
  | _ => pure ()

namespace AlternateScreenTracker

variable (t : AlternateScreenTracker) {state : AlternateScreenState}

/-- Rust `export_state`. -/
def exportState : AlternateScreenState where
  version := ALTERNATE_SCREEN_STATE_VERSION
  parser := t.parser
  activeModes := t.activeModes
  tuiHint := t.tuiHint

/-- Rust `from_state`. -/
def fromState (state : AlternateScreenState) : Except ObserverStateError AlternateScreenTracker := do
  state.validate
  pure ⟨state.parser, state.activeModes, state.tuiHint⟩

lemma validate_eq_ok :
    state.validate = .ok () ↔ state.version = ALTERNATE_SCREEN_STATE_VERSION ∧
      Consistent ⟨state.parser, state.activeModes, state.tuiHint⟩ := by
  have fields : Consistent ⟨state.parser, state.activeModes, state.tuiHint⟩ ↔
      state.activeModes &&& ~~~0x07 = 0 ∧ (state.activeModes ≠ 0 ↔ state.tuiHint = .alternateScreen) ∧
        (state.tuiHint = .unknown → state.parser = .ground) ∧ state.parser.Bounded :=
    ⟨fun h => ⟨h.known, h.hint, h.unread, h.bounded⟩, fun h => ⟨h.1, h.2.1, h.2.2.1, h.2.2.2⟩⟩
  rw [AlternateScreenState.validate, Base.check_eq_ok, validateVersion_eq_ok, Base.guard_eq_ok, not_not, Base.guard_eq_ok,
    not_not, decide_eq_decide, Base.guard_eq_ok, not_and, not_not, fields]
  refine and_congr_right fun _ => and_congr_right fun _ => and_congr_right fun _ => and_congr_right fun _ => ?_
  cases state.parser with
  | ground => exact ⟨fun _ => trivial, fun _ => rfl⟩
  | escape => exact ⟨fun _ => trivial, fun _ => rfl⟩
  | csi bytes =>
    dsimp only
    split
    case isTrue outside =>
      refine ⟨nofun, fun inside => ?_⟩
      cases outside with
      | inl long => exact absurd inside.1 (Nat.not_le_of_lt long)
      | inr some =>
        obtain ⟨byte, mem, ends⟩ := List.any_eq_true.1 some
        cases of_decide_eq_true ends with
        | inl escape => exact absurd escape (inside.2 byte mem).1
        | inr final => exact absurd final (inside.2 byte mem).2
    case isFalse inside =>
      rw [not_or] at inside
      refine ⟨fun _ => ⟨Nat.le_of_not_lt inside.1, fun byte mem => ?_⟩, fun _ => rfl⟩
      exact not_or.1 fun ends => inside.2 (List.any_eq_true.2 ⟨byte, mem, decide_eq_true ends⟩)

theorem fromState_eq_ok {t : AlternateScreenTracker} :
    fromState state = .ok t ↔ t.Consistent ∧ state = t.exportState := by
  rw [fromState, Base.check_eq_ok, Base.pure_eq_ok, validate_eq_ok]
  constructor
  · rintro ⟨⟨version, consistent⟩, rfl⟩
    refine ⟨consistent, ?_⟩
    rw [exportState, ← version]
  · rintro ⟨consistent, rfl⟩
    exact ⟨⟨rfl, consistent⟩, rfl⟩

def checkpoint : Base.Checkpoint AlternateScreenTracker AlternateScreenState ObserverStateError where
  exportState := exportState
  fromState := fromState
  Admitted := Consistent
  restores _ h := fromState_eq_ok.2 ⟨h, rfl⟩

/-- What a tracker is given: output, or a reset of its terminal. -/
inductive Input
  | output (data : List UInt8)
  | reset

def step : Input → AlternateScreenTracker × Option TuiHint
  | .output data => t.observe data
  | .reset => t.reset

lemma step_consistent (input : Input) (h : t.Consistent) : (t.step input).1.Consistent := by
  cases input with
  | output data => exact h.observe data
  | reset => exact t.reset_consistent

end AlternateScreenTracker

/-! ### Exact checkpoints -/

/-- After every text and after all output and resets, the import of what is exported succeeds with the same
    observer, and behind every continuation it is in the same state with the same answers. -/
theorem observers_restored :
    (∀ text more : Text,
      let t := (Base.observe TerminalInputModes.step .default text).1
      ∃ restored, TerminalInputModes.fromState t.exportState = .ok restored ∧ restored = t ∧
        Base.observe TerminalInputModes.step restored more = Base.observe TerminalInputModes.step t more) ∧
    ∀ inputs more : List AlternateScreenTracker.Input,
      let t := (Base.observe AlternateScreenTracker.step .default inputs).1
      ∃ restored, AlternateScreenTracker.fromState t.exportState = .ok restored ∧ restored = t ∧
        Base.observe AlternateScreenTracker.step restored more =
          Base.observe AlternateScreenTracker.step t more := by
  constructor
  · intro text more t
    have start : TerminalInputModes.checkpoint.Admitted .default := ⟨rfl, trivial⟩
    have keeps : ∀ s ch, TerminalInputModes.checkpoint.Admitted s →
        TerminalInputModes.checkpoint.Admitted (TerminalInputModes.step s ch).1 :=
      fun s ch h => TerminalInputModes.feed_bounded h ch
    obtain ⟨restored, imported, same, _⟩ :=
      TerminalInputModes.checkpoint.exact_of_run keeps start text more
    exact ⟨restored, imported, same, by rw [same]⟩
  · intro inputs more t
    obtain ⟨restored, imported, same, _⟩ := AlternateScreenTracker.checkpoint.exact_of_run
      AlternateScreenTracker.step_consistent AlternateScreenTracker.default_consistent inputs more
    exact ⟨restored, imported, same, by rw [same]⟩

end Ctl.Core
