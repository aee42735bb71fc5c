import Ctl.Core.InputModes
import Ctl.Base.Utf8

/-!
# Alternate-screen hints

Model of `AlternateScreenTracker` in `ctmux/core/src/alternate_screen.rs`: an observer of raw terminal
output that keeps the private modes of the alternate screen and a hint for clients. `Consistent` is what
every byte and every reset keeps.
-/

namespace Ctl.Core
open Ctl.Base (fromUtf8)

/-- Rust `TuiHint`. -/
inductive TuiHint
  | unknown | inline | alternateScreen
  deriving DecidableEq

/-- `MAX_CSI_PREFIX_BYTES`. -/
def MAX_CSI_PREFIX_BYTES : Nat := 64

/-- Rust `CsiObserverState`. -/
inductive CsiObserverState
  | ground
  | escape
  | csi (bytes : List UInt8)
  deriving DecidableEq

/-- Rust `AlternateScreenTracker`. -/
structure AlternateScreenTracker where
  parser : CsiObserverState
  activeModes : UInt8
  tuiHint : TuiHint

/-- Rust `AlternateScreenTracker::default`. -/
def AlternateScreenTracker.default : AlternateScreenTracker := ⟨.ground, 0, .unknown⟩

/-! ### Control sequences -/

def isFinalByte (byte : UInt8) : Bool := 0x40 ≤ byte && byte ≤ 0x7e

def parameterOf (parameter : List UInt8) : Option Nat :=
  match fromUtf8 parameter.length parameter with
  | (text, _, .complete) => parseU16 text
  | _ => none

def alternateBit (parameter : Nat) : UInt8 :=
  match parameter with
  | 47 => 0b001
  | 1047 => 0b010
  | 1049 => 0b100
  | _ => 0

/-- Rust `alternate_screen_transition`; the sequence is given as its parameters and its last byte. -/
def alternateScreenTransition (parameters : List UInt8) (finalByte : UInt8) : Option (Bool × UInt8) :=
  if finalByte ≠ 0x68 ∧ finalByte ≠ 0x6c then none
  else
    match parameters with
    | 0x3f :: parameters =>
      let modes := ((parameters.splitOn 0x3b).filterMap parameterOf).foldl
        (fun modes parameter => modes ||| alternateBit parameter) 0
      if modes ≠ 0 then some (finalByte = 0x68, modes) else none
    | _ => none

/-- Rust `CsiObserver::feed`. -/
def CsiObserverState.feed (state : CsiObserverState) (byte : UInt8) : CsiObserverState × Option (Bool × UInt8) :=
  match state with
  | .ground => (if byte = 0x1b then .escape else .ground, none)
  | .escape =>
    (if byte = 0x5b then .csi [] else if byte = 0x1b then .escape else .ground, none)
  | .csi bytes =>
    if byte = 0x1b then (.escape, none)
    else if isFinalByte byte then (.ground, alternateScreenTransition bytes byte)
    else if (bytes ++ [byte]).length > MAX_CSI_PREFIX_BYTES then (.ground, none)
    else (.csi (bytes ++ [byte]), none)

namespace AlternateScreenTracker

/-- One byte (the loop of `observe`): the tracker and the next hint. -/
def observeByte (state : AlternateScreenTracker × TuiHint) (byte : UInt8) : AlternateScreenTracker × TuiHint :=
  let (t, nextHint) := state
  match t.parser.feed byte with
  | (parser, some (enable, modes)) =>
    let active := if enable then t.activeModes ||| modes else t.activeModes &&& ~~~modes
    ({ t with parser := parser, activeModes := active },
      if active = 0 then .inline else .alternateScreen)
  | (parser, none) => ({ t with parser := parser }, nextHint)

/-- Rust `observe`. -/
def observe (t : AlternateScreenTracker) (data : List UInt8) : AlternateScreenTracker × Option TuiHint :=
  if data = [] then (t, none)
  else
    let (t', nextHint) := data.foldl observeByte
      (t, if t.tuiHint = .unknown then .inline else t.tuiHint)
    if nextHint = t'.tuiHint then (t', none)
    else ({ t' with tuiHint := nextHint }, some nextHint)

/-- Rust `reset`. -/
def reset (t : AlternateScreenTracker) : AlternateScreenTracker × Option TuiHint :=
  ({ AlternateScreenTracker.default with tuiHint := .inline },
    if t.tuiHint ≠ .inline then some .inline else none)

end AlternateScreenTracker

/-! ### What the tracker can be -/

/-- An unfinished control sequence is short and has no byte that ends it. -/
def CsiObserverState.Bounded : CsiObserverState → Prop
  | .csi bytes => bytes.length ≤ MAX_CSI_PREFIX_BYTES ∧ ∀ byte ∈ bytes, byte ≠ 0x1b ∧ ¬ isFinalByte byte
  | _ => True

lemma CsiObserverState.feed_bounded {state : CsiObserverState} (h : state.Bounded) (byte : UInt8) :
    (state.feed byte).1.Bounded := by
  cases state with
  | ground =>
    rw [CsiObserverState.feed]
    split_ifs <;> exact trivial
  | escape =>
    rw [CsiObserverState.feed]
    split_ifs
    · exact ⟨Nat.zero_le _, nofun⟩
    · exact trivial
    · exact trivial
  | csi bytes =>
    rw [CsiObserverState.feed]
    split_ifs with escape final long
    · exact trivial
    · exact trivial
    · exact trivial
    · refine ⟨Nat.le_of_not_lt long, ?_⟩
      intro b mem
      cases List.mem_append.1 mem with
      | inl before => exact h.2 b before
      | inr new => rw [List.mem_singleton.1 new]; exact ⟨escape, final⟩

def ALTERNATE_MODES : UInt8 := 0x07

lemma alternate_iff (modes : UInt8) : modes &&& ~~~ALTERNATE_MODES = 0 ↔ modes ∈ (List.range 8).map UInt8.ofNat := by
  have all : ∀ n : Fin 256, UInt8.ofNat n.val &&& ~~~ALTERNATE_MODES = 0 ↔
      UInt8.ofNat n.val ∈ (List.range 8).map UInt8.ofNat := by decide +kernel
  have own := all ⟨modes.toNat, modes.toNat_lt⟩
  rwa [UInt8.ofNat_toNat] at own

lemma alternate_combine {left right : UInt8} (known : left &&& ~~~ALTERNATE_MODES = 0)
    (other : right &&& ~~~ALTERNATE_MODES = 0) :
    (left ||| right) &&& ~~~ALTERNATE_MODES = 0 ∧ (left &&& ~~~right) &&& ~~~ALTERNATE_MODES = 0 := by
  have all : ∀ l ∈ (List.range 8).map UInt8.ofNat, ∀ r ∈ (List.range 8).map UInt8.ofNat,
      (l ||| r) &&& ~~~ALTERNATE_MODES = 0 ∧ (l &&& ~~~r) &&& ~~~ALTERNATE_MODES = 0 := by decide +kernel
  exact all left ((alternate_iff left).1 known) right ((alternate_iff right).1 other)

lemma alternateBit_known (parameter : Nat) : alternateBit parameter &&& ~~~ALTERNATE_MODES = 0 := by
  unfold alternateBit
  split <;> rfl

lemma alternateScreenTransition_known {parameters : List UInt8} {finalByte modes : UInt8} {enable : Bool}
    (h : alternateScreenTransition parameters finalByte = some (enable, modes)) : modes &&& ~~~ALTERNATE_MODES = 0 := by
  have several : ∀ (numbers : List Nat) (modes : UInt8), modes &&& ~~~ALTERNATE_MODES = 0 →
      numbers.foldl (fun modes parameter => modes ||| alternateBit parameter) modes &&&
        ~~~ALTERNATE_MODES = 0 := by
    intro numbers
    induction numbers with
    | nil => exact fun _ known => known
    | cons n numbers ih =>
      exact fun modes known => ih _ (alternate_combine known (alternateBit_known n)).1
  unfold alternateScreenTransition at h
  split at h
  case isTrue => exact nomatch h
  case isFalse =>
    split at h
    case h_1 parameters =>
      dsimp only at h
      split at h
      case isTrue =>
        injection h with pair
        injection pair with _ same
        rw [← same]
        exact several _ 0 rfl
      case isFalse => exact nomatch h
    case h_2 => exact nomatch h

namespace AlternateScreenTracker

/-- The modes are known, they agree with the hint, and an unknown hint means that nothing was read. -/
structure Consistent (t : AlternateScreenTracker) : Prop where
  known : t.activeModes &&& ~~~ALTERNATE_MODES = 0
  hint : t.activeModes ≠ 0 ↔ t.tuiHint = .alternateScreen
  unread : t.tuiHint = .unknown → t.parser = .ground
  bounded : t.parser.Bounded

lemma default_consistent : AlternateScreenTracker.default.Consistent :=
  ⟨rfl, by decide, fun _ => rfl, trivial⟩

/-- What holds between the bytes of a run, where the next hint takes the place of the old one. -/
structure Between (state : AlternateScreenTracker × TuiHint) : Prop where
  known : state.1.activeModes &&& ~~~ALTERNATE_MODES = 0
  hint : state.1.activeModes ≠ 0 ↔ state.2 = .alternateScreen
  read : state.2 ≠ .unknown
  bounded : state.1.parser.Bounded

variable {state : AlternateScreenTracker × TuiHint}

lemma observeByte_between (h : Between state) (byte : UInt8) : Between (observeByte state byte) := by
  obtain ⟨⟨parser, active, old⟩, nextHint⟩ := state
  have bounded := parser.feed_bounded h.bounded byte
  -- Only a complete control sequence changes the modes.
  have transition : ∀ change, (parser.feed byte).2 = some change → change.2 &&& ~~~ALTERNATE_MODES = 0 := by
    intro change found
    unfold CsiObserverState.feed at found
    split at found
    case h_1 => exact nomatch found
    case h_2 => exact nomatch found
    case h_3 bytes =>
      split_ifs at found
      exact alternateScreenTransition_known found
  rw [observeByte]
  split
  case h_1 parser' enable modes fed =>
    dsimp only at fed
    rw [fed] at bounded transition
    have both := alternate_combine h.known (transition _ rfl)
    have kept : (if enable then active ||| modes else active &&& ~~~modes) &&& ~~~ALTERNATE_MODES = 0 := by
      cases enable with
      | true => exact both.1
      | false => exact both.2
    dsimp only
    generalize (if enable then active ||| modes else active &&& ~~~modes) = active' at kept
    refine ⟨kept, ?_, ?_, bounded⟩
    · dsimp only
      split
      case isTrue empty => exact ⟨fun some => (some empty).elim, nofun⟩
      case isFalse some => exact ⟨fun _ => rfl, fun _ => some⟩
    · dsimp only
      split
      case isTrue => exact nofun
      case isFalse => exact nofun
  case h_2 parser' fed =>
    dsimp only at fed
    rw [fed] at bounded
    exact ⟨h.known, h.hint, h.read, bounded⟩

lemma foldl_between (h : Between state) (data : List UInt8) : Between (data.foldl observeByte state) := by
  induction data generalizing state with
  | nil => exact h
  | cons byte data ih => exact ih (observeByte_between h byte)

theorem Consistent.observe {t : AlternateScreenTracker} (h : t.Consistent) (data : List UInt8) :
    (t.observe data).1.Consistent := by
  unfold AlternateScreenTracker.observe
  split
  case isTrue => exact h
  case isFalse =>
    have start : Between (t, if t.tuiHint = .unknown then .inline else t.tuiHint) := by
      refine ⟨h.known, ?_, ?_, h.bounded⟩
      · rw [h.hint]
        dsimp only
        split_ifs with unknown
        · rw [unknown]
          exact ⟨nofun, nofun⟩
        · exact Iff.rfl
      · dsimp only
        split_ifs with unknown
        · exact nofun
        · exact unknown
    have done := foldl_between start data
    dsimp only
    generalize data.foldl observeByte (t, if t.tuiHint = .unknown then .inline else t.tuiHint) = last at done
    split
    case isTrue same =>
      refine ⟨done.known, same ▸ done.hint, ?_, done.bounded⟩
      exact fun unknown => (done.read (same.trans unknown)).elim
    case isFalse => exact ⟨done.known, done.hint, fun unknown => (done.read unknown).elim, done.bounded⟩

lemma reset_consistent (t : AlternateScreenTracker) : t.reset.1.Consistent := by
  show Consistent ⟨.ground, 0, .inline⟩
  exact ⟨rfl, by decide, nofun, trivial⟩

end AlternateScreenTracker

end Ctl.Core
