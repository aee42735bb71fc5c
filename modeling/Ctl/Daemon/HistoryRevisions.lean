import Ctl.Base.System
import Ctl.Daemon.TerminalState
import Ctl.Proto.LogicalLines

/-!
# Revisions of the terminal history

Runs of replacements and clears of a `TerminalHistory`, as they follow each other under the terminal lock. The
history keeps the newest lines of the last replacement that fit. Clients poll its generation and its revision:
two states of a run with the same revision have the same lines (`history_revisions`).
-/

namespace Ctl.Daemon
open Ctl.Base Ctl.Proto

/-- A history, and the lines that it was last given in its generation. -/
structure HistoryWorld where
  history : TerminalHistory
  given : List Text

inductive HistoryAction where
  | replace (lines : List Text) (sourceTruncated : Bool)
  | clear

/-- A counter that is advanced with `checked_add` can be advanced. -/
def Advances (count next : Nat) : Prop := next = count ∨ count + 1 < 2 ^ 64

instance (count next : Nat) : Decidable (Advances count next) := inferInstanceAs (Decidable (_ ∨ _))

namespace HistoryWorld

def initial (capacityBytes : Nat) : HistoryWorld := ⟨.new capacityBytes, []⟩

def perform (w : HistoryWorld) : HistoryAction → HistoryWorld
  | .replace lines sourceTruncated => ⟨w.history.replace lines sourceTruncated, lines⟩
  | .clear => ⟨w.history.clear, []⟩

def step (w : HistoryWorld) (action : HistoryAction) : Option HistoryWorld :=
  let next := w.perform action
  if Advances w.history.generation next.history.generation ∧ Advances w.history.revision next.history.revision then
    some next
  else none

end HistoryWorld

/-! ### One call -/

lemma trimLines_newest (capacity : Nat) (lines : List Text) :
    Newest lineWeight capacity lines (trimLines capacity lines (lineBytes lines)).1 ∧
      (trimLines capacity lines (lineBytes lines)).2.1 = lineBytes (trimLines capacity lines (lineBytes lines)).1 ∧
      (trimLines capacity lines (lineBytes lines)).2.2 = decide (capacity < lineBytes lines) := by
  induction lines with
  | nil => exact ⟨.whole (Nat.zero_le _), rfl, rfl⟩
  | cons old lines ih =>
    rw [trimLines]
    split
    case isTrue fits =>
      exact ⟨.whole fits, rfl, (decide_eq_false (Nat.not_lt.2 fits)).symm⟩
    case isFalse heavy =>
      have less : capacity < lineBytes (old :: lines) := Nat.lt_of_not_le heavy
      have rest : lineBytes (old :: lines) - (utf8Len old + 1) = lineBytes lines := by
        show weigh lineWeight (old :: lines) - _ = _
        rw [weigh_cons]
        exact Nat.add_sub_cancel_left _ _
      rw [rest]
      exact ⟨.drop less ih.1, ih.2.1, (decide_eq_true less).symm⟩

namespace TerminalHistory

variable (history : TerminalHistory) (lines : List Text) (sourceTruncated : Bool)

def truncatedBy : Bool := history.truncated || sourceTruncated || decide (history.capacityBytes < lineBytes lines)

/-- The history after a replacement: the revision advances exactly if the lines or the flag change. -/
structure Replaced (next : TerminalHistory) : Prop where
  newest : Newest lineWeight history.capacityBytes lines next.lines
  bytes : next.retainedBytes = lineBytes next.lines
  truncated : next.truncated = history.truncatedBy lines sourceTruncated
  capacityBytes : next.capacityBytes = history.capacityBytes
  generation : next.generation = history.generation
  revision : next.revision = history.revision +
    if next.lines = history.lines ∧ next.truncated = history.truncated then 0 else 1

lemma replace_spec (bytes : history.retainedBytes = lineBytes history.lines) :
    history.Replaced lines sourceTruncated (history.replace lines sourceTruncated) := by
  obtain ⟨newest, kept, dropped⟩ := trimLines_newest history.capacityBytes lines
  have flag : (history.truncated || sourceTruncated ||
      (trimLines history.capacityBytes lines (lineBytes lines)).2.2) = history.truncatedBy lines sourceTruncated :=
    congrArg (history.truncated || sourceTruncated || ·) dropped
  unfold replace
  dsimp only
  rw [flag]
  split
  case isTrue same =>
    rw [← same.1] at newest
    exact ⟨newest, bytes, same.2, rfl, rfl, by rw [if_pos ⟨rfl, rfl⟩]; rfl⟩
  case isFalse changed =>
    refine ⟨newest, kept, rfl, rfl, rfl, ?_⟩
    rw [if_neg fun same => changed ⟨same.1.symm, same.2.symm⟩]

end TerminalHistory

namespace HistoryWorld

variable {w w' : HistoryWorld} {capacity : Nat}

structure Inv (capacity : Nat) (w : HistoryWorld) : Prop where
  capacityBytes : w.history.capacityBytes = max capacity 1
  bytes : w.history.retainedBytes = lineBytes w.history.lines
  newest : Newest lineWeight (max capacity 1) w.given w.history.lines
  /-- Each generation has had a revision of its own. -/
  generation : w.history.generation ≤ w.history.revision

lemma Inv.initial : Inv capacity (initial capacity) :=
  ⟨rfl, rfl, .whole (Nat.zero_le _), Nat.le_refl _⟩

lemma Inv.perform (inv : Inv capacity w) (action : HistoryAction) : Inv capacity (w.perform action) := by
  cases action with
  | replace lines sourceTruncated =>
    have replaced := w.history.replace_spec lines sourceTruncated inv.bytes
    refine ⟨replaced.capacityBytes.trans inv.capacityBytes, replaced.bytes, inv.capacityBytes ▸ replaced.newest, ?_⟩
    show (w.history.replace lines sourceTruncated).generation ≤ (w.history.replace lines sourceTruncated).revision
    rw [replaced.generation, replaced.revision]
    exact Nat.le_trans inv.generation (Nat.le_add_right _ _)
  | clear => exact ⟨inv.capacityBytes, rfl, .whole (Nat.zero_le _), Nat.succ_le_succ inv.generation⟩

lemma step_eq {action : HistoryAction} (h : w.step action = some w') : w' = w.perform action := by
  unfold step at h
  dsimp only at h
  split at h
  · exact (Option.some.inj h).symm
  · cases h

lemma Inv.step_isSome (inv : Inv capacity w) (more : w.history.revision + 1 < 2 ^ 64) (action : HistoryAction) :
    (w.step action).isSome = true := by
  unfold step
  rw [if_pos ⟨.inr (Nat.lt_of_le_of_lt (Nat.succ_le_succ inv.generation) more), .inr more⟩]
  rfl

/-- What a client that knew `w` can conclude in `w'`. -/
structure Follows (w w' : HistoryWorld) : Prop where
  generation : w.history.generation ≤ w'.history.generation
  revision : w.history.revision ≤ w'.history.revision
  unchanged : w'.history.revision = w.history.revision → w'.history.lines = w.history.lines ∧
    w'.history.truncated = w.history.truncated ∧ w'.history.generation = w.history.generation
  truncated : w'.history.generation = w.history.generation → w.history.truncated = true →
    w'.history.truncated = true

lemma Follows.trans {w'' : HistoryWorld} (h : w.Follows w') (k : w'.Follows w'') : w.Follows w'' where
  generation := Nat.le_trans h.generation k.generation
  revision := Nat.le_trans h.revision k.revision
  unchanged same := by
    have later := k.revision
    have first := Nat.le_antisymm (same ▸ later) h.revision
    obtain ⟨lines, truncated, generation⟩ := k.unchanged (same.trans first.symm)
    obtain ⟨lines', truncated', generation'⟩ := h.unchanged first
    exact ⟨lines.trans lines', truncated.trans truncated', generation.trans generation'⟩
  truncated same flag := by
    have later := k.generation
    have first := Nat.le_antisymm (same ▸ later) h.generation
    exact k.truncated (same.trans first.symm) (h.truncated first flag)

lemma Inv.follows (inv : Inv capacity w) (action : HistoryAction) : w.Follows (w.perform action) := by
  cases action with
  | replace lines sourceTruncated =>
    have replaced := w.history.replace_spec lines sourceTruncated inv.bytes
    have revision := replaced.revision
    refine ⟨Nat.le_of_eq replaced.generation.symm, ?_, fun same => ?_, fun _ truncated => ?_⟩
    · show w.history.revision ≤ (w.history.replace lines sourceTruncated).revision
      rw [revision]
      exact Nat.le_add_right _ _
    · split at revision
      case isTrue kept => exact ⟨kept.1, kept.2, replaced.generation⟩
      case isFalse => exact absurd (revision.symm.trans same) (Nat.succ_ne_self _)
    · exact replaced.truncated.trans (by rw [TerminalHistory.truncatedBy, truncated]; rfl)
  | clear =>
    refine ⟨Nat.le_succ _, Nat.le_succ _, fun same => ?_, fun same => ?_⟩
    · exact absurd same (Nat.succ_ne_self _)
    · exact absurd same (Nat.succ_ne_self _)

lemma Inv.exec (inv : Inv capacity w) (actions : List HistoryAction) (run : exec step w actions = some w') :
    Inv capacity w' ∧ w.Follows w' := by
  induction actions generalizing w with
  | nil =>
    obtain rfl := Option.some.inj run
    exact ⟨inv, Nat.le_refl _, Nat.le_refl _, fun _ => ⟨rfl, rfl, rfl⟩, fun _ flag => flag⟩
  | cons action actions ih =>
    obtain ⟨next, first, rest⟩ := exec_cons run
    obtain rfl := step_eq first
    obtain ⟨inv', later⟩ := ih (inv.perform action) rest
    exact ⟨inv', (inv.follows action).trans later⟩

/-- In every run the history keeps the newest lines that fit and counts their bytes, and its generation and its
    revision tell when it has changed. -/
theorem history_revisions {actions : List HistoryAction} (run : exec step (initial capacity) actions = some w) :
    w.history.retainedBytes = lineBytes w.history.lines ∧ w.history.retainedBytes ≤ max capacity 1 ∧
      Newest lineWeight (max capacity 1) w.given w.history.lines ∧
      (∀ lines sourceTruncated w', w.step (.replace lines sourceTruncated) = some w' →
        w'.given = lines ∧ w'.history.generation = w.history.generation ∧
        w'.history.truncated = w.history.truncatedBy lines sourceTruncated ∧
        w'.history.revision = w.history.revision +
          if w'.history.lines = w.history.lines ∧ w'.history.truncated = w.history.truncated then 0 else 1) ∧
      (∀ w', w.step .clear = some w' → w'.given = [] ∧ w'.history.lines = [] ∧ w'.history.truncated = false ∧
        w'.history.generation = w.history.generation + 1 ∧ w'.history.revision = w.history.revision + 1) ∧
      (∀ later w', exec step w later = some w' → w.Follows w') ∧
      (w.history.revision + 1 < 2 ^ 64 → ∀ action, (w.step action).isSome = true) := by
  obtain ⟨inv, -⟩ := Inv.initial.exec actions run
  refine ⟨inv.bytes, inv.bytes ▸ inv.newest.fits, inv.newest, ?_, ?_, ?_, inv.step_isSome⟩
  · intro lines sourceTruncated w' stepped
    obtain rfl := step_eq stepped
    have replaced := w.history.replace_spec lines sourceTruncated inv.bytes
    exact ⟨rfl, replaced.generation, replaced.truncated, replaced.revision⟩
  · intro w' stepped
    obtain rfl := step_eq stepped
    exact ⟨rfl, rfl, rfl, rfl, rfl⟩
  · exact fun later w' run => (inv.exec later run).2

/-- Lines are replaced by too many, dropped and replaced again. -/
theorem history_revisions_refreshed :
    ∃ w, exec step (initial 3) [.replace [['a'], ['b']] false, .clear, .replace [[], []] true] = some w ∧
      w.history.retainedBytes = 2 ∧ Newest lineWeight 3 w.given w.history.lines :=
  ⟨_, rfl, rfl, (@history_revisions _ 3
    [.replace [['a'], ['b']] false, .clear, .replace [[], []] true] rfl).2.2.1⟩

/-- A capacity of zero keeps an empty line, and a clear advances the revision of a history without lines. -/
theorem history_revisions_empty :
    (∃ w, exec step (initial 0) [.replace [[]] false] = some w ∧ w.history.retainedBytes = 1) ∧
      ∃ w, exec step (initial 8) [.clear] = some w ∧ w.history.lines = (initial 8).history.lines ∧
        w.history.truncated = (initial 8).history.truncated ∧ w.history.revision = 1 :=
  ⟨⟨_, rfl, rfl⟩, _, rfl, rfl, rfl, rfl⟩

end HistoryWorld

end Ctl.Daemon
