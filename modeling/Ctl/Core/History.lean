import Ctl.Avt.Line
import Ctl.Proto.History

/-!
# Capturing rows

Model of `capture_row` in `ctmux/core/src/history.rs`: a line of the emulator becomes a literal row
with style spans. `captureRow_valid` says that the row passes `validateHistoryRow` exactly when none
of its characters is a control: the spans the loop builds are always ordered and inside the row.
-/

namespace Ctl.Core
open Ctl.Proto Ctl.Avt

/-- The wire form of a color (Rust `color`). -/
def color : Color → TerminalColor
  | .indexed index => .indexed index
  | .rgb r g b => .rgb r g b

/-- The wire form of a pen (Rust `style`). -/
def style (pen : Pen) : TerminalStyle where
  foreground := pen.foreground.map color
  background := pen.background.map color
  bold := pen.intensity = .bold
  faint := pen.intensity = .faint
  italic := pen.italic
  underline := pen.underline
  strikethrough := pen.strikethrough
  blink := pen.blink
  inverse := pen.inverse

/-- Add the character at `offset` to the spans, which are listed newest first: extend the last span
    or open a new one. -/
def pushSpan (spans : List TerminalHistoryStyleSpan) (offset : Nat) (cellStyle : TerminalStyle) :
    List TerminalHistoryStyleSpan :=
  match spans with
  | previous :: older =>
    if previous.start + previous.length = offset ∧ previous.style = cellStyle then
      { previous with length := previous.length + 1 } :: older
    else ⟨offset, 1, cellStyle⟩ :: previous :: older
  | [] => [⟨offset, 1, cellStyle⟩]

/-- The loop of `capture_row` over the visible cells, from `offset` on; the spans are listed newest
    first. -/
def captureSpans : List Cell → (offset : Nat) → List TerminalHistoryStyleSpan →
    List TerminalHistoryStyleSpan
  | [], _, spans => spans
  | cell :: cells, offset, spans =>
    captureSpans cells (offset + 1)
      (if cell.pen.isDefault then spans else pushSpan spans offset (style cell.pen))

variable (line : Line) (wrapped : Bool)

def visible : List Cell := line.cells.filter fun cell => 0 < cell.occupancy.width

/-- The literal row of a line (Rust `capture_row`). -/
def captureRow : TerminalHistoryRow where
  text := (visible line).map (·.char)
  wrapped
  styles := (captureSpans (visible line) 0 []).reverse

lemma captureRow_text : (captureRow line wrapped).text = line.text := by
  have visible_iff : ∀ occupancy : Occupancy, decide (0 < occupancy.width) = decide (occupancy ≠ .wideTail) := by
    intro occupancy
    cases occupancy <;> rfl
  show ((line.cells.filter fun cell => 0 < cell.occupancy.width).map (·.char)) = _
  rw [Line.text, List.filter_congr fun cell _ => visible_iff cell.occupancy]

/-! ### Captured rows are valid -/

/-- Spans, newest first, that are not empty, do not overlap and end at or before `stop`. -/
def SpansBelow : List TerminalHistoryStyleSpan → (stop : Nat) → Prop
  | [], _ => True
  | span :: older, stop =>
    0 < span.length ∧ span.start + span.length ≤ stop ∧ SpansBelow older span.start

variable {spans : List TerminalHistoryStyleSpan} {offset : Nat}

lemma SpansBelow.mono {m n : Nat} (h : SpansBelow spans m) (le : m ≤ n) : SpansBelow spans n := by
  cases spans with
  | nil => trivial
  | cons span older => exact ⟨h.1, le_trans h.2.1 le, h.2.2⟩

lemma pushSpan_below (h : SpansBelow spans offset) (cellStyle : TerminalStyle) :
    SpansBelow (pushSpan spans offset cellStyle) (offset + 1) := by
  cases spans with
  | nil => exact ⟨Nat.one_pos, le_refl _, trivial⟩
  | cons previous older =>
    obtain ⟨pos, le, below⟩ := h
    simp only [pushSpan]
    split
    · exact ⟨Nat.succ_pos _, by simp only; omega, below⟩
    · exact ⟨Nat.one_pos, le_refl _, pos, le, below⟩

lemma captureSpans_below (cells : List Cell) (h : SpansBelow spans offset) :
    SpansBelow (captureSpans cells offset spans) (offset + cells.length) := by
  induction cells generalizing offset spans with
  | nil => exact h
  | cons cell cells ih =>
    rw [captureSpans, List.length_cons, Nat.add_comm cells.length 1, ← Nat.add_assoc]
    apply ih
    split
    · exact h.mono (Nat.le_succ _)
    · exact pushSpan_below h _

lemma validateSpans_reverse {stop length : Nat} (h : SpansBelow spans stop) (le : stop ≤ length)
    (lt : length < 2 ^ 32) (rest : List TerminalHistoryStyleSpan) :
    ∃ previousEnd ≤ stop, validateSpans length (spans.reverse ++ rest) 0
      = validateSpans length rest previousEnd := by
  induction spans generalizing stop rest with
  | nil => exact ⟨0, Nat.zero_le _, rfl⟩
  | cons span older ih =>
    obtain ⟨pos, inside, below⟩ := h
    obtain ⟨previousEnd, before, hold⟩ := ih below (by omega) (span :: rest)
    refine ⟨span.start + span.length, inside, ?_⟩
    rw [List.reverse_cons, List.append_assoc, List.singleton_append, hold, validateSpans,
      if_neg (by omega), if_neg (by omega)]

lemma captureRow_valid {line : Line} (lt : (visible line).length < 2 ^ 32) :
    validateHistoryRow (captureRow line wrapped) = .ok () ↔
      ∀ cell ∈ visible line, isControl cell.char = false := by
  have spans := captureSpans_below (visible line) (show SpansBelow [] 0 from trivial)
  rw [Nat.zero_add] at spans
  obtain ⟨previousEnd, -, valid⟩ := validateSpans_reverse spans (le_refl _) lt []
  rw [List.append_nil] at valid
  have controls : ((captureRow line wrapped).text.any isControl = true) ↔
      ¬ ∀ cell ∈ visible line, isControl cell.char = false := by
    simp [captureRow]
  have length : (captureRow line wrapped).text.length = (visible line).length := by
    simp [captureRow]
  rw [validateHistoryRow]
  by_cases h : ∀ cell ∈ visible line, isControl cell.char = false
  · rw [if_neg (by rw [controls]; exact not_not.2 h), length, if_neg (by omega)]
    exact iff_of_true valid h
  · rw [if_pos (controls.2 h)]
    exact iff_of_false (by simp) h

end Ctl.Core
