import Ctl.Avt.Line
import Ctl.Base.Reading
import Ctl.Core.StyleText

/-!
# Drawing captured rows

Model of `row_ansi` in `ctmux/core/src/history.rs`. The spans of a captured row cover exactly the characters
that have a pen of their own, and no span could be longer (`Captures`). The emulator draws the text of a row,
each character with the style of the span that holds it (`rowAnsi_draws`); the text of a captured row is drawn
with the pens that its cells have (`captureRow_draws`).
-/

namespace Ctl.Core
open Ctl.Proto Ctl.Avt

/-- The loop of `row_ansi` over the spans: `chars` are the characters from `position` on. -/
def ansiSpans : List TerminalHistoryStyleSpan → (chars : Text) → (position : Nat) → Text
  | [], chars, _ => chars
  | span :: spans, chars, position =>
    let rest := chars.drop (span.start - position)
    chars.take (span.start - position) ++ sgr span.style ++ rest.take span.length ++ ['\x1b', '[', '0', 'm'] ++
      ansiSpans spans (rest.drop span.length) (span.start + span.length)

/-- The text that draws a row (Rust `row_ansi`). -/
def rowAnsi (row : TerminalHistoryRow) : Except InvalidData Text := do
  validateHistoryRow row
  if row.styles.isEmpty then .ok row.text
  else .ok (['\x1b', '[', '0', 'm'] ++ ansiSpans row.styles row.text 0)

/-! ### The spans of a captured row -/

def InSpan (span : TerminalHistoryStyleSpan) (i : Nat) : Prop := span.start ≤ i ∧ i < span.start + span.length

instance (span : TerminalHistoryStyleSpan) (i : Nat) : Decidable (InSpan span i) :=
  inferInstanceAs (Decidable (_ ∧ _))

def HasStyle (cell : Option Cell) (s : TerminalStyle) : Prop :=
  ∃ c, cell = some c ∧ c.pen.isDefault = false ∧ style c.pen = s

structure Captures (spans : List TerminalHistoryStyleSpan) (cells : List Cell) : Prop where
  /-- The spans are in order, and none is empty or overlaps the next. -/
  nonempty : ∀ span ∈ spans, 0 < span.length
  ordered : spans.Pairwise fun a b => a.start + a.length ≤ b.start
  /-- A span covers characters of the row. -/
  inside : ∀ span ∈ spans, span.start + span.length ≤ cells.length
  /-- The characters with a style are those of the cells with a pen of their own. -/
  covers : ∀ i s, (∃ span ∈ spans, InSpan span i ∧ span.style = s) ↔ HasStyle cells[i]? s
  /-- Neither the character before a span nor the one behind it has its style. -/
  maximal : ∀ span ∈ spans, ∀ i, i + 1 = span.start ∨ i = span.start + span.length →
    ¬ HasStyle cells[i]? span.style

/-- The invariant of the loop; the spans are listed newest first. -/
structure Capturing (spans : List TerminalHistoryStyleSpan) (seen : List Cell) : Prop where
  below : SpansBelow spans seen.length
  covers : ∀ i s, (∃ span ∈ spans, InSpan span i ∧ span.style = s) ↔ HasStyle seen[i]? s
  apart : ∀ a ∈ spans, ∀ b ∈ spans, a.start + a.length = b.start → a.style ≠ b.style

variable {spans : List TerminalHistoryStyleSpan} {stop position length : Nat} {seen : List Cell} {cell : Cell}
  {text : Text} {previousEnd i col : Nat} {cells : List Cell}

lemma SpansBelow.mem (h : SpansBelow spans stop) :
    ∀ span ∈ spans, 0 < span.length ∧ span.start + span.length ≤ stop := by
  induction spans generalizing stop with
  | nil => exact fun _ mem => absurd mem List.not_mem_nil
  | cons newer older ih =>
    intro span mem
    cases List.mem_cons.1 mem with
    | inl same => exact same ▸ ⟨h.1, h.2.1⟩
    | inr mem =>
      obtain ⟨pos, le⟩ := ih h.2.2 span mem
      exact ⟨pos, by have := h.2.1; omega⟩

lemma SpansBelow.ordered (h : SpansBelow spans stop) :
    spans.reverse.Pairwise fun a b => a.start + a.length ≤ b.start := by
  rw [List.pairwise_reverse]
  induction spans generalizing stop with
  | nil => exact .nil
  | cons newer older ih => exact .cons (fun span mem => (h.2.2.mem span mem).2) (ih h.2.2)

lemma SpansBelow.disjoint (h : SpansBelow spans stop) {a b : TerminalHistoryStyleSpan} (memA : a ∈ spans)
    (memB : b ∈ spans) : a = b ∨ a.start + a.length ≤ b.start ∨ b.start + b.length ≤ a.start := by
  induction spans generalizing stop with
  | nil => cases memA
  | cons newer older ih =>
    have before := h.2.2.mem
    cases List.mem_cons.1 memA with
    | inl first =>
      cases List.mem_cons.1 memB with
      | inl first' => exact .inl (first.trans first'.symm)
      | inr later => exact .inr (.inr (first ▸ (before b later).2))
    | inr later =>
      cases List.mem_cons.1 memB with
      | inl first => exact .inr (.inl (first ▸ (before a later).2))
      | inr later' => exact ih h.2.2 later later'

lemma hasStyle_concat (seen : List Cell) (cell : Cell) (i : Nat) (s : TerminalStyle) :
    HasStyle (seen ++ [cell])[i]? s ↔
      HasStyle seen[i]? s ∨ i = seen.length ∧ cell.pen.isDefault = false ∧ style cell.pen = s := by
  unfold HasStyle
  grind

lemma Capturing.plain (h : Capturing spans seen) (default : cell.pen.isDefault = true) :
    Capturing spans (seen ++ [cell]) := by
  refine ⟨h.below.mono (by simp), fun i s => ?_, h.apart⟩
  rw [hasStyle_concat, h.covers, default]
  simp

lemma Capturing.styled (h : Capturing spans seen) (own : cell.pen.isDefault = false) :
    Capturing (pushSpan spans seen.length (style cell.pen)) (seen ++ [cell]) := by
  have below := pushSpan_below h.below (style cell.pen)
  -- A span for the cell alone, behind spans that do not touch it or have another style.
  have fresh : (∀ a ∈ spans, a.start + a.length = seen.length → a.style ≠ style cell.pen) →
      Capturing (⟨seen.length, 1, style cell.pen⟩ :: spans) (seen ++ [cell]) := by
    intro touching
    refine ⟨?_, fun i s => ?_, fun a memA b memB touch => ?_⟩
    · rw [List.length_append]
      exact ⟨Nat.one_pos, Nat.le_refl _, h.below⟩
    · rw [hasStyle_concat, ← h.covers]
      simp only [List.exists_mem_cons_iff, InSpan]
      grind
    · have ends := h.below.mem
      cases List.mem_cons.1 memA with
      | inl same =>
        have := ends b
        cases List.mem_cons.1 memB with
        | inl same' => rw [same, same'] at touch; simp at touch
        | inr old => rw [same] at touch; have := ends b old; simp only at touch; omega
      | inr old =>
        cases List.mem_cons.1 memB with
        | inl same =>
          rw [same] at touch ⊢
          exact touching a old touch
        | inr old' => exact h.apart a old b old' touch
  cases spans with
  | nil => exact fresh fun _ mem => absurd mem List.not_mem_nil
  | cons previous older =>
    rw [pushSpan]
    split
    case isTrue longer =>
      obtain ⟨touch, same⟩ := longer
      rw [pushSpan, if_pos ⟨touch, same⟩] at below
      have before := h.below.2.2.mem
      refine ⟨by rw [List.length_append]; exact below, fun i s => ?_, fun a memA b memB meet => ?_⟩
      · have old := h.covers i s
        have positive := h.below.1
        rw [hasStyle_concat, ← old]
        simp only [List.exists_mem_cons_iff, InSpan]
        grind
      · cases List.mem_cons.1 memA with
        | inl first =>
          cases List.mem_cons.1 memB with
          | inl first' => rw [first, first'] at meet; simp at meet
          | inr later => rw [first] at meet; have := before b later; simp only at meet; omega
        | inr later =>
          cases List.mem_cons.1 memB with
          | inl first =>
            rw [first] at meet ⊢
            exact h.apart a (List.mem_cons_of_mem _ later) previous List.mem_cons_self meet
          | inr later' => exact h.apart a (List.mem_cons_of_mem _ later) b (List.mem_cons_of_mem _ later') meet
    case isFalse other =>
      refine fresh fun a mem touch same => ?_
      cases List.mem_cons.1 mem with
      | inl first => exact other ⟨first ▸ touch, first ▸ same⟩
      | inr mem =>
        have := h.below.2.2.mem a mem
        have := h.below.1
        have := h.below.2.1
        omega

lemma captureSpans_capturing (cells : List Cell) (h : Capturing spans seen) :
    Capturing (captureSpans cells seen.length spans) (seen ++ cells) := by
  induction cells generalizing seen spans with
  | nil =>
    rw [List.append_nil]
    exact h
  | cons cell cells ih =>
    rw [captureSpans, List.append_cons, ← List.length_singleton, ← List.length_append]
    apply ih
    cases own : cell.pen.isDefault with
    | true => exact h.plain own
    | false => exact h.styled own

lemma captureRow_captures (line : Line) (wrapped : Bool) : Captures (captureRow line wrapped).styles (visible line) := by
  have empty : Capturing [] [] := by
    refine ⟨trivial, fun i s => ⟨fun some => ?_, fun has => ?_⟩, fun _ mem => absurd mem List.not_mem_nil⟩
    · obtain ⟨span, mem, -⟩ := some
      exact absurd mem List.not_mem_nil
    · obtain ⟨c, found, -⟩ := has
      cases found
  have h := captureSpans_capturing (visible line) empty
  rw [List.nil_append] at h
  have mem : ∀ span ∈ (captureRow line wrapped).styles, span ∈ captureSpans (visible line) 0 [] :=
    fun span mem => List.mem_reverse.1 mem
  refine ⟨fun span listed => (h.below.mem span (mem span listed)).1, h.below.ordered,
    fun span listed => (h.below.mem span (mem span listed)).2, fun i s => ?_, fun span listed i next has => ?_⟩
  · rw [← h.covers]
    exact exists_congr fun span => and_congr_left' List.mem_reverse
  · obtain ⟨other, listed', holds, same⟩ := (h.covers i span.style).2 has
    have positive := h.below.mem span (mem span listed)
    have positive' := h.below.mem other listed'
    unfold InSpan at holds
    rcases h.below.disjoint listed' (mem span listed) with equal | front | behind
    · rw [equal] at holds
      omega
    · exact h.apart other listed' span (mem span listed) (by omega) same
    · exact h.apart span (mem span listed) other listed' (by omega) same.symm

/-! ### Drawing -/

def penOf (spans : List TerminalHistoryStyleSpan) (i : Nat) : Pen :=
  match spans.find? (InSpan · i) with
  | some span => stylePen span.style
  | none => .default

def withPens (spans : List TerminalHistoryStyleSpan) (position : Nat) (text : Text) : List (Char × Pen) :=
  text.mapIdx fun i ch => (ch, penOf spans (position + i))

lemma withPens_append (spans : List TerminalHistoryStyleSpan) (position : Nat) (first last : Text) :
    withPens spans position (first ++ last) =
      withPens spans position first ++ withPens spans (position + first.length) last := by
  unfold withPens
  rw [List.mapIdx_append]
  simp only [Nat.add_assoc, Nat.add_comm first.length]

lemma withPens_eq {pen : Pen} (same : ∀ i < text.length, penOf spans (position + i) = pen) :
    withPens spans position text = text.map fun ch => (ch, pen) := by
  refine List.ext_getElem (by simp [withPens]) fun i inside _ => ?_
  have lt : i < text.length := by simpa [withPens] using inside
  simp [withPens, same i lt]

lemma withPens_congr {others : List TerminalHistoryStyleSpan}
    (same : ∀ i < text.length, penOf spans (position + i) = penOf others (position + i)) :
    withPens spans position text = withPens others position text := by
  refine List.ext_getElem (by simp [withPens]) fun i inside _ => ?_
  have lt : i < text.length := by simpa [withPens] using inside
  simp [withPens, same i lt]

lemma validateSpans_cons {span : TerminalHistoryStyleSpan}
    (valid : validateSpans length (span :: spans) previousEnd = .ok ()) :
    previousEnd ≤ span.start ∧ 0 < span.length ∧ span.start + span.length ≤ length ∧
      validateSpans length spans (span.start + span.length) = .ok () := by
  rw [validateSpans] at valid
  split at valid
  case isTrue => cases valid
  case isFalse =>
    split at valid
    case isTrue => cases valid
    case isFalse inside => exact ⟨by omega, by omega, by omega, valid⟩

lemma penOf_before (valid : validateSpans length spans previousEnd = .ok ()) (before : i < previousEnd) :
    penOf spans i = .default := by
  have apart : spans.find? (InSpan · i) = none := by
    induction spans generalizing previousEnd with
    | nil => rfl
    | cons span spans ih =>
      obtain ⟨le, _, _, more⟩ := validateSpans_cons valid
      have outside : ¬ InSpan span i := fun holds => by
        have := holds.1
        omega
      rw [List.find?_cons_of_neg (by simpa using outside)]
      exact ih more (by omega)
  rw [penOf, apart]

lemma ansiSpans_draws {chars : Text} (valid : validateSpans length spans position = .ok ())
    (count : position + chars.length = length) (plain : ∀ ch ∈ chars, isControl ch = false) :
    Draws .default (ansiSpans spans chars position) (withPens spans position chars) .default := by
  induction spans generalizing position chars with
  | nil =>
    have all : withPens [] position chars = chars.map fun ch => (ch, .default) := withPens_eq fun i _ => rfl
    rw [all]
    exact draws_text .default plain
  | cons span spans ih =>
    obtain ⟨le, pos, inside, more⟩ := validateSpans_cons valid
    let gap := chars.take (span.start - position)
    let rest := chars.drop (span.start - position)
    have gapLength : gap.length = span.start - position := List.length_take_of_le (by omega)
    have restLength : rest.length = chars.length - (span.start - position) := List.length_drop
    have heldLength : (rest.take span.length).length = span.length := List.length_take_of_le (by omega)
    have split : chars = gap ++ (rest.take span.length ++ rest.drop span.length) := by
      rw [List.take_append_drop, List.take_append_drop]
    have clean : ∀ ch ∈ rest, isControl ch = false := fun ch mem => plain ch (List.mem_of_mem_drop mem)
    have tail := @ih _ (rest.drop span.length) more (by rw [List.length_drop]; omega)
      fun ch mem => clean ch (List.mem_of_mem_drop mem)
    have own : ∀ i, penOf (span :: spans) i = if InSpan span i then stylePen span.style else penOf spans i := by
      intro i
      unfold penOf
      by_cases holds : InSpan span i
      · rw [List.find?_cons_of_pos (by simpa using holds), if_pos holds]
      · rw [List.find?_cons_of_neg (by simpa using holds), if_neg holds]
    have before : ∀ i < gap.length, penOf (span :: spans) (position + i) = .default := by
      intro i lt
      rw [own, if_neg (by unfold InSpan; omega)]
      exact penOf_before more (by omega)
    have held : ∀ i < (rest.take span.length).length,
        penOf (span :: spans) (position + gap.length + i) = stylePen span.style := by
      intro i lt
      rw [own, if_pos ⟨by omega, by omega⟩]
    have later : ∀ i < (rest.drop span.length).length,
        penOf (span :: spans) (position + gap.length + (rest.take span.length).length + i) =
          penOf spans (position + gap.length + (rest.take span.length).length + i) := by
      intro i lt
      rw [own, if_neg (by unfold InSpan; omega)]
    have position' : position + gap.length + (rest.take span.length).length = span.start + span.length := by omega
    have gapDrawn : Draws .default gap (gap.map fun ch => (ch, .default)) .default :=
      draws_text .default fun ch mem => plain ch (List.mem_of_mem_take mem)
    have heldDrawn : Draws (stylePen span.style) (rest.take span.length)
        ((rest.take span.length).map fun ch => (ch, stylePen span.style)) (stylePen span.style) :=
      draws_text _ fun ch mem => clean ch (List.mem_of_mem_take mem)
    have drawn := (((gapDrawn.append (draws_sgr .default span.style)).append heldDrawn).append
      (draws_reset _)).append tail
    rw [split, withPens_append, withPens_append, withPens_eq before, withPens_eq held, withPens_congr later, position',
      ← split]
    simpa [ansiSpans, gap, rest] using drawn

lemma rowAnsi_draws {row : TerminalHistoryRow} (valid : validateHistoryRow row = .ok ()) :
    ∃ ansi, rowAnsi row = .ok ansi ∧ Draws .default ansi (withPens row.styles 0 row.text) .default := by
  have checks := valid
  rw [validateHistoryRow] at checks
  split at checks
  case isTrue => cases checks
  case isFalse clean =>
    split at checks
    case isTrue => cases checks
    case isFalse =>
      have plain : ∀ ch ∈ row.text, isControl ch = false := by
        intro ch mem
        by_contra control
        exact clean (List.any_eq_true.2 ⟨ch, mem, Bool.not_eq_false _ ▸ control⟩)
      have drawn := ansiSpans_draws checks (Nat.zero_add _) plain
      rw [rowAnsi, valid]
      cases styles : row.styles with
      | nil =>
        rw [styles] at drawn
        exact ⟨row.text, rfl, drawn⟩
      | cons span spans =>
        rw [styles] at drawn
        exact ⟨_, rfl, (draws_reset .default).append drawn⟩

lemma Captures.penOf (h : Captures spans cells) (found : cells[i]? = some cell) : penOf spans i = cell.pen := by
  unfold Core.penOf
  cases first : spans.find? (InSpan · i) with
  | none =>
    rw [List.find?_eq_none] at first
    cases own : cell.pen.isDefault with
    | true => exact (of_decide_eq_true own).symm
    | false =>
      obtain ⟨span, mem, holds, -⟩ := (h.covers i (style cell.pen)).2 ⟨cell, found, own, rfl⟩
      exact absurd (decide_eq_true holds) (first span mem)
  | some span =>
    have holds : InSpan span i := by simpa using List.find?_some first
    obtain ⟨c, found', -, same⟩ := (h.covers i span.style).1 ⟨span, List.mem_of_find?_eq_some first, holds, rfl⟩
    rw [found] at found'
    cases found'
    show stylePen span.style = cell.pen
    rw [← same, stylePen_style]

def charIndex (line : Line) (col : Nat) : Nat :=
  ((line.cells.take (col + 1)).filter fun cell => 0 < cell.occupancy.width).length - 1

lemma filter_getElem? {p : Cell → Bool} (found : cells[col]? = some cell) (holds : p cell = true) :
    (cells.filter p)[((cells.take (col + 1)).filter p).length - 1]? = some cell := by
  induction cells generalizing col with
  | nil => cases found
  | cons first cells ih =>
    cases col with
    | zero =>
      cases found
      simp [holds]
    | succ col =>
      have rest := @ih col found
      have inside : cell ∈ (cells.take (col + 1)).filter p := by
        refine List.mem_filter.2 ⟨List.mem_of_getElem? (i := col) ?_, holds⟩
        rw [List.getElem?_take_of_lt (Nat.lt_succ_self _)]
        exact found
      have positive := List.length_pos_of_mem inside
      rw [List.take_succ_cons]
      cases keep : p first with
      | false =>
        rw [List.filter_cons_of_neg (by rw [keep]; exact Bool.false_ne_true), List.filter_cons_of_neg (by rw [keep]; exact Bool.false_ne_true)]
        exact rest
      | true =>
        rw [List.filter_cons_of_pos keep, List.filter_cons_of_pos keep, List.length_cons, Nat.add_sub_cancel]
        rw [← Nat.sub_add_cancel positive, List.getElem?_cons_succ]
        exact rest

lemma visible_charIndex {width : Char → Option Nat} {line : Line} (paired : line.Paired width)
    (found : line.cells[col]? = some cell) : ∃ c, (visible line)[charIndex line col]? = some c ∧ c.pen = cell.pen := by
  have at' : ∀ {i : Nat} {c : Cell}, line.cells[i]? = some c → line.cellAt i = c := by
    intro i c here
    rw [Line.cellAt, here]
    rfl
  cases place : decide (0 < cell.occupancy.width) with
  | true => exact ⟨cell, filter_getElem? found place, rfl⟩
  | false =>
    have tail : cell.occupancy = .wideTail := by
      cases occupancy : cell.occupancy with
      | wideTail => rfl
      | single | wideHead => rw [occupancy] at place; cases place
    obtain ⟨n, rfl, head⟩ := paired.head (by rw [Line.occupancy_eq, at' found, tail])
    have inside : n < line.cells.length := by
      have := (List.getElem?_eq_some_iff.1 found).1
      omega
    have before : line.cells[n]? = some line.cells[n] := List.getElem?_eq_getElem inside
    rw [Line.occupancy_eq, at' before] at head
    have same : charIndex line (n + 1) = charIndex line n := by
      unfold charIndex
      rw [@List.take_add_one _ line.cells (n + 1), found, Option.toList_some, List.filter_append,
        List.filter_cons_of_neg (by rw [place]; exact Bool.false_ne_true), List.filter_nil, List.append_nil]
    have linked := (paired.linked n).2 (by rw [at' before, head])
    rw [at' before, at' found] at linked
    rw [same]
    refine ⟨line.cells[n], filter_getElem? before ?_, linked.symm⟩
    rw [head]
    rfl

/-- A line without control characters is captured with spans for exactly the cells that have a pen of their own,
    and its row is drawn with the pens of the cells. -/
theorem captureRow_draws {width : Char → Option Nat} {line : Line} (wrapped : Bool) (columns : line.len < 2 ^ 16)
    (plain : ∀ ch ∈ line.text, isControl ch = false) :
    Captures (captureRow line wrapped).styles (visible line) ∧
      (captureRow line wrapped).text = (visible line).map (·.char) ∧
      (line.Paired width → ∀ col s,
        (∃ span ∈ (captureRow line wrapped).styles, InSpan span (charIndex line col) ∧ span.style = s) ∧
          col < line.len ↔ HasStyle line.cells[col]? s) ∧
      validateHistoryRow (captureRow line wrapped) = .ok () ∧
      ∃ ansi, rowAnsi (captureRow line wrapped) = .ok ansi ∧
        Draws .default ansi (withPens (captureRow line wrapped).styles 0 (captureRow line wrapped).text) .default ∧
        withPens (captureRow line wrapped).styles 0 (captureRow line wrapped).text =
          (visible line).map fun cell => (cell.char, cell.pen) := by
  have captures := captureRow_captures line wrapped
  have clean : ∀ cell ∈ visible line, isControl cell.char = false := by
    intro cell mem
    apply plain
    rw [← captureRow_text line wrapped]
    exact List.mem_map_of_mem mem
  have short : (visible line).length ≤ line.len := List.length_filter_le _ _
  have valid := (captureRow_valid wrapped (by omega)).2 clean
  obtain ⟨ansi, text, drawn⟩ := rowAnsi_draws valid
  refine ⟨captures, rfl, fun paired col s => ?_, valid, ansi, text, drawn, ?_⟩
  · rw [captures.covers]
    constructor
    · rintro ⟨⟨c, found, own, same⟩, inside⟩
      have here : line.cells[col]? = some line.cells[col] := List.getElem?_eq_getElem inside
      obtain ⟨c', found', pens⟩ := visible_charIndex paired here
      rw [found] at found'
      cases found'
      exact ⟨_, here, pens ▸ own, pens ▸ same⟩
    · rintro ⟨cell, found, own, same⟩
      obtain ⟨c, found', pens⟩ := visible_charIndex paired found
      exact ⟨⟨c, found', pens ▸ own, pens ▸ same⟩, (List.getElem?_eq_some_iff.1 found).1⟩
  · refine List.ext_getElem (by simp [withPens, captureRow]) fun i inside _ => ?_
    have lt : i < (visible line).length := by simpa [withPens, captureRow] using inside
    have pen := captures.penOf (List.getElem?_eq_getElem lt)
    simp only [withPens, List.getElem_mapIdx, Nat.zero_add, pen, List.getElem_map]
    simp [captureRow]

/-- A red character, an underlined double-width character and a space. -/
theorem captureRow_draws_underlined :
    ∃ ansi, rowAnsi (captureRow ⟨[⟨'a', .single, { Pen.default with foreground := some (.indexed 1) }⟩,
      ⟨'界', .wideHead, { Pen.default with underline := true }⟩, ⟨' ', .wideTail, { Pen.default with underline := true }⟩,
      ⟨' ', .single, .default⟩], false⟩ false) = .ok ansi ∧
      Draws .default ansi [('a', { Pen.default with foreground := some (.indexed 1) }),
        ('界', { Pen.default with underline := true }), (' ', .default)] .default := by
  obtain ⟨-, -, -, -, ansi, text, drawn, pens⟩ := @captureRow_draws (fun _ => none)
    ⟨[⟨'a', .single, { Pen.default with foreground := some (.indexed 1) }⟩,
      ⟨'界', .wideHead, { Pen.default with underline := true }⟩, ⟨' ', .wideTail, { Pen.default with underline := true }⟩,
      ⟨' ', .single, .default⟩], false⟩ false (by decide) (by decide)
  rw [pens] at drawn
  exact ⟨ansi, text, drawn⟩

end Ctl.Core
