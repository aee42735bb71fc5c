import Mathlib.Data.List.Basic
import Mathlib.Order.Lattice

/-!
# Chunks of an append-only log

A log is a list that only grows; its elements are numbered from zero. A `Chunk` is a run of elements
with the number of its first one. `Replays log a chunks b` says that non-empty chunks line up from
position `a` to position `b` and hold what the log has there. Chunks of a log stay chunks of every
longer log (`Replays.grow`), two adjacent replays make one (`Replays.append`), and a replay can be
cut at any position (`Replays.cut`).
-/

namespace Ctl.Base

variable {α : Type} {log : List α} {a b : Nat}

/-- A run of log elements, with the number of the first one. -/
structure Chunk (α : Type) where
  sequenceStart : Nat
  data : List α
  deriving DecidableEq

def Chunk.sequenceEnd (chunk : Chunk α) : Nat := chunk.sequenceStart + chunk.data.length

/-- The elements of a log from position `a` up to position `b`. -/
def range (log : List α) (a b : Nat) : List α := (log.drop a).take (b - a)

/-- The part of a chunk from position `sequence` on, if any. -/
def Chunk.sliceFrom (chunk : Chunk α) (sequence : Nat) : Option (Chunk α) :=
  if chunk.sequenceEnd ≤ sequence then none
  else if sequence ≤ chunk.sequenceStart then some chunk
  else some ⟨sequence, chunk.data.drop (sequence - chunk.sequenceStart)⟩

/-! ### Ranges -/

variable {chunk : Chunk α}

lemma length_range (h : b ≤ log.length) : (range log a b).length = b - a := by
  simp only [range, List.length_take, List.length_drop]
  omega

@[simp] lemma range_self (log : List α) (a : Nat) : range log a a = [] := by
  simp [range]

lemma range_length (log : List α) (a : Nat) : range log a log.length = log.drop a := by
  rw [range, ← List.length_drop, List.take_length]

lemma range_append (h : b ≤ log.length) (more : List α) : range (log ++ more) a b = range log a b := by
  rcases Nat.le_total a b with hab | hab
  · rw [range, range, List.drop_append_of_le_length (by omega), List.take_append_of_le_length]
    simp only [List.length_drop]
    omega
  · simp [range, Nat.sub_eq_zero_of_le hab]

lemma range_append_range {log : List α} {a b c : Nat} (hab : a ≤ b) (hbc : b ≤ c) :
    range log a b ++ range log b c = range log a c := by
  have e : b = a + (b - a) := by omega
  rw [range, range, range, show log.drop b = (log.drop a).drop (b - a) by
    rw [List.drop_drop]; congr 1]
  rw [show c - a = (b - a) + (c - b) by omega, List.take_add]

lemma drop_range (log : List α) (a b n : Nat) : (range log a b).drop n = range log (a + n) b := by
  rw [range, List.drop_take, List.drop_drop, range]
  congr 1
  omega

/-! ### Chunks of a log -/

/-- The chunk is not empty and holds what the log has at its position. -/
structure Chunk.Of (chunk : Chunk α) (log : List α) : Prop where
  nonempty : chunk.data ≠ []
  bound : chunk.sequenceEnd ≤ log.length
  data : chunk.data = range log chunk.sequenceStart chunk.sequenceEnd

lemma Chunk.Of.lt (h : chunk.Of log) : chunk.sequenceStart < chunk.sequenceEnd :=
  Nat.lt_add_of_pos_right (List.length_pos_iff.2 h.nonempty)

lemma Chunk.Of.grow (h : chunk.Of log) (more : List α) :
    chunk.Of (log ++ more) where
  nonempty := h.nonempty
  bound := by rw [List.length_append]; exact Nat.le_add_right_of_le h.bound
  data := by rw [range_append h.bound]; exact h.data

lemma Chunk.Of.appended {data : List α} (ne : data ≠ []) :
    Chunk.Of ⟨log.length, data⟩ (log ++ data) where
  nonempty := ne
  bound := by simp [Chunk.sequenceEnd]
  data := by simp [Chunk.sequenceEnd, range]

lemma Chunk.Of.cut {chunk : Chunk α} {log : List α} (h : chunk.Of log) {n : Nat} (hn : n < chunk.data.length) :
    Chunk.Of ⟨chunk.sequenceStart + n, chunk.data.drop n⟩ log ∧
      Chunk.sequenceEnd ⟨chunk.sequenceStart + n, chunk.data.drop n⟩ = chunk.sequenceEnd := by
  have e : Chunk.sequenceEnd ⟨chunk.sequenceStart + n, chunk.data.drop n⟩ = chunk.sequenceEnd := by
    simp only [Chunk.sequenceEnd, List.length_drop]
    omega
  refine ⟨⟨?_, e ▸ h.bound, ?_⟩, e⟩
  · rw [← List.length_pos_iff, List.length_drop]
    omega
  · rw [e, ← drop_range, ← h.data]

/-! ### Chunks in a row -/

/-- The chunks line up from `a` to `b`, whatever they hold. -/
def LinesUp : (a : Nat) → List (Chunk α) → (b : Nat) → Prop
  | a, [], b => a = b
  | a, chunk :: chunks, b => chunk.sequenceStart = a ∧ LinesUp chunk.sequenceEnd chunks b

namespace LinesUp

variable {a b c : Nat} {chunks chunks' : List (Chunk α)}

lemma append_iff : LinesUp a (chunks ++ chunks') c ↔ ∃ b, LinesUp a chunks b ∧ LinesUp b chunks' c := by
  induction chunks generalizing a with
  | nil => exact ⟨fun h => ⟨a, rfl, h⟩, fun ⟨_, same, h⟩ => same ▸ h⟩
  | cons chunk chunks ih =>
    rw [List.cons_append, LinesUp, ih]
    exact ⟨fun ⟨here, b, h, k⟩ => ⟨b, ⟨here, h⟩, k⟩, fun ⟨b, ⟨here, h⟩, k⟩ => ⟨here, b, h, k⟩⟩

lemma length (h : LinesUp a chunks b) : b = a + (chunks.flatMap (·.data)).length := by
  induction chunks generalizing a with
  | nil => exact h.symm
  | cons chunk chunks ih =>
    obtain ⟨rfl, rest⟩ := h
    rw [ih rest, List.flatMap_cons, List.length_append, ← Nat.add_assoc]
    rfl

lemma concat (h : LinesUp a chunks b) (data : List α) : LinesUp a (chunks ++ [⟨b, data⟩]) (b + data.length) :=
  append_iff.2 ⟨b, h, rfl, rfl⟩

lemma extend {last : Chunk α} (h : LinesUp a (chunks ++ [last]) b) (data : List α) :
    last.sequenceEnd = b ∧
      LinesUp a (chunks ++ [{ last with data := last.data ++ data }]) (b + data.length) := by
  obtain ⟨c, front, rfl, rfl⟩ := append_iff.1 h
  refine ⟨rfl, append_iff.2 ⟨_, front, rfl, ?_⟩⟩
  show last.sequenceStart + (last.data ++ data).length = last.sequenceStart + last.data.length + data.length
  rw [List.length_append, Nat.add_assoc]

end LinesUp

/-! ### Replays -/

/-- The chunks line up from `a` to `b` and hold what the log has there. -/
inductive Replays (log : List α) : Nat → List (Chunk α) → Nat → Prop
  | nil {a : Nat} : a ≤ log.length → Replays log a [] a
  | cons {chunk : Chunk α} {chunks : List (Chunk α)} {b : Nat} :
    chunk.Of log → Replays log chunk.sequenceEnd chunks b →
    Replays log chunk.sequenceStart (chunk :: chunks) b

namespace Replays

variable {log : List α} {a b c : Nat} {chunks : List (Chunk α)}

lemma bounds (h : Replays log a chunks b) : a ≤ b ∧ b ≤ log.length := by
  induction h with
  | nil h => exact ⟨le_refl _, h⟩
  | cons h _ ih =>
    have := h.lt
    omega

lemma flatMap_data (h : Replays log a chunks b) : chunks.flatMap (·.data) = range log a b := by
  induction h with
  | nil => simp
  | cons h hs ih =>
    rw [List.flatMap_cons, ih, h.data]
    exact range_append_range h.lt.le hs.bounds.1

lemma grow (h : Replays log a chunks b) (more : List α) : Replays (log ++ more) a chunks b := by
  induction h with
  | nil h => exact .nil (by rw [List.length_append]; omega)
  | cons h _ ih => exact .cons (h.grow more) ih

lemma append {chunks' : List (Chunk α)} (h : Replays log a chunks b)
    (k : Replays log b chunks' c) : Replays log a (chunks ++ chunks') c := by
  induction h with
  | nil => exact k
  | cons h _ ih => exact .cons h (ih k)

lemma single {chunk : Chunk α} (h : chunk.Of log) : Replays log chunk.sequenceStart [chunk] chunk.sequenceEnd :=
  .cons h (.nil h.bound)

lemma sliceFrom_eq_self (h : Replays log a chunks b) {r : Nat} (hr : r ≤ a) :
    chunks.filterMap (·.sliceFrom r) = chunks := by
  induction h with
  | nil => rfl
  | cons h _ ih =>
    have := h.lt
    rw [List.filterMap_cons, Chunk.sliceFrom, if_neg (by omega), if_pos hr]
    simp only [ih (by omega)]

lemma cut (h : Replays log a chunks b) {r : Nat} (har : a ≤ r) (hrb : r ≤ b) :
    Replays log r (chunks.filterMap (·.sliceFrom r)) b := by
  induction h with
  | nil h =>
    obtain rfl := Nat.le_antisymm har hrb
    exact .nil h
  | @cons chunk chunks b h hs ih =>
    by_cases past : chunk.sequenceEnd ≤ r
    · rw [List.filterMap_cons_none (by rw [Chunk.sliceFrom, if_pos past])]
      exact ih past hrb
    · have tail := hs.sliceFrom_eq_self (Nat.le_of_lt (not_le.1 past))
      by_cases start : r ≤ chunk.sequenceStart
      · obtain rfl := Nat.le_antisymm har start
        rw [List.filterMap_cons_some (by rw [Chunk.sliceFrom, if_neg past, if_pos start]), tail]
        exact .cons h hs
      · obtain ⟨k, e⟩ := h.cut (n := r - chunk.sequenceStart) (by
          unfold Chunk.sequenceEnd at past
          omega)
        rw [show chunk.sequenceStart + (r - chunk.sequenceStart) = r by omega] at k e
        rw [List.filterMap_cons_some (by rw [Chunk.sliceFrom, if_neg past, if_neg start]), tail]
        exact .cons k (e ▸ hs)

end Replays

end Ctl.Base
