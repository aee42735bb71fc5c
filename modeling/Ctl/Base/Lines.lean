import Mathlib.Data.List.Infix
import Mathlib.Tactic.Common

/-!
# Lines of a file

A sequence is cut behind every separator (`splitInclusive`). When it ends with a separator, what is appended
begins a new line (`splitInclusive_ended`); otherwise the last line grows (`splitInclusive_grow`).
-/

namespace Ctl.Base

/-- Cut a sequence behind every occurrence of a separator (Rust `split_inclusive`). -/
def splitInclusive (sep : UInt8) : List UInt8 → List (List UInt8)
  | [] => []
  | byte :: bytes =>
    if byte = sep then [byte] :: splitInclusive sep bytes
    else match splitInclusive sep bytes with
      | [] => [[byte]]
      | record :: records => (byte :: record) :: records

variable {sep : UInt8} {bytes : List UInt8}

lemma splitInclusive_cons (byte : UInt8) (bytes : List UInt8) :
    splitInclusive sep (byte :: bytes) =
      if byte = sep then [byte] :: splitInclusive sep bytes
      else match splitInclusive sep bytes with
        | [] => [[byte]]
        | record :: records => (byte :: record) :: records := rfl

lemma splitInclusive_last (byte : UInt8) : splitInclusive sep [byte] = [[byte]] := by
  rw [splitInclusive_cons]
  split <;> rfl

lemma splitInclusive_append {front : List UInt8} (h : sep ∉ front) (bytes : List UInt8) :
    splitInclusive sep (front ++ sep :: bytes) = (front ++ [sep]) :: splitInclusive sep bytes := by
  induction front with
  | nil => exact if_pos rfl
  | cons byte front ih =>
    rw [List.mem_cons, not_or] at h
    rw [List.cons_append, splitInclusive_cons, if_neg (Ne.symm h.1), ih h.2]
    rfl

lemma splitInclusive_single {line : List UInt8} (some : line ≠ []) (h : sep ∉ line) :
    splitInclusive sep line = [line] := by
  induction line with
  | nil => exact absurd rfl some
  | cons byte line ih =>
    rw [List.mem_cons, not_or] at h
    rw [splitInclusive_cons, if_neg (Ne.symm h.1)]
    cases line with
    | nil => rfl
    | cons next line => rw [ih (List.cons_ne_nil _ _) h.2]

lemma splitInclusive_ne_nil (some : bytes ≠ []) : splitInclusive sep bytes ≠ [] := by
  cases bytes with
  | nil => exact absurd rfl some
  | cons byte bytes =>
    rw [splitInclusive_cons]
    split
    · exact List.cons_ne_nil _ _
    · split <;> exact List.cons_ne_nil _ _

lemma flatten_splitInclusive (bytes : List UInt8) : (splitInclusive sep bytes).flatten = bytes := by
  induction bytes with
  | nil => rfl
  | cons byte bytes ih =>
    rw [splitInclusive_cons]
    split
    · rw [List.flatten_cons, ih]
      rfl
    · cases cut : splitInclusive sep bytes with
      | nil =>
        rw [cut] at ih
        rw [← ih]
        rfl
      | cons line lines =>
        rw [cut] at ih
        rw [← ih]
        rfl

lemma splitInclusive_ended (ended : bytes.getLast? = none ∨ bytes.getLast? = some sep) (more : List UInt8) :
    splitInclusive sep (bytes ++ more) = splitInclusive sep bytes ++ splitInclusive sep more := by
  induction bytes with
  | nil => rfl
  | cons byte bytes ih =>
    cases bytes with
    | nil =>
      obtain rfl : byte = sep := by simpa using ended
      rw [splitInclusive_last]
      exact if_pos rfl
    | cons next bytes =>
      have rest := ih (by simpa [List.getLast?_cons_cons] using ended)
      obtain ⟨line, lines, cut⟩ := List.exists_cons_of_ne_nil
        (splitInclusive_ne_nil (List.cons_ne_nil next bytes) : splitInclusive sep (next :: bytes) ≠ [])
      rw [List.cons_append, splitInclusive_cons byte, rest, splitInclusive_cons byte, cut]
      split <;> rfl

lemma splitInclusive_grow (present : bytes ≠ []) (unended : bytes.getLast? ≠ some sep) :
    ∃ lines last, splitInclusive sep bytes = lines ++ [last] ∧ last ≠ [] ∧ last.getLast? ≠ some sep ∧
      splitInclusive sep (bytes ++ [sep]) = lines ++ [last ++ [sep]] := by
  induction bytes with
  | nil => exact absurd rfl present
  | cons byte bytes ih =>
    cases bytes with
    | nil =>
      have other : byte ≠ sep := fun same => unended (by rw [same]; rfl)
      refine ⟨[], [byte], splitInclusive_last byte, List.cons_ne_nil _ _, unended, ?_⟩
      rw [List.singleton_append, splitInclusive_cons, if_neg other, splitInclusive_last]
      rfl
    | cons next bytes =>
      obtain ⟨lines, last, cut, nonempty, unended', cut'⟩ :=
        ih (List.cons_ne_nil _ _) (by simpa [List.getLast?_cons_cons] using unended)
      rw [List.cons_append, splitInclusive_cons byte, splitInclusive_cons byte, cut, cut']
      by_cases same : byte = sep
      · rw [if_pos same, if_pos same]
        exact ⟨[byte] :: lines, last, rfl, nonempty, unended', rfl⟩
      · rw [if_neg same, if_neg same]
        cases lines with
        | nil =>
          refine ⟨[], byte :: last, rfl, List.cons_ne_nil _ _, ?_, rfl⟩
          obtain ⟨head, tail, rfl⟩ := List.exists_cons_of_ne_nil nonempty
          rwa [List.getLast?_cons_cons]
        | cons line lines => exact ⟨(byte :: line) :: lines, last, rfl, nonempty, unended', rfl⟩

end Ctl.Base
