import Ctl.Base.Newest
import Ctl.Base.Word
import Ctl.Proto.History

/-!
# Logical lines of history rows

The complete logical lines of a list of rows: each run of wrapped rows with the row that ends it is one line,
without its trailing white space, and rows that nothing ends belong to no line. `normalizeHistoryRows` keeps the
newest of them within its byte bound (`normalizeHistoryRows_newest`), and `retainedHistoryTextBytes` counts the
bytes of all of them.
-/

namespace Ctl.Proto
open Ctl.Base

def runs : List TerminalHistoryRow → List (List TerminalHistoryRow)
  | [] => []
  | row :: rows =>
    if row.wrapped then
      match runs rows with
      | [] => []
      | run :: more => (row :: run) :: more
    else [row] :: runs rows

variable (rows : List TerminalHistoryRow) (pending : Text) {row : TerminalHistoryRow}

def rowsText : Text := rows.flatMap (·.text)

def completeLines : List Text := (runs rows).map fun run => trimEnd (rowsText run)

def lineWeight (line : Text) : Nat := utf8Len line + 1

/-- The loop of `retained_history_text_bytes`. -/
def retainedTextLoop : List TerminalHistoryRow → (bytes : Nat) → (pending : Text) → Nat
  | [], bytes, _ => bytes
  | row :: rows, bytes, pending =>
    let pending := pending ++ row.text
    if row.wrapped then retainedTextLoop rows bytes pending
    else retainedTextLoop rows (satAdd (2 ^ 64 - 1) bytes (utf8Len (trimEnd pending) + 1)) []

/-- The bytes of all complete lines (Rust `retained_history_text_bytes`). -/
def retainedHistoryTextBytes : Nat := retainedTextLoop rows 0 []

/-! ### Trailing white space -/

lemma trimEnd_append_trimEnd (front back : Text) : trimEnd (front ++ trimEnd back) = trimEnd (front ++ back) := by
  have split : back.reverse = back.reverse.takeWhile isWhitespace ++ back.reverse.dropWhile isWhitespace :=
    List.takeWhile_append_dropWhile.symm
  unfold trimEnd
  rw [List.reverse_append, List.reverse_append, List.reverse_reverse]
  conv_rhs =>
    rw [split, List.append_assoc, List.dropWhile_append_of_pos fun c mem => List.all_eq_true.1 List.all_takeWhile c mem]

/-! ### Lines that continue a text -/

def linesFrom (rows : List TerminalHistoryRow) : List Text :=
  match runs rows with
  | [] => []
  | run :: more => trimEnd (pending ++ rowsText run) :: more.map fun run => trimEnd (rowsText run)

lemma linesFrom_nil : linesFrom [] rows = completeLines rows := by
  unfold linesFrom completeLines
  cases runs rows with
  | nil => rfl
  | cons run more => rfl

lemma linesFrom_wrapped (rows : List TerminalHistoryRow) (wrapped : row.wrapped = true) :
    linesFrom pending (row :: rows) = linesFrom (pending ++ row.text) rows := by
  unfold linesFrom
  rw [runs, if_pos wrapped]
  cases runs rows with
  | nil => rfl
  | cons run more =>
    show trimEnd (pending ++ (row.text ++ rowsText run)) :: _ = trimEnd (pending ++ row.text ++ rowsText run) :: _
    rw [List.append_assoc]

lemma linesFrom_ends (rows : List TerminalHistoryRow) (ends : row.wrapped = false) :
    linesFrom pending (row :: rows) = trimEnd (pending ++ row.text) :: linesFrom [] rows := by
  rw [linesFrom_nil]
  unfold linesFrom completeLines
  rw [runs, if_neg (by rw [ends]; exact Bool.false_ne_true)]
  show trimEnd (pending ++ (row.text ++ [])) :: _ = _
  rw [List.append_nil]

/-! ### Normalization -/

lemma dropOldest_newest (lines : List Text) :
    Newest lineWeight maxNormalizedHistoryBytes lines (dropOldest lines (weigh lineWeight lines)).1 ∧
      (dropOldest lines (weigh lineWeight lines)).2
        = weigh lineWeight (dropOldest lines (weigh lineWeight lines)).1 := by
  induction lines with
  | nil => exact ⟨.whole (Nat.zero_le _), rfl⟩
  | cons old lines ih =>
    rw [dropOldest]
    split
    case isTrue fits => exact ⟨.whole fits, rfl⟩
    case isFalse heavy =>
      have rest : weigh lineWeight (old :: lines) - (utf8Len old + 1) = weigh lineWeight lines := by
        rw [weigh_cons]
        exact Nat.add_sub_cancel_left _ _
      rw [rest]
      exact ⟨.drop (Nat.lt_of_not_le heavy) ih.1, ih.2⟩

lemma normalizeLoop_newest {all lines : List Text} (h : Newest lineWeight maxNormalizedHistoryBytes all lines) :
    Newest lineWeight maxNormalizedHistoryBytes (all ++ linesFrom pending rows)
      (normalizeLoop rows lines pending (weigh lineWeight lines)) := by
  induction rows generalizing pending all lines with
  | nil =>
    rw [show linesFrom pending [] = [] from rfl, List.append_nil]
    exact h
  | cons row rows ih =>
    rw [normalizeLoop]
    split
    case isTrue wrapped =>
      rw [linesFrom_wrapped pending rows wrapped]
      exact ih _ h
    case isFalse ends =>
      obtain ⟨newest, bytes⟩ := dropOldest_newest (lines ++ [trimEnd (pending ++ row.text)])
      have sum : weigh lineWeight (lines ++ [trimEnd (pending ++ row.text)])
          = weigh lineWeight lines + (utf8Len (trimEnd (pending ++ row.text)) + 1) := by
        rw [weigh_append]
        rfl
      have next := ih [] (h.concat newest)
      rw [← bytes, sum, List.append_assoc] at next
      rw [linesFrom_ends pending rows (Bool.not_eq_true _ ▸ ends)]
      exact next

lemma normalizeHistoryRows_newest :
    Newest lineWeight maxNormalizedHistoryBytes (completeLines rows) (normalizeHistoryRows rows) := by
  have h := normalizeLoop_newest rows [] (.whole (Nat.zero_le _) : Newest lineWeight _ [] [])
  rw [List.nil_append, linesFrom_nil] at h
  exact h

/-! ### Counting -/

lemma retainedTextLoop_eq (bytes : Nat) (pending : Text) :
    retainedTextLoop rows bytes pending
      = ((linesFrom pending rows).map lineWeight).foldl (satAdd (2 ^ 64 - 1)) bytes := by
  induction rows generalizing bytes pending with
  | nil => rfl
  | cons row rows ih =>
    rw [retainedTextLoop]
    split
    case isTrue wrapped => rw [ih, linesFrom_wrapped pending rows wrapped]
    case isFalse ends =>
      rw [ih, linesFrom_ends pending rows (Bool.not_eq_true _ ▸ ends)]
      rfl

lemma retainedHistoryTextBytes_eq :
    retainedHistoryTextBytes rows = min (weigh lineWeight (completeLines rows)) (2 ^ 64 - 1) := by
  rw [retainedHistoryTextBytes, retainedTextLoop_eq, linesFrom_nil, foldl_satAdd _ _ (Nat.zero_le _), Nat.zero_add]
  rfl

end Ctl.Proto
