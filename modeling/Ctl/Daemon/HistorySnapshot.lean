import Ctl.Proto.History

/-!
# Pinned history snapshots

Model of `ctmux/daemon/src/history_snapshot.rs` and of `PinnedHistory` in
`ctmux/daemon/src/server.rs`: the rows captured with a checkpoint are encoded once as one JSON record
a line, newest rows first until the byte bound, and the encoding is served in pages.

`serde_json` and SHA-256 are not part of the repository: a `Codec` holds the four functions the code
calls. The clock is not modelled either: `page` takes the result of `expired` as an argument.

`encode_spec` says which rows are retained: the longest suffix whose encoding is within the bound.
-/

namespace Ctl.Daemon
open Ctl.Base Ctl.Proto

/-- Physical rows captured with a checkpoint, and their logical lines
    (Rust `PhysicalHistory::new`). -/
structure PhysicalHistory where
  rows : List TerminalHistoryRow
  lines : List Text
  lines_eq : lines = normalizeHistoryRows rows

/-- The history of the given rows (Rust `PhysicalHistory::new`). -/
def PhysicalHistory.new (rows : List TerminalHistoryRow) : PhysicalHistory :=
  ⟨rows, normalizeHistoryRows rows, rfl⟩

/-- Keep the current history when its rows are the new ones (Rust `PhysicalHistory::replace`). -/
def PhysicalHistory.replace (current : PhysicalHistory) (rows : List TerminalHistoryRow) : PhysicalHistory :=
  if current.rows = rows then current else .new rows

/-- The functions of `serde_json` and `sha2` that the history code calls. -/
structure Codec where
  /-- `serde_json::to_vec` of a row. -/
  toVec : TerminalHistoryRow → List UInt8
  /-- `serde_json::to_vec` of the plain record of a row, without styles. -/
  plainToVec : (text : Text) → (wrapped : Bool) → List UInt8
  /-- `serde_json::to_vec` of a logical line. -/
  lineToVec : Text → List UInt8
  /-- `serde_json::from_slice` of a row. -/
  fromSlice : List UInt8 → Except String TerminalHistoryRow
  /-- The hexadecimal SHA-256 digest. -/
  sha256 : List UInt8 → String

/-- One encoded window (Rust `EncodedHistory`). -/
structure EncodedHistory where
  data : List UInt8
  contentHash : String
  firstRow : Nat

variable (codec : Codec) (styled : Bool)

def Codec.record (row : TerminalHistoryRow) : List UInt8 :=
  (if styled then codec.toVec row else codec.plainToVec row.text row.wrapped) ++ [10]

def Codec.records (rows : List TerminalHistoryRow) : List UInt8 :=
  rows.flatMap (codec.record styled)

/-- The loop of `encode`, from the newest row to the oldest; returns the index of the first
    retained row and the records from there on. -/
def encodeLoop (codec : Codec) (styled : Bool) : (newestFirst : List TerminalHistoryRow) →
    (totalBytes : Nat) → (data : List UInt8) → Except InvalidData (Nat × List UInt8)
  | [], _, data => .ok (0, data)
  | row :: older, totalBytes, data => do
    validateHistoryRow row
    let record := codec.record styled row
    if maxEncodedHistoryBytes < totalBytes + record.length then
      if styled then .ok (older.length + 1, data)
      else .error ⟨"history snapshot exceeds its byte bound"⟩
    else encodeLoop codec styled older (totalBytes + record.length) (record ++ data)

/-- The encoding of a window (Rust `encode`, cached by `encoded`). -/
def PhysicalHistory.encode (history : PhysicalHistory) (codec : Codec) (styled : Bool) :
    Except InvalidData EncodedHistory := do
  let (firstRow, data) ← encodeLoop codec styled history.rows.reverse 0 []
  return { data, contentHash := codec.sha256 data, firstRow }

/-! ### The pinned snapshot of one attachment -/

/-- `MAX_RECENT_HISTORY_BYTES`. -/
def maxRecentHistoryBytes : Nat := 16 * 1024

/-- `MAX_RECENT_HISTORY_LINES`. -/
def maxRecentHistoryLines : Nat := 64

/-- A request for a page (Rust `HistoryRequest`). -/
structure HistoryRequest where
  snapshotId : String
  offset : Nat
  maxBytes : Nat

inductive HistoryReply where
  | page (snapshotId : String) (offset : Nat) (data : List UInt8) (nextOffset : Option Nat)
  | snapshotExpired (snapshotId : String)
  | invalidRequest

/-- A frozen window that is being transferred (Rust `PinnedHistory`). -/
structure PinnedHistory where
  manifest : TerminalHistoryManifest
  data : List UInt8
  servedEnd : Nat

/-- The loop of `PinnedHistory::new` over the newest lines: the index of the first one that is sent
    inline. -/
def recentStart (codec : Codec) (lines : List Text) : (firstLine : Nat) → (recentBytes : Nat) → Nat
  | 0, _ => 0
  | n + 1, recentBytes =>
    if lines.length - (n + 1) < maxRecentHistoryLines then
      let bytes := (codec.lineToVec (lines.getD n [])).length + 1
      if maxRecentHistoryBytes < recentBytes + bytes then n + 1
      else recentStart codec lines n (recentBytes + bytes)
    else n + 1

/-- Freeze a window under a fresh snapshot id; returns it with the recent lines that are sent
    inline (Rust `PinnedHistory::new`). -/
def PinnedHistory.new (snapshotId : String) (history : TerminalHistorySnapshot) (rows : PhysicalHistory)
    (scrollbackLimit : Nat) (styled : Bool) :
    Except InvalidData (PinnedHistory × TerminalHistorySnapshot) := do
  let encoded ← rows.encode codec styled
  let retained := rows.rows.drop encoded.firstRow
  let lines := if encoded.firstRow = 0 then rows.lines else normalizeHistoryRows retained
  let truncated := history.truncated || decide (encoded.firstRow ≠ 0)
  let firstLine := recentStart codec lines lines.length 0
  let manifest : TerminalHistoryManifest := {
    snapshotId
    sequence := history.sequence
    generation := history.generation
    revision := history.revision
    totalRows := retained.length
    totalBytes := encoded.data.length
    totalLines := lines.length
    firstLine
    truncated
    contentHash := encoded.contentHash
    scrollbackLimit }
  let recent : TerminalHistorySnapshot := { history with
    retainedBytes := if encoded.firstRow = 0 then history.retainedBytes
      else (lines.map fun line => utf8Len line + 1).sum
    truncated
    lines := lines.drop firstLine }
  return ({ manifest, data := encoded.data, servedEnd := 0 }, recent)

/-- Serve one page; `expired` is the result of the idle check (Rust `page`). -/
def PinnedHistory.page (pinned : PinnedHistory) (expired : Bool) (request : HistoryRequest) :
    PinnedHistory × HistoryReply :=
  if expired ∨ request.snapshotId ≠ pinned.manifest.snapshotId then
    (pinned, .snapshotExpired request.snapshotId)
  else if pinned.data.length < request.offset ∨ request.maxBytes = 0 then
    (pinned, .invalidRequest)
  else
    let maxBytes := min request.maxBytes maxHistoryPageBytes
    let stop := min (request.offset + maxBytes) pinned.data.length
    let servedEnd := if request.offset ≤ pinned.servedEnd then max pinned.servedEnd stop
      else pinned.servedEnd
    ({ pinned with servedEnd }, .page pinned.manifest.snapshotId request.offset
      ((pinned.data.drop request.offset).take (stop - request.offset))
      (if stop < pinned.data.length then some stop else none))

/-! ### What is retained -/

lemma recentStart_le (lines : List Text) (n bytes : Nat) : recentStart codec lines n bytes ≤ n := by
  induction n generalizing bytes with
  | zero => exact le_refl 0
  | succ n ih =>
    simp only [recentStart]
    split
    · split
      · exact le_refl _
      · exact le_trans (ih _) (Nat.le_succ n)
    · exact le_refl _

/-- From index `first` on, the rows are the longest suffix whose encoding is within the bound. -/
structure Retains (codec : Codec) (styled : Bool) (rows : List TerminalHistoryRow) (first : Nat) :
    Prop where
  le : first ≤ rows.length
  within : (codec.records styled (rows.drop first)).length ≤ maxEncodedHistoryBytes
  longest : ∀ n < first, maxEncodedHistoryBytes < (codec.records styled (rows.drop n)).length

lemma length_records_drop_le (rows : List TerminalHistoryRow) {m n : Nat} (h : m ≤ n) :
    (codec.records styled (rows.drop n)).length
      ≤ (codec.records styled (rows.drop m)).length := by
  obtain ⟨k, rfl⟩ := Nat.exists_eq_add_of_le h
  rw [← List.drop_drop]
  generalize rows.drop m = tail
  conv_rhs => rw [← List.take_append_drop k tail]
  simp only [Codec.records, List.flatMap_append, List.length_append]
  omega

lemma records_cons (row : TerminalHistoryRow) (rows : List TerminalHistoryRow) :
    codec.records styled (row :: rows) = codec.record styled row ++ codec.records styled rows := rfl

lemma encodeLoop_spec {styled : Bool} (older done : List TerminalHistoryRow)
    (valid : ∀ row ∈ older, validateHistoryRow row = .ok ())
    (within : (codec.records styled done).length ≤ maxEncodedHistoryBytes)
    (bound : styled = true ∨
      (codec.records styled (older.reverse ++ done)).length ≤ maxEncodedHistoryBytes) :
    ∃ first, encodeLoop codec styled older (codec.records styled done).length
          (codec.records styled done)
        = .ok (first, codec.records styled ((older.reverse ++ done).drop first)) ∧
      Retains codec styled (older.reverse ++ done) first := by
  induction older generalizing done with
  | nil => exact ⟨0, rfl, Nat.zero_le _, within, fun n hn => absurd hn (Nat.not_lt_zero n)⟩
  | cons row older ih =>
    have step : (row :: older).reverse ++ done = older.reverse ++ row :: done := by simp
    have drop : (older.reverse ++ row :: done).drop older.length = row :: done := by
      rw [← List.length_reverse, List.drop_left]
    rw [step] at bound ⊢
    have more : (codec.records styled done).length + (codec.record styled row).length
        = (codec.records styled (row :: done)).length := by
      rw [records_cons, List.length_append, Nat.add_comm]
    rw [encodeLoop, valid row List.mem_cons_self]
    simp only [more, ← records_cons]
    by_cases large : maxEncodedHistoryBytes < (codec.records styled (row :: done)).length
    · have suffix : maxEncodedHistoryBytes
          < (codec.records styled ((older.reverse ++ row :: done).drop older.length)).length := by
        rwa [drop]
      have isStyled : styled = true := by
        refine bound.resolve_right fun le => ?_
        have := length_records_drop_le codec styled (older.reverse ++ row :: done)
          (Nat.zero_le older.length)
        rw [List.drop_zero] at this
        omega
      have tail : (older.reverse ++ row :: done).drop (older.length + 1) = done := by
        rw [← List.drop_drop, drop, List.drop_one, List.tail_cons]
      refine ⟨older.length + 1, ?_, by simp, by rwa [tail], fun n hn => ?_⟩
      · rw [tail, if_pos large, if_pos isStyled]
        rfl
      · exact lt_of_lt_of_le suffix (length_records_drop_le codec styled _ (by omega))
    · obtain ⟨first, ok, retains⟩ := ih (row :: done)
        (fun r hr => valid r (List.mem_cons_of_mem row hr)) (not_lt.1 large) bound
      exact ⟨first, by rw [if_neg large]; exact ok, retains⟩

lemma encodeLoop_refuses (older done : List TerminalHistoryRow)
    (valid : ∀ row ∈ older, validateHistoryRow row = .ok ())
    (within : (codec.records false done).length ≤ maxEncodedHistoryBytes)
    (large : maxEncodedHistoryBytes < (codec.records false (older.reverse ++ done)).length) :
    encodeLoop codec false older (codec.records false done).length (codec.records false done)
      = .error ⟨"history snapshot exceeds its byte bound"⟩ := by
  induction older generalizing done with
  | nil => exact absurd within (not_le.2 large)
  | cons row older ih =>
    have step : (row :: older).reverse ++ done = older.reverse ++ row :: done := by simp
    rw [step] at large
    have more : (codec.records false done).length + (codec.record false row).length
        = (codec.records false (row :: done)).length := by
      rw [records_cons, List.length_append, Nat.add_comm]
    rw [encodeLoop, valid row List.mem_cons_self]
    simp only [more, ← records_cons]
    by_cases beyond : maxEncodedHistoryBytes < (codec.records false (row :: done)).length
    · rw [if_pos beyond]
      rfl
    · rw [if_neg beyond]
      exact ih (row :: done) (fun r hr => valid r (List.mem_cons_of_mem row hr)) (not_lt.1 beyond) large

lemma encode_spec {styled : Bool} (history : PhysicalHistory)
    (valid : ∀ row ∈ history.rows, validateHistoryRow row = .ok ())
    (bound : styled = true ∨
      (codec.records styled history.rows).length ≤ maxEncodedHistoryBytes) :
    ∃ first, Retains codec styled history.rows first ∧ history.encode codec styled = .ok {
      data := codec.records styled (history.rows.drop first)
      contentHash := codec.sha256 (codec.records styled (history.rows.drop first))
      firstRow := first } := by
  obtain ⟨first, ok, retains⟩ := encodeLoop_spec codec history.rows.reverse []
    (fun r hr => valid r (List.mem_reverse.1 hr)) (Nat.zero_le _) (by simpa using bound)
  rw [List.reverse_reverse, List.append_nil] at ok retains
  change encodeLoop codec styled history.rows.reverse 0 [] = _ at ok
  exact ⟨first, retains, by rw [PhysicalHistory.encode, ok]; rfl⟩

end Ctl.Daemon
