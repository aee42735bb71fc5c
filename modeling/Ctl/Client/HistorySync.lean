import Ctl.Base.Chunks
import Ctl.Base.Lines
import Ctl.Daemon.HistorySnapshot

/-!
# History transfers

Model of `ctmux/client/src/history_sync.rs`: the client assembles the pages of one pinned history,
checks them against the manifest, and decodes the rows. `transferLoop` is the exchange of requests
and pages with the daemon's `PinnedHistory`, for any sequence of page sizes.

`Accepted` is the invariant of the exchange: the client holds a front part of the pinned data.
`round_accepted` is one request and its page, `transferLoop_complete` the whole exchange, and
`finish_rows` the decoding of what arrived.
-/

namespace Ctl.Client
open Ctl.Base Ctl.Proto Ctl.Daemon

/-- A refused history snapshot (Rust `ClientError::InvalidHistorySnapshot`). -/
structure InvalidHistorySnapshot where
  message : String
  deriving DecidableEq

/-- The rows and lines of a finished transfer (Rust `AttachmentEvent::HistorySynced`). -/
structure HistorySynced where
  snapshotId : String
  checkpoint : TerminalCheckpoint
  history : TerminalHistorySnapshot
  rows : List TerminalHistoryRow
  scrollbackLimit : Nat
  historyGap : Bool

/-- One transfer of a pinned history (Rust `HistoryTransfer`). -/
structure HistoryTransfer where
  manifest : TerminalHistoryManifest
  checkpoint : TerminalCheckpoint
  history : TerminalHistorySnapshot
  historyGap : Bool
  bytes : List UInt8

/-- A hexadecimal digit (Rust `u8::is_ascii_hexdigit`). -/
def isHexDigit (c : Char) : Bool :=
  ('0' ≤ c && c ≤ '9') || ('a' ≤ c && c ≤ 'f') || ('A' ≤ c && c ≤ 'F')

def isHash (hash : String) : Bool := hash.toList.length = 64 && hash.toList.all isHexDigit

namespace HistoryTransfer

/-- Start a transfer whose manifest matches its checkpoint (Rust `HistoryTransfer::new`). -/
def new (manifest : TerminalHistoryManifest) (checkpoint : TerminalCheckpoint) (history : TerminalHistorySnapshot)
    (historyGap : Bool) : Except InvalidHistorySnapshot HistoryTransfer :=
  if manifest.snapshotId.isEmpty ∨ manifest.sequence ≠ checkpoint.sequence ∨
      manifest.generation ≠ history.generation ∨ manifest.revision ≠ history.revision ∨
      maxEncodedHistoryBytes < manifest.totalBytes ∨
      manifest.scrollbackLimit < manifest.totalRows ∨ 10000 < manifest.scrollbackLimit ∨
      manifest.firstLine + history.lines.length ≠ manifest.totalLines ∨
      ¬ isHash manifest.contentHash then
    .error ⟨"history manifest does not match its checkpoint"⟩
  else .ok ⟨manifest, checkpoint, history, historyGap, []⟩

/-- The next page request (Rust `request`). -/
def request (transfer : HistoryTransfer) : HistoryRequest :=
  ⟨transfer.manifest.snapshotId, transfer.bytes.length, maxHistoryPageBytes⟩

/-- All announced bytes have arrived (Rust `is_complete`). -/
def isComplete (transfer : HistoryTransfer) : Bool :=
  transfer.bytes.length = transfer.manifest.totalBytes

/-- Append one page (Rust `accept_page`). -/
def acceptPage (transfer : HistoryTransfer) (offset : Nat) (data : List UInt8)
    (nextOffset : Option Nat) : Except InvalidHistorySnapshot HistoryTransfer :=
  let stop := offset + data.length
  if offset ≠ transfer.bytes.length ∨ maxHistoryPageBytes < data.length ∨
      transfer.manifest.totalBytes < stop ∨ (data.isEmpty ∧ ¬ transfer.isComplete) ∨
      nextOffset ≠ (if stop < transfer.manifest.totalBytes then some stop else none) then
    .error ⟨"history page is outside its requested snapshot range"⟩
  else .ok { transfer with bytes := transfer.bytes ++ data }

/-- Decode and check the records (the loop of `finish`). -/
def decodeRecords (codec : Codec) :
    List (List UInt8) → Except InvalidHistorySnapshot (List TerminalHistoryRow)
  | [] => .ok []
  | record :: records =>
    if record.getLast? ≠ some 10 then
      .error ⟨"history snapshot contains an incomplete record"⟩
    else match codec.fromSlice record.dropLast with
      | .error message => .error ⟨message⟩
      | .ok row => match validateHistoryRow row with
        | .error e => .error ⟨e.message⟩
        | .ok () => do
          let rows ← decodeRecords codec records
          return row :: rows

/-- Check and decode a complete transfer (Rust `finish`). -/
def finish (transfer : HistoryTransfer) (codec : Codec) : Except InvalidHistorySnapshot HistorySynced :=
  if ¬ transfer.isComplete ∨ codec.sha256 transfer.bytes ≠ transfer.manifest.contentHash then
    .error ⟨"history snapshot checksum does not match"⟩
  else do
    let rows ← decodeRecords codec (splitInclusive 10 transfer.bytes)
    if rows.length ≠ transfer.manifest.totalRows then
      .error ⟨"history snapshot row count does not match"⟩
    else
      let lines := normalizeHistoryRows rows
      if lines.length ≠ transfer.manifest.totalLines then
        .error ⟨"history snapshot line count does not match"⟩
      else .ok {
        snapshotId := transfer.manifest.snapshotId
        checkpoint := transfer.checkpoint
        history := { transfer.history with
          lines
          retainedBytes := (lines.map fun line => utf8Len line + 1).sum
          truncated := transfer.manifest.truncated }
        rows
        scrollbackLimit := transfer.manifest.scrollbackLimit
        historyGap := transfer.historyGap || transfer.manifest.truncated }

end HistoryTransfer

/-! ### The exchange with the daemon -/

/-- One request for `maxBytes` bytes and the daemon's answer; `none` when the answer is not a page
    of this transfer or the page is refused (Rust `process_history_page`). -/
def round (maxBytes : Nat) (parties : PinnedHistory × HistoryTransfer) : Option (PinnedHistory × HistoryTransfer) :=
  let (pinned, transfer) := parties
  match pinned.page false { transfer.request with maxBytes } with
  | (pinned, .page snapshotId offset data nextOffset) =>
    if snapshotId ≠ transfer.manifest.snapshotId then none else
    match transfer.acceptPage offset data nextOffset with
    | .ok transfer => some (pinned, transfer)
    | .error _ => none
  | _ => none

/-- Request pages of the sizes `sizes i, sizes (i + 1), …` until the transfer is complete; `none`
    when a page is refused or `fuel` pages were not enough. -/
def transferLoop (sizes : Nat → Nat) : (fuel i : Nat) → PinnedHistory × HistoryTransfer →
    Option (PinnedHistory × HistoryTransfer)
  | fuel, i, parties =>
    if parties.2.isComplete then some parties else
    match fuel with
    | 0 => none
    | fuel + 1 => (round (sizes i) parties).bind (transferLoop sizes fuel (i + 1))

/-- The client holds a front part of the pinned data, whose length it knows. -/
structure Accepted (pinned : PinnedHistory) (transfer : HistoryTransfer) : Prop where
  snapshotId : transfer.manifest.snapshotId = pinned.manifest.snapshotId
  total : transfer.manifest.totalBytes = pinned.data.length
  bytes : transfer.bytes = pinned.data.take transfer.bytes.length
  le : transfer.bytes.length ≤ pinned.data.length

variable {pinned : PinnedHistory} {transfer : HistoryTransfer} {rows : List TerminalHistoryRow} {maxBytes : Nat}

lemma Accepted.eq_data (h : Accepted pinned transfer) (complete : transfer.isComplete = true) :
    transfer.bytes = pinned.data := by
  rw [HistoryTransfer.isComplete, h.total, decide_eq_true_iff] at complete
  have := h.bytes
  rwa [complete, List.take_length] at this

lemma page_spec (pinned : PinnedHistory) {offset : Nat} (pos : 0 < maxBytes) (short : offset < pinned.data.length) :
    ∃ servedEnd stop, offset < stop ∧ stop ≤ offset + maxHistoryPageBytes ∧
      stop ≤ pinned.data.length ∧
      pinned.page false ⟨pinned.manifest.snapshotId, offset, maxBytes⟩
        = ({ pinned with servedEnd }, .page pinned.manifest.snapshotId offset
          (range pinned.data offset stop) (if stop < pinned.data.length then some stop else none)) := by
  have page : 0 < maxHistoryPageBytes := by decide
  rw [PinnedHistory.page, if_neg (by simp), if_neg (by simp only; omega)]
  exact ⟨_, min (offset + min maxBytes maxHistoryPageBytes) pinned.data.length,
    by omega, by omega, by omega, rfl⟩

lemma acceptPage_spec (h : Accepted pinned transfer) {stop : Nat} (lt : transfer.bytes.length < stop)
    (page : stop ≤ transfer.bytes.length + maxHistoryPageBytes) (le : stop ≤ pinned.data.length) :
    transfer.acceptPage transfer.bytes.length (range pinned.data transfer.bytes.length stop)
        (if stop < pinned.data.length then some stop else none)
      = .ok { transfer with bytes := pinned.data.take stop } := by
  have length := length_range (a := transfer.bytes.length) le
  have stopEq : transfer.bytes.length + (range pinned.data transfer.bytes.length stop).length
      = stop := by omega
  have nonempty : (range pinned.data transfer.bytes.length stop).isEmpty = false := by
    rw [List.isEmpty_eq_false_iff, ← List.length_pos_iff]
    omega
  have joined : transfer.bytes ++ range pinned.data transfer.bytes.length stop
      = pinned.data.take stop := by
    conv_lhs => lhs; rw [h.bytes]
    simpa [range] using @range_append_range _ pinned.data _ _ _ (Nat.zero_le _) lt.le
  rw [HistoryTransfer.acceptPage]
  simp only [stopEq, h.total, nonempty, joined]
  refine if_neg ?_
  simp only [Bool.false_eq_true, false_and, false_or, not_or, ne_eq, not_not, not_lt]
  exact ⟨trivial, by omega, le, trivial⟩

lemma round_accepted (h : Accepted pinned transfer) (pos : 0 < maxBytes) (incomplete : transfer.isComplete = false) :
    ∃ pinned' bytes, round maxBytes (pinned, transfer) = some (pinned', { transfer with bytes }) ∧
      Accepted pinned' { transfer with bytes } ∧ pinned'.data = pinned.data ∧
      transfer.bytes.length < bytes.length := by
  have short : transfer.bytes.length < pinned.data.length := by
    rw [HistoryTransfer.isComplete, h.total, decide_eq_false_iff_not] at incomplete
    exact lt_of_le_of_ne h.le incomplete
  obtain ⟨servedEnd, stop, lt, small, le, hpage⟩ := page_spec pinned pos short
  have accepted := acceptPage_spec h lt small le
  have length : (pinned.data.take stop).length = stop := by
    rw [List.length_take]
    omega
  refine ⟨{ pinned with servedEnd }, pinned.data.take stop, ?_,
    ⟨h.snapshotId, h.total, by rw [length], by rwa [length]⟩, rfl, by omega⟩
  simp only [round, HistoryTransfer.request, h.snapshotId, hpage, accepted, ne_eq, not_true,
    if_false]

lemma transferLoop_complete {sizes : Nat → Nat} (h : Accepted pinned transfer) (pos : ∀ i, 0 < sizes i) (fuel : Nat)
    (enough : pinned.data.length ≤ transfer.bytes.length + fuel) (i : Nat) :
    ∃ pinned', transferLoop sizes fuel i (pinned, transfer)
      = some (pinned', { transfer with bytes := pinned.data }) := by
  induction fuel generalizing pinned transfer i with
  | zero =>
    have complete : transfer.isComplete = true := by
      have := h.le
      rw [HistoryTransfer.isComplete, h.total, decide_eq_true_iff]
      omega
    exact ⟨pinned, by rw [transferLoop, if_pos complete, ← h.eq_data complete]⟩
  | succ fuel ih =>
    by_cases complete : transfer.isComplete = true
    · exact ⟨pinned, by rw [transferLoop, if_pos complete, ← h.eq_data complete]⟩
    · obtain ⟨next, bytes, hround, accepted, hdata, further⟩ :=
        round_accepted h (pos i) (Bool.not_eq_true _ ▸ complete)
      obtain ⟨pinned', hloop⟩ := ih accepted (by rw [hdata]; simp only; omega) (i + 1)
      refine ⟨pinned', ?_⟩
      rw [transferLoop, if_neg complete, hround, Option.bind_some, hloop, hdata]

/-! ### Decoding -/

variable (codec : Codec) (styled : Bool)

def transferred (row : TerminalHistoryRow) : TerminalHistoryRow :=
  if styled then row else { row with styles := [] }

/-- What `serde_json` promises about the record of a row: it holds no newline, and reading it back
    gives the row that was written. -/
structure ReadsBack (codec : Codec) (styled : Bool) (row : TerminalHistoryRow) : Prop where
  newline : 10 ∉ (codec.record styled row).dropLast
  decode : codec.fromSlice (codec.record styled row).dropLast
    = .ok (transferred styled row)

lemma record_eq (row : TerminalHistoryRow) : codec.record styled row = (codec.record styled row).dropLast ++ [10] := by
  simp [Codec.record]

lemma splitInclusive_records {codec : Codec} {styled : Bool} (h : ∀ row ∈ rows, ReadsBack codec styled row) :
    splitInclusive 10 (codec.records styled rows) = rows.map (codec.record styled) := by
  induction rows with
  | nil => rfl
  | cons row rows ih =>
    have tail := ih fun r hr => h r (List.mem_cons_of_mem row hr)
    rw [records_cons, record_eq, List.append_assoc, List.singleton_append,
      splitInclusive_append (h row List.mem_cons_self).newline, ← record_eq, tail, List.map_cons]

lemma validate_transferred {row : TerminalHistoryRow} (h : validateHistoryRow row = .ok ()) :
    validateHistoryRow (transferred styled row) = .ok () := by
  cases styled
  case true => exact h
  case false =>
    unfold validateHistoryRow at h
    split at h
    · cases h
    · rename_i noControl
      split at h
      · cases h
      · rename_i short
        exact (if_neg noControl).trans (if_neg short)

lemma decodeRecords_spec (valid : ∀ row ∈ rows, validateHistoryRow row = .ok ())
    (h : ∀ row ∈ rows, ReadsBack codec styled row) :
    HistoryTransfer.decodeRecords codec (rows.map (codec.record styled))
      = .ok (rows.map (transferred styled)) := by
  induction rows with
  | nil => rfl
  | cons row rows ih =>
    have tail := ih (fun r hr => valid r (List.mem_cons_of_mem row hr))
      (fun r hr => h r (List.mem_cons_of_mem row hr))
    have last : (codec.record styled row).getLast? = some 10 := by simp [Codec.record]
    have checked := validate_transferred styled (valid row List.mem_cons_self)
    simp only [List.map_cons, HistoryTransfer.decodeRecords, last, ne_eq, not_true, if_false,
      (h row List.mem_cons_self).decode, checked, tail]
    rfl

lemma normalizeLoop_map {f : TerminalHistoryRow → TerminalHistoryRow}
    (text : ∀ row, (f row).text = row.text) (wrapped : ∀ row, (f row).wrapped = row.wrapped)
    (rows : List TerminalHistoryRow) (lines : List Text) (pending : Text) (bytes : Nat) :
    normalizeLoop (rows.map f) lines pending bytes = normalizeLoop rows lines pending bytes := by
  induction rows generalizing lines pending bytes with
  | nil => rfl
  | cons row rows ih => simp only [List.map_cons, normalizeLoop, ih, text, wrapped]

lemma normalize_transferred (rows : List TerminalHistoryRow) :
    normalizeHistoryRows (rows.map (transferred styled)) = normalizeHistoryRows rows := by
  refine normalizeLoop_map ?_ ?_ rows [] [] 0 <;> intro row <;> cases styled <;> rfl

lemma finish_spec (transfer : HistoryTransfer) (codec : Codec)
    (complete : transfer.bytes.length = transfer.manifest.totalBytes)
    (hash : transfer.manifest.contentHash = codec.sha256 transfer.bytes)
    (decoded : HistoryTransfer.decodeRecords codec (splitInclusive 10 transfer.bytes) = .ok rows)
    (count : rows.length = transfer.manifest.totalRows)
    (lines : (normalizeHistoryRows rows).length = transfer.manifest.totalLines) :
    ∃ synced, transfer.finish codec = .ok synced ∧ synced.rows = rows ∧
      synced.history.lines = normalizeHistoryRows rows := by
  have start : ¬ (¬ transfer.isComplete = true ∨
      codec.sha256 transfer.bytes ≠ transfer.manifest.contentHash) := by
    simp [HistoryTransfer.isComplete, complete, hash]
  rw [HistoryTransfer.finish, if_neg start, decoded]
  refine ⟨_, (if_neg (not_not.2 count)).trans (if_neg (not_not.2 lines)), rfl, rfl⟩

/-! ### The whole transfer -/

lemma pinned_spec (snapshotId : String) (history : TerminalHistorySnapshot) {rows : PhysicalHistory} (limit : Nat)
    {styled : Bool} (valid : ∀ row ∈ rows.rows, validateHistoryRow row = .ok ())
    (bound : styled = true ∨ (codec.records styled rows.rows).length ≤ maxEncodedHistoryBytes) :
    ∃ first pinned recent,
      PinnedHistory.new codec snapshotId history rows limit styled = .ok (pinned, recent) ∧
      Retains codec styled rows.rows first ∧
      pinned.data = codec.records styled (rows.rows.drop first) ∧
      pinned.manifest.snapshotId = snapshotId ∧ pinned.manifest.sequence = history.sequence ∧
      pinned.manifest.generation = recent.generation ∧
      pinned.manifest.revision = recent.revision ∧
      pinned.manifest.totalBytes = pinned.data.length ∧
      pinned.manifest.totalRows = (rows.rows.drop first).length ∧
      pinned.manifest.scrollbackLimit = limit ∧
      pinned.manifest.contentHash = codec.sha256 pinned.data ∧
      pinned.manifest.totalLines = (normalizeHistoryRows (rows.rows.drop first)).length ∧
      pinned.manifest.firstLine ≤ pinned.manifest.totalLines ∧
      recent.lines = (normalizeHistoryRows (rows.rows.drop first)).drop pinned.manifest.firstLine := by
  obtain ⟨first, retains, encoded⟩ := encode_spec codec rows valid bound
  have lines : (if first = 0 then rows.lines else normalizeHistoryRows (rows.rows.drop first))
      = normalizeHistoryRows (rows.rows.drop first) := by
    split
    · rename_i zero
      rw [rows.lines_eq, zero, List.drop_zero]
    · rfl
  rw [PinnedHistory.new, encoded]
  refine ⟨first, _, _, rfl, retains, rfl, rfl, rfl, rfl, rfl, rfl, rfl, rfl, rfl, ?_, ?_, ?_⟩
  · simp only [lines]
  · exact recentStart_le _ _ _ _
  · simp only [lines]

/-- The transfer of a pinned history: its manifest is accepted, the exchange ends with every page
    accepted whatever page sizes are requested, and `finish` returns the retained rows (without
    styles for the contracts that omit them) with the lines the manifest announced. -/
theorem transfer_roundTrip {codec : Codec} {snapshotId : String} {rows : PhysicalHistory}
    {history : TerminalHistorySnapshot} {checkpoint : TerminalCheckpoint} {limit : Nat} (styled gap : Bool)
    (hashes : ∀ data, isHash (codec.sha256 data) = true) (reads : ∀ row ∈ rows.rows, ReadsBack codec styled row)
    (valid : ∀ row ∈ rows.rows, validateHistoryRow row = .ok ()) (id : snapshotId ≠ "")
    (sequence : history.sequence = checkpoint.sequence) (count : rows.rows.length ≤ limit) (cap : limit ≤ 10000) :
    (styled = false → maxEncodedHistoryBytes < (codec.records false rows.rows).length →
      PinnedHistory.new codec snapshotId history rows limit styled
        = .error ⟨"history snapshot exceeds its byte bound"⟩) ∧
    (styled = true ∨ (codec.records styled rows.rows).length ≤ maxEncodedHistoryBytes →
      ∃ first pinned recent transfer, Retains codec styled rows.rows first ∧
        PinnedHistory.new codec snapshotId history rows limit styled = .ok (pinned, recent) ∧
        HistoryTransfer.new pinned.manifest checkpoint recent gap = .ok transfer ∧
        ∀ sizes : Nat → Nat, (∀ i, 0 < sizes i) → ∃ pinned' complete synced,
          transferLoop sizes pinned.data.length 0 (pinned, transfer) = some (pinned', complete) ∧
          complete.finish codec = .ok synced ∧
          synced.rows = (rows.rows.drop first).map (transferred styled) ∧
          synced.history.lines = normalizeHistoryRows (rows.rows.drop first) ∧
          synced.history.lines.length = pinned.manifest.totalLines ∧
          recent.lines = synced.history.lines.drop pinned.manifest.firstLine) := by
  constructor
  · rintro rfl large
    have refused := encodeLoop_refuses codec rows.rows.reverse []
      (fun r hr => valid r (List.mem_reverse.1 hr)) (Nat.zero_le _)
      (by rwa [List.reverse_reverse, List.append_nil])
    change encodeLoop codec false rows.rows.reverse 0 [] = _ at refused
    rw [PinnedHistory.new, PhysicalHistory.encode, refused]
    rfl
  · intro bound
    obtain ⟨first, pinned, recent, new, retains, data, hid, hsequence, generation, revision, total,
      hrows, hlimit, hash, hlines, firstLine, recentLines⟩ :=
        pinned_spec codec snapshotId history limit valid bound
    have kept : ∀ row ∈ rows.rows.drop first, row ∈ rows.rows := fun _ => List.mem_of_mem_drop
    -- The manifest matches its checkpoint.
    have accepted : HistoryTransfer.new pinned.manifest checkpoint recent gap
        = .ok ⟨pinned.manifest, checkpoint, recent, gap, []⟩ := by
      refine if_neg ?_
      have within := retains.within
      rw [← data] at within
      have dropped : (rows.rows.drop first).length ≤ rows.rows.length := by simp
      have recentLength : recent.lines.length
          = pinned.manifest.totalLines - pinned.manifest.firstLine := by
        rw [recentLines, List.length_drop, hlines]
      rw [hid, hsequence, total, hrows, hlimit, hash]
      simp only [hashes, not_or, not_lt, ne_eq, not_not, String.isEmpty_iff]
      exact ⟨id, sequence, generation, revision, within, by omega, cap, by omega, trivial⟩
    refine ⟨first, pinned, recent, _, retains, new, accepted, fun sizes pos => ?_⟩
    have start : Accepted pinned ⟨pinned.manifest, checkpoint, recent, gap, []⟩ :=
      ⟨rfl, total, by simp, by simp⟩
    obtain ⟨pinned', loop⟩ := transferLoop_complete start pos pinned.data.length
      (Nat.le_add_left _ _) 0
    have records : splitInclusive 10 pinned.data
        = (rows.rows.drop first).map (codec.record styled) := by
      rw [data]
      exact splitInclusive_records fun row hr => reads row (kept row hr)
    have decoded := decodeRecords_spec codec styled (fun row hr => valid row (kept row hr))
      (fun row hr => reads row (kept row hr))
    obtain ⟨synced, finished, syncedRows, syncedLines⟩ := finish_spec
      ⟨pinned.manifest, checkpoint, recent, gap, pinned.data⟩ codec total.symm hash
      (records ▸ decoded) (by rw [List.length_map, hrows]) (by rw [normalize_transferred, hlines])
    rw [normalize_transferred] at syncedLines
    exact ⟨pinned', _, synced, loop, finished, syncedRows, syncedLines, by rw [syncedLines, hlines],
      by rw [recentLines, syncedLines]⟩

/-! ### A styled row -/

def ascii (text : String) : List UInt8 := text.toList.map fun c => UInt8.ofNat c.toNat

def boldRow : TerminalHistoryRow :=
  ⟨['a', 'b'], false, [⟨0, 1, { TerminalStyle.default with bold := true }⟩]⟩

/-- The JSON records of `boldRow` with and without its styles, and their digests. -/
def boldCodec : Codec where
  toVec _ := ascii "\x7b\"text\":\"ab\",\"wrapped\":false,\"styles\":" ++
    ascii "[\x7b\"start\":0,\"length\":1,\"style\":\x7b\"bold\":true\x7d\x7d]\x7d"
  plainToVec _ _ := ascii "\x7b\"text\":\"ab\",\"wrapped\":false\x7d"
  lineToVec _ := ascii "\"ab\""
  fromSlice bytes :=
    if bytes = ascii "\x7b\"text\":\"ab\",\"wrapped\":false\x7d" then
      .ok { boldRow with styles := [] }
    else .ok boldRow
  sha256 bytes :=
    if bytes = ascii "\x7b\"text\":\"ab\",\"wrapped\":false\x7d" ++ [10] then
      "60a47127aabb4397417a28e2fc0ac39e130e86de1bb7cb794406e5bca8777e65"
    else "893fdfe79271b292fc30fa9238b51c9139c82564c0f18e95180aa1a4bcfd263d"

def boldHistory : TerminalHistorySnapshot := ⟨0, 0, 1, 3, false, [['a', 'b']]⟩

def boldCheckpoint : TerminalCheckpoint := ⟨0, .default, [], []⟩

/-- The rows of a whole transfer, page after page of `sizes i` bytes. -/
def transferredRows (snapshotId : String) (history : TerminalHistorySnapshot) (rows : PhysicalHistory) (limit : Nat)
    (styled : Bool) (checkpoint : TerminalCheckpoint) (sizes : Nat → Nat) : Option (List TerminalHistoryRow) := do
  let (pinned, recent) ← (PinnedHistory.new codec snapshotId history rows limit styled).toOption
  let transfer ← (HistoryTransfer.new pinned.manifest checkpoint recent false).toOption
  let (_, complete) ← transferLoop sizes pinned.data.length 0 (pinned, transfer)
  let synced ← (complete.finish codec).toOption
  return synced.rows

/-- A styled row transferred in pages of one byte. -/
theorem transfer_roundTrip_bold :
    ∃ first pinned recent transfer, Retains boldCodec true [boldRow] first ∧
      PinnedHistory.new boldCodec "s" boldHistory (.new [boldRow]) 10000 true
        = .ok (pinned, recent) ∧
      HistoryTransfer.new pinned.manifest boldCheckpoint recent false = .ok transfer ∧
      ∃ pinned' complete synced, transferLoop (fun _ => 1) pinned.data.length 0 (pinned, transfer)
          = some (pinned', complete) ∧
        complete.finish boldCodec = .ok synced ∧
        synced.rows = ([boldRow].drop first).map (transferred true) := by
  have hashes : ∀ data, isHash (boldCodec.sha256 data) = true := by
    intro data
    simp only [boldCodec]
    split <;> decide
  have reads : ∀ row ∈ (PhysicalHistory.new [boldRow]).rows, ReadsBack boldCodec true row := by
    intro row hr
    rw [List.mem_singleton.1 hr]
    exact ⟨by decide, by decide⟩
  have valid : ∀ row ∈ (PhysicalHistory.new [boldRow]).rows, validateHistoryRow row = .ok () := by
    intro row hr
    rw [List.mem_singleton.1 hr]
    decide
  obtain ⟨first, pinned, recent, transfer, retains, new, accepted, exchange⟩ :=
    (@transfer_roundTrip _ "s" _ boldHistory boldCheckpoint 10000 true false hashes reads valid
      (by decide) rfl (by decide) (by decide)).2 (.inl rfl)
  obtain ⟨pinned', complete, synced, loop, finished, rows, -⟩ := exchange (fun _ => 1) (by simp)
  exact ⟨first, pinned, recent, transfer, retains, new, accepted, pinned', complete, synced, loop,
    finished, rows⟩

/-- For a contract without styled history, a styled row arrives without its styles. -/
theorem transfer_omits_styles :
    transferredRows boldCodec "s" boldHistory (.new [boldRow]) 10000 false boldCheckpoint
        (fun _ => maxHistoryPageBytes) = some [{ boldRow with styles := [] }] ∧
      [{ boldRow with styles := [] }] ≠ [boldRow] := by
  decide

end Ctl.Client
