import Ctl.Client.Cache
import Ctl.Client.RowCodec

/-!
# What a cache retains

`Retains` is the invariant of the physical rows of a record: its window describes a final part of all rows since
the history was transferred, within the bounds, and its prefix is the text of their unfinished line, or the end of
this text once it was cut to its bound. Rows are collected chunk by chunk (`collectRows_pending`) and appended at the
end of an attempt (`Pending.append`). The prefix is what a line needs to go on: rows that follow complete it
(`cachedRows_window`).
-/

namespace Ctl.Client
open Ctl.Base Ctl.Proto Ctl.Avt Ctl.Core Ctl.Daemon

variable {width : Char → Option Nat} {codec : Codec} {record record' : CacheRecord} {files : Files}
  {delta : HistoryDelta} {rows old : List TerminalHistoryRow} {window : PhysicalWindow} {rowLimit : Nat}
  {files' : Files} {cache cache' : Cache}

/-! ### The prefix -/

lemma collectPrefix_eq (lines : List Line) (unwrapper : TextUnwrapper) (carried : Text) :
    collectPrefix lines unwrapper carried
      = (captureRows lines).foldl (carry (·.wrapped) (·.text)) (carried ++ unwrapper.wrappedLine) := by
  induction lines generalizing unwrapper carried with
  | nil =>
    rw [collectPrefix, TextUnwrapper.flush]
    split
    case isTrue empty => rw [List.isEmpty_iff.1 empty]; rfl
    case isFalse => rfl
  | cons line lines ih =>
    have captured : captureRows (line :: lines) = captureRow line line.wrapped :: captureRows lines := rfl
    rw [collectPrefix, captured, List.foldl_cons, carry, TextUnwrapper.push]
    cases mark : line.wrapped with
    | true =>
      rw [if_pos rfl, if_pos (show (captureRow line true).wrapped = true from rfl), captureRow_text,
        List.append_assoc]
      exact ih _ _
    | false =>
      rw [if_neg Bool.false_ne_true,
        if_neg (show ¬ (captureRow line false).wrapped = true from Bool.false_ne_true)]
      exact ih _ _

lemma Carries.collect (h : Carries record rows) (lines : List Line) (ledgerRows : List TerminalHistoryRow) :
    Carries { record with
      wrappedPrefix := collectPrefix lines .new record.wrappedPrefix
      ledger := ⟨ledgerRows, record.ledger.cut && (captureRows lines).all (·.wrapped)⟩ }
      (rows ++ captureRows lines) := by
  have whole : wrappedHistoryPrefix (rows ++ captureRows lines)
      = (captureRows lines).foldl (carry (·.wrapped) (·.text)) (wrappedHistoryPrefix rows) := List.foldl_append
  have next : collectPrefix lines .new record.wrappedPrefix
      = (captureRows lines).foldl (carry (·.wrapped) (·.text)) record.wrappedPrefix := by
    rw [collectPrefix_eq]
    exact congrArg (fun carried => List.foldl _ carried _) (List.append_nil _)
  rw [foldl_carry] at whole next
  cases all : (captureRows lines).all (·.wrapped) with
  | true =>
    rw [all, if_pos rfl] at whole next
    refine ⟨?_, fun uncut => ?_⟩
    · obtain ⟨front, joined⟩ := h.suffix
      refine ⟨front, ?_⟩
      rw [whole, next, ← List.append_assoc, joined]
    · rw [Bool.and_true] at uncut
      rw [whole, ← h.whole uncut]
      exact next
  | false =>
    rw [all, if_neg Bool.false_ne_true] at whole next
    exact .of_eq (next.trans whole.symm)

lemma Carries.congr (h : Carries record rows) (wrappedPrefix : record'.wrappedPrefix = record.wrappedPrefix)
    (ledger : record'.ledger = record.ledger) : Carries record' rows :=
  ⟨wrappedPrefix ▸ h.suffix, fun uncut => wrappedPrefix.trans (h.whole (ledger ▸ uncut))⟩

lemma cutPrefix_suffix (text : Text) : cutPrefix text <:+ text := by
  induction text with
  | nil => exact List.suffix_rfl
  | cons c text ih =>
    rw [cutPrefix]
    split
    · exact ih.trans (List.suffix_cons c text)
    · exact List.suffix_rfl

/-! ### Collecting rows -/

structure Collected (record : CacheRecord) (window : PhysicalWindow) (old : List TerminalHistoryRow)
    (delta : HistoryDelta) : Prop where
  goesOn : delta.rebuildPrefix = false →
    old ++ delta.rows <:+ record.ledger.rows ∧ Carries record (old ++ delta.rows)
  pushesOut : delta.rebuildPrefix = true →
    delta.rows <:+ record.ledger.rows ∧ window.scrollbackLimit ≤ delta.rows.length

/-- What an attempt has collected can be appended to the rows of the record. -/
def Pending (codec : Codec) (files : Files) (record : CacheRecord) (delta : HistoryDelta) : Prop :=
  ∀ window, record.physicalHistory = some window → ∃ old, Describes codec files window old ∧ Within files window ∧
    Collected record window old delta

lemma Pending.congr (h : Pending codec files record delta)
    (physical : record'.physicalHistory = record.physicalHistory)
    (wrappedPrefix : record'.wrappedPrefix = record.wrappedPrefix) (ledger : record'.ledger = record.ledger) :
    Pending codec files record' delta := by
  intro window present
  obtain ⟨old, describes, within, collected⟩ := h window (physical.symm.trans present)
  refine ⟨old, describes, within, fun keep => ?_, fun rebuild => ledger ▸ collected.pushesOut rebuild⟩
  obtain ⟨suffix, carries⟩ := collected.goesOn keep
  exact ⟨ledger ▸ suffix, carries.congr wrappedPrefix ledger⟩

lemma Collected.suffix (h : Collected record window old delta) : delta.rows <:+ record.ledger.rows := by
  cases rebuild : delta.rebuildPrefix with
  | false => exact (List.suffix_append old delta.rows).trans (h.goesOn rebuild).1
  | true => exact (h.pushesOut rebuild).1

lemma suffix_append_append {α : Type} {xs ys : List α} (h : xs <:+ ys) (zs : List α) : xs ++ zs <:+ ys ++ zs := by
  obtain ⟨front, rfl⟩ := h
  exact ⟨front, (List.append_assoc _ _ _).symm⟩

lemma Collected.cut {record : CacheRecord} {window : PhysicalWindow} {old : List TerminalHistoryRow}
    {delta : HistoryDelta} (h : Collected record window old delta) :
    Collected { record with
      wrappedPrefix := cutPrefix record.wrappedPrefix
      ledger := { record.ledger with cut := true } } window old delta := by
  refine ⟨fun keep => ?_, h.pushesOut⟩
  obtain ⟨suffix, carries⟩ := h.goesOn keep
  exact ⟨suffix, (cutPrefix_suffix _).trans carries.suffix, fun uncut => by cases uncut⟩

lemma Collected.collect (h : Collected record window old delta) (lines : List Line)
    (enough : window.scrollbackLimit ≤ rowLimit) :
    Collected (collectRows record delta lines rowLimit).1 window old (collectRows record delta lines rowLimit).2 := by
  have more : delta.rows ++ captureRows lines <:+ record.ledger.rows ++ captureRows lines :=
    suffix_append_append h.suffix _
  unfold collectRows boundDelta
  dsimp only
  by_cases discarded : rowLimit < (delta.rows ++ captureRows lines).length
  case pos =>
    rw [if_pos discarded, if_pos discarded]
    have dropped : ∀ wrappedPrefix cut, Collected { record with
        wrappedPrefix
        ledger := ⟨record.ledger.rows ++ captureRows lines, cut⟩ } window old
        ⟨(delta.rows ++ captureRows lines).drop ((delta.rows ++ captureRows lines).length - rowLimit), true⟩ := by
      intro wrappedPrefix cut
      refine ⟨nofun, fun _ => ⟨(List.drop_suffix _ _).trans more, ?_⟩⟩
      show window.scrollbackLimit ≤ (List.drop _ _).length
      rw [List.length_drop]
      omega
    split
    · exact dropped _ _
    · exact dropped _ _
  case neg =>
    rw [if_neg discarded, if_neg discarded]
    have whole : Collected { record with
        wrappedPrefix := collectPrefix lines .new record.wrappedPrefix
        ledger := ⟨record.ledger.rows ++ captureRows lines,
          record.ledger.cut && (captureRows lines).all (·.wrapped)⟩ } window old
        { delta with rows := delta.rows ++ captureRows lines } := by
      refine ⟨fun keep => ?_, fun rebuild => ⟨more, ?_⟩⟩
      · obtain ⟨suffix, carries⟩ := h.goesOn keep
        have joined : old ++ (delta.rows ++ captureRows lines) = old ++ delta.rows ++ captureRows lines :=
          (List.append_assoc _ _ _).symm
        show old ++ (delta.rows ++ captureRows lines) <:+ _ ∧ Carries _ (old ++ (delta.rows ++ captureRows lines))
        rw [joined]
        exact ⟨suffix_append_append suffix _, carries.collect lines _⟩
      · show window.scrollbackLimit ≤ (delta.rows ++ captureRows lines).length
        rw [List.length_append]
        exact Nat.le_add_right_of_le (h.pushesOut rebuild).2
    split
    · exact whole.cut
    · exact whole

lemma collectRows_pending (h : Pending codec files record delta) (lines : List Line)
    (enough : ∀ window, record.physicalHistory = some window → window.scrollbackLimit ≤ rowLimit) :
    Pending codec files (collectRows record delta lines rowLimit).1 (collectRows record delta lines rowLimit).2 := by
  intro window physical
  obtain ⟨wrappedPrefix, ledger, eq⟩ := collectRows_record record delta lines rowLimit
  have same : record.physicalHistory = some window := by
    rw [eq] at physical
    exact physical
  obtain ⟨old, describes, within, collected⟩ := h window same
  exact ⟨old, describes, within, collected.collect lines (enough window same)⟩

/-! ### Events -/

/-- The window of a record describes a final part of all rows, and its prefix is theirs. -/
def Retains (codec : Codec) (record : CacheRecord) (files : Files) : Prop :=
  ∀ window, record.physicalHistory = some window → ∃ rows, Describes codec files window rows ∧
    Within files window ∧ rows <:+ record.ledger.rows ∧ Carries record rows

lemma Retains.congr (h : Retains codec record files) (physical : record'.physicalHistory = record.physicalHistory)
    (wrappedPrefix : record'.wrappedPrefix = record.wrappedPrefix) (ledger : record'.ledger = record.ledger) :
    Retains codec record' files := by
  intro window present
  obtain ⟨rows, describes, within, suffix, carries⟩ := h window (physical.symm.trans present)
  exact ⟨rows, describes, within, ledger ▸ suffix, carries.congr wrappedPrefix ledger⟩

lemma Pending.append (reads : ReadsRows codec) (h : Pending codec files record delta)
    (ok : appendRows codec record files delta.rows delta.rebuildPrefix = .ok (record', files')) :
    Retains codec record' files' := by
  intro window' physical'
  cases physical : record.physicalHistory with
  | none =>
    rw [appendRows, physical] at ok
    cases ok
    rw [physical] at physical'
    cases physical'
  | some window =>
    obtain ⟨old, describes, within, collected⟩ := h window physical
    obtain ⟨kept, window₁, wrappedPrefix, cut, rfl, describes', within', limit, suffix, carries⟩ :=
      appendRows_spec reads physical describes within (fun keep => (collected.goesOn keep).2) ok
    obtain rfl : window₁ = window' := Option.some.inj physical'
    refine ⟨kept, describes', within', ?_, carries⟩
    show kept <:+ record.ledger.rows
    cases rebuild : delta.rebuildPrefix with
    | false => exact suffix.trans (collected.goesOn rebuild).1
    | true =>
      -- the rows of the attempt alone fill the window
      obtain ⟨within₀, filled⟩ := collected.pushesOut rebuild
      have few : kept.length ≤ delta.rows.length := by
        have rows := within'.rows
        rw [describes'.count, limit] at rows
        omega
      exact (List.suffix_of_suffix_length_le suffix (List.suffix_append _ _) few).trans within₀

lemma Retains.pending (h : Retains codec record files) : Pending codec files record .default := by
  intro window physical
  obtain ⟨rows, describes, within, suffix, carries⟩ := h window physical
  refine ⟨rows, describes, within, fun _ => ?_, nofun⟩
  show rows ++ [] <:+ record.ledger.rows ∧ Carries record (rows ++ [])
  rw [List.append_nil]
  exact ⟨suffix, carries⟩

lemma retainReplay_record (record : CacheRecord) (sequence : Nat) (bytes : List UInt8) :
    ∃ replay replayTruncated, record.retainReplay sequence bytes = { record with replay, replayTruncated } := by
  rw [CacheRecord.retainReplay]
  split
  · exact ⟨_, _, rfl⟩
  · split
    · exact ⟨_, _, rfl⟩
    · split
      · split
        · exact ⟨_, _, rfl⟩
        · exact ⟨_, _, rfl⟩
      · exact ⟨_, _, rfl⟩

lemma applyOutput_pending {vt vt' : Vt} {start stop : Nat} {data : List UInt8} (h : Retains codec record files)
    (ok : applyOutput width record vt start stop data = .ok (record', vt', delta)) :
    Pending codec files record' delta := by
  let I (kept : Kept) : Prop := Pending codec files kept.record kept.delta ∧
    ∀ window, kept.record.physicalHistory = some window → window.scrollbackLimit ≤ kept.rowLimit
  have collect : ∀ kept lines, I kept → I (kept.collect lines) := by
    rintro kept lines ⟨pending, enough⟩
    refine ⟨collectRows_pending pending lines enough, fun window physical => enough window ?_⟩
    obtain ⟨wrappedPrefix, ledger, eq⟩ := collectRows_record kept.record kept.delta lines kept.rowLimit
    have same : (collectRows kept.record kept.delta lines kept.rowLimit).1.physicalHistory = some window := physical
    rw [eq] at same
    exact same
  have clear : ∀ kept, I kept → I kept.clear := fun kept _ => ⟨nofun, nofun⟩
  have base : I ⟨record.retainReplay record.sequence (data.drop (record.sequence - start)), .default,
      record.rowLimit⟩ := by
    obtain ⟨replay, replayTruncated, eq⟩ := retainReplay_record record record.sequence
      (data.drop (record.sequence - start))
    rw [eq]
    refine ⟨h.pending.congr rfl rfl rfl, fun window physical => ?_⟩
    have limit : record.rowLimit = window.scrollbackLimit := by
      rw [CacheRecord.rowLimit, show record.physicalHistory = some window from physical]
    exact limit.ge
  obtain ⟨-, -, -, kept, pendingUtf8, after, rfl, rfl⟩ := applyOutput_spec collect clear base ok
  exact after.1.congr rfl rfl rfl

lemma updated_pending {hasPrevious : Bool} {event : CacheEvent} (h : Retains codec record files)
    (updated : Updated width codec record files hasPrevious event record' files' delta) :
    Pending codec files' record' delta := by
  cases updated with
  | checkpoint => exact nofun
  | historySynced synced =>
    obtain ⟨retained, record₁, replaced, rfl, -⟩ := syncHistory_ok synced
    obtain ⟨window, kept, rfl, describes, within, -, suffix, -⟩ := replaceRows_spec replaced
    have retains : Retains codec { record with
        wrappedPrefix := wrappedHistoryPrefix kept
        physicalHistory := some window
        ledger := ⟨retained, false⟩
        historySynced := true
        replay := [] } files' := by
      intro window' physical
      obtain rfl := Option.some.inj physical
      exact ⟨kept, describes, within, suffix, .of_eq rfl⟩
    exact retains.pending
  | output ordered applied => exact applyOutput_pending h applied
  | @ptyGeometryChanged _ _ lines _ _ collected =>
    have enough : ∀ window, record.physicalHistory = some window →
        window.scrollbackLimit ≤ maxProjectionRows := by
      intro window physical
      obtain ⟨rows, -, within, -⟩ := h window physical
      exact within.limit
    have pending := collectRows_pending h.pending lines enough
    rw [collected] at pending
    exact pending.congr rfl rfl rfl

lemma Retains.cleanup (h : Retains codec record files) : Retains codec record (cleanupDataFiles record files) := by
  intro window physical
  obtain ⟨rows, describes, within, suffix, carries⟩ := h window physical
  obtain ⟨bytes, contents, -⟩ := describes.bytes
  have kept : (cleanupDataFiles record files).contents window.file = some bytes := by
    rw [← contents]
    refine if_pos ?_
    rw [physical]
    exact decide_eq_true rfl
  exact ⟨rows, describes.frame contents kept rfl, ⟨within.rows, within.bytes, within.limit, within.old⟩, suffix, carries⟩

lemma step_retains (reads : ReadsRows codec) {call : CacheCall}
    (h : ∀ record ∈ cache.record, Retains codec record cache.files) (step : cache.step width codec call = some cache') :
    ∀ record ∈ cache'.record, Retains codec record cache'.files := by
  cases call with
  | apply size event =>
    rw [Cache.step] at step
    split at step
    case h_2 =>
      cases step
      exact h
    case h_1 done ok =>
      cases step
      rcases apply_ok ok with rfl | ⟨updated, files, payload, delta, record', files', made, appended, rfl⟩
      · exact h
      · have before : Retains codec (cache.record.getD (.new size)) cache.files := by
          cases present : cache.record with
          | none => exact nofun
          | some record => exact h record present
        have made' : Pending codec files updated delta := updated_pending before made
        have pending : Pending codec files { updated with payload } delta := made'.congr rfl rfl rfl
        intro record mem
        cases mem
        exact (pending.append reads appended).cleanup
  | markHistoryGap =>
    rw [Cache.step] at step
    split at step
    case h_2 =>
      cases step
      exact h
    case h_1 done ok =>
      cases step
      obtain ⟨previous, read, ok⟩ := bind_eq_ok.1 ok
      obtain rfl := readCurrent_ok read
      cases present : cache.record with
      | none =>
        rw [present] at ok
        cases ok
      | some record =>
        rw [present] at ok
        cases ok
        intro record' mem
        cases mem
        exact (h record present).congr rfl rfl rfl
  | interrupted files =>
    rw [Cache.step] at step
    split at step
    case isFalse => cases step
    case isTrue committed =>
      cases step
      intro record stored window physical
      obtain ⟨rows, describes, within, suffix, carries⟩ := h record stored window physical
      obtain ⟨bytes, contents, -⟩ := describes.bytes
      have mem : window ∈ cache.record.bind (·.physicalHistory) := Option.mem_bind_iff.2 ⟨record, stored, physical⟩
      have same := committed.2 window mem
      rw [contents, Option.map_some, Option.map_eq_some_iff] at same
      obtain ⟨bytes', contents', cut⟩ := same
      exact ⟨rows, describes.frame contents contents' cut,
        ⟨within.rows, within.bytes, within.limit, Nat.lt_of_lt_of_le within.old committed.1⟩, suffix, carries⟩

lemma calls_retain (reads : ReadsRows codec) {calls : List CacheCall}
    (h : ∀ record ∈ cache.record, Retains codec record cache.files)
    (run : exec (Cache.step width codec) cache calls = some cache') :
    ∀ record ∈ cache'.record, Retains codec record cache'.files := by
  induction calls generalizing cache with
  | nil =>
    obtain rfl : cache = cache' := Option.some.inj run
    exact h
  | cons call calls ih =>
    obtain ⟨next, step, rest⟩ := exec_cons run
    exact ih (step_retains reads h step) rest

/-! ### Runs -/

/-- Whatever happens to a cache, the physical rows of a record are those that its file has between the offsets of
    their window: the window counts them and their unfinished rows, is within its bounds, and holds a final part of
    all rows since the history was transferred. The prefix is the text of the unfinished rows, unless it was cut to
    its bound, when it is the end of this text; rows that follow complete the line that it begins. -/
theorem cachedRows_window (reads : ReadsRows codec) {calls : List CacheCall} {cache : Cache} {record : CacheRecord}
    {window : PhysicalWindow} (run : exec (Cache.step width codec) Cache.empty calls = some cache)
    (stored : cache.record = some record) (physical : record.physicalHistory = some window) :
    ∃ rows bytes, cache.files.contents window.file = some bytes ∧
      (splitInclusive 10 (window.slice bytes)).mapM (fun line => codec.fromSlice (chomp line)) = .ok rows ∧
      ((∀ row ∈ rows, validateHistoryRow row = .ok ()) → physicalRows codec cache.files window = .ok rows) ∧
      window.start ≤ window.stop ∧ window.stop ≤ bytes.length ∧ window.rows = rows.length ∧
      window.partialRows = (rows.rtakeWhile (·.wrapped)).length ∧
      window.rows ≤ window.scrollbackLimit ∧ window.stop - window.start ≤ maxPhysicalHistoryBytes ∧
      rows <:+ record.ledger.rows ∧ record.wrappedPrefix <:+ wrappedHistoryPrefix rows ∧
      (record.ledger.cut = false → record.wrappedPrefix = wrappedHistoryPrefix rows ∧
        ∀ next, completeLines (rows ++ next) = completeLines rows ++ linesFrom record.wrappedPrefix next) := by
  have none : ∀ record ∈ Cache.empty.record, Retains codec record Cache.empty.files :=
    fun _ mem => absurd mem (Option.not_mem_none _)
  obtain ⟨rows, describes, within, suffix, carries⟩ := calls_retain reads none run record stored window physical
  obtain ⟨bytes, contents, holds⟩ := describes.bytes
  refine ⟨rows, bytes, contents, ?_, describes.read_valid reads, holds.le.1, holds.le.2, describes.count,
    describes.partialRows, within.rows, within.bytes, suffix, carries.suffix, fun uncut => ⟨carries.whole uncut, ?_⟩⟩
  · rw [PhysicalWindow.slice, holds.slice, reads.lines]
    exact reads.parsed rows
  · intro next
    rw [completeLines_append, carries.whole uncut]

/-- An empty history of at most two rows is transferred, and three wrapped rows leave the screen. -/
def threeRows : List CacheCall :=
  [.apply ⟨2, 1, 0, 0⟩ (.checkpoint ⟨0, ⟨2, 1, 0, 0⟩, [], []⟩ true ⟨0, 0, 0, 0, false, []⟩
      (some ⟨"s", 0, 0, 0, 0, 0, 0, 0, false, "", 2⟩)),
    .apply ⟨2, 1, 0, 0⟩ (.output 0 2 [97, 98]),
    .apply ⟨2, 1, 0, 0⟩ (.historySynced ⟨"s", ⟨0, ⟨2, 1, 0, 0⟩, [], []⟩, true, ⟨0, 0, 0, 0, false, []⟩, [], 2⟩),
    .apply ⟨2, 1, 0, 0⟩ (.output 2 6 [99, 100, 101, 102]), .apply ⟨2, 1, 0, 0⟩ (.output 6 8 [103, 104])]

lemma threeRows_facts : (exec (Cache.step (fun _ => some 1) plainCodec) Cache.empty threeRows).any (fun cache =>
    cache.record.any fun record => record.physicalHistory.any fun window => window.rows = 2 &&
      record.ledger.rows = [⟨"ab".toList, true, []⟩, ⟨"cd".toList, true, []⟩, ⟨"ef".toList, true, []⟩] &&
      !record.ledger.cut && record.wrappedPrefix = "cdef".toList) = true := by
  decide +kernel

theorem cachedRows_window_threeRows : ∃ (record : CacheRecord) (rows : List TerminalHistoryRow),
    rows.length = 2 ∧ record.wrappedPrefix = "cdef".toList ∧
    record.wrappedPrefix = wrappedHistoryPrefix rows := by
  obtain ⟨cache, run, facts⟩ := (Option.any_eq_true _ _).1 threeRows_facts
  obtain ⟨record, stored, facts⟩ := (Option.any_eq_true _ _).1 facts
  obtain ⟨window, physical, facts⟩ := (Option.any_eq_true _ _).1 facts
  simp only [Bool.and_eq_true, Bool.not_eq_true', decide_eq_true_eq] at facts
  obtain ⟨⟨⟨count, -⟩, uncut⟩, carried⟩ := facts
  obtain ⟨rows, bytes, -, -, -, -, -, rows_eq, -, -, -, -, -, whole⟩ :=
    cachedRows_window plainCodec_reads run stored physical
  exact ⟨record, rows, rows_eq.symm.trans count, carried, (whole uncut).1⟩

/-- The prefix is not that of the evicted rows. -/
theorem cachedRows_window_evicted : ¬ ∀ (width : Char → Option Nat) (codec : Codec), ReadsRows codec →
    ∀ (calls : List CacheCall) (cache : Cache) (record : CacheRecord) (window : PhysicalWindow),
      exec (Cache.step width codec) Cache.empty calls = some cache → cache.record = some record →
      record.physicalHistory = some window →
      record.wrappedPrefix
        = wrappedHistoryPrefix (record.ledger.rows.take (record.ledger.rows.length - window.rows)) := by
  intro claim
  obtain ⟨cache, run, facts⟩ := (Option.any_eq_true _ _).1 threeRows_facts
  obtain ⟨record, stored, facts⟩ := (Option.any_eq_true _ _).1 facts
  obtain ⟨window, physical, facts⟩ := (Option.any_eq_true _ _).1 facts
  simp only [Bool.and_eq_true, Bool.not_eq_true', decide_eq_true_eq] at facts
  obtain ⟨⟨⟨count, ledger⟩, -⟩, carried⟩ := facts
  have same := claim _ _ plainCodec_reads _ _ _ _ run stored physical
  rw [carried, ledger, count] at same
  exact absurd same (by decide)

end Ctl.Client
