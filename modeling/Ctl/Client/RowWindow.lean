import Ctl.Client.CachedRows

/-!
# The window of cached rows

`Describes` says what a window onto a file tells about its rows, and `Within` that it is within its bounds.
`replaceRows_spec` and `appendRows_spec` say which rows are retained, and what becomes of the wrapped prefix:
evicting rows removes from it the text that they have begun the line with (`evictLoop_spec`, `drain_suffix`).
-/

namespace Ctl.Client
open Ctl.Base Ctl.Proto Ctl.Daemon

/-! ### Texts -/

lemma utf8Len_append (first last : Text) : utf8Len (first ++ last) = utf8Len first + utf8Len last := by
  rw [utf8Len, List.map_append, List.sum_append]
  rfl

variable {text : Text} {rows : List TerminalHistoryRow} {record record' : CacheRecord} {files files' : Files}
  {window : PhysicalWindow} {rebuildPrefix : Bool} {bytes : List UInt8} {rest : Text} {scrollbackLimit : Nat}
  {old : List TerminalHistoryRow}

lemma utf8Len_eq_zero (zero : utf8Len text = 0) : text = [] := by
  cases text with
  | nil => rfl
  | cons c text =>
    have size : utf8Len (c :: text) = c.utf8Size + utf8Len text := rfl
    have pos := c.utf8Size_pos
    omega

lemma suffix_of_utf8Len_le {first last : Text} (h : first <:+ text) (k : last <:+ text)
    (le : utf8Len first ≤ utf8Len last) : first <:+ last := by
  rcases List.suffix_or_suffix_of_suffix h k with within | ⟨front, rfl⟩
  · exact within
  · rw [utf8Len_append] at le
    have none : front = [] := utf8Len_eq_zero (by omega)
    rw [none]
    exact List.suffix_rfl

lemma drain_ok {bytes : Nat} (ok : drain bytes text = .ok rest) :
    ∃ front, text = front ++ rest ∧ utf8Len front = bytes := by
  rw [drain] at ok
  dsimp only at ok
  split at ok
  case isTrue size =>
    cases ok
    exact ⟨_, (takeBytes_append bytes text).symm, size⟩
  case isFalse => cases ok

lemma drain_suffix {carried carried' front : Text} (suffix : carried <:+ front ++ rest)
    (ok : drain (utf8Len front) carried = .ok carried') :
    carried' <:+ rest ∧ (carried = front ++ rest → carried' = rest) := by
  obtain ⟨dropped, rfl, size⟩ := drain_ok ok
  have shorter : carried' <:+ front ++ rest := (List.suffix_append dropped carried').trans suffix
  have fewer : utf8Len carried' ≤ utf8Len rest := by
    obtain ⟨before, whole⟩ := suffix
    have bytes := congrArg utf8Len whole
    simp only [utf8Len_append] at bytes
    omega
  have within := suffix_of_utf8Len_le shorter (List.suffix_append front rest) fewer
  refine ⟨within, fun whole => ?_⟩
  obtain ⟨before, rfl⟩ := within
  have bytes := congrArg utf8Len whole
  simp only [utf8Len_append] at bytes
  have none : before = [] := utf8Len_eq_zero (by omega)
  rw [none]
  rfl

/-! ### Rows in a file -/

/-- What `serde_json` promises about the records of rows: a record is one line, and it is read back, also with
    the newline behind it. -/
structure ReadsRows (codec : Codec) : Prop where
  newline : ∀ row, 10 ∉ codec.toVec row
  carriage : ∀ row, (codec.toVec row).getLast? ≠ some 13
  row : ∀ row, codec.fromSlice (codec.toVec row) = .ok row
  line : ∀ row, codec.fromSlice (codec.toVec row ++ [10]) = .ok row

variable {codec : Codec}

lemma ReadsRows.readsBack (reads : ReadsRows codec) (row : TerminalHistoryRow) : ReadsBack codec true row := by
  have front : (codec.record true row).dropLast = codec.toVec row := by
    rw [Codec.record, if_pos rfl, List.dropLast_concat]
  refine ⟨?_, ?_⟩
  · rw [front]
    exact reads.newline row
  · rw [front]
    exact reads.row row

lemma ReadsRows.lines (reads : ReadsRows codec) (rows : List TerminalHistoryRow) :
    splitInclusive 10 (encodeAll (codec.record true) rows) = rows.map (codec.record true) :=
  splitInclusive_records fun row _ => reads.readsBack row

def checked (row : TerminalHistoryRow) : Except String TerminalHistoryRow := do
  (validateHistoryRow row).mapError (·.message)
  return row

lemma ReadsRows.chomp (reads : ReadsRows codec) (row : TerminalHistoryRow) :
    chomp (codec.record true row) = codec.toVec row := by
  rw [Codec.record, if_pos rfl, Client.chomp, List.getLast?_concat, if_pos rfl, List.dropLast_concat,
    if_neg (reads.carriage row)]

lemma ReadsRows.readRow (reads : ReadsRows codec) (row : TerminalHistoryRow) :
    readRow codec (codec.record true row) = checked row := by
  rw [Client.readRow, reads.chomp, reads.row]
  rfl

lemma ReadsRows.parsed (reads : ReadsRows codec) (rows : List TerminalHistoryRow) :
    (rows.map (codec.record true)).mapM (fun line => codec.fromSlice (Client.chomp line)) = .ok rows := by
  induction rows with
  | nil => rfl
  | cons row rows ih =>
    rw [List.map_cons, List.mapM_cons, reads.chomp, reads.row, ih]
    rfl

lemma mapM_checked {rows' : List TerminalHistoryRow} (ok : rows.mapM checked = .ok rows') : rows' = rows := by
  induction rows generalizing rows' with
  | nil =>
    rw [List.mapM_nil] at ok
    exact (pure_eq_ok.1 ok).symm
  | cons row rows ih =>
    rw [List.mapM_cons] at ok
    obtain ⟨row', first, ok⟩ := bind_eq_ok.1 ok
    obtain ⟨rest, others, ok⟩ := bind_eq_ok.1 ok
    obtain ⟨-, same⟩ := check_eq_ok.1 first
    rw [← pure_eq_ok.1 ok, ← pure_eq_ok.1 same, ih others]

lemma mapM_checked_valid (valid : ∀ row ∈ rows, validateHistoryRow row = .ok ()) : rows.mapM checked = .ok rows := by
  induction rows with
  | nil => rfl
  | cons row rows ih =>
    have first : checked row = .ok row := by
      rw [checked, valid row List.mem_cons_self]
      rfl
    rw [List.mapM_cons, first, ih fun row mem => valid row (List.mem_cons_of_mem _ mem)]
    rfl

/-- What a window tells about the rows between its offsets. -/
structure Describes (codec : Codec) (files : Files) (window : PhysicalWindow) (rows : List TerminalHistoryRow) :
    Prop where
  bytes : ∃ bytes, files.contents window.file = some bytes ∧
    Holds (codec.record true) bytes window.start window.stop rows
  count : window.rows = rows.length
  partialRows : window.partialRows = (unfinished rows).length

structure Within (files : Files) (window : PhysicalWindow) : Prop where
  rows : window.rows ≤ window.scrollbackLimit
  bytes : window.stop - window.start ≤ maxPhysicalHistoryBytes
  limit : window.scrollbackLimit ≤ maxProjectionRows
  old : window.file < files.uuids

section

variable {files : Files} {window : PhysicalWindow} {rows : List TerminalHistoryRow}

lemma Describes.read (describes : Describes codec files window rows) (reads : ReadsRows codec) :
    physicalRows codec files window = (rows.mapM checked >>= fun rows' =>
      if rows'.length ≠ window.rows then .error "Local history projection row count differs" else pure rows') := by
  obtain ⟨bytes, contents, holds⟩ := describes.bytes
  have read : (splitInclusive 10 (window.slice bytes)).mapM (readRow codec) = rows.mapM checked := by
    rw [PhysicalWindow.slice, holds.slice, reads.lines, List.mapM_map]
    congr 1
    funext row
    exact reads.readRow row
  rw [physicalRows, contents]
  dsimp only
  rw [if_neg (Nat.not_lt.2 holds.le.2), read]

lemma Describes.read_ok (describes : Describes codec files window rows) (reads : ReadsRows codec)
    {rows' : List TerminalHistoryRow} (ok : physicalRows codec files window = .ok rows') : rows' = rows := by
  rw [describes.read reads] at ok
  obtain ⟨rows'', mapped, ok⟩ := bind_eq_ok.1 ok
  split at ok
  case isTrue => cases ok
  case isFalse =>
    rw [← pure_eq_ok.1 ok]
    exact mapM_checked mapped

lemma Describes.read_valid (describes : Describes codec files window rows) (reads : ReadsRows codec)
    (valid : ∀ row ∈ rows, validateHistoryRow row = .ok ()) : physicalRows codec files window = .ok rows := by
  rw [describes.read reads, mapM_checked_valid valid]
  exact if_neg (not_not.2 describes.count.symm)

lemma Describes.frame (describes : Describes codec files window rows) {files' : Files} {bytes bytes' : List UInt8}
    (before : files.contents window.file = some bytes) (after : files'.contents window.file = some bytes')
    (same : bytes'.take window.stop = bytes.take window.stop) : Describes codec files' window rows := by
  obtain ⟨bytes₀, contents, holds⟩ := describes.bytes
  obtain rfl : bytes₀ = bytes := Option.some.inj (contents.symm.trans before)
  exact ⟨⟨bytes', after, holds.frame same⟩, describes.count, describes.partialRows⟩

end

/-! ### Replacing rows -/

lemma fittingRows_spec (older rows : List TerminalHistoryRow) {bytes : Nat}
    (size : bytes = (codec.records true rows).length) (fits : bytes ≤ maxPhysicalHistoryBytes) :
    fittingRows codec older bytes rows <:+ older.reverse ++ rows ∧
      (codec.records true (fittingRows codec older bytes rows)).length ≤ maxPhysicalHistoryBytes ∧
      ((codec.records true (older.reverse ++ rows)).length ≤ maxPhysicalHistoryBytes →
        fittingRows codec older bytes rows = older.reverse ++ rows) := by
  induction older generalizing rows bytes with
  | nil =>
    rw [fittingRows]
    exact ⟨List.suffix_rfl, size ▸ fits, fun _ => rfl⟩
  | cons row older ih =>
    have whole : (row :: older).reverse ++ rows = older.reverse ++ (row :: rows) := by
      rw [List.reverse_cons, List.append_assoc, List.singleton_append]
    have longer : (codec.records true (row :: rows)).length = bytes + (codec.record true row).length := by
      rw [records_cons, List.length_append, size, Nat.add_comm]
    rw [whole, fittingRows]
    split
    case isTrue large =>
      refine ⟨?_, size ▸ fits, fun small => ?_⟩
      · exact (List.suffix_cons row rows).trans (List.suffix_append _ _)
      · have part : (codec.records true (row :: rows)).length
            ≤ (codec.records true (older.reverse ++ row :: rows)).length := by
          rw [Codec.records, Codec.records, List.flatMap_append, List.length_append]
          exact Nat.le_add_left _ _
        omega
    case isFalse within =>
      exact ih (row :: rows) longer.symm (Nat.le_of_not_lt within)

lemma writeLines_spec (codec : Codec) (files : Files) (rows : List TerminalHistoryRow) :
    ∃ bytes, (writeLines codec files rows).1.contents files.uuids = some bytes ∧
      Holds (codec.record true) bytes 0 (codec.records true rows).length rows :=
  ⟨_, Function.update_self _ _ _, .new rows _⟩

lemma replaceRows_spec (ok : replaceRows codec record files rows scrollbackLimit = .ok (record', files')) :
    ∃ window kept, record' = { record with
        wrappedPrefix := wrappedHistoryPrefix kept
        physicalHistory := some window
        ledger := { record.ledger with cut := false } } ∧
      Describes codec files' window kept ∧ Within files' window ∧ window.scrollbackLimit = scrollbackLimit ∧
      kept <:+ rows ∧ ((codec.records true rows).length ≤ maxPhysicalHistoryBytes → kept = rows) := by
  rw [replaceRows] at ok
  split at ok
  case isTrue => cases ok
  case isFalse bounds =>
    obtain ⟨suffix, small, all⟩ := fittingRows_spec rows.reverse [] (show 0 = (codec.records true []).length from rfl)
      (Nat.zero_le _)
    rw [List.reverse_reverse, List.append_nil] at suffix all
    generalize kept_eq : fittingRows codec rows.reverse 0 [] = kept at ok suffix small all
    cases ok
    have fewer := suffix.length_le
    refine ⟨_, kept, rfl, ⟨writeLines_spec codec files kept, rfl, ?_⟩, ⟨?_, ?_, ?_, ?_⟩, rfl, suffix, all⟩
    · exact List.length_reverse.symm
    · show kept.length ≤ scrollbackLimit
      omega
    · exact small
    · show scrollbackLimit ≤ maxProjectionRows
      omega
    · exact Nat.lt_succ_self files.uuids

/-! ### Appending rows -/

lemma rowsText_append (first last : List TerminalHistoryRow) :
    rowsText (first ++ last) = rowsText first ++ rowsText last := List.flatMap_append

lemma foldl_wrote (old rows : List TerminalHistoryRow) (window : PhysicalWindow)
    (partialRows : window.partialRows = (unfinished old).length) :
    rows.foldl (.wrote codec) window = { window with
      stop := window.stop + (encodeAll (codec.record true) rows).length
      rows := window.rows + rows.length
      partialRows := (unfinished (old ++ rows)).length } := by
  induction rows generalizing old window with
  | nil =>
    rw [List.append_nil, ← partialRows]
    rfl
  | cons row rows ih =>
    have count : (window.wrote codec row).partialRows = (unfinished (old ++ [row])).length := by
      rw [← countTrailing_rtakeWhile, ← partialRows]
      rfl
    rw [List.foldl_cons, ih (old ++ [row]) _ count, List.append_assoc, List.singleton_append]
    have bytes : (encodeAll (codec.record true) (row :: rows)).length
        = (codec.record true row).length + (encodeAll (codec.record true) rows).length := by
      rw [encodeAll, List.flatMap_cons, List.length_append]
      rfl
    rw [PhysicalWindow.wrote, bytes, List.length_cons, Nat.add_assoc, Nat.add_assoc, Nat.add_comm 1]

lemma Describes.append (describes : Describes codec files window old) (rows : List TerminalHistoryRow)
    (contents : files.contents window.file = some bytes) :
    Describes codec (files.write window.file (bytes.take window.stop ++ codec.records true rows))
      (rows.foldl (.wrote codec) window) (old ++ rows) := by
  obtain ⟨bytes₀, contents₀, holds⟩ := describes.bytes
  obtain rfl : bytes₀ = bytes := Option.some.inj (contents₀.symm.trans contents)
  rw [foldl_wrote old rows window describes.partialRows]
  refine ⟨⟨_, Function.update_self _ _ _, holds.append rows⟩, ?_, rfl⟩
  show window.rows + rows.length = _
  rw [describes.count, List.length_append]

/-- The loop drops rows from the front until the window is within its bounds, and counts the bytes of the
    dropped rows that belong to the unfinished line. -/
lemma evictLoop_spec (reads : ReadsRows codec) {stop partialStart : Nat} (rows : List TerminalHistoryRow)
    {e e' : Eviction}
    (ok : evictLoop codec scrollbackLimit stop partialStart (rows.map (codec.record true)) e = .ok e') :
    ∃ dropped kept, rows = dropped ++ kept ∧
      e'.start = e.start + (encodeAll (codec.record true) dropped).length ∧
      e'.rows = e.rows - dropped.length ∧ e'.droppedRows = e.droppedRows + dropped.length ∧
      e'.droppedPrefixBytes
        = e.droppedPrefixBytes + utf8Len (rowsText (dropped.drop (partialStart - e.droppedRows))) ∧
      ¬ exceeds scrollbackLimit stop e'.start e'.rows := by
  induction rows generalizing e with
  | nil =>
    rw [List.map_nil, evictLoop] at ok
    split at ok
    case isTrue => cases ok
    case isFalse within =>
      cases ok
      exact ⟨[], [], rfl, rfl, rfl, rfl, by rw [List.drop_nil]; rfl, within⟩
  | cons row rows ih =>
    rw [List.map_cons, evictLoop] at ok
    split at ok
    case isFalse within =>
      cases ok
      exact ⟨[], row :: rows, rfl, rfl, rfl, rfl, by rw [List.drop_nil]; rfl, within⟩
    case isTrue =>
      obtain ⟨row', read, ok⟩ := bind_eq_ok.1 ok
      have line : codec.record true row = codec.toVec row ++ [10] := by rw [Codec.record, if_pos rfl]
      rw [line, reads.line] at read
      obtain rfl : row = row' := Except.ok.inj read
      obtain ⟨dropped, kept, rfl, start, count, droppedRows, droppedBytes, within⟩ := ih ok
      refine ⟨row :: dropped, kept, rfl, ?_, ?_, ?_, ?_, within⟩
      · rw [start, encodeAll, encodeAll, List.flatMap_cons, List.length_append, ← Nat.add_assoc]
        rfl
      · rw [count, List.length_cons, Nat.add_comm, ← Nat.sub_sub]
        rfl
      · rw [droppedRows, List.length_cons, Nat.add_comm dropped.length, ← Nat.add_assoc]
        rfl
      · rw [droppedBytes, Eviction.drop]
        dsimp only
        split
        case isTrue behind =>
          rw [Nat.sub_eq_zero_of_le behind, Nat.sub_eq_zero_of_le (Nat.le_succ_of_le behind), List.drop_zero,
            List.drop_zero, Nat.add_assoc, ← utf8Len_append]
          rfl
        case isFalse before =>
          have skip : partialStart - e.droppedRows = (partialStart - (e.droppedRows + 1)) + 1 := by omega
          rw [skip, List.drop_succ_cons]

lemma unfinished_kept (dropped kept : List TerminalHistoryRow) :
    unfinished kept = (unfinished (dropped ++ kept)).drop
      (dropped.length - ((dropped ++ kept).length - (unfinished (dropped ++ kept)).length)) := by
  have le : dropped.length ≤ (dropped ++ kept).length := List.length_append ▸ Nat.le_add_right _ _
  rw [unfinished, unfinished, ← rtakeWhile_drop _ le, List.drop_left]

lemma wrappedHistoryPrefix_drop (dropped kept : List TerminalHistoryRow) :
    wrappedHistoryPrefix (dropped ++ kept)
      = rowsText (dropped.drop ((dropped ++ kept).length - (unfinished (dropped ++ kept)).length))
        ++ wrappedHistoryPrefix kept := by
  have run := List.suffix_iff_eq_drop.1 (List.rtakeWhile_suffix (fun row : TerminalHistoryRow => row.wrapped)
    (dropped ++ kept))
  rw [wrappedHistoryPrefix_eq, wrappedHistoryPrefix_eq, ← rowsText_append, unfinished_kept dropped kept]
  generalize (dropped ++ kept).length - (unfinished (dropped ++ kept)).length = n at *
  have front : (dropped.drop n).length = dropped.length - n := List.length_drop
  rw [List.drop_append] at run
  rw [unfinished, run, ← front, List.drop_left]

/-- Rows are evicted from the front. What was the prefix of all rows, or an end of it, becomes the prefix of those
    that are kept, or an end of it. -/
lemma evictRows_spec (reads : ReadsRows codec) {window' : PhysicalWindow}
    (describes : Describes codec files window rows) (contents : files.contents window.file = some bytes)
    (ok : evictRows codec record bytes window rebuildPrefix = .ok (record', window')) :
    ∃ dropped kept, rows = dropped ++ kept ∧ Describes codec files window' kept ∧
      window'.rows ≤ window.scrollbackLimit ∧ window'.stop - window'.start ≤ maxPhysicalHistoryBytes ∧
      window'.file = window.file ∧ window'.scrollbackLimit = window.scrollbackLimit ∧
      ∃ wrappedPrefix, record' = { record with wrappedPrefix } ∧
        (rebuildPrefix = false → record.wrappedPrefix <:+ wrappedHistoryPrefix rows →
          wrappedPrefix <:+ wrappedHistoryPrefix kept ∧
          (record.wrappedPrefix = wrappedHistoryPrefix rows → wrappedPrefix = wrappedHistoryPrefix kept)) := by
  rw [evictRows] at ok
  split at ok
  case isFalse within =>
    cases ok
    rw [exceeds, not_or, Nat.not_lt, Nat.not_lt] at within
    exact ⟨[], rows, rfl, describes, within.1, within.2, rfl, rfl, _, rfl, fun _ suffix => ⟨suffix, id⟩⟩
  case isTrue =>
    obtain ⟨bytes₀, contents₀, holds⟩ := describes.bytes
    obtain rfl : bytes₀ = bytes := Option.some.inj (contents₀.symm.trans contents)
    obtain ⟨e, loop, ok⟩ := bind_eq_ok.1 ok
    obtain ⟨wrappedPrefix, after, ok⟩ := bind_eq_ok.1 ok
    cases ok
    rw [PhysicalWindow.slice, holds.slice, reads.lines] at loop
    obtain ⟨dropped, kept, rfl, start, count, droppedRows, droppedBytes, within⟩ := evictLoop_spec reads rows loop
    have partialStart : window.rows - window.partialRows
        = (dropped ++ kept).length - (unfinished (dropped ++ kept)).length := by
      rw [describes.count, describes.partialRows]
    rw [exceeds, not_or, Nat.not_lt, Nat.not_lt] at within
    have split := wrappedHistoryPrefix_drop dropped kept
    refine ⟨dropped, kept, rfl, ⟨⟨_, contents, ?_⟩, ?_, ?_⟩, within.1, within.2, rfl, rfl, _, rfl, ?_⟩
    · rw [start]
      exact holds.drop
    · show e.rows = kept.length
      rw [count, describes.count, List.length_append, Nat.add_sub_cancel_left]
    · show window.partialRows - (e.droppedRows - (window.rows - window.partialRows)) = (unfinished kept).length
      rw [partialStart, droppedRows, describes.partialRows, unfinished_kept dropped kept, List.length_drop]
      exact congrArg (fun n => _ - (n - _)) (Nat.zero_add _)
    · intro keep suffix
      rw [prefixAfter, keep, if_neg Bool.false_ne_true] at after
      split at after
      case isTrue => cases after
      case isFalse =>
        rw [droppedBytes, Nat.zero_add, Nat.sub_zero, partialStart] at after
        rw [split] at suffix ⊢
        exact drain_suffix suffix after

structure Carries (record : CacheRecord) (rows : List TerminalHistoryRow) : Prop where
  suffix : record.wrappedPrefix <:+ wrappedHistoryPrefix rows
  whole : record.ledger.cut = false → record.wrappedPrefix = wrappedHistoryPrefix rows

lemma Carries.of_eq (same : record.wrappedPrefix = wrappedHistoryPrefix rows) : Carries record rows :=
  ⟨same ▸ List.suffix_rfl, fun _ => same⟩

lemma rebuiltPrefix_spec (reads : ReadsRows codec) (describes : Describes codec files window rows)
    (carries : rebuildPrefix = false → Carries record rows)
    (ok : rebuiltPrefix codec record files window rebuildPrefix = .ok record') :
    (∃ wrappedPrefix cut, record' = { record with wrappedPrefix, ledger := { record.ledger with cut } }) ∧
      Carries record' rows := by
  rw [rebuiltPrefix] at ok
  split at ok
  case isTrue =>
    obtain ⟨rows', read, ok⟩ := bind_eq_ok.1 ok
    obtain rfl := describes.read_ok reads read
    cases ok
    exact ⟨⟨_, _, rfl⟩, .of_eq rfl⟩
  case isFalse keep =>
    cases ok
    exact ⟨⟨_, _, rfl⟩, carries (Bool.not_eq_true _ ▸ keep)⟩

lemma compact_spec (reads : ReadsRows codec) (describes : Describes codec files window rows)
    (within : Within files window) (carries : Carries record rows)
    (ok : compact codec record files window = .ok (record', files')) :
    ∃ window' wrappedPrefix cut, record' = { record with
        wrappedPrefix
        physicalHistory := some window'
        ledger := { record.ledger with cut } } ∧
      Describes codec files' window' rows ∧ Within files' window' ∧
      window'.scrollbackLimit = window.scrollbackLimit ∧ Carries record' rows := by
  rw [compact] at ok
  split at ok
  case isTrue =>
    obtain ⟨rows', read, ok⟩ := bind_eq_ok.1 ok
    obtain rfl := describes.read_ok reads read
    obtain ⟨window', kept, rfl, describes', within', limit, -, all⟩ := replaceRows_spec ok
    obtain ⟨bytes, contents, holds⟩ := describes.bytes
    have small : (codec.records true rows').length ≤ maxPhysicalHistoryBytes := holds.length ▸ within.bytes
    obtain rfl := all small
    exact ⟨window', _, _, rfl, describes', within', limit, .of_eq rfl⟩
  case isFalse =>
    cases ok
    exact ⟨window, _, _, rfl, describes, within, rfl, ⟨carries.suffix, carries.whole⟩⟩

/-- Rows are appended: the newest rows within the bounds are kept, and the prefix is theirs if it was that of all
    rows or is read again. -/
lemma appendRows_spec (reads : ReadsRows codec) (physical : record.physicalHistory = some window)
    (describes : Describes codec files window old) (within : Within files window)
    (carries : rebuildPrefix = false → Carries record (old ++ rows))
    (ok : appendRows codec record files rows rebuildPrefix = .ok (record', files')) :
    ∃ kept window' wrappedPrefix cut, record' = { record with
        wrappedPrefix
        physicalHistory := some window'
        ledger := { record.ledger with cut } } ∧
      Describes codec files' window' kept ∧ Within files' window' ∧
      window'.scrollbackLimit = window.scrollbackLimit ∧ kept <:+ old ++ rows ∧ Carries record' kept := by
  obtain ⟨bytes, contents, -⟩ := describes.bytes
  rw [appendRows, physical] at ok
  dsimp only at ok
  rw [contents, Option.getD_some] at ok
  split at ok
  case isTrue => cases ok
  case isFalse =>
    have written := describes.append rows contents
    have fields : rows.foldl (.wrote codec) window = _ := foldl_wrote old rows window describes.partialRows
    have sameFile : (rows.foldl (.wrote codec) window).file = window.file := by rw [fields]
    have sameLimit : (rows.foldl (.wrote codec) window).scrollbackLimit = window.scrollbackLimit := by rw [fields]
    have contents' : (files.write window.file (bytes.take window.stop ++ codec.records true rows)).contents
        (rows.foldl (.wrote codec) window).file = some (bytes.take window.stop ++ codec.records true rows) := by
      rw [sameFile]
      exact Function.update_self _ _ _
    obtain ⟨⟨record₁, window₁⟩, evicted, ok⟩ := bind_eq_ok.1 ok
    obtain ⟨record₂, rebuilt, ok⟩ := bind_eq_ok.1 ok
    obtain ⟨dropped, kept, whole, describes₁, few, small, file, limit, wrappedPrefix, rfl, after⟩ :=
      evictRows_spec reads written contents' evicted
    have within₁ : Within (files.write window.file (bytes.take window.stop ++ codec.records true rows)) window₁ := by
      refine ⟨limit ▸ few, small, ?_, ?_⟩
      · rw [limit, sameLimit]
        exact within.limit
      · rw [file, sameFile]
        exact within.old
    have carries₁ : rebuildPrefix = false → Carries { record with wrappedPrefix } kept := by
      intro keep
      obtain ⟨suffix, same⟩ := after keep (whole ▸ (carries keep).suffix)
      exact ⟨suffix, fun uncut => same (whole ▸ (carries keep).whole uncut)⟩
    obtain ⟨⟨prefix₂, cut₂, rfl⟩, carries₂⟩ := rebuiltPrefix_spec reads describes₁ carries₁ rebuilt
    obtain ⟨window', prefix', cut', rfl, describes', within', limit', carries'⟩ :=
      compact_spec reads describes₁ within₁ carries₂ ok
    refine ⟨kept, window', prefix', cut', rfl, describes', within', ?_, ?_, carries'⟩
    · rw [limit', limit, sameLimit]
    · exact ⟨dropped, whole.symm⟩

lemma appendRows_record (ok : appendRows codec record files rows rebuildPrefix = .ok (record', files')) :
    ∃ wrappedPrefix physicalHistory ledger,
      record' = { record with wrappedPrefix, physicalHistory, ledger } := by
  rw [appendRows] at ok
  split at ok
  case h_1 =>
    cases ok
    exact ⟨_, _, _, rfl⟩
  case h_2 window physical =>
    dsimp only at ok
    split at ok
    case isTrue => cases ok
    case isFalse =>
      obtain ⟨⟨record₁, window₁⟩, evicted, ok⟩ := bind_eq_ok.1 ok
      obtain ⟨record₂, rebuilt, ok⟩ := bind_eq_ok.1 ok
      have first : ∃ wrappedPrefix, record₁ = { record with wrappedPrefix } := by
        rw [evictRows] at evicted
        split at evicted
        case isTrue =>
          obtain ⟨e, -, evicted⟩ := bind_eq_ok.1 evicted
          obtain ⟨wrappedPrefix, -, evicted⟩ := bind_eq_ok.1 evicted
          cases evicted
          exact ⟨_, rfl⟩
        case isFalse =>
          cases evicted
          exact ⟨_, rfl⟩
      have second : ∃ wrappedPrefix ledger, record₂ = { record₁ with wrappedPrefix, ledger } := by
        rw [rebuiltPrefix] at rebuilt
        split at rebuilt
        case isTrue =>
          obtain ⟨rows', -, rebuilt⟩ := bind_eq_ok.1 rebuilt
          cases rebuilt
          exact ⟨_, _, rfl⟩
        case isFalse =>
          cases rebuilt
          exact ⟨_, _, rfl⟩
      obtain ⟨prefix₁, rfl⟩ := first
      obtain ⟨prefix₂, ledger₂, rfl⟩ := second
      rw [compact] at ok
      split at ok
      case isTrue =>
        obtain ⟨retained, -, ok⟩ := bind_eq_ok.1 ok
        obtain ⟨window', kept, rfl, -⟩ := replaceRows_spec ok
        exact ⟨_, _, _, rfl⟩
      case isFalse =>
        cases ok
        exact ⟨_, _, _, rfl⟩

end Ctl.Client
