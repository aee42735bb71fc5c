import Ctl.Client.Cache
import Ctl.Client.RowCodec

/-!
# Catching up with a transfer

While the history of a record is transferred, the record remembers the output that it applies. `Remembers` is
the invariant: the remembered output begins at the sequence of the checkpoint, has no gap and ends at the sequence
of the record. Every call keeps it (`step_remembers`), and a record that could not remember everything says so
until its next checkpoint (`step_truncated`).
-/

namespace Ctl.Client
open Ctl.Base Ctl.Proto Ctl.Avt Ctl.Core Ctl.Daemon

/-! ### Remembered output -/

structure CacheRecord.CatchingUp (record : CacheRecord) : Prop where
  manifest : record.historyManifest.isSome = true
  pending : record.historySynced = false
  complete : record.replayTruncated = false

def CacheRecord.replayBytes (record : CacheRecord) : List UInt8 := record.replay.flatMap (·.data)

def CacheCall.Carries (stream : List UInt8) : CacheCall → Prop
  | .apply _ (.output start stop data) => data = range stream start stop
  | _ => True

/-- The replay fills the place between the checkpoint and the present. When `carried` holds, it is the stream. -/
structure Remembered (stream : List UInt8) (carried : Prop) (record : CacheRecord)
    (checkpoint : TerminalCheckpoint) : Prop where
  known : record.historyCheckpoint = some checkpoint
  linesUp : LinesUp checkpoint.sequence record.replay record.sequence
  small : record.replayBytes.length ≤ maxReplayBytes
  bytes : carried → record.replayBytes = range stream checkpoint.sequence record.sequence

def Remembers (stream : List UInt8) (carried : Prop) (record : CacheRecord) : Prop :=
  record.CatchingUp → ∃ checkpoint, Remembered stream carried record checkpoint

def CacheRecord.replayState (record : CacheRecord) :
    Option TerminalHistoryManifest × Bool × Option TerminalCheckpoint × List ReplayOutput × Bool :=
  (record.historyManifest, record.historySynced, record.historyCheckpoint, record.replay, record.replayTruncated)

variable {stream : List UInt8} {carried : Prop} {width : Char → Option Nat} {codec : Codec}
  {record record' : CacheRecord} {stop : Nat} {delta : HistoryDelta} {cache cache' : Cache} {e : InvalidData}
  {files files' : Files} {hasPrevious : Bool} {event : CacheEvent} {size : TerminalSize} {call : CacheCall}
  {rows : List TerminalHistoryRow} {checkpoint : TerminalCheckpoint}

lemma Remembers.congr (h : Remembers stream carried record) (state : record'.replayState = record.replayState)
    (sequence : record'.sequence = record.sequence) : Remembers stream carried record' := by
  simp only [CacheRecord.replayState, Prod.mk.injEq] at state
  obtain ⟨manifest, synced, checkpoint, replay, truncated⟩ := state
  intro catching
  obtain ⟨c, remembered⟩ := h ⟨manifest ▸ catching.manifest, synced ▸ catching.pending, truncated ▸ catching.complete⟩
  refine ⟨c, checkpoint.trans remembered.known, ?_, ?_, ?_⟩
  · rw [replay, sequence]
    exact remembered.linesUp
  · rw [CacheRecord.replayBytes, replay]
    exact remembered.small
  · rw [CacheRecord.replayBytes, replay, sequence]
    exact remembered.bytes

lemma Remembers.of_truncated (truncated : record.replayTruncated = true) : Remembers stream carried record :=
  fun catching => absurd (truncated.symm.trans catching.complete) (by decide)

lemma retainReplay_idle (idle : ¬ record.CatchingUp) (sequence : Nat) (bytes : List UInt8) :
    record.retainReplay sequence bytes = record := by
  rw [CacheRecord.retainReplay, if_pos]
  by_contra other
  simp only [Bool.not_eq_true, Bool.or_eq_false_iff, Option.isNone_eq_false_iff] at other
  exact idle ⟨other.1.1, other.1.2, other.2⟩

lemma retainReplay_remembers (h : Remembers stream carried record) {bytes : List UInt8}
    (length : stop = record.sequence + bytes.length) (fresh : carried → bytes = range stream record.sequence stop) :
    Remembers stream carried { record.retainReplay record.sequence bytes with sequence := stop } := by
  by_cases catching : record.CatchingUp
  case neg =>
    rw [retainReplay_idle catching]
    exact fun later => absurd (⟨later.manifest, later.pending, later.complete⟩ : record.CatchingUp) catching
  case pos =>
    obtain ⟨checkpoint, remembered⟩ := h catching
    have active : ¬ (record.historyManifest.isNone || record.historySynced || record.replayTruncated) = true := by
      rw [catching.pending, catching.complete, Option.isNone_eq_false_iff.2 catching.manifest]
      exact Bool.false_ne_true
    have sum : (record.replay.map (·.data.length)).sum = record.replayBytes.length := by
      rw [CacheRecord.replayBytes, List.length_flatMap]
    rw [CacheRecord.retainReplay, if_neg active, sum]
    split
    case isTrue => exact .of_truncated rfl
    case isFalse fits =>
      -- the replay is longer by the bytes, in its last entry or in a new one
      suffices longer : ∀ replay : List ReplayOutput, LinesUp checkpoint.sequence replay stop →
          replay.flatMap (·.data) = record.replayBytes ++ bytes →
          Remembers stream carried { record with replay, sequence := stop } by
        have appended : ∀ last : ReplayOutput, last.sequenceStart = record.sequence → last.data = bytes →
            Remembers stream carried { record with replay := record.replay ++ [last], sequence := stop } := by
          rintro ⟨_, _⟩ rfl rfl
          refine longer _ (length ▸ remembered.linesUp.concat _) ?_
          rw [List.flatMap_append, List.flatMap_singleton]
          rfl
        split
        case h_1 previous last =>
          split
          case isTrue =>
            obtain ⟨front, whole⟩ := List.getLast?_eq_some_iff.1 last
            have linesUp := remembered.linesUp
            rw [whole] at linesUp
            rw [whole, List.dropLast_concat]
            refine longer _ (length ▸ (linesUp.extend bytes).2) ?_
            rw [CacheRecord.replayBytes, whole, List.flatMap_append, List.flatMap_append, List.flatMap_singleton,
              List.flatMap_singleton, List.append_assoc]
          case isFalse => exact appended _ rfl rfl
        case h_2 => exact appended _ rfl rfl
      intro replay linesUp joined _
      refine ⟨checkpoint, remembered.known, linesUp, ?_, fun carries => ?_⟩
      · show (replay.flatMap (·.data)).length ≤ maxReplayBytes
        rw [joined, List.length_append]
        exact Nat.le_of_not_lt fits
      · show replay.flatMap (·.data) = _
        have ends := remembered.linesUp.length
        rw [joined, remembered.bytes carries, fresh carries]
        exact range_append_range (by omega) (by omega)

/-! ### Events -/

lemma collectRows_replayState (record : CacheRecord) (delta : HistoryDelta) (lines : List Line) (rowLimit : Nat) :
    (collectRows record delta lines rowLimit).1.replayState = record.replayState := by
  obtain ⟨wrappedPrefix, ledger, eq⟩ := collectRows_record record delta lines rowLimit
  rw [eq]
  rfl

lemma applyOutput_remembers {vt vt' : Vt} {start : Nat} {data : List UInt8} (h : Remembers stream carried record)
    (ordered : start ≤ stop) (carries : carried → data = range stream start stop)
    (ok : applyOutput width record vt start stop data = .ok (record', vt', delta)) :
    Remembers stream carried record' := by
  let retained := record.retainReplay record.sequence (data.drop (record.sequence - start))
  let I (kept : Kept) : Prop := kept.record.replayState = retained.replayState ∨ kept.record.replayTruncated = true
  have collect : ∀ kept lines, I kept → I (kept.collect lines) := by
    intro kept lines kept'
    have same := collectRows_replayState kept.record kept.delta lines kept.rowLimit
    cases kept' with
    | inl state => exact .inl (same.trans state)
    | inr truncated =>
      simp only [CacheRecord.replayState, Prod.mk.injEq] at same
      exact .inr (same.2.2.2.2.trans truncated)
  have clear : ∀ kept, I kept → I kept.clear := fun kept _ => .inr rfl
  obtain ⟨begins, length, covers, kept, pendingUtf8, after, rfl, rfl⟩ := applyOutput_spec collect clear (.inl rfl) ok
  cases after with
  | inr truncated => exact .of_truncated truncated
  | inl state =>
    have fresh : stop = record.sequence + (data.drop (record.sequence - start)).length := by
      rw [List.length_drop]
      omega
    refine (retainReplay_remembers h fresh fun c => ?_).congr state rfl
    rw [carries c, drop_range, Nat.add_sub_cancel' begins]

lemma updated_remembers (h : Remembers stream carried record)
    (carries : carried → (CacheCall.apply size event).Carries stream)
    (updated : Updated width codec record files hasPrevious event record' files' delta) :
    Remembers stream carried record' := by
  cases updated with
  | checkpoint fits =>
    intro _
    refine ⟨_, rfl, rfl, Nat.zero_le _, fun _ => ?_⟩
    exact (range_self stream _).symm
  | historySynced synced =>
    obtain ⟨retained, record₁, -, rfl, -⟩ := syncHistory_ok synced
    intro catching
    cases catching.pending
  | output ordered applied => exact applyOutput_remembers h ordered carries applied
  | ptyGeometryChanged => exact .of_truncated rfl

lemma step_remembers (h : ∀ record ∈ cache.record, Remembers stream carried record)
    (carries : carried → call.Carries stream) (step : cache.step width codec call = some cache') :
    ∀ record ∈ cache'.record, Remembers stream carried record := by
  cases call with
  | apply size event =>
    rw [Cache.step] at step
    split at step
    case h_2 =>
      cases step
      exact h
    case h_1 done ok =>
      cases step
      rcases apply_ok ok with rfl | ⟨updated, files, payload, delta, record', files', made, appended, rfl⟩
      · exact h
      · have before : Remembers stream carried (cache.record.getD (.new size)) := by
          cases present : cache.record with
          | none => exact fun catching => absurd catching.manifest Bool.false_ne_true
          | some record => exact h record present
        obtain ⟨wrappedPrefix, physicalHistory, ledger, rfl⟩ := appendRows_record appended
        intro record mem
        cases mem
        exact (updated_remembers before carries made).congr rfl rfl
  | markHistoryGap =>
    rw [Cache.step] at step
    split at step
    case h_2 =>
      cases step
      exact h
    case h_1 done ok =>
      cases step
      obtain ⟨previous, -, ok⟩ := bind_eq_ok.1 ok
      cases previous with
      | none => cases ok
      | some record =>
        cases ok
        intro record' mem
        cases mem
        exact .of_truncated rfl
  | interrupted files =>
    rw [Cache.step] at step
    split at step
    case isTrue =>
      cases step
      exact h
    case isFalse => cases step

/-! ### Truncated replays -/

def CacheCall.isCheckpoint : CacheCall → Bool
  | .apply _ (.checkpoint ..) => true
  | _ => false

lemma updated_truncated (truncated : record.replayTruncated = true)
    (other : (CacheCall.apply size event).isCheckpoint = false)
    (updated : Updated width codec record files hasPrevious event record' files' delta) :
    record'.replayTruncated = true := by
  cases updated with
  | checkpoint => cases other
  | historySynced synced =>
    obtain ⟨-, -, -, -, complete⟩ := syncHistory_ok synced
    exact absurd (truncated.symm.trans complete) (by decide)
  | output ordered applied =>
    have idle : ¬ record.CatchingUp := fun catching => absurd (truncated.symm.trans catching.complete) (by decide)
    have collect : ∀ (kept : Kept) lines, kept.record.replayTruncated = true →
        (kept.collect lines).record.replayTruncated = true := by
      intro kept lines truncated
      have same := collectRows_replayState kept.record kept.delta lines kept.rowLimit
      simp only [CacheRecord.replayState, Prod.mk.injEq] at same
      exact same.2.2.2.2.trans truncated
    have base : ∀ bytes, (record.retainReplay record.sequence bytes).replayTruncated = true := by
      intro bytes
      rw [retainReplay_idle idle]
      exact truncated
    obtain ⟨-, -, -, kept, pendingUtf8, after, rfl, rfl⟩ :=
      applyOutput_spec (I := fun kept => kept.record.replayTruncated = true) collect (fun _ _ => rfl) (base _) applied
    exact after
  | ptyGeometryChanged => rfl

lemma step_truncated (stored : cache.record = some record) (truncated : record.replayTruncated = true)
    (other : call.isCheckpoint = false) (step : cache.step width codec call = some cache') :
    ∃ record', cache'.record = some record' ∧ record'.replayTruncated = true := by
  cases call with
  | apply size event =>
    rw [Cache.step] at step
    split at step
    case h_2 =>
      cases step
      exact ⟨record, stored, truncated⟩
    case h_1 done ok =>
      cases step
      rcases apply_ok ok with rfl | ⟨updated, files, payload, delta, record', files', made, appended, rfl⟩
      · exact ⟨record, stored, truncated⟩
      · rw [stored] at made
        obtain ⟨wrappedPrefix, physicalHistory, ledger, rfl⟩ := appendRows_record appended
        have stays : updated.replayTruncated = true := updated_truncated truncated other made
        exact ⟨_, rfl, stays⟩
  | markHistoryGap =>
    rw [Cache.step] at step
    split at step
    case h_2 =>
      cases step
      exact ⟨record, stored, truncated⟩
    case h_1 done ok =>
      cases step
      obtain ⟨previous, -, ok⟩ := bind_eq_ok.1 ok
      cases previous with
      | none => cases ok
      | some previous =>
        cases ok
        exact ⟨_, rfl, rfl⟩
  | interrupted files =>
    rw [Cache.step] at step
    split at step
    case isTrue =>
      cases step
      exact ⟨record, stored, truncated⟩
    case isFalse => cases step

/-! ### Completed transfers -/

lemma catchUp_linesUp {outputs : List ReplayOutput} {sequence : Nat} (linesUp : LinesUp sequence outputs stop)
    (vt : Vt) (pending : List UInt8) : ∃ result, catchUp width outputs vt pending sequence = .ok result := by
  induction outputs generalizing sequence vt pending with
  | nil => exact ⟨_, rfl⟩
  | cons output outputs ih =>
    obtain ⟨rfl, rest⟩ := linesUp
    obtain ⟨result, fed⟩ := feedProjection_total (cacheProjection width) vt pending output.data
    obtain ⟨⟨⟨vt', evicted⟩, pending', text⟩, fed, -⟩ := bind_eq_ok.1 fed
    obtain ⟨result, done⟩ := ih rest vt' pending'
    refine ⟨result, ?_⟩
    rw [catchUp, if_neg (not_not.2 rfl), fed]
    exact done

lemma validateSpans_error {length : Nat} {spans : List TerminalHistoryStyleSpan} {previousEnd : Nat}
    (failed : validateSpans length spans previousEnd = .error e) : e.message ≠ replayGap := by
  induction spans generalizing previousEnd with
  | nil => cases failed
  | cons span spans ih =>
    rw [validateSpans] at failed
    split at failed
    case isTrue =>
      cases failed
      decide
    case isFalse =>
      split at failed
      case isTrue =>
        cases failed
        decide
      case isFalse => exact ih failed

lemma rowAnsi_error {row : TerminalHistoryRow} (failed : rowAnsi row = .error e) : e.message ≠ replayGap := by
  rcases bind_eq_error.1 failed with refused | ⟨-, -, drawn⟩
  · rw [validateHistoryRow] at refused
    split at refused
    case isTrue =>
      cases refused
      decide
    case isFalse =>
      split at refused
      case isTrue =>
        cases refused
        decide
      case isFalse => exact validateSpans_error refused
  · split at drawn
    · cases drawn
    · cases drawn

lemma seedText_error (failed : seedText rows = .error e) : e.message ≠ replayGap := by
  induction rows with
  | nil => cases failed
  | cons row rows ih =>
    rcases bind_eq_error.1 failed with refused | ⟨text, -, failed⟩
    · exact rowAnsi_error refused
    · rcases bind_eq_error.1 failed with refused | ⟨more, -, failed⟩
      · exact ih refused
      · cases failed

lemma restoreProjection_error {scrollbackLimit : Nat}
    (failed : restoreProjection width checkpoint rows scrollbackLimit = .error e) : e.message ≠ replayGap := by
  rw [restoreProjection] at failed
  dsimp only at failed
  split at failed
  case isTrue =>
    cases failed
    decide
  case isFalse =>
    rcases bind_eq_error.1 failed with refused | ⟨seed, -, failed⟩
    · exact seedText_error refused
    · cases failed

lemma syncHistory_noGap (catching : record.CatchingUp) (remembered : Remembered stream carried record checkpoint)
    (files : Files) (completed : CompletedHistory) :
    syncHistory width codec record files completed ≠ .error replayGap := by
  intro gap
  rw [syncHistory] at gap
  split at gap
  case h_1 => cases gap
  case h_2 manifest present =>
    split at gap
    case isTrue => cases gap
    case isFalse =>
      split at gap
      case isTrue => exact absurd (Except.error.inj gap) (by decide)
      case isFalse same =>
        rw [if_neg (by rw [catching.complete]; exact Bool.false_ne_true)] at gap
        obtain ⟨-, known, -⟩ := not_or.1 same |>.imp_right not_or.1
        rw [remembered.known, not_not] at known
        obtain rfl := Option.some.inj known
        rcases bind_eq_error.1 gap with failed | ⟨projected, -, gap⟩
        · cases restored : restoreProjection width completed.checkpoint completed.rows
            completed.scrollbackLimit with
          | ok projected =>
            rw [restored] at failed
            cases failed
          | error e =>
            rw [restored] at failed
            exact restoreProjection_error restored (Except.error.inj failed)
        · obtain ⟨result, caught⟩ := catchUp_linesUp remembered.linesUp projected completed.checkpoint.inputPrefix
          rw [caught] at gap
          rcases bind_eq_error.1 gap with failed | ⟨_, -, gap⟩
          · cases failed
          · dsimp only at gap
            split at gap
            case isTrue => exact absurd (Except.error.inj gap) (by decide)
            case isFalse =>
              rcases bind_eq_error.1 gap with failed | ⟨_, -, gap⟩
              · rw [replaceRows] at failed
                split at failed
                case isTrue => exact absurd (Except.error.inj failed) (by decide)
                case isFalse => cases failed
              · cases gap

/-! ### Runs -/

lemma run_remembers {calls : List CacheCall} (h : ∀ record ∈ cache.record, Remembers stream carried record)
    (carries : carried → ∀ call ∈ calls, call.Carries stream)
    (run : exec (Cache.step width codec) cache calls = some cache') :
    ∀ record ∈ cache'.record, Remembers stream carried record := by
  induction calls generalizing cache with
  | nil =>
    obtain rfl : cache = cache' := Option.some.inj run
    exact h
  | cons call calls ih =>
    obtain ⟨next, step, rest⟩ := exec_cons run
    have kept := step_remembers h (fun c => carries c call List.mem_cons_self) step
    exact ih kept (fun c other mem => carries c other (List.mem_cons_of_mem call mem)) rest

/-- Whatever happens to a cache, a record that is catching up remembers the raw output from its checkpoint to the
    present, without a gap and within the bound, so that a completed transfer finds no gap; a replay that was
    truncated stays so until the next checkpoint. -/
theorem replay_catchesUp {calls : List CacheCall} {cache : Cache} {record : CacheRecord}
    (run : exec (Cache.step width codec) Cache.empty calls = some cache) (stored : cache.record = some record) :
    (record.CatchingUp → ∃ checkpoint, record.historyCheckpoint = some checkpoint ∧
      LinesUp checkpoint.sequence record.replay record.sequence ∧
      record.replayBytes.length ≤ maxReplayBytes ∧
      (∀ stream, (∀ call ∈ calls, call.Carries stream) →
        record.replayBytes = range stream checkpoint.sequence record.sequence) ∧
      ∀ files completed, syncHistory width codec record files completed ≠ .error replayGap) ∧
    (record.replayTruncated = true → ∀ call cache', call.isCheckpoint = false →
      cache.step width codec call = some cache' →
      ∃ record', cache'.record = some record' ∧ record'.replayTruncated = true) := by
  refine ⟨fun catching => ?_, fun truncated call cache' other step => step_truncated stored truncated other step⟩
  have remembers : ∀ stream, Remembers stream (∀ call ∈ calls, call.Carries stream) record :=
    fun stream => run_remembers (fun _ mem => absurd mem (Option.not_mem_none _)) (fun carries => carries) run record stored
  obtain ⟨checkpoint, remembered⟩ := remembers [] catching
  refine ⟨checkpoint, remembered.known, remembered.linesUp, remembered.small, fun stream carries => ?_,
    syncHistory_noGap catching remembered⟩
  obtain ⟨other, again⟩ := remembers stream catching
  obtain rfl := Option.some.inj (again.known.symm.trans remembered.known)
  exact again.bytes carries

def followedCheckpoint : List CacheCall :=
  [.apply ⟨2, 1, 0, 0⟩ (.checkpoint ⟨3, ⟨2, 1, 0, 0⟩, "ab".toList, []⟩ true ⟨3, 0, 0, 0, false, []⟩
      (some ⟨"s", 3, 0, 0, 0, 0, 0, 0, false, "", 2⟩)),
    .apply ⟨2, 1, 0, 0⟩ (.output 3 5 [99, 100]), .apply ⟨2, 1, 0, 0⟩ (.output 4 6 [100, 101])]

theorem replay_catchesUp_followed : ∃ record : CacheRecord, record.CatchingUp ∧ record.sequence = 6 ∧
    record.replayBytes = range [0, 0, 0, 99, 100, 101] 3 record.sequence := by
  have facts : (exec (Cache.step (fun _ => some 1) plainCodec) Cache.empty followedCheckpoint).any (fun cache =>
      cache.record.any fun record => (record.historyManifest.isSome && !record.historySynced &&
        !record.replayTruncated) && record.sequence = 6 &&
        record.historyCheckpoint = some ⟨3, ⟨2, 1, 0, 0⟩, "ab".toList, []⟩) = true := by
    decide +kernel
  obtain ⟨cache, run, facts⟩ := (Option.any_eq_true _ _).1 facts
  obtain ⟨record, stored, facts⟩ := (Option.any_eq_true _ _).1 facts
  simp only [Bool.and_eq_true, Bool.not_eq_true', decide_eq_true_eq] at facts
  obtain ⟨⟨⟨⟨manifest, pending⟩, complete⟩, sequence⟩, known⟩ := facts
  obtain ⟨checkpoint, known', -, -, bytes, -⟩ := (replay_catchesUp run stored).1 ⟨manifest, pending, complete⟩
  obtain rfl := Option.some.inj (known.symm.trans known')
  refine ⟨record, ⟨manifest, pending, complete⟩, sequence, bytes _ ?_⟩
  exact List.forall_mem_cons.2 ⟨trivial, List.forall_mem_cons.2 ⟨rfl, List.forall_mem_cons.2 ⟨rfl, nofun⟩⟩⟩

end Ctl.Client
