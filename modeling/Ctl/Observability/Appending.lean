import Mathlib.Data.Char
import Mathlib.Data.List.Lex
import Ctl.Observability.Retrieval
import Ctl.Observability.RoundTrip

/-!
# Appends that are interrupted

A process may stop at any byte that an append writes, and between any two of its changes to the files
(`Interrupted`). The lines of a run then are those of its last attempts (`Recorded`): a finished attempt has left
its line, and one that was interrupted at most one line, which nothing else is part of.
-/

namespace Ctl.Observability
open Ctl.Base Ctl.Proto

/-! ### Runs of appends -/

/-- A call of `append`, which may have been interrupted. -/
structure Attempt (Uuid : Type) where
  record : Record Uuid
  finished : Bool

/-- The changes that are made when the process stops on the way. -/
inductive Interrupted : List FileOp → List FileOp → Prop
  | stop (ops : List FileOp) : Interrupted ops []
  | cut {bytes front : List UInt8} (ops : List FileOp) (part : front <+: bytes) :
    Interrupted (.write bytes :: ops) [.write front]
  | next {ops done : List FileOp} (op : FileOp) (rest : Interrupted ops done) : Interrupted (op :: ops) (op :: done)

/-- The segments of all runs after some attempts. An append that fails changes nothing. -/
inductive Appended (crates : Crates) [LinearOrder crates.Uuid] (store : Store) :
    (crates.Uuid → Segments) → List (Attempt crates.Uuid) → Prop
  | start : Appended crates store (fun _ _ => none) []
  | finish {segments attempts ops} (before : Appended crates store segments attempts) (record : Record crates.Uuid)
    (granted : store.append crates (segments record.runId) record = .ok ops) :
    Appended crates store
      (Function.update segments record.runId (applyAll (segments record.runId) ops)) (attempts ++ [⟨record, true⟩])
  | interrupt {segments attempts ops done} (before : Appended crates store segments attempts)
    (record : Record crates.Uuid) (granted : store.append crates (segments record.runId) record = .ok ops)
    (stopped : Interrupted ops done) :
    Appended crates store
      (Function.update segments record.runId (applyAll (segments record.runId) done)) (attempts ++ [⟨record, false⟩])

def encoded (line : Text) : List UInt8 := utf8Bytes (line ++ ['\n'])

inductive Leaves (crates : Crates) : Attempt crates.Uuid → List (List UInt8) → Prop
  | line {record line} (logged : Record.logLine crates record = .ok line)
    (short : (encoded line).length ≤ maxRecordBytes) : Leaves crates ⟨record, true⟩ [encoded line]
  | nothing (record) : Leaves crates ⟨record, false⟩ []
  /-- The line ends where the process stopped. -/
  | part {record line front} (logged : Record.logLine crates record = .ok line) (some : front ≠ [])
    (prefixed : front <+: encoded line) : Leaves crates ⟨record, false⟩ [front]
  /-- The next append has ended the line. -/
  | ended {record line front} (logged : Record.logLine crates record = .ok line) (prefixed : front <+: encoded line) :
    Leaves crates ⟨record, false⟩ [front ++ [10]]

section
variable {crates : Crates} {store : Store} {segments : Segments} {attempts : List (Attempt crates.Uuid)} {line : Text}
  {front : List UInt8} {attempt : Attempt crates.Uuid} {ops : List FileOp} {record : Record crates.Uuid}
  {lines : List (List UInt8)} {last : List UInt8} {kept : List (Attempt crates.Uuid)}
  {pieces : List (List (List UInt8))} {segments' : Segments} {op : FileOp} {done : List FileOp} {finished : Bool}

/-- The lines of a run are those of its last attempts; when earlier ones are gone, the lines fill a segment. -/
def Recorded (crates : Crates) (store : Store) (segments : Segments) (attempts : List (Attempt crates.Uuid)) : Prop :=
  ∃ kept pieces, kept <:+ attempts ∧ List.Forall₂ (Leaves crates) kept pieces ∧
    storedLines segments = pieces.flatten ∧
    (kept = attempts ∨ store.segmentBytes < pieces.flatten.flatten.length + maxRecordBytes + 1)

/-! ### Lines of attempts -/

lemma encoded_eq (line : Text) : encoded line = utf8Bytes line ++ [10] := by
  rw [encoded, utf8Bytes, List.flatMap_append]
  rfl

lemma newline_utf8Bytes (single : '\n' ∉ line) : 10 ∉ utf8Bytes line := by
  intro mem
  obtain ⟨c, listed, same⟩ := exists_of_mem_utf8Bytes (by decide) mem
  have eq : c = '\n' := Char.ext (UInt32.toNat_inj.1 same)
  exact single (eq ▸ listed)

lemma prefix_encoded (prefixed : front <+: encoded line) : front = encoded line ∨ front <+: utf8Bytes line := by
  rw [encoded_eq] at prefixed ⊢
  exact List.prefix_concat_iff.1 prefixed

lemma splitInclusive_prefix (single : '\n' ∉ line) (prefixed : front <+: encoded line) (some : front ≠ []) :
    splitInclusive 10 front = [front] := by
  have clean := newline_utf8Bytes single
  rcases prefix_encoded prefixed with rfl | inside
  · rw [encoded_eq]
    exact splitInclusive_append clean []
  · exact splitInclusive_single some fun mem => clean (inside.subset mem)

lemma Leaves.length_le (h : Leaves crates attempt lines) : lines.length ≤ 1 := by
  cases h <;> simp

lemma Leaves.end (h : Leaves crates attempt [last]) (unended : last.getLast? ≠ some 10) :
    Leaves crates attempt [last ++ [10]] := by
  cases h with
  | line =>
    rw [encoded_eq, List.getLast?_concat] at unended
    exact absurd rfl unended
  | part logged some prefixed => exact .ended logged prefixed
  | ended =>
    rw [List.getLast?_concat] at unended
    exact absurd rfl unended

lemma leaves_end (leaves : List.Forall₂ (Leaves crates) kept pieces) {front : List (List UInt8)}
    (whole : pieces.flatten = front ++ [last]) (unended : last.getLast? ≠ some 10) :
    ∃ pieces', List.Forall₂ (Leaves crates) kept pieces' ∧ pieces'.flatten = front ++ [last ++ [10]] := by
  induction leaves generalizing front with
  | nil => exact absurd whole.symm (by simp)
  | @cons attempt piece kept pieces own rest ih =>
    rcases List.eq_nil_or_concat pieces.flatten with empty | ⟨front', last', eq⟩
    · rw [List.flatten_cons, empty, List.append_nil] at whole
      have short := own.length_le
      rw [whole, List.length_append, List.length_singleton] at short
      obtain rfl := List.length_eq_zero_iff.1 (by omega : front.length = 0)
      rw [List.nil_append] at whole
      refine ⟨[last ++ [10]] :: pieces, .cons ((whole ▸ own).end unended) rest, ?_⟩
      rw [List.flatten_cons, empty]
      rfl
    · rw [List.concat_eq_append] at eq
      rw [List.flatten_cons, eq, ← List.append_assoc] at whole
      obtain ⟨rfl, same⟩ := List.append_inj' whole rfl
      obtain rfl := List.singleton_inj.1 same
      obtain ⟨pieces', leaves', eq'⟩ := ih eq
      exact ⟨piece :: pieces', .cons own leaves', by rw [List.flatten_cons, eq', List.append_assoc]⟩

lemma leaves_drop (leaves : List.Forall₂ (Leaves crates) kept pieces) {removed left : List (List UInt8)}
    (whole : pieces.flatten = removed ++ left) :
    ∃ kept' pieces', kept' <:+ kept ∧ List.Forall₂ (Leaves crates) kept' pieces' ∧ pieces'.flatten = left := by
  induction leaves generalizing removed with
  | nil =>
    obtain ⟨-, rfl⟩ := List.append_eq_nil_iff.1 whole.symm
    exact ⟨[], [], List.suffix_rfl, .nil, rfl⟩
  | @cons attempt piece kept pieces own rest ih =>
    have later : ∀ {removed}, pieces.flatten = removed ++ left → ∃ kept' pieces', kept' <:+ attempt :: kept ∧
        List.Forall₂ (Leaves crates) kept' pieces' ∧ pieces'.flatten = left := by
      intro removed eq
      obtain ⟨kept', pieces', suffix, leaves', eq'⟩ := ih eq
      exact ⟨kept', pieces', suffix.trans (List.suffix_cons _ _), leaves', eq'⟩
    cases removed with
    | nil => exact ⟨attempt :: kept, piece :: pieces, List.suffix_rfl, .cons own rest, whole⟩
    | cons line removed =>
      have short := own.length_le
      cases piece with
      | nil => exact later whole
      | cons line' piece =>
        obtain rfl := List.length_eq_zero_iff.1 (Nat.le_zero.1 (Nat.le_of_succ_le_succ short))
        exact later (List.cons.inj whole).2

/-! ### Changes to the files -/

def contents (segments : Segments) (index : Nat) : List UInt8 := (segments index).getD []

lemma storedLines_eq (segments : Segments) :
    storedLines segments = splitInclusive 10 (contents segments 3) ++ (splitInclusive 10 (contents segments 2) ++
      (splitInclusive 10 (contents segments 1) ++ splitInclusive 10 (contents segments 0))) := by
  simp [storedLines, contents]

lemma storedLines_congr {segments : Segments} (same : ∀ index, contents segments' index = contents segments index) :
    storedLines segments' = storedLines segments := by
  rw [storedLines_eq, storedLines_eq, same, same, same, same]

/-- A change that an append makes before it writes its line. -/
inductive Allowed (store : Store) (segments : Segments) : FileOp → Prop
  | create : Allowed store segments .create
  | remove (full : store.segmentBytes < (contents segments 0).length + maxRecordBytes + 1) :
    Allowed store segments (.remove 3)
  | rename {index : Nat} (inside : index < 3) (free : segments (index + 1) = none) :
    Allowed store segments (.rename index (index + 1))
  | repair (present : contents segments 0 ≠ []) (unended : (contents segments 0).getLast? ≠ some 10)
    (room : (contents segments 0).length < store.segmentBytes) : Allowed store segments (.write [10])

/-- Every change is allowed when it is made. -/
inductive AllAllowed (store : Store) : Segments → List FileOp → Prop
  | nil (segments : Segments) : AllAllowed store segments []
  | cons {segments : Segments} {op : FileOp} {ops : List FileOp} (allowed : Allowed store segments op)
    (rest : AllAllowed store (op.apply segments) ops) : AllAllowed store segments (op :: ops)

/-- No segment is too large. -/
def Fits (store : Store) (segments : Segments) : Prop :=
  ∀ index, (contents segments index).length ≤ store.segmentBytes

lemma contents_create (segments : Segments) (index : Nat) :
    contents (FileOp.create.apply segments) index = contents segments index := by
  unfold contents
  rw [FileOp.apply]
  split
  case isTrue => rfl
  case isFalse absent =>
    rw [Function.update_apply]
    split
    case isTrue zero =>
      rw [zero, Option.not_isSome_iff_eq_none.1 absent]
      rfl
    case isFalse => rfl

lemma contents_remove (segments : Segments) (removed index : Nat) :
    contents ((FileOp.remove removed).apply segments) index = if index = removed then [] else contents segments index := by
  unfold contents
  rw [FileOp.apply, Function.update_apply]
  split <;> rfl

lemma contents_rename (segments : Segments) (source target index : Nat) :
    contents ((FileOp.rename source target).apply segments) index =
      if index = source then [] else if index = target then contents segments source else contents segments index := by
  unfold contents
  rw [FileOp.apply, Function.update_apply, Function.update_apply]
  split
  · rfl
  · split <;> rfl

lemma contents_write (segments : Segments) (bytes : List UInt8) (index : Nat) :
    contents ((FileOp.write bytes).apply segments) index =
      if index = 0 then contents segments 0 ++ bytes else contents segments index := by
  unfold contents
  rw [FileOp.apply, Function.update_apply]
  split <;> rfl

lemma Recorded.congr (h : Recorded crates store segments attempts)
    (same : storedLines segments' = storedLines segments) : Recorded crates store segments' attempts := by
  obtain ⟨kept, pieces, suffix, leaves, whole, enough⟩ := h
  exact ⟨kept, pieces, suffix, leaves, same.trans whole, enough⟩

lemma Recorded.apply (h : Recorded crates store segments attempts) (allowed : Allowed store segments op) :
    Recorded crates store (op.apply segments) attempts := by
  cases allowed with
  | create => exact h.congr (storedLines_congr (contents_create segments))
  | remove full =>
    obtain ⟨kept, pieces, suffix, leaves, whole, -⟩ := h
    have lines := storedLines_eq ((FileOp.remove 3).apply segments)
    rw [storedLines_eq] at whole
    obtain ⟨kept', pieces', suffix', leaves', whole'⟩ := leaves_drop leaves whole.symm
    refine ⟨kept', pieces', suffix'.trans suffix, leaves', lines.trans whole'.symm, .inr ?_⟩
    rw [whole', List.flatten_append, List.flatten_append, flatten_splitInclusive, flatten_splitInclusive,
      flatten_splitInclusive, List.length_append, List.length_append]
    omega
  | @rename index inside free =>
    refine h.congr ?_
    rw [storedLines_eq, storedLines_eq]
    have cases : index = 0 ∨ index = 1 ∨ index = 2 := by omega
    rcases cases with rfl | rfl | rfl <;>
      simp [contents, FileOp.apply, free, splitInclusive]
  | repair present unended room =>
    obtain ⟨kept, pieces, suffix, leaves, whole, enough⟩ := h
    obtain ⟨lines, last, cut, -, unended', cut'⟩ := splitInclusive_grow present unended
    rw [storedLines_eq, cut] at whole
    simp only [← List.append_assoc] at whole
    obtain ⟨pieces', leaves', whole'⟩ := leaves_end leaves whole.symm unended'
    refine ⟨kept, pieces', suffix, leaves', ?_, enough.imp id fun enough => ?_⟩
    · rw [storedLines_eq, whole', contents_write, contents_write, contents_write, contents_write]
      simp [cut']
    · rw [← whole] at enough
      rw [whole']
      simp only [List.flatten_append, List.length_append, List.flatten_singleton, List.length_singleton] at enough ⊢
      omega

lemma Fits.apply (h : Fits store segments) (allowed : Allowed store segments op) : Fits store (op.apply segments) := by
  intro index
  have own := h index
  cases allowed with
  | create =>
    rw [contents_create]
    exact own
  | remove =>
    rw [contents_remove]
    split
    · exact Nat.zero_le _
    · exact own
  | @rename source =>
    rw [contents_rename]
    split
    · exact Nat.zero_le _
    · split
      · exact h source
      · exact own
  | repair present unended room =>
    rw [contents_write]
    split
    · rw [List.length_append]
      exact room
    · exact own

lemma AllAllowed.append {ops' : List FileOp} (first : AllAllowed store segments ops)
    (second : AllAllowed store (applyAll segments ops) ops') : AllAllowed store segments (ops ++ ops') := by
  induction first with
  | nil => exact second
  | cons allowed rest ih => exact .cons allowed (ih second)

/-- What holds of the files of a run: the lines of its attempts, in segments that are not too large. -/
def Intact (crates : Crates) (store : Store) (segments : Segments) (attempts : List (Attempt crates.Uuid)) : Prop :=
  Recorded crates store segments attempts ∧ Fits store segments

lemma Intact.applyAll (h : Intact crates store segments attempts) (allowed : AllAllowed store segments ops) :
    Intact crates store (applyAll segments ops) attempts := by
  induction allowed with
  | nil => exact h
  | cons allowed rest ih => exact ih ⟨h.1.apply allowed, h.2.apply allowed⟩

lemma Intact.interrupted (h : Intact crates store segments attempts) (stopped : Interrupted ops done)
    (allowed : AllAllowed store segments ops) :
    Intact crates store (Observability.applyAll segments done) attempts := by
  induction stopped generalizing segments with
  | stop => exact h
  | @cut bytes front ops part =>
    cases allowed with
    | cons allowed rest =>
      have kept := allowed
      cases allowed
      rcases List.prefix_concat_iff.1 (show front <+: [] ++ [10] from part) with rfl | nothing
      · exact ⟨h.1.apply kept, h.2.apply kept⟩
      · obtain rfl := List.prefix_nil.1 nothing
        have same : ∀ index, contents ((FileOp.write []).apply segments) index = contents segments index := by
          intro index
          rw [contents_write, List.append_nil]
          split
          case isTrue zero => rw [zero]
          case isFalse => rfl
        exact ⟨h.1.congr (storedLines_congr same), fun index => (congrArg List.length (same index)).trans_le (h.2 index)⟩
  | next op rest ih =>
    cases allowed with
    | cons allowed rest => exact ih ⟨h.1.apply allowed, h.2.apply allowed⟩ rest

/-! ### Before a line is written -/

lemma shift_allowed (index : Nat) (inside : index < 3) (free : index + 1 < 3 → segments (index + 1) = none)
    (full : store.segmentBytes < (contents segments 0).length + maxRecordBytes + 1) :
    AllAllowed store segments (shift segments (index + 1)) ∧
      applyAll segments (shift segments (index + 1)) index = none ∧
      ∀ other < index, applyAll segments (shift segments (index + 1)) other = segments other := by
  unfold shift
  rw [Nat.add_sub_cancel]
  split
  case isFalse absent => exact ⟨.nil _, Option.not_isSome_iff_eq_none.1 absent, fun _ _ => rfl⟩
  case isTrue =>
    split
    case isTrue taken =>
      have last : index = 2 := by
        by_contra other
        rw [free (by omega)] at taken
        cases taken
      subst last
      refine ⟨.cons (.remove full) (.cons (.rename (by omega) ?_) (.nil _)), ?_, ?_⟩
      · rw [FileOp.apply, Function.update_self]
      · simp only [applyAll, List.cons_append, List.nil_append, List.foldl_cons, List.foldl_nil, FileOp.apply,
          Function.update_self]
      · intro other less
        simp only [applyAll, List.cons_append, List.nil_append, List.foldl_cons, List.foldl_nil, FileOp.apply]
        rw [Function.update_of_ne (by omega), Function.update_of_ne (by omega), Function.update_of_ne (by omega)]
    case isFalse vacant =>
      refine ⟨.cons (.rename inside (Option.not_isSome_iff_eq_none.1 vacant)) (.nil _), ?_, ?_⟩
      · simp only [applyAll, List.nil_append, List.foldl_cons, List.foldl_nil, FileOp.apply, Function.update_self]
      · intro other less
        simp only [applyAll, List.nil_append, List.foldl_cons, List.foldl_nil, FileOp.apply]
        rw [Function.update_of_ne (by omega), Function.update_of_ne (by omega)]

lemma rotate_allowed (full : store.segmentBytes < (contents segments 0).length + maxRecordBytes + 1) :
    AllAllowed store segments (rotate segments [3, 2, 1]) ∧ applyAll segments (rotate segments [3, 2, 1]) 0 = none := by
  obtain ⟨allowed, free, same⟩ := shift_allowed 2 (by omega) (by omega) full
  have full' : store.segmentBytes <
      (contents (applyAll segments (shift segments 3)) 0).length + maxRecordBytes + 1 := by
    rw [contents, same 0 (by omega)]
    exact full
  obtain ⟨allowed', free', same'⟩ := shift_allowed 1 (by omega) (fun _ => free) full'
  obtain ⟨allowed'', free'', -⟩ := shift_allowed 0 (by omega) (fun _ => free')
    (by rw [contents, same' 0 (by omega)]; exact full')
  have whole : ∀ ops ops' ops'' : List FileOp, applyAll segments (ops ++ (ops' ++ (ops'' ++ []))) =
      applyAll (applyAll (applyAll segments ops) ops') ops'' := by
    intro ops ops' ops''
    simp only [applyAll, List.foldl_append, List.append_nil]
  simp only [rotate]
  rw [whole]
  exact ⟨allowed.append (allowed'.append (allowed''.append (.nil _))), free''⟩

lemma upkeep_allowed {length : Nat} (short : length ≤ maxRecordBytes) :
    AllAllowed store segments (store.upkeep segments length) ∧
      ((contents (applyAll segments (store.upkeep segments length)) 0).getLast? = none ∨
        (contents (applyAll segments (store.upkeep segments length)) 0).getLast? = some 10) ∧
      (contents (applyAll segments (store.upkeep segments length)) 0).length + length ≤ store.segmentBytes := by
  have created := contents_create segments 0
  have repaired : ∀ segments : Segments, (contents segments 0).length + length + 1 ≤ store.segmentBytes →
      AllAllowed store segments (repair segments) ∧
        ((contents (applyAll segments (repair segments)) 0).getLast? = none ∨
          (contents (applyAll segments (repair segments)) 0).getLast? = some 10) ∧
        (contents (applyAll segments (repair segments)) 0).length + length ≤ store.segmentBytes := by
    intro segments room
    unfold repair
    split
    case h_1 empty =>
      have empty' : contents segments 0 = [] := empty
      refine ⟨.nil _, .inl ?_, ?_⟩
      · rw [applyAll, List.foldl_nil, empty', List.getLast?_nil]
      · rw [applyAll, List.foldl_nil]
        omega
    case h_2 byte bytes some =>
      have some' : contents segments 0 = byte :: bytes := some
      split
      case isTrue ended =>
        refine ⟨.nil _, .inr ?_, ?_⟩
        · rw [applyAll, List.foldl_nil, some', ended]
        · rw [applyAll, List.foldl_nil]
          omega
      case isFalse unended =>
        rw [← some'] at unended
        refine ⟨.cons (.repair (by rw [some']; exact List.cons_ne_nil _ _) unended (by omega)) (.nil _), .inr ?_, ?_⟩
        · rw [applyAll, List.foldl_cons, List.foldl_nil, contents_write, if_pos rfl, List.getLast?_concat]
        · rw [applyAll, List.foldl_cons, List.foldl_nil, contents_write, if_pos rfl, List.length_append,
            List.length_singleton]
          omega
  have split : ∀ ops ops' : List FileOp, applyAll segments (.create :: ops ++ ops') =
      applyAll (applyAll (FileOp.create.apply segments) ops) ops' := by
    intro ops ops'
    simp only [applyAll, List.cons_append, List.foldl_cons, List.foldl_append]
  unfold Store.upkeep
  dsimp only
  rw [split]
  by_cases crowded : store.segmentBytes < size (applyAll segments [.create]) + length + 1
  · have full : store.segmentBytes < (contents (FileOp.create.apply segments) 0).length + maxRecordBytes + 1 := by
      have size : store.segmentBytes < (contents (FileOp.create.apply segments) 0).length + length + 1 := crowded
      omega
    rw [if_pos crowded]
    obtain ⟨rotated, vacant⟩ := rotate_allowed full
    have empty : contents (applyAll (FileOp.create.apply segments)
        (rotate (applyAll segments [.create]) [3, 2, 1] ++ [FileOp.create])) 0 = [] := by
      rw [applyAll, List.foldl_append, List.foldl_cons, List.foldl_nil, contents_create]
      exact congrArg (Option.getD · []) vacant
    obtain ⟨allowed, ended, room⟩ := repaired (applyAll (FileOp.create.apply segments)
      (rotate (applyAll segments [.create]) [3, 2, 1] ++ [FileOp.create])) (by
        rw [empty, List.length_nil]
        have := store.room
        omega)
    exact ⟨.cons .create ((rotated.append (.cons .create (.nil _))).append allowed), ended, room⟩
  · rw [if_neg crowded]
    have room : (contents (FileOp.create.apply segments) 0).length + length + 1 ≤ store.segmentBytes :=
      Nat.le_of_not_lt crowded
    obtain ⟨allowed, ended, room⟩ := repaired _ room
    exact ⟨.cons .create allowed, ended, room⟩

/-! ### Writing a line -/

lemma Intact.write (h : Intact crates store segments attempts) (logged : record.logLine crates = .ok line)
    (short : (encoded line).length ≤ maxRecordBytes) (single : '\n' ∉ line) (prefixed : front <+: encoded line)
    (ended : (contents segments 0).getLast? = none ∨ (contents segments 0).getLast? = some 10)
    (room : (contents segments 0).length + front.length ≤ store.segmentBytes)
    (complete : finished = true → front = encoded line) :
    Intact crates store ((FileOp.write front).apply segments) (attempts ++ [⟨record, finished⟩]) := by
  obtain ⟨⟨kept, pieces, suffix, leaves, whole, enough⟩, fits⟩ := h
  have written : ∃ piece, Leaves crates ⟨record, finished⟩ piece ∧ splitInclusive 10 front = piece := by
    cases finished with
    | true =>
      obtain rfl := complete rfl
      refine ⟨_, .line logged short, splitInclusive_prefix single prefixed ?_⟩
      rw [encoded_eq]
      exact List.append_ne_nil_of_right_ne_nil _ (List.cons_ne_nil _ _)
    | false =>
      by_cases empty : front = []
      · exact ⟨[], .nothing record, by rw [empty]; rfl⟩
      · exact ⟨_, .part logged empty prefixed, splitInclusive_prefix single prefixed empty⟩
  obtain ⟨piece, leaves', cut⟩ := written
  refine ⟨⟨kept ++ [⟨record, finished⟩], pieces ++ [piece], ?_, ?_, ?_, ?_⟩, fun index => ?_⟩
  · obtain ⟨gone, eq⟩ := suffix
    exact ⟨gone, by rw [← eq, List.append_assoc]⟩
  · exact List.rel_append leaves (.cons leaves' .nil)
  · rw [storedLines_eq] at whole ⊢
    simp only [contents_write, if_pos, Nat.succ_ne_zero, if_false, List.flatten_append, List.flatten_singleton]
    rw [splitInclusive_ended ended, cut, ← whole]
    simp
  · refine enough.imp (fun all => by rw [all]) fun enough => ?_
    simp only [List.flatten_append, List.length_append]
    omega
  · rw [contents_write]
    split
    · rw [List.length_append]
      exact room
    · exact fits index

lemma Intact.nothing (h : Intact crates store segments attempts) (record : Record crates.Uuid) :
    Intact crates store segments (attempts ++ [⟨record, false⟩]) := by
  obtain ⟨⟨kept, pieces, ⟨gone, eq⟩, leaves, whole, enough⟩, fits⟩ := h
  refine ⟨⟨kept ++ [⟨record, false⟩], pieces ++ [[]], ⟨gone, by rw [← eq, List.append_assoc]⟩,
    List.rel_append leaves (.cons (.nothing record) .nil), ?_, enough.imp (fun all => by rw [all]) fun enough => ?_⟩, fits⟩
  · rw [whole, List.flatten_append]
    exact (List.append_nil _).symm
  · rw [List.flatten_append]
    simpa using enough

lemma interrupted_append {bytes : List UInt8} (stopped : Interrupted (ops ++ [FileOp.write bytes]) done) :
    Interrupted ops done ∨ ∃ front, front <+: bytes ∧ done = ops ++ [FileOp.write front] := by
  induction ops generalizing done with
  | nil =>
    cases stopped with
    | stop => exact .inl (.stop _)
    | cut _ part => exact .inr ⟨_, part, rfl⟩
    | next _ rest =>
      cases rest
      exact .inr ⟨bytes, List.prefix_rfl, rfl⟩
  | cons op ops ih =>
    cases stopped with
    | stop => exact .inl (.stop _)
    | cut _ part => exact .inl (.cut _ part)
    | next _ rest =>
      rcases ih rest with stopped | ⟨front, part, eq⟩
      · exact .inl (.next _ stopped)
      · exact .inr ⟨front, part, by rw [eq]; rfl⟩

lemma append_eq_ok (granted : store.append crates segments record = .ok ops) :
    ∃ line, record.valid crates = true ∧ record.logLine crates = .ok line ∧ (encoded line).length ≤ maxRecordBytes ∧
      ops = store.upkeep segments (encoded line).length ++ [FileOp.write (encoded line)] := by
  unfold Store.append at granted
  split at granted
  case isTrue => cases granted
  case isFalse valid =>
    split at granted
    case h_1 => cases granted
    case h_2 line logged =>
      dsimp only at granted
      split at granted
      case isTrue => cases granted
      case isFalse short =>
        split at granted
        case isTrue => cases granted
        case isFalse =>
          cases granted
          exact ⟨line, by simpa using valid, logged, Nat.le_of_not_lt short, rfl⟩

variable [LinearOrder crates.Uuid]

omit [LinearOrder crates.Uuid] in
lemma intact_update [DecidableEq crates.Uuid] {segments : crates.Uuid → Segments} {changed : Segments}
    (before : ∀ run, Intact crates store (segments run) (attempts.filter (·.record.runId = run)))
    (own : Intact crates store (segments record.runId) (attempts.filter (·.record.runId = record.runId)) →
      Intact crates store changed (attempts.filter (·.record.runId = record.runId) ++ [⟨record, finished⟩]))
    (run : crates.Uuid) :
    Intact crates store (Function.update segments record.runId changed run)
      ((attempts ++ [(⟨record, finished⟩ : Attempt crates.Uuid)]).filter (·.record.runId = run)) := by
  rw [List.filter_append, Function.update_apply]
  by_cases same : run = record.runId
  · subst same
    rw [if_pos rfl]
    simpa using own (before record.runId)
  · rw [if_neg same]
    simpa [Ne.symm same] using before run

lemma Appended.intact (sound : crates.Sound) {segments : crates.Uuid → Segments}
    (appended : Appended crates store segments attempts) (run : crates.Uuid) :
    Intact crates store (segments run) (attempts.filter (·.record.runId = run)) := by
  induction appended generalizing run with
  | start =>
    refine ⟨⟨[], [], List.suffix_rfl, .nil, ?_, .inl rfl⟩, fun index => Nat.zero_le _⟩
    simp [storedLines, splitInclusive]
  | finish before record granted ih =>
    refine intact_update ih (fun own => ?_) run
    obtain ⟨line, -, logged, short, rfl⟩ := append_eq_ok granted
    obtain ⟨allowed, ended, room⟩ := upkeep_allowed short
    rw [applyAll, List.foldl_append]
    exact (own.applyAll allowed).write logged short (sound.newline_logLine logged) List.prefix_rfl ended room fun _ => rfl
  | interrupt before record granted stopped ih =>
    refine intact_update ih (fun own => ?_) run
    obtain ⟨line, -, logged, short, rfl⟩ := append_eq_ok granted
    obtain ⟨allowed, ended, room⟩ := upkeep_allowed short
    rcases interrupted_append stopped with early | ⟨front, part, rfl⟩
    · exact (own.interrupted early allowed).nothing record
    · rw [applyAll, List.foldl_append]
      exact (own.applyAll allowed).write logged short (sound.newline_logLine logged) part ended
        ((Nat.add_le_add_left part.length_le _).trans room) (by intros; contradiction)

/-! ### Reading what was appended -/

lemma Leaves.readLine (sound : crates.Sound) (h : Leaves crates attempt lines) (finished : attempt.finished = true)
    (current : attempt.record.schemaVersion = 7) :
    lines.filterMap (readLine crates attempt.record.runId) = [attempt.record] := by
  cases h with
  | @line record line logged short =>
    have valid : record.valid crates = true := by
      by_contra invalid
      rw [Record.logLine, if_pos (by rw [Bool.eq_false_iff.2 invalid]; rfl)] at logged
      cases logged
    have ends : (encoded line).getLast? = some 10 := by rw [encoded_eq, List.getLast?_concat]
    have read : Observability.readLine crates record.runId (encoded line) = some record := by
      unfold Observability.readLine encoded
      rw [if_pos ⟨short, ends⟩, sound.fromLogLine_logLine current logged]
      simp [valid]
    rw [List.filterMap_cons_some read]
    rfl
  | nothing => cases finished
  | part => cases finished
  | ended => cases finished

lemma readFiltered_isOk {segments : crates.Uuid → Segments} (fits : ∀ run, Fits store (segments run))
    (names : List Text) (legacy : Bool) {limit : Nat} (positive : 1 ≤ limit) (small : limit ≤ 10000) (filter : Filter)
    (run : Option crates.Uuid) :
    ∃ history, store.readFiltered crates (some ⟨legacy, some ⟨names, fun _ => .free, segments⟩⟩) limit filter run =
      .ok history := by
  have segment : ∀ run history index,
      ∃ history', readSegment crates store (segments run) run limit filter history index = .ok history' := by
    intro run history index
    unfold readSegment
    split
    case h_1 => exact ⟨history, rfl⟩
    case h_2 bytes found =>
      have small : (contents (segments run) index).length ≤ store.segmentBytes := fits run index
      rw [contents, found, Option.getD_some] at small
      rw [if_neg (Nat.not_lt.2 small)]
      exact ⟨_, rfl⟩
  have each : ∀ run history,
      ∃ history', readLogRun crates store ⟨names, fun _ => .free, segments⟩ limit filter history run = .ok history' := by
    intro run history
    obtain ⟨zero, read⟩ := segment run history 0
    obtain ⟨one, read1⟩ := segment run zero 1
    obtain ⟨two, read2⟩ := segment run one 2
    obtain ⟨three, read3⟩ := segment run two 3
    have folded : [0, 1, 2, 3].foldlM (readSegment crates store (segments run) run limit filter) history = .ok three := by
      simp only [List.foldlM_cons, List.foldlM_nil, bind_eq_ok]
      exact ⟨zero, read, one, read1, two, read2, three, read3, rfl⟩
    rw [readLogRun, if_neg (fun absent => nomatch absent.1)]
    dsimp only
    rw [folded]
    exact ⟨_, rfl⟩
  have all : ∀ (runs : List crates.Uuid) history, ∃ history', runs.foldlM (readLogRun crates store
      ⟨names, fun _ => .free, segments⟩ limit filter) history = .ok history' := by
    intro runs
    induction runs with
    | nil => exact fun history => ⟨history, rfl⟩
    | cons run runs ih =>
      intro history
      obtain ⟨next, read⟩ := each run history
      obtain ⟨last, rest⟩ := ih next
      exact ⟨last, by rw [List.foldlM_cons, bind_eq_ok]; exact ⟨next, read, rest⟩⟩
  rw [Store.readFiltered, if_neg (by omega)]
  dsimp only
  obtain ⟨last, folded⟩ := all (selectedRuns crates ⟨names, fun _ => .free, segments⟩ run) _
  rw [folded]
  exact ⟨_, rfl⟩

/-- **Bounded reading is complete, and an interrupted append spoils one line at most.** The records that are
    read are the last of all that are looked for, in the order of time, run and appending, and less than twice as
    many are held on the way. After any appends, of which some were interrupted at any byte, the lines of a run are
    those of its last attempts: a finished attempt has left a line from which its record is read, and an
    interrupted one at most one line. -/
theorem readFiltered_complete {crates : Crates} [LinearOrder crates.Uuid] (sound : crates.Sound) (store : Store) :
    (∀ directory limit filter run history, store.readFiltered crates directory limit filter run = .ok history →
      history.records = lastRecords limit (stored filter run directory)) ∧
    (∀ run limit filter history line, 1 ≤ limit →
      (visitLine crates run limit filter history line).records.length < limit * 2) ∧
    ∀ segments attempts, Appended crates store segments attempts →
      (∀ attempt ∈ attempts, attempt.record.schemaVersion = 7) →
      (∀ run, ∃ kept pieces, kept <:+ attempts.filter (·.record.runId = run) ∧
        List.Forall₂ (fun attempt lines => Leaves crates attempt lines ∧ lines.length ≤ 1 ∧
          (attempt.finished = true → lines.filterMap (readLine crates run) = [attempt.record])) kept pieces ∧
        storedLines (segments run) = pieces.flatten ∧
        (kept = attempts.filter (·.record.runId = run) ∨
          store.segmentBytes < pieces.flatten.flatten.length + maxRecordBytes + 1)) ∧
      ∀ names legacy limit filter run, 1 ≤ limit → limit ≤ 10000 → ∃ history,
        store.readFiltered crates (some ⟨legacy, some ⟨names, fun _ => .free, segments⟩⟩) limit filter run =
          .ok history := by
  refine ⟨fun directory limit filter run history => readFiltered_records,
    fun run limit filter history line positive => visitLine_bounded run positive line, ?_⟩
  intro segments attempts appended current
  refine ⟨fun run => ?_, fun names legacy limit filter run positive small =>
    readFiltered_isOk (fun run => (appended.intact sound run).2) names legacy positive small filter run⟩
  obtain ⟨kept, pieces, suffix, leaves, whole, enough⟩ := (appended.intact sound run).1
  refine ⟨kept, pieces, suffix, ?_, whole, enough⟩
  have listed : ∀ attempt ∈ kept, attempt ∈ attempts ∧ attempt.record.runId = run := by
    intro attempt mem
    obtain ⟨mem, own⟩ := List.mem_filter.1 (suffix.subset mem)
    exact ⟨mem, of_decide_eq_true own⟩
  refine ((List.forall₂_and_left kept pieces).2 ⟨listed, leaves⟩).imp fun attempt lines both => ?_
  obtain ⟨⟨mem, rfl⟩, leaves⟩ := both
  exact ⟨leaves, leaves.length_le, fun finished => leaves.readLine sound finished (current attempt mem)⟩

end

/-! ### An interrupted append and another one -/

instance : LinearOrder sampleCrates.Uuid := inferInstanceAs (LinearOrder {text : Text // isUuidText text = true})

def sampleLine : Text := (sampleRecord.logLine sampleCrates).toOption.getD []

lemma sample_fits : (sampleRecord.logLine sampleCrates).isOk = true ∧ sampleRecord.valid sampleCrates = true ∧
    (encoded sampleLine).length ≤ maxRecordBytes := by
  decide +kernel

lemma sampleLine_logged : sampleRecord.logLine sampleCrates = .ok sampleLine := by
  have done := sample_fits.1
  unfold sampleLine
  cases logged : sampleRecord.logLine sampleCrates with
  | error => rw [logged] at done; cases done
  | ok line => rfl

variable {store : Store} {segments : Segments}

lemma append_of_short {crates : Crates} {record : Record crates.Uuid} {line : Text}
    (valid : record.valid crates = true) (logged : record.logLine crates = .ok line)
    (short : (encoded line).length ≤ maxRecordBytes) (small : size segments ≤ store.segmentBytes) :
    store.append crates segments record =
      .ok (store.upkeep segments (encoded line).length ++ [FileOp.write (encoded line)]) := by
  unfold encoded at short ⊢
  rw [Store.append, if_neg (by rw [valid]; exact Bool.false_ne_true), logged]
  show (if maxRecordBytes < (utf8Bytes (line ++ ['\n'])).length then _ else _) = _
  rw [if_neg (Nat.not_lt.2 short), if_neg (Nat.not_lt.2 small)]

lemma append_sample (small : size segments ≤ store.segmentBytes) :
    store.append sampleCrates segments sampleRecord =
      .ok (store.upkeep segments (encoded sampleLine).length ++ [FileOp.write (encoded sampleLine)]) := by
  obtain ⟨_, valid, short⟩ := sample_fits
  exact append_of_short valid sampleLine_logged short small

lemma upkeep_first {length : Nat} (short : length ≤ maxRecordBytes) :
    store.upkeep (fun _ => none) length = [.create] := by
  have room : ¬store.segmentBytes < 0 + length + 1 := by
    have := store.room
    omega
  rw [Store.upkeep, if_neg (show ¬store.segmentBytes < size (applyAll (fun _ => none) [.create]) + length + 1 from room)]
  rfl

/-- Eleven bytes of the first line are written, and then the record again. -/
theorem readFiltered_complete_interrupted :
    ∃ segments, Appended sampleCrates Store.new segments [⟨sampleRecord, false⟩, ⟨sampleRecord, true⟩] ∧
      ∃ history, Store.new.readFiltered sampleCrates
          (some ⟨false, some ⟨[], fun _ => .free, segments⟩⟩) 1 ⟨true, some .info⟩ (some sampleRecord.runId) =
          .ok history ∧
        history.records = lastRecords 1 (stored ⟨true, some .info⟩ (some sampleRecord.runId)
          (some ⟨false, some ⟨[], fun _ => .free, segments⟩⟩)) := by
  have short := sample_fits.2.2
  have opened : Interrupted (Store.new.upkeep (fun _ => none) (encoded sampleLine).length ++
      [.write (encoded sampleLine)]) [.create, .write ((encoded sampleLine).take 11)] := by
    rw [upkeep_first short]
    exact .next _ (.cut _ (List.take_prefix 11 _))
  have first := Appended.start.interrupt sampleRecord (append_sample (Nat.zero_le _)) opened
  have fits := (first.intact sampleCrates_sound sampleRecord.runId).2 0
  have second := first.finish sampleRecord (append_sample fits)
  refine ⟨_, second, ?_⟩
  have current : ∀ attempt ∈ ([⟨sampleRecord, false⟩, ⟨sampleRecord, true⟩] : List (Attempt sampleCrates.Uuid)),
      attempt.record.schemaVersion = 7 := by
    intro attempt mem
    obtain rfl | rfl : attempt = ⟨sampleRecord, false⟩ ∨ attempt = ⟨sampleRecord, true⟩ := by simpa using mem
    · rfl
    · rfl
  have complete := readFiltered_complete sampleCrates_sound Store.new
  obtain ⟨history, read⟩ := (complete.2.2 _ _ second current).2 [] false 1 ⟨true, some .info⟩
    (some sampleRecord.runId) (le_refl 1) (by decide)
  exact ⟨history, read, complete.1 _ _ _ _ _ read⟩

end Ctl.Observability
