import Ctl.Daemon.ShellReport

/-!
# Records in a byte stream

However the bytes of a sequence of records reach the parser, it delivers the reports of the records within the
limits, in order, and it never keeps more bytes than a record may have (`pushes_records`). The parser is followed
field by field: either it has all fields of the record so far, or it counts the delimiters that are left.
-/

namespace Ctl.Daemon

def encodeRecord (fields : List (List UInt8)) : List UInt8 := fields.flatMap (· ++ [0])

def fieldBytes (fields : List (List UInt8)) : Nat := (fields.map List.length).sum

/-- The record is within the limits. -/
def Fits (fields : List (List UInt8)) : Prop :=
  (∀ field ∈ fields, field.length ≤ maxFieldBytes) ∧ fieldBytes fields ≤ maxRecordBytes

instance (fields : List (List UInt8)) : Decidable (Fits fields) := inferInstanceAs (Decidable (_ ∧ _))

def reportOf (fields : List (List UInt8)) : Option ShellReport := if Fits fields then parseReport fields else none

lemma fieldBytes_append (fields others : List (List UInt8)) :
    fieldBytes (fields ++ others) = fieldBytes fields + fieldBytes others := by
  rw [fieldBytes, List.map_append, List.sum_append]
  rfl

lemma fieldBytes_singleton (field : List UInt8) : fieldBytes [field] = field.length := Nat.add_zero _

namespace RecordParser

variable (p : RecordParser)

lemma push_cons (byte : UInt8) (bytes : List UInt8) :
    p.push (byte :: bytes) =
      (((p.pushByte byte).1.push bytes).1, (p.pushByte byte).2.toList ++ ((p.pushByte byte).1.push bytes).2) := rfl

lemma push_append (first last : List UInt8) :
    p.push (first ++ last) = (((p.push first).1.push last).1, (p.push first).2 ++ ((p.push first).1.push last).2) := by
  induction first generalizing p with
  | nil => rfl
  | cons byte first ih =>
    rw [List.cons_append, push_cons, push_cons, ih]
    dsimp only
    rw [List.append_assoc]

lemma pushes_eq (chunks : List (List UInt8)) : p.pushes chunks = p.push chunks.flatten := by
  induction chunks generalizing p with
  | nil => rfl
  | cons bytes chunks ih =>
    rw [List.flatten_cons, push_append, ← ih]
    rfl

/-! ### Inside a field -/

/-- The parser while it drops a record, with delimiters to come; without any the next record begins. -/
def dropping (remaining : Nat) : RecordParser := ⟨[], [], 0, if remaining = 0 then none else some remaining⟩

def collecting (fields : List (List UInt8)) : RecordParser := ⟨fields, [], fieldBytes fields, none⟩

variable {field : List UInt8} {fields : List (List UInt8)} {rest : List (List UInt8)}

lemma push_dropped (n : Nat) (clean : 0 ∉ field) : (dropping (n + 1)).push field = (dropping (n + 1), []) := by
  induction field with
  | nil => rfl
  | cons byte field ih =>
    rw [List.mem_cons, not_or] at clean
    have stays : (dropping (n + 1)).pushByte byte = (dropping (n + 1), none) := by
      show ((dropping (n + 1)).discardByte (n + 1) byte, none) = _
      rw [discardByte, if_pos (Ne.symm clean.1)]
    rw [push_cons, stays, ih clean.2]
    rfl

lemma push_dropped_field (n : Nat) (clean : 0 ∉ field) : (dropping (n + 1)).push (field ++ [0]) = (dropping n, []) := by
  have counted : (dropping (n + 1)).pushByte 0 = (dropping n, none) := by
    show ((dropping (n + 1)).discardByte (n + 1) 0, none) = _
    rw [discardByte, if_neg (not_not_intro rfl)]
    cases n with
    | zero => rfl
    | succ n => rfl
  rw [push_append, push_dropped n clean, push_cons, counted]
  rfl

lemma push_dropped_fields (clean : ∀ field ∈ rest, 0 ∉ field) :
    (dropping rest.length).push (encodeRecord rest) = (default, []) := by
  induction rest with
  | nil => rfl
  | cons field rest ih =>
    have step : encodeRecord (field :: rest) = field ++ [0] ++ encodeRecord rest := rfl
    rw [List.length_cons, step, push_append, push_dropped_field _ (clean field List.mem_cons_self),
      ih fun f mem => clean f (List.mem_cons_of_mem field mem)]
    rfl

lemma push_collected (fields : List (List UInt8)) (before : List UInt8) (clean : 0 ∉ field)
    (few : fields.length < reportFieldCount) (own : before.length ≤ maxFieldBytes)
    (all : fieldBytes fields + before.length ≤ maxRecordBytes) :
    (⟨fields, before, fieldBytes fields + before.length, none⟩ : RecordParser).push field =
      if before.length + field.length ≤ maxFieldBytes ∧
          fieldBytes fields + before.length + field.length ≤ maxRecordBytes then
        (⟨fields, before ++ field, fieldBytes fields + before.length + field.length, none⟩, [])
      else (dropping (reportFieldCount - fields.length), []) := by
  induction field generalizing before with
  | nil =>
    rw [if_pos ⟨own, all⟩, List.append_nil]
    rfl
  | cons byte field ih =>
    rw [List.mem_cons, not_or] at clean
    rw [push_cons, pushByte]
    dsimp only
    rw [if_neg (Ne.symm clean.1)]
    by_cases full : maxFieldBytes ≤ before.length ∨ maxRecordBytes ≤ fieldBytes fields + before.length
    · obtain ⟨n, left⟩ : ∃ n, reportFieldCount - fields.length = n + 1 := ⟨_, (Nat.succ_pred (by omega)).symm⟩
      have dropped : discardRecord ⟨fields, before, fieldBytes fields + before.length, none⟩ = dropping (n + 1) := by
        show (⟨[], [], 0, some (reportFieldCount - fields.length)⟩ : RecordParser) = _
        rw [left]
        rfl
      rw [if_pos full, if_neg (by rw [List.length_cons]; omega), dropped, left, push_dropped n clean.2]
      rfl
    · have next := ih (before ++ [byte]) clean.2 (by rw [List.length_append, List.length_singleton]; omega)
        (by rw [List.length_append, List.length_singleton]; omega)
      rw [if_neg full]
      rw [List.length_append, List.length_singleton, ← Nat.add_assoc, List.append_assoc, List.singleton_append] at next
      rw [next, List.length_cons]
      simp only [Nat.add_assoc, Nat.add_comm 1, Option.toList_none, List.nil_append]

lemma push_field (clean : 0 ∉ field) (few : fields.length < reportFieldCount)
    (all : fieldBytes fields ≤ maxRecordBytes) :
    (collecting fields).push (field ++ [0]) =
      if field.length ≤ maxFieldBytes ∧ fieldBytes fields + field.length ≤ maxRecordBytes then
        if fields.length + 1 = reportFieldCount then (default, (parseReport (fields ++ [field])).toList)
        else (collecting (fields ++ [field]), [])
      else (dropping (reportFieldCount - (fields.length + 1)), []) := by
  have bytes := push_collected fields [] clean few (Nat.zero_le _) (by simpa using all)
  simp only [List.length_nil, Nat.add_zero, Nat.zero_add, List.nil_append] at bytes
  rw [push_append, collecting, bytes]
  split
  case isTrue fits =>
    rw [push_cons, pushByte]
    dsimp only
    rw [if_pos rfl, completeField]
    dsimp only
    rw [List.length_append, List.length_singleton]
    split
    case isTrue more =>
      rw [collecting, fieldBytes_append, fieldBytes_singleton]
      rfl
    case isFalse last =>
      rw [if_pos (not_not.1 last)]
      simp [push, default]
  case isFalse =>
    obtain ⟨n, left⟩ : ∃ n, reportFieldCount - fields.length = n + 1 := ⟨_, (Nat.succ_pred (by omega)).symm⟩
    have delimiter := push_dropped_field n (List.not_mem_nil : (0 : UInt8) ∉ [])
    rw [List.nil_append] at delimiter
    rw [left, delimiter, show reportFieldCount - (fields.length + 1) = n by omega]
    rfl

/-! ### Records -/

lemma push_fields (count : fields.length + rest.length = reportFieldCount) (some : rest ≠ []) (fits : Fits fields)
    (clean : ∀ field ∈ rest, 0 ∉ field) :
    (collecting fields).push (encodeRecord rest) = (default, (reportOf (fields ++ rest)).toList) := by
  induction rest generalizing fields with
  | nil => exact absurd rfl some
  | cons field rest ih =>
    have step : encodeRecord (field :: rest) = field ++ [0] ++ encodeRecord rest := rfl
    have whole : fields ++ field :: rest = fields ++ [field] ++ rest := List.append_cons ..
    have later : ∀ f ∈ rest, 0 ∉ f := fun f mem => clean f (List.mem_cons_of_mem field mem)
    rw [List.length_cons] at count
    rw [step, push_append, push_field (clean field List.mem_cons_self) (by omega) fits.2]
    split
    case isTrue inside =>
      have fits' : Fits (fields ++ [field]) := by
        refine ⟨fun f mem => ?_, ?_⟩
        · cases List.mem_append.1 mem with
          | inl old => exact fits.1 f old
          | inr new => exact List.mem_singleton.1 new ▸ inside.1
        · rw [fieldBytes_append, fieldBytes_singleton]
          exact inside.2
      split
      case isTrue last =>
        obtain rfl : rest = [] := List.length_eq_zero_iff.1 (by omega)
        rw [reportOf, if_pos fits']
        simp [encodeRecord, push]
      case isFalse more =>
        have ne : rest ≠ [] := fun empty => more (by rw [empty] at count; exact count)
        rw [ih (by rw [List.length_append, List.length_singleton]; omega) ne fits' later, whole]
        rfl
    case isFalse outside =>
      have long : ¬ Fits (fields ++ field :: rest) := by
        intro fits'
        refine outside ⟨fits'.1 field (by simp), ?_⟩
        have sum := fits'.2
        rw [whole, fieldBytes_append, fieldBytes_append, fieldBytes_singleton] at sum
        omega
      rw [show reportFieldCount - (fields.length + 1) = rest.length by omega, push_dropped_fields later, reportOf,
        if_neg long]
      rfl

lemma push_record (count : fields.length = reportFieldCount) (clean : ∀ field ∈ fields, 0 ∉ field) :
    default.push (encodeRecord fields) = (default, (reportOf fields).toList) := by
  have some : fields ≠ [] := fun empty => by
    rw [empty] at count
    cases count
  exact push_fields (by rw [List.length_nil, Nat.zero_add]; exact count) some ⟨nofun, Nat.zero_le _⟩ clean

/-- The bytes that the parser keeps are counted, and they are at most those of a record within the limits. -/
structure Bounded (p : RecordParser) : Prop where
  counted : p.recordBytes = p.buffered
  limit : p.recordBytes ≤ maxRecordBytes

lemma Bounded.pushByte {p : RecordParser} (h : p.Bounded) (byte : UInt8) : (p.pushByte byte).1.Bounded := by
  have counted : p.recordBytes = fieldBytes p.fields + p.field.length := h.counted
  unfold RecordParser.pushByte
  split
  case h_1 remaining =>
    unfold discardByte
    split_ifs
    · exact h
    · exact ⟨h.counted, h.limit⟩
    · exact ⟨h.counted, h.limit⟩
  case h_2 =>
    split_ifs with delimiter full
    · unfold completeField
      dsimp only
      split_ifs
      · refine ⟨?_, h.limit⟩
        show p.recordBytes = fieldBytes (p.fields ++ [p.field]) + 0
        rw [fieldBytes_append, fieldBytes_singleton, counted]
        rfl
      · exact ⟨rfl, Nat.zero_le _⟩
    · exact ⟨rfl, Nat.zero_le _⟩
    · refine ⟨?_, ?_⟩
      · show p.recordBytes + 1 = fieldBytes p.fields + (p.field ++ [byte]).length
        rw [List.length_append, counted]
        rfl
      · show p.recordBytes + 1 ≤ maxRecordBytes
        omega

lemma Bounded.push {p : RecordParser} (h : p.Bounded) (bytes : List UInt8) : (p.push bytes).1.Bounded := by
  induction bytes generalizing p with
  | nil => exact h
  | cons byte bytes ih =>
    rw [push_cons]
    exact ih (h.pushByte byte)

/-- However the bytes of records are divided into calls, the reports are those of the records within the limits,
    in order, and behind each record the parser begins anew. The parser never keeps more than a record may have. -/
theorem pushes_records {records : List (List (List UInt8))}
    (shape : ∀ fields ∈ records, fields.length = reportFieldCount ∧ ∀ field ∈ fields, 0 ∉ field) :
    (∀ chunks : List (List UInt8), chunks.flatten = records.flatMap encodeRecord →
      default.pushes chunks = (default, records.filterMap reportOf)) ∧
      ∀ chunks : List (List UInt8), (default.pushes chunks).1.buffered ≤ maxRecordBytes := by
  constructor
  · intro chunks bytes
    rw [pushes_eq, bytes]
    clear bytes
    induction records with
    | nil => rfl
    | cons fields records ih =>
      obtain ⟨count, clean⟩ := shape fields List.mem_cons_self
      rw [List.flatMap_cons, push_append, push_record count clean,
        ih fun f mem => shape f (List.mem_cons_of_mem fields mem), List.filterMap_cons]
      cases reportOf fields with
      | none => rfl
      | some report => rfl
  · intro chunks
    rw [pushes_eq]
    have bounded := (⟨rfl, Nat.zero_le _⟩ : default.Bounded).push chunks.flatten
    rw [← bounded.counted]
    exact bounded.limit

/-- A record that overflows in its second field, and then one of empty fields. -/
theorem pushes_records_overflow :
    default.pushes [encodeRecord ([[1], List.replicate 5000 2] ++ List.replicate 7 []) ++ [0, 0],
      List.replicate 7 0] = (default, [[[1], List.replicate 5000 2] ++ List.replicate 7 [],
        List.replicate 9 []].filterMap reportOf) := by
  have shape : ∀ fields ∈ [[[1], List.replicate 5000 2] ++ List.replicate 7 [], List.replicate 9 []],
      fields.length = reportFieldCount ∧ ∀ field ∈ fields, (0 : UInt8) ∉ field := by
    intro fields mem
    rcases List.mem_cons.1 mem with rfl | mem
    · refine ⟨rfl, fun field mem zero => ?_⟩
      simp only [List.cons_append, List.nil_append, List.mem_cons, List.mem_replicate] at mem
      rcases mem with rfl | rfl | ⟨-, rfl⟩
      · exact absurd zero (by decide)
      · exact absurd (List.mem_replicate.1 zero).2 (by decide)
      · cases zero
    · rw [List.mem_singleton.1 mem]
      exact ⟨rfl, by decide⟩
  refine (pushes_records shape).1 _ ?_
  rw [List.flatMap_cons, List.flatMap_singleton, List.flatten_cons, List.flatten_singleton, List.append_assoc]
  rfl

end RecordParser

end Ctl.Daemon
