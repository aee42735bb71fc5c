import Ctl.Base.BigEndian
import Ctl.Base.System
import Mathlib.Data.List.Forall2

/-!
# Protocol frames

Model of `write_frame` and `FrameReader` of `ctmux/proto/src/lib.rs`. A frame is its length in four
bytes and its payload. The reader keeps the bytes of an unfinished frame; `read_frame` is suspended
where it awaits bytes, and a cancelled call leaves only what the reader keeps. `Connection.step` lets
every read return any part of what is left of the stream and every pending call be cancelled.

`Holds` says what the reader keeps in terms of the bytes it has taken since the last frame, and
`Inv` that these bytes and the rest of the stream are the frames not returned yet. Serialization is a
parameter: `toVec` and `fromSlice` stand for `serde_json`.
-/

namespace Ctl.Proto

open Ctl.Base

/-- The largest payload (Rust `MAX_FRAME_SIZE`). -/
def MAX_FRAME_SIZE : Nat := 8 * 1024 * 1024

/-- Why a frame cannot be read or written (Rust `CodecError`). -/
inductive CodecError (E : Type) where
  | unexpectedEof
  | frameTooLarge (actual maximum : Nat)
  | json (error : E)
  deriving DecidableEq

variable {T E : Type}

def frame (payload : List UInt8) : List UInt8 := toBeBytes payload.length ++ payload

/-- Serialize and write one frame (Rust `write_frame`). -/
def writeFrame (toVec : T → Except E (List UInt8)) (message : T) : Except (CodecError E) (List UInt8) :=
  match toVec message with
  | .error error => .error (.json error)
  | .ok payload =>
    if MAX_FRAME_SIZE < payload.length then .error (.frameTooLarge payload.length MAX_FRAME_SIZE)
    else .ok (frame payload)

def writeFrames (toVec : T → Except E (List UInt8)) :
    List T → Except (CodecError E) (List UInt8)
  | [] => .ok []
  | message :: messages => do
    let first ← writeFrame toVec message
    let rest ← writeFrames toVec messages
    .ok (first ++ rest)

/-- A framed reader (Rust `FrameReader`). -/
structure FrameReader where
  header : List UInt8
  headerRead : Nat
  payload : List UInt8
  payloadRead : Nat

/-- No byte has been read (Rust `FrameReader::new`). -/
def FrameReader.new : FrameReader := ⟨List.replicate 4 0, 0, [], 0⟩

/-- Where a call of `read_frame` awaits bytes. -/
inductive Await where
  | header
  | body (length : Nat)

/-- A call of `read_frame` awaits bytes or has returned. -/
inductive Poll (T E : Type) where
  | suspended (awaiting : Await)
  | returned (result : Except (CodecError E) (Option T))

def writeAt (buffer : List UInt8) (start : Nat) (data : List UInt8) : List UInt8 :=
  buffer.take start ++ data ++ buffer.drop (start + data.length)

/-- Make a buffer `length` bytes long (Rust `Vec::resize`). -/
def resize (buffer : List UInt8) (length : Nat) : List UInt8 :=
  buffer.take length ++ List.replicate (length - buffer.length) 0

namespace FrameReader

/-- The parsed payload of a frame, as `read_frame` returns it. -/
def parse (fromSlice : List UInt8 → Except E T) (payload : List UInt8) : Except (CodecError E) (Option T) :=
  match fromSlice payload with
  | .ok message => .ok (some message)
  | .error error => .error (.json error)

/-- From the test of the second loop of `read_frame` on. -/
def resumeBody (fromSlice : List UInt8 → Except E T) (r : FrameReader) (length : Nat) : FrameReader × Poll T E :=
  if r.payloadRead < length then (r, .suspended (.body length))
  else
    ({ r with headerRead := 0, payloadRead := 0, payload := [] },
      .returned (parse fromSlice r.payload))

/-- From the test of the first loop of `read_frame` on; a call begins here. -/
def resumeHeader (fromSlice : List UInt8 → Except E T) (r : FrameReader) : FrameReader × Poll T E :=
  if r.headerRead < r.header.length then (r, .suspended .header)
  else
    let length := fromBeBytes r.header
    if MAX_FRAME_SIZE < length then
      (r, .returned (.error (.frameTooLarge length MAX_FRAME_SIZE)))
    else resumeBody fromSlice { r with payload := resize r.payload length } length

def capacity (r : FrameReader) : Await → Nat
  | .header => r.header.length - r.headerRead
  | .body _ => r.payload.length - r.payloadRead

/-- The awaited read has returned `data`; no data is the end of the stream. -/
def received (fromSlice : List UInt8 → Except E T) (r : FrameReader) (awaiting : Await)
    (data : List UInt8) : FrameReader × Poll T E :=
  match awaiting with
  | .header =>
    if data = [] then
      (r, .returned (if r.headerRead = 0 then .ok none else .error .unexpectedEof))
    else
      resumeHeader fromSlice { r with
        header := writeAt r.header r.headerRead data
        headerRead := r.headerRead + data.length }
  | .body length =>
    if data = [] then (r, .returned (.error .unexpectedEof))
    else
      resumeBody fromSlice { r with
        payload := writeAt r.payload r.payloadRead data
        payloadRead := r.payloadRead + data.length } length

end FrameReader

/-- A reader on a stream of which `incoming` is left, and what its calls have returned. -/
structure Connection (T E : Type) where
  reader : FrameReader
  awaiting : Option Await
  incoming : List UInt8
  results : List (Except (CodecError E) (Option T))

namespace Connection

/-- What happens on a connection. -/
inductive Action where
  /-- Call `read_frame`. -/
  | call
  /-- The awaited read returns `count` bytes; none at the end of the stream. -/
  | read (count : Nat)
  /-- Drop the pending call. -/
  | cancel

def polled (s : Connection T E) (incoming : List UInt8) :
    FrameReader × Poll T E → Connection T E
  | (reader, .suspended awaiting) => { s with reader, incoming, awaiting := some awaiting }
  | (reader, .returned result) =>
    { reader, incoming, awaiting := none, results := s.results ++ [result] }

def step (fromSlice : List UInt8 → Except E T) (s : Connection T E) :
    Action → Option (Connection T E)
  | .call =>
    match s.awaiting with
    | none => some (s.polled s.incoming (s.reader.resumeHeader fromSlice))
    | some _ => none
  | .read count =>
    match s.awaiting with
    | none => none
    | some awaiting =>
      if count ≤ s.reader.capacity awaiting ∧ count ≤ s.incoming.length ∧
          (count = 0 → s.incoming = []) then
        some (s.polled (s.incoming.drop count)
          (s.reader.received fromSlice awaiting (s.incoming.take count)))
      else none
  | .cancel => if s.awaiting = none then none else some { s with awaiting := none }

def start (stream : List UInt8) : Connection T E := ⟨.new, none, stream, []⟩

end Connection

/-! ## What the reader keeps -/

def announced (bytes : List UInt8) : Nat := fromBeBytes (bytes.take 4)

/-- Some bytes of a frame, but not all; a header that announces too much stops the reader. -/
def Unfinished (part : List UInt8) : Prop :=
  part.length < 4 ∨ announced part ≤ MAX_FRAME_SIZE ∧ part.length < 4 + announced part ∨
    MAX_FRAME_SIZE < announced part ∧ part.length = 4

/-- The reader keeps the bytes `part` of a frame. -/
structure Holds (r : FrameReader) (part : List UInt8) : Prop where
  size : r.header.length = 4
  headerRead : r.headerRead = min part.length 4
  header : r.header.take r.headerRead = part.take 4
  payloadRead : r.payloadRead = part.length - 4
  payload : r.payload.take r.payloadRead = part.drop 4
  empty : part.length < 4 ∨ MAX_FRAME_SIZE < announced part → r.payload = []
  room : 4 ≤ part.length → r.payload = [] ∧ part.length = 4 ∨ r.payload.length = announced part

/-- Where a call can get with the bytes `part`. -/
inductive Progress (fromSlice : List UInt8 → Except E T) (part : List UInt8) :
    FrameReader × Poll T E → Prop where
  | header {r : FrameReader} : Holds r part → part.length < 4 →
    Progress fromSlice part (r, .suspended .header)
  | body {r : FrameReader} : Holds r part → 4 ≤ part.length → announced part ≤ MAX_FRAME_SIZE →
    part.length < 4 + announced part → r.payload.length = announced part →
    Progress fromSlice part (r, .suspended (.body (announced part)))
  | tooLarge {r : FrameReader} : Holds r part → part.length = 4 → MAX_FRAME_SIZE < announced part →
    Progress fromSlice part
      (r, .returned (.error (.frameTooLarge (announced part) MAX_FRAME_SIZE)))
  | complete {r : FrameReader} {payload : List UInt8} : Holds r [] → part = frame payload →
    payload.length ≤ MAX_FRAME_SIZE →
    Progress fromSlice part (r, .returned (FrameReader.parse fromSlice payload))

/-- How a stream goes on after complete frames, and what `read_frame` returns there. -/
inductive Ending : List UInt8 → Except (CodecError E) (Option T) → Prop where
  /-- The stream ends at a frame boundary. -/
  | boundary : Ending [] (.ok none)
  /-- The stream ends inside a frame. -/
  | inside {tail : List UInt8} : tail ≠ [] →
    tail.length < 4 ∨ announced tail ≤ MAX_FRAME_SIZE ∧ tail.length < 4 + announced tail →
    Ending tail (.error .unexpectedEof)
  /-- A header announces too much. -/
  | tooLarge {tail : List UInt8} : 4 ≤ tail.length → MAX_FRAME_SIZE < announced tail →
    Ending tail (.error (.frameTooLarge (announced tail) MAX_FRAME_SIZE))

variable {fromSlice : List UInt8 → Except E T} {r : FrameReader} {part data : List UInt8} {payload more : List UInt8}

lemma part_eq_frame (long : 4 ≤ part.length) (all : part.length = 4 + announced part) : part = frame (part.drop 4) := by
  have four : (part.take 4).length = 4 := by rw [List.length_take]; omega
  have length : (part.drop 4).length = announced part := by rw [List.length_drop]; omega
  rw [frame, length, announced, toBeBytes_fromBeBytes four, List.take_append_drop]

lemma announced_frame (small : payload.length ≤ MAX_FRAME_SIZE) (rest : List UInt8) :
    announced (frame payload ++ rest) = payload.length := by
  rw [announced, frame, List.append_assoc, List.take_left' (length_toBeBytes _)]
  apply fromBeBytes_toBeBytes
  exact Nat.lt_of_le_of_lt small (by decide)

lemma resumeBody_progress (holds : Holds r part) (long : 4 ≤ part.length) (fits : announced part ≤ MAX_FRAME_SIZE)
    (most : part.length ≤ 4 + announced part) (room : r.payload.length = announced part) :
    Progress fromSlice part (r.resumeBody fromSlice (announced part)) := by
  rw [FrameReader.resumeBody]
  split
  case isTrue more =>
    rw [holds.payloadRead] at more
    exact .body holds long fits (by omega) room
  case isFalse all =>
    rw [holds.payloadRead] at all
    have whole : part.length = 4 + announced part := by omega
    have payload : r.payload = part.drop 4 := by
      rw [← holds.payload, List.take_of_length_le]
      rw [room, holds.payloadRead]
      omega
    rw [payload]
    refine .complete ?_ (part_eq_frame long whole) ?_
    · refine ⟨holds.size, rfl, rfl, rfl, rfl, fun _ => rfl, ?_⟩
      intro long
      exact absurd long (by decide)
    · rw [List.length_drop]
      omega

lemma resumeHeader_progress (holds : Holds r part)
    (unfinished : part.length ≤ 4 ∨ announced part ≤ MAX_FRAME_SIZE ∧
      part.length ≤ 4 + announced part) : Progress fromSlice part (r.resumeHeader fromSlice) := by
  rw [FrameReader.resumeHeader]
  split
  case isTrue more =>
    rw [holds.headerRead, holds.size] at more
    exact .header holds (by omega)
  case isFalse all =>
    rw [holds.headerRead, holds.size] at all
    have long : 4 ≤ part.length := by omega
    have header : fromBeBytes r.header = announced part := by
      have full := holds.header
      rw [holds.headerRead, Nat.min_eq_right long, ← holds.size, List.take_length, holds.size] at full
      rw [full, announced]
    dsimp only
    rw [header]
    split
    case isTrue large =>
      have short : part.length = 4 := by omega
      exact .tooLarge holds short large
    case isFalse fits =>
      have fits : announced part ≤ MAX_FRAME_SIZE := Nat.le_of_not_lt fits
      cases holds.room long with
      | inl empty =>
        obtain ⟨empty, four⟩ := empty
        have resized : (resize r.payload (announced part)).length = announced part := by
          simp [resize, empty]
        refine resumeBody_progress ?_ long fits (by omega) resized
        refine ⟨holds.size, holds.headerRead, holds.header, holds.payloadRead, ?_, ?_, fun _ => .inr resized⟩
        · dsimp only
          rw [holds.payloadRead, four, List.drop_of_length_le (Nat.le_of_eq four)]
          rfl
        · intro few
          omega
      | inr room =>
        have same : resize r.payload (announced part) = r.payload := by
          rw [resize, room, Nat.sub_self, List.replicate_zero, List.append_nil, ← room,
            List.take_length]
        rw [same]
        exact resumeBody_progress holds long fits (by omega) room

lemma take_writeAt {buffer : List UInt8} {start : Nat} (fits : start + data.length ≤ buffer.length) :
    (writeAt buffer start data).take (start + data.length) = buffer.take start ++ data := by
  have length : (buffer.take start ++ data).length = start + data.length := by
    rw [List.length_append, List.length_take]
    omega
  rw [writeAt, List.take_left' length]

lemma length_writeAt {buffer : List UInt8} {start : Nat} (fits : start + data.length ≤ buffer.length) :
    (writeAt buffer start data).length = buffer.length := by
  rw [writeAt, List.length_append, List.length_append, List.length_take, List.length_drop]
  omega

/-- Where a call may await bytes. -/
inductive Awaits (r : FrameReader) (part : List UInt8) : Await → Prop where
  | header : part.length < 4 → Awaits r part .header
  | body : 4 ≤ part.length → announced part ≤ MAX_FRAME_SIZE → part.length < 4 + announced part →
    r.payload.length = announced part → Awaits r part (.body (announced part))

lemma announced_append (long : 4 ≤ part.length) (data : List UInt8) : announced (part ++ data) = announced part := by
  rw [announced, announced, List.take_append_of_le_length long]

lemma received_progress (holds : Holds r part) {awaiting : Await} (ok : Awaits r part awaiting)
    (some : data ≠ []) (fits : data.length ≤ r.capacity awaiting) :
    Progress fromSlice (part ++ data) (r.received fromSlice awaiting data) := by
  cases ok with
  | header short =>
    rw [FrameReader.received, if_neg some]
    rw [FrameReader.capacity, holds.size, holds.headerRead] at fits
    have read : r.headerRead = part.length := by rw [holds.headerRead]; omega
    have within : r.headerRead + data.length ≤ r.header.length := by rw [holds.size]; omega
    have before : r.header.take part.length = part := by
      rw [← read, holds.header, List.take_of_length_le (by omega)]
    have empty : r.payload = [] := holds.empty (.inl short)
    apply resumeHeader_progress
    case unfinished =>
      left
      rw [List.length_append]
      omega
    case holds =>
      refine ⟨?_, ?_, ?_, ?_, ?_, fun _ => empty, fun _ => .inl ⟨empty, ?_⟩⟩
      · rw [length_writeAt within, holds.size]
      · rw [List.length_append, read]
        dsimp only
        omega
      · dsimp only
        rw [take_writeAt within, read, before, List.take_of_length_le]
        rw [List.length_append]
        omega
      · rw [List.length_append, holds.payloadRead]
        omega
      · rw [List.drop_of_length_le (by rw [List.length_append]; omega), empty, List.take_nil]
      · rw [List.length_append] at *
        omega
  | body long limit more room =>
    rw [FrameReader.received, if_neg some]
    rw [FrameReader.capacity, room, holds.payloadRead] at fits
    have same := announced_append long data
    have within : r.payloadRead + data.length ≤ r.payload.length := by
      rw [room, holds.payloadRead]
      omega
    rw [← same]
    apply resumeBody_progress
    case long => rw [List.length_append]; omega
    case fits => rw [same]; exact limit
    case most => rw [List.length_append, same]; omega
    case room => rw [length_writeAt within, room, same]
    case holds =>
      refine ⟨holds.size, ?_, ?_, ?_, ?_, ?_, ?_⟩
      · rw [holds.headerRead, List.length_append]
        omega
      · rw [holds.header, List.take_append_of_le_length long]
      · rw [List.length_append, holds.payloadRead]
        dsimp only
        omega
      · dsimp only
        rw [take_writeAt within, holds.payload, List.drop_append_of_le_length long]
      · rw [List.length_append, same]
        intro few
        omega
      · intro _
        right
        rw [length_writeAt within, room, same]

/-! ## Runs -/

structure Inv (fromSlice : List UInt8 → Except E T) (payloads : List (List UInt8))
    (tail : List UInt8) (result : Except (CodecError E) (Option T)) (done rest : List (List UInt8))
    (part : List UInt8) (ends : Nat) (s : Connection T E) : Prop where
  payloads : payloads = done ++ rest
  stream : part ++ s.incoming = rest.flatMap frame ++ tail
  holds : Holds s.reader part
  unfinished : Unfinished part
  results : s.results = done.map (FrameReader.parse fromSlice) ++ List.replicate ends result
  ended : ends ≠ 0 → rest = []
  awaits : ∀ awaiting ∈ s.awaiting, Awaits s.reader part awaiting

variable {payloads done rest : List (List UInt8)} {tail : List UInt8}
  {result : Except (CodecError E) (Option T)} {ends : Nat} {s s' : Connection T E}

lemma length_lt_of_unfinished {incoming : List UInt8} (unfinished : Unfinished part)
    (small : payload.length ≤ MAX_FRAME_SIZE) (h : part ++ incoming = frame payload ++ more) :
    part.length < (frame payload).length := by
  apply Nat.lt_of_not_le
  intro long
  have front : part = frame payload ++ part.drop (frame payload).length := by
    have first := congrArg (List.take (frame payload).length) h
    rw [List.take_append_of_le_length long, List.take_left] at first
    calc part = part.take (frame payload).length ++ part.drop (frame payload).length :=
          (List.take_append_drop _ _).symm
      _ = frame payload ++ part.drop (frame payload).length := by rw [first]
  have length : (frame payload).length = 4 + payload.length := by simp [frame]
  have announces : announced part = payload.length := by
    rw [front, announced_frame small]
  rw [Unfinished, announces] at unfinished
  omega

lemma frame_inj {payload' more' : List UInt8} (small : payload.length ≤ MAX_FRAME_SIZE)
    (small' : payload'.length ≤ MAX_FRAME_SIZE) (h : frame payload ++ more = frame payload' ++ more') :
    payload = payload' ∧ more = more' := by
  have length : payload.length = payload'.length := by
    rw [← announced_frame small more, h, announced_frame small']
  rw [frame, frame, length, List.append_assoc, List.append_assoc] at h
  exact List.append_inj (List.append_cancel_left h) length

lemma Ending.not_frame (ending : Ending tail result) (small : payload.length ≤ MAX_FRAME_SIZE) :
    tail ≠ frame payload ++ more := by
  intro h
  have announces : announced tail = payload.length := by rw [h, announced_frame small]
  have length : tail.length = 4 + payload.length + more.length := by simp [h, frame, Nat.add_assoc]
  cases ending with
  | boundary =>
    rw [List.length_nil] at length
    omega
  | inside _ short => omega
  | tooLarge _ large => omega

lemma Ending.unique (ending : Ending tail result) :
    (tail = [] → result = .ok none) ∧
    (tail ≠ [] → tail.length < 4 ∨ announced tail ≤ MAX_FRAME_SIZE ∧ tail.length < 4 + announced tail →
      result = .error .unexpectedEof) ∧
    (4 ≤ tail.length → MAX_FRAME_SIZE < announced tail →
      result = .error (.frameTooLarge (announced tail) MAX_FRAME_SIZE)) := by
  cases ending with
  | boundary =>
    refine ⟨fun _ => rfl, fun some => absurd rfl some, fun long => ?_⟩
    exact absurd long (by decide)
  | inside some short =>
    refine ⟨fun none => absurd none some, fun _ _ => rfl, fun long large => ?_⟩
    omega
  | tooLarge long large =>
    refine ⟨fun none => ?_, fun _ short => ?_, fun _ _ => rfl⟩
    · rw [none] at long
      exact absurd long (by decide)
    · omega

lemma Progress.inv {incoming : List UInt8} {out : FrameReader × Poll T E} (progress : Progress fromSlice part out)
    (small : ∀ p ∈ payloads, p.length ≤ MAX_FRAME_SIZE) (ending : Ending tail result)
    (whole : payloads = done ++ rest) (stream : part ++ incoming = rest.flatMap frame ++ tail)
    (results : s.results = done.map (FrameReader.parse fromSlice) ++ List.replicate ends result)
    (ended : ends ≠ 0 → rest = []) :
    ∃ done rest part ends, Inv fromSlice payloads tail result done rest part ends
      (s.polled incoming out) := by
  cases progress with
  | header holds short =>
    refine ⟨done, rest, part, ends, whole, stream, holds, .inl short, results, ended, ?_⟩
    intro awaiting mem
    obtain rfl := Option.some.inj mem
    exact .header short
  | body holds long limit more room =>
    refine ⟨done, rest, part, ends, whole, stream, holds, .inr (.inl ⟨limit, more⟩), results, ended, ?_⟩
    intro awaiting mem
    obtain rfl := Option.some.inj mem
    exact .body long limit more room
  | tooLarge holds four large =>
    have unfinished : Unfinished part := .inr (.inr ⟨large, four⟩)
    have none : rest = [] := by
      cases rest with
      | nil => rfl
      | cons payload rest =>
        have small := small payload (by simp [whole])
        rw [List.flatMap_cons, List.append_assoc] at stream
        have short := length_lt_of_unfinished unfinished small stream
        have length : (frame payload).length = 4 + payload.length := by simp [frame]
        have header := congrArg announced stream
        rw [announced_append (Nat.le_of_eq four.symm), announced_frame small] at header
        omega
    rw [none, List.flatMap_nil, List.nil_append] at stream
    have same : announced tail = announced part := by
      rw [← stream, announced_append (Nat.le_of_eq four.symm)]
    have long : 4 ≤ tail.length := by
      rw [← stream, List.length_append]
      omega
    have last := ending.unique.2.2 long (same ▸ large)
    refine ⟨done, [], part, ends + 1, none ▸ whole, stream, holds, unfinished, ?_, fun _ => rfl,
      fun _ mem => by cases mem⟩
    rw [Connection.polled, results, List.replicate_succ', last, same, List.append_assoc]
  | complete holds here fits =>
    rename_i r payload
    cases rest with
    | nil =>
      rw [List.flatMap_nil, List.nil_append] at stream
      rw [here] at stream
      exact absurd stream.symm (ending.not_frame fits)
    | cons next rest =>
      have none : ends = 0 := by
        by_contra some
        cases ended some
      rw [here, List.flatMap_cons, List.append_assoc] at stream
      obtain ⟨rfl, after⟩ := frame_inj fits (small next (by simp [whole])) stream
      refine ⟨done ++ [payload], rest, [], 0, ?_, after, holds, .inl (by decide), ?_,
        fun some => absurd rfl some, fun _ mem => by cases mem⟩
      · rw [whole, List.append_assoc, List.singleton_append]
      · rw [Connection.polled, results, none, List.map_append]
        simp

lemma Inv.step (small : ∀ p ∈ payloads, p.length ≤ MAX_FRAME_SIZE) (ending : Ending tail result)
    (inv : Inv fromSlice payloads tail result done rest part ends s) {action : Connection.Action}
    (h : s.step fromSlice action = some s') :
    ∃ done rest part ends, Inv fromSlice payloads tail result done rest part ends s' := by
  cases action with
  | call =>
    rw [Connection.step] at h
    split at h
    case h_2 => cases h
    case h_1 =>
      obtain rfl := Option.some.inj h
      have kept : part.length ≤ 4 ∨ announced part ≤ MAX_FRAME_SIZE ∧
          part.length ≤ 4 + announced part := by
        have := inv.unfinished
        rw [Unfinished] at this
        omega
      exact (resumeHeader_progress inv.holds kept).inv small ending inv.payloads inv.stream inv.results
        inv.ended
  | cancel =>
    rw [Connection.step] at h
    split at h
    case isTrue => cases h
    case isFalse =>
      obtain rfl := Option.some.inj h
      exact ⟨done, rest, part, ends, inv.payloads, inv.stream, inv.holds, inv.unfinished, inv.results,
        inv.ended, fun _ mem => by cases mem⟩
  | read count =>
    rw [Connection.step] at h
    split at h
    case h_1 => cases h
    case h_2 awaiting pending =>
      split at h
      case isFalse => cases h
      case isTrue enabled =>
        obtain rfl := Option.some.inj h
        obtain ⟨fits, enough, atEnd⟩ := enabled
        have awaits := inv.awaits awaiting pending
        by_cases none : count = 0
        · -- The end of the stream: what is kept is all that is left of it.
          have atLast := atEnd none
          subst none
          have stream := inv.stream
          rw [atLast, List.append_nil] at stream
          have last : rest = [] := by
            cases hrest : rest with
            | nil => rfl
            | cons payload rest' =>
              rw [hrest, List.flatMap_cons, List.append_assoc] at stream
              have small := small payload (by simp [inv.payloads, hrest])
              have short := length_lt_of_unfinished inv.unfinished small
                ((List.append_nil part).trans stream)
              have length := congrArg List.length stream
              rw [List.length_append] at length
              omega
          rw [last, List.flatMap_nil, List.nil_append] at stream
          subst stream
          have same : s.reader.received fromSlice awaiting [] = (s.reader, .returned result) := by
            cases awaits with
            | header short =>
              rw [FrameReader.received, if_pos rfl, inv.holds.headerRead]
              split
              case isTrue zero =>
                have empty : part = [] := List.eq_nil_of_length_eq_zero (by omega)
                rw [ending.unique.1 empty]
              case isFalse some =>
                have nonempty : part ≠ [] := by
                  intro empty
                  rw [empty] at some
                  exact some rfl
                rw [ending.unique.2.1 nonempty (.inl short)]
            | body long limit more room =>
              have nonempty : part ≠ [] := by
                intro empty
                rw [empty] at long
                exact absurd long (by decide)
              rw [FrameReader.received, if_pos rfl, ending.unique.2.1 nonempty (.inr ⟨limit, more⟩)]
          refine ⟨done, [], part, ends + 1, last ▸ inv.payloads, ?_, ?_, inv.unfinished, ?_,
            fun _ => rfl, ?_⟩
          all_goals rw [List.take_zero, same, Connection.polled]
          · simp [atLast]
          · exact inv.holds
          · rw [inv.results, List.replicate_succ', List.append_assoc]
          · exact fun _ mem => by cases mem
        · have some : s.incoming.take count ≠ [] := by
            intro empty
            have := congrArg List.length empty
            rw [List.length_take, List.length_nil] at this
            omega
          have within : (s.incoming.take count).length ≤ s.reader.capacity awaiting := by
            rw [List.length_take]
            omega
          refine (received_progress inv.holds awaits some within).inv small ending inv.payloads ?_
            inv.results inv.ended
          rw [List.append_assoc, List.take_append_drop, inv.stream]

lemma Inv.start (payloads : List (List UInt8)) (tail : List UInt8) (result : Except (CodecError E) (Option T)) :
    Inv fromSlice payloads tail result [] payloads [] 0
      (.start (payloads.flatMap frame ++ tail)) := by
  refine ⟨rfl, rfl, ?_, .inl (by decide), rfl, fun some => absurd rfl some, fun _ mem => by cases mem⟩
  exact ⟨rfl, rfl, rfl, rfl, rfl, fun _ => rfl, fun long => absurd long (by decide)⟩

lemma Inv.run (small : ∀ p ∈ payloads, p.length ≤ MAX_FRAME_SIZE) (ending : Ending tail result)
    {actions : List Connection.Action}
    (run : exec (Connection.step fromSlice) (.start (payloads.flatMap frame ++ tail)) actions = some s) :
    ∃ done rest part ends, Inv fromSlice payloads tail result done rest part ends s := by
  have reachable : Reachable (Connection.step fromSlice)
      (· = .start (payloads.flatMap frame ++ tail)) s := Reachable.exec (.start rfl) actions run
  apply Reachable.invariant (fun s => ∃ done rest part ends,
    Inv fromSlice payloads tail result done rest part ends s) ?_ ?_ reachable
  · intro s start
    rw [start]
    exact ⟨[], payloads, [], 0, Inv.start payloads tail result⟩
  · intro s action s' ⟨done, rest, part, ends, inv⟩ step
    exact inv.step small ending step

lemma Inv.enabled (inv : Inv fromSlice payloads tail result done rest part ends s) :
    ∀ awaiting ∈ s.awaiting, ∃ s', s.step fromSlice (.read (min 1 s.incoming.length)) = some s' := by
  intro awaiting pending
  have room : 1 ≤ s.reader.capacity awaiting := by
    have holds := inv.holds
    cases inv.awaits awaiting pending with
    | header short =>
      rw [FrameReader.capacity, holds.size, holds.headerRead]
      omega
    | body long limit more room =>
      rw [FrameReader.capacity, room, holds.payloadRead]
      omega
  rw [Connection.step]
  split
  case h_1 none =>
    rw [Option.mem_def, none] at pending
    cases pending
  case h_2 awaiting' pending' =>
    obtain rfl := Option.some.inj (pending'.symm.trans pending)
    rw [if_pos]
    · exact ⟨_, rfl⟩
    · refine ⟨by omega, Nat.min_le_right _ _, fun zero => ?_⟩
      apply List.eq_nil_of_length_eq_zero
      omega

lemma writeFrames_spec {toVec : T → Except E (List UInt8)} {messages : List T}
    {written : List UInt8} (writes : writeFrames toVec messages = .ok written) :
    ∃ payloads, List.Forall₂ (fun message payload => toVec message = .ok payload) messages payloads ∧
      written = payloads.flatMap frame ∧ ∀ p ∈ payloads, p.length ≤ MAX_FRAME_SIZE := by
  induction messages generalizing written with
  | nil =>
    cases writes
    exact ⟨[], .nil, rfl, fun _ mem => by cases mem⟩
  | cons message messages ih =>
    rw [writeFrames] at writes
    cases first : writeFrame toVec message with
    | error error =>
      rw [first] at writes
      cases writes
    | ok bytes =>
      rw [first] at writes
      cases more : writeFrames toVec messages with
      | error error =>
        rw [more] at writes
        cases writes
      | ok rest =>
        rw [more] at writes
        cases writes
        obtain ⟨payloads, encoded, rfl, small⟩ := ih more
        rw [writeFrame] at first
        split at first
        case h_1 => cases first
        case h_2 payload here =>
          split at first
          case isTrue => cases first
          case isFalse fits =>
            cases first
            refine ⟨payload :: payloads, .cons here encoded, rfl, ?_⟩
            intro p mem
            cases mem with
            | head => exact Nat.le_of_not_lt fits
            | tail _ mem => exact small p mem

lemma map_parse {toVec : T → Except E (List UInt8)}
    (roundTrip : ∀ message payload, toVec message = .ok payload → fromSlice payload = .ok message)
    {messages : List T} {payloads : List (List UInt8)}
    (encoded : List.Forall₂ (fun message payload => toVec message = .ok payload) messages payloads) :
    payloads.map (FrameReader.parse fromSlice) = messages.map fun message => .ok (some message) := by
  induction encoded with
  | nil => rfl
  | cons here _ ih => rw [List.map_cons, List.map_cons, ih, FrameReader.parse, roundTrip _ _ here]

/-- However the reads of a written stream are split, and wherever calls are canceled and restarted,
    `read_frame` returns exactly the written messages in order. After them it returns what the rest
    of the stream calls for: nothing at the end of the stream, an error when the stream ends inside a
    frame, and an error before any body is buffered when a header announces too much. -/
theorem readFrame_decodes (toVec : T → Except E (List UInt8)) (fromSlice : List UInt8 → Except E T)
    (roundTrip : ∀ message payload, toVec message = .ok payload → fromSlice payload = .ok message) (messages : List T)
    (written tail : List UInt8) (writes : writeFrames toVec messages = .ok written)
    (result : Except (CodecError E) (Option T)) (ending : Ending tail result) (actions : List Connection.Action)
    (s : Connection T E) (run : exec (Connection.step fromSlice) (.start (written ++ tail)) actions = some s) :
    ∃ count ends, s.results = (messages.take count).map (fun message => .ok (some message)) ++
        List.replicate ends result ∧
      (ends ≠ 0 → count = messages.length) ∧
      (s.incoming.length ≤ tail.length → count = messages.length) ∧
      (4 ≤ tail.length → MAX_FRAME_SIZE < announced tail → count = messages.length →
        s.reader.payload = [] ∧ tail.length ≤ s.incoming.length + 4) ∧
      ∀ awaiting ∈ s.awaiting,
        ∃ s', s.step fromSlice (.read (min 1 s.incoming.length)) = some s' := by
  obtain ⟨payloads, encoded, rfl, small⟩ := writeFrames_spec writes
  obtain ⟨done, rest, part, ends, inv⟩ := Inv.run small ending run
  have whole := inv.payloads
  have length : payloads.length = messages.length := encoded.length_eq.symm
  have all : rest = [] → done.length = messages.length := by
    intro none
    rw [none, List.append_nil] at whole
    rw [← whole, length]
  have few : done.length = messages.length → rest = [] := by
    intro full
    apply List.eq_nil_of_length_eq_zero
    have := congrArg List.length whole
    rw [List.length_append] at this
    omega
  refine ⟨done.length, ends, ?_, fun some => all (inv.ended some), ?_, ?_, inv.enabled⟩
  · have front : done = payloads.take done.length := by rw [whole, List.take_left]
    rw [inv.results, front, List.map_take, map_parse roundTrip encoded, List.length_take,
      Nat.min_eq_left (by rw [whole, List.length_append]; omega), List.map_take]
  · intro read
    apply all
    cases hrest : rest with
    | nil => rfl
    | cons payload more =>
      have stream := inv.stream
      rw [hrest, List.flatMap_cons, List.append_assoc] at stream
      have short := length_lt_of_unfinished inv.unfinished (small payload (by simp [whole, hrest])) stream
      have lengths := congrArg List.length stream
      simp only [List.length_append] at lengths
      omega
  · intro long large full
    have stream := inv.stream
    rw [few full, List.flatMap_nil, List.nil_append] at stream
    have unfinished := inv.unfinished
    by_cases short : part.length < 4
    · refine ⟨inv.holds.empty (.inl short), ?_⟩
      rw [← stream, List.length_append]
      omega
    · have same : announced part = announced tail := by
        rw [← stream, announced_append (Nat.le_of_not_lt short)]
      rw [Unfinished, same] at unfinished
      refine ⟨inv.holds.empty (.inr (same ▸ large)), ?_⟩
      rw [← stream, List.length_append]
      omega

/-- What `serde_json` makes of a message without fields, and back. -/
def listSessions : List UInt8 := "\x7b\"type\":\"list_sessions\"\x7d".toUTF8.toList

/-- Two messages, read in parts with a cancellation inside the first header and one inside the first
    body, before a header that announces too much. -/
theorem readFrame_decodes_twice : ∃ s : Connection Unit Unit,
    s.results = [.ok (some ()), .ok (some ()),
      .error (.frameTooLarge (2 ^ 32 - 1) MAX_FRAME_SIZE)] ∧
    ∃ count ends, s.results = ([(), ()].take count).map (fun message => .ok (some message)) ++
        List.replicate ends (.error (.frameTooLarge (2 ^ 32 - 1) MAX_FRAME_SIZE)) ∧
      (ends ≠ 0 → count = 2) := by
  have run : (exec (Connection.step fun payload : List UInt8 =>
      if payload = listSessions then Except.ok () else Except.error ())
      (.start (frame listSessions ++ (frame listSessions ++ []) ++ [255, 255, 255, 255]))
      [.call, .read 3, .cancel, .call, .read 1, .read 20, .cancel, .call, .read 4, .call, .read 4,
        .read 24, .call, .read 4]).any (fun s => s.results = [.ok (some ()), .ok (some ()),
      .error (.frameTooLarge (2 ^ 32 - 1) MAX_FRAME_SIZE)]) = true := by decide +kernel
  obtain ⟨s, ran, results⟩ := (Option.any_eq_true _ _).1 run
  obtain ⟨count, ends, decoded, full, -⟩ := readFrame_decodes (fun _ => .ok listSessions)
    (fun payload => if payload = listSessions then .ok () else .error ())
    (by
      intro message payload encoded
      cases encoded
      exact if_pos rfl) [(), ()] _ [255, 255, 255, 255]
    (by decide +kernel) _
    (.tooLarge (by decide) (by decide)) _ s ran
  exact ⟨s, by simpa using results, count, ends, decoded, full⟩

end Ctl.Proto
