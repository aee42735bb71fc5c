import Ctl.Avt.Parser
import Ctl.Base.Guards
import Ctl.Base.Utf8Stream
import Ctl.Proto.History

/-!
# Raw output on the client

Model of `feed_projection` in `ctmux/client/src/history.rs` and of `update_output` in
`ctmux/client/src/cache.rs`: raw output is decoded in rounds and fed to an emulator in chunks.

The emulator and the history that is kept beside it are the parameter `P : Projection`. The bound on the
rows of a delta is part of `collect`, and writing the emptied history, which may fail, of `clear`. Every
function returns the characters that it has fed last, which the source does not.
-/

namespace Ctl.Client
open Ctl.Base Ctl.Proto Ctl.Avt

/-- The emulator of a projection and the history kept beside it. -/
structure Projection where
  /-- `avt::Vt`. -/
  Vt : Type
  /-- `Vt::feed_str` with the lines that leave the screen. -/
  feedStr : Vt → Text → Vt × List Line
  /-- The first component of `Vt::size`. -/
  columns : Vt → Nat
  /-- What `update_output` keeps of the history: replay, manifest, prefix and the collected delta. -/
  History : Type
  /-- `retain_replay` at a sequence. -/
  retainReplay : History → (sequence : Nat) → List UInt8 → History
  /-- The rows and lines that leave the screen. -/
  collect : History → List Line → History
  /-- What a cleared screen does to the history. -/
  clear : History → Except String History

/-! ### Chunks -/

/-- The longest front of a text with so many bytes (the search for a character boundary). -/
def takeBytes : (bytes : Nat) → Text → Text × Text
  | _, [] => ([], [])
  | bytes, c :: text =>
    if c.utf8Size ≤ bytes then
      let (front, rest) := takeBytes (bytes - c.utf8Size) text
      (c :: front, rest)
    else ([], c :: text)

/-- The loop of `projection_chunks`; every chunk has a character, so `fuel` bounds the chunks. -/
def chunkLoop (chunkBytes : Nat) : (fuel : Nat) → Text → List Text
  | _, [] => []
  | 0, text => [text]
  | fuel + 1, c :: text =>
    match takeBytes chunkBytes (c :: text) with
    | ([], _) => [c] :: chunkLoop chunkBytes fuel text
    | (chunk, rest) => chunk :: chunkLoop chunkBytes fuel rest

/-- Split a text at character boundaries (Rust `projection_chunks`). -/
def projectionChunks (text : Text) (columns : Nat) : List Text :=
  chunkLoop (min 4096 (max 1 (16 * 1024 / max columns 1))) text.length text

lemma takeBytes_append (bytes : Nat) (text : Text) : (takeBytes bytes text).1 ++ (takeBytes bytes text).2 = text := by
  induction text generalizing bytes with
  | nil => rfl
  | cons c text ih =>
    rw [takeBytes]
    split
    · exact congrArg (c :: ·) (ih _)
    · rfl

lemma projectionChunks_flatten (text : Text) (columns : Nat) : (projectionChunks text columns).flatten = text := by
  rw [projectionChunks]
  generalize min 4096 (max 1 (16 * 1024 / max columns 1)) = bytes
  generalize text.length = fuel
  induction fuel generalizing text with
  | zero => cases text <;> simp [chunkLoop]
  | succ fuel ih =>
    cases text with
    | nil => rfl
    | cons c text =>
      rw [chunkLoop]
      have whole := takeBytes_append bytes (c :: text)
      split
      case h_1 =>
        rw [List.flatten_cons, ih]
        rfl
      case h_2 chunk rest taken =>
        rw [taken] at whole
        rw [List.flatten_cons, ih]
        exact whole

/-! ### Rounds -/

/-- The text of the next round and the bytes that it takes (the `match` of both loops). -/
def nextText (pending : List UInt8) : Option (Text × Nat) :=
  match fromUtf8 pending.length pending with
  | (valid, _, .complete) => some (valid, pending.length)
  | (valid, rest, stop) =>
    if valid ≠ [] then some (valid, pending.length - rest.length)
    else match stop with
      | .invalid length => some ([replacement], length)
      | _ => none

/-- The loop over rounds: `feed` is what a round does with its text. Every round takes a byte, so `fuel`
    bounds the rounds. -/
def feedRounds {σ : Type} (feed : σ → Text → Except String σ) :
    (fuel : Nat) → List UInt8 → σ → Except String (σ × List UInt8 × Text)
  | 0, pending, s => .ok (s, pending, [])
  | fuel + 1, pending, s =>
    match nextText pending with
    | none => .ok (s, pending, [])
    | some (text, consumed) =>
      if consumed = 0 then .ok (s, pending, [])
      else do
        let s ← feed s text
        let (s, pending, fed) ← feedRounds feed fuel (pending.drop consumed) s
        return (s, pending, text ++ fed)

lemma nextText_decode (pending : List UInt8) :
    match nextText pending with
    | none => decode pending = ([], pending)
    | some (text, consumed) => consumed ≤ pending.length ∧ (consumed = 0 → pending = []) ∧
      decode pending = (text ++ (decode (pending.drop consumed)).1, (decode (pending.drop consumed)).2) := by
  rw [nextText]
  generalize read : fromUtf8 pending.length pending = found
  obtain ⟨valid, rest, stop⟩ := found
  obtain ⟨decoded, fewer, nothing, suffix, ends⟩ := fromUtf8_prefix (Nat.le_refl _) read
  have dropped : pending.drop (pending.length - rest.length) = rest :=
    (List.suffix_iff_eq_drop.1 suffix).symm
  have empty : ∀ {l : List UInt8}, l.length = 0 → l = [] := List.eq_nil_of_length_eq_zero
  cases stop with
  | complete =>
    obtain rfl : rest = [] := ends
    refine ⟨Nat.le_refl _, fun none => empty none, ?_⟩
    rw [decoded, List.drop_length]
  | incomplete =>
    dsimp only
    by_cases none : valid = []
    · rw [if_neg (not_not.2 none), ← nothing none]
      exact ends.2
    · rw [if_pos none]
      have shorter : 0 < valid.length := List.length_pos_iff.2 none
      refine ⟨Nat.sub_le _ _, fun zero => ?_, ?_⟩
      · omega
      · rw [dropped]
        exact decoded
  | invalid length =>
    obtain ⟨some, inside, replaced⟩ := ends
    dsimp only
    by_cases none : valid = []
    · rw [if_neg (not_not.2 none), ← nothing none]
      exact ⟨inside, fun zero => by omega, replaced⟩
    · rw [if_pos none]
      have shorter : 0 < valid.length := List.length_pos_iff.2 none
      refine ⟨Nat.sub_le _ _, fun zero => ?_, ?_⟩
      · omega
      · rw [dropped]
        exact decoded

variable {fuel : Nat} {pending left data : List UInt8} {fed : Text} {P : Projection} {vt vt' : P.Vt} {start stop : Nat}

lemma feedRounds_ok {σ : Type} {feed : σ → Text → Except String σ} {s s' : σ}
    (ok : feedRounds feed (fuel + 1) pending s = .ok (s', left, fed)) :
    (s' = s ∧ left = pending ∧ fed = [] ∧ decode pending = ([], pending)) ∨
      ∃ text consumed s'' fed', 0 < consumed ∧ consumed ≤ pending.length ∧ feed s text = .ok s'' ∧
        feedRounds feed fuel (pending.drop consumed) s'' = .ok (s', left, fed') ∧ fed = text ++ fed' ∧
        decode pending = (text ++ (decode (pending.drop consumed)).1, (decode (pending.drop consumed)).2) := by
  rw [feedRounds] at ok
  have round := nextText_decode pending
  generalize nextText pending = found at ok round
  cases found with
  | none =>
    cases ok
    exact .inl ⟨rfl, rfl, rfl, round⟩
  | some found =>
    obtain ⟨text, consumed⟩ := found
    obtain ⟨inside, ends, decoded⟩ := round
    dsimp only at ok
    split at ok
    case isTrue zero =>
      cases ok
      rw [ends zero]
      exact .inl ⟨rfl, rfl, rfl, rfl⟩
    case isFalse some =>
      obtain ⟨s'', hfeed, ok⟩ := bind_eq_ok.1 ok
      obtain ⟨⟨s₃, left', fed'⟩, hrest, ok⟩ := bind_eq_ok.1 ok
      cases ok
      exact .inr ⟨text, consumed, s'', fed', Nat.pos_of_ne_zero some, inside, hfeed, hrest, rfl, decoded⟩

lemma feedRounds_decode {σ : Type} {feed : σ → Text → Except String σ} {s s' : σ} (enough : pending.length < fuel)
    (ok : feedRounds feed fuel pending s = .ok (s', left, fed)) : decode pending = (fed, left) := by
  induction fuel generalizing pending s fed with
  | zero => cases enough
  | succ fuel ih =>
    rcases feedRounds_ok ok with ⟨-, rfl, rfl, done⟩ |
      ⟨text, consumed, s'', fed', some, inside, -, rest, rfl, decoded⟩
    · exact done
    · have shorter : (pending.drop consumed).length < fuel := by
        rw [List.length_drop]
        omega
      rw [decoded, ih shorter rest]

lemma feedRounds_rel {σ : Type} {feed : σ → Text → Except String σ} {R : σ → Text → σ → Prop} (refl : ∀ s, R s [] s)
    (trans : ∀ {s s' s'' first last}, R s first s' → R s' last s'' → R s (first ++ last) s'')
    (round : ∀ {s s' text}, feed s text = .ok s' → R s text s') {s s' : σ}
    (ok : feedRounds feed fuel pending s = .ok (s', left, fed)) : R s fed s' := by
  induction fuel generalizing pending s fed with
  | zero =>
    cases ok
    exact refl s'
  | succ fuel ih =>
    rcases feedRounds_ok ok with ⟨rfl, -, rfl, -⟩ | ⟨text, consumed, s'', fed', -, -, fed, rest, rfl, -⟩
    · exact refl s'
    · exact trans (round fed) (ih rest)

lemma feedRounds_total {σ : Type} {feed : σ → Text → Except String σ} (total : ∀ s text, ∃ s', feed s text = .ok s')
    (fuel : Nat) (pending : List UInt8) (s : σ) : ∃ result, feedRounds feed fuel pending s = .ok result := by
  induction fuel generalizing pending s with
  | zero => exact ⟨_, rfl⟩
  | succ fuel ih =>
    rw [feedRounds]
    cases nextText pending with
    | none => exact ⟨_, rfl⟩
    | some found =>
      obtain ⟨text, consumed⟩ := found
      dsimp only
      split
      case isTrue => exact ⟨_, rfl⟩
      case isFalse =>
        obtain ⟨s', round⟩ := total s text
        obtain ⟨result, ok⟩ := ih (pending.drop consumed) s'
        exact ⟨(result.1, result.2.1, text ++ result.2.2), bind_eq_ok.2 ⟨s', round, bind_eq_ok.2 ⟨_, ok, rfl⟩⟩⟩

/-! ### Projections -/

def feedChunks (P : Projection) (s : P.Vt × Bool) (text : Text) : P.Vt × Bool :=
  (projectionChunks text (P.columns s.1)).foldl (fun s chunk =>
    ((P.feedStr s.1 chunk).1, s.2 || !(P.feedStr s.1 chunk).2.isEmpty)) s

/-- Apply raw bytes (Rust `feed_projection_with_evictions`). -/
def feedProjectionWithEvictions (P : Projection) (vt : P.Vt) (pendingUtf8 data : List UInt8) :
    Except String ((P.Vt × Bool) × List UInt8 × Text) :=
  feedRounds (fun s text => .ok (feedChunks P s text)) ((pendingUtf8 ++ data).length + 1)
    (pendingUtf8 ++ data) (vt, false)

/-- Apply raw bytes (Rust `feed_projection`). -/
def feedProjection (P : Projection) (vt : P.Vt) (pendingUtf8 data : List UInt8) :
    Except String (P.Vt × List UInt8 × Text) := do
  let ((vt, _), pendingUtf8, fed) ← feedProjectionWithEvictions P vt pendingUtf8 data
  return (vt, pendingUtf8, fed)

/-! ### The cache -/

/-- What `update_output` reads and writes of a record (Rust `Current`). -/
structure Current (P : Projection) where
  sequence : Nat
  pendingUtf8 : List UInt8
  payload : Text
  history : P.History

def clearsHistory : Function → Bool
  | .ed .savedLines => true
  | .ris => true
  | _ => false

def feedControl (s : Parser × Bool) (text : Text) : Parser × Bool :=
  text.foldl (fun s ch => ((s.1.feed ch).1, s.2 || (s.1.feed ch).2.any clearsHistory)) s

/-- The state of the loop of `update_output`. -/
structure OutputState (P : Projection) where
  controlParser : Parser
  vt : P.Vt
  history : P.History

/-- One round of `update_output`. -/
def outputRound (P : Projection) (s : OutputState P) (text : Text) : Except String (OutputState P) :=
  let control := feedControl (s.controlParser, false) text
  let fed := (projectionChunks text (P.columns s.vt)).foldl (fun s chunk =>
    ((P.feedStr s.1 chunk).1, P.collect s.2 (P.feedStr s.1 chunk).2)) (s.vt, s.history)
  (if control.2 then P.clear fed.2 else .ok fed.2) >>= fun history => .ok ⟨control.1, fed.1, history⟩

/-- Apply output to a record and its emulator (Rust `update_output`). -/
def updateOutput (P : Projection) (current : Current P) (vt : P.Vt) (start stop : Nat) (data : List UInt8) :
    Except String (Current P × P.Vt × Text) :=
  if current.sequence < start then
    .error "Local session output has a gap; reconnect to restore a checkpoint"
  else
    let offset := current.sequence - start
    if stop - start ≠ data.length ∨ data.length < offset then .error "Invalid local output range"
    else do
      let fresh := data.drop offset
      let controlParser := (feedControl (.new, false) current.payload).1
      let history := P.retainReplay current.history current.sequence fresh
      let pending := current.pendingUtf8 ++ fresh
      let (s, pendingUtf8, fed) ←
        feedRounds (outputRound P) (pending.length + 1) pending ⟨controlParser, vt, history⟩
      return ({ current with sequence := stop, pendingUtf8, history := s.history }, s.vt, fed)

/-! ### What the emulator is fed -/

def Fed (P : Projection) (vt : P.Vt) (text : Text) (vt' : P.Vt) : Prop :=
  ∃ pieces : List Text, pieces.flatten = text ∧
    vt' = pieces.foldl (fun vt piece => (P.feedStr vt piece).1) vt

lemma Fed.refl (vt : P.Vt) : Fed P vt [] vt := ⟨[], rfl, rfl⟩

lemma Fed.trans {P : Projection} {vt vt' vt'' : P.Vt} {first last : Text} (h : Fed P vt first vt')
    (k : Fed P vt' last vt'') : Fed P vt (first ++ last) vt'' := by
  obtain ⟨pieces, rfl, rfl⟩ := h
  obtain ⟨pieces', rfl, rfl⟩ := k
  exact ⟨pieces ++ pieces', by simp, by simp⟩

lemma fed_chunks {β : Type} (keep : β → List Line → β) (text : Text) (vt : P.Vt) (b : β) (columns : Nat) :
    Fed P vt text ((projectionChunks text columns).foldl (fun s chunk =>
      ((P.feedStr s.1 chunk).1, keep s.2 (P.feedStr s.1 chunk).2)) (vt, b)).1 := by
  refine ⟨projectionChunks text columns, projectionChunks_flatten text columns, ?_⟩
  generalize projectionChunks text columns = chunks
  induction chunks generalizing vt b with
  | nil => rfl
  | cons chunk chunks ih => exact ih _ _

theorem feedProjection_feeds {pendingUtf8 : List UInt8}
    (ok : feedProjection P vt pendingUtf8 data = .ok (vt', left, fed)) :
    decode (pendingUtf8 ++ data) = (fed, left) ∧ Fed P vt fed vt' := by
  obtain ⟨⟨⟨vt'', evicted⟩, left', fed'⟩, rounds, ok⟩ := bind_eq_ok.1 ok
  cases ok
  refine ⟨feedRounds_decode (Nat.lt_succ_self _) rounds, ?_⟩
  refine feedRounds_rel (R := fun s text s' => Fed P s.1 text s'.1) (fun s => .refl s.1) Fed.trans ?_ rounds
  intro s s' text round
  cases round
  exact fed_chunks (fun evicted lines => evicted || !lines.isEmpty) text s.1 s.2 _

lemma feedProjection_total (P : Projection) (vt : P.Vt) (pendingUtf8 data : List UInt8) :
    ∃ result, feedProjection P vt pendingUtf8 data = .ok result := by
  let feed (s : P.Vt × Bool) (text : Text) : Except String (P.Vt × Bool) := .ok (feedChunks P s text)
  have total : ∀ s text, ∃ s', feed s text = .ok s' := fun s text => ⟨_, rfl⟩
  obtain ⟨result, ok⟩ := feedRounds_total total ((pendingUtf8 ++ data).length + 1) (pendingUtf8 ++ data)
    (vt, false)
  exact ⟨(result.1.1, result.2.1, result.2.2), bind_eq_ok.2 ⟨result, ok, rfl⟩⟩

variable {current current' : Current P}

theorem updateOutput_feeds (ok : updateOutput P current vt start stop data = .ok (current', vt', fed)) :
    start ≤ current.sequence ∧ stop - start = data.length ∧ current.sequence - start ≤ data.length ∧
      current'.sequence = stop ∧
      decode (current.pendingUtf8 ++ data.drop (current.sequence - start)) = (fed, current'.pendingUtf8) ∧
      Fed P vt fed vt' := by
  rw [updateOutput] at ok
  split at ok
  case isTrue => cases ok
  case isFalse behind =>
    dsimp only at ok
    split at ok
    case isTrue => cases ok
    case isFalse range =>
      rw [not_or, not_not, Nat.not_lt] at range
      obtain ⟨⟨s, left, fed'⟩, rounds, ok⟩ := bind_eq_ok.1 ok
      cases ok
      refine ⟨Nat.not_lt.1 behind, range.1, range.2, rfl, feedRounds_decode (Nat.lt_succ_self _) rounds, ?_⟩
      refine feedRounds_rel (R := fun s text s' => Fed P s.vt text s'.vt) (fun s => .refl s.vt) Fed.trans ?_
        rounds
      intro s s' text round
      rw [outputRound] at round
      obtain ⟨history, _, round⟩ := bind_eq_ok.1 round
      cases round
      exact fed_chunks P.collect text s.vt s.history _

lemma updateOutput_keeps {I : P.History → Prop} (collect : ∀ history lines, I history → I (P.collect history lines))
    (clear : ∀ history cleared, I history → P.clear history = .ok cleared → I cleared)
    (base : I (P.retainReplay current.history current.sequence (data.drop (current.sequence - start))))
    (ok : updateOutput P current vt start stop data = .ok (current', vt', fed)) : I current'.history := by
  rw [updateOutput] at ok
  split at ok
  case isTrue => cases ok
  case isFalse =>
    dsimp only at ok
    split at ok
    case isTrue => cases ok
    case isFalse =>
      obtain ⟨⟨s, left, fed'⟩, rounds, ok⟩ := bind_eq_ok.1 ok
      cases ok
      let R (s : OutputState P) (_ : Text) (s' : OutputState P) : Prop := I s.history → I s'.history
      have refl : ∀ s, R s [] s := fun _ h => h
      have trans : ∀ {s s' s'' first last}, R s first s' → R s' last s'' → R s (first ++ last) s'' :=
        fun first last h => last (first h)
      refine feedRounds_rel refl @trans ?_ rounds base
      intro s s' text round before
      rw [outputRound] at round
      obtain ⟨history, cleared, round⟩ := bind_eq_ok.1 round
      cases round
      have collected : ∀ (chunks : List Text) (fed : P.Vt × P.History), I fed.2 →
          I (chunks.foldl (fun s chunk => ((P.feedStr s.1 chunk).1, P.collect s.2 (P.feedStr s.1 chunk).2))
            fed).2 := by
        intro chunks
        induction chunks with
        | nil => exact fun _ h => h
        | cons chunk chunks ih => exact fun fed h => ih _ (collect _ _ h)
      have kept := collected (projectionChunks text (P.columns s.vt)) (s.vt, s.history) before
      split at cleared
      case isTrue => exact clear _ _ kept cleared
      case isFalse =>
        cases cleared
        exact kept

lemma updateOutput_total (clears : ∀ history, ∃ cleared, P.clear history = .ok cleared) (current : Current P)
    (vt : P.Vt) (data : List UInt8) :
    ∃ result, updateOutput P current vt current.sequence (current.sequence + data.length) data = .ok result := by
  have rounds : ∀ s text, ∃ s', outputRound P s text = .ok s' := by
    intro s text
    unfold outputRound
    dsimp only
    split
    · obtain ⟨cleared, ok⟩ := clears (List.foldl (fun s chunk =>
        ((P.feedStr s.1 chunk).1, P.collect s.2 (P.feedStr s.1 chunk).2)) (s.vt, s.history)
        (projectionChunks text (P.columns s.vt))).2
      exact ⟨_, bind_eq_ok.2 ⟨cleared, ok, rfl⟩⟩
    · exact ⟨_, rfl⟩
  rw [updateOutput, if_neg (Nat.lt_irrefl _), Nat.sub_self]
  dsimp only
  rw [if_neg (by omega), List.drop_zero]
  obtain ⟨result, ok⟩ := feedRounds_total rounds ((current.pendingUtf8 ++ data).length + 1)
    (current.pendingUtf8 ++ data)
    ⟨(feedControl (.new, false) current.payload).1, vt, P.retainReplay current.history current.sequence data⟩
  exact ⟨_, bind_eq_ok.2 ⟨result, ok, rfl⟩⟩

end Ctl.Client
