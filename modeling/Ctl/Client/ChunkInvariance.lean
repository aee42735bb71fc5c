import Ctl.Client.Projection
import Ctl.Daemon.Decoding

/-!
# Chunks of raw output

The daemon, the cache of the client and a projection decode raw output in the same way, however it is cut
into chunks (`decoders_agree`).
-/

namespace Ctl.Client
open Ctl.Base Ctl.Proto Ctl.Daemon

inductive ProjectionRun (P : Projection) : P.Vt × List UInt8 → List (List UInt8) → Text → P.Vt × List UInt8 → Prop
  | nil (s : P.Vt × List UInt8) : ProjectionRun P s [] [] s
  | cons {vt vt' : P.Vt} {pending pending' data : List UInt8} {chunks : List (List UInt8)} {fed fed' : Text}
      {s : P.Vt × List UInt8} :
    feedProjection P vt pending data = .ok (vt', pending', fed) →
    ProjectionRun P (vt', pending') chunks fed' s →
    ProjectionRun P (vt, pending) (data :: chunks) (fed ++ fed') s

/-- A record is given chunk after chunk, each at its sequence. Before every chunk the emulator is restored
    from the payload, so it may be any; history and payload may change between chunks. -/
inductive CacheRun (P : Projection) : Nat × List UInt8 → List (List UInt8) → Text → Nat × List UInt8 → Prop
  | nil (s : Nat × List UInt8) : CacheRun P s [] [] s
  | cons {current current' : Current P} {vt vt' : P.Vt} {data : List UInt8} {chunks : List (List UInt8)}
      {fed fed' : Text} {s : Nat × List UInt8} :
    updateOutput P current vt current.sequence (current.sequence + data.length) data = .ok (current', vt', fed) →
    CacheRun P (current'.sequence, current'.pendingUtf8) chunks fed' s →
    CacheRun P (current.sequence, current.pendingUtf8) (data :: chunks) (fed ++ fed') s

lemma decode_chunk {pending data rest left : List UInt8} {fed : List Char}
    (first : decode (pending ++ data) = (fed, left)) :
    decode (pending ++ (data ++ rest)) = (fed ++ (decode (left ++ rest)).1, (decode (left ++ rest)).2) := by
  rw [← List.append_assoc, decode_append, first]

variable {P : Projection} {chunks : List (List UInt8)} {fed : Text}

theorem ProjectionRun.decodes {s s' : P.Vt × List UInt8} (h : ProjectionRun P s chunks fed s')
    (waiting : decode s.2 = ([], s.2)) : decode (s.2 ++ chunks.flatten) = (fed, s'.2) ∧ Fed P s.1 fed s'.1 := by
  induction h with
  | nil s => exact ⟨by rw [List.flatten_nil, List.append_nil, waiting], .refl _⟩
  | @cons vt vt' pending pending' data chunks fed fed' s round _ ih =>
    obtain ⟨decoded, pieces⟩ := feedProjection_feeds round
    have left : decode pending' = ([], pending') := by
      have rest := decode_left (pending ++ data)
      rwa [decoded] at rest
    obtain ⟨rest, pieces'⟩ := ih left
    refine ⟨?_, pieces.trans pieces'⟩
    rw [List.flatten_cons, decode_chunk decoded, rest]

theorem CacheRun.decodes {s s' : Nat × List UInt8} (h : CacheRun P s chunks fed s') (waiting : decode s.2 = ([], s.2)) :
    decode (s.2 ++ chunks.flatten) = (fed, s'.2) ∧ s'.1 = s.1 + chunks.flatten.length := by
  induction h with
  | nil s => exact ⟨by rw [List.flatten_nil, List.append_nil, waiting], rfl⟩
  | @cons current current' vt vt' data chunks fed fed' s round _ ih =>
    obtain ⟨-, -, -, next, decoded, -⟩ := updateOutput_feeds round
    rw [Nat.sub_self, List.drop_zero] at decoded
    have left : decode current'.pendingUtf8 = ([], current'.pendingUtf8) := by
      have rest := decode_left (current.pendingUtf8 ++ data)
      rwa [decoded] at rest
    obtain ⟨rest, sequence⟩ := ih left
    refine ⟨?_, ?_⟩
    · rw [List.flatten_cons, decode_chunk decoded, rest]
    · rw [sequence, next, List.flatten_cons, List.length_append]
      dsimp only
      omega

lemma daemon_decodes {E : Emulator} (t : TerminalState E) (chunks : List (List UInt8))
    (waiting : decode t.pendingInput = ([], t.pendingInput)) :
    TerminalState.Feeds t (decode (t.pendingInput ++ chunks.flatten)).1
        (chunks.foldl TerminalState.feedTerminalOutput t) ∧
      (chunks.foldl TerminalState.feedTerminalOutput t).pendingInput =
        (decode (t.pendingInput ++ chunks.flatten)).2 := by
  induction chunks generalizing t with
  | nil =>
    rw [List.flatten_nil, List.append_nil, waiting]
    exact ⟨.nil t, rfl⟩
  | cons data chunks ih =>
    obtain ⟨fed, left⟩ := t.feedTerminalOutput_feeds data
    have first : decode (t.pendingInput ++ data) =
        ((decode (t.pendingInput ++ data)).1, (t.feedTerminalOutput data).pendingInput) := by
      rw [left]
    obtain ⟨rest, last⟩ := ih (t.feedTerminalOutput data) (by rw [left]; exact decode_left _)
    rw [List.flatten_cons, decode_chunk first]
    exact ⟨fed.trans rest, last⟩

/-- However a stream is cut into chunks, the daemon, the cache and a projection feed the characters of the
    whole stream, decoded in one piece, and leave the same unfinished character. The two observers of the
    daemon see these characters. A projection can always be fed, and a record whenever its history can be
    cleared. -/
theorem decoders_agree (chunks : List (List UInt8)) :
    (∀ (E : Emulator) (t : TerminalState E), t.pendingInput = [] →
      (chunks.foldl TerminalState.feedTerminalOutput t).pendingInput = (decode chunks.flatten).2 ∧
      TerminalState.Feeds t (decode chunks.flatten).1 (chunks.foldl TerminalState.feedTerminalOutput t) ∧
      (chunks.foldl TerminalState.feedTerminalOutput t).inputModes =
        (decode chunks.flatten).1.foldl E.feedModes t.inputModes) ∧
    (∀ (P : Projection) (sequence : Nat),
      (∀ fed s, CacheRun P (sequence, []) chunks fed s →
        fed = (decode chunks.flatten).1 ∧ s.2 = (decode chunks.flatten).2) ∧
      ∀ (_ : P.Vt) (_ : P.History), (∀ history, ∃ cleared, P.clear history = .ok cleared) →
        ∃ fed s, CacheRun P (sequence, []) chunks fed s) ∧
    ∀ (P : Projection) (vt : P.Vt),
      (∀ fed s, ProjectionRun P (vt, []) chunks fed s →
        fed = (decode chunks.flatten).1 ∧ s.2 = (decode chunks.flatten).2 ∧ Fed P vt fed s.1) ∧
      ∃ fed s, ProjectionRun P (vt, []) chunks fed s := by
  refine ⟨?_, ?_, ?_⟩
  · intro E t empty
    obtain ⟨fed, left⟩ := daemon_decodes t chunks (by rw [empty]; rfl)
    rw [empty, List.nil_append] at fed left
    exact ⟨left, fed, congrArg Prod.fst fed.observers⟩
  · intro P sequence
    refine ⟨?_, ?_⟩
    · intro fed s run
      have decoded := (run.decodes rfl).1
      rw [List.nil_append] at decoded
      rw [decoded]
      exact ⟨rfl, rfl⟩
    · intro vt history clears
      suffices general : ∀ pending sequence, ∃ fed s, CacheRun P (sequence, pending) chunks fed s from
        general [] sequence
      induction chunks with
      | nil => exact fun pending sequence => ⟨[], _, .nil _⟩
      | cons data chunks ih =>
        intro pending sequence
        obtain ⟨⟨current', vt', fed⟩, ok⟩ := updateOutput_total clears
          ⟨sequence, pending, [], history⟩ vt data
        obtain ⟨fed', s, rest⟩ := ih current'.pendingUtf8 current'.sequence
        exact ⟨_, s, .cons ok rest⟩
  · intro P vt
    refine ⟨?_, ?_⟩
    · intro fed s run
      obtain ⟨decoded, pieces⟩ := run.decodes rfl
      rw [List.nil_append] at decoded
      rw [decoded]
      exact ⟨rfl, rfl, pieces⟩
    · suffices general : ∀ pending (vt : P.Vt), ∃ fed s, ProjectionRun P (vt, pending) chunks fed s from
        general [] vt
      induction chunks with
      | nil => exact fun pending vt => ⟨[], _, .nil _⟩
      | cons data chunks ih =>
        intro pending vt
        obtain ⟨⟨vt', pending', fed⟩, ok⟩ := feedProjection_total P vt pending data
        obtain ⟨fed', s, rest⟩ := ih pending' vt'
        exact ⟨_, s, .cons ok rest⟩

end Ctl.Client
