import Ctl.Base.Utf8Stream
import Ctl.Daemon.TerminalState

/-!
# What the terminal is fed

Raw output reaches the terminal as the characters of its decoding, one after the other, with nothing but
garbage collection between them (`feedTerminalOutput_feeds`). So it does not matter in which chunks the
output arrives.
-/

namespace Ctl.Daemon.TerminalState
open Ctl.Base Ctl.Proto

variable {E : Emulator}

/-- A terminal is fed characters; between them it collects garbage and bytes wait for their character. -/
inductive Feeds : TerminalState E → Text → TerminalState E → Prop
  | nil (t : TerminalState E) : Feeds t [] t
  | char {t t' : TerminalState E} {ch : Char} {text : Text} :
    Feeds (t.feedTerminalCharacter ch) text t' → Feeds t (ch :: text) t'
  | collect {t t' : TerminalState E} {text : Text} :
    Feeds { t with terminal := E.feedStr t.terminal [] } text t' → Feeds t text t'
  | wait {t t' : TerminalState E} {text : Text} (pendingInput : List UInt8) :
    Feeds { t with pendingInput } text t' → Feeds t text t'

lemma Feeds.trans {t t' t'' : TerminalState E} {first last : Text} (h : Feeds t first t')
    (k : Feeds t' last t'') : Feeds t (first ++ last) t'' := by
  induction h with
  | nil => exact k
  | char _ ih => exact .char (ih k)
  | collect _ ih => exact .collect (ih k)
  | wait pendingInput _ ih => exact .wait pendingInput (ih k)

lemma feedCharacters_feeds (interval : Nat) (t : TerminalState E) (text : Text) (index : Nat) :
    Feeds t text (feedCharacters interval t text index) := by
  induction text generalizing t index with
  | nil => exact .nil t
  | cons ch text ih =>
    rw [feedCharacters]
    apply Feeds.char
    split
    · exact .collect (ih _ _)
    · exact ih _ _

variable (t : TerminalState E)

lemma feedTerminalText_feeds (text : Text) : Feeds t text (t.feedTerminalText text) := by
  have fed := feedCharacters_feeds (max (terminalFeedCellBudget / max t.terminalSize.columns.toNat 1) 1)
    t text 0
  have collected := fed.trans (.collect (.nil _))
  rwa [List.append_nil] at collected

lemma feedPending_feeds {fuel : Nat} {t : TerminalState E} (enough : t.pendingInput.length < fuel) :
    Feeds t (decode t.pendingInput).1 (feedPending fuel t) ∧
      (feedPending fuel t).pendingInput = (decode t.pendingInput).2 := by
  induction fuel generalizing t with
  | zero => cases enough
  | succ fuel ih =>
    rw [feedPending]
    generalize read : fromUtf8 t.pendingInput.length t.pendingInput = found
    obtain ⟨valid, rest, stop⟩ := found
    obtain ⟨decoded, fewer, nothing, -, ends⟩ := fromUtf8_prefix (le_refl _) read
    rw [decoded]
    cases stop with
    | complete =>
      obtain rfl : rest = [] := ends
      have fed := (t.feedTerminalText_feeds valid).trans (.wait [] (.nil _))
      exact ⟨fed, rfl⟩
    | incomplete =>
      obtain ⟨_, waits⟩ := ends
      dsimp only
      split
      case isTrue some =>
        have shorter : 0 < valid.length := List.length_pos_iff.2 some
        obtain ⟨fed, left⟩ := ih (t := { t.feedTerminalText valid with pendingInput := rest })
          (show rest.length < fuel by omega)
        exact ⟨(t.feedTerminalText_feeds valid).trans (.wait rest fed), left⟩
      case isFalse none =>
        have none : valid = [] := not_not.1 none
        rw [waits, none, nothing none]
        exact ⟨.nil t, rfl⟩
    | invalid length =>
      obtain ⟨some, inside, replaced⟩ := ends
      dsimp only
      split
      case isTrue nonempty =>
        have shorter : 0 < valid.length := List.length_pos_iff.2 nonempty
        obtain ⟨fed, left⟩ := ih (t := { t.feedTerminalText valid with pendingInput := rest })
          (show rest.length < fuel by omega)
        exact ⟨(t.feedTerminalText_feeds valid).trans (.wait rest fed), left⟩
      case isFalse none =>
        have none : valid = [] := not_not.1 none
        have shorter : (rest.drop length).length < fuel := by
          rw [List.length_drop]
          omega
        obtain ⟨fed, left⟩ := ih (t := { t.feedTerminalCharacter replacement with
          pendingInput := rest.drop length }) shorter
        rw [replaced, none]
        exact ⟨.char (.wait _ fed), left⟩

theorem feedTerminalOutput_feeds (data : List UInt8) :
    Feeds t (decode (t.pendingInput ++ data)).1 (t.feedTerminalOutput data) ∧
      (t.feedTerminalOutput data).pendingInput = (decode (t.pendingInput ++ data)).2 := by
  obtain ⟨fed, left⟩ := feedPending_feeds (t := { t with pendingInput := t.pendingInput ++ data })
    (Nat.lt_succ_self _)
  exact ⟨.wait _ fed, left⟩

/-! ### The observers -/

def observers : E.InputModes × E.Parser := (t.inputModes, t.historyControlParser)

lemma refreshHistory_observers : t.refreshHistory.observers = t.observers := by
  unfold refreshHistory
  by_cases h : t.historyAlternateScreen
  · simp only [h, if_true]
    split <;> rfl
  · simp only [h]
    rfl

lemma switchModes_observers (control : Option HistoryControl) : (t.switchModes control).observers = t.observers := by
  rcases control with _ | switch | _ | _ | _ <;> try rfl
  simp only [switchModes]
  split
  · exact t.refreshHistory_observers
  · rfl

lemma clearHistory_observers (control : Option HistoryControl) : (t.clearHistory control).observers = t.observers := by
  have pending : ∀ t : TerminalState E, t.applyPendingHistoryClear.observers = t.observers := by
    intro t
    unfold applyPendingHistoryClear
    split <;> rfl
  rcases control with _ | switch | _ | _ | _
  case some.ris => rfl
  all_goals exact pending _

lemma feedTerminalCharacter_observers (ch : Char) :
    (t.feedTerminalCharacter ch).observers =
      (E.feedModes t.inputModes ch, (E.observe t.historyControlParser ch).1) := by
  rw [feedTerminalCharacter, clearHistory_observers]
  exact switchModes_observers _ _

theorem Feeds.observers {t t' : TerminalState E} {text : Text} (h : Feeds t text t') :
    t'.observers = (text.foldl E.feedModes t.inputModes,
      text.foldl (fun parser ch => (E.observe parser ch).1) t.historyControlParser) := by
  induction h with
  | nil => rfl
  | collect _ ih => exact ih
  | wait _ _ ih => exact ih
  | @char t t' ch text _ ih =>
    have seen := t.feedTerminalCharacter_observers ch
    have modes : (t.feedTerminalCharacter ch).inputModes = E.feedModes t.inputModes ch :=
      congrArg Prod.fst seen
    have parser : (t.feedTerminalCharacter ch).historyControlParser =
        (E.observe t.historyControlParser ch).1 := congrArg Prod.snd seen
    rw [ih, List.foldl_cons, List.foldl_cons, modes, parser]

end Ctl.Daemon.TerminalState
