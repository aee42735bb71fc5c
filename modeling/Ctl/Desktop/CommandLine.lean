import Ctl.Base.Utf16

/-!
# Command lines

Model of `apps/desktop/src/features/tasks/commandLine.ts`, unit by unit. A formatted word is read back wherever it
stands (`parseLoop_formatWord`), so a formatted command is read back as its words, as long as there is a command and no
word has a null character: the parser lets one through behind a backslash.
-/

namespace Ctl.Desktop
open Ctl.Base

/-- The result of TypeScript `parseCommandLine`. -/
structure ParsedCommand where
  words : List Utf16
  error : Option String
  deriving DecidableEq

inductive OpenQuote where
  | single
  | double
  deriving DecidableEq

/-- The variables of TypeScript `parseCommandLine`. -/
structure CommandState where
  words : List Utf16
  word : Utf16
  started : Bool
  quote : Option OpenQuote

def ParsedCommand.refused (error : String) : ParsedCommand := ⟨[], some error⟩

def CommandState.push (state : CommandState) (unit : Nat) : CommandState := { state with word := state.word ++ [unit] }

/-- The units that a backslash escapes between double quotes: `$`, a backtick, `"`, a backslash and a line feed. -/
def isEscapable (unit : Nat) : Bool := [0x24, 0x60, 0x22, 0x5c, 0x0a].contains unit

def isBlankUnit (unit : Nat) : Bool := [0x20, 0x09, 0x0a].contains unit

/-- The operators of a shell: `|&;<>()`. -/
def isOperator (unit : Nat) : Bool := [0x7c, 0x26, 0x3b, 0x3c, 0x3e, 0x28, 0x29].contains unit

/-- What TypeScript `parseCommandLine` returns at the end of the input. -/
def CommandState.finish (state : CommandState) : ParsedCommand :=
  match state.quote with
  | some .single => .refused "Close the single quote."
  | some .double => .refused "Close the double quote."
  | none => ⟨if state.started then state.words ++ [state.word] else state.words, none⟩

/-- The loop of TypeScript `parseCommandLine`. -/
def parseLoop : Utf16 → CommandState → ParsedCommand
  | [], state => state.finish
  | character :: rest, state =>
    if character = 0 then .refused "Commands cannot contain null characters."
    else if state.quote = some .single then
      if character = 0x27 then parseLoop rest { state with quote := none } else parseLoop rest (state.push character)
    else if character = 0x5c then
      match rest with
      | [] => .refused "Finish the escape after the backslash."
      | next :: others =>
        if state.quote = some .double ∧ !isEscapable next then parseLoop (next :: others) (state.push character)
        else if next = 0x0a then parseLoop others state
        else parseLoop others { state.push next with started := true }
    else if state.quote = some .double then
      if character = 0x22 then parseLoop rest { state with quote := none } else parseLoop rest (state.push character)
    else if character = 0x27 then parseLoop rest { state with quote := some .single, started := true }
    else if character = 0x22 then parseLoop rest { state with quote := some .double, started := true }
    else if isBlankUnit character then
      if state.started then parseLoop rest { state with words := state.words ++ [state.word], word := [], started := false }
      else parseLoop rest state
    else if isOperator character then
      .refused "Shell operators require an explicit shell, for example sh -c 'command | other'."
    else parseLoop rest { state.push character with started := true }

/-- TypeScript `parseCommandLine`. -/
def parseCommandLine (input : Utf16) : ParsedCommand := parseLoop input ⟨[], [], false, none⟩

/-- The units of a word that needs no quotes: letters, digits and `_./:@%+=,-`. -/
def isPlainUnit (unit : Nat) : Bool :=
  (0x61 ≤ unit && unit ≤ 0x7a) || (0x41 ≤ unit && unit ≤ 0x5a) || (0x30 ≤ unit && unit ≤ 0x39) ||
    [0x5f, 0x2e, 0x2f, 0x3a, 0x40, 0x25, 0x2b, 0x3d, 0x2c, 0x2d].contains unit

def quoteUnits (word : Utf16) : Utf16 :=
  word.flatMap fun unit => if unit = 0x27 then [0x27, 0x5c, 0x27, 0x27] else [unit]

/-- One word of TypeScript `formatCommandLine`. -/
def formatWord (word : Utf16) : Utf16 :=
  if !word.isEmpty && word.all isPlainUnit then word else 0x27 :: quoteUnits word ++ [0x27]

/-- TypeScript `formatCommandLine`. -/
def formatCommandLine (program : Utf16) (args : List Utf16) : Utf16 :=
  if program.isEmpty && args.isEmpty then [] else [0x20].intercalate ((program :: args).map formatWord)

/-! ### One word -/

lemma parseLoop_cons (character : Nat) (rest : Utf16) (state : CommandState) :
    parseLoop (character :: rest) state =
      if character = 0 then .refused "Commands cannot contain null characters."
      else if state.quote = some .single then
        if character = 0x27 then parseLoop rest { state with quote := none } else parseLoop rest (state.push character)
      else if character = 0x5c then
        match rest with
        | [] => .refused "Finish the escape after the backslash."
        | next :: others =>
          if state.quote = some .double ∧ !isEscapable next then parseLoop (next :: others) (state.push character)
          else if next = 0x0a then parseLoop others state
          else parseLoop others { state.push next with started := true }
      else if state.quote = some .double then
        if character = 0x22 then parseLoop rest { state with quote := none } else parseLoop rest (state.push character)
      else if character = 0x27 then parseLoop rest { state with quote := some .single, started := true }
      else if character = 0x22 then parseLoop rest { state with quote := some .double, started := true }
      else if isBlankUnit character then
        if state.started then
          parseLoop rest { state with words := state.words ++ [state.word], word := [], started := false }
        else parseLoop rest state
      else if isOperator character then
        .refused "Shell operators require an explicit shell, for example sh -c 'command | other'."
      else parseLoop rest { state.push character with started := true } := by
  rw [parseLoop.eq_def]
  rfl

variable {state : CommandState} {rest word : Utf16} {unit : Nat} {words : List Utf16}

def CommandState.extend (state : CommandState) (word : Utf16) : CommandState :=
  { state with word := state.word ++ word, started := true }

lemma parseLoop_plainUnit (unquoted : state.quote = none) (plain : isPlainUnit unit) :
    parseLoop (unit :: rest) state = parseLoop rest (state.extend [unit]) := by
  have special : unit ≠ 0 ∧ unit ≠ 0x5c ∧ unit ≠ 0x27 ∧ unit ≠ 0x22 ∧ isBlankUnit unit = false ∧
      isOperator unit = false := by
    simp [isPlainUnit] at plain
    simp [isBlankUnit, isOperator]
    omega
  obtain ⟨null, backslash, single, double, blank, operator⟩ := special
  rw [parseLoop_cons, if_neg null, unquoted, if_neg (by decide), if_neg backslash, if_neg (by decide), if_neg single,
    if_neg double,
    blank, operator]
  rfl

lemma parseLoop_plain (unquoted : state.quote = none) (plain : word.all isPlainUnit) (ne : word ≠ []) :
    parseLoop (word ++ rest) state = parseLoop rest (state.extend word) := by
  induction word generalizing state with
  | nil => exact absurd rfl ne
  | cons unit word ih =>
    simp only [List.all_cons, Bool.and_eq_true] at plain
    rw [List.cons_append, parseLoop_plainUnit unquoted plain.1]
    cases word with
    | nil => rfl
    | cons next word =>
      have others : parseLoop (next :: word ++ rest) (state.extend [unit]) = _ :=
        ih unquoted plain.2 (List.cons_ne_nil _ _)
      rw [others, CommandState.extend, CommandState.extend, CommandState.extend]
      dsimp only
      rw [List.append_assoc, List.singleton_append]

/-- Inside single quotes every unit but the quote stands for itself. -/
lemma parseLoop_inside (quoted : state.quote = some .single) (null : unit ≠ 0) (single : unit ≠ 0x27) :
    parseLoop (unit :: rest) state = parseLoop rest (state.push unit) := by
  rw [parseLoop_cons, if_neg null, if_pos quoted, if_neg single]

lemma parseLoop_close (quoted : state.quote = some .single) :
    parseLoop (0x27 :: rest) state = parseLoop rest { state with quote := none } := by
  rw [parseLoop_cons, if_neg (by decide), if_pos quoted, if_pos rfl]

lemma parseLoop_open (unquoted : state.quote = none) :
    parseLoop (0x27 :: rest) state = parseLoop rest { state with quote := some .single, started := true } := by
  rw [parseLoop_cons, if_neg (by decide), unquoted, if_neg (by decide), if_neg (by decide), if_neg (by decide),
    if_pos rfl]

/-- A single quote that is closed, escaped and opened again stands for itself. -/
lemma parseLoop_escaped (quoted : state.quote = some .single) (started : state.started) :
    parseLoop (0x27 :: 0x5c :: 0x27 :: 0x27 :: rest) state = parseLoop rest (state.push 0x27) := by
  have escape : ∀ {state : CommandState}, state.quote = none →
      parseLoop (0x5c :: 0x27 :: 0x27 :: rest) state =
        parseLoop (0x27 :: rest) { state.push 0x27 with started := true } := by
    intro state unquoted
    rw [parseLoop_cons, if_neg (by decide), unquoted, if_neg (by decide), if_pos rfl]
    dsimp only
    rw [if_neg (by decide), if_neg (by decide)]
  rw [parseLoop_close quoted, escape rfl, parseLoop_open rfl]
  cases state
  cases quoted
  cases started
  rfl

lemma parseLoop_quoted (quoted : state.quote = some .single) (started : state.started) (noNull : 0 ∉ word) :
    parseLoop (quoteUnits word ++ 0x27 :: rest) state =
      parseLoop rest { state with word := state.word ++ word, quote := none } := by
  induction word generalizing state with
  | nil =>
    rw [List.append_nil]
    exact parseLoop_close quoted
  | cons unit word ih =>
    rw [List.mem_cons, not_or] at noNull
    have others : parseLoop (quoteUnits word ++ 0x27 :: rest) (state.push unit) = _ :=
      ih quoted started noNull.2
    have joined : state.word ++ unit :: word = (state.push unit).word ++ word := (List.append_cons ..)
    rw [joined]
    refine Eq.trans ?_ others
    by_cases single : unit = 0x27
    · subst single
      exact parseLoop_escaped quoted started
    · rw [quoteUnits, List.flatMap_cons, if_neg single]
      exact parseLoop_inside quoted (Ne.symm noNull.1) single

/-- A formatted word is read back wherever it stands. -/
lemma parseLoop_formatWord (unquoted : state.quote = none) (noNull : 0 ∉ word) :
    parseLoop (formatWord word ++ rest) state = parseLoop rest (state.extend word) := by
  unfold formatWord
  split
  case isTrue plain =>
    rw [Bool.and_eq_true, Bool.not_eq_true', List.isEmpty_eq_false_iff] at plain
    exact parseLoop_plain unquoted plain.2 plain.1
  case isFalse =>
    rw [List.cons_append, List.cons_append, List.append_assoc, List.singleton_append, parseLoop_open unquoted,
      parseLoop_quoted rfl rfl noNull, ← unquoted]
    rfl

/-! ### The command -/

lemma parseLoop_blank (unquoted : state.quote = none) (started : state.started) :
    parseLoop (0x20 :: rest) state =
      parseLoop rest { state with words := state.words ++ [state.word], word := [], started := false } := by
  rw [parseLoop_cons, if_neg (by decide), unquoted, if_neg (by decide), if_neg (by decide), if_neg (by decide),
    if_neg (by decide),
    if_neg (by decide), if_pos (by decide), if_pos started]

lemma parseLoop_words (unquoted : state.quote = none) (fresh : state.word = []) (ne : words ≠ [])
    (noNull : ∀ word ∈ words, 0 ∉ word) :
    parseLoop ([0x20].intercalate (words.map formatWord)) state = ⟨state.words ++ words, none⟩ := by
  induction words generalizing state with
  | nil => exact absurd rfl ne
  | cons word words ih =>
    obtain ⟨here, others⟩ := List.forall_mem_cons.1 noNull
    have extended : (state.extend word).word = word := by rw [CommandState.extend, fresh, List.nil_append]
    cases words with
    | nil =>
      have alone : parseLoop (formatWord word ++ []) state = _ := parseLoop_formatWord unquoted here
      rw [List.append_nil] at alone
      rw [List.map_singleton, List.intercalate_singleton, alone, parseLoop, CommandState.finish,
        show (state.extend word).quote = none from unquoted, extended]
      rfl
    | cons next words =>
      have behind : parseLoop (0x20 :: [0x20].intercalate ((next :: words).map formatWord)) (state.extend word) =
          parseLoop ([0x20].intercalate ((next :: words).map formatWord))
            ⟨state.words ++ [word], [], false, none⟩ := by
        have blank : parseLoop (0x20 :: [0x20].intercalate ((next :: words).map formatWord)) (state.extend word) = _ :=
          parseLoop_blank unquoted rfl
        rw [blank, extended, show (state.extend word).quote = none from unquoted]
        rfl
      have read : parseLoop ([0x20].intercalate ((next :: words).map formatWord))
          ⟨state.words ++ [word], [], false, none⟩ = _ :=
        ih rfl rfl (List.cons_ne_nil _ _) others
      rw [List.map_cons, List.map_cons, List.intercalate_cons_cons, List.append_assoc, List.singleton_append,
        parseLoop_formatWord unquoted here, ← List.map_cons, behind, read]
      rw [List.append_assoc, List.singleton_append]

/-- The words read so far have no null character. -/
def CommandState.NoNull (state : CommandState) : Prop := 0 ∉ state.word ∧ ∀ word ∈ state.words, 0 ∉ word

lemma CommandState.NoNull.push (fine : state.NoNull) (null : unit ≠ 0) : (state.push unit).NoNull := by
  refine ⟨fun mem => ?_, fine.2⟩
  rcases List.mem_append.1 mem with mem | mem
  · exact fine.1 mem
  · exact null (List.mem_singleton.1 mem).symm

lemma CommandState.NoNull.concat (fine : state.NoNull) : ∀ word ∈ state.words ++ [state.word], 0 ∉ word := by
  intro word mem
  rcases List.mem_append.1 mem with mem | mem
  · exact fine.2 word mem
  · exact List.mem_singleton.1 mem ▸ fine.1

lemma CommandState.NoNull.finish (fine : state.NoNull) : ∀ word ∈ state.finish.words, 0 ∉ word := by
  unfold CommandState.finish
  split
  case h_1 | h_2 => exact fun word mem => absurd mem List.not_mem_nil
  case h_3 =>
    split
    case isTrue => exact fine.concat
    case isFalse => exact fine.2

/-- A null character in a word comes from the input. -/
lemma parseLoop_noNull {input : Utf16} (noNull : 0 ∉ input) (fine : state.NoNull) :
    ∀ word ∈ (parseLoop input state).words, 0 ∉ word := by
  -- The cases of the loop: a unit is refused, pushed, or only changes the quote or ends a word.
  fun_induction parseLoop input state with
  | case1 state => exact fine.finish
  | case2 | case5 | case15 => exact fun word mem => absurd mem List.not_mem_nil
  | case3 _ _ _ _ ih | case9 _ _ _ _ _ _ ih | case11 _ _ _ _ _ _ ih | case12 _ _ _ _ _ _ _ ih =>
    exact ih (List.not_mem_of_not_mem_cons noNull) fine
  | case14 _ _ _ _ _ _ _ _ _ _ _ ih => exact ih (List.not_mem_of_not_mem_cons noNull) fine
  | case4 _ _ _ null _ _ ih | case10 _ _ _ null _ _ _ _ ih | case16 _ _ _ null _ _ _ _ _ _ _ ih =>
    exact ih (List.not_mem_of_not_mem_cons noNull) (fine.push null)
  | case6 _ _ _ _ _ null ih => exact ih (List.not_mem_of_not_mem_cons noNull) (fine.push null)
  | case7 _ _ _ _ _ ih => exact ih (List.not_mem_of_not_mem_cons (List.not_mem_of_not_mem_cons noNull)) fine
  | case8 _ _ next _ _ _ _ ih =>
    rw [List.mem_cons, List.mem_cons, not_or, not_or] at noNull
    exact ih noNull.2.2 (fine.push (Ne.symm noNull.2.1))
  | case13 _ _ _ _ _ _ _ _ _ _ _ ih =>
    exact ih (List.not_mem_of_not_mem_cons noNull) ⟨List.not_mem_nil, fine.concat⟩

def formatWords (words : List Utf16) : Utf16 := formatCommandLine (words.head?.getD []) words.tail

lemma parseCommandLine_words (ne : words ≠ []) (noNull : ∀ word ∈ words, 0 ∉ word) :
    parseCommandLine ([0x20].intercalate (words.map formatWord)) = ⟨words, none⟩ := by
  rw [parseCommandLine, parseLoop_words rfl rfl ne noNull, List.nil_append]

/-- **A command survives the editor.** The formatted command parses as its words, and a command line without null
characters parses as the text that its own words give, unless it is one empty word, which is no command. -/
theorem parseCommandLine_formatCommandLine :
    (∀ program args, program ≠ [] ∨ args ≠ [] → (∀ word ∈ program :: args, 0 ∉ word) →
      parseCommandLine (formatCommandLine program args) = ⟨program :: args, none⟩) ∧
    (∀ input words, parseCommandLine input = ⟨words, none⟩ → 0 ∉ input → words ≠ [[]] →
      parseCommandLine (formatWords words) = ⟨words, none⟩) := by
  have formatted : ∀ program args, program ≠ [] ∨ args ≠ [] → (∀ word ∈ program :: args, 0 ∉ word) →
      parseCommandLine (formatCommandLine program args) = ⟨program :: args, none⟩ := by
    intro program args given noNull
    have shown : (program.isEmpty && args.isEmpty) = false := by
      rw [Bool.and_eq_false_iff, List.isEmpty_eq_false_iff, List.isEmpty_eq_false_iff]
      exact given
    rw [formatCommandLine, shown]
    exact parseCommandLine_words (List.cons_ne_nil _ _) noNull
  refine ⟨formatted, fun input words parsed noNull command => ?_⟩
  cases words with
  | nil => rfl
  | cons program args =>
    refine formatted program args ?_ fun word mem => ?_
    · by_contra empty
      rw [not_or, not_ne_iff, not_ne_iff] at empty
      exact command (by rw [empty.1, empty.2])
    · have fine : CommandState.NoNull ⟨[], [], false, none⟩ :=
        ⟨List.not_mem_nil, fun word mem => absurd mem List.not_mem_nil⟩
      have kept : ∀ word ∈ (parseCommandLine input).words, 0 ∉ word := parseLoop_noNull noNull fine
      rw [parsed] at kept
      exact kept word mem

/-- `sh ""`, typed as `s"h" ''`, at both halves. -/
theorem parseCommandLine_formatCommandLine_sh :
    parseCommandLine (formatCommandLine [0x73, 0x68] [[]]) = ⟨[[0x73, 0x68], []], none⟩ ∧
    parseCommandLine (formatWords [[0x73, 0x68], []]) = ⟨[[0x73, 0x68], []], none⟩ :=
  ⟨parseCommandLine_formatCommandLine.1 [0x73, 0x68] [[]] (by decide) (by decide),
    parseCommandLine_formatCommandLine.2 [0x73, 0x22, 0x68, 0x22, 0x20, 0x27, 0x27] [[0x73, 0x68], []]
      rfl (by decide) (by decide)⟩

/-- `''` is one empty word, and formats as no command. -/
theorem parseCommandLine_emptyWord :
    parseCommandLine [0x27, 0x27] = ⟨[[]], none⟩ ∧ parseCommandLine (formatWords [[]]) = ⟨[], none⟩ :=
  ⟨rfl, rfl⟩

end Ctl.Desktop
