import Mathlib.Tactic.Common

/-!
# Words of a shell command

The words of a POSIX shell command that has no expansions and no operators, and the expansion of percent tokens in
a text. A text between single quotes, each of its single quotes escaped, is read back as itself
(`shellFrom_singleQuoted`), and a text with its percent signs doubled is left by the expansion (`expandTokens_literal`).
-/

namespace Ctl.Base

/-! ### Replacing a character -/

/-- Replace a character by a text (Rust `str::replace`). -/
def replaceChar (c : Char) (replacement : List Char) (text : List Char) : List Char :=
  text.flatMap fun d => if d = c then replacement else [d]

variable {c : Char} {replacement : List Char} {d : Char} {text : List Char}

lemma replaceChar_self (text : List Char) : replaceChar c replacement (c :: text) = replacement ++ replaceChar c replacement text := by
  rw [replaceChar, List.flatMap_cons, if_pos rfl]
  rfl

lemma replaceChar_other (ne : d ≠ c) (text : List Char) :
    replaceChar c replacement (d :: text) = d :: replaceChar c replacement text := by
  rw [replaceChar, List.flatMap_cons, if_neg ne]
  rfl

lemma replaceChar_append (first last : List Char) :
    replaceChar c replacement (first ++ last) = replaceChar c replacement first ++ replaceChar c replacement last :=
  List.flatMap_append

lemma replaceChar_absent (absent : c ∉ text) : replaceChar c replacement text = text := by
  induction text with
  | nil => rfl
  | cons d text ih =>
    rw [List.mem_cons, not_or] at absent
    rw [replaceChar_other (Ne.symm absent.1), ih absent.2]

lemma replaceChar_comm {other : List Char} (ne : c ≠ d) (absent : d ∉ replacement) (absent' : c ∉ other)
    (text : List Char) :
    replaceChar d other (replaceChar c replacement text) = replaceChar c replacement (replaceChar d other text) := by
  induction text with
  | nil => rfl
  | cons e text ih =>
    by_cases first : e = c
    · subst first
      rw [replaceChar_self, replaceChar_append, replaceChar_absent absent, ih, replaceChar_other ne, replaceChar_self]
    · by_cases second : e = d
      · subst second
        rw [replaceChar_other first, replaceChar_self, replaceChar_self, replaceChar_append,
          replaceChar_absent absent', ih]
      · rw [replaceChar_other first, replaceChar_other second, replaceChar_other second, replaceChar_other first, ih]

/-! ### Percent tokens -/

/-- Expand the percent tokens of a text; two percent signs are one, and an unknown token is refused. -/
def expandTokens (tokens : Char → Option (List Char)) : List Char → Option (List Char)
  | [] => some []
  | '%' :: rest =>
    match rest with
    | [] => none
    | '%' :: rest => do
      let rest ← expandTokens tokens rest
      return '%' :: rest
    | token :: rest => do
      let value ← tokens token
      let rest ← expandTokens tokens rest
      return value ++ rest
  | c :: rest => do
    let rest ← expandTokens tokens rest
    return c :: rest

variable {tokens : Char → Option (List Char)}

lemma expandTokens_step (d : Char) (rest : List Char) :
    expandTokens tokens (d :: rest) =
      if d = '%' then
        match rest with
        | [] => none
        | token :: rest =>
          if token = '%' then (expandTokens tokens rest).map ('%' :: ·)
          else (tokens token).bind fun value => (expandTokens tokens rest).map (value ++ ·)
      else (expandTokens tokens rest).map (d :: ·) := by
  split
  case isTrue percent =>
    subst percent
    cases rest with
    | nil => rfl
    | cons token rest =>
      dsimp only
      split
      case isTrue same =>
        subst same
        show (do return '%' :: (← expandTokens tokens rest)) = _
        cases expandTokens tokens rest <;> rfl
      case isFalse ne =>
        rw [expandTokens.eq_4 _ _ _ ne]
        cases tokens token <;> cases expandTokens tokens rest <;> rfl
  case isFalse ne =>
    rw [expandTokens]
    · cases expandTokens tokens rest <;> rfl
    · exact ne

lemma expandTokens_cons (ne : d ≠ '%') (rest : List Char) :
    expandTokens tokens (d :: rest) = (expandTokens tokens rest).map (d :: ·) := by
  rw [expandTokens_step, if_neg ne]

lemma expandTokens_append (none : ∀ d ∈ text, d ≠ '%') (rest : List Char) :
    expandTokens tokens (text ++ rest) = (expandTokens tokens rest).map (text ++ ·) := by
  induction text with
  | nil => exact Option.map_id'.symm
  | cons d text ih =>
    rw [List.cons_append, expandTokens_cons (none d List.mem_cons_self),
      ih fun e mem => none e (List.mem_cons_of_mem d mem), Option.map_map]
    rfl

lemma expandTokens_token {token : Char} {value : List Char} (ne : token ≠ '%') (known : tokens token = some value)
    (rest : List Char) : expandTokens tokens ('%' :: token :: rest) = (expandTokens tokens rest).map (value ++ ·) := by
  rw [expandTokens_step, if_pos rfl]
  dsimp only
  rw [if_neg ne, known]
  rfl

theorem expandTokens_literal (text rest : List Char) :
    expandTokens tokens (replaceChar '%' ['%', '%'] text ++ rest) = (expandTokens tokens rest).map (text ++ ·) := by
  induction text with
  | nil => exact Option.map_id'.symm
  | cons d text ih =>
    by_cases percent : d = '%'
    · subst percent
      rw [replaceChar_self, List.append_assoc]
      show (do return '%' :: (← expandTokens tokens (replaceChar '%' ['%', '%'] text ++ rest))) = _
      rw [ih]
      cases expandTokens tokens rest <;> rfl
    · rw [replaceChar_other percent, List.cons_append, expandTokens_cons percent, ih, Option.map_map]
      rfl

/-! ### Words -/

/-- How a character is read: outside of quotes, or inside of them. -/
inductive Quoting where
  | bare
  | single
  | double

def isBlankChar (c : Char) : Bool := c = ' ' || c = '\t'

/-- A character outside of quotes that is an operator, or starts an expansion or a comment. -/
def isShellSpecial (c : Char) : Bool :=
  ['|', '&', ';', '<', '>', '(', ')', '$', '\x60', '*', '?', '[', '#', '~', '\n'].contains c

def needsNoQuoting (c : Char) : Bool :=
  !isBlankChar c && !isShellSpecial c && c ≠ '\'' && c ≠ '"' && c ≠ '\\'

/-- The words of a text from a place on; `word` is the word that has begun there. There are none when the text
    needs more than words: an operator, an expansion, or a quote that does not end. -/
def shellFrom : Quoting → (word : Option (List Char)) → List Char → Option (List (List Char))
  | .bare, word, [] => some word.toList
  | .bare, word, '\\' :: rest =>
    match rest with
    | [] => none
    | '\n' :: rest => shellFrom .bare word rest
    | c :: rest => shellFrom .bare (some (word.getD [] ++ [c])) rest
  | .bare, word, c :: rest =>
    if isBlankChar c then (shellFrom .bare none rest).map (word.toList ++ ·)
    else if c = '\'' then shellFrom .single (some (word.getD [])) rest
    else if c = '"' then shellFrom .double (some (word.getD [])) rest
    else if isShellSpecial c then none
    else shellFrom .bare (some (word.getD [] ++ [c])) rest
  | .single, _, [] => none
  | .single, word, c :: rest =>
    if c = '\'' then shellFrom .bare word rest else shellFrom .single (some (word.getD [] ++ [c])) rest
  | .double, _, [] => none
  | .double, word, '\\' :: rest =>
    match rest with
    | [] => none
    | '\n' :: rest => shellFrom .double word rest
    | c :: rest =>
      if c = '$' || c = '\x60' || c = '"' || c = '\\' then shellFrom .double (some (word.getD [] ++ [c])) rest
      else shellFrom .double (some (word.getD [] ++ ['\\', c])) rest
  | .double, word, c :: rest =>
    if c = '"' then shellFrom .bare word rest
    else if c = '$' || c = '\x60' then none
    else shellFrom .double (some (word.getD [] ++ [c])) rest

def shellWords (text : List Char) : Option (List (List Char)) := shellFrom .bare none text

lemma shellFrom_space (word : Option (List Char)) (rest : List Char) :
    shellFrom .bare word (' ' :: rest) = (shellFrom .bare none rest).map (word.toList ++ ·) :=
  if_pos rfl

lemma shellFrom_bare (plain : needsNoQuoting d = true) (word : Option (List Char)) (rest : List Char) :
    shellFrom .bare word (d :: rest) = shellFrom .bare (some (word.getD [] ++ [d])) rest := by
  simp only [needsNoQuoting, Bool.and_eq_true, Bool.not_eq_true', ne_eq,
    decide_not] at plain
  obtain ⟨⟨⟨⟨blank, special⟩, single⟩, double⟩, escape⟩ := plain
  rw [shellFrom]
  · rw [blank, special, if_neg Bool.false_ne_true, if_neg (by simpa using single), if_neg (by simpa using double),
      if_neg Bool.false_ne_true]
  · exact fun eq => by simp [eq] at escape

lemma shellFrom_plain (plain : ∀ d ∈ text, needsNoQuoting d = true) (word rest : List Char) :
    shellFrom .bare (some word) (text ++ rest) = shellFrom .bare (some (word ++ text)) rest := by
  induction text generalizing word with
  | nil => rw [List.nil_append, List.append_nil]
  | cons d text ih =>
    rw [List.cons_append, shellFrom_bare (plain d List.mem_cons_self)]
    show shellFrom .bare (some (word ++ [d])) _ = _
    rw [ih (fun e mem => plain e (List.mem_cons_of_mem d mem)), List.append_assoc]
    rfl

lemma shellFrom_word (plain : ∀ d ∈ text, needsNoQuoting d = true) (present : text ≠ []) (rest : List Char) :
    shellFrom .bare none (text ++ rest) = shellFrom .bare (some text) rest := by
  obtain ⟨d, text, rfl⟩ := List.exists_cons_of_ne_nil present
  rw [List.cons_append, shellFrom_bare (plain d List.mem_cons_self)]
  exact shellFrom_plain (fun e mem => plain e (List.mem_cons_of_mem d mem)) [d] rest

lemma shellFrom_closing (word : List Char) (rest : List Char) :
    shellFrom .single (some word) ('\'' :: rest) = shellFrom .bare (some word) rest :=
  if_pos rfl

lemma shellFrom_singleQuoted (text word rest : List Char) :
    shellFrom .single (some word) (replaceChar '\'' ['\'', '\\', '\'', '\''] text ++ '\'' :: rest) =
      shellFrom .bare (some (word ++ text)) rest := by
  induction text generalizing word with
  | nil =>
    rw [List.append_nil]
    exact shellFrom_closing word rest
  | cons d text ih =>
    by_cases quote : d = '\''
    · subst quote
      rw [replaceChar_self, List.append_assoc]
      show shellFrom .single (some word)
        ('\'' :: '\\' :: '\'' :: '\'' :: (replaceChar '\'' ['\'', '\\', '\'', '\''] text ++ '\'' :: rest)) = _
      rw [shellFrom_closing]
      -- The quote outside of the quotes, and the quote that opens them again.
      show shellFrom .single (some (word ++ ['\''])) _ = _
      rw [ih, List.append_assoc]
      rfl
    · rw [replaceChar_other quote, List.cons_append]
      show (if d = '\'' then _ else shellFrom .single (some (word ++ [d])) _) = _
      rw [if_neg quote]
      rw [ih, List.append_assoc]
      rfl

theorem shellFrom_quoted (text rest : List Char) :
    shellFrom .bare none ('\'' :: (replaceChar '\'' ['\'', '\\', '\'', '\''] text ++ '\'' :: rest)) =
      shellFrom .bare (some text) rest := by
  show shellFrom .single (some []) _ = _
  exact shellFrom_singleQuoted text [] rest

end Ctl.Base
