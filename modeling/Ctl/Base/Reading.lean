import Mathlib.Data.List.Infix
import Mathlib.Tactic.Common

/-!
# Texts that are read back

Numbers in decimal digits, texts with one separator and texts of words, with what the standard library's parsers
read from them: `parseNat_digits`, `splitOnce_append` and `words_intercalate`.
-/

namespace Ctl.Base

/-- A statement about the characters of a text is decided along the text, not over all characters. -/
instance (priority := high) decidableForallMem {P : Char → Prop} [DecidablePred P] (text : List Char) :
    Decidable (∀ c ∈ text, P c) :=
  List.decidableBAll P text

/-! ### Decimal numbers -/

/-- A number in decimal digits (Rust `to_string` of an unsigned number). -/
def digits (n : Nat) : List Char := Nat.toDigits 10 n

/-- The number that digits stand for, after `value`, below a bound. -/
def parseDigits (bound : Nat) : Nat → List Char → Option Nat
  | value, [] => some value
  | value, c :: rest =>
    if c.isDigit ∧ value * 10 + (c.toNat - 48) < bound then parseDigits bound (value * 10 + (c.toNat - 48)) rest
    else none

/-- Rust `str::parse` for an unsigned number below a bound: there may be a plus sign in front of the digits. -/
def parseNat (bound : Nat) : List Char → Option Nat
  | [] => none
  | ['+'] => none
  | '+' :: digits => parseDigits bound 0 digits
  | digits => parseDigits bound 0 digits

lemma parseDigits_append (bound value : Nat) (first last : List Char) :
    parseDigits bound value (first ++ last) = (parseDigits bound value first).bind (parseDigits bound · last) := by
  induction first generalizing value with
  | nil => rfl
  | cons c first ih =>
    rw [List.cons_append, parseDigits, parseDigits]
    split
    · exact ih _
    · rfl

lemma digitChar_spec : ∀ d < 10, (Nat.digitChar d).isDigit = true ∧ (Nat.digitChar d).toNat - 48 = d := by
  decide

variable {n : Nat} {bound : Nat} {separator before : List Char} {texts : List (List Char)}

lemma parseDigits_digits (small : n < bound) : parseDigits bound 0 (digits n) = some n := by
  induction n using Nat.strong_induction_on with
  | h n ih =>
    unfold digits at *
    rw [Nat.toDigits_eq_if (by decide)]
    split
    case isTrue one =>
      obtain ⟨digit, value⟩ := digitChar_spec n one
      rw [parseDigits, value, Nat.zero_mul, Nat.zero_add, if_pos ⟨digit, small⟩]
      rfl
    case isFalse more =>
      obtain ⟨digit, value⟩ := digitChar_spec (n % 10) (Nat.mod_lt _ (by decide))
      have whole : n / 10 * 10 + n % 10 = n := Nat.div_add_mod' n 10
      rw [parseDigits_append, ih (n / 10) (by omega) (by omega), Option.bind_some, parseDigits, value, whole,
        if_pos ⟨digit, small⟩]
      rfl

lemma digits_isDigit : ∀ c ∈ digits n, c.isDigit = true :=
  fun _ mem => Nat.isDigit_of_mem_toDigits (by decide) (by decide) mem

lemma digits_ne_nil : digits n ≠ [] := Nat.toDigits_ne_nil

lemma parseNat_digits (small : n < bound) : parseNat bound (digits n) = some n := by
  have read := parseDigits_digits small
  obtain ⟨c, rest, eq⟩ := List.exists_cons_of_ne_nil (digits_ne_nil (n := n))
  have digit : c.isDigit = true := digits_isDigit c (eq ▸ List.mem_cons_self)
  have unsigned : c ≠ '+' := fun same => absurd digit (by rw [same]; decide)
  rw [eq] at read ⊢
  unfold parseNat
  split
  case h_1 empty => cases empty
  case h_2 plus => exact absurd (List.cons.inj plus).1 unsigned
  case h_3 plus => exact absurd (List.cons.inj plus).1 unsigned
  case h_4 => exact read

/-! ### One separator -/

/-- The parts around the first occurrence of a separator (Rust `str::split_once`). -/
def splitOnce (separator : List Char) : List Char → Option (List Char × List Char)
  | [] => if separator.isEmpty then some ([], []) else none
  | c :: rest =>
    if separator.isPrefixOf (c :: rest) then some ([], (c :: rest).drop separator.length)
    else (splitOnce separator rest).map fun parts => (c :: parts.1, parts.2)

lemma splitOnce_eq {text after : List Char} (split : splitOnce separator text = some (before, after)) :
    text = before ++ separator ++ after := by
  induction text generalizing before with
  | nil =>
    rw [splitOnce] at split
    split at split
    case isTrue empty =>
      cases split
      rw [List.isEmpty_iff.1 empty]
      rfl
    case isFalse => cases split
  | cons c rest ih =>
    rw [splitOnce] at split
    split at split
    case isTrue here =>
      obtain ⟨tail, whole⟩ := List.isPrefixOf_iff_prefix.1 here
      cases split
      rw [← whole, List.drop_left, List.nil_append]
    case isFalse =>
      obtain ⟨parts, later, eq⟩ := Option.map_eq_some_iff.1 split
      cases eq
      rw [ih later]
      rfl

lemma splitOnce_append {front : List Char} {last : Char} (own : last ∉ front) {before : List Char}
    (apart : last ∉ before) (after : List Char) :
    splitOnce (front ++ [last]) (before ++ (front ++ [last]) ++ after) = some (before, after) := by
  induction before with
  | nil =>
    have here : (front ++ [last]).isPrefixOf (front ++ [last] ++ after) = true :=
      List.isPrefixOf_iff_prefix.2 (List.prefix_append _ _)
    have cut : (front ++ [last] ++ after).drop (front ++ [last]).length = after := List.drop_left
    rw [List.nil_append]
    cases whole : front ++ [last] ++ after with
    | nil => simp at whole
    | cons c rest =>
      rw [whole] at here cut
      rw [splitOnce, if_pos here, cut]
  | cons c before ih =>
    rw [List.mem_cons, not_or] at apart
    have later : ¬ (front ++ [last]).isPrefixOf (c :: (before ++ (front ++ [last]) ++ after)) = true := by
      intro found
      have long : front ++ [last] <+: c :: before ++ front := by
        have along : c :: before ++ front <+: c :: (before ++ (front ++ [last]) ++ after) := ⟨last :: after, by simp⟩
        refine List.prefix_of_prefix_length_le (List.isPrefixOf_iff_prefix.1 found) along ?_
        simp only [List.length_append, List.length_cons, List.length_nil]
        omega
      have mem : last ∈ c :: before ++ front := long.subset (by simp)
      simp only [List.cons_append, List.mem_cons, List.mem_append] at mem
      rcases mem with same | mem | mem
      · exact apart.1 same
      · exact apart.2 mem
      · exact own mem
    show splitOnce _ (c :: (before ++ (front ++ [last]) ++ after)) = _
    rw [splitOnce, if_neg later, ih apart.2]
    rfl

lemma splitOnce_char {last : Char} (apart : last ∉ before) (after : List Char) :
    splitOnce [last] (before ++ last :: after) = some (before, after) := by
  have split : splitOnce ([] ++ [last]) (before ++ ([] ++ [last]) ++ after) = some (before, after) :=
    splitOnce_append List.not_mem_nil apart after
  rw [List.nil_append, List.append_assoc] at split
  exact split

/-! ### Words -/

/-- The parts between separators that are not empty (Rust `split_whitespace`, with the white space as a
    parameter). -/
def words (isSeparator : Char → Bool) (text : List Char) : List (List Char) :=
  (text.splitOnP isSeparator).filter (· ≠ [])

lemma intercalate_append {separator : List Char} {first last : List (List Char)} (some : first ≠ [])
    (more : last ≠ []) :
    separator.intercalate (first ++ last) =
      separator.intercalate first ++ separator ++ separator.intercalate last := by
  induction first with
  | nil => exact absurd rfl some
  | cons text first ih =>
    cases first with
    | nil => rw [List.singleton_append, List.intercalate_cons_of_ne_nil more, List.intercalate_singleton]
    | cons next first =>
      rw [List.cons_append, List.intercalate_cons_of_ne_nil (by simp), ih (List.cons_ne_nil _ _),
        List.intercalate_cons_of_ne_nil (List.cons_ne_nil _ _)]
      simp only [List.append_assoc]

lemma forall_mem_intercalate {P : Char → Prop} (between : ∀ c ∈ separator, P c)
    (each : ∀ text ∈ texts, ∀ c ∈ text, P c) : ∀ c ∈ separator.intercalate texts, P c := by
  induction texts with
  | nil => exact fun _ mem => absurd mem List.not_mem_nil
  | cons text texts ih =>
    have rest := ih fun t mem => each t (List.mem_cons_of_mem text mem)
    cases texts with
    | nil =>
      rw [List.intercalate_singleton]
      exact each text List.mem_cons_self
    | cons next texts =>
      rw [List.intercalate_cons_of_ne_nil (List.cons_ne_nil _ _), List.forall_mem_append, List.forall_mem_append]
      exact ⟨⟨each text List.mem_cons_self, between⟩, rest⟩

lemma words_intercalate {isSeparator : Char → Bool} {separator : Char} (is : isSeparator separator = true)
    (some : ∀ text ∈ texts, text ≠ []) (clean : ∀ text ∈ texts, ∀ c ∈ text, isSeparator c = false) :
    words isSeparator ([separator].intercalate texts) = texts := by
  induction texts with
  | nil =>
    show words isSeparator [] = []
    rw [words, List.splitOnP_nil]
    rfl
  | cons text texts ih =>
    have own := clean text List.mem_cons_self
    have kept : ∀ rest : List (List Char), (text :: rest).filter (· ≠ []) = text :: rest.filter (· ≠ []) :=
      fun rest => List.filter_cons_of_pos (decide_eq_true (some text List.mem_cons_self))
    cases texts with
    | nil =>
      rw [List.intercalate_singleton, words, List.splitOnP_eq_singleton own, kept]
      rfl
    | cons next texts =>
      have rest := ih (fun t mem => some t (List.mem_cons_of_mem text mem))
        fun t mem => clean t (List.mem_cons_of_mem text mem)
      have whole : [separator].intercalate (text :: next :: texts) =
          text ++ separator :: [separator].intercalate (next :: texts) := by
        rw [List.intercalate_cons_cons, List.append_assoc]
        rfl
      rw [words] at rest ⊢
      rw [whole, List.splitOnP_append_cons_of_forall_mem own separator is, kept, rest]

end Ctl.Base
