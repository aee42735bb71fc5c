import Mathlib.Data.List.DropRight
import Mathlib.Tactic.Common

/-!
# Texts as UTF-16

A JavaScript string is a list of UTF-16 code units. Iterating it gives its code points (`codePoints`), a surrogate
pair as one of them. The string of a text has one code point for each character (`codePoints_utf16`), so what is
done code point by code point is done character by character.
-/

namespace Ctl.Base

/-- A string of code units (JavaScript `String`). -/
abbrev Utf16 := List Nat

variable (text : List Char) (c : Char)

def utf16Char : Utf16 :=
  if c.toNat < 0x10000 then [c.toNat]
  else [0xd800 + (c.toNat - 0x10000) / 0x400, 0xdc00 + (c.toNat - 0x10000) % 0x400]

def utf16 : Utf16 := text.flatMap utf16Char

def isHighSurrogate (unit : Nat) : Bool := 0xd800 ≤ unit && unit < 0xdc00

def isLowSurrogate (unit : Nat) : Bool := 0xdc00 ≤ unit && unit < 0xe000

/-- The code points of a string, each as a string (JavaScript `[...text]`). -/
def codePoints : Utf16 → List Utf16
  | [] => []
  | [unit] => [[unit]]
  | high :: low :: rest =>
    if isHighSurrogate high && isLowSurrogate low then [high, low] :: codePoints rest
    else [high] :: codePoints (low :: rest)

def codePoint : Utf16 → Nat
  | [high, low] => 0x10000 + (high - 0xd800) * 0x400 + (low - 0xdc00)
  | [unit] => unit
  | _ => 0

/-! ### Characters -/

lemma valid_toNat : c.toNat < 0xd800 ∨ 0xdfff < c.toNat ∧ c.toNat < 0x110000 := c.valid

lemma utf16Char_of_lt {c : Char} (basic : c.toNat < 0x10000) : utf16Char c = [c.toNat] := if_pos basic

lemma codePoint_utf16Char : codePoint (utf16Char c) = c.toNat := by
  unfold utf16Char
  split
  case isTrue => rfl
  case isFalse high =>
    show 0x10000 + (0xd800 + (c.toNat - 0x10000) / 0x400 - 0xd800) * 0x400 +
      (0xdc00 + (c.toNat - 0x10000) % 0x400 - 0xdc00) = c.toNat
    omega

lemma mem_utf16Char {c : Char} {unit : Nat} (mem : unit ∈ utf16Char c) :
    (unit = c.toNat ∧ c.toNat < 0x10000) ∨ (0xd800 ≤ unit ∧ 0x10000 ≤ c.toNat) := by
  unfold utf16Char at mem
  split at mem
  case isTrue basic => exact .inl ⟨List.mem_singleton.1 mem, basic⟩
  case isFalse high =>
    simp only [List.mem_cons, List.not_mem_nil, or_false] at mem
    right
    omega

/-! ### Texts -/

@[simp] lemma utf16_nil : utf16 [] = [] := rfl

@[simp] lemma utf16_cons (text : List Char) : utf16 (c :: text) = utf16Char c ++ utf16 text := rfl

@[simp] lemma utf16_append (first last : List Char) : utf16 (first ++ last) = utf16 first ++ utf16 last :=
  List.flatMap_append

lemma flatten_map_utf16Char : (text.map utf16Char).flatten = utf16 text := by
  rw [utf16, List.flatMap_def]

lemma codePoints_append (rest : Utf16) : codePoints (utf16Char c ++ rest) = utf16Char c :: codePoints rest := by
  have valid := valid_toNat c
  unfold utf16Char
  split
  case isTrue basic =>
    -- A basic character is no half of a pair.
    have single : isHighSurrogate c.toNat = false := by
      unfold isHighSurrogate
      rw [Bool.and_eq_false_iff, decide_eq_false_iff_not, decide_eq_false_iff_not]
      omega
    cases rest with
    | nil => rfl
    | cons next rest =>
      rw [List.singleton_append, codePoints, single]
      rfl
  case isFalse high =>
    have first : isHighSurrogate (0xd800 + (c.toNat - 0x10000) / 0x400) = true := by
      unfold isHighSurrogate
      rw [Bool.and_eq_true, decide_eq_true_eq, decide_eq_true_eq]
      omega
    have second : isLowSurrogate (0xdc00 + (c.toNat - 0x10000) % 0x400) = true := by
      unfold isLowSurrogate
      rw [Bool.and_eq_true, decide_eq_true_eq, decide_eq_true_eq]
      omega
    show codePoints (_ :: _ :: rest) = _
    rw [codePoints, first, second]
    rfl

theorem codePoints_utf16 : codePoints (utf16 text) = text.map utf16Char := by
  induction text with
  | nil => rfl
  | cons c text ih => rw [utf16_cons, codePoints_append, ih, List.map_cons]

lemma any_utf16 {p : Nat → Bool} (basic : ∀ unit, 0xd800 ≤ unit → p unit = false) (text : List Char) :
    (utf16 text).any p = text.any fun c => p c.toNat := by
  induction text with
  | nil => rfl
  | cons c text ih =>
    have own : (utf16Char c).any p = p c.toNat := by
      by_cases small : c.toNat < 0x10000
      · rw [utf16Char_of_lt small, List.any_cons, List.any_nil, Bool.or_false]
      · rw [basic c.toNat (by omega), List.any_eq_false]
        intro unit mem
        have outside := mem_utf16Char mem
        rw [basic unit (by omega)]
        exact Bool.false_ne_true
    rw [utf16_cons, List.any_append, own, ih, List.any_cons]

end Ctl.Base
