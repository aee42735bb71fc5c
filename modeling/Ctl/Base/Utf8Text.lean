import Ctl.Base.Utf8
import Mathlib.Tactic.Common

/-!
# Texts as UTF-8

The bytes of a text, and the text of bytes that are valid UTF-8: a text is read back from its bytes
(`textOf_utf8Bytes`).
-/

namespace Ctl.Base

/-- The bytes of a text (Rust `str::as_bytes`). -/
def utf8Bytes (text : List Char) : List UInt8 := text.flatMap String.utf8EncodeChar

/-- The text of bytes (Rust `str::from_utf8`). -/
def textOf (bytes : List UInt8) : Option (List Char) :=
  match fromUtf8 bytes.length bytes with
  | (text, _, .complete) => some text
  | _ => none

lemma toNat_ofNat {n : Nat} (small : n < 256) : (UInt8.ofNat n).toNat = n := by
  rw [UInt8.toNat_ofNat', Nat.mod_eq_of_lt small]

variable {b lead : UInt8} {c : UInt8}

lemma isContinuation_of (h : 0x80 ≤ b.toNat ∧ b.toNat < 0xc0) : isContinuation b = true := by
  rw [isContinuation, Bool.and_eq_true, decide_eq_true_eq, decide_eq_true_eq, UInt8.le_iff_toNat_le,
    UInt8.le_iff_toNat_le]
  exact ⟨h.1, Nat.le_of_lt_succ h.2⟩

lemma utf8Width_of {n : Nat}
    (h : (lead.toNat < 0x80 ∧ n = 1) ∨ (0xc2 ≤ lead.toNat ∧ lead.toNat ≤ 0xdf ∧ n = 2) ∨
      (0xe0 ≤ lead.toNat ∧ lead.toNat ≤ 0xef ∧ n = 3) ∨ (0xf0 ≤ lead.toNat ∧ lead.toNat ≤ 0xf4 ∧ n = 4)) :
    utf8Width lead = n := by
  rw [utf8Width]
  simp only [Bool.and_eq_true, decide_eq_true_eq, UInt8.le_iff_toNat_le, UInt8.lt_iff_toNat_lt, UInt8.reduceToNat]
  split_ifs <;> omega

lemma isSecond_of (continues : 0x80 ≤ b.toNat ∧ b.toNat < 0xc0) (low : lead.toNat = 0xe0 → 0xa0 ≤ b.toNat)
    (surrogate : lead.toNat = 0xed → b.toNat ≤ 0x9f) (small : lead.toNat = 0xf0 → 0x90 ≤ b.toNat)
    (large : lead.toNat = 0xf4 → b.toNat ≤ 0x8f) : isSecond lead b = true := by
  rw [isSecond, isContinuation_of continues]
  simp only [← UInt8.toNat_inj, UInt8.reduceToNat]
  split_ifs <;> simp only [Bool.and_eq_true, decide_eq_true_eq, UInt8.le_iff_toNat_le, UInt8.reduceToNat] <;> omega

lemma utf8Head_one (width : utf8Width lead = 1) (rest : List UInt8) :
    utf8Head lead rest = .char (Char.ofNat lead.toNat) 1 := by
  delta utf8Head
  rw [width]
  rfl

lemma utf8Head_two (width : utf8Width lead = 2) (second : isSecond lead b = true) (rest : List UInt8) :
    utf8Head lead (b :: rest) = .char (Char.ofNat (lead.toNat % 32 * 64 + lowBits b)) 2 := by
  delta utf8Head
  rw [width]
  exact if_pos second

lemma utf8Head_three (width : utf8Width lead = 3) (second : isSecond lead b = true) (third : isContinuation c = true)
    (rest : List UInt8) :
    utf8Head lead (b :: c :: rest) =
      .char (Char.ofNat (lead.toNat % 16 * 4096 + lowBits b * 64 + lowBits c)) 3 := by
  delta utf8Head
  rw [width]
  dsimp only
  rw [second, third]
  rfl

lemma utf8Head_four {d : UInt8} (width : utf8Width lead = 4) (second : isSecond lead b = true)
    (third : isContinuation c = true) (fourth : isContinuation d = true) (rest : List UInt8) :
    utf8Head lead (b :: c :: d :: rest) =
      .char (Char.ofNat (lead.toNat % 8 * 262144 + lowBits b * 4096 + lowBits c * 64 + lowBits d)) 4 := by
  delta utf8Head
  rw [width]
  dsimp only
  rw [second, third, fourth]
  rfl

lemma utf8Head_encode (c : Char) (tail : List UInt8) :
    ∃ lead rest, String.utf8EncodeChar c = lead :: rest ∧ utf8Head lead (rest ++ tail) = .char c (rest.length + 1) := by
  have valid : c.val.toNat < 0xd800 ∨ 0xdfff < c.val.toNat ∧ c.val.toNat < 0x110000 := c.valid
  have same : ∀ n, n = c.val.toNat → Char.ofNat n = c := fun n eq => by
    rw [eq]
    exact Char.ofNat_toNat c
  unfold String.utf8EncodeChar
  dsimp only
  split_ifs with one two three
  · have lead := @toNat_ofNat c.val.toNat (by omega)
    refine ⟨_, [], rfl, (utf8Head_one (utf8Width_of (.inl ⟨by omega, rfl⟩)) _).trans ?_⟩
    exact congrArg (Utf8Head.char · 1) (same _ lead)
  · have lead := @toNat_ofNat (c.val.toNat / 64 % 0x20 + 0xc0) (by omega)
    have second := @toNat_ofNat (c.val.toNat % 0x40 + 0x80) (by omega)
    refine ⟨_, [_], rfl, (utf8Head_two (utf8Width_of (.inr (.inl ⟨by omega, by omega, rfl⟩))) ?_ _).trans ?_⟩
    · exact isSecond_of (by omega) (by omega) (by omega) (by omega) (by omega)
    · refine congrArg (Utf8Head.char · 2) (same _ ?_)
      rw [lowBits, lead, second]
      omega
  · have lead := @toNat_ofNat (c.val.toNat / 4096 % 0x10 + 0xe0) (by omega)
    have second := @toNat_ofNat (c.val.toNat / 64 % 0x40 + 0x80) (by omega)
    have third := @toNat_ofNat (c.val.toNat % 0x40 + 0x80) (by omega)
    refine ⟨_, [_, _], rfl,
      (utf8Head_three (utf8Width_of (.inr (.inr (.inl ⟨by omega, by omega, rfl⟩)))) ?_ ?_ _).trans ?_⟩
    · exact isSecond_of (by omega) (by omega) (by omega) (by omega) (by omega)
    · exact isContinuation_of (by omega)
    · refine congrArg (Utf8Head.char · 3) (same _ ?_)
      rw [lowBits, lowBits, lead, second, third]
      omega
  · have lead := @toNat_ofNat (c.val.toNat / 262144 % 0x08 + 0xf0) (by omega)
    have second := @toNat_ofNat (c.val.toNat / 4096 % 0x40 + 0x80) (by omega)
    have third := @toNat_ofNat (c.val.toNat / 64 % 0x40 + 0x80) (by omega)
    have fourth := @toNat_ofNat (c.val.toNat % 0x40 + 0x80) (by omega)
    refine ⟨_, [_, _, _], rfl,
      (utf8Head_four (utf8Width_of (.inr (.inr (.inr ⟨by omega, by omega, rfl⟩)))) ?_ ?_ ?_ _).trans ?_⟩
    · exact isSecond_of (by omega) (by omega) (by omega) (by omega) (by omega)
    · exact isContinuation_of (by omega)
    · exact isContinuation_of (by omega)
    · refine congrArg (Utf8Head.char · 4) (same _ ?_)
      rw [lowBits, lowBits, lowBits, lead, second, third, fourth]
      omega

lemma exists_of_mem_utf8Bytes {text : List Char} (ascii : b.toNat < 0x80) (mem : b ∈ utf8Bytes text) :
    ∃ c ∈ text, c.val.toNat = b.toNat := by
  obtain ⟨c, listed, inside⟩ := List.mem_flatMap.1 mem
  refine ⟨c, listed, ?_⟩
  have valid : c.val.toNat < 0xd800 ∨ 0xdfff < c.val.toNat ∧ c.val.toNat < 0x110000 := c.valid
  have byte : ∀ {n : Nat}, b = UInt8.ofNat n → n < 256 → n = b.toNat := fun eq small => by
    rw [eq, toNat_ofNat small]
  unfold String.utf8EncodeChar at inside
  dsimp only at inside
  split_ifs at inside with one two three <;>
    simp only [List.mem_cons, List.not_mem_nil, or_false] at inside
  · exact byte inside (by omega)
  · rcases inside with eq | eq <;> have := byte eq (by omega) <;> omega
  · rcases inside with eq | eq | eq <;> have := byte eq (by omega) <;> omega
  · rcases inside with eq | eq | eq | eq <;> have := byte eq (by omega) <;> omega

/-- A text is read back from its bytes. -/
theorem textOf_utf8Bytes (text : List Char) : textOf (utf8Bytes text) = some text := by
  have read : ∀ fuel, (utf8Bytes text).length ≤ fuel → fromUtf8 fuel (utf8Bytes text) = (text, [], .complete) := by
    induction text with
    | nil =>
      intro fuel _
      cases fuel <;> rfl
    | cons c text ih =>
      intro fuel enough
      obtain ⟨lead, rest, bytes, head⟩ := utf8Head_encode c (utf8Bytes text)
      have whole : utf8Bytes (c :: text) = lead :: (rest ++ utf8Bytes text) := by
        rw [utf8Bytes, List.flatMap_cons, bytes]
        rfl
      rw [whole] at enough ⊢
      cases fuel with
      | zero => exact absurd enough (Nat.not_succ_le_zero _)
      | succ fuel =>
        have left : (rest ++ utf8Bytes text).drop (rest.length + 1 - 1) = utf8Bytes text := List.drop_left
        rw [fromUtf8, head]
        dsimp only
        rw [left, ih fuel (by simp only [List.length_cons, List.length_append] at enough; omega)]
  rw [textOf, read _ (Nat.le_refl _)]

end Ctl.Base
