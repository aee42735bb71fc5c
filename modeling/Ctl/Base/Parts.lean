import Mathlib.Data.List.Basic
import Mathlib.Tactic.NormNum

/-!
# Parts with their lengths in front

Byte strings one after the other, each with its length in front as a number of a fixed width. The parts can be
told from the bytes (`framed_injective`): no other parts have the same bytes.
-/

namespace Ctl.Base

/-- A number as so many bytes, most significant first (Rust `to_be_bytes`). -/
def beBytes : (width : Nat) → Nat → List UInt8
  | 0, _ => []
  | width + 1, n => beBytes width (n / 256) ++ [UInt8.ofNat n]

@[simp] lemma length_beBytes (width n : Nat) : (beBytes width n).length = width := by
  induction width generalizing n with
  | zero => rfl
  | succ width ih => rw [beBytes, List.length_append, ih, List.length_singleton]

lemma beBytes_injective {width m n : Nat} (left : m < 256 ^ width) (right : n < 256 ^ width)
    (same : beBytes width m = beBytes width n) : m = n := by
  induction width generalizing m n with
  | zero =>
    rw [Nat.pow_zero, Nat.lt_one_iff] at left right
    rw [left, right]
  | succ width ih =>
    rw [beBytes, beBytes] at same
    obtain ⟨high, low⟩ := List.append_inj same (by rw [length_beBytes, length_beBytes])
    rw [Nat.pow_succ] at left right
    have quotient := ih ((Nat.div_lt_iff_lt_mul (by decide)).2 left) ((Nat.div_lt_iff_lt_mul (by decide)).2 right) high
    have byte : (UInt8.ofNat m).toNat = (UInt8.ofNat n).toNat := congrArg UInt8.toNat (List.singleton_inj.1 low)
    rw [UInt8.toNat_ofNat', UInt8.toNat_ofNat'] at byte
    change m % 256 = n % 256 at byte
    omega

section
variable (width : Nat)

variable (part : List UInt8)

def framedPart : List UInt8 := beBytes width part.length ++ part

def framed (parts : List (List UInt8)) : List UInt8 := parts.flatMap (framedPart width)

def Fits : Prop := part.length < 256 ^ width

instance (part : List UInt8) : Decidable (Fits width part) := inferInstanceAs (Decidable (_ < _))

variable {width}

lemma framed_cons (parts : List (List UInt8)) :
    framed width (part :: parts) = framedPart width part ++ framed width parts := rfl

lemma framed_append (first last : List (List UInt8)) :
    framed width (first ++ last) = framed width first ++ framed width last := List.flatMap_append

lemma framedPart_append_inj {a b rest rest' : List UInt8} (left : Fits width a) (right : Fits width b)
    (same : framedPart width a ++ rest = framedPart width b ++ rest') : a = b ∧ rest = rest' := by
  rw [framedPart, framedPart, List.append_assoc, List.append_assoc] at same
  obtain ⟨front, back⟩ := List.append_inj same (by rw [length_beBytes, length_beBytes])
  exact List.append_inj back (beBytes_injective left right front)

theorem framed_injective (positive : 0 < width) {first second : List (List UInt8)}
    (left : ∀ part ∈ first, Fits width part) (right : ∀ part ∈ second, Fits width part)
    (same : framed width first = framed width second) : first = second := by
  have long : ∀ (part : List UInt8) (rest : List (List UInt8)), framed width (part :: rest) ≠ [] := by
    intro part rest empty
    have length := congrArg List.length empty
    rw [framed_cons, framedPart, List.length_append, List.length_append, length_beBytes, List.length_nil] at length
    omega
  induction first generalizing second with
  | nil =>
    cases second with
    | nil => rfl
    | cons part rest => exact absurd same.symm (long part rest)
  | cons part first ih =>
    cases second with
    | nil => exact absurd same (long part first)
    | cons part' second =>
      rw [List.forall_mem_cons] at left right
      rw [framed_cons, framed_cons] at same
      obtain ⟨head, tail⟩ := framedPart_append_inj left.1 right.1 same
      rw [head, ih left.2 right.2 tail]

end

end Ctl.Base
