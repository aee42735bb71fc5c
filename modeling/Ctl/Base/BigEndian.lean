import Mathlib.Data.List.Basic
import Mathlib.Tactic.NormNum

/-!
# Big-endian numbers

The four bytes of a number below 2³², most significant first, and the number that bytes spell.
-/

namespace Ctl.Base

/-- The four bytes of a number below 2³² (Rust `u32::to_be_bytes`). -/
def toBeBytes (n : Nat) : List UInt8 :=
  [UInt8.ofNat (n / 256 / 256 / 256), UInt8.ofNat (n / 256 / 256), UInt8.ofNat (n / 256),
    UInt8.ofNat n]

/-- The number that bytes spell (Rust `u32::from_be_bytes`). -/
def fromBeBytes (bytes : List UInt8) : Nat := bytes.foldl (fun n byte => n * 256 + byte.toNat) 0

@[simp] lemma length_toBeBytes (n : Nat) : (toBeBytes n).length = 4 := rfl

lemma digits_eq {n : Nat} (h : n < 2 ^ 32) :
    ((n / 256 / 256 / 256 % 256 * 256 + n / 256 / 256 % 256) * 256 + n / 256 % 256) * 256 + n % 256 =
      n := by
  norm_num at h
  omega

/-- A number is read back. -/
@[simp] lemma fromBeBytes_toBeBytes {n : Nat} (h : n < 2 ^ 32) : fromBeBytes (toBeBytes n) = n := by
  simp [toBeBytes, fromBeBytes, digits_eq h]

lemma toBeBytes_fromBeBytes {bytes : List UInt8} (four : bytes.length = 4) : toBeBytes (fromBeBytes bytes) = bytes := by
  match bytes, four with
  | [a, b, c, d], _ =>
    have ha := a.toNat_lt
    have hb := b.toNat_lt
    have hc := c.toNat_lt
    have hd := d.toNat_lt
    have first : (((0 * 256 + a.toNat) * 256 + b.toNat) * 256 + c.toNat) * 256 + d.toNat =
        fromBeBytes [a, b, c, d] := rfl
    generalize fromBeBytes [a, b, c, d] = n at first
    have byte : ∀ {m : Nat} {x : UInt8}, m % 256 = x.toNat → UInt8.ofNat m = x := by
      intro m x h
      rw [← UInt8.toNat_inj, UInt8.toNat_ofNat']
      exact h
    rw [toBeBytes, byte (show n / 256 / 256 / 256 % 256 = a.toNat by omega),
      byte (show n / 256 / 256 % 256 = b.toNat by omega),
      byte (show n / 256 % 256 = c.toNat by omega), byte (show n % 256 = d.toNat by omega)]

end Ctl.Base
