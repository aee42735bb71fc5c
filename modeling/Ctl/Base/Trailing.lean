import Mathlib.Data.List.DropRight
import Mathlib.Tactic.Common

/-!
# Trailing runs

The entries at the end of a list that all meet a condition (`List.rtakeWhile`), for a list that grows at its
end and loses entries at its front: `rtakeWhile_append` and `rtakeWhile_drop`. `countTrailing` counts them entry
by entry, and `carry` keeps what they are worth.
-/

namespace Ctl.Base

variable {α β : Type} {p : α → Bool}

variable (xs : List α)

lemma rtakeWhile_append (ys : List α) :
    (xs ++ ys).rtakeWhile p = if ys.all p then xs.rtakeWhile p ++ ys else ys.rtakeWhile p := by
  induction ys using List.reverseRecOn with
  | nil => simp
  | append_singleton ys y ih =>
    rw [← List.append_assoc, List.rtakeWhile_concat, List.rtakeWhile_concat, ih, List.all_append]
    cases meets : p y with
    | false => simp [meets]
    | true =>
      cases all : ys.all p with
      | false => simp [meets]
      | true => simp [meets]

lemma rtakeWhile_drop {k : Nat} (le : k ≤ xs.length) :
    (xs.drop k).rtakeWhile p = (xs.rtakeWhile p).drop (k - (xs.length - (xs.rtakeWhile p).length)) := by
  have parts : xs = xs.take k ++ xs.drop k := (List.take_append_drop k xs).symm
  have run : xs.rtakeWhile p =
      if (xs.drop k).all p then (xs.take k).rtakeWhile p ++ xs.drop k else (xs.drop k).rtakeWhile p := by
    conv_lhs => rw [parts, rtakeWhile_append]
  have front : (xs.take k).length = k := List.length_take_of_le le
  have back : (xs.drop k).length = xs.length - k := List.length_drop
  rw [run]
  split
  case isTrue all =>
    have shorter := (List.rtakeWhile_suffix p (xs.take k)).length_le
    have whole : (xs.drop k).rtakeWhile p = xs.drop k := List.rtakeWhile_eq_self_iff.2 (List.all_eq_true.1 all)
    rw [whole, List.length_append, back]
    have skip : k - (xs.length - (((xs.take k).rtakeWhile p).length + (xs.length - k)))
        = ((xs.take k).rtakeWhile p).length := by omega
    rw [skip, List.drop_left]
  case isFalse =>
    have shorter := (List.rtakeWhile_suffix p (xs.drop k)).length_le
    have skip : k - (xs.length - ((xs.drop k).rtakeWhile p).length) = 0 := by omega
    rw [skip, List.drop_zero]

/-! ### Entry by entry -/

def countTrailing (p : α → Bool) (n : Nat) (x : α) : Nat := if p x then n + 1 else 0

def carry (p : α → Bool) (worth : α → List β) (carried : List β) (x : α) : List β :=
  if p x then carried ++ worth x else []

lemma foldl_carry (worth : α → List β) (xs : List α) (carried : List β) :
    xs.foldl (carry p worth) carried = (if xs.all p then carried else []) ++ (xs.rtakeWhile p).flatMap worth := by
  induction xs using List.reverseRecOn with
  | nil => simp
  | append_singleton xs x ih =>
    rw [List.foldl_concat, ih, carry, List.rtakeWhile_concat, List.all_append]
    cases meets : p x with
    | false => simp [meets]
    | true => simp [meets]

lemma countTrailing_rtakeWhile (x : α) :
    countTrailing p (xs.rtakeWhile p).length x = ((xs ++ [x]).rtakeWhile p).length := by
  rw [countTrailing, List.rtakeWhile_concat]
  split
  · rw [List.length_append, List.length_singleton]
  · rfl

end Ctl.Base
