import Mathlib.Data.Nat.Notation

/-!
# Decoding UTF-8 prefixes

The longest valid prefix of a byte sequence, and why it ends there: the sequence is complete, it
ends inside a character that may still be completed, or the next bytes can never start a character.
The length of an invalid sequence is the number of bytes that a valid character could have started
with, at least one.
-/

namespace Ctl.Base

/-- What stands at the front of a byte sequence. -/
inductive Utf8Head where
  | char (c : Char) (length : Nat)
  | invalid (length : Nat)
  | incomplete

variable (lead b : UInt8)

def isContinuation : Bool := 0x80 ≤ b && b ≤ 0xbf

def isSecond : Bool :=
  if lead = 0xe0 then 0xa0 ≤ b && b ≤ 0xbf
  else if lead = 0xed then 0x80 ≤ b && b ≤ 0x9f
  else if lead = 0xf0 then 0x90 ≤ b && b ≤ 0xbf
  else if lead = 0xf4 then 0x80 ≤ b && b ≤ 0x8f
  else isContinuation b

def utf8Width : Nat :=
  if lead < 0x80 then 1
  else if 0xc2 ≤ lead && lead ≤ 0xdf then 2
  else if 0xe0 ≤ lead && lead ≤ 0xef then 3
  else if 0xf0 ≤ lead && lead ≤ 0xf4 then 4
  else 0

def lowBits : Nat := b.toNat % 64

def utf8Head (rest : List UInt8) : Utf8Head :=
  match utf8Width lead with
  | 1 => .char (Char.ofNat lead.toNat) 1
  | 2 =>
    match rest with
    | [] => .incomplete
    | b :: _ =>
      if isSecond lead b then .char (Char.ofNat (lead.toNat % 32 * 64 + lowBits b)) 2
      else .invalid 1
  | 3 =>
    match rest with
    | [] => .incomplete
    | b :: rest =>
      if !isSecond lead b then .invalid 1 else
      match rest with
      | [] => .incomplete
      | c :: _ =>
        if isContinuation c then
          .char (Char.ofNat (lead.toNat % 16 * 4096 + lowBits b * 64 + lowBits c)) 3
        else .invalid 2
  | 4 =>
    match rest with
    | [] => .incomplete
    | b :: rest =>
      if !isSecond lead b then .invalid 1 else
      match rest with
      | [] => .incomplete
      | c :: rest =>
        if !isContinuation c then .invalid 2 else
        match rest with
        | [] => .incomplete
        | d :: _ =>
          if isContinuation d then
            .char (Char.ofNat
              (lead.toNat % 8 * 262144 + lowBits b * 4096 + lowBits c * 64 + lowBits d)) 4
          else .invalid 3
  | _ => .invalid 1

/-- Why a valid prefix ends. -/
inductive Utf8End where
  | complete
  | incomplete
  | invalid (length : Nat)

/-- The characters of the longest valid prefix, the bytes behind it and why it ends there; `fuel`
    bounds the number of characters. -/
def fromUtf8 : (fuel : Nat) → List UInt8 → List Char × List UInt8 × Utf8End
  | _, [] => ([], [], .complete)
  | 0, bytes => ([], bytes, .incomplete)
  | fuel + 1, lead :: rest =>
    match utf8Head lead rest with
    | .incomplete => ([], lead :: rest, .incomplete)
    | .invalid length => ([], lead :: rest, .invalid length)
    | .char c length =>
      let (chars, bytes, stop) := fromUtf8 fuel (rest.drop (length - 1))
      (c :: chars, bytes, stop)

end Ctl.Base
