import Mathlib.Logic.Equiv.List
import Mathlib.Tactic.DeriveEncodable
import Ctl.Base.Reading
import Ctl.Client.RowWindow
import Ctl.Observability.RoundTrip

/-!
# A codec that reads rows back

`plainCodec` writes rows as `serde_json` does when they have no styles and letters and digits only. It writes any
other row as a number, and meets what is assumed about codecs (`plainCodec_reads`).
-/

namespace Ctl.Client
open Ctl.Base Ctl.Proto Ctl.Daemon

instance encodableByte : Encodable UInt8 :=
  Encodable.ofLeftInjection UInt8.toNat (fun n => some (UInt8.ofNat n)) (fun _ => by rw [UInt8.ofNat_toNat])

instance encodableChar : Encodable Char :=
  Encodable.ofLeftInjection Char.toNat (fun n => some (Char.ofNat n)) (fun _ => by rw [Char.ofNat_toNat])

instance : Encodable Text := inferInstanceAs (Encodable (List Char))

deriving instance Encodable for TerminalColor, TerminalStyle, TerminalHistoryStyleSpan, TerminalHistoryRow

def asciiBytes (text : List Char) : List UInt8 := text.map fun c => UInt8.ofNat c.toNat

def asciiText (bytes : List UInt8) : List Char := bytes.map fun b => Char.ofNat b.toNat

variable (row : TerminalHistoryRow) {text : List Char}

def isPlain : Bool := row.styles.isEmpty && row.text.all (·.isAlphanum)

def jsonEnd (wrapped : Bool) : List Char := "\",\"wrapped\":".toList ++ (toString wrapped).toList ++ ['\x7d']

def jsonStart : List Char := '\x7b' :: "\"text\":\"".toList

def writeRow : List Char :=
  if isPlain row then jsonStart ++ row.text ++ jsonEnd row.wrapped
  else '#' :: digits (Encodable.encode row)

def parseRow : List Char → Except String TerminalHistoryRow
  | '#' :: code =>
    match (parseDigits (10 ^ code.length) 0 code).bind Encodable.decode with
    | some row => .ok row
    | none => .error "expected value"
  | json =>
    let rest := json.drop jsonStart.length
    .ok ⟨rest.takeWhile (·.isAlphanum), rest.dropWhile (·.isAlphanum) = jsonEnd true, []⟩

def plainCodec : Codec where
  toVec row := asciiBytes (writeRow row)
  plainToVec text wrapped := asciiBytes (writeRow ⟨text, wrapped, []⟩)
  lineToVec := asciiBytes
  fromSlice bytes := parseRow (asciiText (if bytes.getLast? = some 10 then bytes.dropLast else bytes))
  sha256 _ := ""

/-! ### What it promises -/

lemma writeRow_visible : ∀ c ∈ writeRow row, 0x21 ≤ c.toNat ∧ c.toNat ≤ 0x7e := by
  intro c mem
  rw [writeRow] at mem
  split at mem
  case isTrue plain =>
    rw [isPlain, Bool.and_eq_true, List.all_eq_true] at plain
    rw [List.mem_append, List.mem_append] at mem
    rcases mem with (start | inside) | stop
    · exact (by decide : ∀ c ∈ jsonStart, 0x21 ≤ c.toNat ∧ c.toNat ≤ 0x7e) c start
    · exact Observability.isVisible_iff.1 (Observability.isVisible_isAlphanum (plain.2 c inside))
    · exact (by decide : ∀ wrapped, ∀ c ∈ jsonEnd wrapped, 0x21 ≤ c.toNat ∧ c.toNat ≤ 0x7e) row.wrapped c stop
  case isFalse =>
    rw [List.mem_cons] at mem
    rcases mem with rfl | digit
    · decide
    · exact Observability.isVisible_iff.1 (Observability.isVisible_isDigit (digits_isDigit c digit))

lemma asciiText_asciiBytes (ascii : ∀ c ∈ text, 0x21 ≤ c.toNat ∧ c.toNat ≤ 0x7e) :
    asciiText (asciiBytes text) = text := by
  rw [asciiText, asciiBytes, List.map_map]
  refine (List.map_congr_left fun c mem => ?_).trans (List.map_id text)
  have small := ascii c mem
  show Char.ofNat (UInt8.ofNat c.toNat).toNat = c
  rw [UInt8.toNat_ofNat_of_lt' (by show c.toNat < 256; omega), Char.ofNat_toNat]

lemma asciiBytes_visible (ascii : ∀ c ∈ text, 0x21 ≤ c.toNat ∧ c.toNat ≤ 0x7e) {b : UInt8} (mem : b ∈ asciiBytes text) :
    0x21 ≤ b.toNat := by
  obtain ⟨c, inside, rfl⟩ := List.mem_map.1 mem
  have small := ascii c inside
  rw [UInt8.toNat_ofNat_of_lt' (by show c.toNat < 256; omega)]
  exact small.1

lemma lt_pow_digits (n : Nat) : n < 10 ^ (digits n).length := by
  induction n using Nat.strong_induction_on with
  | h n ih =>
    unfold digits at *
    rw [Nat.toDigits_eq_if (by decide)]
    split
    case isTrue one => exact one
    case isFalse more =>
      have less := ih (n / 10) (by omega)
      rw [List.length_append, List.length_singleton, Nat.pow_succ]
      omega

lemma parseRow_writeRow : parseRow (writeRow row) = .ok row := by
  rw [writeRow]
  split
  case isTrue plain =>
    rw [isPlain, Bool.and_eq_true, List.all_eq_true, List.isEmpty_iff] at plain
    have stop : (jsonEnd row.wrapped).takeWhile (·.isAlphanum) = [] := rfl
    have behind : (jsonEnd row.wrapped).dropWhile (·.isAlphanum) = jsonEnd row.wrapped := rfl
    have mark : decide (jsonEnd row.wrapped = jsonEnd true) = row.wrapped := by
      cases row.wrapped
      · decide
      · exact decide_eq_true rfl
    rw [List.append_assoc]
    unfold parseRow
    split
    case h_1 code eq => cases eq
    case h_2 =>
      dsimp only
      rw [List.drop_left, List.takeWhile_append_of_pos plain.2, List.dropWhile_append_of_pos plain.2, stop, behind,
        mark, List.append_nil, ← plain.1]
  case isFalse =>
    have read : (parseDigits (10 ^ (digits (Encodable.encode row)).length) 0 (digits (Encodable.encode row))).bind
        Encodable.decode = some row := by
      rw [parseDigits_digits (lt_pow_digits _), Option.bind_some, Encodable.encodek]
    rw [parseRow, read]

theorem plainCodec_reads : ReadsRows plainCodec where
  newline row mem := by
    have big := asciiBytes_visible (writeRow_visible row) mem
    exact absurd big (by decide)
  carriage row last := by
    have big := asciiBytes_visible (writeRow_visible row) (List.mem_of_getLast? last)
    exact absurd big (by decide)
  row row := by
    have last : (asciiBytes (writeRow row)).getLast? ≠ some 10 := by
      intro last
      have big := asciiBytes_visible (writeRow_visible row) (List.mem_of_getLast? last)
      exact absurd big (by decide)
    show parseRow (asciiText (if (asciiBytes (writeRow row)).getLast? = some 10 then
      (asciiBytes (writeRow row)).dropLast else asciiBytes (writeRow row))) = _
    rw [if_neg last, asciiText_asciiBytes (writeRow_visible row), parseRow_writeRow]
  line row := by
    show parseRow (asciiText (if (asciiBytes (writeRow row) ++ [10]).getLast? = some 10 then
      (asciiBytes (writeRow row) ++ [10]).dropLast else asciiBytes (writeRow row) ++ [10])) = _
    rw [if_pos List.getLast?_concat, List.dropLast_concat, asciiText_asciiBytes (writeRow_visible row),
      parseRow_writeRow]

end Ctl.Client
