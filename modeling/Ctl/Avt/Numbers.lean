import Ctl.Avt.Reading

/-!
# Reading numbers

The parser reads a control sequence with the decimal texts of small numbers as a sequence with these numbers
(`reads_csi`).
-/

namespace Ctl.Avt

def withDigit (number : Nat) (ch : Char) : Nat := (10 * number + (ch.toNat - 0x30)) % 65536

lemma foldl_decimal : ∀ n < 256, (decimal n).foldl withDigit 0 = n := by decide +kernel

lemma decimal_cons (n : Nat) : ∃ ch text, decimal n = ch :: text ∧ 0x30 ≤ ch.toNat ∧ ch.toNat ≤ 0x39 := by
  cases eq : decimal n with
  | nil => exact absurd eq Nat.toDigits_ne_nil
  | cons ch text =>
    refine ⟨ch, text, rfl, decimal_isDigit (n := n) ?_⟩
    rw [eq]
    exact List.mem_cons_self

lemma modify_last {α : Type} (front : List α) (last : α) (f : α → α) :
    (front ++ [last]).modify front.length f = front ++ [f last] := by
  induction front with
  | nil => rfl
  | cons a front ih =>
    show a :: (front ++ [last]).modify front.length f = _
    rw [ih]
    rfl

namespace Parser

variable {ch : Char} {numbers : List Nat}

lemma param_digit (state : State) (front : List (List Nat)) (number : Nat) (digit : 0x30 ≤ ch.toNat ∧ ch.toNat ≤ 0x39) :
    (⟨state, front ++ [[number]], none⟩ : Parser).param ch = ⟨state, front ++ [[withDigit number ch]], none⟩ := by
  have semicolon : ch ≠ ';' := fun same => absurd digit.2 (by rw [same]; decide)
  have colon : ch ≠ ':' := fun same => absurd digit.2 (by rw [same]; decide)
  rw [param, if_neg semicolon, if_neg colon, modifyParam]
  dsimp only
  rw [List.length_append, List.length_singleton, Nat.add_sub_cancel, modify_last]
  rfl

lemma feed_digit {p : Parser} (state : p.state = .csiEntry ∨ p.state = .csiParam)
    (digit : 0x30 ≤ ch.toNat ∧ ch.toNat ≤ 0x39) : p.feed ch = ({ p.param ch with state := .csiParam }, none) := by
  have code : code ch = ch.toNat := if_neg (by omega)
  rw [feed_printable p ⟨by omega, by omega⟩, code, feedState]
  cases state with
  | inl entry =>
    rw [entry]
    dsimp only
    rw [if_neg (by omega), if_neg (by omega), if_neg (by omega), if_pos (by omega)]
  | inr param =>
    rw [param]
    dsimp only
    rw [if_neg (by omega), if_neg (by omega), if_pos (by omega), ← param, ← param_state p ch]

lemma reads_digits (front : List (List Nat)) (number : Nat) {text : List Char}
    (digits : ∀ ch ∈ text, 0x30 ≤ ch.toNat ∧ ch.toNat ≤ 0x39) :
    (⟨.csiParam, front ++ [[number]], none⟩ : Parser).reads text =
      (⟨.csiParam, front ++ [[text.foldl withDigit number]], none⟩, []) := by
  induction text generalizing number with
  | nil => rfl
  | cons ch text ih =>
    have digit := digits ch List.mem_cons_self
    rw [reads_cons, feed_digit (.inr rfl) digit, param_digit _ _ _ digit]
    dsimp only
    rw [ih _ fun c mem => digits c (List.mem_cons_of_mem ch mem)]
    rfl

lemma feed_separator (params : List (List Nat)) (room : params.length < paramsLen) :
    (⟨.csiParam, params, none⟩ : Parser).feed ';' = (⟨.csiParam, params ++ [[0]], none⟩, none) := by
  have param : (⟨.csiParam, params, none⟩ : Parser).param ';' = ⟨.csiParam, params ++ [[0]], none⟩ := by
    rw [Parser.param, if_pos rfl, if_pos room]
  show ((⟨.csiParam, params, none⟩ : Parser).param ';', none) = _
  rw [param]

lemma reads_numbers (front : List (List Nat)) (some : numbers ≠ []) (small : ∀ n ∈ numbers, n < 256)
    (room : front.length + numbers.length ≤ paramsLen) :
    (⟨.csiParam, front ++ [[0]], none⟩ : Parser).reads (join ';' (numbers.map decimal)) =
      (⟨.csiParam, front ++ numbers.map fun n => [n], none⟩, []) := by
  induction numbers generalizing front with
  | nil => exact absurd rfl some
  | cons n numbers ih =>
    have own := reads_digits front 0 fun ch mem => decimal_isDigit (n := n) mem
    rw [foldl_decimal n (small n List.mem_cons_self)] at own
    cases numbers with
    | nil =>
      have alone : join ';' [decimal n] = decimal n := by simp [join]
      rw [List.map_singleton, alone, own]
      rfl
    | cons m numbers =>
      have rest := ih (front ++ [[n]]) (List.cons_ne_nil _ _) (fun k mem => small k (List.mem_cons_of_mem n mem))
        (by simp only [List.length_append, List.length_cons, List.length_nil] at room ⊢; omega)
      rw [List.map_cons, List.map_cons, join_cons, reads_append, own, reads_cons,
        feed_separator _ (by simp only [List.length_append, List.length_cons, List.length_nil] at room ⊢; omega)]
      dsimp only
      rw [List.map_cons] at rest
      rw [rest, List.append_assoc]
      rfl

lemma reads_csi (p : Parser) (some : numbers ≠ []) (small : ∀ n ∈ numbers, n < 256)
    (room : numbers.length ≤ paramsLen) {final : Char} (bounds : 0x40 ≤ final.toNat ∧ final.toNat ≤ 0x7e) :
    p.reads ('\x1b' :: '[' :: (join ';' (numbers.map decimal) ++ [final])) =
      (⟨.ground, numbers.map fun n => [n], none⟩,
        ((⟨.ground, numbers.map fun n => [n], none⟩ : Parser).csiDispatch final).toList) := by
  have entry : (⟨.csiEntry, [[0]], none⟩ : Parser).reads (join ';' (numbers.map decimal)) =
      (⟨.csiParam, [[0]], none⟩ : Parser).reads (join ';' (numbers.map decimal)) := by
    obtain ⟨n, rest, rfl⟩ := List.exists_cons_of_ne_nil some
    obtain ⟨ch, digits, eq, digit⟩ := decimal_cons n
    have begins : ∃ text, join ';' ((n :: rest).map decimal) = ch :: text := by
      cases rest with
      | nil => exact ⟨digits, by simp [join, eq]⟩
      | cons m rest => exact ⟨_, by rw [List.map_cons, List.map_cons, join_cons, eq]; rfl⟩
    obtain ⟨text, begins⟩ := begins
    have atEntry := param_digit .csiEntry [] 0 digit
    have atParam := param_digit .csiParam [] 0 digit
    rw [List.nil_append, List.nil_append] at atEntry atParam
    rw [begins, reads_cons, reads_cons, feed_digit (.inl rfl) digit, feed_digit (.inr rfl) digit, atEntry, atParam]
  have read := reads_numbers [] some small (by simpa using room)
  rw [List.nil_append, List.nil_append, ← entry] at read
  have code : code final = final.toNat := if_neg (by omega)
  have last : ∀ params, (⟨.csiParam, params, none⟩ : Parser).feed final =
      (⟨.ground, params, none⟩, (⟨.ground, params, none⟩ : Parser).csiDispatch final) := by
    intro params
    rw [feed_printable _ ⟨by omega, by omega⟩, code, feedState]
    dsimp only
    rw [if_neg (by omega), if_neg (by omega), if_neg (by omega), if_neg (by omega), if_neg (by omega)]
    rfl
  show (⟨.csiEntry, [[0]], none⟩ : Parser).reads (join ';' (numbers.map decimal) ++ [final]) = _
  rw [reads_append, read, reads_cons, last]
  simp [reads]

end Parser

end Ctl.Avt
