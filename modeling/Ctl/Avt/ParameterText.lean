import Ctl.Avt.Parser

/-!
# The texts of parameters

The parameters of a dumped function are numbers with separators between them: `Numeric` texts.
-/

namespace Ctl.Avt

variable {ch separator : Char} {texts : List (List Char)}

lemma decimal_isDigit {n : Nat} (mem : ch ∈ decimal n) : 0x30 ≤ ch.toNat ∧ ch.toNat ≤ 0x39 := by
  have digit := Nat.isDigit_of_mem_toDigits (by decide) (by decide) mem
  rw [Char.isDigit, Bool.and_eq_true, decide_eq_true_eq, decide_eq_true_eq] at digit
  exact digit

lemma join_cons (separator : Char) (text text' : List Char) (texts : List (List Char)) :
    join separator (text :: text' :: texts) = text ++ separator :: join separator (text' :: texts) := by
  simp [join, List.intercalate]

lemma mem_join (mem : ch ∈ join separator texts) : ch = separator ∨ ∃ text ∈ texts, ch ∈ text := by
  induction texts with
  | nil => cases mem
  | cons text texts ih =>
    cases texts with
    | nil => exact .inr ⟨text, List.mem_cons_self, by simpa [join] using mem⟩
    | cons text' texts =>
      rw [join_cons, List.mem_append, List.mem_cons] at mem
      rcases mem with own | same | later
      · exact .inr ⟨text, List.mem_cons_self, own⟩
      · exact .inl same
      · apply (ih later).imp_right
        intro found
        obtain ⟨t, mem, inside⟩ := found
        exact ⟨t, List.mem_cons_of_mem _ mem, inside⟩

/-- Digits, colons and semicolons. -/
def Numeric (text : List Char) : Prop := ∀ ch ∈ text, 0x30 ≤ ch.toNat ∧ ch.toNat ≤ 0x3b

lemma numeric_decimal (n : Nat) : Numeric (decimal n) := by
  intro ch mem
  have digit := decimal_isDigit mem
  omega

lemma numeric_join (h : ∀ text ∈ texts, Numeric text) (inside : 0x30 ≤ separator.toNat ∧ separator.toNat ≤ 0x3b) :
    Numeric (join separator texts) := by
  intro ch mem
  cases mem_join mem with
  | inl same => rw [same]; exact inside
  | inr found =>
    obtain ⟨text, listed, mem⟩ := found
    exact h text listed ch mem

lemma numeric_decimals (numbers : List Nat) : ∀ text ∈ numbers.map decimal, Numeric text := by
  intro text mem
  obtain ⟨n, _, rfl⟩ := List.mem_map.1 mem
  exact numeric_decimal n

lemma numeric_sgrParam (op : SgrOp) : Numeric (Function.sgrParam op) := by
  have color : ∀ color base, Numeric (Function.dumpSgrColor color base) := by
    intro color base
    unfold Function.dumpSgrColor
    split
    case h_1 c =>
      split_ifs
      · exact numeric_decimal _
      · exact numeric_decimal _
      · exact numeric_join (numeric_decimals [base + 8, 5, c.toNat]) (by decide)
    case h_2 r g b =>
      exact numeric_join (numeric_decimals [base + 8, 2, r.toNat, g.toNat, b.toNat]) (by decide)
  cases op with
  | setForegroundColor c => exact color c 30
  | setBackgroundColor c => exact color c 40
  | _ => exact numeric_decimal _

end Ctl.Avt
