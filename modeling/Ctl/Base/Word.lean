import Mathlib.Algebra.BigOperators.Group.List.Lemmas
import Mathlib.Tactic.Linarith

/-!
# Machine words and partial results

Arithmetic on fixed-width words as a program with overflow checks performs it. A computation that
may stop is a `Res`: it returns a value, returns an error value of type `ε`, or panics (an overflow,
an index past the end, a failed expectation). The two failures are kept apart, so that a proof that
a computation is `.ok` also proves that no operation inside it overflows.

* `addU16`/`subU16` are the checked operations on sixteen-bit words, `word` the range check of a
  wider unsigned word, `u16TryFrom` the fallible narrowing.
* `satAdd`/`satMul` are the saturating operations below a given ceiling; `foldl_satAdd` says that a
  saturating sum is the exact one, saturated once.
-/

namespace Ctl.Base

/-- How a computation stops without a value. -/
inductive Fault (ε : Type) where
  | err (e : ε)
  | panic
  deriving DecidableEq

/-- A computation that returns a value, an error of type `ε`, or panics. -/
abbrev Res (ε α : Type) := Except (Fault ε) α

/-- Return the error value `e`. -/
def Res.fail {ε α : Type} (e : ε) : Res ε α := .error (.err e)

def Res.panic {ε α : Type} : Res ε α := .error .panic

def Res.isOk {ε α : Type} : Res ε α → Bool
  | .ok _ => true
  | .error _ => false

@[simp] lemma Res.ok_bind {ε α β : Type} (a : α) (f : α → Res ε β) :
    (Except.ok a : Res ε α) >>= f = f a := rfl

@[simp] lemma Res.pure_eq {ε α : Type} (a : α) : (pure a : Res ε α) = .ok a := rfl

@[simp] lemma Res.error_bind {ε α β : Type} (e : Fault ε) (f : α → Res ε β) :
    (Except.error e : Res ε α) >>= f = .error e := rfl

lemma Res.bind_eq_ok {ε α β : Type} {x : Res ε α} {f : α → Res ε β} {b : β} (h : x >>= f = .ok b) :
    ∃ a, x = .ok a ∧ f a = .ok b := by
  cases x with
  | error e => cases h
  | ok a => exact ⟨a, rfl, h⟩

/-- Return the error `e` unless a condition holds. -/
def Res.require {ε : Type} (c : Prop) [Decidable c] (e : ε) : Res ε Unit :=
  if c then .ok () else .fail e

/-- The value of an option, or the error `e`. -/
def Res.ofOption {ε α : Type} (o : Option α) (e : ε) : Res ε α :=
  match o with
  | some a => .ok a
  | none => .fail e

def Res.orPanic {ε α : Type} : Option α → Res ε α
  | some a => .ok a
  | none => .panic

def Res.mapErr {ε ε' α : Type} (f : ε → ε') : Res ε α → Res ε' α
  | .ok a => .ok a
  | .error (.err e) => .fail (f e)
  | .error .panic => .panic

lemma Res.require_bind {ε β : Type} {c : Prop} [Decidable c] {e : ε} {f : Unit → Res ε β} {b : β}
    (h : Res.require c e >>= f = .ok b) : c ∧ f () = .ok b := by
  unfold Res.require at h
  split at h
  case isTrue hc => exact ⟨hc, h⟩
  case isFalse => cases h

lemma Res.ofOption_eq_ok {ε α : Type} {o : Option α} {e : ε} {a : α} (h : Res.ofOption o e = .ok a) : o = some a := by
  cases o with
  | none => cases h
  | some b => exact congrArg some (Except.ok.inj h)

lemma Res.orPanic_eq_ok {ε α : Type} {o : Option α} {a : α} (h : (Res.orPanic o : Res ε α) = .ok a) : o = some a := by
  cases o with
  | none => cases h
  | some b => exact congrArg some (Except.ok.inj h)

lemma Res.mapErr_eq_ok {ε ε' α : Type} {f : ε → ε'} {x : Res ε α} {a : α} (h : x.mapErr f = .ok a) : x = .ok a := by
  rcases x with (e | _) | b
  · cases h
  · cases h
  · exact congrArg Except.ok (Except.ok.inj h)

def Res.collect {ε α β : Type} (f : α → Res ε β) : List α → Res ε (List β)
  | [] => .ok []
  | a :: as => do
    let b ← f a
    let bs ← Res.collect f as
    return b :: bs

/-! ### Sixteen-bit words -/

def addU16 {ε : Type} (a b : UInt16) : Res ε UInt16 :=
  if a.toNat + b.toNat < 2 ^ 16 then .ok (a + b) else .panic

/-- Checked subtraction of sixteen-bit words, `none` below zero. -/
def subU16 (a b : UInt16) : Option UInt16 :=
  if b.toNat ≤ a.toNat then some (a - b) else none

/-- Narrow a number to a sixteen-bit word, or return the error `e`. -/
def u16TryFrom {ε : Type} (e : ε) (n : Nat) : Res ε UInt16 :=
  if n < 2 ^ 16 then .ok (UInt16.ofNat n) else .fail e

variable {a n w : Nat} {b : UInt16} {l : List Nat}

lemma toNat_add_u16 {a : UInt16} (h : a.toNat + b.toNat < 2 ^ 16) : (a + b).toNat = a.toNat + b.toNat := by
  rw [UInt16.toNat_add, Nat.mod_eq_of_lt h]

lemma toNat_sub_u16 {a : UInt16} (h : b.toNat ≤ a.toNat) : (a - b).toNat = a.toNat - b.toNat :=
  UInt16.toNat_sub_of_le _ _ (UInt16.le_iff_toNat_le.2 h)

lemma addU16_eq_ok {ε : Type} {a : UInt16} (h : a.toNat + b.toNat < 2 ^ 16) :
    (addU16 a b : Res ε UInt16) = .ok (a + b) := by
  simp only [addU16, h, if_true]

lemma u16TryFrom_eq_ok {ε : Type} {e : ε} (h : n < 2 ^ 16) : u16TryFrom e n = .ok (UInt16.ofNat n) := by
  simp only [u16TryFrom, h, if_true]

lemma toNat_ofNat_u16 (h : n < 2 ^ 16) : (UInt16.ofNat n).toNat = n :=
  UInt16.toNat_ofNat_of_lt' h

lemma toNat_u16TryFrom {ε : Type} {e : ε} {w : UInt16} (h : u16TryFrom e n = .ok w) : n < 2 ^ 16 ∧ w.toNat = n := by
  unfold u16TryFrom at h
  split at h
  case isTrue lt =>
    cases h
    exact ⟨lt, toNat_ofNat_u16 lt⟩
  case isFalse => cases h

lemma toNat_addU16 {ε : Type} {a c : UInt16} (h : (addU16 a b : Res ε UInt16) = .ok c) :
    c.toNat = a.toNat + b.toNat := by
  unfold addU16 at h
  split at h
  case isTrue lt =>
    cases h
    exact toNat_add_u16 lt
  case isFalse => cases h

/-! ### Wider words, carried as numbers -/

/-- The range check of an unsigned word of `w` bits. -/
def word {ε : Type} (w n : Nat) : Res ε Nat := if n < 2 ^ w then .ok n else .panic

def subWord {ε : Type} (a b : Nat) : Res ε Nat := if b ≤ a then .ok (a - b) else .panic

def divWord {ε : Type} (a b : Nat) : Res ε Nat := if b = 0 then .panic else .ok (a / b)

/-- The checked sum of a list of words of `w` bits. -/
def sumWord {ε : Type} (w : Nat) (l : List Nat) : Res ε Nat :=
  l.foldlM (fun a b => word w (a + b)) 0

lemma word_eq_ok {ε : Type} (h : n < 2 ^ w) : (word w n : Res ε Nat) = .ok n := by
  simp only [word, h, if_true]

lemma subWord_eq_ok {ε : Type} {b : Nat} (h : b ≤ a) : (subWord a b : Res ε Nat) = .ok (a - b) := by
  simp only [subWord, h, if_true]

lemma divWord_eq_ok {ε : Type} {b : Nat} (h : 0 < b) : (divWord a b : Res ε Nat) = .ok (a / b) := by
  simp only [divWord, h.ne', if_false]

lemma word_inv {ε : Type} {m : Nat} (h : (word w n : Res ε Nat) = .ok m) : n < 2 ^ w ∧ m = n := by
  unfold word at h
  split at h
  case isTrue lt =>
    cases h
    exact ⟨lt, rfl⟩
  case isFalse => cases h

lemma foldlM_subWord {ε : Type} (h : l.sum ≤ a) : (l.foldlM subWord a : Res ε Nat) = .ok (a - l.sum) := by
  induction l generalizing a with
  | nil => simp
  | cons b l ih =>
    rw [List.sum_cons] at h
    rw [List.foldlM_cons, subWord_eq_ok (by omega), Res.ok_bind, ih (by omega), List.sum_cons]
    congr 1
    omega

lemma foldlM_word {ε : Type} (h : a + l.sum < 2 ^ w) :
    (l.foldlM (fun a b => word w (a + b)) a : Res ε Nat) = .ok (a + l.sum) := by
  induction l generalizing a with
  | nil => simp
  | cons b l ih =>
    rw [List.sum_cons, ← Nat.add_assoc] at h
    have hb : a + b < 2 ^ w := lt_of_le_of_lt (Nat.le_add_right _ _) h
    rw [List.foldlM_cons, word_eq_ok hb, Res.ok_bind, ih h, List.sum_cons, Nat.add_assoc]

lemma foldlM_word_inv {ε : Type} (h : (l.foldlM (fun a b => word w (a + b)) a : Res ε Nat) = .ok n) :
    n = a + l.sum := by
  induction l generalizing a with
  | nil =>
    cases h
    rfl
  | cons b l ih =>
    rw [List.foldlM_cons] at h
    obtain ⟨c, hc, h⟩ := Res.bind_eq_ok h
    obtain ⟨-, rfl⟩ := word_inv hc
    rw [ih h, List.sum_cons, Nat.add_assoc]

lemma sumWord_eq_ok {ε : Type} (h : l.sum < 2 ^ w) : (sumWord w l : Res ε Nat) = .ok l.sum := by
  have := foldlM_word (ε := ε) (w := w) (l := l) (a := 0) (by simpa using h)
  simpa [sumWord] using this

/-! ### Vectors of words -/

/-- Keep the elements at which a checked test returns `true`. -/
def Res.filter {ε α : Type} (p : α → Res ε Bool) : List α → Res ε (List α)
  | [] => .ok []
  | a :: as => do
    let keep ← p a
    let rest ← Res.filter p as
    return if keep then a :: rest else rest

lemma Res.filter_eq_ok {ε α : Type} {p : α → Res ε Bool} {q : α → Bool} {as : List α} (h : ∀ a ∈ as, p a = .ok (q a)) :
    Res.filter p as = .ok (as.filter q) := by
  induction as with
  | nil => rfl
  | cons a as ih =>
    have hs : ∀ b ∈ as, p b = .ok (q b) := fun b hb => h b (List.mem_cons_of_mem a hb)
    rw [Res.filter, h a List.mem_cons_self, ih hs, List.filter_cons]
    rfl

/-- Overwrite the entries of `v` at the indices `is`, one after the other; `f i old` is the new
    value of entry `i`. -/
def assign {ε : Type} (f : Nat → Nat → Res ε Nat) (is v : List Nat) : Res ε (List Nat) :=
  is.foldlM (fun v i => do let n ← f i (v.getD i 0); return v.set i n) v

lemma assign_eq_ok {ε : Type} {f : Nat → Nat → Res ε Nat} {g : Nat → Nat → Nat} {is v : List Nat} (nd : is.Nodup)
    (hf : ∀ i ∈ is, f i (v.getD i 0) = .ok (g i (v.getD i 0))) :
    ∃ v', assign f is v = .ok v' ∧ v'.length = v.length ∧
      ∀ j < v.length, v'.getD j 0 = if j ∈ is then g j (v.getD j 0) else v.getD j 0 := by
  induction is generalizing v with
  | nil => exact ⟨v, rfl, rfl, by simp⟩
  | cons i is ih =>
    rw [List.nodup_cons] at nd
    obtain ⟨ni, nd⟩ := nd
    have hset : ∀ j, j ≠ i → (v.set i (g i (v.getD i 0))).getD j 0 = v.getD j 0 := by
      intro j hj
      simp [List.getD_eq_getElem?_getD, List.getElem?_set_ne (Ne.symm hj)]
    have hf' : ∀ k ∈ is, f k ((v.set i (g i (v.getD i 0))).getD k 0)
        = .ok (g k ((v.set i (g i (v.getD i 0))).getD k 0)) := by
      intro k hk
      rw [hset k (fun e => ni (e ▸ hk))]
      exact hf k (List.mem_cons_of_mem i hk)
    obtain ⟨v', e, len, val⟩ := ih nd hf'
    refine ⟨v', ?_, by simpa using len, ?_⟩
    · unfold assign at e ⊢
      rw [List.foldlM_cons, hf i List.mem_cons_self]
      exact e
    · intro j hj
      rw [val j (by simpa using hj)]
      by_cases hji : j = i
      · subst hji
        simp [ni, List.getD_eq_getElem?_getD, List.getElem?_set_self hj]
      · rw [hset j hji]
        simp [hji]

/-! ### Saturating arithmetic -/

/-- Addition saturating at `m`. -/
def satAdd (m a b : Nat) : Nat := min (a + b) m

/-- Multiplication saturating at `m`. -/
def satMul (m a b : Nat) : Nat := min (a * b) m

lemma foldl_satAdd (m : Nat) (l : List Nat) (h : a ≤ m) : l.foldl (satAdd m) a = min (a + l.sum) m := by
  induction l generalizing a with
  | nil => simp [h]
  | cons b l ih =>
    rw [List.foldl_cons, ih (by unfold satAdd; omega), List.sum_cons, satAdd]
    omega

end Ctl.Base
