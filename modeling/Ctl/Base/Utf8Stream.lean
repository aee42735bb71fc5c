import Ctl.Base.Utf8
import Mathlib.Tactic.SplitIfs

/-!
# Decoding a stream of bytes

`decode` takes one character after the other from the front of a byte sequence, a replacement character
for every invalid sequence, until what is left may still be completed. A character that has been decoded
is never changed by the bytes behind it, so a stream can be cut anywhere when what is left is decoded
again in front of the next bytes (`decode_append`).
-/

namespace Ctl.Base

def replacement : Char := '\uFFFD'

/-- The characters of a byte sequence and the unfinished one at its end; `fuel` bounds the number of
    characters. -/
def decodeLoop : (fuel : Nat) → List UInt8 → List Char × List UInt8
  | _, [] => ([], [])
  | 0, bytes => ([], bytes)
  | fuel + 1, lead :: rest =>
    match utf8Head lead rest with
    | .incomplete => ([], lead :: rest)
    | .invalid length =>
      let (chars, left) := decodeLoop fuel (rest.drop (length - 1))
      (replacement :: chars, left)
    | .char c length =>
      let (chars, left) := decodeLoop fuel (rest.drop (length - 1))
      (c :: chars, left)

def decode (bytes : List UInt8) : List Char × List UInt8 := decodeLoop bytes.length bytes

/-! ### One character -/

def Utf8Head.next : Utf8Head → Option (Char × Nat)
  | .char c length => some (c, length)
  | .invalid length => some (replacement, length)
  | .incomplete => none

lemma utf8Width_cases (lead : UInt8) : utf8Width lead = 0 ∨ utf8Width lead = 1 ∨ utf8Width lead = 2 ∨
    utf8Width lead = 3 ∨ utf8Width lead = 4 := by
  unfold utf8Width
  split_ifs <;> simp

variable {lead : UInt8} {rest : List UInt8}

lemma utf8Head_append (whole : utf8Head lead rest ≠ .incomplete) (more : List UInt8) :
    utf8Head lead (rest ++ more) = utf8Head lead rest ∧
      ∀ next ∈ (utf8Head lead rest).next, 1 ≤ next.2 ∧ next.2 ≤ rest.length + 1 := by
  unfold utf8Head at whole ⊢
  rcases utf8Width_cases lead with width | width | width | width | width <;>
    simp only [width] at whole ⊢
  case inl => exact ⟨trivial, by simp [Utf8Head.next]⟩
  case inr.inl => exact ⟨trivial, by simp [Utf8Head.next]⟩
  case inr.inr.inl =>
    cases rest with
    | nil => exact (whole rfl).elim
    | cons b rest =>
      dsimp only [List.cons_append]
      exact ⟨rfl, by split <;> simp [Utf8Head.next]⟩
  case inr.inr.inr.inl =>
    cases rest with
    | nil => exact (whole rfl).elim
    | cons b rest =>
      dsimp only [List.cons_append] at whole ⊢
      by_cases bad : (!isSecond lead b) = true
      · rw [if_pos bad, if_pos bad]
        exact ⟨rfl, by simp [Utf8Head.next]⟩
      · rw [if_neg bad] at whole
        rw [if_neg bad, if_neg bad]
        cases rest with
        | nil => exact (whole rfl).elim
        | cons c rest =>
          dsimp only [List.cons_append]
          exact ⟨rfl, by split <;> simp [Utf8Head.next]⟩
  case inr.inr.inr.inr =>
    cases rest with
    | nil => exact (whole rfl).elim
    | cons b rest =>
      dsimp only [List.cons_append] at whole ⊢
      by_cases bad : (!isSecond lead b) = true
      · rw [if_pos bad, if_pos bad]
        exact ⟨rfl, by simp [Utf8Head.next]⟩
      · rw [if_neg bad] at whole
        rw [if_neg bad, if_neg bad]
        cases rest with
        | nil => exact (whole rfl).elim
        | cons c rest =>
          dsimp only [List.cons_append] at whole ⊢
          by_cases bad' : (!isContinuation c) = true
          · rw [if_pos bad', if_pos bad']
            exact ⟨rfl, by simp [Utf8Head.next]⟩
          · rw [if_neg bad'] at whole
            rw [if_neg bad', if_neg bad']
            cases rest with
            | nil => exact (whole rfl).elim
            | cons d rest =>
              dsimp only [List.cons_append]
              exact ⟨rfl, by split <;> simp [Utf8Head.next]⟩

lemma utf8Head_length {next : Char × Nat} (h : next ∈ (utf8Head lead rest).next) :
    1 ≤ next.2 ∧ next.2 ≤ rest.length + 1 := by
  refine (utf8Head_append ?_ []).2 next h
  intro incomplete
  rw [incomplete] at h
  cases h

/-! ### Streams -/

lemma decodeLoop_succ (fuel : Nat) (lead : UInt8) (rest : List UInt8) :
    decodeLoop (fuel + 1) (lead :: rest) =
      match (utf8Head lead rest).next with
      | some (c, length) =>
        (c :: (decodeLoop fuel (rest.drop (length - 1))).1, (decodeLoop fuel (rest.drop (length - 1))).2)
      | none => ([], lead :: rest) := by
  rw [decodeLoop]
  cases utf8Head lead rest <;> rfl

lemma decodeLoop_fuel {fuel : Nat} {bytes : List UInt8} (enough : bytes.length ≤ fuel) :
    decodeLoop fuel bytes = decode bytes := by
  suffices general : ∀ n fuel (bytes : List UInt8), bytes.length ≤ n → bytes.length ≤ fuel →
      decodeLoop fuel bytes = decodeLoop n bytes by
    exact (general bytes.length fuel bytes (Nat.le_refl _) enough)
  clear enough bytes fuel
  intro n
  induction n with
  | zero =>
    intro fuel bytes small _
    rw [List.length_eq_zero_iff.1 (Nat.le_zero.1 small)]
    cases fuel <;> rfl
  | succ n ih =>
    intro fuel bytes small enough
    cases bytes with
    | nil => cases fuel <;> rfl
    | cons lead rest =>
      cases fuel with
      | zero => cases enough
      | succ fuel =>
        rw [decodeLoop_succ, decodeLoop_succ]
        rw [List.length_cons] at small enough
        cases (utf8Head lead rest).next with
        | none => rfl
        | some next =>
          have shorter : (rest.drop (next.2 - 1)).length ≤ rest.length := by
            rw [List.length_drop]
            omega
          dsimp only
          rw [ih fuel (rest.drop (next.2 - 1)) (by omega) (by omega)]

@[simp] lemma decode_nil : decode [] = ([], []) := rfl

lemma decode_cons (lead : UInt8) (rest : List UInt8) :
    decode (lead :: rest) =
      match (utf8Head lead rest).next with
      | some (c, length) => (c :: (decode (rest.drop (length - 1))).1, (decode (rest.drop (length - 1))).2)
      | none => ([], lead :: rest) := by
  rw [decode, List.length_cons, decodeLoop_succ]
  cases (utf8Head lead rest).next with
  | none => rfl
  | some next =>
    dsimp only
    rw [decodeLoop_fuel]
    rw [List.length_drop]
    omega

lemma decode_of_next {c : Char} {length : Nat} (h : (utf8Head lead rest).next = some (c, length)) :
    decode (lead :: rest) = (c :: (decode (rest.drop (length - 1))).1, (decode (rest.drop (length - 1))).2) := by
  rw [decode_cons, h]

lemma decode_of_incomplete (h : utf8Head lead rest = .incomplete) : decode (lead :: rest) = ([], lead :: rest) := by
  rw [decode_cons, h]
  rfl

theorem decode_append (first last : List UInt8) :
    decode (first ++ last) =
      ((decode first).1 ++ (decode ((decode first).2 ++ last)).1, (decode ((decode first).2 ++ last)).2) := by
  induction hlen : first.length using Nat.strongRecOn generalizing first with
  | _ n ih =>
    cases first with
    | nil => rfl
    | cons lead rest =>
      cases head : (utf8Head lead rest).next with
      | none =>
        have incomplete : utf8Head lead rest = .incomplete := by
          cases found : utf8Head lead rest with
          | incomplete => rfl
          | char c length => rw [found] at head; cases head
          | invalid length => rw [found] at head; cases head
        rw [decode_of_incomplete incomplete]
        rfl
      | some next =>
        obtain ⟨c, length⟩ := next
        have whole : utf8Head lead rest ≠ .incomplete := by
          intro incomplete
          rw [incomplete] at head
          cases head
        obtain ⟨same, bound⟩ := utf8Head_append whole last
        have taken := bound _ (Option.mem_def.2 head)
        dsimp only at taken
        rw [← same] at head
        have inside : (rest ++ last).drop (length - 1) = rest.drop (length - 1) ++ last :=
          List.drop_append_of_le_length (by omega)
        rw [List.cons_append, decode_of_next head, inside]
        rw [same] at head
        rw [decode_of_next head]
        have shorter : (rest.drop (length - 1)).length < n := by
          rw [← hlen, List.length_cons, List.length_drop]
          omega
        rw [ih _ shorter _ rfl]
        rfl

lemma decode_left (bytes : List UInt8) : decode (decode bytes).2 = ([], (decode bytes).2) := by
  have whole := decode_append bytes []
  rw [List.append_nil, List.append_nil] at whole
  have chars := congrArg Prod.fst whole
  have left := congrArg Prod.snd whole
  dsimp only at chars left
  exact Prod.ext (List.append_right_eq_self.1 chars.symm) left.symm

/-! ### The longest valid prefix -/

/-- What the longest valid prefix of a sequence says about its decoding. -/
structure Prefix (bytes : List UInt8) (chars : List Char) (left : List UInt8) (stop : Utf8End) : Prop where
  decoded : decode bytes = (chars ++ (decode left).1, (decode left).2)
  fewer : left.length + chars.length ≤ bytes.length
  nothing : chars = [] → left = bytes
  suffix : left <:+ bytes
  stops : match stop with
    | .complete => left = []
    | .incomplete => left ≠ [] ∧ decode left = ([], left)
    | .invalid length => 1 ≤ length ∧ length ≤ left.length ∧
      decode left = (replacement :: (decode (left.drop length)).1, (decode (left.drop length)).2)

/-- The longest valid prefix is decoded first. Behind it the sequence ends, or an unfinished character
    follows, or an invalid sequence. -/
theorem fromUtf8_prefix {fuel : Nat} {bytes left : List UInt8} {chars : List Char} {stop : Utf8End}
    (enough : bytes.length ≤ fuel) (read : fromUtf8 fuel bytes = (chars, left, stop)) :
    Prefix bytes chars left stop := by
  induction fuel generalizing bytes chars with
  | zero =>
    rw [List.length_eq_zero_iff.1 (Nat.le_zero.1 enough)] at read ⊢
    cases read
    exact ⟨rfl, Nat.le_refl _, fun _ => rfl, List.suffix_rfl, rfl⟩
  | succ fuel ih =>
    cases bytes with
    | nil =>
      cases read
      exact ⟨rfl, Nat.le_refl _, fun _ => rfl, List.suffix_rfl, rfl⟩
    | cons lead rest =>
      rw [fromUtf8] at read
      cases head : utf8Head lead rest with
      | incomplete =>
        have nothing := decode_of_incomplete head
        rw [head] at read
        cases read
        exact ⟨by rw [nothing]; rfl, Nat.le_refl _, fun _ => rfl, List.suffix_rfl, List.cons_ne_nil _ _,
          nothing⟩
      | invalid length =>
        have next : (utf8Head lead rest).next = some (replacement, length) := by rw [head]; rfl
        have bound := utf8Head_length (Option.mem_def.2 next)
        have dropped : (lead :: rest).drop length = rest.drop (length - 1) := by
          obtain ⟨length, rfl⟩ : ∃ n, length = n + 1 := ⟨length - 1, by omega⟩
          rfl
        rw [head] at read
        cases read
        refine ⟨rfl, Nat.le_refl _, fun _ => rfl, List.suffix_rfl, bound.1, bound.2, ?_⟩
        rw [dropped]
        exact decode_of_next next
      | char c length =>
        have next : (utf8Head lead rest).next = some (c, length) := by rw [head]; rfl
        have bound := utf8Head_length (Option.mem_def.2 next)
        have shorter : (rest.drop (length - 1)).length ≤ rest.length := by
          rw [List.length_drop]
          omega
        rw [List.length_cons] at enough
        rw [head] at read
        dsimp only at read
        generalize inner : fromUtf8 fuel (rest.drop (length - 1)) = found at read
        obtain ⟨chars', left', stop'⟩ := found
        simp only [Prod.mk.injEq] at read
        obtain ⟨rfl, rfl, rfl⟩ := read
        have shorter : (rest.drop (length - 1)).length ≤ fuel := by omega
        have below := ih shorter inner
        refine ⟨?_, ?_, nofun, ?_, below.stops⟩
        · rw [decode_of_next next, below.decoded]
          rfl
        · have fewer := below.fewer
          rw [List.length_cons, List.length_cons]
          omega
        · exact (below.suffix.trans (List.drop_suffix _ _)).trans (List.suffix_cons _ _)

end Ctl.Base
