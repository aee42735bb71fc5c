import Ctl.Base.Utf8Text
import Ctl.Proto.History
import Mathlib.Computability.Language

/-!
# Host patterns of OpenSSH

Model of `wildcard_matches` and `validate_host` of `ctl/client/src/ssh_reachability/config.rs`. A pattern stands for a
language, the product of those of its bytes. The loop goes back to the last star only, and yet decides whether a host
is in the language (`wildcardLoop_iff`): what a later position of an earlier star could match, the last star can.
-/

namespace Ctl.Hosts
open Ctl.Base Ctl.Proto

abbrev starByte : UInt8 := 0x2a

abbrev anyByte : UInt8 := 0x3f

/-! ### The loop -/

/-- The positions of Rust `wildcard_matches`. -/
structure Wildcard (pattern : List UInt8) where
  valueIndex : Nat
  patternIndex : Nat
  starIndex : Option Nat
  retryIndex : Nat
  retries : retryIndex ≤ valueIndex
  inPattern : patternIndex ≤ pattern.length
  starred : ∀ star ∈ starIndex, star < pattern.length

variable {value pattern : List UInt8} {index at_ : Nat} {byte character : UInt8} {text : List UInt8}

def standsFor (pattern : List UInt8) (index : Nat) (byte : UInt8) : Bool :=
  pattern[index]?.any fun character => character = anyByte || character = byte

lemma standsFor_iff : standsFor pattern index byte ↔
    ∃ character, pattern[index]? = some character ∧ (character = anyByte ∨ character = byte) := by
  simp only [standsFor, Option.any_eq_true, Bool.or_eq_true, decide_eq_true_eq]

lemma standsFor_lt (stands : standsFor pattern index byte) : index < pattern.length := by
  obtain ⟨character, found, _⟩ := standsFor_iff.1 stands
  exact (List.getElem?_eq_some_iff.1 found).1

/-- The loop of Rust `wildcard_matches`. -/
def wildcardLoop (value pattern : List UInt8) (state : Wildcard pattern) : Bool :=
  if inside : state.valueIndex < value.length then
    if stands : standsFor pattern state.patternIndex value[state.valueIndex] then
      wildcardLoop value pattern { state with
        valueIndex := state.valueIndex + 1
        patternIndex := state.patternIndex + 1
        retries := Nat.le_succ_of_le state.retries
        inPattern := standsFor_lt stands }
    else if star : pattern[state.patternIndex]? = some starByte then
      have bound : state.patternIndex < pattern.length := (List.getElem?_eq_some_iff.1 star).1
      wildcardLoop value pattern {
        valueIndex := state.valueIndex
        patternIndex := state.patternIndex + 1
        starIndex := some state.patternIndex
        retryIndex := state.valueIndex
        retries := Nat.le_refl _
        inPattern := bound
        starred := fun _ same => Option.mem_some_iff.1 same ▸ bound }
    else
      match last : state.starIndex with
      | some star => wildcardLoop value pattern {
          valueIndex := state.retryIndex + 1
          patternIndex := star + 1
          starIndex := some star
          retryIndex := state.retryIndex + 1
          retries := Nat.le_refl _
          inPattern := state.starred star last
          starred := fun _ same => Option.mem_some_iff.1 same ▸ state.starred star last }
      | none => false
  else (pattern.drop state.patternIndex).all (· = starByte)
termination_by (value.length - state.retryIndex,
  value.length - state.valueIndex + (pattern.length - state.patternIndex))
decreasing_by
  · exact Prod.Lex.right _ (by omega)
  · rcases Nat.eq_or_lt_of_le state.retries with same | less
    · rw [← same]
      exact Prod.Lex.right _ (by omega)
    · exact Prod.Lex.left _ _ (by omega)
  · have := state.retries
    exact Prod.Lex.left _ _ (by omega)

/-- Rust `wildcard_matches`. -/
def wildcardMatches (value pattern : List UInt8) : Bool :=
  wildcardLoop value pattern {
    valueIndex := 0
    patternIndex := 0
    starIndex := none
    retryIndex := 0
    retries := Nat.le_refl 0
    inPattern := Nat.zero_le _
    starred := nofun }

def unbracketed (value : Text) : Text :=
  match value with
  | '[' :: rest => if rest.getLast? = some ']' then rest.dropLast else value
  | _ => value

/-- Rust `validate_host`, with the message of its error. -/
def validateHost (value : Text) : Except String Text :=
  let host := unbracketed value
  if host.isEmpty || host.head? = some '-' || 253 < utf8Len host || host.any (fun character =>
      isControl character || isWhitespace character || "/\\@*?[]$#".toList.contains character) then
    .error "SSH destination is invalid or unsupported."
  else .ok host

/-! ### Languages -/

/-- The texts that a byte of a pattern stands for: all of them, those of one byte, or the byte itself. -/
def byteLanguage (character : UInt8) : Language UInt8 :=
  {text : List UInt8 | character = starByte ∨ ∃ byte, text = [byte] ∧ (character = anyByte ∨ character = byte)}

lemma mem_byteLanguage : text ∈ byteLanguage character ↔
    character = starByte ∨ ∃ byte, text = [byte] ∧ (character = anyByte ∨ character = byte) := Iff.rfl

def patternLanguage (pattern : List UInt8) : Language UInt8 := (pattern.map byteLanguage).prod

lemma mem_nil : value ∈ patternLanguage [] ↔ value = [] := Language.mem_one value

lemma mem_star : value ∈ patternLanguage (starByte :: pattern) ↔ ∃ skip, value.drop skip ∈ patternLanguage pattern := by
  rw [patternLanguage, List.map_cons, List.prod_cons, Language.mem_mul]
  constructor
  · rintro ⟨front, _, rest, mem, rfl⟩
    exact ⟨front.length, by rwa [List.drop_left]⟩
  · rintro ⟨skip, mem⟩
    exact ⟨value.take skip, .inl rfl, value.drop skip, mem, List.take_append_drop skip value⟩

lemma mem_byte (plain : character ≠ starByte) :
    value ∈ patternLanguage (character :: pattern) ↔
      ∃ byte rest, value = byte :: rest ∧ (character = anyByte ∨ character = byte) ∧ rest ∈ patternLanguage pattern := by
  rw [patternLanguage, List.map_cons, List.prod_cons, Language.mem_mul]
  constructor
  · rintro ⟨front, one, rest, mem, rfl⟩
    obtain ⟨byte, rfl, same⟩ := (mem_byteLanguage.1 one).resolve_left plain
    exact ⟨byte, rest, rfl, same, mem⟩
  · rintro ⟨byte, rest, rfl, same, mem⟩
    exact ⟨[byte], .inr ⟨byte, rfl, same⟩, rest, mem, rfl⟩

lemma mem_stars : (pattern.all (· = starByte)) ↔ [] ∈ patternLanguage pattern := by
  induction pattern with
  | nil => simp [mem_nil]
  | cons character pattern ih =>
    by_cases star : character = starByte
    · subst star
      simp [mem_star, ← ih]
    · simp [mem_byte star, star]

/-! ### What the loop decides -/

/-- The last star is at an index of the pattern. It decides from the retry position on, and what follows it has been
    matched up to both indices. -/
structure Tried (value pattern : List UInt8) (star patternIndex retryIndex valueIndex : Nat) : Prop where
  whole : value ∈ patternLanguage pattern ↔ value.drop retryIndex ∈ patternLanguage (pattern.drop star)
  isStar : pattern[star]? = some starByte
  before : star < patternIndex
  lockstep : patternIndex + retryIndex = valueIndex + (star + 1)
  plain : ∀ index, star < index → index < patternIndex → pattern[index]? ≠ some starByte
  matched : value.drop retryIndex ∈ patternLanguage (pattern.drop (star + 1)) ↔
    value.drop valueIndex ∈ patternLanguage (pattern.drop patternIndex)

structure Decides (value pattern : List UInt8) (state : Wildcard pattern) : Prop where
  free : state.starIndex = none → (value ∈ patternLanguage pattern ↔
    value.drop state.valueIndex ∈ patternLanguage (pattern.drop state.patternIndex))
  tried : ∀ star, state.starIndex = some star →
    Tried value pattern star state.patternIndex state.retryIndex state.valueIndex

lemma drop_star (star : pattern[index]? = some starByte) :
    value.drop at_ ∈ patternLanguage (pattern.drop index) ↔
      ∃ place, at_ ≤ place ∧ value.drop place ∈ patternLanguage (pattern.drop (index + 1)) := by
  obtain ⟨bound, found⟩ := List.getElem?_eq_some_iff.1 star
  rw [List.drop_eq_getElem_cons bound, found, mem_star]
  constructor
  · rintro ⟨skip, mem⟩
    rw [List.drop_drop] at mem
    exact ⟨_, Nat.le_add_right _ _, mem⟩
  · rintro ⟨place, after, mem⟩
    obtain ⟨skip, rfl⟩ := Nat.exists_eq_add_of_le after
    exact ⟨skip, by rwa [List.drop_drop]⟩

lemma drop_plain (plain : pattern[index]? ≠ some starByte) (inside : at_ < value.length) :
    value.drop at_ ∈ patternLanguage (pattern.drop index) ↔
      standsFor pattern index value[at_] ∧ value.drop (at_ + 1) ∈ patternLanguage (pattern.drop (index + 1)) := by
  rw [standsFor_iff]
  cases found : pattern[index]? with
  | none =>
    rw [List.drop_eq_nil_of_le (List.getElem?_eq_none_iff.1 found), mem_nil, List.drop_eq_nil_iff]
    simp [inside]
  | some character =>
    obtain ⟨bound, rfl⟩ := List.getElem?_eq_some_iff.1 found
    rw [found, Ne, Option.some.injEq] at plain
    rw [List.drop_eq_getElem_cons bound, mem_byte plain, List.drop_eq_getElem_cons inside]
    constructor
    · rintro ⟨byte, rest, same, stands, mem⟩
      cases same
      exact ⟨⟨_, rfl, stands⟩, mem⟩
    · rintro ⟨⟨character, same, stands⟩, mem⟩
      cases same
      exact ⟨_, _, rfl, stands, mem⟩

/-- A text that is matched by bytes without a star loses one byte for each of them. -/
lemma drop_plains {count : Nat}
    (plain : ∀ place, index ≤ place → place < index + count → pattern[place]? ≠ some starByte)
    (inside : index + count ≤ pattern.length) (mem : text ∈ patternLanguage (pattern.drop index)) :
    text.drop count ∈ patternLanguage (pattern.drop (index + count)) := by
  induction count generalizing index text with
  | zero => exact mem
  | succ count ih =>
    have bound : index < pattern.length := by omega
    have here := plain index (Nat.le_refl _) (by omega)
    rw [List.getElem?_eq_getElem bound, Ne, Option.some.injEq] at here
    rw [List.drop_eq_getElem_cons bound, mem_byte here] at mem
    obtain ⟨byte, rest, rfl, _, mem⟩ := mem
    rw [List.drop_succ_cons, show index + (count + 1) = index + 1 + count by omega]
    exact ih (fun place after within => plain place (by omega) (by omega)) (by omega) mem

lemma Tried.later {star patternIndex retryIndex valueIndex place : Nat}
    (tried : Tried value pattern star patternIndex retryIndex valueIndex) (inPattern : patternIndex ≤ pattern.length)
    (retries : retryIndex ≤ valueIndex) (after : retryIndex ≤ place)
    (mem : value.drop place ∈ patternLanguage (pattern.drop (star + 1))) :
    ∃ later, valueIndex ≤ later ∧ value.drop later ∈ patternLanguage (pattern.drop patternIndex) := by
  have lockstep := tried.lockstep
  have before := tried.before
  have rest : (value.drop place).drop (valueIndex - retryIndex) ∈ _ := drop_plains
    (fun index after within => tried.plain index (by omega) (by omega)) (by omega) mem
  rw [List.drop_drop, show star + 1 + (valueIndex - retryIndex) = patternIndex by omega] at rest
  exact ⟨_, by omega, rest⟩

/-- The decision does not change when the last star is the last of several. -/
lemma Decides.whole {state : Wildcard pattern} (decides : Decides value pattern state)
    (star : pattern[state.patternIndex]? = some starByte) : value ∈ patternLanguage pattern ↔
      value.drop state.valueIndex ∈ patternLanguage (pattern.drop state.patternIndex) := by
  cases last : state.starIndex with
  | none => exact decides.free last
  | some earlier =>
    have tried := decides.tried earlier last
    rw [tried.whole, drop_star tried.isStar]
    constructor
    · rintro ⟨place, after, mem⟩
      -- Whatever the earlier star skips, this one can skip.
      obtain ⟨later, behind, mem⟩ := tried.later state.inPattern state.retries after mem
      rw [drop_star star] at mem ⊢
      obtain ⟨further, beyond, mem⟩ := mem
      exact ⟨further, Nat.le_trans behind beyond, mem⟩
    · rw [← tried.matched]
      exact fun mem => ⟨_, Nat.le_refl _, mem⟩

lemma wildcardLoop_iff (noStar : starByte ∉ value) (state : Wildcard pattern) (decides : Decides value pattern state) :
    wildcardLoop value pattern state ↔ value ∈ patternLanguage pattern := by
  induction state using wildcardLoop.induct value with
  | case1 state inside stands ih =>
    rw [wildcardLoop, dif_pos inside, dif_pos stands]
    have plain : pattern[state.patternIndex]? ≠ some starByte := by
      obtain ⟨character, found, any | same⟩ := standsFor_iff.1 stands <;> rw [found, Ne, Option.some.injEq]
      · rw [any]
        decide
      · rintro rfl
        exact noStar (same ▸ List.getElem_mem inside)
    have step : value.drop state.valueIndex ∈ patternLanguage (pattern.drop state.patternIndex) ↔
        value.drop (state.valueIndex + 1) ∈ patternLanguage (pattern.drop (state.patternIndex + 1)) := by
      rw [drop_plain plain inside, and_iff_right stands]
    apply ih
    refine ⟨fun none => (decides.free none).trans step, fun star last => ?_⟩
    obtain ⟨whole, isStar, before, lockstep, between, matched⟩ := decides.tried star last
    refine ⟨whole, isStar, Nat.lt_succ_of_lt before, by dsimp only; omega, fun index after within => ?_,
      matched.trans step⟩
    rcases Nat.lt_succ_iff_lt_or_eq.1 within with within | rfl
    · exact between index after within
    · exact plain
  | case2 state inside stands star bound ih =>
    rw [wildcardLoop, dif_pos inside, dif_neg stands, dif_pos star]
    apply ih
    refine ⟨nofun, fun last same => ?_⟩
    cases Option.some.inj same
    exact ⟨decides.whole star, star, Nat.lt_succ_self _, Nat.add_comm _ _, fun index after within =>
      absurd (Nat.le_of_lt_succ within) (Nat.not_le_of_lt after), Iff.rfl⟩
  | case3 state inside stands star last found ih =>
    rw [wildcardLoop, dif_pos inside, dif_neg stands, dif_neg star]
    split
    case h_2 none => cases found.symm.trans none
    case h_1 again =>
      cases found.symm.trans again
      obtain ⟨whole, isStar, _, _, _, matched⟩ := decides.tried last found
      have fails : value.drop state.retryIndex ∉ patternLanguage (pattern.drop (last + 1)) := by
        rw [matched, drop_plain star inside]
        exact fun both => stands both.1
      apply ih
      refine ⟨nofun, fun other same => ?_⟩
      cases Option.some.inj same
      refine ⟨?_, isStar, Nat.lt_succ_self _, Nat.add_comm _ _, fun index after within =>
        absurd (Nat.le_of_lt_succ within) (Nat.not_le_of_lt after), Iff.rfl⟩
      rw [whole, drop_star isStar, drop_star isStar]
      constructor
      · rintro ⟨place, after, mem⟩
        refine ⟨place, Nat.lt_of_le_of_ne after fun same => ?_, mem⟩
        rw [same] at fails
        exact fails mem
      · exact fun ⟨place, after, mem⟩ => ⟨place, Nat.le_of_succ_le after, mem⟩
  | case4 state inside stands star none =>
    rw [wildcardLoop, dif_pos inside, dif_neg stands, dif_neg star, decides.free none, drop_plain star inside]
    split
    case h_1 again => cases none.symm.trans again
    case h_2 => simp [stands]
  | case5 state outside =>
    have ended : ∀ place, state.valueIndex ≤ place → value.drop place = [] := fun place after =>
      List.drop_eq_nil_of_le (by omega)
    rw [wildcardLoop, dif_neg outside, mem_stars]
    cases last : state.starIndex with
    | none => rw [decides.free last, ended _ (Nat.le_refl _)]
    | some star =>
      have tried := decides.tried star last
      rw [tried.whole, drop_star tried.isStar]
      constructor
      · intro mem
        rw [← ended _ (Nat.le_refl _), ← tried.matched] at mem
        exact ⟨_, Nat.le_refl _, mem⟩
      · rintro ⟨place, after, mem⟩
        obtain ⟨later, behind, mem⟩ := tried.later state.inPattern state.retries after mem
        rwa [ended later behind] at mem

/-! ### Hosts -/

lemma noStar_of_text {text : Text} (absent : '*' ∉ text) : starByte ∉ utf8Bytes text := by
  intro mem
  have ascii : starByte.toNat < 0x80 := by decide
  obtain ⟨character, listed, same⟩ := exists_of_mem_utf8Bytes ascii mem
  have star : character = '*' := Char.ext (UInt32.toNat_inj.1 same)
  exact absent (star ▸ listed)

lemma validateHost_noStar {value host : Text} (accepted : validateHost value = .ok host) :
    '*' ∉ host ∧ '*' ∉ value := by
  unfold validateHost at accepted
  dsimp only at accepted
  split at accepted
  · cases accepted
  case isFalse fine =>
    cases accepted
    have absent : '*' ∉ unbracketed value := by
      intro mem
      simp only [Bool.or_eq_true, not_or, Bool.not_eq_true] at fine
      have here := List.any_eq_false.1 fine.2 '*' mem
      exact here rfl
    refine ⟨absent, fun mem => absent ?_⟩
    unfold unbracketed
    split
    case h_1 rest =>
      split
      case isTrue closed =>
        have inside : '*' ∈ rest := (List.mem_cons.1 mem).resolve_left (by decide)
        rw [← List.dropLast_append_getLast? _ closed, List.mem_append] at inside
        exact inside.resolve_right (by decide)
      case isFalse => exact mem
    case h_2 => exact mem

/-- A host that is accepted, with its brackets or without, matches a pattern exactly if it is in the pattern's
    language. -/
theorem wildcardMatches_iff (value host : Text) (accepted : validateHost value = .ok host) (pattern : List UInt8) :
    ∀ name ∈ [value, host], wildcardMatches (utf8Bytes name) pattern ↔ utf8Bytes name ∈ patternLanguage pattern := by
  have absent := validateHost_noStar accepted
  have decided : ∀ name : Text, '*' ∉ name →
      (wildcardMatches (utf8Bytes name) pattern ↔ utf8Bytes name ∈ patternLanguage pattern) :=
    fun name absent => wildcardLoop_iff (noStar_of_text absent) _ ⟨fun _ => Iff.rfl, nofun⟩
  intro name listed
  rcases List.mem_pair.1 listed with rfl | rfl
  · exact decided _ absent.2
  · exact decided _ absent.1

theorem wildcardMatches_iff_example :
    (wildcardMatches (utf8Bytes "[a.b]".toList) [starByte, 0x62, anyByte] ↔
      utf8Bytes "[a.b]".toList ∈ patternLanguage [starByte, 0x62, anyByte]) ∧
    (wildcardMatches (utf8Bytes "a.b".toList) [starByte, 0x62, anyByte] ↔
      utf8Bytes "a.b".toList ∈ patternLanguage [starByte, 0x62, anyByte]) := by
  have both := wildcardMatches_iff "[a.b]".toList "a.b".toList rfl [starByte, 0x62, anyByte]
  exact ⟨both _ List.mem_cons_self, both _ (List.mem_cons_of_mem _ List.mem_cons_self)⟩

end Ctl.Hosts
