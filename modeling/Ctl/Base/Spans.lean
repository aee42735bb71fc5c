import Ctl.Base.Reading
import Mathlib.Data.List.TakeWhile

/-!
# Where the words of a text stand

The words of a text are found in it one after the other, and every run of words in a row is a part of the text.
A part that begins and ends with words is one of these runs (`mem_groups`).
-/

namespace Ctl.Base

/-- Where a text begins in another (Rust `str::find`). -/
def find (part text : List Char) : Option Nat := (splitOnce part text).map fun parts => parts.1.length

def spansFrom : (offset : Nat) → (text : List Char) → List (List Char) → Option (List (Nat × Nat))
  | _, _, [] => some []
  | offset, text, word :: rest => do
    let start ← find word text
    let stop := start + word.length
    let spans ← spansFrom (offset + stop) (text.drop stop) rest
    return (offset + start, offset + stop) :: spans

def groups : List (Nat × Nat) → List (Nat × Nat)
  | [] => []
  | start :: later => ((start :: later).map fun last => (start.1, last.2)) ++ groups later

section
variable {isSeparator : Char → Bool} {blank word rest : List Char} {spans : List (Nat × Nat)}

/-- A word: a text without separators that is not empty. -/
def IsWord (isSeparator : Char → Bool) (word : List Char) : Prop :=
  word ≠ [] ∧ ∀ c ∈ word, isSeparator c = false

/-- A text that does not begin inside a word. -/
def Opens (isSeparator : Char → Bool) (text : List Char) : Prop := ∀ c rest, text = c :: rest → isSeparator c = true

/-- A text that does not end inside a word. -/
def Closes (isSeparator : Char → Bool) (text : List Char) : Prop := ∀ c rest, text = rest ++ [c] → isSeparator c = true

lemma words_separators (separators : ∀ c ∈ blank, isSeparator c = true) (text : List Char) :
    words isSeparator (blank ++ text) = words isSeparator text := by
  induction blank with
  | nil => rfl
  | cons c blank ih =>
    rw [List.forall_mem_cons] at separators
    have split := List.splitOnP_append_cons_of_forall_mem (fun d mem => absurd mem (List.not_mem_nil (a := d))) c
      separators.1 (blank ++ text)
    rw [List.nil_append] at split
    rw [List.cons_append, words, split, List.filter_cons_of_neg (by simp)]
    exact ih separators.2

lemma words_word (is : IsWord isSeparator word) (apart : Opens isSeparator rest) :
    words isSeparator (word ++ rest) = word :: words isSeparator rest := by
  have kept : ∀ others : List (List Char), (word :: others).filter (· ≠ []) = word :: others.filter (· ≠ []) :=
    fun others => List.filter_cons_of_pos (decide_eq_true is.1)
  cases rest with
  | nil =>
    rw [List.append_nil, words, List.splitOnP_eq_singleton is.2, kept]
    rfl
  | cons c rest =>
    have separator := apart c rest rfl
    have skipped : words isSeparator ([c] ++ rest) = words isSeparator rest :=
      words_separators (by simpa using separator) rest
    rw [List.singleton_append] at skipped
    rw [skipped, words, List.splitOnP_append_cons_of_forall_mem is.2 c separator, kept, words]

lemma find_word (separators : ∀ c ∈ blank, isSeparator c = true) (is : IsWord isSeparator word) :
    find word (blank ++ (word ++ rest)) = some blank.length := by
  obtain ⟨first, others, eq⟩ := List.exists_cons_of_ne_nil is.1
  have inside : isSeparator first = false := is.2 first (eq ▸ List.mem_cons_self)
  have split : splitOnce word (blank ++ (word ++ rest)) = some (blank, rest) := by
    induction blank with
    | nil =>
      have here : word.isPrefixOf (word ++ rest) = true := List.isPrefixOf_iff_prefix.2 (List.prefix_append _ _)
      have cut : (word ++ rest).drop word.length = rest := List.drop_left
      rw [List.nil_append]
      cases whole : word ++ rest with
      | nil => rw [eq] at whole; cases whole
      | cons c tail =>
        rw [whole] at here cut
        rw [splitOnce, if_pos here, cut]
    | cons c blank ih =>
      rw [List.forall_mem_cons] at separators
      have later : ¬ word.isPrefixOf (c :: (blank ++ (word ++ rest))) = true := by
        intro found
        rw [eq, List.isPrefixOf_cons_cons, Bool.and_eq_true, beq_iff_eq] at found
        rw [← found.1, inside] at separators
        exact absurd separators.1 Bool.false_ne_true
      rw [List.cons_append, splitOnce, if_neg later, ih separators.2]
      rfl
  rw [find, split]
  rfl

variable (isSeparator) in
lemma exists_front (text : List Char) :
    ∃ front rest, text = front ++ rest ∧ (∀ c ∈ front, isSeparator c = false) ∧ Opens isSeparator rest := by
  induction text with
  | nil => exact ⟨[], [], rfl, fun _ mem => absurd mem List.not_mem_nil, fun _ _ eq => by cases eq⟩
  | cons c text ih =>
    cases inside : isSeparator c with
    | true =>
      refine ⟨[], c :: text, rfl, fun _ mem => absurd mem List.not_mem_nil, fun d rest eq => ?_⟩
      rw [← (List.cons.inj eq).1, inside]
    | false =>
      obtain ⟨front, rest, eq, word, apart⟩ := ih
      exact ⟨c :: front, rest, by rw [eq]; rfl, List.forall_mem_cons.2 ⟨inside, word⟩, apart⟩

lemma exists_word {text : List Char} (some : ∃ c ∈ text, isSeparator c = false) :
    ∃ blank word rest, text = blank ++ (word ++ rest) ∧ (∀ c ∈ blank, isSeparator c = true) ∧
      IsWord isSeparator word ∧ Opens isSeparator rest := by
  induction text with
  | nil =>
    obtain ⟨c, mem, _⟩ := some
    exact absurd mem List.not_mem_nil
  | cons c text ih =>
    cases inside : isSeparator c with
    | true =>
      obtain ⟨d, mem, other⟩ := some
      have later : d ∈ text := (List.mem_cons.1 mem).resolve_left fun same => by
        rw [same, inside] at other
        cases other
      obtain ⟨blank, word, rest, eq, separators, is, apart⟩ := ih ⟨d, later, other⟩
      exact ⟨c :: blank, word, rest, by rw [eq]; rfl, List.forall_mem_cons.2 ⟨inside, separators⟩, is, apart⟩
    | false =>
      obtain ⟨front, rest, eq, word, apart⟩ := exists_front isSeparator text
      refine ⟨[], c :: front, rest, by rw [eq]; rfl, fun _ mem => absurd mem List.not_mem_nil, ?_, apart⟩
      exact ⟨List.cons_ne_nil _ _, List.forall_mem_cons.2 ⟨inside, word⟩⟩

lemma spansFrom_word (separators : ∀ c ∈ blank, isSeparator c = true) (is : IsWord isSeparator word)
    (apart : Opens isSeparator rest) (offset : Nat) :
    spansFrom offset (blank ++ (word ++ rest)) (words isSeparator (blank ++ (word ++ rest))) =
      (spansFrom (offset + (blank.length + word.length)) rest (words isSeparator rest)).map
        ((offset + blank.length, offset + (blank.length + word.length)) :: ·) := by
  have cut : (blank ++ (word ++ rest)).drop (blank.length + word.length) = rest := by
    rw [← List.append_assoc, ← List.length_append, List.drop_left]
  rw [words_separators separators, words_word is apart, spansFrom, find_word separators is, Option.bind_eq_bind,
    Option.bind_some]
  dsimp only
  rw [cut]
  cases spansFrom (offset + (blank.length + word.length)) rest (words isSeparator rest) <;> rfl

lemma spansFrom_mem {after : List Char} (is : IsWord isSeparator word) (apart : Opens isSeparator after)
    (before : List Char) (closed : Closes isSeparator before) (offset : Nat)
    (found : spansFrom offset (before ++ (word ++ after)) (words isSeparator (before ++ (word ++ after))) = some spans) :
    (offset + before.length, offset + (before.length + word.length)) ∈ spans := by
  induction size : before.length using Nat.strong_induction_on generalizing before offset spans with
  | h size ih =>
    subst size
    by_cases more : ∃ c ∈ before, isSeparator c = false
    case pos =>
      -- another word comes first
      obtain ⟨blank, first, rest, eq, separators, isFirst, opened⟩ := exists_word more
      have rest' : rest ≠ [] := by
        intro empty
        obtain ⟨front, last, whole⟩ : ∃ front last, first = front ++ [last] :=
          ⟨_, _, (List.dropLast_concat_getLast isFirst.1).symm⟩
        have closes := closed last (blank ++ front) (by rw [eq, empty, whole]; simp)
        rw [isFirst.2 last (by rw [whole]; simp)] at closes
        cases closes
      have opened' : Opens isSeparator (rest ++ (word ++ after)) := by
        intro c tail whole
        obtain ⟨d, rest'', eq'⟩ := List.exists_cons_of_ne_nil rest'
        rw [eq', List.cons_append] at whole
        rw [← (List.cons.inj whole).1]
        exact opened d rest'' eq'
      have closed' : Closes isSeparator rest := fun c front whole =>
        closed c (blank ++ (first ++ front)) (by rw [eq, whole]; simp only [List.append_assoc])
      have whole : before ++ (word ++ after) = blank ++ (first ++ (rest ++ (word ++ after))) := by
        rw [eq]
        simp only [List.append_assoc]
      rw [whole, spansFrom_word separators isFirst opened'] at found
      obtain ⟨later, found', rfl⟩ := Option.map_eq_some_iff.1 found
      have long : first.length ≠ 0 := fun zero => isFirst.1 (List.length_eq_zero_iff.1 zero)
      have length : before.length = blank.length + (first.length + rest.length) := by
        rw [eq, List.length_append, List.length_append]
      have mem := ih rest.length (by omega) rest closed' _ found' rfl
      refine List.mem_cons_of_mem _ (Eq.mp (congrArg (· ∈ later) (Prod.ext ?_ ?_)) mem)
      · dsimp only
        omega
      · dsimp only
        omega
    case neg =>
      have separators : ∀ c ∈ before, isSeparator c = true := fun c mem => by
        cases inside : isSeparator c with
        | true => rfl
        | false => exact absurd ⟨c, mem, inside⟩ more
      rw [spansFrom_word separators is apart] at found
      obtain ⟨later, _, rfl⟩ := Option.map_eq_some_iff.1 found
      exact List.mem_cons_self

lemma spansFrom_sorted {tokens : List (List Char)} (present : ∀ token ∈ tokens, token ≠ []) {offset : Nat}
    {text : List Char} (found : spansFrom offset text tokens = some spans) :
    spans.Pairwise (fun a b => a.1 < b.1) ∧ ∀ span ∈ spans, offset ≤ span.1 := by
  induction tokens generalizing offset text spans with
  | nil =>
    cases found
    exact ⟨List.Pairwise.nil, fun _ mem => absurd mem List.not_mem_nil⟩
  | cons token tokens ih =>
    rw [List.forall_mem_cons] at present
    have long : token.length ≠ 0 := fun zero => present.1 (List.length_eq_zero_iff.1 zero)
    rw [spansFrom, Option.bind_eq_bind, Option.bind_eq_some_iff] at found
    obtain ⟨start, _, found⟩ := found
    dsimp only at found
    rw [Option.bind_eq_bind, Option.bind_eq_some_iff] at found
    obtain ⟨later, found, eq⟩ := found
    cases eq
    obtain ⟨sorted, after⟩ := ih present.2 found
    refine ⟨List.pairwise_cons.2 ⟨fun span mem => ?_, sorted⟩, List.forall_mem_cons.2 ⟨?_, fun span mem => ?_⟩⟩
    · have := after span mem
      dsimp only
      omega
    · exact Nat.le_add_right _ _
    · have := after span mem
      omega

lemma groups_mem (sorted : spans.Pairwise fun a b => a.1 < b.1) {first last : Nat × Nat} (start : first ∈ spans)
    (stop : last ∈ spans) (order : first.1 ≤ last.1) : (first.1, last.2) ∈ groups spans := by
  induction spans with
  | nil => exact absurd start List.not_mem_nil
  | cons span spans ih =>
    rw [List.pairwise_cons] at sorted
    rw [groups, List.mem_append]
    rcases List.mem_cons.1 start with same | later
    · exact .inl (List.mem_map.2 ⟨last, stop, by rw [same]⟩)
    · rcases List.mem_cons.1 stop with same | later'
      · have := sorted.1 first later
        rw [same] at order
        omega
      · exact .inr (ih sorted.2 later later')

lemma words_present (text : List Char) : ∀ word ∈ words isSeparator text, word ≠ [] :=
  fun _ mem => of_decide_eq_true (List.mem_filter.1 mem).2

/-- **A part of a text that begins and ends with words is a run of its words.** -/
theorem mem_groups {before part after : List Char} (present : part ≠ [])
    (begins : ∀ c rest, part = c :: rest → isSeparator c = false)
    (ends : ∀ c rest, part = rest ++ [c] → isSeparator c = false) (closed : Closes isSeparator before)
    (apart : Opens isSeparator after)
    (found : spansFrom 0 (before ++ (part ++ after)) (words isSeparator (before ++ (part ++ after))) = some spans) :
    (before.length, before.length + part.length) ∈ groups spans := by
  have sorted := (spansFrom_sorted (words_present _) found).1
  -- the first word of the part
  obtain ⟨front, rest, eq, inside, opened⟩ := exists_front isSeparator part
  have isFront : IsWord isSeparator front := by
    refine ⟨fun empty => ?_, inside⟩
    rw [empty, List.nil_append] at eq
    obtain ⟨c, others, whole⟩ := List.exists_cons_of_ne_nil present
    have separator := opened c others (eq ▸ whole)
    rw [begins c others whole] at separator
    cases separator
  have opened' : Opens isSeparator (rest ++ after) := by
    cases rest with
    | nil => exact apart
    | cons c others => exact fun d tail whole => (List.cons.inj whole).1 ▸ opened c others rfl
  have first : (0 + before.length, 0 + (before.length + front.length)) ∈ spans := by
    refine spansFrom_mem isFront opened' before closed 0 ?_
    rw [eq, List.append_assoc] at found
    exact found
  -- and its last
  obtain ⟨back, rest', eq', inside', opened''⟩ := exists_front isSeparator part.reverse
  have whole' : part = rest'.reverse ++ back.reverse := by
    rw [← List.reverse_append, ← eq', List.reverse_reverse]
  have isBack : IsWord isSeparator back.reverse := by
    refine ⟨fun empty => ?_, fun c mem => inside' c (List.mem_reverse.1 mem)⟩
    have none := List.reverse_eq_nil_iff.1 empty
    rw [none, List.nil_append] at eq'
    obtain ⟨c, others, whole⟩ := List.exists_cons_of_ne_nil (List.reverse_ne_nil_iff.2 present)
    have separator := opened'' c others (eq' ▸ whole)
    rw [ends c others.reverse (by rw [← List.reverse_reverse part, whole, List.reverse_cons])] at separator
    cases separator
  have closed' : Closes isSeparator (before ++ rest'.reverse) := by
    intro c front whole
    cases rest' with
    | nil => exact closed c front (by simpa using whole)
    | cons d others =>
      rw [List.reverse_cons, ← List.append_assoc] at whole
      rw [← (List.append_inj' whole rfl).2 |> List.singleton_inj.1]
      exact opened'' d others rfl
  have last : (0 + (before ++ rest'.reverse).length, 0 + ((before ++ rest'.reverse).length + back.reverse.length)) ∈
      spans := by
    refine spansFrom_mem isBack apart (before ++ rest'.reverse) closed' 0 ?_
    rw [whole', List.append_assoc] at found
    rw [List.append_assoc]
    exact found
  have mem := groups_mem sorted first last (by simp only [List.length_append]; omega)
  have length : part.length = rest'.reverse.length + back.reverse.length := by rw [whole', List.length_append]
  rw [length, ← Nat.add_assoc, ← List.length_append]
  simp only [Nat.zero_add] at mem
  exact mem

end

end Ctl.Base
