import Mathlib.Data.List.Basic
import Mathlib.Tactic.Common

/-!
# Stable sorting and the first of a sorted list

A sorted list is determined by the order of its elements that are tied (`eq_of_ties`), and sorting keeps that
order (`filter_mergeSort`). So the first `n` of a sorted list can be found by pieces: what is not among the first
`n` of a part is not among the first `n` of the whole (`top_append`).
-/

namespace Ctl.Base

variable {α : Type} {le : α → α → Bool}

def tied (le : α → α → Bool) (a b : α) : Bool := le a b && le b a

lemma tied_eq_true {a b : α} : tied le a b = true ↔ le a b = true ∧ le b a = true := by
  rw [tied, Bool.and_eq_true]

/-- The first `n` of a list, when it is sorted. -/
def top (le : α → α → Bool) (n : Nat) (l : List α) : List α := (l.mergeSort le).take n

section
variable (trans : ∀ a b c, le a b = true → le b c = true → le a c = true)
  (total : ∀ a b, (le a b || le b a) = true) {l l' : List α}

include total in
lemma tied_self (a : α) : tied le a a = true := by
  have both := total a a
  rw [Bool.or_self] at both
  rw [tied, both]
  rfl

include trans total

lemma filter_mergeSort (l : List α) (a : α) : (l.mergeSort le).filter (tied le a) = l.filter (tied le a) := by
  induction l with
  | nil => rw [List.mergeSort_nil]
  | cons b l ih =>
    obtain ⟨before, after, whole, rest, apart⟩ := List.mergeSort_cons trans total b l
    rw [rest, List.filter_append] at ih
    rw [whole, List.filter_append]
    cases tie : tied le a b with
    | false => rw [List.filter_cons_of_neg (by rw [tie]; exact Bool.false_ne_true),
        List.filter_cons_of_neg (by rw [tie]; exact Bool.false_ne_true), ih]
    | true =>
      -- what comes before the first of the elements is not tied with it
      have empty : before.filter (tied le a) = [] := by
        rw [List.filter_eq_nil_iff]
        intro c mem tie'
        have first := apart c mem
        rw [trans b a c (tied_eq_true.1 tie).2 (tied_eq_true.1 tie').1] at first
        cases first
      rw [empty, List.nil_append] at ih
      rw [List.filter_cons_of_pos tie, List.filter_cons_of_pos tie, empty, ih]
      rfl

omit trans in
lemma eq_of_ties (sorted : l.Pairwise fun a b => le a b = true) (sorted' : l'.Pairwise fun a b => le a b = true)
    (same : ∀ a, l.filter (tied le a) = l'.filter (tied le a)) : l = l' := by
  induction l generalizing l' with
  | nil =>
    cases l' with
    | nil => rfl
    | cons a l' =>
      have none := same a
      rw [List.filter_cons_of_pos (tied_self total a)] at none
      cases none
  | cons a l ih =>
    cases l' with
    | nil =>
      have none := same a
      rw [List.filter_cons_of_pos (tied_self total a)] at none
      cases none
    | cons b l' =>
      have inside : ∀ {c : α} {k k' : List α}, k.filter (tied le c) = k'.filter (tied le c) → c ∈ k → c ∈ k' :=
        fun eq mem => (List.mem_filter.1 (eq ▸ List.mem_filter.2 ⟨mem, tied_self total _⟩)).1
      have first : le a b = true := by
        rcases List.mem_cons.1 (inside (same b).symm List.mem_cons_self) with eq | mem
        · exact eq ▸ (tied_eq_true.1 (tied_self total b)).1
        · exact List.rel_of_pairwise_cons sorted mem
      have first' : le b a = true := by
        rcases List.mem_cons.1 (inside (same a) List.mem_cons_self) with eq | mem
        · exact eq ▸ (tied_eq_true.1 (tied_self total a)).1
        · exact List.rel_of_pairwise_cons sorted' mem
      have heads := same a
      rw [List.filter_cons_of_pos (tied_self total a), List.filter_cons_of_pos (tied_eq_true.2 ⟨first, first'⟩)] at heads
      obtain rfl := (List.cons.inj heads).1
      refine congrArg _ (ih sorted.of_cons sorted'.of_cons fun c => ?_)
      have whole := same c
      cases tie : tied le c a with
      | true =>
        rw [List.filter_cons_of_pos tie, List.filter_cons_of_pos tie] at whole
        exact (List.cons.inj whole).2
      | false =>
        rwa [List.filter_cons_of_neg (by rw [tie]; exact Bool.false_ne_true),
          List.filter_cons_of_neg (by rw [tie]; exact Bool.false_ne_true)] at whole

lemma filter_merge (sorted : l.Pairwise fun a b => le a b = true) (a : α) :
    (l.merge l' le).filter (tied le a) = l.filter (tied le a) ++ l'.filter (tied le a) := by
  induction l generalizing l' with
  | nil => rw [List.nil_merge]; rfl
  | cons x l ih =>
    induction l' with
    | nil => rw [List.merge_right, List.filter_nil, List.append_nil]
    | cons y l' ih' =>
      rw [List.cons_merge_cons]
      split
      case isTrue => rw [List.filter_cons, List.filter_cons (x := x), ih sorted.of_cons]; split <;> rfl
      case isFalse later =>
        cases tie : tied le a y with
        | false => rw [List.filter_cons_of_neg (by rw [tie]; exact Bool.false_ne_true), ih',
            List.filter_cons_of_neg (a := y) (by rw [tie]; exact Bool.false_ne_true)]
        | true =>
          -- nothing of the first list is tied with what comes before all of it
          have empty : (x :: l).filter (tied le a) = [] := by
            rw [List.filter_eq_nil_iff]
            intro c mem tie'
            have below : le x c = true := by
              rcases List.mem_cons.1 mem with eq | mem
              · exact eq ▸ (tied_eq_true.1 (tied_self total x)).1
              · exact List.rel_of_pairwise_cons sorted mem
            have up := trans c a y (tied_eq_true.1 tie').2 (tied_eq_true.1 tie).1
            exact later (trans x c y below up)
          rw [List.filter_cons_of_pos tie, List.filter_cons_of_pos (a := y) tie, ih', empty]
          rfl

lemma mergeSort_append (l l' : List α) : (l ++ l').mergeSort le = (l.mergeSort le).merge (l'.mergeSort le) le := by
  have sorted := List.pairwise_mergeSort trans total l
  refine eq_of_ties total (List.pairwise_mergeSort trans total _)
    (List.pairwise_merge trans total _ _ sorted (List.pairwise_mergeSort trans total l')) fun a => ?_
  rw [filter_mergeSort trans total, filter_merge trans total sorted, filter_mergeSort trans total,
    filter_mergeSort trans total, List.filter_append]

omit trans total in
lemma take_merge (n : Nat) (l l' : List α) : (l.merge l' le).take n = ((l.take n).merge l' le).take n := by
  induction n generalizing l l' with
  | zero => rfl
  | succ n ih =>
    cases l with
    | nil => rfl
    | cons x l =>
      cases l' with
      | nil =>
        rw [List.merge_right, List.merge_right, List.take_take, Nat.min_self]
      | cons y l' =>
        rw [List.take_succ_cons, List.cons_merge_cons, List.cons_merge_cons]
        split
        case isTrue => rw [List.take_succ_cons, List.take_succ_cons, ih]
        case isFalse =>
          have cut : (x :: l.take n).take n = (x :: l).take n := by
            rw [← List.take_succ_cons, List.take_take, Nat.min_eq_left (Nat.le_succ n)]
          rw [List.take_succ_cons, List.take_succ_cons, ih, ih (x :: l.take n), cut]

lemma top_append (n : Nat) (l more : List α) : top le n (top le n l ++ more) = top le n (l ++ more) := by
  have sorted : (top le n l).mergeSort le = top le n l :=
    List.mergeSort_of_pairwise ((List.pairwise_mergeSort trans total l).sublist (List.take_sublist n _))
  rw [top, mergeSort_append trans total, sorted, top, top, ← take_merge, ← mergeSort_append trans total]

lemma top_reverse (n : Nat) (same : ∀ a, l'.filter (tied le a) = (l.filter (tied le a)).reverse) :
    (top (fun a b => le b a) n l).reverse = (l'.mergeSort le).drop ((l'.mergeSort le).length - n) := by
  have turned : ∀ a, tied (fun a b => le b a) a = tied le a := fun a => funext fun b => Bool.and_comm _ _
  have sorted : (l.mergeSort fun a b => le b a).Pairwise fun a b => le b a = true :=
    List.pairwise_mergeSort (fun a b c h h' => trans c b a h' h) (fun a b => total b a) l
  have whole : (l.mergeSort fun a b => le b a).reverse = l'.mergeSort le := by
    refine eq_of_ties total (List.pairwise_reverse.2 sorted) (List.pairwise_mergeSort trans total l')
      fun a => ?_
    have stable : (l.mergeSort fun a b => le b a).filter (tied (fun a b => le b a) a) =
        l.filter (tied (fun a b => le b a) a) :=
      filter_mergeSort (fun a b c h h' => trans c b a h' h) (fun a b => total b a) l a
    rw [turned] at stable
    rw [List.filter_reverse, stable, filter_mergeSort trans total, same]
  rw [← whole, top, List.length_reverse, List.drop_reverse]
  exact congrArg _ (List.take_eq_take_iff.2 (by omega))

end

end Ctl.Base
