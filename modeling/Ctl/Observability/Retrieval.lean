import Ctl.Base.Guards
import Ctl.Observability.Storage
import Mathlib.Data.Prod.Lex

/-!
# The history that is read

`read_filtered` returns the newest records of everything that is stored (`readFiltered_records`), though it holds
less than twice as many at a time: what is dropped on the way would not be among them (`Pruned`).
-/

namespace Ctl.Observability
open Ctl.Base Ctl.Proto

/-! ### The order -/

section
variable {Uuid : Type} [LinearOrder Uuid] {limit : Nat} {records visited : List (Record Uuid)}

def Record.key (record : Record Uuid) : ℕ ×ₗ Uuid := toLex (record.timestampMs.toNat, record.runId)

def older (a b : Record Uuid) : Bool := a.key ≤ b.key

def lastRecords (limit : Nat) (records : List (Record Uuid)) : List (Record Uuid) :=
  (records.mergeSort older).drop ((records.mergeSort older).length - limit)

lemma older_trans (a b c : Record Uuid) (h : older a b = true) (h' : older b c = true) : older a c = true :=
  decide_eq_true ((of_decide_eq_true h).trans (of_decide_eq_true h'))

lemma older_total (a b : Record Uuid) : (older a b || older b a) = true := by
  rw [Bool.or_eq_true]
  exact (le_total a.key b.key).imp decide_eq_true decide_eq_true

lemma runId_of_tied {a b : Record Uuid} (tie : tied (@older Uuid _) a b = true) : a.runId = b.runId := by
  obtain ⟨le, le'⟩ := tied_eq_true.1 tie
  have same : a.key = b.key := le_antisymm (of_decide_eq_true le) (of_decide_eq_true le')
  exact congrArg (fun key : ℕ ×ₗ Uuid => (ofLex key).2) same

lemma lastRecords_nil (limit : Nat) : lastRecords limit ([] : List (Record Uuid)) = [] := by
  rw [lastRecords, List.mergeSort_nil, List.drop_nil]

lemma newestOrder_isLE (left right : Record Uuid) : (newestOrder left right).isLE = older right left := by
  rw [Bool.eq_iff_iff, newestOrder, older, decide_eq_true_eq, Record.key, Record.key, Prod.Lex.toLex_le_toLex]
  rcases lt_trichotomy right.timestampMs.toNat left.timestampMs.toNat with lt | eq | gt
  · rw [compare_lt_iff_lt.2 lt]
    exact iff_of_true rfl (.inl lt)
  · rw [compare_eq_iff_eq.2 eq]
    show (compare right.runId left.runId).isLE = true ↔ _
  
    simp only [eq, lt_irrefl, false_or, true_and]
    exact Ordering.isLE_iff_ne_gt.trans compare_le_iff_le
  · rw [compare_gt_iff_gt.2 gt]
    exact iff_of_false Bool.false_ne_true (by simp; omega)

lemma newest_eq (records : List (Record Uuid)) (limit : Nat) :
    newest records limit = top (fun a b => older b a) limit records := by
  have order : (fun left right : Record Uuid => (newestOrder left right).isLE) = fun a b => older b a :=
    funext fun a => funext fun b => newestOrder_isLE a b
  rw [newest, order, top]

/-! ### Truncation on the way -/

def Pruned (limit : Nat) (records visited : List (Record Uuid)) : Prop :=
  top (fun a b => older b a) limit records = top (fun a b => older b a) limit visited

lemma newest_append (limit : Nat) (records more : List (Record Uuid)) :
    top (fun a b => older b a) limit (top (fun a b => older b a) limit records ++ more) =
      top (fun a b => older b a) limit (records ++ more) :=
  top_append (fun a b c h h' => older_trans c b a h' h) (fun a b => older_total b a) limit records more

lemma Pruned.append (h : Pruned limit records visited) (more : List (Record Uuid)) :
    Pruned limit (records ++ more) (visited ++ more) := by
  unfold Pruned at h ⊢
  rw [← newest_append, h, newest_append]

lemma Pruned.newest (h : Pruned limit records visited) : Pruned limit (newest records limit) visited := by
  have again := newest_append limit records []
  rw [List.append_nil, List.append_nil] at again
  rw [Pruned, newest_eq, again, h]

end

section
variable {crates : Crates} [LinearOrder crates.Uuid] {limit : Nat} {filter : Filter}
  {history history' : History crates.Uuid} {visited : List (Record crates.Uuid)} {store : Store} {run : crates.Uuid}
  {segments : Segments} {logs : Logs crates.Uuid}

/-! ### What is stored -/

def storedLines (segments : Segments) : List (List UInt8) :=
  [3, 2, 1, 0].flatMap fun index => splitInclusive 10 ((segments index).getD [])

def chosen (filter : Filter) (run : crates.Uuid) (line : List UInt8) : Option (Record crates.Uuid) :=
  (readLine crates run line).filter filter.selects

def matching (filter : Filter) (segments : Segments) (run : crates.Uuid) : List (Record crates.Uuid) :=
  (storedLines segments).filterMap (chosen filter run)

def stored (filter : Filter) (run : Option crates.Uuid) (directory : Option (Directory crates.Uuid)) :
    List (Record crates.Uuid) :=
  match directory.bind (·.logs) with
  | none => []
  | some logs => (selectedRuns crates logs run).flatMap fun run => matching filter (logs.segments run) run

/-! ### Lines -/

lemma keepLine_records (run : crates.Uuid) (line : List UInt8) :
    (keepLine crates run filter history line).records = history.records ++ (chosen filter run line).toList := by
  unfold keepLine chosen
  cases readLine crates run line with
  | none => exact (List.append_nil _).symm
  | some record =>
    cases selects : filter.selects record with
    | true => simp [Option.filter, selects]
    | false => simp [Option.filter, selects]

lemma visitLine_pruned (run : crates.Uuid) (line : List UInt8) (h : Pruned limit history.records visited) :
    Pruned limit (visitLine crates run limit filter history line).records
      (visited ++ (chosen filter run line).toList) := by
  have kept := h.append (chosen filter run line).toList
  rw [← keepLine_records] at kept
  unfold visitLine
  dsimp only
  split
  · exact kept.newest
  · exact kept

lemma foldl_visitLine_pruned (run : crates.Uuid) (lines : List (List UInt8))
    (h : Pruned limit history.records visited) :
    Pruned limit (lines.foldl (visitLine crates run limit filter) history).records
      (visited ++ lines.filterMap (chosen filter run)) := by
  induction lines generalizing history visited with
  | nil =>
    rw [List.filterMap_nil, List.append_nil]
    exact h
  | cons line lines ih =>
    have visit : Pruned limit (visitLine crates run limit filter history line).records
        (visited ++ (chosen filter run line).toList) := visitLine_pruned run line h
    have rest := ih visit
    rw [List.append_assoc] at rest
    rw [List.foldl_cons]
    cases found : chosen filter run line with
    | none =>
      rw [found] at rest
      rw [List.filterMap_cons_none found]
      exact rest
    | some record =>
      rw [found] at rest
      rw [List.filterMap_cons_some found]
      exact rest

lemma visitLine_bounded (run : crates.Uuid) (positive : 1 ≤ limit) (line : List UInt8) :
    (visitLine crates run limit filter history line).records.length < limit * 2 := by
  unfold visitLine
  dsimp only
  split
  case isTrue full =>
    have short : (newest (keepLine crates run filter history line).records limit).length ≤ limit :=
      List.length_take_le _ _
    show (newest _ limit).length < limit * 2
    omega
  case isFalse few => omega

/-! ### Segments and runs -/

lemma readSegment_pruned {index : Nat} (h : Pruned limit history.records visited)
    (read : readSegment crates store segments run limit filter history index = .ok history') :
    Pruned limit history'.records
      (visited ++ ((splitInclusive 10 ((segments index).getD [])).reverse.filterMap (chosen filter run))) := by
  unfold readSegment at read
  split at read
  case h_1 absent =>
    cases read
    rw [absent]
    show Pruned limit _ (visited ++ [])
    rw [List.append_nil]
    exact h
  case h_2 bytes found =>
    split at read
    · cases read
    · cases read
      rw [found]
      exact foldl_visitLine_pruned run _ h

lemma readLogRun_pruned (h : Pruned limit history.records visited)
    (read : readLogRun crates store logs limit filter history run = .ok history') :
    Pruned limit history'.records (visited ++ (matching filter (logs.segments run) run).reverse) := by
  unfold readLogRun at read
  split at read
  case isTrue absent =>
    cases read
    have none := absent.2
    simp only [List.forall_mem_cons] at none
    obtain ⟨zero, one, two, three, -⟩ := none
    have empty : matching filter (logs.segments run) run = [] := by
      simp [matching, storedLines, zero, one, two, three, splitInclusive]
    rw [empty, List.reverse_nil, List.append_nil]
    exact h
  case isFalse =>
    split at read
    · cases read
    · cases read
    · split at read
      · cases read
      case h_2 last folded =>
        cases read
        simp only [List.foldlM_cons, List.foldlM_nil, bind_eq_ok] at folded
        obtain ⟨zero, read0, one, read1, two, read2, three, read3, done⟩ := folded
        obtain rfl := pure_eq_ok.1 done
        have whole := readSegment_pruned (readSegment_pruned (readSegment_pruned (readSegment_pruned h read0) read1)
          read2) read3
        refine Pruned.newest ?_
        simpa [matching, storedLines, List.filterMap_reverse, List.filterMap_append] using whole

lemma foldlM_readLogRun_pruned {runs : List crates.Uuid} (h : Pruned limit history.records visited)
    (read : runs.foldlM (readLogRun crates store logs limit filter) history = .ok history') :
    Pruned limit history'.records
      (visited ++ runs.flatMap fun run => (matching filter (logs.segments run) run).reverse) := by
  induction runs generalizing history visited with
  | nil =>
    rw [List.foldlM_nil] at read
    obtain rfl := pure_eq_ok.1 read
    rw [List.flatMap_nil, List.append_nil]
    exact h
  | cons run runs ih =>
    rw [List.foldlM_cons, bind_eq_ok] at read
    obtain ⟨next, read, rest⟩ := read
    have done := ih (readLogRun_pruned h read) rest
    rw [List.append_assoc] at done
    rw [List.flatMap_cons]
    exact done

/-! ### The whole history -/

omit [LinearOrder crates.Uuid] in
lemma filter_flatMap_key {κ α : Type} [DecidableEq κ] {keys : List κ} (nodup : keys.Nodup) {f : κ → List α}
    {p : α → Bool} {k : κ} (own : ∀ key, ∀ b ∈ f key, p b = true → key = k) :
    (keys.flatMap f).filter p = if k ∈ keys then (f k).filter p else [] := by
  induction keys with
  | nil => rfl
  | cons key keys ih =>
    rw [List.nodup_cons] at nodup
    rw [List.flatMap_cons, List.filter_append, ih nodup.2]
    by_cases same : k = key
    · rw [if_pos (List.mem_cons.2 (.inl same)), if_neg (same ▸ nodup.1), List.append_nil, same]
    · have others : (f key).filter p = [] :=
        List.filter_eq_nil_iff.2 fun b mem holds => same (own key b mem holds).symm
      rw [others, List.nil_append]
      exact if_congr (by rw [List.mem_cons, or_iff_right same]) rfl rfl

lemma matching_runId {record : Record crates.Uuid} (mem : record ∈ matching filter segments run) :
    record.runId = run := by
  obtain ⟨line, -, read⟩ := List.mem_filterMap.1 mem
  have read' := Option.mem_filter_iff.1 (show record ∈ (readLine crates run line).filter _ from read)
  have own := read'.1
  unfold readLine at own
  split at own
  · have valid := (Option.mem_filter_iff.1 own).2
    rw [Bool.and_eq_true, decide_eq_true_eq] at valid
    exact valid.2
  · exact absurd own (Option.not_mem_none _)

lemma selectedRuns_nodup (logs : Logs crates.Uuid) (run : Option crates.Uuid) : (selectedRuns crates logs run).Nodup := by
  cases run with
  | some run => exact List.nodup_singleton run
  | none => exact (List.mergeSort_perm _ _).nodup_iff.2 (List.nodup_dedup _)

lemma readFiltered_records {directory : Option (Directory crates.Uuid)} {run : Option crates.Uuid}
    (read : store.readFiltered crates directory limit filter run = .ok history) :
    history.records = lastRecords limit (stored filter run directory) := by
  have final : ∀ {start last : History crates.Uuid} {logs : Logs crates.Uuid}, start.records = [] →
      (selectedRuns crates logs run).foldlM (readLogRun crates store logs limit filter) start = .ok last →
      (newest last.records limit).reverse =
        lastRecords limit ((selectedRuns crates logs run).flatMap fun run => matching filter (logs.segments run) run) := by
    intro start last logs empty folded
    have pruned := foldlM_readLogRun_pruned (show Pruned limit start.records [] by rw [empty]; rfl) folded
    rw [List.nil_append] at pruned
    rw [newest_eq, show top _ limit last.records = _ from pruned]
    refine top_reverse older_trans older_total limit fun a => ?_
    have own : ∀ key, ∀ b ∈ matching filter (logs.segments key) key, tied older a b = true → key = a.runId :=
      fun key b mem tie => (matching_runId mem).symm.trans (runId_of_tied tie).symm
    rw [filter_flatMap_key (selectedRuns_nodup logs run) own, filter_flatMap_key (selectedRuns_nodup logs run)
      fun key b mem => own key b (List.mem_reverse.1 mem)]
    split
    · rw [List.filter_reverse, List.reverse_reverse]
    · rfl
  unfold Store.readFiltered at read
  split at read
  · cases read
  case isFalse =>
    cases directory with
    | none =>
      cases read
      exact (lastRecords_nil limit).symm
    | some directory =>
      dsimp only at read
      unfold stored
      rw [Option.bind_some]
      cases kept : directory.logs with
      | none =>
        rw [kept] at read
        cases read
        rw [lastRecords_nil]
        cases directory.legacy <;> rfl
      | some logs =>
        rw [kept] at read
        dsimp only at read
        split at read
        · cases read
        case h_2 last folded =>
          cases read
          refine final ?_ folded
          cases directory.legacy <;> split <;> rfl

end

end Ctl.Observability
