import Ctl.Avt.ParameterText
import Ctl.Avt.Screen

/-!
# Reading functions back

What the parser reads from a text (`Parser.reads`), and from the dump of a function in particular: nothing
that selects a buffer, unless the function does (`reads_quiet`). Parsers that have read different texts
agree once they are at the same place (`Alike`).
-/

namespace Ctl.Avt

/-- A character that is printed outside of control sequences. -/
def Printable (ch : Char) : Prop := 0x20 ≤ ch.toNat ∧ ¬ (0x80 ≤ ch.toNat ∧ ch.toNat ≤ 0x9f)

namespace Parser

def reads (p : Parser) : List Char → Parser × List Function
  | [] => (p, [])
  | ch :: text =>
    let (q, function) := p.feed ch
    let (r, functions) := q.reads text
    (r, function.toList ++ functions)

lemma reads_cons (p : Parser) (ch : Char) (text : List Char) :
    p.reads (ch :: text) =
      (((p.feed ch).1.reads text).1, (p.feed ch).2.toList ++ ((p.feed ch).1.reads text).2) := rfl

lemma reads_append (p : Parser) (first last : List Char) :
    p.reads (first ++ last) =
      (((p.reads first).1.reads last).1, (p.reads first).2 ++ ((p.reads first).1.reads last).2) := by
  induction first generalizing p with
  | nil => rfl
  | cons ch first ih =>
    rw [List.cons_append, reads_cons, reads_cons, ih]
    dsimp only
    rw [List.append_assoc]

/-! ### Characters -/

variable {ch : Char} {p q : Parser} {f : Function}

lemma code_printable (h : Printable ch) : 0x20 ≤ code ch ∧ code ch < 0x80 := by
  obtain ⟨low, high⟩ := h
  rw [code]
  split <;> omega

lemma feed_printable (p : Parser) (h : Printable ch) : p.feed ch = p.feedState ch (code ch) := by
  have bounds := code_printable h
  rw [feed]
  dsimp only
  rw [if_neg (by omega), if_neg (by omega), if_neg (by omega), if_neg (by omega), if_neg (by omega),
    if_neg (by omega), if_neg (by omega)]

lemma feed_ground (ground : p.state = .ground) (h : Printable ch) : p.feed ch = (p, some (.print ch)) := by
  have bounds := code_printable h
  rw [feed_printable p h, feedState, ground]
  exact if_neg (by omega)

lemma execute_mem (h : execute ch = some f) : f ∈ [.bs, .ht, .lf, .cr, .so, .si, .nel, .hts, .ri] := by
  unfold execute at h
  split at h
  case h_13 => cases h
  all_goals
    injection h with same
    rw [← same]
    decide

lemma feed_function (h : p.feed ch = (q, some f)) :
    execute ch = some f ∨ (q.state = .ground ∧ (p.escDispatch ch = some f ∨ p.csiDispatch ch = some f)) ∨
      (f = .print ch ∧ Printable ch ∧ p.state = .ground) := by
  unfold feed at h
  dsimp only at h
  split at h
  case isTrue => cases h
  split at h
  case isTrue => exact .inl (Prod.mk.inj h).2
  split at h
  case isTrue => cases h
  split at h
  case isTrue => cases h
  split at h
  case isTrue => cases h
  split at h
  case isTrue => cases h
  split at h
  case isTrue => cases h
  case isFalse escape cancel string terminator osc dcs introducer =>
  unfold feedState at h
  split at h
  case h_1 ground =>
    split at h
    case isTrue => exact .inl (Prod.mk.inj h).2
    case isFalse visible =>
      obtain ⟨_, same⟩ := Prod.mk.inj h
      refine .inr (.inr ⟨(Option.some.inj same).symm, ?_, ground⟩)
      unfold code at visible escape cancel string terminator osc dcs introducer
      split_ifs at *
      · exact ⟨by omega, by omega⟩
      · exact ⟨by omega, by omega⟩
  all_goals
    try split_ifs at h
    all_goals
      obtain ⟨rfl, same⟩ := Prod.mk.inj h
      first
        | exact .inl same
        | exact .inr (.inl ⟨rfl, .inl same⟩)
        | exact .inr (.inl ⟨rfl, .inr same⟩)
        | cases same

lemma csiDispatch_function (ch : Char) :
    ∀ f ∈ p.csiDispatch ch, (∀ printed, f ≠ .print printed) ∧ (p.intermediate = none → f.Still) := by
  intro f mem
  unfold csiDispatch at mem
  split at mem
  case h_4 => cases mem
  case h_1 =>
    split at mem
    all_goals
      try split at mem
      all_goals first
        | (obtain rfl := Option.some.inj mem; exact ⟨nofun, fun _ => trivial⟩)
        | cases mem
  all_goals
    case _ marked =>
      split at mem
      all_goals first
        | (obtain rfl := Option.some.inj mem; exact ⟨nofun, fun unmarked => nomatch marked.symm.trans unmarked⟩)
        | cases mem

lemma printed_of_feed {printed : Char} (h : p.feed ch = (q, some (.print printed))) :
    printed = ch ∧ Printable ch ∧ p.state = .ground := by
  have esc : p.escDispatch ch ≠ some (.print printed) := by
    intro same
    unfold escDispatch at same
    split at same
    · split at same
      · exact absurd (execute_mem same) (by simp)
      · split at same <;> cases same
    · split at same <;> cases same
    all_goals cases same
  have csi : p.csiDispatch ch ≠ some (.print printed) := fun same =>
    (csiDispatch_function ch _ same).1 printed rfl
  rcases feed_function h with control | ⟨_, sequence⟩ | ⟨same, rest⟩
  · exact absurd (execute_mem control) (by simp)
  · cases sequence with
    | inl same => exact (esc same).elim
    | inr same => exact (csi same).elim
  · exact ⟨Function.print.inj same, rest⟩

lemma ground_of_feed (h : p.feed ch = (q, some f)) (control : f ∉ [.bs, .ht, .lf, .cr, .so, .si, .nel, .hts, .ri])
    (printed : ∀ ch, f ≠ .print ch) : q.state = .ground := by
  rcases feed_function h with single | ⟨ground, _⟩ | ⟨same, _⟩
  · exact (control (execute_mem single)).elim
  · exact ground
  · exact (printed ch same).elim

/-! ### Parsers at the same place -/

/-- The parsers are at the same place: between sequences and in strings, what they have collected does not
    matter. -/
def Alike (p q : Parser) : Prop :=
  p.state = q.state ∧ (p = q ∨ p.state = .ground ∨ p.state = .oscString ∨ p.state = .sosPmApcString)

lemma Alike.refl (p : Parser) : Alike p p := ⟨rfl, .inl rfl⟩

lemma Alike.of_ground (hp : p.state = .ground) (hq : q.state = .ground) : Alike p q :=
  ⟨hp.trans hq.symm, .inr (.inl hp)⟩

lemma Alike.feed (h : Alike p q) (ch : Char) : Alike (p.feed ch).1 (q.feed ch).1 ∧ (p.feed ch).2 = (q.feed ch).2 := by
  obtain ⟨state, same | outside⟩ := h
  · rw [same]
    exact ⟨.refl _, rfl⟩
  obtain ⟨s, params, intermediate⟩ := p
  obtain ⟨s', params', intermediate'⟩ := q
  obtain rfl : s = s' := state
  unfold Parser.feed
  dsimp only
  split_ifs
  · exact ⟨⟨rfl, .inl rfl⟩, rfl⟩
  · exact ⟨⟨rfl, .inr (.inl rfl)⟩, rfl⟩
  · exact ⟨⟨rfl, .inr (.inr (.inr rfl))⟩, rfl⟩
  · exact ⟨⟨rfl, .inr (.inl rfl)⟩, rfl⟩
  · exact ⟨⟨rfl, .inr (.inr (.inl rfl))⟩, rfl⟩
  · exact ⟨⟨rfl, .inl rfl⟩, rfl⟩
  · exact ⟨⟨rfl, .inl rfl⟩, rfl⟩
  · rcases outside with rfl | rfl | rfl
    · simp only [feedState]
      split_ifs
      · exact ⟨⟨rfl, .inr (.inl rfl)⟩, rfl⟩
      · exact ⟨⟨rfl, .inr (.inl rfl)⟩, rfl⟩
    · simp only [feedState]
      split_ifs
      · exact ⟨⟨rfl, .inr (.inl rfl)⟩, rfl⟩
      · exact ⟨⟨rfl, .inr (.inr (.inl rfl))⟩, rfl⟩
    · exact ⟨⟨rfl, .inr (.inr (.inr rfl))⟩, rfl⟩

/-! ### Control sequences without a mark -/

/-- Inside a control sequence with numbers only. -/
def InCsi (p : Parser) : Prop :=
  p.intermediate = none ∧ (p.state = .csiEntry ∨ p.state = .csiParam ∨ p.state = .csiIgnore)

lemma inCsi_parameter (h : p.InCsi) (digit : 0x30 ≤ ch.toNat ∧ ch.toNat ≤ 0x3b) :
    (p.feed ch).1.InCsi ∧ (p.feed ch).2 = none := by
  have code : code ch = ch.toNat := if_neg (by omega)
  have printable : Printable ch := ⟨by omega, by omega⟩
  rw [feed_printable p printable, code, feedState]
  obtain ⟨unmarked, state | state | state⟩ := h
  · rw [state]
    dsimp only
    rw [if_neg (by omega), if_neg (by omega)]
    split_ifs
    · exact ⟨⟨unmarked, .inr (.inr rfl)⟩, rfl⟩
    · exact ⟨⟨(param_intermediate p ch).trans unmarked, .inr (.inl rfl)⟩, rfl⟩
    · omega
    · omega
    · omega
  · rw [state]
    dsimp only
    rw [if_neg (by omega), if_neg (by omega), if_pos (by omega)]
    refine ⟨⟨(param_intermediate p ch).trans unmarked, .inr (.inl ?_)⟩, rfl⟩
    rw [param_state, state]
  · rw [state]
    dsimp only
    rw [if_neg (by omega), if_pos (by omega)]
    exact ⟨⟨unmarked, .inr (.inr state)⟩, rfl⟩

lemma reads_numeric {text : List Char} (numeric : Numeric text) (h : p.InCsi) :
    (p.reads text).1.InCsi ∧ (p.reads text).2 = [] := by
  induction text generalizing p with
  | nil => exact ⟨h, rfl⟩
  | cons ch text ih =>
    obtain ⟨inside, nothing⟩ := inCsi_parameter h (numeric ch List.mem_cons_self)
    obtain ⟨ended, rest⟩ := ih (fun c mem => numeric c (List.mem_cons_of_mem ch mem)) inside
    rw [reads_cons, nothing, rest]
    exact ⟨ended, rfl⟩

lemma inCsi_final (h : p.InCsi) (final : 0x40 ≤ ch.toNat ∧ ch.toNat ≤ 0x7e) :
    (p.feed ch).1.state = .ground ∧ ∀ f ∈ (p.feed ch).2, f.Still := by
  have code : code ch = ch.toNat := if_neg (by omega)
  have printable : Printable ch := ⟨by omega, by omega⟩
  have still := fun f mem => (csiDispatch_function ch f mem).2 h.1
  rw [feed_printable p printable, code, feedState]
  obtain ⟨_, state | state | state⟩ := h
  · rw [state]
    dsimp only
    rw [if_neg (by omega), if_neg (by omega), if_neg (by omega), if_neg (by omega), if_neg (by omega),
      if_neg (by omega)]
    exact ⟨rfl, still⟩
  · rw [state]
    dsimp only
    rw [if_neg (by omega), if_neg (by omega), if_neg (by omega), if_neg (by omega), if_neg (by omega)]
    exact ⟨rfl, still⟩
  · rw [state]
    dsimp only
    rw [if_neg (by omega), if_neg (by omega)]
    exact ⟨rfl, nofun⟩

/-- A text leaves the parser outside of sequences, and nothing in it selects a buffer. -/
def Passes (p : Parser) (text : List Char) : Prop :=
  (p.reads text).1.state = .ground ∧ ∀ f ∈ (p.reads text).2, f.Still

lemma Passes.append {first last : List Char} (h : p.Passes first) (k : (p.reads first).1.Passes last) :
    p.Passes (first ++ last) := by
  rw [Passes, reads_append]
  refine ⟨k.1, fun f mem => ?_⟩
  cases List.mem_append.1 mem with
  | inl mem => exact h.2 f mem
  | inr mem => exact k.2 f mem

lemma passes_one {p : Parser} {text : List Char} {f : Function} (ground : (p.reads text).1.state = .ground)
    (read : (p.reads text).2 = [f]) (still : f.Still) : p.Passes text := by
  refine ⟨ground, fun g mem => ?_⟩
  rw [read] at mem
  rw [List.mem_singleton.1 mem]
  exact still

lemma passes_csi (p : Parser) {texts : List (List Char)} (numeric : ∀ text ∈ texts, Numeric text) {final : Char}
    (bounds : 0x40 ≤ final.toNat ∧ final.toNat ≤ 0x7e) : p.Passes (Function.csi none texts final) := by
  have whole : Numeric (join ';' texts) := numeric_join numeric (by decide)
  obtain ⟨inside, nothing⟩ := reads_numeric whole (p := ⟨.csiEntry, [[0]], none⟩) ⟨rfl, .inl rfl⟩
  obtain ⟨ground, still⟩ := inCsi_final inside bounds
  have read : p.reads (Function.csi none texts final) =
      (((⟨.csiEntry, [[0]], none⟩ : Parser).reads (join ';' texts)).1.feed final |>.1,
        (((⟨.csiEntry, [[0]], none⟩ : Parser).reads (join ';' texts)).1.feed final).2.toList) := by
    show (⟨.csiEntry, [[0]], none⟩ : Parser).reads (join ';' texts ++ [final]) = _
    rw [reads_append, nothing, reads_cons]
    simp [reads]
  rw [Passes, read]
  exact ⟨ground, fun f mem => still f (Option.mem_toList.1 mem)⟩

end Parser

/-! ### Dumped functions -/

def Function.Quiet : Function → Prop
  | .decset modes => ∃ mode, modes = [mode] ∧ mode.selects = false
  | .decrst modes => ∃ mode, modes = [mode] ∧ mode.selects = false
  | .ris => False
  | .print ch => Printable ch
  | _ => True

namespace Parser

variable {p : Parser}

lemma passes_control (ground : p.state = .ground) :
    ∀ ch ∈ ['\x08', '\r', '\t', '\n', '\x0f', '\x0e'], p.Passes [ch] := by
  obtain ⟨state, params, intermediate⟩ := p
  obtain rfl : state = .ground := ground
  intro ch mem
  simp only [List.mem_cons, List.not_mem_nil, or_false] at mem
  rcases mem with rfl | rfl | rfl | rfl | rfl | rfl
  all_goals exact passes_one rfl rfl trivial

lemma passes_esc (p : Parser) :
    ∀ sequence ∈ [(some '#', '8'), (none, '8'), (none, '7'), (some ')', '0'), (some ')', 'B'), (some '(', '0'),
      (some '(', 'B'), (none, 'H'), (none, 'E'), (none, 'M')],
    p.Passes (Function.esc sequence.1 sequence.2) := by
  intro sequence mem
  simp only [List.mem_cons, List.not_mem_nil, or_false] at mem
  rcases mem with rfl | rfl | rfl | rfl | rfl | rfl | rfl | rfl | rfl | rfl
  all_goals exact passes_one rfl rfl trivial

lemma passes_mode (p : Parser) {mode : DecMode} (other : mode.selects = false) :
    p.Passes (Function.decset [mode]).dump ∧ p.Passes (Function.decrst [mode]).dump := by
  cases mode with
  | altScreenBuffer => exact nomatch other
  | saveCursorAltScreenBuffer => exact nomatch other
  | _ => exact ⟨passes_one rfl rfl rfl, passes_one rfl rfl rfl⟩

/-- The dump of a function that selects no buffer. -/
theorem passes_quiet (ground : p.state = .ground) {f : Function} (quiet : f.Quiet) : p.Passes f.dump := by
  have one : ∀ n final, 0x40 ≤ final.toNat ∧ final.toNat ≤ 0x7e → p.Passes (Function.csi none [decimal n] final) :=
    fun n final => passes_csi p (numeric_decimals [n])
  have two : ∀ n m final, 0x40 ≤ final.toNat ∧ final.toNat ≤ 0x7e →
      p.Passes (Function.csi none [decimal n, decimal m] final) :=
    fun n m final => passes_csi p (numeric_decimals [n, m])
  have ansi : ∀ (ansi : List AnsiMode) final, 0x40 ≤ final.toNat ∧ final.toNat ≤ 0x7e →
      p.Passes (Function.csi none (ansi.map fun mode => decimal (Function.ansiNumber mode)) final) := by
    intro ansi final
    apply passes_csi
    intro text mem
    obtain ⟨mode, _, rfl⟩ := List.mem_map.1 mem
    exact numeric_decimal _
  have escape := passes_esc p
  have control := passes_control ground
  cases f with
  | ris => exact quiet.elim
  | print ch =>
    have printable : Printable ch := quiet
    have read : p.reads [ch] = (p, [.print ch]) := by
      rw [reads_cons, feed_ground ground printable]
      rfl
    exact @passes_one p [ch] (.print ch) (by rw [read]; exact ground) (by rw [read]) trivial
  | decset modes =>
    obtain ⟨mode, rfl, other⟩ := quiet
    exact (passes_mode p other).1
  | decrst modes =>
    obtain ⟨mode, rfl, other⟩ := quiet
    exact (passes_mode p other).2
  | sm list => exact ansi list 'h' (by decide)
  | rm list => exact ansi list 'l' (by decide)
  | sgr ops =>
    rw [Function.dump]
    split
    case isTrue => exact two 38 2 'm' (by decide)
    case isFalse =>
      apply passes_csi p _ (by decide)
      intro text mem
      obtain ⟨op, _, rfl⟩ := List.mem_map.1 mem
      exact numeric_sgrParam op
  | xtwinops cols rows => exact passes_csi p (numeric_decimals [8, rows, cols]) (by decide)
  | decstr => exact passes_one rfl rfl trivial
  | scorc => exact @passes_csi p [] nofun _ (by decide)
  | scosc => exact @passes_csi p [] nofun _ (by decide)
  | g1d4 charset => cases charset <;> exact escape (_, _) (by decide)
  | gzd4 charset => cases charset <;> exact escape (_, _) (by decide)
  | decaln => exact escape (_, _) (by decide)
  | decrc => exact escape (_, _) (by decide)
  | decsc => exact escape (_, _) (by decide)
  | hts => exact escape (_, _) (by decide)
  | nel => exact escape (_, _) (by decide)
  | ri => exact escape (_, _) (by decide)
  | bs | cr | ht | lf | si | so => exact control _ (by decide)
  | cup row col => exact two row col 'H' (by decide)
  | decstbm top bottom => exact two top bottom 'r' (by decide)
  | _ => exact one _ _ (by decide)

lemma passes_functions (ground : p.state = .ground) {functions : List Function} (quiet : ∀ f ∈ functions, f.Quiet) :
    p.Passes (functions.flatMap Function.dump) := by
  induction functions generalizing p with
  | nil => exact ⟨ground, nofun⟩
  | cons f functions ih =>
    have own := passes_quiet ground (quiet f List.mem_cons_self)
    rw [List.flatMap_cons]
    exact own.append (ih own.1 fun g mem => quiet g (List.mem_cons_of_mem f mem))

end Parser

end Ctl.Avt
