import Ctl.Avt.Numbers
import Ctl.Core.History

/-!
# Styles as control sequences

Model of `TerminalStyle::sgr` in `ctmux/proto/src/history_style.rs` and of `style_pen` in
`ctmux/core/src/history.rs`. The emulator reads the control sequence of a style as the pen of the style
(`sgr_draws`), whatever pen it had before.
-/

namespace Ctl.Core
open Ctl.Proto Ctl.Avt

def colorCode (selector : Nat) : TerminalColor → Text
  | .indexed index => join ';' [decimal selector, ['5'], decimal index.toNat]
  | .rgb red green blue =>
    join ';' [decimal selector, ['2'], decimal red.toNat, decimal green.toNat, decimal blue.toNat]

def styleCodes (style : TerminalStyle) : List Text :=
  ([(style.bold, ['1']), (style.faint, ['2']), (style.italic, ['3']), (style.underline, ['4']),
    (style.blink, ['5']), (style.inverse, ['7']), (style.strikethrough, ['9'])].filter (·.1)).map (·.2) ++
  (style.foreground.map (colorCode 38)).toList ++ (style.background.map (colorCode 48)).toList

/-- The control sequence of a style (Rust `sgr`). -/
def sgr (style : TerminalStyle) : Text := '\x1b' :: '[' :: (join ';' (['0'] :: styleCodes style) ++ ['m'])

/-- The color of the emulator (the closure of Rust `style_pen`). -/
def penColor : TerminalColor → Color
  | .indexed index => .indexed index
  | .rgb red green blue => .rgb red green blue

/-- Rust `style_pen`. -/
def stylePen (style : TerminalStyle) : Pen :=
  let pen : Pen := { Pen.default with
    foreground := style.foreground.map penColor
    background := style.background.map penColor }
  let pen := if style.bold then { pen with intensity := .bold } else pen
  let pen := if style.faint then { pen with intensity := .faint } else pen
  let pen := if style.italic then { pen with italic := true } else pen
  let pen := if style.underline then { pen with underline := true } else pen
  let pen := if style.strikethrough then { pen with strikethrough := true } else pen
  let pen := if style.blink then { pen with blink := true } else pen
  if style.inverse then { pen with inverse := true } else pen

lemma ite_pen (p : Prop) [Decidable p] (pen pen' : Pen) : (if p then pen else pen') =
    ⟨if p then pen.foreground else pen'.foreground, if p then pen.background else pen'.background,
      if p then pen.intensity else pen'.intensity, if p then pen.italic else pen'.italic,
      if p then pen.underline else pen'.underline, if p then pen.strikethrough else pen'.strikethrough,
      if p then pen.blink else pen'.blink, if p then pen.inverse else pen'.inverse⟩ := by
  split <;> rfl

lemma stylePen_eq (style : TerminalStyle) :
    stylePen style = ⟨style.foreground.map penColor, style.background.map penColor,
      if style.faint then .faint else if style.bold then .bold else .normal, style.italic, style.underline,
      style.strikethrough, style.blink, style.inverse⟩ := by
  simp only [stylePen, Pen.default, ite_pen, ite_self, Bool.if_true_left, Bool.or_false, Bool.decide_eq_true]

lemma stylePen_style (pen : Pen) : stylePen (style pen) = pen := by
  have colors : ∀ c : Option Color, (c.map color).map penColor = c := by
    intro c
    cases c with
    | none => rfl
    | some c => cases c <;> rfl
  obtain ⟨foreground, background, intensity, italic, underline, strikethrough, blink, inverse⟩ := pen
  rw [stylePen_eq]
  unfold style
  dsimp only
  rw [colors, colors]
  cases intensity <;> rfl

/-! ### The codes as numbers -/

def colorNumbers (selector : Nat) : TerminalColor → List Nat
  | .indexed index => [selector, 5, index.toNat]
  | .rgb red green blue => [selector, 2, red.toNat, green.toNat, blue.toNat]

def styleFlags (style : TerminalStyle) : List (Bool × Nat × SgrOp) :=
  [(style.bold, 1, .setBoldIntensity), (style.faint, 2, .setFaintIntensity), (style.italic, 3, .setItalic),
    (style.underline, 4, .setUnderline), (style.blink, 5, .setBlink), (style.inverse, 7, .setInverse),
    (style.strikethrough, 9, .setStrikethrough)]

def styleNumbers (style : TerminalStyle) : List (List Nat) :=
  [0] :: (((styleFlags style).filter (·.1)).map fun flag => [flag.2.1]) ++
    (style.foreground.map (colorNumbers 38)).toList ++ (style.background.map (colorNumbers 48)).toList

lemma colorCode_eq (selector : Nat) (color : TerminalColor) :
    colorCode selector color = join ';' ((colorNumbers selector color).map decimal) := by
  cases color <;> rfl

lemma styleCodes_eq (style : TerminalStyle) :
    ['0'] :: styleCodes style = (styleNumbers style).map fun code => join ';' (code.map decimal) := by
  have colors : ∀ selector (color : Option TerminalColor), (color.map (colorCode selector)).toList =
      (color.map (colorNumbers selector)).toList.map fun code => join ';' (code.map decimal) := by
    intro selector color
    cases color with
    | none => rfl
    | some color => exact congrArg (fun code => [code]) (colorCode_eq selector color)
  have flags : ∀ flags : List (Bool × Nat × SgrOp), ((flags.filter (·.1)).map fun flag => [flag.2.1]).map
      (fun code => join ';' (code.map decimal)) =
        ((flags.map fun flag => (flag.1, decimal flag.2.1)).filter (·.1)).map (·.2) := by
    intro flags
    induction flags with
    | nil => rfl
    | cons flag flags ih =>
      obtain ⟨set, n, op⟩ := flag
      cases set with
      | false => exact ih
      | true =>
        refine congrArg₂ List.cons ?_ ih
        simp [join]
  have digits : [0, 1, 2, 3, 4, 5, 7, 9].map decimal = [['0'], ['1'], ['2'], ['3'], ['4'], ['5'], ['7'], ['9']] := by
    decide
  simp only [List.map_cons, List.cons.injEq] at digits
  rw [styleNumbers, List.map_append, List.map_append, List.map_cons, flags, ← colors, ← colors]
  simp only [styleFlags, List.map_cons, List.map_nil, digits]
  simp only [join, List.intercalate_singleton]
  rfl

lemma join_groups {groups : List (List Text)} (some : ∀ group ∈ groups, group ≠ []) :
    join ';' (groups.map (join ';')) = join ';' groups.flatten := by
  have front : ∀ (group rest : List Text), group ≠ [] → rest ≠ [] →
      join ';' (group ++ rest) = join ';' group ++ ';' :: join ';' rest := by
    intro group rest ne other
    obtain ⟨next, rest, rfl⟩ := List.exists_cons_of_ne_nil other
    induction group with
    | nil => exact absurd rfl ne
    | cons text group ih =>
      cases group with
      | nil =>
        rw [List.singleton_append, join_cons]
        simp [join]
      | cons text' group =>
        rw [List.cons_append, List.cons_append, join_cons, join_cons, List.append_assoc, List.cons_append]
        rw [← List.cons_append, ih (List.cons_ne_nil _ _)]
  induction groups with
  | nil => rfl
  | cons group groups ih =>
    have own := some group List.mem_cons_self
    have later := ih fun g mem => some g (List.mem_cons_of_mem group mem)
    cases groups with
    | nil => simp [join]
    | cons group' groups =>
      have ne : (group' :: groups).flatten ≠ [] := by
        have := some group' (List.mem_cons_of_mem group List.mem_cons_self)
        simp [this]
      rw [List.flatten_cons, front group _ own ne, List.map_cons, List.map_cons, join_cons, ← later]
      rfl

/-! ### The pen of a style -/

def penRead (numbers : List Nat) (pen : Pen) : Pen :=
  (Parser.sgrOps (numbers.map fun n => [n])).foldl Terminal.penAfter pen

lemma penRead_cons {n : Nat} {op : SgrOp} (alone : Parser.sgrOp [n] = some op) (first : n ≠ 38) (second : n ≠ 48)
    (rest : List Nat) (pen : Pen) : penRead (n :: rest) pen = penRead rest (Terminal.penAfter pen op) := by
  have ops : Parser.sgrOps ([n] :: rest.map fun n => [n]) = op :: Parser.sgrOps (rest.map fun n => [n]) := by
    rw [Parser.sgrOps, alone]
    · rfl
    all_goals
      intros
      simp_all
  unfold penRead
  rw [List.map_cons, ops, List.foldl_cons]

lemma penRead_flags {flags : List (Bool × Nat × SgrOp)}
    (known : ∀ flag ∈ flags, Parser.sgrOp [flag.2.1] = some flag.2.2 ∧ flag.2.1 ≠ 38 ∧ flag.2.1 ≠ 48)
    (rest : List Nat) (pen : Pen) :
    penRead ((((flags.filter (·.1)).map fun flag => [flag.2.1]).flatten) ++ rest) pen =
      penRead rest (flags.foldl (fun pen flag => if flag.1 then Terminal.penAfter pen flag.2.2 else pen) pen) := by
  induction flags generalizing pen with
  | nil => rfl
  | cons flag flags ih =>
    obtain ⟨set, n, op⟩ := flag
    have more := ih fun flag mem => known flag (List.mem_cons_of_mem _ mem)
    cases set with
    | false => exact more pen
    | true =>
      obtain ⟨alone, first, second⟩ := known _ List.mem_cons_self
      show penRead (n :: _) pen = _
      rw [penRead_cons alone first second]
      exact more _

lemma penRead_foreground (color : Option TerminalColor) (rest : List Nat) (pen : Pen) :
    penRead ((color.map (colorNumbers 38)).toList.flatten ++ rest) pen =
      penRead rest { pen with foreground := (color.map penColor).or pen.foreground } := by
  match color with
  | none => rfl
  | some (.indexed index) =>
    show (Parser.sgrOps ([38] :: [5] :: [index.toNat] :: _)).foldl _ _ = _
    rw [Parser.sgrOps, List.foldl_cons]
    simp only [Terminal.penAfter, List.headD_cons, UInt8.ofNat_toNat]
    rfl
  | some (.rgb red green blue) =>
    show (Parser.sgrOps ([38] :: [2] :: [red.toNat] :: [green.toNat] :: [blue.toNat] :: _)).foldl _ _ = _
    rw [Parser.sgrOps, List.foldl_cons]
    simp only [Terminal.penAfter, List.headD_cons, Parser.rgb, UInt8.ofNat_toNat]
    rfl

lemma penRead_background (color : Option TerminalColor) (rest : List Nat) (pen : Pen) :
    penRead ((color.map (colorNumbers 48)).toList.flatten ++ rest) pen =
      penRead rest { pen with background := (color.map penColor).or pen.background } := by
  match color with
  | none => rfl
  | some (.indexed index) =>
    show (Parser.sgrOps ([48] :: [5] :: [index.toNat] :: _)).foldl _ _ = _
    rw [Parser.sgrOps, List.foldl_cons]
    simp only [Terminal.penAfter, List.headD_cons, UInt8.ofNat_toNat]
    rfl
  | some (.rgb red green blue) =>
    show (Parser.sgrOps ([48] :: [2] :: [red.toNat] :: [green.toNat] :: [blue.toNat] :: _)).foldl _ _ = _
    rw [Parser.sgrOps, List.foldl_cons]
    simp only [Terminal.penAfter, List.headD_cons, Parser.rgb, UInt8.ofNat_toNat]
    rfl

lemma penRead_style (style : TerminalStyle) (pen : Pen) :
    penRead (styleNumbers style).flatten pen = stylePen style := by
  have known : ∀ flag ∈ styleFlags style,
      Parser.sgrOp [flag.2.1] = some flag.2.2 ∧ flag.2.1 ≠ 38 ∧ flag.2.1 ≠ 48 := by
    intro flag mem
    simp only [styleFlags, List.mem_cons, List.not_mem_nil, or_false] at mem
    rcases mem with rfl | rfl | rfl | rfl | rfl | rfl | rfl <;> exact ⟨rfl, by simp, by simp⟩
  rw [styleNumbers, List.flatten_append, List.flatten_append, List.flatten_cons, List.append_assoc,
    List.append_assoc, List.singleton_append, penRead_cons rfl (by decide) (by decide), penRead_flags known,
    penRead_foreground, ← List.append_nil (List.flatten _), penRead_background, stylePen_eq]
  simp only [styleFlags, List.foldl_cons, List.foldl_nil, Terminal.penAfter, Pen.default, ite_pen, ite_self,
    Bool.if_true_left, Bool.or_false, Bool.decide_eq_true, Option.or_none]
  rfl

/-! ### Drawing -/

def draw (pen : Pen) : List Function → List (Char × Pen) × Pen
  | [] => ([], pen)
  | .print ch :: functions => ((ch, pen) :: (draw pen functions).1, (draw pen functions).2)
  | .sgr ops :: functions => draw (ops.foldl Terminal.penAfter pen) functions
  | _ :: functions => draw pen functions

lemma draw_append (pen : Pen) (first last : List Function) :
    draw pen (first ++ last) =
      ((draw pen first).1 ++ (draw (draw pen first).2 last).1, (draw (draw pen first).2 last).2) := by
  induction first generalizing pen with
  | nil => rfl
  | cons f first ih =>
    cases f with
    | print ch => exact congrArg (fun drawn => ((ch, pen) :: drawn.1, drawn.2)) (ih pen)
    | sgr ops => exact ih _
    | _ => exact ih pen

/-- The function prints a character or changes the pen. -/
def IsDrawing : Function → Prop
  | .print _ => True
  | .sgr _ => True
  | _ => False

/-- Outside of a control sequence the text is read as characters and pens only: it prints the characters of
    `drawn`, each with its pen, and leaves the pen `after`. -/
def Draws (pen : Pen) (text : Text) (drawn : List (Char × Pen)) (after : Pen) : Prop :=
  ∀ p : Parser, p.state = .ground → (p.reads text).1.state = .ground ∧
    (∀ f ∈ (p.reads text).2, IsDrawing f) ∧ draw pen (p.reads text).2 = (drawn, after)

lemma Draws.nil (pen : Pen) : Draws pen [] [] pen := fun _ ground => ⟨ground, nofun, rfl⟩

lemma Draws.append {pen mid after : Pen} {first last : Text} {drawn others : List (Char × Pen)}
    (h : Draws pen first drawn mid) (k : Draws mid last others after) :
    Draws pen (first ++ last) (drawn ++ others) after := by
  intro p ground
  obtain ⟨between, drawing, own⟩ := h p ground
  obtain ⟨ended, drawing', rest⟩ := k _ between
  rw [Parser.reads_append]
  refine ⟨ended, fun f mem => ?_, ?_⟩
  · cases List.mem_append.1 mem with
    | inl mem => exact drawing f mem
    | inr mem => exact drawing' f mem
  · rw [draw_append, own, rest]

lemma draws_text (pen : Pen) {text : Text} (plain : ∀ ch ∈ text, isControl ch = false) :
    Draws pen text (text.map fun ch => (ch, pen)) pen := by
  induction text with
  | nil => exact .nil pen
  | cons ch text ih =>
    have printable : Printable ch := by
      have h := plain ch List.mem_cons_self
      rw [isControl, Bool.or_eq_false_iff, Bool.and_eq_false_iff, decide_eq_false_iff_not, decide_eq_false_iff_not,
        decide_eq_false_iff_not, UInt32.lt_iff_toNat_lt, UInt32.le_iff_toNat_le, UInt32.lt_iff_toNat_lt] at h
      simp only [UInt32.reduceToNat] at h
      show 0x20 ≤ ch.val.toNat ∧ ¬ (0x80 ≤ ch.val.toNat ∧ ch.val.toNat ≤ 0x9f)
      omega
    have one : Draws pen [ch] [(ch, pen)] pen := by
      intro p ground
      rw [Parser.reads_cons, Parser.feed_ground ground printable]
      exact ⟨ground, fun f mem => by rw [List.mem_singleton.1 mem]; trivial, rfl⟩
    exact one.append (ih fun c mem => plain c (List.mem_cons_of_mem ch mem))

lemma draws_numbers (pen : Pen) {numbers : List Nat} (some : numbers ≠ []) (small : ∀ n ∈ numbers, n < 256)
    (room : numbers.length ≤ paramsLen) :
    Draws pen ('\x1b' :: '[' :: (join ';' (numbers.map decimal) ++ ['m'])) [] (penRead numbers pen) := by
  intro p _
  rw [Parser.reads_csi p some small room (by decide)]
  exact ⟨rfl, fun f mem => by rw [List.mem_singleton.1 mem]; trivial, rfl⟩

lemma draws_reset (pen : Pen) : Draws pen ['\x1b', '[', '0', 'm'] [] .default :=
  @draws_numbers pen [0] (List.cons_ne_nil _ _) (by decide) (by decide)

lemma mem_colorNumbers {selector : Nat} (byte : selector < 256) {color : TerminalColor} :
    ∀ n ∈ colorNumbers selector color, n < 256 := by
  intro n mem
  cases color with
  | indexed index =>
    have := index.toNat_lt
    simp only [colorNumbers, List.mem_cons, List.not_mem_nil, or_false] at mem
    omega
  | rgb red green blue =>
    have := red.toNat_lt
    have := green.toNat_lt
    have := blue.toNat_lt
    simp only [colorNumbers, List.mem_cons, List.not_mem_nil, or_false] at mem
    omega

lemma styleNumbers_spec (style : TerminalStyle) :
    (∀ code ∈ styleNumbers style, code ≠ []) ∧ (∀ n ∈ (styleNumbers style).flatten, n < 256) ∧
      (styleNumbers style).flatten.length ≤ paramsLen := by
  have color : ∀ selector < 256, ∀ color : Option TerminalColor,
      (∀ code ∈ (color.map (colorNumbers selector)).toList, code ≠ []) ∧
      (∀ n ∈ (color.map (colorNumbers selector)).toList.flatten, n < 256) ∧
      (color.map (colorNumbers selector)).toList.flatten.length ≤ 5 := by
    intro selector byte color
    cases color with
    | none => exact ⟨nofun, nofun, Nat.zero_le _⟩
    | some color =>
      refine ⟨fun code mem => ?_, fun n mem => ?_, ?_⟩
      · rw [List.mem_singleton.1 mem]
        cases color <;> exact List.cons_ne_nil _ _
      · exact mem_colorNumbers byte n (by simpa using mem)
      · cases color <;> simp [colorNumbers]
  obtain ⟨some, small, short⟩ := color 38 (by decide) style.foreground
  obtain ⟨some', small', short'⟩ := color 48 (by decide) style.background
  have flags : (((styleFlags style).filter (·.1)).map fun flag => [flag.2.1]).flatten.length ≤ 7 := by
    have fewer : ((styleFlags style).filter (·.1)).length ≤ 7 := List.length_filter_le _ _
    simp only [List.length_flatten, List.map_map]
    simpa [Function.comp_def] using fewer
  have bytes : ∀ n ∈ (((styleFlags style).filter (·.1)).map fun flag => [flag.2.1]).flatten, n < 256 := by
    intro n mem
    simp only [List.mem_flatten, List.mem_map, List.mem_filter, styleFlags, List.mem_cons, List.not_mem_nil,
      or_false] at mem
    obtain ⟨_, ⟨flag, ⟨listed, -⟩, rfl⟩, same⟩ := mem
    rw [List.mem_singleton.1 same]
    rcases listed with rfl | rfl | rfl | rfl | rfl | rfl | rfl <;> simp
  unfold styleNumbers
  refine ⟨fun code mem => ?_, fun n mem => ?_, ?_⟩
  · rcases List.mem_append.1 mem with front | background
    · rcases List.mem_append.1 front with flag | foreground
      · rcases List.mem_cons.1 flag with rfl | flag
        · exact List.cons_ne_nil _ _
        · obtain ⟨_, -, rfl⟩ := List.mem_map.1 flag
          exact List.cons_ne_nil _ _
      · exact some code foreground
    · exact some' code background
  · simp only [List.flatten_append, List.flatten_cons, List.mem_append, List.mem_singleton] at mem
    rcases mem with ((rfl | flag) | foreground) | background
    · decide
    · exact bytes n flag
    · exact small n foreground
    · exact small' n background
  · simp only [List.flatten_append, List.flatten_cons, List.length_append, List.length_singleton] at *
    show _ ≤ 32
    omega

lemma sgr_eq (style : TerminalStyle) :
    sgr style = '\x1b' :: '[' :: (join ';' ((styleNumbers style).flatten.map decimal) ++ ['m']) := by
  obtain ⟨codes, _, _⟩ := styleNumbers_spec style
  have groups : ∀ group ∈ (styleNumbers style).map (·.map decimal), group ≠ [] := by
    intro group mem
    obtain ⟨code, listed, rfl⟩ := List.mem_map.1 mem
    exact fun empty => codes code listed (List.map_eq_nil_iff.1 empty)
  have text : join ';' (['0'] :: styleCodes style) = join ';' ((styleNumbers style).flatten.map decimal) := by
    have joined := join_groups groups
    rw [List.map_map] at joined
    rw [styleCodes_eq, List.map_flatten, ← joined]
    rfl
  rw [sgr, text]

lemma draws_sgr (pen : Pen) (style : TerminalStyle) : Draws pen (sgr style) [] (stylePen style) := by
  obtain ⟨_, small, room⟩ := styleNumbers_spec style
  rw [sgr_eq, ← penRead_style style pen]
  exact draws_numbers pen (List.cons_ne_nil _ _) small room

end Ctl.Core
