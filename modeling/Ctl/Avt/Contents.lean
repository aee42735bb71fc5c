import Ctl.Avt.Vt

/-!
# What the cells hold

The characters of the cells are those that were printed, and blanks: if printed characters are `allowed`,
all are. And no line becomes longer than the buffer is wide. Both are kept by every operation on lines
(`Line.Holds`), on buffers (`Buffer.Holds`) and on terminals (`execute_holds`).
-/

namespace Ctl.Avt

variable {allowed : Char → Prop}

namespace Line

def Uses (allowed : Char → Prop) (line : Line) : Prop := ∀ cell ∈ line.cells, allowed cell.char

/-- The line is no longer than the buffer is wide, where a column is the least; its cells hold allowed
    characters. -/
structure Holds (allowed : Char → Prop) (cols : Nat) (line : Line) : Prop where
  fits : line.len ≤ max cols 1
  uses : line.Uses allowed

/-! ### Lengths -/

@[simp] lemma len_set (line : Line) (col : Nat) (ch : Char) (occupancy : Occupancy) (pen : Pen) :
    (line.set col ch occupancy pen).len = line.len := List.length_set

@[simp] lemma len_fill (line : Line) (start stop : Nat) (cell : Cell) :
    (line.fill start stop cell).len = line.len := List.length_mapIdx

@[simp] lemma len_blank (cols : Nat) (pen : Pen) : (blank cols pen).len = cols := List.length_replicate

@[simp] lemma len_unwrap (line : Line) : line.unwrap.len = line.len := rfl

lemma len_clear (line : Line) (start stop : Nat) (pen : Pen) : (line.clear start stop pen).len = line.len := by
  simp only [clear]
  split_ifs <;> simp only [len_set, len_fill]

lemma len_printWide (line : Line) (col : Nat) (ch : Char) (pen : Pen) (remaining : Nat) :
    (line.printWide col ch pen remaining).len = line.len := by
  rw [printWide]
  split_ifs <;> simp only [len_set]

lemma len_print (width : Char → Option Nat) (line : Line) (col : Nat) (ch : Char) (pen : Pen) :
    (line.print width col ch pen).1.len = line.len := by
  rw [print]
  split <;> (try split_ifs) <;> simp only [len_set, len_printWide]

lemma length_turn (cells : List Cell) (col n : Nat) :
    (cells.take col ++ ((cells.drop col).drop n ++ (cells.drop col).take n)).length = cells.length := by
  simp only [List.length_append, List.length_take, List.length_drop]
  omega

lemma len_shiftRight (line : Line) (col n : Nat) (pen : Pen) : (line.shiftRight col n pen).len = line.len := by
  have turned : ∀ (line : Line) (col n : Nat),
      ({ line with cells := line.cells.take col ++ ((line.cells.drop col).drop n ++
        (line.cells.drop col).take n) } : Line).len = line.len :=
    fun line col n => length_turn line.cells col n
  rw [shiftRight]
  split_ifs <;> simp only [len_set, turned]

lemma len_delete (line : Line) (col n : Nat) (pen : Pen) : (line.delete col n pen).len = line.len := by
  have turned : ∀ (line : Line) (col n : Nat),
      ({ line with cells := line.cells.take col ++ ((line.cells.drop col).drop n ++
        (line.cells.drop col).take n) } : Line).len = line.len :=
    fun line col n => length_turn line.cells col n
  rw [delete]
  split_ifs <;> simp only [len_set, len_fill, turned]

lemma len_expand (line : Line) (len : Nat) (pen : Pen) : (line.expand len pen).len = max line.len len := by
  have length : (line.expand len pen).len = line.len + (len - line.len) := by
    rw [expand, Line.len, List.length_append, List.length_replicate]
    rfl
  omega

/-! ### Characters -/

variable {line : Line}

lemma Uses.of_subset {line' : Line} (h : line.Uses allowed) (fewer : line'.cells ⊆ line.cells) :
    line'.Uses allowed := fun cell mem => h cell (fewer mem)

lemma Uses.append {cells cells' : List Cell} {wrapped : Bool} (h : ∀ cell ∈ cells, allowed cell.char)
    (k : ∀ cell ∈ cells', allowed cell.char) : Uses allowed ⟨cells ++ cells', wrapped⟩ := by
  intro cell mem
  cases List.mem_append.1 mem with
  | inl mem => exact h cell mem
  | inr mem => exact k cell mem

lemma Uses.set (h : line.Uses allowed) {ch : Char} (ok : allowed ch) (col : Nat) (occupancy : Occupancy) (pen : Pen) :
    (line.set col ch occupancy pen).Uses allowed := by
  intro cell mem
  cases List.mem_or_eq_of_mem_set mem with
  | inl old => exact h cell old
  | inr new => rw [new]; exact ok

section
variable (space : allowed ' ') {line : Line} {ch : Char}
include space

lemma uses_blanks (n : Nat) (pen : Pen) : ∀ cell ∈ List.replicate n (Cell.blank pen), allowed cell.char := by
  intro cell mem
  rw [List.eq_of_mem_replicate mem]
  exact space

lemma uses_blank (cols : Nat) (pen : Pen) : (blank cols pen).Uses allowed := uses_blanks space cols pen

lemma Uses.fill (h : line.Uses allowed) (start stop : Nat) (pen : Pen) :
    (line.fill start stop (.blank pen)).Uses allowed := by
  intro cell mem
  obtain ⟨i, inside, rfl⟩ := List.mem_mapIdx.1 mem
  split_ifs
  · exact space
  · exact h _ (List.getElem_mem inside)

lemma Uses.clear (h : line.Uses allowed) (start stop : Nat) (pen : Pen) : (line.clear start stop pen).Uses allowed := by
  simp only [Line.clear]
  split_ifs
  · exact h
  · exact ((h.set space _ _ _).fill space _ _ _).set space _ _ _
  · exact (h.set space _ _ _).fill space _ _ _
  · exact (h.fill space _ _ _).set space _ _ _
  · exact h.fill space _ _ _

lemma Uses.printWide (h : line.Uses allowed) (ok : allowed ch) (col : Nat) (pen : Pen) (remaining : Nat) :
    (line.printWide col ch pen remaining).Uses allowed := by
  rw [Line.printWide]
  split_ifs
  · exact ((h.set ok _ _ _).set space _ _ _).set space _ _ _
  · exact (h.set ok _ _ _).set space _ _ _

lemma Uses.print (h : line.Uses allowed) (ok : allowed ch) (width : Char → Option Nat) (col : Nat) (pen : Pen) :
    (line.print width col ch pen).1.Uses allowed := by
  rw [Line.print]
  split
  case h_1 => exact h.set ok _ _ _
  case h_2 =>
    split_ifs
    · exact h
    · exact h.printWide space ok _ _ _
  case h_3 => exact (h.set ok _ _ _).set space _ _ _
  case h_4 => exact (h.set ok _ _ _).set space _ _ _
  case h_5 => exact (h.set space _ _ _).set ok _ _ _
  case h_6 =>
    split_ifs
    · exact h
    · exact (h.set space _ _ _).printWide space ok _ _ _

omit space in
lemma Uses.turn (h : line.Uses allowed) (col n : Nat) :
    Uses allowed { line with cells := line.cells.take col ++ ((line.cells.drop col).drop n ++
      (line.cells.drop col).take n) } := by
  refine Uses.append (fun cell mem => h cell (List.mem_of_mem_take mem)) fun cell mem => ?_
  cases List.mem_append.1 mem with
  | inl mem => exact h cell (List.mem_of_mem_drop (List.mem_of_mem_drop mem))
  | inr mem => exact h cell (List.mem_of_mem_drop (List.mem_of_mem_take mem))

lemma Uses.shiftRight (h : line.Uses allowed) (col n : Nat) (pen : Pen) : (line.shiftRight col n pen).Uses allowed := by
  rw [Line.shiftRight]
  split_ifs
  · exact ((((h.set space _ _ _).set space _ _ _).turn _ _).set space _ _ _).set space _ _ _
  · exact ((h.set space _ _ _).set space _ _ _).turn _ _
  · exact ((h.turn _ _).set space _ _ _).set space _ _ _
  · exact h.turn _ _

lemma Uses.delete (h : line.Uses allowed) (col n : Nat) (pen : Pen) : (line.delete col n pen).Uses allowed := by
  rw [Line.delete]
  split_ifs
  · exact (((h.set space _ _ _).turn _ _).set space _ _ _).fill space _ _ _
  · exact ((h.set space _ _ _).turn _ _).fill space _ _ _
  · exact ((h.turn _ _).set space _ _ _).fill space _ _ _
  · exact (h.turn _ _).fill space _ _ _

lemma Uses.expand (h : line.Uses allowed) (len : Nat) (pen : Pen) : (line.expand len pen).Uses allowed :=
  Uses.append h (uses_blanks space _ pen)

omit space in
lemma Uses.take (h : line.Uses allowed) (n : Nat) :
    Uses allowed { line with cells := line.cells.take n } := h.of_subset (List.take_subset n line.cells)

omit space in
lemma Uses.drop {line : Line} (h : line.Uses allowed) (n : Nat) :
    Uses allowed { line with cells := line.cells.drop n } := h.of_subset (List.drop_subset n line.cells)

omit space in
lemma Uses.trim (h : line.Uses allowed) : line.trim.Uses allowed := h.take _

/-! ### Reflowing -/

lemma contract_holds (h : line.Uses allowed) (len : Nat) :
    (line.contract len).1.Holds allowed len ∧ ∀ rest ∈ (line.contract len).2, rest.Uses allowed := by
  rw [contract]
  generalize kept : (if line.wrapped then line else
    { line with cells := line.cells.take (max len (line.len - line.trailers)) }) = cut
  have uses : cut.Uses allowed := by
    rw [← kept]
    split_ifs
    · exact h
    · exact h.take _
  have blank : ∀ pen, ∀ cell ∈ [(⟨' ', .single, pen⟩ : Cell)], allowed cell.char := by
    intro pen cell mem
    rw [List.mem_singleton.1 mem]
    exact space
  have finish : ∀ first rest : Line, first.Holds allowed len → rest.Uses allowed →
      let cut : Line × Option Line :=
        if rest.cells.isEmpty then (first, none) else ({ first with wrapped := true }, some rest)
      cut.1.Holds allowed len ∧ ∀ rest ∈ cut.2, rest.Uses allowed := by
    intro first rest narrow left
    dsimp only
    split
    · exact ⟨narrow, nofun⟩
    · exact ⟨⟨narrow.fits, narrow.uses⟩, fun r same => Option.some.inj same ▸ left⟩
  have trimmed : ∀ rest : Line, rest.Uses allowed → (if cut.wrapped then rest else rest.trim).Uses allowed := by
    intro rest uses
    split_ifs
    · exact uses
    · exact uses.trim
  by_cases short : cut.len ≤ len
  · rw [if_pos short]
    exact ⟨⟨Nat.le_trans short (Nat.le_max_left _ _), uses⟩, nofun⟩
  rw [if_neg short]
  by_cases boundary : cut.occupancy len = .wideTail
  · simp only [boundary, if_true]
    refine finish _ _ ⟨?_, Uses.append (uses.take _) (blank _)⟩ (trimmed _ (uses.drop _))
    simp only [Line.len, List.length_append, List.length_take, List.length_singleton]
    omega
  · simp only [boundary, if_false]
    refine finish _ _ ⟨?_, uses.take _⟩ (trimmed _ (uses.drop _))
    simp only [Line.len, List.length_take]
    omega

lemma extend_holds {other : Line} (h : line.Uses allowed) (k : other.Uses allowed) {len : Nat}
    (short : line.len < len) :
    (line.extend other len).1.Uses allowed ∧
      ((line.extend other len).2.1 = true → (line.extend other len).1.Holds allowed len) ∧
      ∀ rest ∈ (line.extend other len).2.2, rest.Uses allowed := by
  have full : (line.expand len .default).Holds allowed len := by
    refine ⟨?_, h.expand space _ _⟩
    rw [len_expand]
    omega
  rw [extend]
  dsimp only
  rw [if_neg (by omega)]
  generalize kept : (if other.wrapped then other else other.trim) = next
  have uses : next.Uses allowed := by
    rw [← kept]
    split_ifs
    · exact k
    · exact k.trim
  have blank : ∀ pen, ∀ cell ∈ [(⟨' ', .single, pen⟩ : Cell)], allowed cell.char := by
    intro pen cell mem
    rw [List.mem_singleton.1 mem]
    exact space
  split_ifs with ends more boundary last unfinished
  · exact ⟨full.uses, fun _ => full, fun rest same => Option.some.inj same ▸ k⟩
  · have all : Uses allowed ⟨line.cells ++ [⟨' ', .single, line.penAt (line.len - 1)⟩] ++
        next.cells.take (len - line.len - 1), line.wrapped⟩ :=
      Uses.append (List.forall_mem_append.2 ⟨h, blank _⟩) (uses.take _)
    refine ⟨all, fun _ => ⟨?_, all⟩, fun rest same => Option.some.inj same ▸ uses.drop _⟩
    simp only [Line.len, List.length_append, List.length_take, List.length_singleton] at *
    omega
  · have all : Uses allowed ⟨line.cells ++ next.cells.take (len - line.len), line.wrapped⟩ :=
      Uses.append h (uses.take _)
    refine ⟨all, fun _ => ⟨?_, all⟩, fun rest same => Option.some.inj same ▸ uses.drop _⟩
    simp only [Line.len, List.length_append, List.length_take] at *
    omega
  · have all : Uses allowed ⟨line.cells ++ next.cells, false⟩ := Uses.append h uses
    refine ⟨all.expand space _ _, fun _ => ⟨?_, all.expand space _ _⟩, nofun⟩
    rw [len_expand]
    omega
  · have all : Uses allowed ⟨line.cells ++ next.cells, false⟩ := Uses.append h uses
    refine ⟨all, fun _ => ⟨?_, all⟩, nofun⟩
    simp only [Line.len, List.length_append] at *
    omega
  · exact ⟨Uses.append h uses, nofun, nofun⟩

lemma resizePreservingWrap_holds (h : line.Uses allowed) (cols : Nat) :
    (line.resizePreservingWrap cols).Holds allowed cols := by
  have short : ({ line with cells := line.cells.take cols } : Line).len ≤ cols := by
    rw [Line.len, List.length_take]
    exact Nat.min_le_left _ _
  rw [resizePreservingWrap]
  split_ifs
  · refine ⟨?_, ((h.take _).set space _ _ _).expand space _ _⟩
    rw [len_expand, len_set]
    omega
  · refine ⟨?_, (h.take _).expand space _ _⟩
    rw [len_expand]
    omega

end

end Line

/-! ### Buffers -/

section
variable (space : allowed ' ') {lines : List Line}
include space

lemma reflowFrom_holds (cols fuel : Nat) (h : ∀ line ∈ lines, line.Uses allowed) :
    ∀ line ∈ reflowFrom cols fuel lines, line.Holds allowed cols := by
  induction fuel generalizing lines with
  | zero => exact nofun
  | succ fuel ih =>
    have cons : ∀ {first : Line} {rest : List Line}, first.Holds allowed cols →
        (∀ line ∈ rest, line.Uses allowed) →
        ∀ line ∈ first :: reflowFrom cols fuel rest, line.Holds allowed cols := by
      intro first rest own others line mem
      cases mem with
      | head => exact own
      | tail _ mem => exact ih others line mem
    have push : ∀ {first : Line} {rest : List Line}, first.Uses allowed →
        (∀ line ∈ rest, line.Uses allowed) → ∀ line ∈ first :: rest, line.Uses allowed := by
      intro first rest own others line mem
      cases mem with
      | head => exact own
      | tail _ mem => exact others line mem
    cases lines with
    | nil => exact nofun
    | cons line lines =>
      have own := h line List.mem_cons_self
      have others : ∀ line ∈ lines, line.Uses allowed := fun l mem => h l (List.mem_cons_of_mem line mem)
      rw [reflowFrom.eq_def]
      dsimp only
      split
      case isTrue =>
        obtain ⟨narrow, left⟩ := Line.contract_holds space own cols
        split
        case h_1 first rest same =>
          rw [same] at narrow left
          exact cons narrow (push (left rest rfl) others)
        case h_2 first same =>
          rw [same] at narrow
          exact cons narrow others
      case isFalse long =>
        split
        case isTrue same => exact cons ⟨by omega, own⟩ others
        case isFalse short =>
          cases lines with
          | nil =>
            intro line mem
            rw [List.mem_singleton.1 mem]
            refine ⟨?_, own.expand space _ _⟩
            rw [Line.len_unwrap, Line.len_expand]
            omega
          | cons next lines =>
            have rest : ∀ line ∈ lines, line.Uses allowed :=
              fun l mem => others l (List.mem_cons_of_mem next mem)
            obtain ⟨uses, narrow, left⟩ := Line.extend_holds space own (others next List.mem_cons_self)
              (show line.len < cols by omega)
            dsimp only
            split
            case h_1 first more same =>
              rw [same] at narrow left
              exact cons (narrow rfl) (push (left more rfl) rest)
            case h_2 first same =>
              rw [same] at narrow
              exact cons (narrow rfl) rest
            case h_3 first more same =>
              rw [same] at uses
              exact ih (push uses rest)

lemma reflow_holds (cols : Nat) (h : ∀ line ∈ lines, line.Uses allowed) :
    ∀ line ∈ reflow lines cols, line.Holds allowed cols := reflowFrom_holds space cols _ h

end

lemma mem_modify {α : Type} {xs : List α} {i : Nat} {f : α → α} {x : α} (mem : x ∈ xs.modify i f) :
    x ∈ xs ∨ ∃ y ∈ xs, x = f y := by
  obtain ⟨j, inside, rfl⟩ := List.mem_iff_getElem.1 mem
  rw [List.length_modify] at inside
  rw [List.getElem_modify]
  split
  · exact .inr ⟨_, List.getElem_mem inside, rfl⟩
  · exact .inl (List.getElem_mem inside)

namespace Buffer

def Holds (allowed : Char → Prop) (b : Buffer) : Prop := ∀ line ∈ b.lines, line.Holds allowed b.cols

variable {b : Buffer}

lemma Holds.modify (h : b.Holds allowed) {f : Line → Line} (i : Nat)
    (keeps : ∀ line, line.Holds allowed b.cols → (f line).Holds allowed b.cols) :
    Holds allowed { b with lines := b.lines.modify i f } := by
  intro line mem
  cases mem_modify mem with
  | inl old => exact h line old
  | inr new =>
    obtain ⟨old, inside, rfl⟩ := new
    exact keeps old (h old inside)

lemma Holds.unwrap (h : b.Holds allowed) (row : Nat) :
    (b.modifyLine row Line.unwrap).Holds allowed := h.modify _ fun _ own => ⟨own.fits, own.uses⟩

lemma Holds.wrap (h : b.Holds allowed) (row : Nat) : (b.wrap row).Holds allowed :=
  h.modify _ fun _ own => ⟨own.fits, own.uses⟩

lemma Holds.of_subset (h : b.Holds allowed) {lines : List Line} (fewer : lines ⊆ b.lines) :
    Holds allowed { b with lines := lines } := fun line mem => h line (fewer mem)

lemma Holds.clearIncomingWrap (h : b.Holds allowed) (row : Nat) : (b.clearIncomingWrap row).Holds allowed := by
  rw [Buffer.clearIncomingWrap]
  split
  · exact h
  · exact h.modify _ fun _ own => ⟨own.fits, own.uses⟩

lemma Holds.rotate (h : b.Holds allowed) (start stop n : Nat) : (b.rotate start stop n).Holds allowed := by
  apply h.of_subset
  intro line mem
  simp only [List.mem_append] at mem
  rcases mem with (mem | mem | mem) | mem
  · exact List.mem_of_mem_take mem
  · exact List.mem_of_mem_take (List.mem_of_mem_drop (List.mem_of_mem_drop mem))
  · exact List.mem_of_mem_take (List.mem_of_mem_drop (List.mem_of_mem_take mem))
  · exact List.mem_of_mem_drop mem

lemma Holds.gc (h : b.Holds allowed) : b.gc.Holds allowed := by
  rw [Buffer.gc]
  split
  · split
    · exact fun line mem => h line (List.mem_of_mem_drop mem)
    · exact h
  · exact h

section
variable (space : allowed ' ') {b : Buffer}
include space

lemma holds_blanks (n cols : Nat) (pen : Pen) :
    ∀ line ∈ List.replicate n (Line.blank cols pen), line.Holds allowed cols := by
  intro line mem
  rw [List.eq_of_mem_replicate mem]
  refine ⟨?_, Line.uses_blank space cols pen⟩
  rw [Line.len_blank]
  exact Nat.le_max_left _ _

lemma new_holds (cols rows : Nat) (limit : Option Nat) (pen : Option Pen) :
    (new cols rows limit pen).Holds allowed := holds_blanks space rows cols _

lemma Holds.line {b : Buffer} (h : b.Holds allowed) (row : Nat) : (b.line row).Holds allowed b.cols := by
  rw [Buffer.line]
  cases found : b.lines[b.viewOffset + row]? with
  | some line => exact h line (List.mem_of_getElem? found)
  | none => exact ⟨Nat.zero_le _, Line.uses_blank space 0 _⟩

lemma Holds.cell (h : b.Holds allowed) (col row : Nat) : allowed (b.cell col row).char := by
  rw [Buffer.cell]
  cases found : (b.line row).cells[col]? with
  | some cell => exact (h.line space row).uses cell (List.mem_of_getElem? found)
  | none => exact space

lemma Holds.print (h : b.Holds allowed) {ch : Char} (ok : allowed ch) (width : Char → Option Nat) (col row : Nat)
    (pen : Pen) : (b.print width col row ch pen).1.Holds allowed := by
  apply h.modify
  intro _ _
  have own := h.line space row
  exact ⟨by rw [Line.len_print]; exact own.fits, own.uses.print space ok width col pen⟩

lemma Holds.shiftRight (h : b.Holds allowed) (col row n : Nat) (pen : Pen) :
    (b.shiftRight col row n pen).Holds allowed :=
  h.modify _ fun _ own => ⟨by rw [Line.len_shiftRight]; exact own.fits, own.uses.shiftRight space _ _ _⟩

lemma Holds.delete (h : b.Holds allowed) (col row n : Nat) (pen : Pen) : (b.delete col row n pen).Holds allowed :=
  h.modify _ fun _ own =>
    ⟨by rw [Line.len_unwrap, Line.len_delete]; exact own.fits, own.uses.delete space _ _ _⟩

lemma Holds.clearLine (h : b.Holds allowed) (row start stop : Nat) (pen : Pen) :
    (b.modifyLine row (·.clear start stop pen)).Holds allowed :=
  h.modify _ fun _ own => ⟨by rw [Line.len_clear]; exact own.fits, own.uses.clear space _ _ _⟩

lemma Holds.clear (h : b.Holds allowed) (start stop : Nat) (pen : Pen) : (b.clear start stop pen).Holds allowed := by
  intro line mem
  obtain ⟨i, inside, rfl⟩ := List.mem_mapIdx.1 mem
  split_ifs
  · exact holds_blanks space 1 b.cols pen _ List.mem_cons_self
  · exact h _ (List.getElem_mem inside)

lemma Holds.add (h : b.Holds allowed) (n : Nat) (pen : Pen) (before after : List Line)
    (fewer : before ⊆ b.lines ∧ after ⊆ b.lines) :
    Holds allowed { b with lines := before ++ List.replicate n (.blank b.cols pen) ++ after } := by
  intro line mem
  simp only [List.mem_append] at mem
  rcases mem with (mem | mem) | mem
  · exact h line (fewer.1 mem)
  · exact holds_blanks space n b.cols pen line mem
  · exact h line (fewer.2 mem)

lemma Holds.extend (h : b.Holds allowed) (n : Nat) (pen : Pen) : (b.extend n b.cols pen).Holds allowed := by
  have added := h.add space n pen b.lines [] ⟨List.Subset.refl _, List.nil_subset _⟩
  rwa [List.append_nil] at added

lemma Holds.insertRows (h : b.Holds allowed) (stop n : Nat) (pen : Pen) : (b.insertRows stop n pen).Holds allowed :=
  h.add space n pen _ _ ⟨List.take_subset _ _, List.drop_subset _ _⟩

lemma Holds.erase (h : b.Holds allowed) (col row : Nat) (mode : EraseMode) (pen : Pen) :
    (b.erase col row mode pen).Holds allowed := by
  have incoming : (if col = 0 then b.clearIncomingWrap row else b).Holds allowed := by
    split_ifs
    · exact h.clearIncomingWrap row
    · exact h
  cases mode with
  | nextChars n => exact h.clearLine space _ _ _ _
  | fromCursorToEndOfView =>
    apply Holds.clear space
    apply incoming.modify
    intro line own
    have unwrapped : line.unwrap.Uses allowed := own.uses
    exact ⟨by rw [Line.len_clear]; exact own.fits, unwrapped.clear space _ _ _⟩
  | fromStartOfViewToCursor =>
    apply Holds.clear space
    have cleared := (h.clearIncomingWrap row).clearLine space row 0
      (min (col + 1) (b.clearIncomingWrap row).cols) pen
    split_ifs
    · exact cleared.unwrap row
    · exact cleared
  | wholeView => exact (h.clearIncomingWrap 0).clear space _ _ _
  | fromCursorToEndOfLine => exact incoming.clearLine space _ _ _ _
  | fromStartOfLineToCursor => exact h.clearLine space _ _ _ _
  | wholeLine => exact (h.clearIncomingWrap row).clearLine space _ _ _ _

lemma Holds.scrollUp (h : b.Holds allowed) (start stop n : Nat) (pen : Pen) :
    (b.scrollUp start stop n pen).Holds allowed := by
  have first : (if stop - 1 < b.rows - 1 then b.modifyLine (stop - 1) Line.unwrap else b).Holds allowed := by
    split_ifs
    · exact h.unwrap _
    · exact h
  rw [Buffer.scrollUp]
  generalize (if stop - 1 < b.rows - 1 then b.modifyLine (stop - 1) Line.unwrap else b) = b' at first
  split_ifs
  · exact first.extend space _ _
  · exact first.insertRows space _ _ _
  · exact ((first.unwrap _).rotate _ _ _).clear space _ _ _

lemma Holds.scrollDown (h : b.Holds allowed) (start stop n : Nat) (pen : Pen) :
    (b.scrollDown start stop n pen).Holds allowed := by
  have cleared := (h.rotate start stop (stop - start - min n (stop - start))).clear space start
    (start + min n (stop - start)) pen
  rw [Buffer.scrollDown]
  split_ifs
  · exact (cleared.unwrap _).unwrap _
  · exact cleared.unwrap _

lemma resizeRows_holds {newCols : Nat} (h : ∀ line ∈ b.lines, line.Holds allowed newCols) (newRows oldRows : Nat)
    (cursor : Nat × Nat) : (b.resizeRows newCols newRows oldRows cursor).1.Holds allowed := by
  have own : Holds allowed { b with cols := newCols } := h
  rw [resizeRows]
  by_cases less : newRows < oldRows
  · rw [if_pos less]
    have kept : Holds allowed { b with
        cols := newCols
        lines := b.lines.take (b.lines.length - min (oldRows - newRows) (oldRows - 1 - cursor.2)) } :=
      own.of_subset (List.take_subset _ _)
    dsimp only
    split
    · exact kept.modify (f := Line.unwrap) _ fun _ own => ⟨own.fits, own.uses⟩
    · exact h
  rw [if_neg less]
  by_cases more : oldRows < newRows
  · rw [if_pos more]
    exact own.extend space _ _
  · rw [if_neg more]
    exact h

lemma Holds.resize (h : b.Holds allowed) (newCols newRows : Nat) (cursor : Nat × Nat) :
    (b.resize newCols newRows cursor).1.Holds allowed := by
  rw [Buffer.resize]
  split
  case isTrue same =>
    apply resizeRows_holds space
    rw [same]
    exact h
  case isFalse =>
    have reflowed := reflow_holds space newCols fun line mem => (h line mem).uses
    have lines : Holds allowed { b with lines := Avt.reflow b.lines newCols, cols := newCols } := reflowed
    have filled := lines.extend space (b.rows - (Avt.reflow b.lines newCols).length) .default
    dsimp only
    split
    · refine resizeRows_holds space ?_ _ _ _
      exact filled
    · refine resizeRows_holds space ?_ _ _ _
      exact filled

lemma reflowAround_holds {lines : List Line} (h : ∀ line ∈ lines, line.Uses allowed)
    (newCols start stop cursorRow : Nat) :
    ∀ line ∈ (reflowAround lines newCols start stop cursorRow).1, line.Holds allowed newCols := by
  intro line mem
  have mem := List.mem_of_mem_take mem
  simp only [List.mem_append] at mem
  rcases mem with (mem | mem) | mem
  · exact reflow_holds space newCols (fun line mem => h line (List.mem_of_mem_take mem)) line mem
  · obtain ⟨old, inside, rfl⟩ := List.mem_map.1 mem
    exact Line.resizePreservingWrap_holds space (h old (List.mem_of_mem_take (List.mem_of_mem_drop inside))) _
  · exact reflow_holds space newCols (fun line mem => h line (List.mem_of_mem_drop mem)) line mem

lemma Holds.resizePreservingCursor (h : b.Holds allowed) (newCols newRows : Nat) (cursor : Nat × Nat) :
    (b.resizePreservingCursor newCols newRows cursor).1.Holds allowed := by
  rw [Buffer.resizePreservingCursor]
  split
  case isTrue => exact h.resize space _ _ _
  case isFalse =>
    split
    case isTrue same =>
      apply resizeRows_holds space
      rw [same]
      exact h
    case isFalse =>
      dsimp only
      generalize around : reflowAround b.lines newCols _ _ _ = result
      have reflowed := reflowAround_holds space (fun line mem => (h line mem).uses) newCols
        (lineStart b.lines (b.lines.length - b.rows + cursor.2))
        (lineEnd b.lines.length (b.lines.drop (b.lines.length - b.rows + cursor.2))
          (b.lines.length - b.rows + cursor.2 + 1))
        (b.lines.length - b.rows + cursor.2)
      rw [around] at reflowed
      have lines : Holds allowed { b with lines := result.1, cols := newCols } := reflowed
      have filled := lines.extend space (b.rows - result.1.length) .default
      split
      · refine resizeRows_holds space ?_ _ _ _
        exact filled
      · refine resizeRows_holds space ?_ _ _ _
        exact filled

end

end Buffer

end Ctl.Avt
