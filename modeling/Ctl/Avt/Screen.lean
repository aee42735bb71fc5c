import Ctl.Avt.Contents

/-!
# What functions do to the buffers

A function changes the active buffer as `Function.activates` says (`execute_active`): only two private modes
and a reset do. Every function keeps what the cells hold (`execute_holds`).
-/

namespace Ctl.Avt

/-! ### Selecting a buffer -/

def DecMode.selects : DecMode → Bool
  | .altScreenBuffer => true
  | .saveCursorAltScreenBuffer => true
  | _ => false

def Function.activates (active : BufferType) : Function → BufferType
  | .decset modes => if modes.any DecMode.selects then .alternate else active
  | .decrst modes => if modes.any DecMode.selects then .primary else active
  | .ris => .primary
  | _ => active

def Function.Still : Function → Prop
  | .decset modes => modes.any DecMode.selects = false
  | .decrst modes => modes.any DecMode.selects = false
  | .ris => False
  | _ => True

lemma Function.Still.activates {f : Function} (still : f.Still) (active : BufferType) :
    f.activates active = active := by
  cases f with
  | decset modes =>
    have none : modes.any DecMode.selects = false := still
    rw [Function.activates, none]
    rfl
  | decrst modes =>
    have none : modes.any DecMode.selects = false := still
    rw [Function.activates, none]
    rfl
  | ris => exact still.elim
  | _ => rfl

namespace Terminal

variable {allowed : Char → Prop}

structure Holds (allowed : Char → Prop) (t : Terminal) : Prop where
  buffer : t.buffer.Holds allowed
  otherBuffer : t.otherBuffer.Holds allowed

structure Keeps (allowed : Char → Prop) (t t' : Terminal) : Prop where
  active : t'.activeBufferType = t.activeBufferType
  holds : t.Holds allowed → t'.Holds allowed

lemma Keeps.refl (t : Terminal) : Keeps allowed t t := ⟨rfl, fun h => h⟩

lemma Keeps.trans {t t' t'' : Terminal} (h : Keeps allowed t t') (k : Keeps allowed t' t'') :
    Keeps allowed t t'' := ⟨k.active.trans h.active, fun holds => k.holds (h.holds holds)⟩

lemma Keeps.ite {t a b : Terminal} {p : Prop} [Decidable p] (h : Keeps allowed t a)
    (k : Keeps allowed t b) : Keeps allowed t (if p then a else b) := by
  split_ifs
  · exact h
  · exact k

lemma Keeps.foldl {α : Type} {f : Terminal → α → Terminal} {xs : List α} (h : ∀ t, ∀ x ∈ xs, Keeps allowed t (f t x))
    (t : Terminal) : Keeps allowed t (xs.foldl f t) := by
  induction xs generalizing t with
  | nil => exact .refl t
  | cons x xs ih =>
    exact (h t x List.mem_cons_self).trans (ih (fun t y mem => h t y (List.mem_cons_of_mem x mem)) _)

lemma keeps_buffer {t t' : Terminal} (active : t'.activeBufferType = t.activeBufferType)
    (other : t'.otherBuffer = t.otherBuffer)
    (own : t.buffer.Holds allowed → t'.buffer.Holds allowed) : Keeps allowed t t' :=
  ⟨active, fun h => ⟨own h.buffer, other ▸ h.otherBuffer⟩⟩

/-! ### Changes that no buffer sees -/

lemma keeps_setCursor (t : Terminal) (col row : Nat) : Keeps allowed t (t.setCursor col row) :=
  ⟨rfl, fun h => ⟨h.buffer, h.otherBuffer⟩⟩

lemma keeps_dirty (t : Terminal) (start stop : Nat) : Keeps allowed t (t.dirty start stop) :=
  ⟨rfl, fun h => ⟨h.buffer, h.otherBuffer⟩⟩

lemma keeps_changes (t : Terminal) : Keeps allowed t t.changes := ⟨rfl, fun h => ⟨h.buffer, h.otherBuffer⟩⟩

lemma keeps_moveCursorToCol (t : Terminal) (col : Nat) : Keeps allowed t (t.moveCursorToCol col) :=
  keeps_setCursor t _ _

lemma keeps_moveCursorToRow (t : Terminal) (row : Nat) : Keeps allowed t (t.moveCursorToRow row) :=
  keeps_setCursor t _ _

lemma keeps_moveCursorHome (t : Terminal) : Keeps allowed t t.moveCursorHome :=
  (keeps_setCursor t _ _).trans (keeps_setCursor _ _ _)

lemma keeps_saveCursor (t : Terminal) : Keeps allowed t t.saveCursor :=
  ⟨rfl, fun h => ⟨h.buffer, h.otherBuffer⟩⟩

lemma keeps_restoreCursor (t : Terminal) : Keeps allowed t t.restoreCursor :=
  ⟨rfl, fun h => ⟨h.buffer, h.otherBuffer⟩⟩

lemma keeps_setTab (t : Terminal) : Keeps allowed t t.setTab :=
  Keeps.ite ⟨rfl, fun h => ⟨h.buffer, h.otherBuffer⟩⟩ (.refl t)

lemma keeps_clearTab (t : Terminal) : Keeps allowed t t.clearTab := ⟨rfl, fun h => ⟨h.buffer, h.otherBuffer⟩⟩

lemma keeps_clearAllTabs (t : Terminal) : Keeps allowed t t.clearAllTabs :=
  ⟨rfl, fun h => ⟨h.buffer, h.otherBuffer⟩⟩

lemma keeps_setAnsiModes (t : Terminal) (modes : List AnsiMode) (enabled : Bool) :
    Keeps allowed t (t.setAnsiModes modes enabled) := by
  apply Keeps.foldl
  intro t mode _
  cases mode with
  | insert => exact ⟨rfl, fun h => ⟨h.buffer, h.otherBuffer⟩⟩
  | newLine => exact ⟨rfl, fun h => ⟨h.buffer, h.otherBuffer⟩⟩

lemma keeps_decstbm (t : Terminal) (top bottom : Nat) : Keeps allowed t (t.decstbm top bottom) := by
  rw [decstbm]
  refine Keeps.trans ?_ (keeps_moveCursorHome _)
  exact .ite ⟨rfl, fun h => ⟨h.buffer, h.otherBuffer⟩⟩ (.refl t)

lemma Keeps.still {t t' : Terminal} (h : Keeps allowed t t') :
    t'.activeBufferType = t.activeBufferType ∧ (t.Holds allowed → t'.Holds allowed) := ⟨h.active, h.holds⟩

lemma keeps_same {t t' : Terminal} (active : t'.activeBufferType = t.activeBufferType) (buffer : t'.buffer = t.buffer)
    (other : t'.otherBuffer = t.otherBuffer) : Keeps allowed t t' :=
  keeps_buffer active other fun h => buffer ▸ h

/-! ### Changes of the active buffer -/

section
variable (space : allowed ' ') {ch : Char} {t : Terminal}
include space

lemma keeps_scrollUpInRegion (t : Terminal) (n : Nat) : Keeps allowed t (t.scrollUpInRegion n) :=
  keeps_buffer rfl rfl fun h => h.scrollUp space _ _ _ _

lemma keeps_scrollDownInRegion (t : Terminal) (n : Nat) : Keeps allowed t (t.scrollDownInRegion n) :=
  keeps_buffer rfl rfl fun h => h.scrollDown space _ _ _ _

lemma keeps_moveCursorDownWithScroll (t : Terminal) : Keeps allowed t t.moveCursorDownWithScroll :=
  .ite (keeps_scrollUpInRegion space t 1) (.ite (keeps_setCursor t _ _) (.refl t))

lemma keeps_erase (t : Terminal) (mode : EraseMode) (start stop : Nat) : Keeps allowed t (t.erase mode start stop) :=
  keeps_buffer rfl rfl fun h => h.erase space _ _ _ _

lemma keeps_lf (t : Terminal) : Keeps allowed t t.lf :=
  (keeps_moveCursorDownWithScroll space t).trans (.ite (keeps_setCursor _ _ _) (.refl _))

lemma keeps_ri (t : Terminal) : Keeps allowed t t.ri :=
  .ite (keeps_scrollDownInRegion space t 1) (.ite (keeps_moveCursorToRow t _) (.refl t))

lemma keeps_dch (t : Terminal) (n : Nat) : Keeps allowed t (t.dch n) := by
  rw [dch]
  exact (Keeps.ite (keeps_moveCursorToCol t _) (.refl t)).trans
    (keeps_buffer rfl rfl fun h => h.delete space _ _ _ _)

lemma foldl_print_holds {b : Buffer} (h : b.Holds allowed) (ok : allowed ch) (width : Char → Option Nat) (row : Nat)
    (pen : Pen) (cols : List Nat) :
    (cols.foldl (fun buffer col => (buffer.print width col row ch pen).1) b).Holds allowed := by
  induction cols generalizing b with
  | nil => exact h
  | cons col cols ih => exact ih (h.print space ok width col row pen)

variable (width : Char → Option Nat)

lemma keeps_ich (t : Terminal) (n : Nat) : Keeps allowed t (t.ich width n) :=
  keeps_buffer rfl rfl fun h => foldl_print_holds space (h.shiftRight space _ _ _ _) space width _ _ _

lemma keeps_decaln (letter : allowed 'E') (t : Terminal) : Keeps allowed t (t.decaln width) := by
  refine keeps_buffer rfl rfl fun h => ?_
  rw [decaln]
  show Buffer.Holds allowed ((List.range t.rows).foldl _ t.buffer)
  generalize List.range t.rows = rows, t.buffer = b at h
  induction rows generalizing b with
  | nil => exact h
  | cons row rows ih => exact ih _ (foldl_print_holds space h letter width _ _ _)

lemma keeps_tryPrint (width : Char → Option Nat) (ok : allowed ch) (t : Terminal) :
    Keeps allowed t (t.tryPrint width ch).1 := by
  rw [tryPrint]
  split_ifs
  · exact .refl t
  · exact keeps_buffer rfl rfl fun h => (h.shiftRight space _ _ _ _).print space ok _ _ _ _
  · exact keeps_buffer rfl rfl fun h => h.print space ok _ _ _ _

lemma keeps_wrapRow (t : Terminal) : Keeps allowed t t.wrapRow := by
  have wrapped : Keeps allowed t { t with buffer := t.buffer.wrap t.cursor.row } :=
    keeps_buffer rfl rfl fun h => h.wrap _
  exact .ite (wrapped.trans (keeps_scrollUpInRegion space _ 1))
    (.ite (wrapped.trans (keeps_setCursor _ _ _)) (.refl t))

lemma keeps_wrapAndPrintAtLineStart (width : Char → Option Nat) (ok : allowed ch) (t : Terminal) :
    Keeps allowed t (t.wrapAndPrintAtLineStart width ch) :=
  (keeps_wrapRow space t).trans (keeps_buffer rfl rfl fun h => h.print space ok _ _ _ _)

lemma keeps_printAtLineEnd (width : Char → Option Nat) (ok : allowed ch) (t : Terminal) :
    Keeps allowed t (t.printAtLineEnd width ch) := by
  rw [printAtLineEnd]
  refine Keeps.trans (Keeps.ite ?_ (.refl t)) (keeps_setCursor _ _ _)
  exact .ite (keeps_buffer rfl rfl fun h => (h.print space ok _ _ _ _).print space ok _ _ _ _)
    (keeps_buffer rfl rfl fun h => h.print space ok _ _ _ _)

lemma keeps_print (width : Char → Option Nat) (ok : ∀ charset, allowed (Charset.translate charset ch)) (t : Terminal) :
    Keeps allowed t (t.print width ch) := by
  rw [print]
  generalize (if t.activeCharset then t.charsets.2 else t.charsets.1) = charset
  have tried := keeps_tryPrint space width (ok charset) t
  refine Keeps.trans ?_ (keeps_dirty _ _ _)
  cases attempt : t.tryPrint width (charset.translate ch) with
  | mk t' printed =>
    rw [attempt] at tried
    cases printed with
    | some columns => exact tried.trans (keeps_setCursor _ _ _)
    | none =>
      exact tried.trans (.ite (keeps_wrapAndPrintAtLineStart space width (ok charset) _)
        (keeps_printAtLineEnd space width (ok charset) _))

lemma keeps_rep (translate : ∀ charset ch, allowed ch → allowed (Charset.translate charset ch)) (t : Terminal)
    (n : Nat) : Keeps allowed t (t.rep width n) := by
  rw [rep]
  refine .ite ?_ (.refl t)
  generalize lastPrinted t.buffer t.cursor.row (t.cursor.col - 1) = col
  -- Whatever the cell holds, printing does not select a buffer.
  have active : ∀ (ch : Char) (n : Nat),
      ((List.replicate n ch).foldl (fun t ch => t.print width ch) t).activeBufferType = t.activeBufferType := by
    intro ch n
    have keeps : ∀ t : Terminal, ∀ c ∈ List.replicate n ch, Keeps (fun _ => True) t (t.print width c) :=
      fun t c _ => keeps_print trivial width (fun _ => trivial) t
    exact (Keeps.foldl keeps t).active
  refine ⟨active _ _, fun h => ?_⟩
  have ok := h.buffer.cell space col t.cursor.row
  refine (Keeps.foldl ?_ t).holds h
  intro t ch mem
  rw [List.eq_of_mem_replicate mem]
  exact keeps_print space width (fun charset => translate charset _ ok) t

lemma keeps_reflow (t : Terminal) : Keeps allowed t t.reflow := by
  rw [reflow]
  split_ifs
  · exact keeps_buffer rfl rfl fun h => h.resizePreservingCursor space _ _ _
  · exact keeps_buffer rfl rfl fun h => h.resize space _ _ _

lemma keeps_resize (t : Terminal) (cols rows : Nat) : Keeps allowed t (t.resize cols rows) := by
  have tabs : Keeps allowed t (if cols < t.cols then { t with tabs := t.tabs.contract cols }
      else if t.cols < cols then { t with tabs := t.tabs.expand t.cols cols } else t) :=
    .ite ⟨rfl, fun h => ⟨h.buffer, h.otherBuffer⟩⟩ (.ite ⟨rfl, fun h => ⟨h.buffer, h.otherBuffer⟩⟩ (.refl t))
  have margins : ∀ t : Terminal, Keeps allowed t
      (if rows ≠ t.rows then { t with topMargin := 0, bottomMargin := rows - 1 } else t) :=
    fun t => .ite ⟨rfl, fun h => ⟨h.buffer, h.otherBuffer⟩⟩ (.refl t)
  have sized : ∀ t : Terminal, Keeps allowed t { t with cols := cols, rows := rows } :=
    fun _ => ⟨rfl, fun h => ⟨h.buffer, h.otherBuffer⟩⟩
  rw [resize]
  exact ((tabs.trans (margins _)).trans (sized _)).trans (keeps_reflow space _)

omit space in
lemma keeps_gc (t : Terminal) : Keeps allowed t t.gc := keeps_buffer rfl rfl fun h => h.gc

/-! ### Switching buffers -/

lemma new_holds (cols rows : Nat) (limit : Option Nat) : (new cols rows limit).Holds allowed :=
  ⟨Buffer.new_holds space _ _ _ _, Buffer.new_holds space _ _ _ _⟩

lemma switchToAlternateBuffer_holds (h : t.Holds allowed) : t.switchToAlternateBuffer.Holds allowed := by
  rw [switchToAlternateBuffer]
  split
  · exact ⟨Buffer.new_holds space _ _ _ _, h.buffer⟩
  · exact h

omit space in
lemma switchToAlternateBuffer_active (t : Terminal) : t.switchToAlternateBuffer.activeBufferType = .alternate := by
  rw [switchToAlternateBuffer]
  split
  · rfl
  · assumption

omit space in
lemma switchToPrimaryBuffer_holds (h : t.Holds allowed) : t.switchToPrimaryBuffer.Holds allowed := by
  rw [switchToPrimaryBuffer]
  split
  · exact ⟨h.otherBuffer, h.buffer⟩
  · exact h

omit space in
lemma switchToPrimaryBuffer_active (t : Terminal) : t.switchToPrimaryBuffer.activeBufferType = .primary := by
  rw [switchToPrimaryBuffer]
  split
  · rfl
  · assumption

lemma setDecMode_spec (t : Terminal) (mode : DecMode) :
    (t.setDecMode mode).activeBufferType = (if mode.selects then .alternate else t.activeBufferType) ∧
      (t.Holds allowed → (t.setDecMode mode).Holds allowed) := by
  have switched := keeps_reflow space t.switchToAlternateBuffer
  have saved := keeps_reflow space t.saveCursor.switchToAlternateBuffer
  cases mode with
  | cursorKeys => exact Keeps.still (keeps_same rfl rfl rfl)
  | origin =>
    have moded : Keeps allowed t { t with originMode := true } := keeps_same rfl rfl rfl
    exact (moded.trans (keeps_moveCursorHome _)).still
  | autoWrap => exact Keeps.still (keeps_same rfl rfl rfl)
  | textCursorEnable => exact Keeps.still (keeps_same rfl rfl rfl)
  | altScreenBuffer =>
    refine ⟨switched.active.trans (switchToAlternateBuffer_active t), fun h => ?_⟩
    exact switched.holds (switchToAlternateBuffer_holds space h)
  | saveCursor => exact (keeps_saveCursor t).still
  | saveCursorAltScreenBuffer =>
    refine ⟨saved.active.trans (switchToAlternateBuffer_active _), fun h => ?_⟩
    exact saved.holds (switchToAlternateBuffer_holds space ((keeps_saveCursor t).holds h))

lemma resetDecMode_spec (t : Terminal) (mode : DecMode) :
    (t.resetDecMode mode).activeBufferType = (if mode.selects then .primary else t.activeBufferType) ∧
      (t.Holds allowed → (t.resetDecMode mode).Holds allowed) := by
  have switched := keeps_reflow space t.switchToPrimaryBuffer
  have restored := (keeps_restoreCursor t.switchToPrimaryBuffer).trans (keeps_reflow space _)
  cases mode with
  | cursorKeys => exact Keeps.still (keeps_same rfl rfl rfl)
  | origin =>
    have moded : Keeps allowed t { t with originMode := false } := keeps_same rfl rfl rfl
    exact (moded.trans (keeps_moveCursorHome _)).still
  | autoWrap => exact Keeps.still (keeps_same rfl rfl rfl)
  | textCursorEnable => exact Keeps.still (keeps_same rfl rfl rfl)
  | altScreenBuffer =>
    refine ⟨switched.active.trans (switchToPrimaryBuffer_active t), fun h => ?_⟩
    exact switched.holds (switchToPrimaryBuffer_holds h)
  | saveCursor => exact (keeps_restoreCursor t).still
  | saveCursorAltScreenBuffer =>
    refine ⟨restored.active.trans (switchToPrimaryBuffer_active _), fun h => ?_⟩
    exact restored.holds (switchToPrimaryBuffer_holds h)

omit space in
lemma foldl_modes {f : Terminal → DecMode → Terminal} {target : BufferType}
    (one : ∀ t mode, (f t mode).activeBufferType = (if mode.selects then target else t.activeBufferType) ∧
      (t.Holds allowed → (f t mode).Holds allowed)) (modes : List DecMode) (t : Terminal) :
    (modes.foldl f t).activeBufferType =
        (if modes.any DecMode.selects then target else t.activeBufferType) ∧
      (t.Holds allowed → (modes.foldl f t).Holds allowed) := by
  induction modes generalizing t with
  | nil => exact ⟨rfl, fun h => h⟩
  | cons mode modes ih =>
    obtain ⟨active, holds⟩ := one t mode
    obtain ⟨active', holds'⟩ := ih (f t mode)
    refine ⟨?_, fun h => holds' (holds h)⟩
    rw [List.foldl_cons, active', active, List.any_cons]
    cases mode.selects with
    | true => simp
    | false => simp

/-! ### Executing a function -/

lemma execute_keeps (width : Char → Option Nat) (letter : allowed 'E')
    (translate : ∀ charset ch, allowed ch → allowed (Charset.translate charset ch)) {f : Function}
    (still : ∀ modes, f ≠ .decset modes ∧ f ≠ .decrst modes) (reset : f ≠ .ris)
    (printed : ∀ ch, f = .print ch → allowed ch) (t : Terminal) : Keeps allowed t (t.execute width f) := by
  cases f with
  | decset modes => exact ((still modes).1 rfl).elim
  | decrst modes => exact ((still modes).2 rfl).elim
  | ris => exact (reset rfl).elim
  | print ch => exact keeps_print space width (fun charset => translate charset ch (printed ch rfl)) t
  | rep n => exact keeps_rep space width translate t n
  | ctc op => cases op <;> [exact keeps_setTab t; exact keeps_clearTab t; exact keeps_clearAllTabs t]
  | tbc scope => cases scope <;> [exact keeps_clearTab t; exact keeps_clearAllTabs t]
  | ed scope => cases scope <;> first | exact keeps_erase space t _ _ _ | exact .refl t
  | el scope => cases scope <;> exact keeps_erase space t _ _ _
  | ech n => exact keeps_erase space t _ _ _
  | cnl n => exact (keeps_setCursor t _ _).trans (keeps_setCursor _ _ _)
  | cpl n => exact (keeps_setCursor t _ _).trans (keeps_setCursor _ _ _)
  | cup row col => exact (keeps_moveCursorToCol t _).trans (keeps_moveCursorToRow _ _)
  | nel => exact (keeps_moveCursorDownWithScroll space t).trans (keeps_setCursor _ _ _)
  | dch n => exact keeps_dch space t n
  | ich n => exact keeps_ich space width t n
  | il n => exact keeps_buffer rfl rfl fun h => h.scrollDown space _ _ _ _
  | dl n => exact keeps_buffer rfl rfl fun h => h.scrollUp space _ _ _ _
  | su n => exact keeps_scrollUpInRegion space t _
  | sd n => exact keeps_scrollDownInRegion space t _
  | lf => exact keeps_lf space t
  | ri => exact keeps_ri space t
  | hts => exact keeps_setTab t
  | decaln => exact keeps_decaln space width letter t
  | decstbm top bottom => exact keeps_decstbm t top bottom
  | sm modes => exact keeps_setAnsiModes t modes true
  | rm modes => exact keeps_setAnsiModes t modes false
  | xtwinops cols rows => exact .ite (keeps_resize space t _ _) (.refl t)
  | bs | ht | cr => exact keeps_setCursor t _ _
  | cbt n | cha n | cht n | cub n | cud n | cuf n | cuu n | vpa n | vpr n => exact keeps_setCursor t _ _
  | decrc | scorc => exact keeps_restoreCursor t
  | decsc | scosc => exact keeps_saveCursor t
  | decstr | si | so => exact ⟨rfl, fun h => ⟨h.buffer, h.otherBuffer⟩⟩
  | g1d4 charset | gzd4 charset => exact ⟨rfl, fun h => ⟨h.buffer, h.otherBuffer⟩⟩
  | sgr ops => exact ⟨rfl, fun h => ⟨h.buffer, h.otherBuffer⟩⟩

theorem execute_holds (letter : allowed 'E')
    (translate : ∀ charset ch, allowed ch → allowed (Charset.translate charset ch)) {f : Function}
    (printed : ∀ ch, f = .print ch → allowed ch) (h : t.Holds allowed) : (t.execute width f).Holds allowed := by
  by_cases reset : f = .ris
  · rw [reset]
    exact ⟨Buffer.new_holds space _ _ _ _, Buffer.new_holds space _ _ _ _⟩
  by_cases set : ∃ modes, f = .decset modes
  · obtain ⟨modes, rfl⟩ := set
    exact (foldl_modes (setDecMode_spec space) modes t).2 h
  by_cases unset : ∃ modes, f = .decrst modes
  · obtain ⟨modes, rfl⟩ := unset
    exact (foldl_modes (resetDecMode_spec space) modes t).2 h
  · refine (execute_keeps space width letter translate ?_ reset printed t).holds h
    exact fun modes => ⟨fun same => set ⟨modes, same⟩, fun same => unset ⟨modes, same⟩⟩

end

theorem execute_active (width : Char → Option Nat) (t : Terminal) (f : Function) :
    (t.execute width f).activeBufferType = f.activates t.activeBufferType := by
  have still : ∀ f : Function, (∀ modes, f ≠ .decset modes ∧ f ≠ .decrst modes) → f ≠ .ris →
      (t.execute width f).activeBufferType = t.activeBufferType :=
    fun f still reset => (@execute_keeps (fun _ => True) trivial width trivial (fun _ _ _ => trivial) f still
      reset (fun _ _ => trivial) t).active
  cases f with
  | decset modes => exact (foldl_modes (@setDecMode_spec (fun _ => True) trivial) modes t).1
  | decrst modes => exact (foldl_modes (@resetDecMode_spec (fun _ => True) trivial) modes t).1
  | ris => rfl
  | _ => exact still _ (fun _ => ⟨nofun, nofun⟩) nofun

end Terminal

end Ctl.Avt
