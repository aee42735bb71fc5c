import Ctl.Avt.Reading
import Ctl.Base.Reading
import Mathlib.Data.List.SplitBy

/-!
# Feeding a dump

An emulator whose cells hold printable characters stays so (`Vt.Holds`), and a dump of its primary screen
leaves a new emulator outside of sequences, with the primary buffer active (`feedStr_dump`).
-/

namespace Ctl.Avt

lemma printable_translate (charset : Charset) (ch : Char) (h : Printable ch) : Printable (charset.translate ch) := by
  have all : ∀ c ∈ specialGfxChars, Printable c := by
    unfold Printable
    decide
  cases charset with
  | ascii => exact h
  | drawing =>
    rw [Charset.translate]
    split
    · cases found : specialGfxChars[ch.toNat - 0x60]? with
      | none => exact h
      | some c => exact all c (List.mem_of_getElem? found)
    · exact h

/-! ### What is dumped -/

/-- The functions of a dump select no buffer. -/
def QuietAll (functions : List Function) : Prop := ∀ f ∈ functions, f.Quiet

lemma QuietAll.append {first last : List Function} (h : QuietAll first) (k : QuietAll last) :
    QuietAll (first ++ last) := List.forall_mem_append.2 ⟨h, k⟩

lemma QuietAll.cons {f : Function} {functions : List Function} (h : f.Quiet) (k : QuietAll functions) :
    QuietAll (f :: functions) := List.forall_mem_cons.2 ⟨h, k⟩

lemma quietAll_nil : QuietAll [] := nofun

variable {p : Prop}

lemma QuietAll.ite [Decidable p] {a b : List Function} (h : QuietAll a) (k : QuietAll b) :
    QuietAll (if p then a else b) := by
  split_ifs
  · exact h
  · exact k

lemma quietAll_when [Decidable p] {f : Function} (h : f.Quiet) :
    QuietAll (if p then [f] else []) := .ite (.cons h quietAll_nil) quietAll_nil

lemma quiet_dumpRun {run : List Char} (h : ∀ ch ∈ run, Printable ch) : QuietAll (dumpRun run) := by
  cases run with
  | nil => exact quietAll_nil
  | cons ch run =>
    have own : (Function.print ch).Quiet := h ch List.mem_cons_self
    refine .ite (.cons own (.cons trivial quietAll_nil)) fun f mem => ?_
    rw [List.eq_of_mem_replicate mem]
    exact own

lemma quiet_dumpCells {cells : List Cell} (h : ∀ cell ∈ cells, Printable cell.char) : QuietAll (dumpCells cells) := by
  intro f mem
  obtain ⟨run, inside, mem⟩ := List.mem_flatMap.1 mem
  refine quiet_dumpRun (fun ch own => ?_) f mem
  have all : ch ∈ ((cells.map (·.char)).splitBy (· == ·)).flatten := List.mem_flatten.2 ⟨run, inside, own⟩
  rw [List.flatten_splitBy] at all
  obtain ⟨cell, mem, rfl⟩ := List.mem_map.1 all
  exact h cell mem

lemma quiet_toSgrDiff (old new : Pen) : QuietAll (toSgrDiff old new).toList := by
  rw [toSgrDiff]
  split_ifs
  · exact quietAll_nil
  · exact .cons trivial quietAll_nil

lemma quiet_dumpChunks (pen : Pen) {chunks : List (List Cell)}
    (h : ∀ cells ∈ chunks, ∀ cell ∈ cells, Printable cell.char) : QuietAll (dumpChunks pen chunks).2 := by
  induction chunks generalizing pen with
  | nil => exact quietAll_nil
  | cons cells chunks ih =>
    have own := quiet_dumpCells (h cells List.mem_cons_self)
    have rest := ih ((cells.head?.map (·.pen)).getD pen) fun c mem => h c (List.mem_cons_of_mem cells mem)
    rw [dumpChunks]
    exact ((quiet_toSgrDiff _ _).append own).append rest

lemma quiet_dumpLines (last i : Nat) (pen : Pen) {lines : List Line}
    (h : ∀ line ∈ lines, line.Uses Printable) : QuietAll (dumpLines last i pen lines) := by
  induction lines generalizing i pen with
  | nil => exact quietAll_nil
  | cons line lines ih =>
    have chunks : ∀ cells ∈ line.chunks (fun c1 c2 => c1.pen ≠ c2.pen), ∀ cell ∈ cells, Printable cell.char := by
      intro cells inside cell mem
      have all := List.mem_flatten.2 ⟨cells, inside, mem⟩
      rw [Line.chunks, List.flatten_splitBy] at all
      exact h line List.mem_cons_self cell (List.mem_filter.1 all).1
    have rest := fun pen => ih (i + 1) pen fun l mem => h l (List.mem_cons_of_mem line mem)
    rw [dumpLines]
    refine ((quiet_dumpChunks pen chunks).append (.ite ?_ quietAll_nil)).append (rest _)
    exact .cons trivial (.cons trivial quietAll_nil)

lemma quiet_dumpBuffer {b : Buffer} (h : b.Holds Printable) : QuietAll (dumpBuffer b) :=
  quiet_dumpLines _ _ _ fun line mem => (h line (List.mem_of_mem_drop (List.mem_of_mem_take mem))).uses

namespace Terminal

lemma quiet_dumpTabs (t : Terminal) : QuietAll t.dumpTabs := by
  have tab : ∀ n, QuietAll [.cha n, .ctc .set] := fun _ => .cons trivial (.cons trivial quietAll_nil)
  refine .ite (.cons trivial fun f mem => ?_) quietAll_nil
  obtain ⟨n, _, mem⟩ := List.mem_flatMap.1 mem
  exact tab (n + 1) f mem

lemma quiet_mode {mode : DecMode} (other : mode.selects = false) :
    (Function.decset [mode]).Quiet ∧ (Function.decrst [mode]).Quiet := ⟨⟨mode, rfl, other⟩, ⟨mode, rfl, other⟩⟩

lemma quiet_dumpSavedCtx (ctx : SavedCtx) : QuietAll (dumpSavedCtx ctx) := by
  refine .ite quietAll_nil ?_
  refine QuietAll.append (QuietAll.append (QuietAll.append (QuietAll.append ?_ ?_) ?_) ?_) ?_
  · exact quietAll_when (quiet_mode rfl).2
  · exact quietAll_when (quiet_mode rfl).1
  · exact .cons trivial (.cons trivial (.cons trivial quietAll_nil))
  · exact quietAll_when (quiet_mode rfl).1
  · exact quietAll_when (quiet_mode rfl).2

lemma quiet_dumpCursor (t : Terminal) : QuietAll t.dumpCursor := by
  have one : ∀ {p q : Prop} [Decidable p] [Decidable q] {f g : Function}, f.Quiet → g.Quiet →
      QuietAll (if p then [f] else if q then [g] else []) :=
    fun own other => .ite (.cons own quietAll_nil) (quietAll_when other)
  refine .ite (.ite ?_ ?_) ?_
  · exact QuietAll.append (.cons trivial (one trivial trivial)) (one trivial trivial)
  · exact .cons trivial quietAll_nil
  · exact .cons trivial quietAll_nil

variable {t : Terminal}

lemma quiet_dumpPending (h : t.Holds Printable) : QuietAll t.dumpPending := by
  have cell : ∀ col, Printable (t.buffer.cell col t.cursor.row).char :=
    fun col => h.buffer.cell (by unfold Printable; decide) col _
  refine .ite ?_ quietAll_nil
  dsimp only
  split
  · exact .cons trivial (.cons (cell _) quietAll_nil)
  · exact .cons trivial (.cons trivial (.cons (cell _) quietAll_nil))
  · exact quietAll_nil

lemma quiet_dumpModes (t : Terminal) : QuietAll t.dumpModes := by
  refine QuietAll.append (QuietAll.append (QuietAll.append (QuietAll.append (QuietAll.append
    (QuietAll.append (QuietAll.append ?_ ?_) ?_) ?_) ?_) ?_) ?_) ?_
  · exact quietAll_when (quiet_mode rfl).2
  · exact quietAll_when trivial
  · exact quietAll_when trivial
  · exact quietAll_when trivial
  · exact quietAll_when trivial
  · exact quietAll_when (quiet_mode rfl).2
  · exact quietAll_when trivial
  · exact quietAll_when (quiet_mode rfl).1

lemma Holds.primaryBuffer {allowed : Char → Prop} (h : t.Holds allowed) : t.primaryBuffer.Holds allowed := by
  rw [Terminal.primaryBuffer]
  split_ifs
  · exact h.buffer
  · exact h.otherBuffer

lemma quiet_dumpPrimary (h : t.Holds Printable) (ctx : SavedCtx) : QuietAll (t.dumpPrimary ctx) :=
  (((quiet_dumpBuffer h.primaryBuffer).append t.quiet_dumpTabs).append (quiet_dumpSavedCtx ctx)).append
    (.cons trivial quietAll_nil)

lemma quiet_dumpSettings (h : t.Holds Printable) : QuietAll t.dumpSettings := by
  refine QuietAll.append (QuietAll.append (QuietAll.append (QuietAll.append (QuietAll.append ?_ ?_) ?_) ?_) ?_) ?_
  · exact quietAll_when (quiet_mode rfl).1
  · exact quietAll_when trivial
  · exact t.quiet_dumpCursor
  · exact quiet_dumpPending h
  · exact .cons trivial quietAll_nil
  · exact t.quiet_dumpModes

end Terminal

/-! ### Feeding -/

namespace Vt

def Holds (vt : Vt) : Prop := vt.terminal.Holds Printable

lemma printable_space : Printable ' ' := by
  unfold Printable
  decide

lemma printable_letter : Printable 'E' := by
  unfold Printable
  decide

lemma build_holds (cols rows : Nat) (limit : Option Nat) (reflow : Bool) : (build cols rows limit reflow).Holds :=
  ⟨(Terminal.new_holds printable_space cols rows limit).buffer,
    (Terminal.new_holds printable_space cols rows limit).otherBuffer⟩

variable {vt : Vt}

lemma Holds.feed (h : vt.Holds) (width : Char → Option Nat) (ch : Char) : (vt.feed width ch).Holds := by
  rw [Vt.feed]
  cases read : vt.parser.feed ch with
  | mk q function =>
    cases function with
    | none => exact h
    | some f =>
      refine Terminal.execute_holds printable_space width printable_letter printable_translate ?_ h
      intro printed same
      rw [same] at read
      obtain ⟨own, printable, _⟩ := Parser.printed_of_feed read
      exact own ▸ printable

lemma Holds.collect (h : vt.Holds) : vt.collect.Holds :=
  (Terminal.keeps_gc _).holds ((Terminal.keeps_changes _).holds h)

lemma Holds.foldl_feed (h : vt.Holds) (width : Char → Option Nat) (text : List Char) :
    (text.foldl (Vt.feed width) vt).Holds := by
  induction text generalizing vt with
  | nil => exact h
  | cons ch text ih => exact ih (h.feed width ch)

lemma Holds.feedStr (h : vt.Holds) (width : Char → Option Nat) (text : List Char) :
    (vt.feedStr width text).Holds := (h.foldl_feed width text).collect

lemma Holds.resize (h : vt.Holds) (cols rows : Nat) : (vt.resize cols rows).Holds :=
  Holds.collect ((Terminal.keeps_resize printable_space _ cols rows).holds h)

def active (vt : Vt) : BufferType := vt.terminal.activeBufferType

@[simp] lemma collect_active (vt : Vt) : vt.collect.active = vt.active := rfl

@[simp] lemma resize_active (vt : Vt) (cols rows : Nat) : (vt.resize cols rows).active = vt.active :=
  (@Terminal.keeps_resize (fun _ => True) trivial vt.terminal cols rows).active

variable (width : Char → Option Nat)

lemma feed_active (vt : Vt) (ch : Char) :
    (vt.feed width ch).active =
      ((vt.parser.feed ch).2.toList.foldl (fun active f => f.activates active) vt.active) := by
  rw [active, Vt.feed]
  cases vt.parser.feed ch with
  | mk q function =>
    cases function with
    | none => rfl
    | some f => exact Terminal.execute_active width vt.terminal f

lemma foldl_feed_active (vt : Vt) (text : List Char) :
    (text.foldl (feed width) vt).parser = (vt.parser.reads text).1 ∧
      (text.foldl (feed width) vt).active =
        (vt.parser.reads text).2.foldl (fun active f => f.activates active) vt.active := by
  induction text generalizing vt with
  | nil => exact ⟨rfl, rfl⟩
  | cons ch text ih =>
    obtain ⟨parser, active⟩ := ih (vt.feed width ch)
    rw [List.foldl_cons, Parser.reads_cons]
    refine ⟨parser, ?_⟩
    rw [active, List.foldl_append, feed_active]
    rfl

lemma foldl_feed_passes {text : List Char} (h : vt.parser.Passes text) :
    (text.foldl (feed width) vt).parser.state = .ground ∧
      (text.foldl (feed width) vt).active = vt.active := by
  obtain ⟨parser, active⟩ := foldl_feed_active width vt text
  rw [parser, active]
  refine ⟨h.1, ?_⟩
  have still := h.2
  generalize (vt.parser.reads text).2 = functions at still
  generalize vt.active = type
  induction functions with
  | nil => rfl
  | cons f functions ih =>
    rw [List.foldl_cons, (still f List.mem_cons_self).activates]
    exact ih fun g mem => still g (List.mem_cons_of_mem f mem)

lemma foldl_feed_quiet (ground : vt.parser.state = .ground) {functions : List Function} (quiet : QuietAll functions) :
    ((functions.flatMap Function.dump).foldl (feed width) vt).parser.state = .ground ∧
      ((functions.flatMap Function.dump).foldl (feed width) vt).active = vt.active :=
  foldl_feed_passes width (Parser.passes_functions ground quiet)

lemma foldl_feed_alternate (vt : Vt) :
    (((Function.decset [.altScreenBuffer]).dump.foldl (feed width) vt).parser.state = .ground ∧
      ((Function.decset [.altScreenBuffer]).dump.foldl (feed width) vt).active = .alternate) ∧
    ((Function.decrst [.altScreenBuffer]).dump.foldl (feed width) vt).parser.state = .ground ∧
      ((Function.decrst [.altScreenBuffer]).dump.foldl (feed width) vt).active = .primary := by
  obtain ⟨parser, active⟩ := foldl_feed_active width vt (Function.decset [.altScreenBuffer]).dump
  obtain ⟨parser', active'⟩ := foldl_feed_active width vt (Function.decrst [.altScreenBuffer]).dump
  exact ⟨⟨by rw [parser]; rfl, by rw [active]; rfl⟩, by rw [parser']; rfl, by rw [active']; rfl⟩

theorem feedStr_dump (width : Char → Option Nat) {fresh : Vt} (h : vt.Holds) (primary : vt.active = .primary)
    (ground : vt.parser.state = .ground) (start : fresh.parser.state = .ground) (own : fresh.active = .primary) :
    (fresh.feedStr width vt.dump).parser.state = .ground ∧
      (fresh.feedStr width vt.dump).active = .primary := by
  have first := Terminal.quiet_dumpPrimary h vt.terminal.savedCtx
  have last := Terminal.quiet_dumpSettings h
  have text : vt.dump = (vt.terminal.dumpPrimary vt.terminal.savedCtx).flatMap Function.dump ++
      ((if vt.terminal.alternateSavedCtx.isDefault then []
        else [.decset [.altScreenBuffer]] ++ Terminal.dumpSavedCtx vt.terminal.alternateSavedCtx ++
          [.decrst [.altScreenBuffer]]).flatMap Function.dump ++
      vt.terminal.dumpSettings.flatMap Function.dump) := by
    have type : vt.terminal.activeBufferType = .primary := primary
    rw [dump, Terminal.dump, type, Parser.dump, ground]
    simp only [List.flatMap_append, List.append_nil, List.append_assoc]
  show ((vt.dump.foldl (feed width) fresh).parser.state = .ground) ∧
    (vt.dump.foldl (feed width) fresh).active = .primary
  rw [text, List.foldl_append, List.foldl_append]
  obtain ⟨ground₁, active₁⟩ := foldl_feed_quiet width start first
  generalize ((vt.terminal.dumpPrimary vt.terminal.savedCtx).flatMap Function.dump).foldl (feed width) fresh =
    vt₁ at ground₁ active₁ ⊢
  split_ifs with default
  · obtain ⟨ground₂, active₂⟩ := foldl_feed_quiet width ground₁ last
    exact ⟨ground₂, active₂.trans (active₁.trans own)⟩
  · simp only [List.flatMap_append, List.flatMap_singleton, List.foldl_append]
    obtain ⟨⟨ground₂, -⟩, -⟩ := foldl_feed_alternate width vt₁
    obtain ⟨ground₃, -⟩ := foldl_feed_quiet width ground₂
      (Terminal.quiet_dumpSavedCtx vt.terminal.alternateSavedCtx)
    obtain ⟨-, ground₄, active₄⟩ := foldl_feed_alternate width
      (((Terminal.dumpSavedCtx vt.terminal.alternateSavedCtx).flatMap Function.dump).foldl (feed width)
        ((Function.decset [.altScreenBuffer]).dump.foldl (feed width) vt₁))
    obtain ⟨ground₅, active₅⟩ := foldl_feed_quiet width ground₄ last
    exact ⟨ground₅, active₅.trans active₄⟩

end Vt

end Ctl.Avt
