import Ctl.Avt.Line
import Mathlib.Data.Nat.Notation
import Mathlib.Tactic.SplitIfs

/-!
# The parser of the emulator

Model of `ctmux/avt/src/parser.rs`: the state machine for control sequences, the functions that it
produces, and how functions and an unfinished sequence are dumped.

The source keeps 32 parameters with six parts each, of which those behind the current one are zero; here
the parameters and parts up to the current one are lists. The small collections of operations and modes
are lists too.
-/

namespace Ctl.Avt

/-! ### Functions -/

/-- Rust `charset::Charset`. -/
inductive Charset
  | ascii | drawing
  deriving DecidableEq

/-- Rust `CtcOp`. -/
inductive CtcOp
  | set | clearCurrentColumn | clearAll
  deriving DecidableEq

/-- Rust `AnsiMode`. -/
inductive AnsiMode
  | insert | newLine
  deriving DecidableEq

/-- Rust `DecMode`. -/
inductive DecMode
  | cursorKeys | origin | autoWrap | textCursorEnable | altScreenBuffer | saveCursor
  | saveCursorAltScreenBuffer
  deriving DecidableEq

/-- Rust `EdScope`. -/
inductive EdScope
  | below | above | all | savedLines
  deriving DecidableEq

/-- Rust `ElScope`. -/
inductive ElScope
  | toRight | toLeft | all
  deriving DecidableEq

/-- Rust `TbcScope`. -/
inductive TbcScope
  | currentColumn | all
  deriving DecidableEq

/-- Rust `SgrOp`. -/
inductive SgrOp
  | reset | setBoldIntensity | setFaintIntensity | setItalic | setUnderline | setBlink | setInverse
  | setStrikethrough | resetIntensity | resetItalic | resetUnderline | resetBlink | resetInverse
  | resetStrikethrough
  | setForegroundColor (color : Color)
  | resetForegroundColor
  | setBackgroundColor (color : Color)
  | resetBackgroundColor
  deriving DecidableEq

/-- Rust `Function`. -/
inductive Function
  | bs
  | cbt (n : Nat)
  | cha (n : Nat)
  | cht (n : Nat)
  | cnl (n : Nat)
  | cpl (n : Nat)
  | cr
  | ctc (op : CtcOp)
  | cub (n : Nat)
  | cud (n : Nat)
  | cuf (n : Nat)
  | cup (row col : Nat)
  | cuu (n : Nat)
  | dch (n : Nat)
  | decaln
  | decrc
  | decrst (modes : List DecMode)
  | decsc
  | decset (modes : List DecMode)
  | decstbm (top bottom : Nat)
  | decstr
  | dl (n : Nat)
  | ech (n : Nat)
  | ed (scope : EdScope)
  | el (scope : ElScope)
  | g1d4 (charset : Charset)
  | gzd4 (charset : Charset)
  | ht
  | hts
  | ich (n : Nat)
  | il (n : Nat)
  | lf
  | nel
  | print (ch : Char)
  | rep (n : Nat)
  | ri
  | ris
  | rm (modes : List AnsiMode)
  | scorc
  | scosc
  | sd (n : Nat)
  | sgr (ops : List SgrOp)
  | si
  | sm (modes : List AnsiMode)
  | so
  | su (n : Nat)
  | tbc (scope : TbcScope)
  | vpa (n : Nat)
  | vpr (n : Nat)
  /-- Rust `Xtwinops(Resize(cols, rows))`. -/
  | xtwinops (cols rows : Nat)
  deriving DecidableEq

/-! ### The state machine -/

/-- A number in decimal digits (Rust `to_string`). -/
def decimal (n : Nat) : List Char := Nat.toDigits 10 n

/-- Texts with a separator between them (Rust `join`). -/
def join (separator : Char) (texts : List (List Char)) : List Char :=
  [separator].intercalate texts

/-- Rust `State`. -/
inductive State
  | ground | escape | escapeIntermediate | csiEntry | csiParam | csiIntermediate | csiIgnore | dcsEntry
  | dcsParam | dcsIntermediate | dcsPassthrough | dcsIgnore | oscString | sosPmApcString
  deriving DecidableEq

/-- `PARAMS_LEN`. -/
def paramsLen : Nat := 32

/-- `MAX_PARAM_LEN`. -/
def maxParamLen : Nat := 6

/-- Rust `Parser`. -/
structure Parser where
  state : State
  params : List (List Nat)
  intermediate : Option Char
  deriving DecidableEq

namespace Parser

/-- Rust `Parser::new`. -/
def new : Parser := ⟨.ground, [[0]], none⟩

/-- Rust `clear`. -/
def clear (p : Parser) : Parser := { p with params := [[0]], intermediate := none }

/-- Rust `collect`. -/
def collect (p : Parser) (input : Char) : Parser := { p with intermediate := some input }

/-- Rust `Param::add_part`. -/
def addPart (param : List Nat) : List Nat := if param.length < maxParamLen then param ++ [0] else param

/-- Rust `Param::add_digit`. -/
def addDigit (param : List Nat) (digit : Nat) : List Nat :=
  param.modify (param.length - 1) fun number => (10 * number + digit) % 65536

def modifyParam (p : Parser) (f : List Nat → List Nat) : Parser :=
  { p with params := p.params.modify (p.params.length - 1) f }

/-- Rust `param`. -/
def param (p : Parser) (input : Char) : Parser :=
  if input = ';' then
    if p.params.length < paramsLen then { p with params := p.params ++ [[0]] } else p
  else if input = ':' then p.modifyParam addPart
  else p.modifyParam (addDigit · (input.toNat - 0x30))

@[simp] lemma param_state (p : Parser) (input : Char) : (p.param input).state = p.state := by
  unfold param
  split_ifs <;> rfl

@[simp] lemma param_intermediate (p : Parser) (input : Char) : (p.param input).intermediate = p.intermediate := by
  unfold param
  split_ifs <;> rfl

@[simp] lemma collect_state (p : Parser) (input : Char) : (p.collect input).state = p.state := rfl

/-- Rust `execute`. -/
def execute (input : Char) : Option Function :=
  match input.toNat with
  | 0x08 => some .bs
  | 0x09 => some .ht
  | 0x0a => some .lf
  | 0x0b => some .lf
  | 0x0c => some .lf
  | 0x0d => some .cr
  | 0x0e => some .so
  | 0x0f => some .si
  | 0x84 => some .lf
  | 0x85 => some .nel
  | 0x88 => some .hts
  | 0x8d => some .ri
  | _ => none

/-- Rust `esc_dispatch`. -/
def escDispatch (p : Parser) (input : Char) : Option Function :=
  match p.intermediate with
  | none =>
    if '@' ≤ input ∧ input ≤ '_' then execute (Char.ofNat (input.toNat + 0x40))
    else match input with
      | '7' => some .decsc
      | '8' => some .decrc
      | 'c' => some .ris
      | _ => none
  | some '#' => if input = '8' then some .decaln else none
  | some '(' => some (.gzd4 (if input = '0' then .drawing else .ascii))
  | some ')' => some (.g1d4 (if input = '0' then .drawing else .ascii))
  | some _ => none

/-- Rust `Param::as_u16` of a parameter. -/
def ps (p : Parser) (index : Nat) : Nat := ((p.params[index]?).getD [0]).headD 0

/-- Rust `ansi_mode`. -/
def ansiMode (param : List Nat) : Option AnsiMode :=
  match param.headD 0 with
  | 4 => some .insert
  | 20 => some .newLine
  | _ => none

/-- Rust `dec_mode`. -/
def decMode (param : List Nat) : Option DecMode :=
  match param.headD 0 with
  | 1 => some .cursorKeys
  | 6 => some .origin
  | 7 => some .autoWrap
  | 25 => some .textCursorEnable
  | 47 => some .altScreenBuffer
  | 1047 => some .altScreenBuffer
  | 1048 => some .saveCursor
  | 1049 => some .saveCursorAltScreenBuffer
  | _ => none

/-- Rust `Color::rgb` of three parameters. -/
def rgb (r g b : Nat) : Color := .rgb (.ofNat r) (.ofNat g) (.ofNat b)

def sgrOp : List Nat → Option SgrOp
  | [0] => some .reset
  | [1] => some .setBoldIntensity
  | [2] => some .setFaintIntensity
  | [3] => some .setItalic
  | [4] => some .setUnderline
  | [5] => some .setBlink
  | [7] => some .setInverse
  | [9] => some .setStrikethrough
  | [21] => some .resetIntensity
  | [22] => some .resetIntensity
  | [23] => some .resetItalic
  | [24] => some .resetUnderline
  | [25] => some .resetBlink
  | [27] => some .resetInverse
  | [29] => some .resetStrikethrough
  | [38, 2, r, g, b] => some (.setForegroundColor (rgb r g b))
  | [38, 2, _, r, g, b] => some (.setForegroundColor (rgb r g b))
  | [38, 5, idx] => some (.setForegroundColor (.indexed (.ofNat idx)))
  | [39] => some .resetForegroundColor
  | [48, 2, r, g, b] => some (.setBackgroundColor (rgb r g b))
  | [48, 2, _, r, g, b] => some (.setBackgroundColor (rgb r g b))
  | [48, 5, idx] => some (.setBackgroundColor (.indexed (.ofNat idx)))
  | [49] => some .resetBackgroundColor
  | [n] =>
    if 30 ≤ n ∧ n ≤ 37 then some (.setForegroundColor (.indexed (.ofNat (n - 30))))
    else if 40 ≤ n ∧ n ≤ 47 then some (.setBackgroundColor (.indexed (.ofNat (n - 40))))
    else if 90 ≤ n ∧ n ≤ 97 then some (.setForegroundColor (.indexed (.ofNat (n - 90 + 8))))
    else if 100 ≤ n ∧ n ≤ 107 then some (.setBackgroundColor (.indexed (.ofNat (n - 100 + 8))))
    else none
  | _ => none

/-- Rust `SgrOpsDecoder`. -/
def sgrOps : List (List Nat) → List SgrOp
  | [] => []
  | [38] :: [2] :: r :: g :: b :: rest =>
    .setForegroundColor (rgb (r.headD 0) (g.headD 0) (b.headD 0)) :: sgrOps rest
  | [38] :: [2] :: rest => sgrOps rest
  | [38] :: [5] :: idx :: rest =>
    .setForegroundColor (.indexed (.ofNat (idx.headD 0))) :: sgrOps rest
  | [38] :: [5] :: rest => sgrOps rest
  | [48] :: [2] :: r :: g :: b :: rest =>
    .setBackgroundColor (rgb (r.headD 0) (g.headD 0) (b.headD 0)) :: sgrOps rest
  | [48] :: [2] :: rest => sgrOps rest
  | [48] :: [5] :: idx :: rest =>
    .setBackgroundColor (.indexed (.ofNat (idx.headD 0))) :: sgrOps rest
  | [48] :: [5] :: rest => sgrOps rest
  | param :: rest => (sgrOp param).toList ++ sgrOps rest

/-- Rust `csi_dispatch`. -/
def csiDispatch (p : Parser) (input : Char) : Option Function :=
  match p.intermediate with
  | none =>
    match input with
    | '@' => some (.ich (p.ps 0))
    | 'A' => some (.cuu (p.ps 0))
    | 'B' => some (.cud (p.ps 0))
    | 'C' => some (.cuf (p.ps 0))
    | 'D' => some (.cub (p.ps 0))
    | 'E' => some (.cnl (p.ps 0))
    | 'F' => some (.cpl (p.ps 0))
    | 'G' => some (.cha (p.ps 0))
    | 'H' => some (.cup (p.ps 0) (p.ps 1))
    | 'I' => some (.cht (p.ps 0))
    | 'J' =>
      match p.ps 0 with
      | 0 => some (.ed .below)
      | 1 => some (.ed .above)
      | 2 => some (.ed .all)
      | 3 => some (.ed .savedLines)
      | _ => none
    | 'K' =>
      match p.ps 0 with
      | 0 => some (.el .toRight)
      | 1 => some (.el .toLeft)
      | 2 => some (.el .all)
      | _ => none
    | 'L' => some (.il (p.ps 0))
    | 'M' => some (.dl (p.ps 0))
    | 'P' => some (.dch (p.ps 0))
    | 'S' => some (.su (p.ps 0))
    | 'T' => some (.sd (p.ps 0))
    | 'W' =>
      match p.ps 0 with
      | 0 => some (.ctc .set)
      | 2 => some (.ctc .clearCurrentColumn)
      | 5 => some (.ctc .clearAll)
      | _ => none
    | 'X' => some (.ech (p.ps 0))
    | 'Z' => some (.cbt (p.ps 0))
    | '\x60' => some (.cha (p.ps 0))
    | 'a' => some (.cuf (p.ps 0))
    | 'b' => some (.rep (p.ps 0))
    | 'd' => some (.vpa (p.ps 0))
    | 'e' => some (.vpr (p.ps 0))
    | 'f' => some (.cup (p.ps 0) (p.ps 1))
    | 'g' =>
      match p.ps 0 with
      | 0 => some (.tbc .currentColumn)
      | 3 => some (.tbc .all)
      | _ => none
    | 'h' => some (.sm (p.params.filterMap ansiMode))
    | 'l' => some (.rm (p.params.filterMap ansiMode))
    | 'm' => some (.sgr (sgrOps p.params))
    | 'r' => some (.decstbm (p.ps 0) (p.ps 1))
    | 's' => some .scosc
    | 't' => if p.ps 0 = 8 then some (.xtwinops (p.ps 2) (p.ps 1)) else none
    | 'u' => some .scorc
    | _ => none
  | some '!' => if input = 'p' then some .decstr else none
  | some '?' =>
    match input with
    | 'h' => some (.decset (p.params.filterMap decMode))
    | 'l' => some (.decrst (p.params.filterMap decMode))
    | _ => none
  | some _ => none

/-- The part of `feed` for the characters that are not controls of every state; `n` is the code of the
    character, of `A` for those behind the controls. -/
def feedState (p : Parser) (input : Char) (n : Nat) : Parser × Option Function :=
  match p.state with
  | .ground => if n < 0x20 then (p, execute input) else (p, some (.print input))
  | .escape =>
    if n < 0x20 then (p, execute input)
    else if n < 0x30 then ({ p.collect input with state := .escapeIntermediate }, none)
    else if n = 0x5b then ({ p.clear with state := .csiEntry }, none)
    else if n = 0x5d then ({ p with state := .oscString }, none)
    else if n = 0x50 then ({ p.clear with state := .dcsEntry }, none)
    else if n = 0x58 ∨ n = 0x5e ∨ n = 0x5f then ({ p with state := .sosPmApcString }, none)
    else if n = 0x7f then (p, none)
    else ({ p with state := .ground }, p.escDispatch input)
  | .escapeIntermediate =>
    if n < 0x20 then (p, execute input)
    else if n < 0x30 then (p.collect input, none)
    else if n = 0x7f then (p, none)
    else ({ p with state := .ground }, p.escDispatch input)
  | .csiEntry =>
    if n < 0x20 then (p, execute input)
    else if n < 0x30 then ({ p.collect input with state := .csiIntermediate }, none)
    else if n = 0x3a then ({ p with state := .csiIgnore }, none)
    else if n < 0x3c then ({ p.param input with state := .csiParam }, none)
    else if n < 0x40 then ({ p.collect input with state := .csiParam }, none)
    else if n = 0x7f then (p, none)
    else ({ p with state := .ground }, p.csiDispatch input)
  | .csiParam =>
    if n < 0x20 then (p, execute input)
    else if n < 0x30 then ({ p.collect input with state := .csiIntermediate }, none)
    else if n < 0x3c then (p.param input, none)
    else if n < 0x40 then ({ p with state := .csiIgnore }, none)
    else if n = 0x7f then (p, none)
    else ({ p with state := .ground }, p.csiDispatch input)
  | .csiIntermediate =>
    if n < 0x20 then (p, execute input)
    else if n < 0x30 then (p.collect input, none)
    else if n < 0x40 then ({ p with state := .csiIgnore }, none)
    else if n = 0x7f then (p, none)
    else ({ p with state := .ground }, p.csiDispatch input)
  | .csiIgnore =>
    if n < 0x20 then (p, execute input)
    else if n < 0x40 ∨ n = 0x7f then (p, none)
    else ({ p with state := .ground }, none)
  | .dcsEntry =>
    if n < 0x20 ∨ n = 0x7f then (p, none)
    else if n < 0x30 then ({ p.collect input with state := .dcsIntermediate }, none)
    else if n = 0x3a then ({ p with state := .dcsIgnore }, none)
    else if n < 0x3c then ({ p.param input with state := .dcsParam }, none)
    else if n < 0x40 then ({ p.collect input with state := .dcsParam }, none)
    else ({ p with state := .dcsPassthrough }, none)
  | .dcsParam =>
    if n < 0x20 ∨ n = 0x7f then (p, none)
    else if n < 0x30 then ({ p.collect input with state := .dcsIntermediate }, none)
    else if n = 0x3a then ({ p with state := .dcsIgnore }, none)
    else if n < 0x3c then (p.param input, none)
    else if n < 0x40 then ({ p with state := .dcsIgnore }, none)
    else ({ p with state := .dcsPassthrough }, none)
  | .dcsIntermediate =>
    if n < 0x20 ∨ n = 0x7f then (p, none)
    else if n < 0x30 then (p.collect input, none)
    else if n < 0x40 then ({ p with state := .dcsIgnore }, none)
    else ({ p with state := .dcsPassthrough }, none)
  | .dcsPassthrough => (p, none)
  | .dcsIgnore => (p, none)
  | .oscString => if n = 0x07 then ({ p with state := .ground }, none) else (p, none)
  | .sosPmApcString => (p, none)

/-- The code that `feed` looks at. -/
def code (input : Char) : Nat := if 0xa0 ≤ input.toNat then 0x41 else input.toNat

/-- Rust `feed`. The controls that every state has come first. -/
def feed (p : Parser) (input : Char) : Parser × Option Function :=
  let n := code input
  if n = 0x1b then ({ p.clear with state := .escape }, none)
  else if n = 0x18 ∨ n = 0x1a ∨ (0x80 ≤ n ∧ n ≤ 0x8f) ∨ (0x91 ≤ n ∧ n ≤ 0x97) ∨ n = 0x99 ∨ n = 0x9a then
    ({ p with state := .ground }, execute input)
  else if n = 0x98 ∨ n = 0x9e ∨ n = 0x9f then ({ p with state := .sosPmApcString }, none)
  else if n = 0x9c then ({ p with state := .ground }, none)
  else if n = 0x9d then ({ p with state := .oscString }, none)
  else if n = 0x90 then ({ p.clear with state := .dcsEntry }, none)
  else if n = 0x9b then ({ p.clear with state := .csiEntry }, none)
  else p.feedState input n

/-! ### Dumps -/

/-- The text of a parameter (Rust `Display for Param`). -/
def paramText (param : List Nat) : List Char := join ':' (param.map decimal)

def paramsText (p : Parser) : List Char := join ';' (p.params.map paramText)

/-- Rust `Parser::dump`. -/
def dump (p : Parser) : List Char :=
  match p.state with
  | .ground => []
  | .escape => ['\x1b']
  | .escapeIntermediate => '\x1b' :: p.intermediate.toList
  | .csiEntry => ['\u009b']
  | .csiParam => '\u009b' :: p.intermediate.toList ++ p.paramsText
  | .csiIntermediate => '\u009b' :: p.intermediate.toList
  | .csiIgnore => ['\u009b', ':']
  | .dcsEntry => ['\u0090']
  | .dcsIntermediate => '\u0090' :: p.intermediate.toList
  | .dcsParam => '\u0090' :: p.intermediate.toList ++ p.paramsText
  | .dcsPassthrough => '\u0090' :: p.intermediate.toList ++ ['@']
  | .dcsIgnore => ['\u0090', ':']
  | .oscString => ['\u009d']
  | .sosPmApcString => ['\u0098']

end Parser

namespace Function

/-- Rust `push_esc`. -/
def esc (intermediate : Option Char) (final : Char) : List Char :=
  '\x1b' :: intermediate.toList ++ [final]

/-- Rust `push_csi`. -/
def csi (intermediate : Option Char) (params : List (List Char)) (final : Char) : List Char :=
  '\x1b' :: '[' :: intermediate.toList ++ join ';' params ++ [final]

/-- Rust `dump_sgr_color`. -/
def dumpSgrColor (color : Color) (base : Nat) : List Char :=
  match color with
  | .indexed c =>
    if c < 8 then decimal (base + c.toNat)
    else if c < 16 then decimal (base + 52 + c.toNat)
    else join ':' [decimal (base + 8), decimal 5, decimal c.toNat]
  | .rgb r g b =>
    join ':' [decimal (base + 8), decimal 2, decimal r.toNat, decimal g.toNat, decimal b.toNat]

def sgrParam : SgrOp → List Char
  | .reset => decimal 0
  | .setBoldIntensity => decimal 1
  | .setFaintIntensity => decimal 2
  | .setItalic => decimal 3
  | .setUnderline => decimal 4
  | .setBlink => decimal 5
  | .setInverse => decimal 7
  | .setStrikethrough => decimal 9
  | .resetIntensity => decimal 22
  | .resetItalic => decimal 23
  | .resetUnderline => decimal 24
  | .resetBlink => decimal 25
  | .resetInverse => decimal 27
  | .resetStrikethrough => decimal 29
  | .setForegroundColor color => dumpSgrColor color 30
  | .resetForegroundColor => decimal 39
  | .setBackgroundColor color => dumpSgrColor color 40
  | .resetBackgroundColor => decimal 49

def decNumber : DecMode → Nat
  | .cursorKeys => 1
  | .origin => 6
  | .autoWrap => 7
  | .textCursorEnable => 25
  | .altScreenBuffer => 1047
  | .saveCursor => 1048
  | .saveCursorAltScreenBuffer => 1049

def ansiNumber : AnsiMode → Nat
  | .insert => 4
  | .newLine => 20

/-- Rust `dump_function`. -/
def dump : Function → List Char
  | bs => ['\x08']
  | cbt n => csi none [decimal n] 'Z'
  | cha n => csi none [decimal n] 'G'
  | cht n => csi none [decimal n] 'I'
  | cnl n => csi none [decimal n] 'E'
  | cpl n => csi none [decimal n] 'F'
  | cr => ['\r']
  | ctc op =>
    csi none [decimal (match op with | .set => 0 | .clearCurrentColumn => 2 | .clearAll => 5)] 'W'
  | cub n => csi none [decimal n] 'D'
  | cud n => csi none [decimal n] 'B'
  | cuf n => csi none [decimal n] 'C'
  | cup row col => csi none [decimal row, decimal col] 'H'
  | cuu n => csi none [decimal n] 'A'
  | dch n => csi none [decimal n] 'P'
  | decaln => esc (some '#') '8'
  | decrc => esc none '8'
  | decrst modes => csi (some '?') (modes.map fun mode => decimal (decNumber mode)) 'l'
  | decsc => esc none '7'
  | decset modes => csi (some '?') (modes.map fun mode => decimal (decNumber mode)) 'h'
  | decstbm top bottom => csi none [decimal top, decimal bottom] 'r'
  | decstr => csi (some '!') [] 'p'
  | dl n => csi none [decimal n] 'M'
  | ech n => csi none [decimal n] 'X'
  | ed scope =>
    csi none [decimal (match scope with | .below => 0 | .above => 1 | .all => 2 | .savedLines => 3)] 'J'
  | el scope => csi none [decimal (match scope with | .toRight => 0 | .toLeft => 1 | .all => 2)] 'K'
  | g1d4 charset => esc (some ')') (match charset with | .drawing => '0' | .ascii => 'B')
  | gzd4 charset => esc (some '(') (match charset with | .drawing => '0' | .ascii => 'B')
  | ht => ['\t']
  | hts => esc none 'H'
  | ich n => csi none [decimal n] '@'
  | il n => csi none [decimal n] 'L'
  | lf => ['\n']
  | nel => esc none 'E'
  | print ch => [ch]
  | rep n => csi none [decimal n] 'b'
  | ri => esc none 'M'
  | ris => esc none 'c'
  | rm modes => csi none (modes.map fun mode => decimal (ansiNumber mode)) 'l'
  | scorc => csi none [] 'u'
  | scosc => csi none [] 's'
  | sd n => csi none [decimal n] 'T'
  | sgr ops =>
    -- An empty list would read as a reset.
    if ops.isEmpty then csi none [decimal 38, decimal 2] 'm' else csi none (ops.map sgrParam) 'm'
  | si => ['\x0f']
  | sm modes => csi none (modes.map fun mode => decimal (ansiNumber mode)) 'h'
  | so => ['\x0e']
  | su n => csi none [decimal n] 'S'
  | tbc scope => csi none [decimal (match scope with | .currentColumn => 0 | .all => 3)] 'g'
  | vpa n => csi none [decimal n] 'd'
  | vpr n => csi none [decimal n] 'e'
  | xtwinops cols rows => csi none [decimal 8, decimal rows, decimal cols] 't'

end Function

end Ctl.Avt
