import Ctl.Base.Spans
import Ctl.Approval.SshTarget

/-!
# Known-hosts paths

Model of the second half of `ctl/daemon/src/keychain/approval_scope.rs`: the trust files that the effective
configuration of OpenSSH names. The dump of the configuration does not quote file names, so that every run of
words may be one; each of the configured names is among them (`possiblePaths_mem`).
-/

namespace Ctl.Approval
open Ctl.Base Ctl.Proto

/-- Rust `MAX_PATH_TOKENS`. -/
def MAX_PATH_TOKENS : Nat := 16

variable (text : Text)

/-- Remove white space on both sides (Rust `str::trim`). -/
def trim : Text := trimEnd (text.dropWhile isWhitespace)

/-- The lines of a text without their ends (Rust `str::lines`): what follows the last line feed is a line if it
    is not empty. -/
def textLines : List Text :=
  let withoutReturn (line : Text) : Text := if line.getLast? = some '\r' then line.dropLast else line
  let pieces := text.splitOn '\n'
  pieces.dropLast.map withoutReturn ++ (pieces.getLast?.toList.filter (· ≠ []))

/-! ### Paths -/

structure Directories where
  /-- Rust `dirs::home_dir`. -/
  home : Option Path
  /-- Rust `std::env::current_dir`. -/
  current : Option Path

/-- Rust `Path::join`. -/
def Path.join (base path : Path) : Path :=
  if path.isAbsolute then path
  else if base = [] ∨ base.getLast? = some 0x2f then base ++ path
  else base ++ 0x2f :: path

/-- A buffer of bytes; none is longer than `isize::MAX`. -/
def allocated (bytes : List UInt8) : Option (List UInt8) := if bytes.length < 2 ^ 63 then some bytes else none

def isExpanded (c : Char) : Bool := c ∈ ['%', '$', '*', '?', '[', ']', '\\', '\'', '"'] || isControl c

def homePath (directories : Directories) : Text → Option Path
  | '~' :: '/' :: relative => directories.home.map fun home => home.join (utf8Bytes relative)
  | '~' :: _ => none
  | value => some (utf8Bytes value)

/-- The path that a name surely means (Rust `resolve_path`). -/
def resolvePath (directories : Directories) (value : Text) : Option Path :=
  if value.isEmpty || value.any isExpanded then none
  else
    (homePath directories value).bind fun path =>
      if path.isAbsolute then allocated path
      else directories.current.bind fun current => allocated (current.join path)

def readTokens (value : Text) : (offset : Nat) → (tokens : List (Nat × Nat)) → List Text → Option (List (Nat × Nat))
  | _, tokens, [] => some tokens
  | offset, tokens, token :: rest =>
    if token = "none".toList ∨ tokens.length = MAX_PATH_TOKENS then none
    else do
      let start := offset + (← find token (value.drop offset))
      readTokens value (start + token.length) (tokens ++ [(start, start + token.length)]) rest

def slice (value : Text) (start stop : Nat) : Text := (value.drop start).take (stop - start)

/-- Every path that a list of file names may mean (Rust `possible_paths`). -/
def possiblePaths (directories : Directories) (value : Text) : Option (List Path) :=
  if value = "none".toList then some []
  else if value ≠ trim value ∨ (splitOnce [' ', ' '] value).isSome ∨ value.any isControl then none
  else do
    let tokens ← readTokens value 0 [] (words isWhitespace value)
    if tokens.isEmpty then none
    else (groups tokens).mapM fun (start, stop) => resolvePath directories (slice value start stop)

/-! ### The effective configuration -/

/-- What has been read of a configuration. -/
structure Trust where
  paths : List Path
  userPaths : Bool
  globalPaths : Bool

/-- One line of a configuration (the body of the loop of Rust `known_host_paths`). -/
def readLine (directories : Directories) (explicitRoute : Bool) (trust : Trust) (line : Text) : Option Trust := do
  let (name, value) ← splitOnce [' '] line
  let is (option : String) : Bool := name = option.toList
  let answers (values : List String) : Bool := trim value ∈ values.map String.toList
  if is "knownhostscommand" && !answers ["none"] then none
  else if is "proxyjump" && !explicitRoute && !answers ["none"] then none
  else if is "verifyhostkeydns" && !answers ["no", "false"] then none
  else if is "nohostauthenticationforlocalhost" && !answers ["no", "false"] then none
  else if is "stricthostkeychecking" && !answers ["yes", "true", "ask"] then none
  else if is "revokedhostkeys" then
    (possiblePaths directories value).map fun paths => { trust with paths := trust.paths ++ paths }
  else if is "userknownhostsfile" || is "globalknownhostsfile" then
    if value.isEmpty then none
    else (possiblePaths directories value).map fun paths =>
      { paths := trust.paths ++ paths, userPaths := trust.userPaths || is "userknownhostsfile",
        globalPaths := trust.globalPaths || !is "userknownhostsfile" }
  else some trust

/-- The trust files that a configuration names (Rust `known_host_paths`). -/
def knownHostPaths (directories : Directories) (config : List UInt8) (explicitRoute : Bool) : Option (List Path) := do
  let text ← textOf config
  let trust ← (textLines text).foldlM (readLine directories explicitRoute) ⟨[], false, false⟩
  if trust.userPaths && trust.globalPaths then some trust.paths else none

/-! ### Every configured name is inspected -/

variable {directories first second : Directories} {value line : Text} {paths : List Path} {names : List Text}
  {explicitRoute : Bool} {trust trust' : Trust} {config : List UInt8} {paths' : List Path} {a a' b b' : Trust}
  {lines : List Text}

lemma possiblePaths_spec (accepted : possiblePaths directories value = some paths) :
    (value = "none".toList ∧ paths = []) ∨
      value ≠ "none".toList ∧ value = trim value ∧ splitOnce [' ', ' '] value = none ∧
        ∃ tokens, readTokens value 0 [] (words isWhitespace value) = some tokens ∧ tokens ≠ [] ∧
          (groups tokens).mapM (fun (start, stop) => resolvePath directories (slice value start stop)) =
            some paths := by
  unfold possiblePaths at accepted
  split at accepted
  case isTrue none =>
    cases accepted
    exact .inl ⟨none, rfl⟩
  case isFalse other =>
    split at accepted
    case isTrue => cases accepted
    case isFalse clean =>
      rw [not_or, not_or, not_not, Option.not_isSome_iff_eq_none] at clean
      rw [Option.bind_eq_bind, Option.bind_eq_some_iff] at accepted
      obtain ⟨tokens, read, accepted⟩ := accepted
      split at accepted
      case isTrue => cases accepted
      case isFalse some =>
        exact .inr ⟨other, clean.1, clean.2.1, tokens, read, fun empty => some (by rw [empty]; rfl), accepted⟩

lemma readTokens_spans {offset : Nat} {tokens all : List (Nat × Nat)} {rest : List Text}
    (read : readTokens value offset tokens rest = some all) :
    ∃ spans, spansFrom offset (value.drop offset) rest = some spans ∧ all = tokens ++ spans := by
  induction rest generalizing offset tokens with
  | nil =>
    cases read
    exact ⟨[], rfl, (List.append_nil _).symm⟩
  | cons token rest ih =>
    rw [readTokens] at read
    split at read
    case isTrue => cases read
    case isFalse =>
      rw [Option.bind_eq_bind, Option.bind_eq_some_iff] at read
      obtain ⟨start, found, read⟩ := read
      obtain ⟨spans, others, eq⟩ := ih read
      refine ⟨(offset + start, offset + (start + token.length)) :: spans, ?_, ?_⟩
      · rw [spansFrom, found, Option.bind_eq_bind, Option.bind_some]
        dsimp only
        rw [List.drop_drop, ← Nat.add_assoc, others]
        rfl
      · rw [eq, List.append_assoc, Nat.add_assoc]
        rfl

lemma map_eq_of_mapM {α β : Type} {f : α → Option β} {xs : List α} {ys : List β} (mapped : xs.mapM f = some ys) :
    xs.map f = ys.map some := by
  induction xs generalizing ys with
  | nil =>
    cases mapped
    rfl
  | cons head xs ih =>
    rw [List.mapM_cons, Option.bind_eq_bind, Option.bind_eq_some_iff] at mapped
    obtain ⟨y, first, mapped⟩ := mapped
    rw [Option.bind_eq_bind, Option.bind_eq_some_iff] at mapped
    obtain ⟨others, rest, eq⟩ := mapped
    cases eq
    rw [List.map_cons, first, ih rest, List.map_cons]

lemma trimEnd_length : (trimEnd text).length ≤ text.length := by
  rw [trimEnd, List.length_reverse]
  exact (List.length_dropWhile_le _ _).trans (Nat.le_of_eq List.length_reverse)

lemma trimEnd_append_space {c : Char} (space : isWhitespace c = true) (text : Text) :
    trimEnd (text ++ [c]) = trimEnd text := by
  rw [trimEnd, List.reverse_append, List.reverse_singleton, List.singleton_append, List.dropWhile_cons_of_pos space,
    trimEnd]

lemma trim_begins {text : Text} (trimmed : text = trim text) (c : Char) (rest : Text) (eq : text = c :: rest) :
    isWhitespace c = false := by
  cases space : isWhitespace c with
  | false => rfl
  | true =>
    have short := congrArg List.length trimmed
    have cut := trimEnd_length (rest.dropWhile isWhitespace)
    have cut' := List.length_dropWhile_le isWhitespace rest
    rw [eq, trim, List.dropWhile_cons_of_pos space, List.length_cons] at short
    omega

lemma trim_ends {text : Text} (trimmed : text = trim text) (c : Char) (rest : Text) (eq : text = rest ++ [c]) :
    isWhitespace c = false := by
  cases space : isWhitespace c with
  | false => rfl
  | true =>
    have short := congrArg List.length trimmed
    have cut := List.length_dropWhile_le isWhitespace rest
    rw [eq, trim, List.dropWhile_append, List.length_append, List.length_singleton] at short
    split at short
    · rw [List.dropWhile_cons_of_pos space] at short
      cases short
    · have last := trimEnd_length (rest.dropWhile isWhitespace)
      rw [trimEnd_append_space space] at short
      omega

lemma exists_around {name : Text} (mem : name ∈ names) :
    ∃ before after, [' '].intercalate names = before ++ (name ++ after) ∧
      (before = [] ∨ ∃ front, before = front ++ [' ']) ∧ (after = [] ∨ ∃ back, after = ' ' :: back) := by
  obtain ⟨first, last, rfl⟩ := List.append_of_mem mem
  have back : ∃ after, [' '].intercalate (name :: last) = name ++ after ∧
      (after = [] ∨ ∃ back, after = ' ' :: back) := by
    cases last with
    | nil => exact ⟨[], by rw [List.intercalate_singleton, List.append_nil], .inl rfl⟩
    | cons next last =>
      refine ⟨' ' :: [' '].intercalate (next :: last), ?_, .inr ⟨_, rfl⟩⟩
      rw [List.intercalate_cons_cons, List.append_assoc]
      rfl
  obtain ⟨after, eq, shape⟩ := back
  cases first with
  | nil => exact ⟨[], after, eq, .inl rfl, shape⟩
  | cons head first =>
    refine ⟨[' '].intercalate (head :: first) ++ [' '], after, ?_, .inr ⟨_, rfl⟩, shape⟩
    rw [intercalate_append (List.cons_ne_nil _ _) (List.cons_ne_nil _ _), eq]

lemma splitOnce_ne_none (before separator after : Text) : splitOnce separator (before ++ (separator ++ after)) ≠ none := by
  induction before with
  | nil =>
    rw [List.nil_append]
    cases whole : separator ++ after with
    | nil =>
      rw [(List.append_eq_nil_iff.1 whole).1]
      exact Option.some_ne_none _
    | cons c rest =>
      have here : separator.isPrefixOf (c :: rest) = true :=
        List.isPrefixOf_iff_prefix.2 (whole ▸ List.prefix_append _ _)
      rw [splitOnce, if_pos here]
      exact Option.some_ne_none _
  | cons c before ih =>
    rw [List.cons_append, splitOnce]
    split
    · exact Option.some_ne_none _
    · exact fun none => ih (Option.map_eq_none_iff.1 none)

lemma intercalate_none (joined : [' '].intercalate names = "none".toList) : names = ["none".toList] := by
  cases names with
  | nil => cases joined
  | cons name names =>
    cases names with
    | nil => rw [← joined, List.intercalate_singleton]
    | cons next names =>
      rw [List.intercalate_cons_cons] at joined
      have space : ' ' ∈ "none".toList := joined ▸ (by simp)
      exact absurd space (by decide)

/-- **Every configured file name is among the inspected paths.** -/
theorem possiblePaths_mem (trimmed : ∀ name ∈ names, name = trim name) (files : names ≠ ["none".toList])
    (accepted : possiblePaths directories ([' '].intercalate names) = some paths) :
    ∀ name ∈ names, ∃ path ∈ paths, resolvePath directories name = some path := by
  intro name mem
  obtain ⟨before, after, eq, front, back⟩ := exists_around mem
  rcases possiblePaths_spec accepted with ⟨none, _⟩ | ⟨_, trimmed', single, tokens, read, present, resolved⟩
  · exact absurd (intercalate_none none) files
  · obtain ⟨spans, found, same⟩ := readTokens_spans read
    rw [List.nil_append] at same
    subst same
    rw [List.drop_zero] at found
    have named : name ≠ [] := by
      -- an empty name leaves a space at an end, two spaces in a row, or nothing
      intro empty
      rw [empty, List.nil_append] at eq
      rcases front with rfl | ⟨front, rfl⟩
      · rcases back with rfl | ⟨back, rfl⟩
        · rw [eq] at read
          exact present (Option.some.inj read).symm
        · exact absurd (trim_begins trimmed' ' ' back eq) (by decide)
      · rcases back with rfl | ⟨back, rfl⟩
        · rw [List.append_nil] at eq
          exact absurd (trim_ends trimmed' ' ' front eq) (by decide)
        · rw [eq, List.append_assoc] at single
          exact splitOnce_ne_none front [' ', ' '] back single
    rw [eq] at found resolved
    have closed : Closes isWhitespace before := by
      rcases front with rfl | ⟨front, rfl⟩
      · exact fun c rest whole => absurd whole (by simp)
      · exact fun c rest whole => (List.singleton_inj.1 (List.append_inj' whole rfl).2) ▸ (by decide)
    have opened : Opens isWhitespace after := by
      rcases back with rfl | ⟨back, rfl⟩
      · exact fun c rest whole => by cases whole
      · exact fun c rest whole => (List.cons.inj whole).1 ▸ (by decide)
    have group := mem_groups named (trim_begins (trimmed name mem)) (trim_ends (trimmed name mem)) closed opened found
    have listed := List.mem_map_of_mem (f := fun (start, stop) => resolvePath directories
      (slice (before ++ (name ++ after)) start stop)) group
    rw [map_eq_of_mapM resolved] at listed
    obtain ⟨path, inside, path'⟩ := List.mem_map.1 listed
    refine ⟨path, inside, ?_⟩
    have cut : slice (before ++ (name ++ after)) before.length (before.length + name.length) = name := by
      rw [slice, List.drop_left, Nat.add_sub_cancel_left, List.take_left]
    rw [path']
    dsimp only
    rw [cut]

/-! ### What the paths of a configuration depend on -/

lemma possiblePaths_length (left : possiblePaths first value = some paths)
    (right : possiblePaths second value = some paths') : paths.length = paths'.length := by
  rcases possiblePaths_spec left with ⟨none, rfl⟩ | ⟨other, _, _, tokens, read, _, resolved⟩
  · rcases possiblePaths_spec right with ⟨_, rfl⟩ | ⟨other, _⟩
    · rfl
    · exact absurd none other
  · rcases possiblePaths_spec right with ⟨none, _⟩ | ⟨_, _, _, tokens', read', _, resolved'⟩
    · exact absurd none other
    · have same : tokens = tokens' := Option.some.inj (read.symm.trans read')
      have length := congrArg List.length (map_eq_of_mapM resolved)
      have length' := congrArg List.length (map_eq_of_mapM resolved')
      rw [List.length_map, List.length_map] at length length'
      rw [← length, ← length', same]

lemma resolvePath_short {path : Path} (resolved : resolvePath directories value = some path) :
    path.length < 2 ^ 63 := by
  have short : ∀ {bytes : Path}, allocated bytes = some path → path.length < 2 ^ 63 := by
    intro bytes within
    unfold allocated at within
    split at within
    case isTrue fits =>
      cases within
      exact fits
    case isFalse => cases within
  unfold resolvePath at resolved
  split at resolved
  · cases resolved
  · obtain ⟨base, _, resolved⟩ := Option.bind_eq_some_iff.1 resolved
    split at resolved
    · exact short resolved
    · obtain ⟨current, _, joined⟩ := Option.bind_eq_some_iff.1 resolved
      exact short joined

lemma possiblePaths_short (accepted : possiblePaths directories value = some paths) :
    ∀ path ∈ paths, path.length < 2 ^ 63 := by
  intro path mem
  rcases possiblePaths_spec accepted with ⟨_, rfl⟩ | ⟨_, _, _, tokens, _, _, resolved⟩
  · exact absurd mem List.not_mem_nil
  · have listed := List.mem_map_of_mem (f := some) mem
    rw [← map_eq_of_mapM resolved] at listed
    obtain ⟨place, _, found⟩ := List.mem_map.1 listed
    exact resolvePath_short found

lemma readLine_cases (read : readLine directories explicitRoute trust line = some trust') :
    ∃ name value, splitOnce [' '] line = some (name, value) ∧
      if name ∈ ["revokedhostkeys".toList, "userknownhostsfile".toList, "globalknownhostsfile".toList] then
        ∃ added, possiblePaths directories value = some added ∧ trust'.paths = trust.paths ++ added
      else trust'.paths = trust.paths := by
  rw [readLine, Option.bind_eq_bind, Option.bind_eq_some_iff] at read
  obtain ⟨⟨name, value⟩, split, read⟩ := read
  refine ⟨name, value, split, ?_⟩
  dsimp only at read
  split_ifs at read with _ _ _ _ _ revoked listed
  · obtain ⟨added, accepted, eq⟩ := Option.map_eq_some_iff.1 read
    rw [if_pos (by rw [of_decide_eq_true revoked]; exact List.mem_cons_self)]
    exact ⟨added, accepted, by rw [← eq]⟩
  · obtain ⟨added, accepted, eq⟩ := Option.map_eq_some_iff.1 read
    rw [Bool.or_eq_true, decide_eq_true_eq, decide_eq_true_eq] at listed
    rw [if_pos (by rcases listed with same | same <;> simp [same])]
    exact ⟨added, accepted, by rw [← eq]⟩
  · rw [Bool.or_eq_true, decide_eq_true_eq, decide_eq_true_eq, not_or] at listed
    rw [decide_eq_true_eq] at revoked
    rw [if_neg (by
      rw [List.mem_cons, List.mem_cons, List.mem_singleton, not_or, not_or]
      exact ⟨revoked, listed⟩)]
    exact congrArg Trust.paths (Option.some.inj read).symm

lemma readLine_length (left : readLine first explicitRoute a line = some a')
    (right : readLine second explicitRoute b line = some b') (same : a.paths.length = b.paths.length) :
    a'.paths.length = b'.paths.length := by
  obtain ⟨name, value, split, added⟩ := readLine_cases left
  obtain ⟨name', value', split', added'⟩ := readLine_cases right
  obtain ⟨rfl, rfl⟩ := Prod.mk.inj (Option.some.inj (split.symm.trans split'))
  split at added
  case isTrue listed =>
    rw [if_pos listed] at added'
    obtain ⟨paths, accepted, eq⟩ := added
    obtain ⟨paths', accepted', eq'⟩ := added'
    rw [eq, eq', List.length_append, List.length_append, same, possiblePaths_length accepted accepted']
  case isFalse other =>
    rw [if_neg other] at added'
    rw [added, added', same]

lemma readLine_short (read : readLine directories explicitRoute trust line = some trust')
    (short : ∀ path ∈ trust.paths, path.length < 2 ^ 63) : ∀ path ∈ trust'.paths, path.length < 2 ^ 63 := by
  obtain ⟨name, value, split, added⟩ := readLine_cases read
  split at added
  · obtain ⟨paths, accepted, eq⟩ := added
    rw [eq, List.forall_mem_append]
    exact ⟨short, possiblePaths_short accepted⟩
  · rw [added]
    exact short

lemma readLines_length (left : lines.foldlM (readLine first explicitRoute) a = some a')
    (right : lines.foldlM (readLine second explicitRoute) b = some b') (same : a.paths.length = b.paths.length) :
    a'.paths.length = b'.paths.length := by
  induction lines generalizing a b with
  | nil =>
    cases left
    cases right
    exact same
  | cons line lines ih =>
    rw [List.foldlM_cons, Option.bind_eq_bind, Option.bind_eq_some_iff] at left right
    obtain ⟨next, read, rest⟩ := left
    obtain ⟨next', read', rest'⟩ := right
    exact ih rest rest' (readLine_length read read' same)

lemma readLines_short (read : lines.foldlM (readLine directories explicitRoute) trust = some trust')
    (short : ∀ path ∈ trust.paths, path.length < 2 ^ 63) : ∀ path ∈ trust'.paths, path.length < 2 ^ 63 := by
  induction lines generalizing trust with
  | nil =>
    cases read
    exact short
  | cons line lines ih =>
    rw [List.foldlM_cons, Option.bind_eq_bind, Option.bind_eq_some_iff] at read
    obtain ⟨next, read, rest⟩ := read
    exact ih rest (readLine_short read short)

lemma knownHostPaths_lines (accepted : knownHostPaths directories config explicitRoute = some paths) :
    ∃ text trust, textOf config = some text ∧
      (textLines text).foldlM (readLine directories explicitRoute) ⟨[], false, false⟩ = some trust ∧
      paths = trust.paths := by
  rw [knownHostPaths, Option.bind_eq_bind, Option.bind_eq_some_iff] at accepted
  obtain ⟨text, decoded, accepted⟩ := accepted
  rw [Option.bind_eq_bind, Option.bind_eq_some_iff] at accepted
  obtain ⟨trust, folded, accepted⟩ := accepted
  split at accepted
  · exact ⟨text, trust, decoded, folded, (Option.some.inj accepted).symm⟩
  · cases accepted

theorem knownHostPaths_length (left : knownHostPaths first config explicitRoute = some paths)
    (right : knownHostPaths second config explicitRoute = some paths') : paths.length = paths'.length := by
  obtain ⟨text, trust, decoded, folded, rfl⟩ := knownHostPaths_lines left
  obtain ⟨text', trust', decoded', folded', rfl⟩ := knownHostPaths_lines right
  obtain rfl := Option.some.inj (decoded.symm.trans decoded')
  exact readLines_length folded folded' rfl

theorem knownHostPaths_short (accepted : knownHostPaths directories config explicitRoute = some paths) :
    ∀ path ∈ paths, path.length < 2 ^ 63 := by
  obtain ⟨text, trust, _, folded, rfl⟩ := knownHostPaths_lines accepted
  exact readLines_short folded fun _ mem => absurd mem List.not_mem_nil

end Ctl.Approval
