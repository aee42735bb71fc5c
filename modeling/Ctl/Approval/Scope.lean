import Ctl.Base.Parts
import Ctl.Approval.KnownHosts

/-!
# Approval scopes

Model of the first half of `ctl/daemon/src/keychain/approval_scope.rs`: the fingerprint of a target's principal, of
the effective configuration of each SSH hop and of the trust files that the configurations name. Runs with equal
fingerprints have inspected the same (`snapshotUsing_binds`).

What a run finds is a parameter: the configuration of each call, the directories of the process and what each file
says when it is read. A run reads no path twice.
-/

namespace Ctl.Approval
open Ctl.Base Ctl.Proto

/-- Rust `MAX_CONFIG_BYTES`. -/
def MAX_CONFIG_BYTES : Nat := 256 * 1024

/-- Rust `MAX_KNOWN_HOSTS_BYTES`. -/
def MAX_KNOWN_HOSTS_BYTES : Nat := 4 * 1024 * 1024

/-- What the scopes use of other crates. -/
structure Crates where
  parseUuid : ParseUuid
  /-- `serde_json::to_vec`. -/
  targetJson : SshTarget → Option (List UInt8)
  /-- `sha2::Sha256`. -/
  sha256 : List UInt8 → Vector UInt8 32

/-- What a run finds at a path. -/
inductive FileState where
  | missing
  /-- The metadata cannot be read. -/
  | failed
  /-- Something that is not a regular file. -/
  | special
  /-- A regular file: the length in its metadata, and its contents if they can be read. -/
  | file (length : Nat) (contents : Option (List UInt8))

def FileState.content : FileState → Option (Option (List UInt8))
  | .missing => some none
  | .file _ (some contents) => some (some contents)
  | _ => none

structure Run where
  /-- The effective configuration for a target, at each call. -/
  effectiveConfig : (call : Nat) → SshTarget → Option (List UInt8)
  /-- A configuration fits in memory. -/
  config_short : ∀ call target config, effectiveConfig call target = some config → config.length < 2 ^ 63
  directories : Directories
  files : Path → FileState

/-- What the equality of paths compares (Rust `Path::components`): repeated separators, a separator at the end
    and dots that are not at the beginning make no difference. -/
def Path.components (path : Path) : Bool × List Path :=
  let parts := (path.splitOn 0x2f).filter (· ≠ [])
  if path.isAbsolute then (true, parts.filter (· ≠ [0x2e]))
  else (false, parts.take 1 ++ (parts.drop 1).filter (· ≠ [0x2e]))

/-- Rust `PathBuf::eq`. -/
def samePath (a b : Path) : Bool := a.components = b.components

/-! ### Fingerprints -/

/-- Rust `hash_part`: the bytes that the hash is fed. -/
def hashPart (data : List UInt8) : List UInt8 := framedPart 8 data

def fingerprintInput : Option (List UInt8) → List UInt8
  | none => hashPart (utf8Bytes "missing".toList)
  | some contents => hashPart (utf8Bytes "present".toList) ++ hashPart contents

/-- The fingerprint of a file, and what is left of the budget (Rust `known_host_fingerprint`). -/
def knownHostFingerprint (crates : Crates) (state : FileState) (remaining : Nat) : Option (Vector UInt8 32 × Nat) :=
  match state with
  | .missing => some (crates.sha256 (fingerprintInput none), remaining)
  | .failed => none
  | .special => none
  | .file length contents =>
    if remaining < length then none
    else contents.bind fun contents =>
      let read := contents.take (remaining + 1)
      if read.length ≤ remaining then
        some (crates.sha256 (fingerprintInput (some read)), remaining - read.length)
      else none

/-- The state of a run: the bytes hashed so far, the budget and the fingerprints of the files that were read. -/
structure Scan where
  hashed : List UInt8
  remaining : Nat
  files : List (Path × Vector UInt8 32)

def inspectPath (crates : Crates) (run : Run) (scan : Scan) (path : Path) : Option Scan :=
  match scan.files.find? fun file => samePath file.1 path with
  | some (_, fingerprint) =>
    some { scan with hashed := scan.hashed ++ hashPart path ++ hashPart fingerprint.toList }
  | none =>
    (knownHostFingerprint crates (run.files path) scan.remaining).map fun (fingerprint, remaining) =>
      { hashed := scan.hashed ++ hashPart path ++ hashPart fingerprint.toList, remaining,
        files := scan.files ++ [(path, fingerprint)] }

def hopPaths (run : Run) (hop : SshTarget × Nat) : Option (List UInt8 × List Path) := do
  let config ← run.effectiveConfig hop.2 hop.1
  let paths ← knownHostPaths run.directories config (!hop.1.gateways.isEmpty)
  return (config, paths)

def inspectHop (crates : Crates) (run : Run) (scan : Scan) (hop : SshTarget × Nat) : Option Scan := do
  let (config, paths) ← hopPaths run hop
  paths.foldlM (inspectPath crates run) { scan with hashed := scan.hashed ++ hashPart config }

def inspectRoute (crates : Crates) (run : Run) (target : SshTarget) : Option Scan := do
  let () ← (validateTarget crates.parseUuid target).toOption
  let bytes ← crates.targetJson (principal target)
  if MAX_CONFIG_BYTES < bytes.length then none
  else
    (routeTargets target).zipIdx.foldlM (inspectHop crates run)
      { hashed := hashPart (utf8Bytes "ctl-reconnect-approval-scope-v1".toList) ++ hashPart bytes,
        remaining := MAX_KNOWN_HOSTS_BYTES, files := [] }

def hexDigits (byte : UInt8) : Text :=
  [Nat.digitChar (byte.toNat / 16), Nat.digitChar (byte.toNat % 16)]

/-- Rust `snapshot_using`. -/
def snapshotUsing (crates : Crates) (run : Run) (target : SshTarget) : Option Text :=
  (inspectRoute crates run target).map fun scan => (crates.sha256 scan.hashed).toList.flatMap hexDigits

def inspected (run : Run) (target : SshTarget) : Option (List (List UInt8 × List Path)) :=
  (routeTargets target).zipIdx.mapM (hopPaths run)

/-! ### What one run hashes -/

section
variable {crates : Crates} {run : Run} {paths seen : List Path} {scan scan' : Scan} {hops : List (SshTarget × Nat)}
  {trace : List (List UInt8 × List (Path × Vector UInt8 32))}

def firstOf (paths : List Path) (path : Path) : Option Path := paths.find? fun first => samePath first path

/-- What a file says has been read within the budget. -/
def Run.Reads (run : Run) (path : Path) (contents : Option (List UInt8)) : Prop :=
  (run.files path).content = some contents ∧
    ∀ bytes, contents = some bytes → bytes.length ≤ MAX_KNOWN_HOSTS_BYTES

/-- A fingerprint stands for what the first of the equal paths says. -/
def Fingerprint (crates : Crates) (run : Run) (paths : List Path) (entry : Path × Vector UInt8 32) : Prop :=
  ∃ first contents, firstOf paths entry.1 = some first ∧ run.Reads first contents ∧
    entry.2 = crates.sha256 (fingerprintInput contents)

structure Scan.Keeps (crates : Crates) (run : Run) (seen : List Path) (scan : Scan) : Prop where
  budget : scan.remaining ≤ MAX_KNOWN_HOSTS_BYTES
  files : ∀ path, match firstOf seen path with
    | none => scan.files.find? (fun file => samePath file.1 path) = none
    | some first => ∃ contents, run.Reads first contents ∧
        scan.files.find? (fun file => samePath file.1 path) = some (first, crates.sha256 (fingerprintInput contents))

lemma Fingerprint.append {entry : Path × Vector UInt8 32} (known : Fingerprint crates run paths entry)
    (more : List Path) : Fingerprint crates run (paths ++ more) entry := by
  obtain ⟨first, contents, found, told, eq⟩ := known
  refine ⟨first, contents, ?_, told, eq⟩
  rw [firstOf] at found ⊢
  rw [List.find?_append, found]
  rfl

lemma knownHostFingerprint_spec {state : FileState} {remaining left : Nat} {fingerprint : Vector UInt8 32}
    (read : knownHostFingerprint crates state remaining = some (fingerprint, left)) :
    ∃ contents, state.content = some contents ∧ fingerprint = crates.sha256 (fingerprintInput contents) ∧
      left ≤ remaining ∧ ∀ bytes, contents = some bytes → bytes.length ≤ remaining := by
  cases state with
  | missing =>
    cases read
    exact ⟨none, rfl, rfl, Nat.le_refl _, fun _ eq => by cases eq⟩
  | failed => cases read
  | special => cases read
  | file length contents =>
    rw [knownHostFingerprint] at read
    split at read
    · cases read
    · obtain ⟨bytes, rfl, fits⟩ := Option.bind_eq_some_iff.1 read
      clear read
      dsimp only at fits
      split at fits
      case isTrue within =>
        cases fits
        have short : bytes.length ≤ remaining := by
          rw [List.length_take] at within
          omega
        have whole : bytes.take (remaining + 1) = bytes := List.take_of_length_le (by omega)
        exact ⟨some bytes, rfl, by rw [whole], Nat.sub_le _ _, fun _ eq => by cases eq; exact short⟩
      case isFalse => cases fits

def entryParts (entry : Path × Vector UInt8 32) : List (List UInt8) := [entry.1, entry.2.toList]

lemma samePath_iff {a b : Path} : samePath a b = true ↔ a.components = b.components := decide_eq_true_iff

lemma firstOf_append (seen : List Path) (path other : Path) :
    firstOf (seen ++ [path]) other =
      (firstOf seen other).or (if samePath path other then some path else none) := by
  rw [firstOf, List.find?_append, ← firstOf, List.find?_singleton]

lemma inspectPath_spec {path : Path} (keeps : scan.Keeps crates run seen)
    (inspect : inspectPath crates run scan path = some scan') :
    ∃ fingerprint, scan'.hashed = scan.hashed ++ framed 8 (entryParts (path, fingerprint)) ∧
      scan'.Keeps crates run (seen ++ [path]) ∧ Fingerprint crates run (seen ++ [path]) (path, fingerprint) := by
  have parts : ∀ fingerprint : Vector UInt8 32, scan.hashed ++ hashPart path ++ hashPart fingerprint.toList =
      scan.hashed ++ framed 8 (entryParts (path, fingerprint)) := by
    intro fingerprint
    rw [entryParts, framed_cons, framed_cons, List.append_assoc]
    simp [framed, hashPart]
  have own := keeps.files path
  unfold inspectPath at inspect
  cases found : firstOf seen path with
  | some first =>
    rw [found] at own
    obtain ⟨contents, told, kept⟩ := own
    rw [kept] at inspect
    cases inspect
    have equal := samePath_iff.1 (List.find?_some found :)
    have still : ∀ other, firstOf (seen ++ [path]) other = firstOf seen other := by
      intro other
      rw [firstOf_append]
      cases found' : firstOf seen other with
      | some _ => rfl
      | none =>
        have apart : ¬ samePath path other = true := by
          intro same
          have missing := List.find?_eq_none.1 found' first (List.mem_of_find?_eq_some found)
          exact missing (samePath_iff.2 (equal.trans (samePath_iff.1 same)))
        rw [if_neg apart]
        rfl
    refine ⟨_, parts _, ⟨keeps.budget, fun other => ?_⟩, first, contents, by rw [still, found], told, rfl⟩
    have before := keeps.files other
    rw [still]
    exact before
  | none =>
    rw [found] at own
    dsimp only at own
    rw [own] at inspect
    obtain ⟨⟨fingerprint, remaining⟩, read, eq⟩ := Option.map_eq_some_iff.1 inspect
    cases eq
    obtain ⟨contents, told, made, less, short⟩ := knownHostFingerprint_spec read
    have reads : run.Reads path contents := ⟨told, fun bytes eq => (short bytes eq).trans keeps.budget⟩
    refine ⟨fingerprint, parts _, ⟨less.trans keeps.budget, fun other => ?_⟩, path, contents, ?_, reads, made⟩
    · have before := keeps.files other
      rw [firstOf_append]
      cases found' : firstOf seen other with
      | some first =>
        rw [found'] at before
        obtain ⟨contents', told', kept⟩ := before
        refine ⟨contents', told', ?_⟩
        rw [List.find?_append, kept]
        rfl
      | none =>
        rw [found'] at before
        dsimp only at before
        rw [List.find?_append, before, List.find?_singleton]
        by_cases same : samePath path other = true
        · rw [if_pos same]
          exact ⟨contents, reads, by rw [if_pos same, made]; rfl⟩
        · rw [if_neg same]
          exact if_neg same
    · rw [firstOf_append, found, if_pos (samePath_iff.2 rfl)]
      rfl

lemma inspectPaths_spec (keeps : scan.Keeps crates run seen)
    (inspect : paths.foldlM (inspectPath crates run) scan = some scan') :
    ∃ entries : List (Path × Vector UInt8 32), entries.map Prod.fst = paths ∧
      scan'.hashed = scan.hashed ++ framed 8 (entries.flatMap entryParts) ∧
      scan'.Keeps crates run (seen ++ paths) ∧ ∀ entry ∈ entries, Fingerprint crates run (seen ++ paths) entry := by
  induction paths generalizing seen scan with
  | nil =>
    cases inspect
    exact ⟨[], rfl, (List.append_nil _).symm, by rwa [List.append_nil], fun _ mem => absurd mem List.not_mem_nil⟩
  | cons path paths ih =>
    rw [List.foldlM_cons, Option.bind_eq_bind, Option.bind_eq_some_iff] at inspect
    obtain ⟨next, one, rest⟩ := inspect
    obtain ⟨fingerprint, hashed, keeps', known⟩ := inspectPath_spec keeps one
    obtain ⟨entries, listed, hashed', keeps'', knowns⟩ := ih keeps' rest
    rw [List.append_assoc, List.singleton_append] at keeps'' knowns
    refine ⟨(path, fingerprint) :: entries, by rw [List.map_cons, listed], ?_, keeps'', ?_⟩
    · rw [hashed', hashed, List.flatMap_cons, framed_append, List.append_assoc]
    · rw [List.forall_mem_cons]
      refine ⟨?_, knowns⟩
      have more := known.append paths
      rwa [List.append_assoc, List.singleton_append] at more

def hopParts (hop : List UInt8 × List (Path × Vector UInt8 32)) : List (List UInt8) :=
  hop.1 :: hop.2.flatMap entryParts

def pathsOf (trace : List (List UInt8 × List (Path × Vector UInt8 32))) : List Path :=
  trace.flatMap fun hop => hop.2.map Prod.fst

lemma inspectHops_spec (keeps : scan.Keeps crates run seen)
    (inspect : hops.foldlM (inspectHop crates run) scan = some scan') :
    ∃ trace : List (List UInt8 × List (Path × Vector UInt8 32)),
      List.Forall₂ (fun hop found => hopPaths run hop = some (found.1, found.2.map Prod.fst)) hops trace ∧
      scan'.hashed = scan.hashed ++ framed 8 (trace.flatMap hopParts) ∧
      scan'.Keeps crates run (seen ++ pathsOf trace) ∧
      ∀ entry ∈ trace.flatMap Prod.snd, Fingerprint crates run (seen ++ pathsOf trace) entry := by
  induction hops generalizing seen scan with
  | nil =>
    cases inspect
    refine ⟨[], .nil, (List.append_nil _).symm, ?_, fun _ mem => absurd mem List.not_mem_nil⟩
    rw [pathsOf, List.flatMap_nil, List.append_nil]
    exact keeps
  | cons hop hops ih =>
    rw [List.foldlM_cons, Option.bind_eq_bind, Option.bind_eq_some_iff] at inspect
    obtain ⟨next, one, rest⟩ := inspect
    rw [inspectHop, Option.bind_eq_bind, Option.bind_eq_some_iff] at one
    obtain ⟨⟨config, paths⟩, found, one⟩ := one
    have keepsConfig : ({ scan with hashed := scan.hashed ++ hashPart config } : Scan).Keeps crates run seen :=
      ⟨keeps.budget, keeps.files⟩
    obtain ⟨entries, listed, hashed, keeps', knowns⟩ := inspectPaths_spec keepsConfig one
    obtain ⟨trace, others, hashed', keeps'', knowns'⟩ := ih keeps' rest
    have all : seen ++ pathsOf ((config, entries) :: trace) = seen ++ paths ++ pathsOf trace := by
      rw [pathsOf, List.flatMap_cons, listed, ← List.append_assoc]
      rfl
    refine ⟨(config, entries) :: trace, .cons (by rw [found, listed]) others, ?_, by rwa [all], ?_⟩
    · rw [hashed', hashed, List.flatMap_cons, framed_append, hopParts, framed_cons]
      simp only [List.append_assoc]
      rfl
    · rw [all, List.flatMap_cons, List.forall_mem_append]
      exact ⟨fun entry mem => (knowns entry mem).append _, knowns'⟩

lemma inspectRoute_spec {target : SshTarget} (inspect : inspectRoute crates run target = some scan) :
    ∃ json trace, crates.targetJson (principal target) = some json ∧ json.length ≤ MAX_CONFIG_BYTES ∧
      List.Forall₂ (fun hop found => hopPaths run hop = some (found.1, found.2.map Prod.fst))
        (routeTargets target).zipIdx trace ∧
      scan.hashed = framed 8 (utf8Bytes "ctl-reconnect-approval-scope-v1".toList :: json :: trace.flatMap hopParts) ∧
      ∀ entry ∈ trace.flatMap Prod.snd, Fingerprint crates run (pathsOf trace) entry := by
  rw [inspectRoute, Option.bind_eq_bind, Option.bind_eq_some_iff] at inspect
  obtain ⟨_, _, inspect⟩ := inspect
  rw [Option.bind_eq_bind, Option.bind_eq_some_iff] at inspect
  obtain ⟨json, encoded, inspect⟩ := inspect
  split at inspect
  case isTrue => cases inspect
  case isFalse small =>
    have start : Scan.Keeps crates run []
        ⟨hashPart (utf8Bytes "ctl-reconnect-approval-scope-v1".toList) ++ hashPart json, MAX_KNOWN_HOSTS_BYTES, []⟩ :=
      ⟨Nat.le_refl _, fun _ => rfl⟩
    obtain ⟨trace, hops, hashed, _, knowns⟩ := inspectHops_spec start inspect
    rw [List.nil_append] at knowns
    refine ⟨json, trace, encoded, Nat.le_of_not_lt small, hops, ?_, knowns⟩
    rw [hashed, framed_cons, framed_cons, List.append_assoc]
    rfl

lemma hopPaths_spec {hop : SshTarget × Nat} {config : List UInt8} (found : hopPaths run hop = some (config, paths)) :
    knownHostPaths run.directories config (!hop.1.gateways.isEmpty) = some paths ∧ config.length < 2 ^ 63 := by
  rw [hopPaths, Option.bind_eq_bind, Option.bind_eq_some_iff] at found
  obtain ⟨config', effective, found⟩ := found
  rw [Option.bind_eq_bind, Option.bind_eq_some_iff] at found
  obtain ⟨paths', listed, eq⟩ := found
  cases eq
  exact ⟨listed, run.config_short _ _ _ effective⟩

lemma mapM_of_forall₂
    (found : List.Forall₂ (fun hop found => hopPaths run hop = some (found.1, found.2.map Prod.fst)) hops trace) :
    hops.mapM (hopPaths run) = some (trace.map fun hop => (hop.1, hop.2.map Prod.fst)) := by
  induction found with
  | nil => rfl
  | cons one _ ih =>
    rw [List.mapM_cons, one, ih]
    rfl

lemma trace_fits
    (found : List.Forall₂ (fun hop found => hopPaths run hop = some (found.1, found.2.map Prod.fst)) hops trace) :
    ∀ part ∈ trace.flatMap hopParts, Fits 8 part := by
  have fits : ∀ {part : List UInt8}, part.length < 2 ^ 63 → Fits 8 part := fun short => short.trans (by decide)
  induction found with
  | nil => exact fun _ mem => absurd mem List.not_mem_nil
  | @cons hop hopFound _ _ one _ ih =>
    obtain ⟨listed, short⟩ := hopPaths_spec one
    rw [List.flatMap_cons, List.forall_mem_append]
    refine ⟨?_, ih⟩
    rw [hopParts, List.forall_mem_cons]
    refine ⟨fits short, fun part mem => ?_⟩
    obtain ⟨entry, inside, mem⟩ := List.mem_flatMap.1 mem
    rw [entryParts, List.mem_cons, List.mem_singleton] at mem
    rcases mem with rfl | rfl
    · exact fits (knownHostPaths_short listed _ (List.mem_map_of_mem inside))
    · exact fits (by rw [Vector.length_toList]; decide)

end

/-! ### Two runs -/

lemma entries_unique {first second : List (Path × Vector UInt8 32)} {rest rest' : List (List UInt8)}
    (length : first.length = second.length)
    (same : first.flatMap entryParts ++ rest = second.flatMap entryParts ++ rest') : first = second ∧ rest = rest' := by
  induction first generalizing second with
  | nil =>
    cases second with
    | nil => exact ⟨rfl, same⟩
    | cons => cases length
  | cons entry first ih =>
    cases second with
    | nil => cases length
    | cons entry' second =>
      obtain ⟨path, digest⟩ := entry
      obtain ⟨path', digest'⟩ := entry'
      simp only [List.flatMap_cons, entryParts, List.cons_append, List.nil_append, List.cons.injEq] at same
      obtain ⟨samePath, sameDigest, others⟩ := same
      obtain ⟨rfl, eq⟩ := ih (Nat.succ.inj length) others
      rw [samePath, Vector.toList_inj.1 sameDigest]
      exact ⟨rfl, eq⟩

variable {first second : Run} {target : SshTarget}

lemma trace_unique {hops hops' : List (SshTarget × Nat)}
    {trace trace' : List (List UInt8 × List (Path × Vector UInt8 32))}
    (found : List.Forall₂ (fun hop found => hopPaths first hop = some (found.1, found.2.map Prod.fst)) hops trace)
    (found' : List.Forall₂ (fun hop found => hopPaths second hop = some (found.1, found.2.map Prod.fst)) hops' trace')
    (gateways : hops.map (fun hop => hop.1.gateways) = hops'.map fun hop => hop.1.gateways)
    (same : trace.flatMap hopParts = trace'.flatMap hopParts) : trace = trace' := by
  induction found generalizing hops' trace' with
  | nil =>
    cases found' with
    | nil => rfl
    | cons => cases gateways
  | @cons hop hopFound hops trace one _ ih =>
    cases found' with
    | nil => cases gateways
    | @cons hop' hopFound' hops' trace' one' others' =>
      rw [List.map_cons, List.map_cons, List.cons.injEq] at gateways
      rw [List.flatMap_cons, List.flatMap_cons, hopParts, hopParts, List.cons_append, List.cons_append,
        List.cons.injEq] at same
      have listed := (hopPaths_spec one).1
      have listed' := (hopPaths_spec one').1
      rw [← gateways.1, ← same.1] at listed'
      have length := knownHostPaths_length listed listed'
      rw [List.length_map, List.length_map] at length
      obtain ⟨entries, rest⟩ := entries_unique length same.2
      rw [ih others' gateways.2 rest, Prod.ext same.1 entries]

lemma hexDigits_injective {a b : UInt8} (same : hexDigits a = hexDigits b) : a = b := by
  have digit : ∀ m < 16, ∀ n < 16, Nat.digitChar m = Nat.digitChar n → m = n := by decide +kernel
  rw [hexDigits, hexDigits, List.cons.injEq, List.cons.injEq] at same
  have left := a.toNat_lt
  have right := b.toNat_lt
  have high := digit _ (by omega) _ (by omega) same.1
  have low := digit _ (Nat.mod_lt _ (by decide)) _ (Nat.mod_lt _ (by decide)) same.2.1
  rw [← UInt8.toNat_inj, ← Nat.div_add_mod a.toNat 16, ← Nat.div_add_mod b.toNat 16, high, low]

lemma hexText_injective {first second : List UInt8} (same : first.flatMap hexDigits = second.flatMap hexDigits) :
    first = second := by
  induction first generalizing second with
  | nil =>
    cases second with
    | nil => rfl
    | cons => cases same
  | cons a first ih =>
    cases second with
    | nil => cases same
    | cons b second =>
      rw [List.flatMap_cons, List.flatMap_cons] at same
      obtain ⟨head, tail⟩ := List.append_inj same rfl
      rw [hexDigits_injective head, ih tail]

lemma fingerprintInput_injective {first second : Option (List UInt8)}
    (left : ∀ bytes, first = some bytes → bytes.length ≤ MAX_KNOWN_HOSTS_BYTES)
    (right : ∀ bytes, second = some bytes → bytes.length ≤ MAX_KNOWN_HOSTS_BYTES)
    (same : fingerprintInput first = fingerprintInput second) : first = second := by
  have parts : ∀ contents : Option (List UInt8), fingerprintInput contents =
      framed 8 (contents.elim [utf8Bytes "missing".toList] fun bytes => [utf8Bytes "present".toList, bytes]) := by
    intro contents
    cases contents <;> simp [fingerprintInput, framed, hashPart]
  have fits : ∀ contents : Option (List UInt8),
      (∀ bytes, contents = some bytes → bytes.length ≤ MAX_KNOWN_HOSTS_BYTES) →
      ∀ part ∈ contents.elim [utf8Bytes "missing".toList] fun bytes => [utf8Bytes "present".toList, bytes],
        Fits 8 part := by
    intro contents short part mem
    cases contents with
    | none =>
      rw [List.mem_singleton.1 mem]
      decide
    | some bytes =>
      rcases List.mem_cons.1 mem with rfl | mem
      · decide
      · rw [List.mem_singleton.1 mem]
        exact (short bytes rfl).trans_lt (by decide)
  rw [parts, parts] at same
  have eq := framed_injective (by decide) (fits first left) (fits second right) same
  cases first with
  | none =>
    cases second with
    | none => rfl
    | some bytes => exact absurd (congrArg List.length eq) (Nat.ne_of_lt (Nat.lt_succ_self 1))
  | some bytes =>
    cases second with
    | none => exact absurd (congrArg List.length eq) (Nat.ne_of_gt (Nat.lt_succ_self 1))
    | some bytes' => exact congrArg some (List.cons.inj (List.cons.inj eq).2).1

def Hashed (crates : Crates) (run : Run) (target : SshTarget) (bytes : List UInt8) : Prop :=
  (∃ scan, inspectRoute crates run target = some scan ∧ bytes = scan.hashed) ∨
    ∃ hops contents, inspected run target = some hops ∧
      (∃ path ∈ hops.flatMap Prod.snd, (run.files path).content = some contents) ∧ bytes = fingerprintInput contents

def Run.Alike (run : Run) : Prop := ∀ a b, samePath a b = true → run.files a = run.files b

lemma snapshotUsing_binds {crates : Crates}
    (encodes : ∀ a b json, crates.targetJson a = some json → crates.targetJson b = some json → a = b)
    {target' : SshTarget} {scope : Text}
    (apart : ∀ a b, Hashed crates first target a → Hashed crates second target' b →
      crates.sha256 a = crates.sha256 b → a = b) (left : snapshotUsing crates first target = some scope)
    (right : snapshotUsing crates second target' = some scope) :
    principal target = principal target' ∧
      ∃ hops, inspected first target = some hops ∧ inspected second target' = some hops ∧
        ∀ path ∈ hops.flatMap Prod.snd, ∃ read contents, firstOf (hops.flatMap Prod.snd) path = some read ∧
          (first.files read).content = some contents ∧ (second.files read).content = some contents := by
  obtain ⟨scan, inspect, text⟩ := Option.map_eq_some_iff.1 left
  obtain ⟨scan', inspect', text'⟩ := Option.map_eq_some_iff.1 right
  have digests := Vector.toList_inj.1 (hexText_injective (text.trans text'.symm))
  have hashed := apart _ _ (.inl ⟨scan, inspect, rfl⟩) (.inl ⟨scan', inspect', rfl⟩) digests
  obtain ⟨json, trace, encoded, small, found, parts, known⟩ := inspectRoute_spec inspect
  obtain ⟨json', trace', encoded', small', found', parts', known'⟩ := inspectRoute_spec inspect'
  have fits : ∀ {bytes : List UInt8}, bytes.length ≤ MAX_CONFIG_BYTES → Fits 8 bytes := fun short =>
    short.trans_lt (by decide)
  have tag : Fits 8 (utf8Bytes "ctl-reconnect-approval-scope-v1".toList) := by decide
  rw [parts, parts'] at hashed
  have eq := framed_injective (by decide)
    (List.forall_mem_cons.2 ⟨tag, List.forall_mem_cons.2 ⟨fits small, trace_fits found⟩⟩)
    (List.forall_mem_cons.2 ⟨tag, List.forall_mem_cons.2 ⟨fits small', trace_fits found'⟩⟩) hashed
  rw [List.cons.injEq, List.cons.injEq] at eq
  obtain ⟨_, rfl, same⟩ := eq
  have principals := encodes _ _ _ encoded encoded'
  have gateways : (routeTargets target).zipIdx.map (fun hop => hop.1.gateways) =
      (routeTargets target').zipIdx.map fun hop => hop.1.gateways := by
    have heads : target.gateways = target'.gateways := by
      rw [← principal_gateways target, ← principal_gateways target', principals]
    have tails := routeTargets_tail principals
    rw [routeTargets, routeTargets, List.tail_cons, List.tail_cons] at tails
    rw [routeTargets, routeTargets, tails, List.zipIdx_cons, List.zipIdx_cons, List.map_cons, List.map_cons, heads]
  obtain rfl := trace_unique found found' gateways same
  have paths : (trace.map fun hop => (hop.1, hop.2.map Prod.fst)).flatMap Prod.snd = pathsOf trace := by
    rw [List.flatMap_map, pathsOf]
  refine ⟨principals, _, mapM_of_forall₂ found, mapM_of_forall₂ found', fun path mem => ?_⟩
  rw [paths] at mem ⊢
  obtain ⟨hop, inside, mem⟩ := List.mem_flatMap.1 mem
  obtain ⟨entry, listed, rfl⟩ := List.mem_map.1 mem
  have entered : entry ∈ trace.flatMap Prod.snd := List.mem_flatMap.2 ⟨hop, inside, listed⟩
  obtain ⟨read, contents, firsts, reads, made⟩ := known entry entered
  obtain ⟨read', contents', firsts', reads', made'⟩ := known' entry entered
  obtain rfl := Option.some.inj (firsts.symm.trans firsts')
  have readPath := List.mem_of_find?_eq_some firsts
  have inputs := apart _ _
    (.inr ⟨_, contents, mapM_of_forall₂ found, ⟨read, by rwa [paths], reads.1⟩, rfl⟩)
    (.inr ⟨_, contents', mapM_of_forall₂ found', ⟨read, by rwa [paths], reads'.1⟩, rfl⟩) (made.symm.trans made')
  obtain rfl := fingerprintInput_injective reads.2 reads'.2 inputs
  exact ⟨read, contents, firsts, reads.1, reads'.1⟩

/-- **A fingerprint binds what was inspected, and every configured file name is inspected.** -/
theorem approvalScope_binds {crates : Crates}
    (encodes : ∀ a b json, crates.targetJson a = some json → crates.targetJson b = some json → a = b) :
    (∀ (first second : Run) (target target' : SshTarget) (scope : Text),
      (∀ a b, Hashed crates first target a → Hashed crates second target' b →
        crates.sha256 a = crates.sha256 b → a = b) →
      snapshotUsing crates first target = some scope → snapshotUsing crates second target' = some scope →
      principal target = principal target' ∧
        ∃ hops, inspected first target = some hops ∧ inspected second target' = some hops ∧
          ∀ path ∈ hops.flatMap Prod.snd,
            (∃ read contents, firstOf (hops.flatMap Prod.snd) path = some read ∧
              (first.files read).content = some contents ∧ (second.files read).content = some contents) ∧
            (first.Alike → second.Alike → (first.files path).content = (second.files path).content)) ∧
    ∀ (directories : Directories) (names : List Text) (paths : List Path), (∀ name ∈ names, name = trim name) →
      names ≠ ["none".toList] → possiblePaths directories ([' '].intercalate names) = some paths →
      ∀ name ∈ names, ∃ path ∈ paths, resolvePath directories name = some path := by
  refine ⟨?_, fun directories names paths trimmed files accepted => possiblePaths_mem trimmed files accepted⟩
  intro first second target target' scope apart left right
  obtain ⟨principals, hops, found, found', contents⟩ := snapshotUsing_binds encodes apart left right
  refine ⟨principals, hops, found, found', fun path mem => ?_⟩
  obtain ⟨read, told, firsts, reads, reads'⟩ := contents path mem
  refine ⟨⟨read, told, firsts, reads, reads'⟩, fun alike alike' => ?_⟩
  have same := List.find?_some (p := fun first => samePath first path) firsts
  rw [← alike read path same, ← alike' read path same, reads, reads']

/-- The word "none" alone stands for no file. -/
theorem approvalScope_binds_none :
    ¬ ∀ (directories : Directories) (names : List Text) (paths : List Path), (∀ name ∈ names, name = trim name) →
      possiblePaths directories ([' '].intercalate names) = some paths →
      ∀ name ∈ names, ∃ path ∈ paths, resolvePath directories name = some path := by
  intro every
  obtain ⟨path, mem, _⟩ := every ⟨none, none⟩ ["none".toList] [] (by decide +kernel) rfl "none".toList
    List.mem_cons_self
  exact absurd mem List.not_mem_nil

/-! A host without gateways, whose key is in one file. -/

def sampleTarget : SshTarget := ⟨"build".toList, none, some false, none, none, none, none, []⟩

def sharedTarget : SshTarget := ⟨"build".toList, some "build".toList, some true, none, none, none, none, []⟩

def sampleConfig : List UInt8 :=
  utf8Bytes "hostname build\nuserknownhostsfile /k\nglobalknownhostsfile none\n".toList

def sampleKeys : List UInt8 := utf8Bytes "build ssh-ed25519 AAAA\n".toList

def sampleJson : List UInt8 := utf8Bytes ("\x7b\"destination\":\"build\",\"hostname\":null,\"user\":null," ++
  "\"port\":null,\"identity_file\":null,\"gateways\":[]\x7d").toList

def sampleKeysDigest : Vector UInt8 32 :=
  #v[170, 30, 182, 151, 147, 153, 170, 202, 209, 243, 20, 194, 125, 180, 235, 111,
    28, 62, 241, 158, 133, 205, 203, 244, 238, 54, 171, 254, 15, 67, 170, 144]

def sampleInput : List UInt8 :=
  framed 8 [utf8Bytes "ctl-reconnect-approval-scope-v1".toList, sampleJson, sampleConfig, utf8Bytes "/k".toList,
    sampleKeysDigest.toList]

def sampleDigest : Vector UInt8 32 :=
  #v[94, 229, 51, 118, 139, 22, 237, 94, 130, 83, 200, 63, 175, 106, 110, 126,
    251, 178, 247, 139, 65, 255, 46, 225, 136, 252, 79, 127, 46, 29, 242, 175]

def sampleCrates : Crates where
  parseUuid _ := none
  targetJson target := if target = principal sampleTarget then some sampleJson else none
  sha256 bytes :=
    if bytes = sampleInput then sampleDigest
    else if bytes = fingerprintInput (some sampleKeys) then sampleKeysDigest
    else Vector.replicate 32 0

def sampleDirectories : Directories := ⟨none, some (utf8Bytes "/fixture".toList)⟩

def sampleRun : Run where
  effectiveConfig _ _ := some sampleConfig
  config_short _ _ _ eq := Option.some.inj eq ▸ (by decide +kernel)
  directories := sampleDirectories
  files path := if path = utf8Bytes "/k".toList then .file sampleKeys.length (some sampleKeys) else .missing

lemma sampleRun_inspects : ∀ target ∈ [sampleTarget, sharedTarget],
    (inspectRoute sampleCrates sampleRun target).map Scan.hashed = some sampleInput ∧
      inspected sampleRun target = some [(sampleConfig, [utf8Bytes "/k".toList])] := by
  decide +kernel

lemma sampleRun_hashed (mem : target ∈ [sampleTarget, sharedTarget]) {bytes : List UInt8}
    (hashed : Hashed sampleCrates sampleRun target bytes) :
    bytes ∈ [sampleInput, fingerprintInput (some sampleKeys)] := by
  obtain ⟨route, found⟩ := sampleRun_inspects target mem
  rcases hashed with ⟨scan, inspect, rfl⟩ | ⟨hops, contents, found', ⟨path, inside, told⟩, rfl⟩
  · rw [inspect] at route
    rw [Option.some.inj route]
    exact List.mem_cons_self
  · rw [found] at found'
    cases found'
    rw [List.flatMap_singleton, List.mem_singleton] at inside
    subst inside
    cases told
    exact List.mem_cons_of_mem _ List.mem_cons_self

theorem approvalScope_binds_shared :
    (principal sampleTarget = principal sharedTarget ∧
      ∃ hops, inspected sampleRun sampleTarget = some hops ∧ inspected sampleRun sharedTarget = some hops) ∧
    ∃ paths, possiblePaths sampleDirectories "/known hosts /m".toList = some paths ∧
      ∃ path ∈ paths, resolvePath sampleDirectories "/known hosts".toList = some path := by
  have encodes : ∀ a b json, sampleCrates.targetJson a = some json → sampleCrates.targetJson b = some json →
      a = b := by
    intro a b json left right
    simp only [sampleCrates] at left right
    split at left
    · split at right
      case isTrue.isTrue one two => rw [one, two]
      case isTrue.isFalse => cases right
    · cases left
  obtain ⟨runs, names⟩ := approvalScope_binds encodes
  have distinct : ∀ a ∈ [sampleInput, fingerprintInput (some sampleKeys)],
      ∀ b ∈ [sampleInput, fingerprintInput (some sampleKeys)],
      sampleCrates.sha256 a = sampleCrates.sha256 b → a = b := by
    decide +kernel
  have scope : ∀ target ∈ [sampleTarget, sharedTarget], snapshotUsing sampleCrates sampleRun target =
      some "5ee533768b16ed5e8253c83faf6a6e7efbb2f78b41ff2ee188fc4f7f2e1df2af".toList := by decide +kernel
  obtain ⟨principals, hops, found, found', _⟩ := runs sampleRun sampleRun sampleTarget sharedTarget _
    (fun a b left right => distinct a (sampleRun_hashed (by decide) left) b (sampleRun_hashed (by decide) right))
    (scope _ (by decide)) (scope _ (by decide))
  refine ⟨⟨principals, hops, found, found'⟩, ?_⟩
  have accepted : (possiblePaths sampleDirectories "/known hosts /m".toList).isSome = true := by decide +kernel
  obtain ⟨paths, eq⟩ := Option.isSome_iff_exists.1 accepted
  exact ⟨paths, eq, names sampleDirectories ["/known hosts".toList, "/m".toList] paths (by decide +kernel)
    (by decide +kernel) eq _ List.mem_cons_self⟩

end Ctl.Approval
