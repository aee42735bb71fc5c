import Ctl.Base.Guards
import Ctl.Base.OrdMap
import Ctl.Proto.History
import Mathlib.Data.List.Basic

/-!
# Complete builds

Model of `ctl-core/src/component.rs`, of the advertised versions in `ctl-core/src/protocol.rs`, of
`ctl-core/src/bundles/layout.rs` and of the manifests in `ctl-core/src/bundles.rs`. A manifest names the
components and the files of one build, and its content ID is the digest of all of it. What
`serde_json` and `sha2` do, and the target that the program was compiled for, are the parameter `Env`.
-/

namespace Ctl.Bundles
open Ctl.Base
open Ctl.Proto (isControl)

abbrev Bytes := List UInt8

/-- Rust `io::ErrorKind`. -/
inductive ErrorKind
  | notFound | invalidData | permissionDenied | wouldBlock | other
  deriving DecidableEq

/-- Rust `io::Error`. -/
structure IoError where
  kind : ErrorKind
  message : String
  deriving DecidableEq

/-- Rust `invalid`. -/
def invalid (message : String) : IoError := ⟨.invalidData, message⟩

/-- A check that fails where something is wrong (Rust `if … { return Err(…) }`). -/
def reject (wrong : Bool) (error : IoError) : Except IoError Unit :=
  if wrong then .error error else .ok ()

def orError {α : Type} (value : Option α) (error : IoError) : Except IoError α :=
  match value with
  | some a => .ok a
  | none => .error error

/-! ### Components -/

/-- Rust `ProtocolVersion`. -/
structure ProtocolVersion where
  major : Nat
  minor : Nat
  build : Nat
  deriving DecidableEq, Ord

/-- Rust `ProtocolVersion::is_valid`. -/
def ProtocolVersion.isValid (version : ProtocolVersion) : Bool := version.major ≠ 0

/-- Rust `MAX_SUPPORTED_VERSIONS`. -/
def MAX_SUPPORTED_VERSIONS : Nat := 128

/-- Rust `valid_versions`. -/
def validVersions (versions : List ProtocolVersion) : Bool :=
  match versions with
  | [] => false
  | first :: _ =>
    decide (versions.length ≤ MAX_SUPPORTED_VERSIONS) &&
      versions.zipIdx.all fun (version, index) =>
        version.isValid && version.major = first.major &&
          (versions.take index).all fun earlier =>
            compare version earlier == compare version.build earlier.build &&
              version.build ≠ earlier.build

/-- Rust `valid_offer`. -/
def validOffer (build : Nat) (version : ProtocolVersion) (supported : List ProtocolVersion) : Bool :=
  version.isValid && decide (version.build ≤ build) && validVersions supported &&
    supported.contains version &&
    supported.all fun candidate =>
      candidate.major = version.major && (compare candidate version).isLE &&
        decide (candidate.build ≤ build)

/-- Rust `negotiate_versions`. -/
def negotiateVersions (supported local_ : List ProtocolVersion) : Option ProtocolVersion :=
  if validVersions local_ then
    (local_.filter (supported.contains ·)).foldl (fun best version =>
      match best with
      | none => some version
      | some best => if (compare best version).isLE then some version else some best) none
  else none

/-- Rust `ProtocolInfo`. -/
structure ProtocolInfo where
  name : String
  build : Nat
  version : ProtocolVersion
  supportedVersions : List ProtocolVersion
  deriving DecidableEq

/-- Rust `ProtocolInfo::is_valid`. -/
def ProtocolInfo.isValid (protocol : ProtocolInfo) : Bool :=
  !protocol.name.isEmpty && decide (protocol.name.utf8ByteSize ≤ 128) &&
    protocol.name.toList.all (fun c => c.isAlphanum || ['-', '_', '.'].contains c) &&
    validOffer protocol.build protocol.version protocol.supportedVersions

/-- Rust `ProtocolInfo::negotiate`. -/
def ProtocolInfo.negotiate (protocol : ProtocolInfo) (local_ : List ProtocolVersion) : Option ProtocolVersion :=
  if protocol.isValid then negotiateVersions protocol.supportedVersions local_ else none

/-- Rust `ComponentBuildInfo`. -/
structure ComponentBuildInfo where
  version : String
  sourceRevision : Option String
  sourceFingerprint : String
  dirty : Bool
  deriving DecidableEq

/-- Rust `char::is_ascii_hexdigit`. -/
def isHexDigit (c : Char) : Bool :=
  c.isDigit || ('a' ≤ c && c ≤ 'f') || ('A' ≤ c && c ≤ 'F')

/-- Rust `ComponentBuildInfo::is_valid`. -/
def ComponentBuildInfo.isValid (info : ComponentBuildInfo) : Bool :=
  !info.version.isEmpty && decide (info.version.utf8ByteSize ≤ 256) &&
    !info.version.toList.any isControl &&
    info.sourceFingerprint.utf8ByteSize = 64 && info.sourceFingerprint.toList.all isHexDigit &&
    info.sourceRevision.all fun revision =>
      [40, 64].contains revision.utf8ByteSize && revision.toList.all isHexDigit

/-- Rust `ComponentInfo`. -/
structure ComponentInfo where
  build : ComponentBuildInfo
  protocols : List ProtocolInfo
  deriving DecidableEq

/-- Rust `protocols_are_valid`. -/
def protocolsAreValid (protocols : List ProtocolInfo) : Bool :=
  decide (protocols.length ≤ 128) &&
    protocols.zipIdx.all fun (protocol, index) =>
      protocol.isValid && !(protocols.take index).any (·.name = protocol.name)

/-- Rust `ComponentInfo::is_valid`. -/
def ComponentInfo.isValid (info : ComponentInfo) : Bool :=
  info.build.isValid && protocolsAreValid info.protocols

/-! ### Layouts -/

/-- Rust `MAX_FILE_BYTES`. -/
def MAX_FILE_BYTES : Nat := 128 * 1024 * 1024

/-- Rust `MAX_MANIFEST_BYTES`. -/
def MAX_MANIFEST_BYTES : Nat := 256 * 1024

/-- Rust `MAX_TOTAL_BYTES`. -/
def MAX_TOTAL_BYTES : Nat := 512 * 1024 * 1024

/-- Rust `SERVICES`. -/
def SERVICES : List String := ["ctl-agent", "ctmuxd", "ctl-taskd", "ctld"]

/-- Rust `ALL`. -/
def ALL : List String := ["ctl-agent", "ctmuxd", "ctl-taskd", "ctld", "ctl", "ctmux"]

/-- Rust `Layout`. -/
inductive Layout
  | services
  | withClients
  deriving DecidableEq

namespace Layout

/-- Rust `Layout::managed`. -/
def managed : Nat → Option Layout
  | 1 => some .services
  | 2 => some .withClients
  | _ => none

/-- Rust `Layout::names`. -/
def names : Layout → List String
  | .services => SERVICES
  | .withClients => ALL

/-- Rust `Layout::matches`. -/
def «matches» {T : Type} (layout : Layout) (components : OrdMap String T) : Bool :=
  components.size = layout.names.length && layout.names.all components.contains

def serviceContracts : List (String × String × String) := [
  ("ctl-agent", "ctld", "ctld"),
  ("ctl-agent", "ctmuxd", "ctmux"),
  ("ctl-agent", "ctmuxd", "ctmux_control"),
  ("ctl-agent", "ctl-taskd", "task"),
  ("ctl-agent", "ctl-taskd", "task_control"),
  ("ctl-taskd", "ctmuxd", "ctmux"),
  ("ctl-taskd", "ctmuxd", "ctmux_control")]

def clientContracts : List (String × String × String) := [
  ("ctl", "ctl-agent", "ctl_identity"),
  ("ctl", "ctl-agent", "ctl_maintenance"),
  ("ctl", "ctl-agent", "ctl_remote_vpn"),
  ("ctl", "ctld", "ctld"),
  ("ctl", "ctld", "ctld_lifecycle"),
  ("ctl", "ctld", "ctld_helper"),
  ("ctl", "ctmuxd", "ctmux"),
  ("ctl", "ctmuxd", "ctmux_control"),
  ("ctl", "ctl-taskd", "task"),
  ("ctl", "ctl-taskd", "task_control"),
  ("ctmux", "ctmuxd", "ctmux"),
  ("ctmux", "ctmuxd", "ctmux_control")]

/-- Rust `Layout::compatible`. -/
def compatible (layout : Layout) (components : OrdMap String ComponentInfo) : Bool :=
  (serviceContracts ++ if layout = .withClients then clientContracts else []).all fun (consumer, provider, name) =>
    let protocol id := components[id]?.bind fun info => info.protocols.find? (·.name = name)
    match protocol consumer, protocol provider with
    | some client, some server => (server.negotiate client.supportedVersions).isSome
    | _, _ => false

end Layout

/-! ### Manifests -/

/-- Rust `MANIFEST_FILE`. -/
def MANIFEST_FILE : String := "bundle.json"

/-- Rust `Source`. -/
inductive Source
  | ci | release | «local»
  deriving DecidableEq

/-- Rust `Purpose`. -/
inductive Purpose
  | «local» | upload
  deriving DecidableEq

/-- Rust `Purpose::name`. -/
def Purpose.name : Purpose → String
  | .local => "local"
  | .upload => "upload"

/-- Rust `FileInfo`. -/
structure FileInfo where
  sha256 : String
  executable : Bool
  deriving DecidableEq

/-- Rust `Manifest`. -/
structure Manifest where
  schemaVersion : Nat
  bundleId : String
  targetTriple : String
  source : Source
  distributionId : Option String
  components : OrdMap String ComponentInfo
  files : OrdMap String FileInfo
  deriving DecidableEq

abbrev Files := OrdMap String Bytes

/-- What is selected (Rust `Selection`). -/
structure Selection where
  bundleId : String
  targetTriple : String
  deriving DecidableEq

/-- The target of the program and what other libraries do: the digest of `sha2` in hexadecimal digits,
    and `to_vec` and `from_slice` of `serde_json`. -/
structure Env where
  nativeTarget : String
  digest : Bytes → String
  toVec : Manifest → Except String Bytes
  fromSlice : Bytes → Except String Manifest
  selectionToVec : Selection → Except String Bytes
  selectionFromSlice : Bytes → Except String Selection

/-- Rust `io::Error::other` for an error of another library. -/
def other {α : Type} (result : Except String α) : Except IoError α :=
  result.mapError fun message => ⟨.other, message⟩

/-- Rust `valid_digest`. -/
def validDigest (value : String) : Bool :=
  value.utf8ByteSize = 64 && value.toList.all fun c => c.isDigit || ('a' ≤ c && c ≤ 'f')

def TARGETS : List String := [
  "x86_64-unknown-linux-musl", "aarch64-unknown-linux-musl", "x86_64-unknown-linux-gnu",
  "aarch64-unknown-linux-gnu", "x86_64-apple-darwin", "aarch64-apple-darwin"]

variable (env : Env)

/-- Rust `validate_target`. -/
def validateTarget (target : String) : Except IoError Unit :=
  if target.isEmpty || 128 < target.utf8ByteSize ||
      !target.toList.all (fun c => c.isAlphanum || ['-', '_'].contains c) then
    .error (invalid "invalid component target")
  else if target ≠ env.nativeTarget && !TARGETS.contains target then
    .error (invalid "unsupported component bundle target")
  else .ok ()

/-- Rust `str::strip_suffix`. -/
def stripSuffix (value suffix : String) : Option String :=
  if suffix.toList.isSuffixOf value.toList then
    some (String.ofList (value.toList.take (value.length - suffix.length)))
  else none

/-- Rust `local_target`. -/
def localTarget (target : String) : Bool :=
  target = env.nativeTarget ||
    match stripSuffix env.nativeTarget "-unknown-linux-gnu" with
    | some arch => target = arch ++ "-unknown-linux-musl"
    | none => false

/-- The program runs on macOS (Rust `cfg!(target_os = "macos")`). -/
def macos : Bool := "-apple-darwin".toList.isSuffixOf env.nativeTarget.toList

/-- Rust `safe_file`. -/
def safeFile (name : String) (layout : Layout) : Bool :=
  (layout.names.contains name || name = "manifest.json" || name = "ctld-package.json" ||
      "ctld.app/Contents/".toList.isPrefixOf name.toList) &&
    decide (name.utf8ByteSize ≤ 512) &&
    (name.toList.splitOn '/').all fun part =>
      part ≠ [] && part ≠ ['.'] && part ≠ ['.', '.'] && !part.any fun c => c = '\\' || c.toNat = 0

namespace Manifest

variable (manifest : Manifest) (env : Env)

/-- Rust `Manifest::content_id`. -/
def contentId (manifest : Manifest) : Except IoError String := do
  return env.digest (← other (env.toVec { manifest with bundleId := "" }))

/-- The last check of the first part of `validate`: the two names of the helper have the same bytes. -/
def sameHelper : Bool :=
  manifest.files["ctld.app/Contents/MacOS/ctld"]?.all fun app =>
    match manifest.files["ctld"]? with
    | some binary => app.sha256 = binary.sha256
    | none => false

def validDistribution : Bool :=
  manifest.distributionId.all fun id =>
    !id.isEmpty && decide (id.utf8ByteSize ≤ 128) &&
      id.toList.all fun c => c.isAlphanum || ['.', '-', '_', '+'].contains c

def sameBuild (first : ComponentBuildInfo) : Bool :=
  first.isValid && first.sourceRevision.isSome &&
    manifest.components.valueList.all (fun component =>
      component.isValid && component.build.version = first.version &&
        component.build.sourceRevision = first.sourceRevision &&
        component.build.sourceFingerprint = first.sourceFingerprint &&
        component.build.dirty = first.dirty) &&
    (!first.dirty || manifest.source = .local)

/-- Rust `Manifest::validate`. -/
def validate (manifest : Manifest) : Except IoError Unit := do
  validateTarget env manifest.targetTriple
  let layout ← orError (Layout.managed manifest.schemaVersion)
    (invalid "unknown component bundle schema")
  let bytes ← other (env.toVec manifest)
  reject (MAX_MANIFEST_BYTES < bytes.length || !manifest.validDistribution)
    (invalid "invalid complete component bundle")
  let contentId ← manifest.contentId env
  reject (manifest.bundleId ≠ contentId || !layout.matches manifest.components ||
      512 < manifest.files.size || manifest.files.keys.any (fun name => !safeFile name layout) ||
      layout.names.any (fun name => !manifest.files[name]?.any (·.executable)) ||
      manifest.files.valueList.any (fun file => !validDigest file.sha256) || !manifest.sameHelper)
    (invalid "invalid complete component bundle")
  -- The layout has an agent, so there is no error here.
  let first ← orError manifest.components["ctl-agent"]? (invalid "invalid complete component bundle")
  reject (!manifest.sameBuild first.build)
    (invalid "bundle components must come from the same identified build")
  reject (!layout.compatible manifest.components)
    (invalid "bundle components have incompatible companion protocols")

/-- One file of `verify_files`; the size of the files before it is `total`. -/
def verifyFile (files : Files) (total : Nat) (entry : String × FileInfo) :
    Except IoError Nat := do
  let bytes ← orError files[entry.1]? (invalid "missing bundle file")
  reject (bytes.isEmpty || MAX_FILE_BYTES < bytes.length || MAX_TOTAL_BYTES < total + bytes.length ||
      env.digest bytes ≠ entry.2.sha256)
    (invalid "bundle payload failed checksum or size verification")
  return total + bytes.length

/-- Rust `Manifest::verify_files`. -/
def verifyFiles (manifest : Manifest) (files : Files) : Except IoError Unit := do
  reject (files.size ≠ manifest.files.size) (invalid "incomplete bundle payload")
  let _ ← manifest.files.toList.foldlM (verifyFile env files) 0

end Manifest

end Ctl.Bundles
