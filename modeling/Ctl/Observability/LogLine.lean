import Ctl.Observability.Record

/-!
# Log lines

Model of `ctl-core/src/observability/text.rs`: a record as one line of text, and the record that is read from the
bytes of a line.
-/

namespace Ctl.Observability
open Ctl.Base Ctl.Proto

/-! ### Fields -/

def labelled (key : String) (value : Text) : Text := key.toList ++ '=' :: value

/-- The value of a field that must have this key (Rust `field`). -/
def field (key : String) (text : Text) : Option Text :=
  match splitOnce ['='] text with
  | some (actual, value) => if actual = key.toList then some value else none
  | none => none

/-- A value that may be missing (Rust `optional`). -/
def optional {α : Type} (text : α → Text) : Option α → Text
  | some value => text value
  | none => ['-']

/-- Rust `parse_optional`. -/
def parseOptional {α : Type} (parse : Text → Option α) (text : Text) : Option (Option α) :=
  if text = ['-'] then some none else (parse text).map some

/-- Rust `optional_text`. -/
def optionalText (text : Text) : Option Text := if text = ['-'] then none else some text

/-- Rust `u32::from_str`. -/
def parseU32 (text : Text) : Option UInt32 := (parseNat (2 ^ 32) text).map UInt32.ofNat

/-- Rust `u64::from_str`. -/
def parseU64 (text : Text) : Option UInt64 := (parseNat (2 ^ 64) text).map UInt64.ofNat

/-- Rust `i32::from_str`. -/
def parseI32 : Text → Option Int32
  | '-' :: digits =>
    if digits = [] then none
    else (parseDigits (2 ^ 31 + 1) 0 digits).map fun magnitude : Nat => Int32.ofInt (-magnitude)
  | digits => (parseNat (2 ^ 31) digits).map fun magnitude : Nat => Int32.ofInt magnitude

/-- Rust `Level::from_str`. -/
def parseLevel (text : Text) : Option Level := parseName (text.map Char.toLower)

/-! ### A line of a record -/

/-- Why there is no line. -/
inductive LogError where
  /-- "invalid log record" -/
  | invalidRecord
  /-- The timestamp has no text. -/
  | timestamp
  /-- "invalid metadata layout" -/
  | invalidMetadataLayout
  /-- A text has no JSON. -/
  | json
  deriving DecidableEq

def Record.heading {Uuid : Type} (r : Record Uuid) (timestamp : Text) : List Text :=
  [timestamp, (name r.level).map Char.toUpper, name r.component, name r.event, name r.outcome]

def Record.fields (crates : Crates) (r : Record crates.Uuid) : List Text :=
  [labelled "session" (optional crates.uuidText r.context.sessionId),
    labelled "pane" (optional crates.uuidText r.context.paneId),
    labelled "attachment" (optional crates.uuidText r.context.attachmentId),
    labelled "exit_code" (optional (fun code => digits code.toNat) r.context.exitCode),
    labelled "lease" (optional name r.context.lease),
    labelled "duration_ms" (digits r.elapsedMs.toNat),
    labelled "subject" (r.subjectId.getD ['-']),
    labelled "code" (r.errorCode.getD ['-']),
    labelled "os" (optional signedText r.osError),
    labelled "pid" (digits r.processId.toNat),
    labelled "run" (crates.uuidText r.runId),
    labelled "operation" (crates.uuidText r.operationId),
    labelled "event_id" (crates.uuidText r.eventId),
    labelled "schema" (digits r.schemaVersion.toNat)] ++
  (if 6 ≤ r.schemaVersion then
    [labelled "attempt" (optional crates.uuidText r.attemptId),
      labelled "correlation" (optional crates.uuidText r.correlationId)]
  else []) ++
  (if 7 ≤ r.schemaVersion then
    [labelled "authorization_mode" (optional name r.context.authorizationMode),
      labelled "authorization_reason" (optional name r.context.authorizationReason)]
  else [])

def Record.metadata (crates : Crates) (r : Record crates.Uuid) (timestamp : Text) : Text :=
  [' '].intercalate (r.heading timestamp ++ r.fields crates)

def Record.endpointText (crates : Crates) (r : Record crates.Uuid) : Except LogError Text :=
  if 5 ≤ r.schemaVersion then
    match crates.endpointJson r.connectionEndpoint with
    | some json => .ok ("\tconnection_endpoint=".toList ++ json)
    | none => .error .json
  else .ok []

/-- One bounded human-readable line (Rust `Record::log_line`). -/
def Record.logLine (crates : Crates) (r : Record crates.Uuid) : Except LogError Text :=
  if !r.valid crates then .error .invalidRecord
  else
    match crates.formatTime r.timestampMs.toNat with
    | none => .error .timestamp
    | some timestamp =>
      if 4 ≤ r.schemaVersion then
        match splitOnce " session=".toList (r.metadata crates timestamp) with
        | none => .error .invalidMetadataLayout
        | some (front, fields) =>
          match r.endpointText crates with
          | .error error => .error error
          | .ok endpoint =>
            match crates.messageJson r.message with
            | none => .error .json
            | some message =>
              .ok (front ++ "\tmessage=".toList ++ message ++ endpoint ++ "\tsession=".toList ++ fields)
      else .ok (r.metadata crates timestamp)

/-! ### The record of a line -/

def cutMessage (line : Text) : Option (Text × Option Text) :=
  match splitOnce "\tmessage=".toList line with
  | some (front, rest) => (splitOnce ['\t'] rest).map fun parts => (front ++ ' ' :: parts.2, some parts.1)
  | none => some (line, none)

def cutEndpoint (metadata : Text) : Option (Text × Option Text) :=
  match splitOnce "connection_endpoint=".toList metadata with
  | some (front, rest) => (splitOnce ['\t'] rest).map fun parts => (front ++ parts.2, some parts.1)
  | none => some (metadata, none)

/-- Milliseconds that fit (Rust `u64::try_from(unix_timestamp_nanos / 1_000_000)`). -/
def millisOf (nanos : Int) : Option UInt64 :=
  let millis := nanos.tdiv 1000000
  if 0 ≤ millis ∧ millis < 2 ^ 64 then some (UInt64.ofNat millis.toNat) else none

def fieldAt (fields : List Text) (i : Nat) (key : String) : Option Text := (fields[i]?).bind (field key)

def readContext (crates : Crates) (fields : List Text) : Option (Context crates.Uuid) := do
  let sessionId ← (fieldAt fields 5 "session").bind (parseOptional crates.parseUuid)
  let paneId ← (fieldAt fields 6 "pane").bind (parseOptional crates.parseUuid)
  let attachmentId ← (fieldAt fields 7 "attachment").bind (parseOptional crates.parseUuid)
  let exitCode ← (fieldAt fields 8 "exit_code").bind (parseOptional parseU32)
  let lease ← (fieldAt fields 9 "lease").bind (parseOptional parseName)
  let authorizationMode ←
    if fields.length = 23 then (fieldAt fields 21 "authorization_mode").bind (parseOptional parseName)
    else some none
  let authorizationReason ←
    if fields.length = 23 then (fieldAt fields 22 "authorization_reason").bind (parseOptional parseName)
    else some none
  return { sessionId, paneId, attachmentId, exitCode, lease, authorizationMode, authorizationReason }

def readFields (crates : Crates) (fields : List Text) (endpoint : Option Text) : Option (Record crates.Uuid) := do
  let timestampMs ← ((fields[0]?).bind crates.parseTime).bind millisOf
  let level ← (fields[1]?).bind parseLevel
  let component ← (fields[2]?).bind parseName
  let event ← (fields[3]?).bind parseName
  let outcome ← (fields[4]?).bind parseName
  let context ← readContext crates fields
  let elapsedMs ← (fieldAt fields 10 "duration_ms").bind parseU64
  let subjectId ← (fieldAt fields 11 "subject").map optionalText
  let connectionEndpoint ←
    match endpoint with
    | some json => crates.parseEndpoint json
    | none => some none
  let errorCode ← (fieldAt fields 12 "code").map optionalText
  let osError ← (fieldAt fields 13 "os").bind (parseOptional parseI32)
  let processId ← (fieldAt fields 14 "pid").bind parseU32
  let runId ← (fieldAt fields 15 "run").bind crates.parseUuid
  let operationId ← (fieldAt fields 16 "operation").bind crates.parseUuid
  let attemptId ←
    if 21 ≤ fields.length then (fieldAt fields 19 "attempt").bind (parseOptional crates.parseUuid) else some none
  let correlationId ←
    if 21 ≤ fields.length then (fieldAt fields 20 "correlation").bind (parseOptional crates.parseUuid)
    else some none
  let eventId ← (fieldAt fields 17 "event_id").bind crates.parseUuid
  let schemaVersion ← (fieldAt fields 18 "schema").bind parseU32
  return { schemaVersion, level, component, context, runId, eventId, operationId, attemptId, correlationId,
           timestampMs, processId, event, outcome, subjectId, connectionEndpoint, elapsedMs, errorCode, osError }

def expectedFields (schemaVersion : UInt32) : Option Nat :=
  if 2 ≤ schemaVersion ∧ schemaVersion ≤ 5 then some 19
  else if schemaVersion = 6 then some 21
  else if schemaVersion = 7 then some 23
  else none

def messageFits (crates : Crates) (schemaVersion : UInt32) (message : Option Text) : Bool :=
  if 4 ≤ schemaVersion then
    match message.bind crates.parseMessage with
    | some message => utf8Len message ≤ 512 && !message.any isControl
    | none => false
  else message.isNone

/-- Rust `Record::from_log_line`. -/
def Record.fromLogLine (crates : Crates) (line : List UInt8) : Option (Record crates.Uuid) := do
  if line.getLast? ≠ some 0x0a then none
  else
    let text ← textOf line
    let line ← if text.getLast? = some '\n' then some text.dropLast else none
    let (metadata, message) ← cutMessage line
    let (metadata, endpoint) ← cutEndpoint metadata
    let fields := words isWhitespace metadata
    if fields.length = 19 ∨ fields.length = 21 ∨ fields.length = 23 then
      let record ← readFields crates fields endpoint
      if expectedFields record.schemaVersion = some fields.length ∧
          messageFits crates record.schemaVersion message ∧ record.valid crates then some record
      else none
    else none

end Ctl.Observability
