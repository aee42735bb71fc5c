import Ctl.Base.BigEndian

/-!
# SSH agent messages

The messages of the SSH agent protocol as the agent proxy reads and writes them (Rust
`identity_connection/agent_proxy.rs`). A message is its bytes without the length in front. Reading a
string takes it off the front of a cursor and returns the rest.

`parseIdentities_listAnswer` is the round trip of an identity list: what `listAnswer` builds for at
most `MAX_KEYS` keys is read back by `parseIdentities`.
-/

namespace Ctl.Identity

open Ctl.Base

abbrev Bytes := List UInt8

def MAX_MESSAGE : Nat := 1024 * 1024
def MAX_KEYS : Nat := 1024
def FAILURE : UInt8 := 5
def SUCCESS : UInt8 := 6
def REQUEST_IDENTITIES : UInt8 := 11
def IDENTITIES_ANSWER : UInt8 := 12
def SIGN_REQUEST : UInt8 := 13
def SIGN_RESPONSE : UInt8 := 14
def EXTENSION : UInt8 := 27
def EXTENSION_FAILURE : UInt8 := 28
def MAX_BINDINGS : Nat := 16
def MAX_BINDING_BYTES : Nat := 128 * 1024

/-- `b"session-bind@openssh.com"`. -/
def sessionBind : Bytes := [115, 101, 115, 115, 105, 111, 110, 45, 98, 105, 110, 100, 64, 111, 112,
  101, 110, 115, 115, 104, 46, 99, 111, 109]

/-- Take a number off the cursor (Rust `take_u32`). -/
def takeU32 : Bytes → Option (Nat × Bytes)
  | a :: b :: c :: d :: rest =>
    some (((a.toNat * 256 + b.toNat) * 256 + c.toNat) * 256 + d.toNat, rest)
  | _ => none

/-- Take a string with its length off the cursor (Rust `take_string`). -/
def takeString (cursor : Bytes) : Option (Bytes × Bytes) :=
  match takeU32 cursor with
  | none => none
  | some (count, rest) =>
    if count ≤ rest.length then some (rest.take count, rest.drop count) else none

/-- Append a string with its length; nothing when its length does not fit, where the code panics
    (Rust `push_string`). -/
def pushString (output value : Bytes) : Option Bytes :=
  if value.length < 2 ^ 32 then some (output ++ toBeBytes value.length ++ value) else none

variable (request : Bytes)

/-- The name of an extension request (Rust `extension_name`). -/
def extensionName : Option Bytes := (takeString (request.drop 1)).map Prod.fst

/-- A complete session binding: its name, three strings that are not empty and a flag
    (Rust `valid_binding`). -/
def validBinding : Bool :=
  match takeString (request.drop 1) with
  | none => false
  | some (name, cursor) =>
    match takeString cursor with
    | none => false
    | some (hostKey, cursor) =>
      match takeString cursor with
      | none => false
      | some (session, cursor) =>
        match takeString cursor with
        | none => false
        | some (signature, cursor) =>
          name = sessionBind ∧ hostKey ≠ [] ∧ session ≠ [] ∧ signature ≠ [] ∧
            (cursor = [0] ∨ cursor = [1])

def isBinding : Bool :=
  request.head? = some EXTENSION ∧ extensionName request = some sessionBind

/-- The key of a well-formed signature request: the key, the data and four bytes of flags. -/
def signKey : Option Bytes :=
  match takeString (request.drop 1) with
  | none => none
  | some (key, cursor) =>
    match takeString cursor with
    | none => none
    | some (_, flags) => if flags.length = 4 then some key else none

/-- Take `count` keys with their comments off the cursor. -/
def takeIdentities : Nat → Bytes → Option (List (Bytes × Bytes) × Bytes)
  | 0, cursor => some ([], cursor)
  | count + 1, cursor =>
    match takeString cursor with
    | none => none
    | some (key, cursor) =>
      match takeString cursor with
      | none => none
      | some (comment, cursor) =>
        (takeIdentities count cursor).map fun (keys, cursor) => ((key, comment) :: keys, cursor)

/-- The identities of an answer that lists at most `limit` keys. -/
def parseIdentitiesUpTo (limit : Nat) (response : Bytes) : Option (List (Bytes × Bytes)) :=
  if response.head? = some IDENTITIES_ANSWER then
    match takeU32 (response.drop 1) with
    | none => none
    | some (count, cursor) =>
      if limit < count then none
      else
        match takeIdentities count cursor with
        | none => none
        | some (keys, cursor) => if cursor = [] then some keys else none
  else none

/-- The identities of an answer (Rust `parse_identities`). -/
def parseIdentities (response : Bytes) : Option (List (Bytes × Bytes)) :=
  parseIdentitiesUpTo MAX_KEYS response

def pushIdentities : Bytes → List (Bytes × Bytes) → Option Bytes
  | output, [] => some output
  | output, (key, comment) :: identities =>
    match pushString output key with
    | none => none
    | some output =>
      match pushString output comment with
      | none => none
      | some output => pushIdentities output identities

def listAnswer (identities : List (Bytes × Bytes)) : Option Bytes :=
  if identities.length < 2 ^ 32 then
    pushIdentities (IDENTITIES_ANSWER :: toBeBytes identities.length) identities
  else none

/-! ## The round trip of an identity list -/

/-- A number is read back. -/
@[simp] lemma takeU32_toBeBytes {n : Nat} (h : n < 2 ^ 32) (rest : Bytes) :
    takeU32 (toBeBytes n ++ rest) = some (n, rest) := by
  simp [toBeBytes, takeU32, digits_eq h]

lemma takeString_pushed {value : Bytes} (h : value.length < 2 ^ 32) (rest : Bytes) :
    takeString (toBeBytes value.length ++ (value ++ rest)) = some (value, rest) := by
  rw [takeString, takeU32_toBeBytes h]
  simp

variable {identities : List (Bytes × Bytes)} {response : Bytes}

lemma pushIdentities_spec {output : Bytes} (h : pushIdentities output identities = some response) :
    ∃ tail, response = output ++ tail ∧
      ∀ rest, takeIdentities identities.length (tail ++ rest) = some (identities, rest) := by
  induction identities generalizing output with
  | nil =>
    obtain rfl := Option.some.inj h
    exact ⟨[], (List.append_nil _).symm, fun rest => rfl⟩
  | cons identity identities ih =>
    obtain ⟨key, comment⟩ := identity
    rw [pushIdentities] at h
    split at h
    case h_1 => cases h
    case h_2 first pushedKey =>
      split at h
      case h_1 => cases h
      case h_2 second pushedComment =>
        rw [pushString] at pushedKey pushedComment
        split at pushedKey
        case isFalse => cases pushedKey
        case isTrue keyFits =>
          split at pushedComment
          case isFalse => cases pushedComment
          case isTrue commentFits =>
            obtain rfl := Option.some.inj pushedKey
            obtain rfl := Option.some.inj pushedComment
            obtain ⟨tail, rfl, read⟩ := ih h
            refine ⟨toBeBytes key.length ++ (key ++ (toBeBytes comment.length ++ (comment ++ tail))),
              by simp, ?_⟩
            intro rest
            rw [List.length_cons, takeIdentities]
            simp only [List.append_assoc]
            rw [takeString_pushed keyFits]
            simp only [takeString_pushed commentFits, read, Option.map_some]

theorem parseIdentities_listAnswer (few : identities.length ≤ MAX_KEYS) (h : listAnswer identities = some response) :
    parseIdentities response = some identities := by
  rw [listAnswer] at h
  split at h
  case isFalse => cases h
  case isTrue fits =>
    obtain ⟨tail, rfl, read⟩ := pushIdentities_spec h
    have all := read []
    rw [List.append_nil] at all
    simp only [parseIdentities, parseIdentitiesUpTo, List.cons_append, List.head?_cons, if_true,
      List.drop_succ_cons, List.drop_zero, takeU32_toBeBytes fits, Nat.not_lt.2 few, if_false, all]

lemma listAnswer_head (h : listAnswer identities = some response) : response.head? = some IDENTITIES_ANSWER := by
  rw [listAnswer] at h
  split at h
  case isFalse => cases h
  case isTrue =>
    obtain ⟨tail, rfl, -⟩ := pushIdentities_spec h
    rfl

example : parseIdentities [IDENTITIES_ANSWER, 255, 255, 255, 255] = none := by decide

end Ctl.Identity
