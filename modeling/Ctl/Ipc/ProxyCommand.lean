import Ctl.Approval.Scope
import Ctl.Base.Shell

/-!
# Proxy commands

Model of `proxy_command_with_executable` in `ctl/ipc/src/lib.rs`, for systems other than Windows, and of the checks
of `run` in `ctl/daemon/src/proxy_route.rs` before it connects. OpenSSH expands the percent tokens of the command and
a POSIX shell splits it into words; the words are the path of the helper and its arguments, and the helper reads the
gateways back from its route argument (`proxyCommand_words`).

The path is one that is valid Unicode, as its text.
-/

namespace Ctl.Ipc
open Ctl.Base Ctl.Proto Ctl.Approval

/-- What the two functions use of other crates. -/
structure Crates where
  /-- `serde_json::to_vec` of a list of gateways. -/
  toVec : List SshGateway → List UInt8
  /-- `serde_json::from_slice` of a list of gateways. -/
  fromSlice : List UInt8 → Option (List SshGateway)
  parseUuid : ParseUuid

variable (crates : Crates)

/-! ### The command -/

variable (bytes : List UInt8) {text : Text}

def hexText : Text := bytes.flatMap hexDigits

/-- Rust `proxy_command_with_executable`. -/
def proxyCommandWithExecutable (gateways : List SshGateway) (executable : Text) : Text :=
  let executable := replaceChar '%' ['%', '%'] executable
  let executable := '\'' :: (replaceChar '\'' ['\'', '\\', '\'', '\''] executable ++ ['\''])
  let encoded := hexText (crates.toVec gateways)
  executable ++ " --proxy-route ".toList ++ encoded ++ " --proxy-host %h --proxy-port %p".toList

/-! ### The helper -/

inductive ProxyRouteError where
  | other (message : String)
  | utf8
  | digits
  | json

/-- Pairs of bytes, and the byte that is left (Rust `as_chunks::<2>`). -/
def asPairs : List UInt8 → List (UInt8 × UInt8) × List UInt8
  | first :: second :: rest => ((first, second) :: (asPairs rest).1, (asPairs rest).2)
  | rest => ([], rest)

/-- Rust `char::to_digit(16)`. -/
def hexValue (c : Char) : Option Nat :=
  if '0' ≤ c ∧ c ≤ '9' then some (c.toNat - 48)
  else if 'a' ≤ c ∧ c ≤ 'f' then some (c.toNat - 87)
  else if 'A' ≤ c ∧ c ≤ 'F' then some (c.toNat - 55)
  else none

def hexNumber : Nat → Text → Option UInt8
  | value, [] => if value < 256 then some (UInt8.ofNat value) else none
  | value, c :: rest => do
    let digit ← hexValue c
    if value * 16 + digit < 256 then hexNumber (value * 16 + digit) rest else none

/-- Rust `u8::from_str_radix(text, 16)`. -/
def fromStrRadix16 : Text → Option UInt8
  | [] => none
  | ['+'] => none
  | '+' :: digits => hexNumber 0 digits
  | digits => hexNumber 0 digits

def decodePair (pair : UInt8 × UInt8) : Except ProxyRouteError UInt8 :=
  match textOf [pair.1, pair.2] with
  | none => .error .utf8
  | some text =>
    match fromStrRadix16 text with
    | none => .error .digits
    | some byte => .ok byte

/-- The bytes of a route argument (the decoding loop of Rust `run`). -/
def decodeRoute (route : Text) : Except ProxyRouteError (List UInt8) :=
  let (pairs, remainder) := asPairs (utf8Bytes route)
  if !remainder.isEmpty then .error (.other "invalid proxy route encoding") else pairs.mapM decodePair

/-- The gateways that the helper connects through (Rust `run`, before it connects). -/
def runGateways (route host : Text) (port : UInt16) : Except ProxyRouteError (List SshGateway) := do
  let bytes ← decodeRoute route
  match crates.fromSlice bytes with
  | none => .error .json
  | some gateways =>
    if !hasValidGatewayRoute crates.parseUuid gateways || gateways.any (invalidGateway crates.parseUuid) ||
        port = 0 || host.isEmpty then
      .error (.other "invalid proxy route")
    else .ok gateways

/-! ### The route argument is read back -/

lemma hexValue_digitChar : ∀ n < 16, hexValue (Nat.digitChar n) = some n ∧ Nat.digitChar n ≠ '+' ∧
    needsNoQuoting (Nat.digitChar n) = true ∧ Nat.digitChar n ≠ '%' ∧
    (String.utf8EncodeChar (Nat.digitChar n)).length = 1 := by
  decide

lemma decodePair_hexDigits (byte : UInt8) :
    ∃ first second, utf8Bytes (hexDigits byte) = [first, second] ∧ decodePair (first, second) = .ok byte := by
  have small := byte.toNat_lt
  obtain ⟨high, plus, _, _, one⟩ := hexValue_digitChar (byte.toNat / 16) (by omega)
  obtain ⟨low, _, _, _, two⟩ := hexValue_digitChar (byte.toNat % 16) (Nat.mod_lt _ (by decide))
  obtain ⟨first, one⟩ := List.length_eq_one_iff.1 one
  obtain ⟨second, two⟩ := List.length_eq_one_iff.1 two
  have bytes : utf8Bytes (hexDigits byte) = [first, second] := by
    rw [hexDigits, utf8Bytes, List.flatMap_cons, List.flatMap_cons, one, two]
    rfl
  have text : textOf [first, second] = some (hexDigits byte) := by
    rw [← bytes, textOf_utf8Bytes]
  have value : fromStrRadix16 (hexDigits byte) = some byte := by
    rw [hexDigits, fromStrRadix16]
    · rw [hexNumber, high, Option.bind_eq_bind, Option.bind_some, if_pos (by omega), hexNumber, low,
        Option.bind_eq_bind, Option.bind_some, if_pos (by omega), hexNumber, if_pos (by omega)]
      congr 1
      rw [← UInt8.toNat_inj, UInt8.toNat_ofNat', Nat.mod_eq_of_lt (by omega)]
      omega
    · exact List.cons_ne_nil _ _
    · exact fun eq => plus (List.cons.inj eq).1
    · exact fun digits eq => plus (List.cons.inj eq).1
  refine ⟨first, second, bytes, ?_⟩
  rw [decodePair, text]
  dsimp only
  rw [value]

lemma asPairs_hexText :
    (asPairs (utf8Bytes (hexText bytes))).2 = [] ∧
      (asPairs (utf8Bytes (hexText bytes))).1.mapM decodePair = .ok bytes := by
  induction bytes with
  | nil => exact ⟨rfl, rfl⟩
  | cons byte bytes ih =>
    obtain ⟨first, second, encoded, decoded⟩ := decodePair_hexDigits byte
    have split : utf8Bytes (hexText (byte :: bytes)) = first :: second :: utf8Bytes (hexText bytes) := by
      rw [hexText, List.flatMap_cons, utf8Bytes, List.flatMap_append]
      show utf8Bytes (hexDigits byte) ++ utf8Bytes (hexText bytes) = _
      rw [encoded]
      rfl
    rw [split, asPairs]
    refine ⟨ih.1, ?_⟩
    rw [List.mapM_cons, decoded]
    show (do
      let rest ← (asPairs (utf8Bytes (hexText bytes))).1.mapM decodePair
      pure (byte :: rest)) = _
    rw [ih.2]
    rfl

lemma decodeRoute_hexText : decodeRoute (hexText bytes) = .ok bytes := by
  obtain ⟨whole, decoded⟩ := asPairs_hexText bytes
  rw [decodeRoute]
  dsimp only
  rw [whole]
  exact decoded

/-! ### The words of the command -/

lemma mem_hexText {bytes : List UInt8} {c : Char} (mem : c ∈ hexText bytes) : needsNoQuoting c = true ∧ c ≠ '%' := by
  obtain ⟨byte, _, digit⟩ := List.mem_flatMap.1 mem
  have small := byte.toNat_lt
  obtain ⟨_, _, high, high', _⟩ := hexValue_digitChar (byte.toNat / 16) (by omega)
  obtain ⟨_, _, low, low', _⟩ := hexValue_digitChar (byte.toNat % 16) (Nat.mod_lt _ (by decide))
  rw [hexDigits] at digit
  simp only [List.mem_cons, List.not_mem_nil, or_false] at digit
  rcases digit with rfl | rfl
  · exact ⟨high, high'⟩
  · exact ⟨low, low'⟩

def sshTokens (others : Char → Option Text) (host port : Text) (token : Char) : Option Text :=
  if token = 'h' then some host else if token = 'p' then some port else others token

lemma expandTokens_sshTokens (plain : ∀ c ∈ text, c ≠ '%') (token : Char) (value : Text) {others : Char → Option Text}
    {host port : Text} (ne : token ≠ '%') (known : sshTokens others host port token = some value) (rest : Text) :
    expandTokens (sshTokens others host port) (text ++ '%' :: token :: rest) =
      (expandTokens (sshTokens others host port) rest).map (text ++ value ++ ·) := by
  rw [expandTokens_append plain, expandTokens_token ne known, Option.map_map]
  exact congrArg (Option.map · _) (funext fun rest => (List.append_assoc _ _ _).symm)

lemma expandTokens_proxyCommand (gateways : List SshGateway) (path host port : Text) (others : Char → Option Text) :
    expandTokens (sshTokens others host port) (proxyCommandWithExecutable crates gateways path) =
      some ('\'' :: (replaceChar '\'' ['\'', '\\', '\'', '\''] path ++ '\'' :: (" --proxy-route ".toList ++
        (hexText (crates.toVec gateways) ++ (" --proxy-host ".toList ++ (host ++ (" --proxy-port ".toList ++
          port))))))) := by
  have digits : ∀ c ∈ " --proxy-route ".toList ++ hexText (crates.toVec gateways) ++ " --proxy-host ".toList,
      c ≠ '%' := by
    intro c mem
    rw [List.mem_append, List.mem_append] at mem
    rcases mem with (mem | mem) | mem
    · exact (by decide : ∀ c ∈ " --proxy-route ".toList, c ≠ '%') c mem
    · exact (mem_hexText mem).2
    · exact (by decide : ∀ c ∈ " --proxy-host ".toList, c ≠ '%') c mem
  have parts : proxyCommandWithExecutable crates gateways path =
      '\'' :: (replaceChar '%' ['%', '%'] (replaceChar '\'' ['\'', '\\', '\'', '\''] path) ++ (['\''] ++
        (" --proxy-route ".toList ++ hexText (crates.toVec gateways) ++ " --proxy-host ".toList ++
          '%' :: 'h' :: (" --proxy-port ".toList ++ '%' :: 'p' :: [])))) := by
    unfold proxyCommandWithExecutable
    dsimp only
    rw [replaceChar_comm (by decide) (by decide) (by decide)]
    show _ = '\'' :: _
    simp only [List.cons_append, List.append_assoc]
    rfl
  rw [parts, expandTokens_cons (by decide), expandTokens_literal, expandTokens_append (by decide),
    expandTokens_sshTokens digits 'h' host (by decide) rfl,
    expandTokens_sshTokens (by decide) 'p' port (by decide) rfl, expandTokens]
  simp only [Option.map_some, List.append_nil, List.append_assoc]
  rfl

/-! ### The words -/

lemma shellFrom_next (word : Text) (plain : ∀ c ∈ text, needsNoQuoting c = true) (present : text ≠ []) (rest : Text) :
    shellFrom .bare (some word) (' ' :: (text ++ rest)) = (shellFrom .bare (some text) rest).map (word :: ·) := by
  rw [shellFrom_space, shellFrom_word plain present]
  rfl

/-- Splitting the expanded command gives the path and the arguments, and the helper reads the gateways back, when
    the JSON of the gateways is not empty and read back, and neither the host nor the port is empty. -/
theorem proxyCommand_words (gateways : List SshGateway) (path host port : Text) (others : Char → Option Text)
    (bracketed : crates.toVec gateways ≠ []) (roundTrip : crates.fromSlice (crates.toVec gateways) = some gateways)
    (hostPlain : ∀ c ∈ host, needsNoQuoting c = true) (portPlain : ∀ c ∈ port, needsNoQuoting c = true)
    (hostPresent : host ≠ []) (portPresent : port ≠ []) :
    (expandTokens (sshTokens others host port) (proxyCommandWithExecutable crates gateways path)).bind shellWords =
      some [path, "--proxy-route".toList, hexText (crates.toVec gateways), "--proxy-host".toList, host,
        "--proxy-port".toList, port] ∧
      decodeRoute (hexText (crates.toVec gateways)) = .ok (crates.toVec gateways) ∧
      ((decodeRoute (hexText (crates.toVec gateways))).toOption.bind crates.fromSlice = some gateways) := by
  refine ⟨?_, decodeRoute_hexText _, ?_⟩
  · have digits : hexText (crates.toVec gateways) ≠ [] := by
      obtain ⟨byte, rest, eq⟩ := List.exists_cons_of_ne_nil bracketed
      rw [eq, hexText, List.flatMap_cons, hexDigits]
      exact List.cons_ne_nil _ _
    rw [expandTokens_proxyCommand, Option.bind_some, shellWords, shellFrom_quoted]
    rw [show ∀ rest, " --proxy-route ".toList ++ rest = ' ' :: ("--proxy-route".toList ++ (' ' :: rest)) from
        fun _ => rfl,
      show ∀ rest, " --proxy-host ".toList ++ rest = ' ' :: ("--proxy-host".toList ++ (' ' :: rest)) from
        fun _ => rfl,
      show ∀ rest, " --proxy-port ".toList ++ rest = ' ' :: ("--proxy-port".toList ++ (' ' :: rest)) from
        fun _ => rfl]
    rw [shellFrom_next path (by decide) (by decide), shellFrom_next _ (fun c mem => (mem_hexText mem).1) digits,
      shellFrom_next _ (by decide) (by decide), shellFrom_next _ hostPlain hostPresent,
      shellFrom_next _ (by decide) (by decide), ← List.append_nil port,
      shellFrom_next _ portPlain portPresent, List.append_nil]
    rfl
  · rw [decodeRoute_hexText]
    exact roundTrip

def socksRoute : List SshGateway :=
  [{ kind := .socks5, vpn := none, destination := "proxy".toList, hostname := none, user := none, port := some 1080,
     identityFile := none, mode := .automatic }]

def socksJson : List UInt8 :=
  utf8Bytes ("[\x7b\"kind\":\"socks5\",\"destination\":\"proxy\",\"hostname\":null,\"user\":null,".toList ++
    "\"port\":1080,\"identity_file\":null,\"mode\":\"automatic\"\x7d]".toList)

/-- `serde_json` for this route and for the empty one. -/
def socksCrates : Crates where
  toVec := fun gateways => if gateways.isEmpty then utf8Bytes "[]".toList else socksJson
  fromSlice := fun bytes =>
    if bytes = socksJson then some socksRoute else if bytes = utf8Bytes "[]".toList then some [] else none
  parseUuid := fun _ => none

lemma socksCrates_socks : socksCrates.toVec socksRoute = socksJson ∧ socksCrates.fromSlice socksJson = some socksRoute :=
  ⟨rfl, by simp [socksCrates]⟩

theorem proxyCommand_words_socks :
    (expandTokens (sshTokens (fun _ => none) "fe80::1%eth0".toList "22".toList)
      (proxyCommandWithExecutable socksCrates socksRoute "/opt/it's 100%h \"$HOME\\/ctld".toList)).bind shellWords =
      some ["/opt/it's 100%h \"$HOME\\/ctld".toList, "--proxy-route".toList, hexText socksJson, "--proxy-host".toList,
        "fe80::1%eth0".toList, "--proxy-port".toList, "22".toList] ∧
      decodeRoute (hexText socksJson) = .ok socksJson ∧
      ((decodeRoute (hexText socksJson)).toOption.bind socksCrates.fromSlice = some socksRoute) :=
  proxyCommand_words socksCrates socksRoute _ _ _ _ (by decide +kernel) socksCrates_socks.2
    (by decide) (by decide)
    (by decide) (by decide)

/-- An empty host is no word: the shell finds six words only. -/
theorem proxyCommand_emptyHost :
    (expandTokens (sshTokens (fun _ => none) [] "22".toList)
      (proxyCommandWithExecutable socksCrates [] "/ctld".toList)).bind shellWords =
      some ["/ctld".toList, "--proxy-route".toList, hexText (socksCrates.toVec []), "--proxy-host".toList,
        "--proxy-port".toList, "22".toList] := by
  decide +kernel

end Ctl.Ipc
