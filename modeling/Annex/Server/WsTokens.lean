import Annex.Server.Channels
import Annex.Server.Usernames

namespace Annex.Server

open Db Identity Sql

/-! The session tokens of the WebSocket, and the connections they lead to. A token is only ever
checked against its signature, the clock and the identities; nothing remembers its use. -/

/-- The packages for HMAC-SHA256 and for the base64 texts of URLs. -/
structure TokenPackages where
  hmac : (key payload : List Byte) → List Byte
  base64Encode : List Byte → String
  base64Decode : String → Option (List Byte)

structure TokenServer where
  environment : Environment
  packages : TokenPackages
  signingKey : List Byte
  serverId : Nat

/-- The seconds since the epoch, as the clock can tell them. -/
abbrev UnixSecs := Fin (2 ^ 63)

def wsTokenTtlSecs : Nat := 60

/-- `splitn`, up to the first delimiter. -/
def splitOnce : List Char → Option (List Char × List Char)
  | [] => none
  | character :: rest =>
      if character = '|' then some ([], rest)
      else (splitOnce rest).map fun parts => (character :: parts.1, parts.2)

/-- The three parts of `splitn(3, '|')`. -/
def splitToken (text : String) : Option (String × String × String) := do
  let (pseudonym, rest) ← splitOnce text.toList
  let (expires, sigHex) ← splitOnce rest
  some (String.ofList pseudonym, String.ofList expires, String.ofList sigHex)

/-- `parse::<u64>`. -/
def parseU64 (text : String) : Option Nat :=
  let digits :=
    match text.toList with
    | '+' :: digits => digits
    | digits => digits
  if digits ≠ [] ∧ digits.all Char.isDigit ∧ Nat.ofDigitChars 10 digits 0 < 2 ^ 64 then
    some (Nat.ofDigitChars 10 digits 0)
  else none

section Tokens

variable (server : TokenServer)

/-- `derive_ws_token_secret`. -/
def TokenServer.wsTokenSecret : List Byte :=
  server.environment.sha256 (utf8 "annex-ws-token-v1:" ++ server.signingKey)

def signToken (payload : String) : List Byte :=
  server.packages.hmac server.wsTokenSecret (utf8 payload)

def tokenPayload (pseudonym expires : String) : String :=
  pseudonym ++ "|" ++ expires

def generateWsToken (now : UnixSecs) (pseudonym : String) : String :=
  let payload := tokenPayload pseudonym (toString (now.val + wsTokenTtlSecs))
  server.packages.base64Encode (utf8 (payload ++ "|" ++ Hex.encode (signToken server payload)))

/-- The pseudonym of a token's text that is signed and has not expired. -/
def verifyTokenText (now : UnixSecs) (tokenStr : String) : Option String := do
  let (pseudonym, expiresStr, sigHex) ← splitToken tokenStr
  let providedSig ← Hex.decode sigHex
  if signToken server (tokenPayload pseudonym expiresStr) ≠ providedSig then none
  else do
    let expires ← parseU64 expiresStr
    if expires < now.val then none else some pseudonym

def verifyWsToken (now : UnixSecs) (token : String) : Except StatusCode String :=
  match (server.packages.base64Decode token).bind fromUtf8 with
  | none => .error .unauthorized
  | some tokenStr =>
      match verifyTokenText server now tokenStr with
      | none => .error .unauthorized
      | some pseudonym => .ok pseudonym

end Tokens

section Connections

structure WsConnectParams where
  pseudonym : Option String
  token : Option String
deriving DecidableEq, Repr

/-- The pseudonym of a connection: that of its token, if it has one. -/
def resolvePseudonym (server : TokenServer) (now : UnixSecs) (params : WsConnectParams) :
    Except StatusCode String :=
  match params.token with
  | some token => verifyWsToken server now token
  | none =>
      match params.pseudonym with
      | some pseudonym => .ok pseudonym
      | none => .error .unauthorized

variable {Memory : Type}

/-- The active identity of a pseudonym. -/
def authenticateWs (serverId : Nat) (pseudonym : String) :
    Sql Database Memory StatusCode PlatformIdentity := do
  connect internal
  let identity ← mapErr (fun _ => .unauthorized) (getPlatformIdentity serverId pseudonym)
  check (identity.active = true) .forbidden
  pure identity

/-- `GET /ws` up to the upgrade, which it answers with for the identity it returns. -/
def wsHandler (server : TokenServer) (now : UnixSecs) (params : WsConnectParams) :
    Sql Database Memory StatusCode PlatformIdentity := do
  let pseudonym ← ofExcept (resolvePseudonym server now params)
  authenticateWs server.serverId pseudonym

/-- One attempt to connect, and the database it reads. -/
structure WsAttempt where
  now : UnixSecs
  params : WsConnectParams
  session : Session Database Unit

/-- The connection is upgraded. -/
def WsAttempt.accepted (server : TokenServer) (attempt : WsAttempt) : Bool :=
  (wsHandler server attempt.now attempt.params attempt.session).1.isOk

inductive TokenEvent where
  | generate (now : UnixSecs) (pseudonym : String)
  | attempt (attempt : WsAttempt)

/-- The attempts of a run. -/
def attempts (events : List TokenEvent) : List WsAttempt :=
  events.filterMap fun event =>
    match event with
    | .generate _ _ => none
    | .attempt attempt => some attempt

end Connections

section Splitting

theorem splitOnce_append {front : List Char} (free : '|' ∉ front) (back : List Char) :
    splitOnce (front ++ '|' :: back) = some (front, back) := by
  induction front with
  | nil => rfl
  | cons character rest induction =>
      rw [List.mem_cons, not_or] at free
      rw [List.cons_append, splitOnce, if_neg (Ne.symm free.1), induction free.2]
      rfl

/-- One delimiter is taken away. -/
theorem count_of_splitOnce {text front back : List Char}
    (split : splitOnce text = some (front, back)) : text.count '|' = back.count '|' + 1 := by
  induction text generalizing front with
  | nil => cases split
  | cons character rest induction =>
      rw [splitOnce] at split
      split at split
      · next delimiter =>
        cases split
        rw [delimiter, List.count_cons_self]
      · next other =>
        rcases Option.map_eq_some_iff.mp split with ⟨parts, isParts, same⟩
        cases same
        rw [List.count_cons_of_ne other]
        exact induction isParts

theorem splitToken_of_free {pseudonym expires : String} (free : '|' ∉ pseudonym.toList)
    (expiresFree : '|' ∉ expires.toList) (sigHex : String) :
    splitToken (tokenPayload pseudonym expires ++ "|" ++ sigHex) =
      some (pseudonym, expires, sigHex) := by
  have text : (tokenPayload pseudonym expires ++ "|" ++ sigHex).toList =
      pseudonym.toList ++ '|' :: (expires.toList ++ '|' :: sigHex.toList) := by
    unfold tokenPayload
    simp [String.toList_append]
  unfold splitToken
  rw [text, splitOnce_append free, Option.bind_eq_bind, Option.bind_some]
  dsimp only
  rw [splitOnce_append expiresFree]
  simp

/-- With a delimiter too many, the last part has one. -/
theorem mem_sigHex_of_count {text pseudonym expires sigHex : String}
    (many : 3 ≤ text.toList.count '|')
    (split : splitToken text = some (pseudonym, expires, sigHex)) : '|' ∈ sigHex.toList := by
  unfold splitToken at split
  rcases Option.bind_eq_some_iff.mp split with ⟨⟨front, rest⟩, first, split⟩
  rcases Option.bind_eq_some_iff.mp split with ⟨⟨middle, last⟩, second, split⟩
  cases split
  have firstCount := count_of_splitOnce first
  have secondCount := count_of_splitOnce second
  rw [String.toList_ofList]
  apply List.count_pos_iff.mp
  omega

end Splitting

section Verification

theorem fromUtf8_utf8 (text : String) : fromUtf8 (utf8 text) = some text := by
  have bytes : ((utf8 text).map fun byte => UInt8.ofNat byte.val) = text.toUTF8.data.toList := by
    unfold utf8
    rw [List.map_map, toList_eq_toList_data]
    refine (List.map_congr_left ?_).trans (List.map_id _)
    intro byte _
    simp [Fin.ofNat]
  have same : (⟨((utf8 text).map fun byte => UInt8.ofNat byte.val).toArray⟩ : ByteArray) =
      text.toUTF8 := by
    rw [bytes]
  unfold fromUtf8
  rw [same]
  unfold String.fromUTF8?
  have valid : text.toUTF8.IsValidUTF8 := text.isValidUTF8
  rw [dif_pos valid]
  rfl

theorem decodeChars_of_delimiter : ∀ characters : List Char, '|' ∈ characters →
    Hex.decodeChars characters = none
  | [], member => absurd member List.not_mem_nil
  | [_], _ => rfl
  | high :: low :: rest, member => by
      have noDigit : Hex.digitValue '|' = none := by decide
      rw [List.mem_cons, List.mem_cons] at member
      rw [Hex.decodeChars]
      rcases member with same | same | later
      · rw [← same, noDigit]
      · rw [← same, noDigit]
        cases Hex.digitValue high <;> rfl
      · rw [decodeChars_of_delimiter rest later]
        cases Hex.digitValue high <;> cases Hex.digitValue low <;> rfl

theorem parseU64_toString {number : Nat} (small : number < 2 ^ 64) :
    parseU64 (toString number) = some number := by
  have digits : (toString number).toList = Nat.toDigits 10 number := Nat.toList_repr
  have unsigned : ∀ digits : List Char, digits.all Char.isDigit →
      (match digits with | '+' :: digits => digits | digits => digits) = digits := by
    intro digits all
    split
    · cases all
    · rfl
  have all : (Nat.toDigits 10 number).all Char.isDigit := by
    rw [List.all_eq_true]
    exact fun character member => Nat.isDigit_of_mem_toDigits (by decide) (by decide) member
  unfold parseU64
  dsimp only
  rw [digits, unsigned _ all, Nat.ofDigitChars_ten_toDigits,
    if_pos ⟨Nat.toDigits_ne_nil, all, small⟩]

theorem delimiter_notMem_toString (number : Nat) : '|' ∉ (toString number).toList := by
  have digits : (toString number).toList = Nat.toDigits 10 number := Nat.toList_repr
  intro member
  rw [digits] at member
  cases Nat.isDigit_of_mem_toDigits (by decide) (by decide) member

theorem expires_lt (generated : UnixSecs) : generated.val + wsTokenTtlSecs < 2 ^ 64 := by
  have bound := generated.isLt
  unfold wsTokenTtlSecs
  omega

/-- A text with too many delimiters has no signature. -/
theorem verifyTokenText_of_count {server : TokenServer} {tokenStr : String}
    (many : 3 ≤ tokenStr.toList.count '|') (now : UnixSecs) :
    verifyTokenText server now tokenStr = none := by
  unfold verifyTokenText
  cases split : splitToken tokenStr with
  | none => rfl
  | some parts =>
      have undecodable : Hex.decode parts.2.2 = none :=
        decodeChars_of_delimiter _ (mem_sigHex_of_count many split)
      rw [Option.bind_eq_bind, Option.bind_some]
      dsimp only
      rw [undecodable]
      rfl

theorem verifyTokenText_signed {server : TokenServer} {pseudonym : String}
    (free : '|' ∉ pseudonym.toList) {expires : Nat} (small : expires < 2 ^ 64)
    (expiresFree : '|' ∉ (toString expires).toList) (now : UnixSecs) :
    verifyTokenText server now (tokenPayload pseudonym (toString expires) ++ "|" ++
        Hex.encode (signToken server (tokenPayload pseudonym (toString expires)))) =
      if expires < now.val then none else some pseudonym := by
  unfold verifyTokenText
  rw [splitToken_of_free free expiresFree, Option.bind_eq_bind, Option.bind_some]
  dsimp only
  rw [Hex.decode_encode, Option.bind_eq_bind, Option.bind_some, if_neg (not_not_intro rfl),
    parseU64_toString small, Option.bind_eq_bind, Option.bind_some]

/-- A generated token verifies for 60 seconds as the pseudonym it was generated for, unless that
has a delimiter in it. -/
theorem verifyWsToken_generateWsToken {server : TokenServer}
    (codec : ∀ bytes, server.packages.base64Decode (server.packages.base64Encode bytes) =
      some bytes) (generated now : UnixSecs) (pseudonym : String) :
    verifyWsToken server now (generateWsToken server generated pseudonym) =
      if '|' ∉ pseudonym.toList ∧ now.val ≤ generated.val + wsTokenTtlSecs then .ok pseudonym
      else .error .unauthorized := by
  have digitsFree := delimiter_notMem_toString (generated.val + wsTokenTtlSecs)
  unfold verifyWsToken generateWsToken
  dsimp only
  rw [codec, Option.bind_some, fromUtf8_utf8]
  dsimp only
  by_cases free : '|' ∉ pseudonym.toList
  · rw [verifyTokenText_signed free (expires_lt generated) digitsFree]
    by_cases inTime : now.val ≤ generated.val + wsTokenTtlSecs
    · rw [if_neg (Nat.not_lt.mpr inTime), if_pos ⟨free, inTime⟩]
    · rw [if_pos (Nat.not_le.mp inTime), if_neg fun both => inTime both.2]
  · have inside : 0 < pseudonym.toList.count '|' := List.count_pos_iff.mpr (not_not.mp free)
    have many : 3 ≤ (tokenPayload pseudonym (toString (generated.val + wsTokenTtlSecs)) ++ "|" ++
        Hex.encode (signToken server (tokenPayload pseudonym
          (toString (generated.val + wsTokenTtlSecs))))).toList.count '|' := by
      unfold tokenPayload
      simp [String.toList_append]
      omega
    rw [verifyTokenText_of_count many, if_neg fun both => free both.1]

end Verification

end Annex.Server
