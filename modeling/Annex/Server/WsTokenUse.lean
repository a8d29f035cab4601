import Annex.Server.WsTokens

namespace Annex.Server

open Db Identity Sql

/-! How often a token is used. The server does not remember the connections that a token has led
to, so that it leads to as many as attempts present it in time. -/

/-- The database can be read and has the pseudonym as an active identity. -/
def readsActive {Memory : Type} (serverId : Nat) (pseudonym : String)
    (session : Session Database Memory) : Bool :=
  (faultAt session.faults 0).isNone && (faultAt session.faults 1).isNone &&
    (session.database.platformIdentities.rows.find? (hasPseudonym serverId pseudonym)).any
      fun row => (roleFromStr row.participantType).isOk && row.active

/-- The attempt presents the token, at most 60 seconds after it was generated for the pseudonym
and while that is an active identity. -/
def WsAttempt.presents (server : TokenServer) (generated : UnixSecs) (pseudonym : String)
    (attempt : WsAttempt) : Bool :=
  attempt.params.token = some (generateWsToken server generated pseudonym) &&
    attempt.now.val ≤ generated.val + wsTokenTtlSecs &&
      readsActive server.serverId pseudonym attempt.session

/-- The attempts that the token led to a connection in. -/
def connections (server : TokenServer) (token : String) (events : List TokenEvent) :
    List WsAttempt :=
  (attempts events).filter fun attempt =>
    attempt.params.token = some token && attempt.accepted server

/-- Each generated token leads to at most one connection. -/
def SingleUse (server : TokenServer) (events : List TokenEvent) : Prop :=
  ∀ generated pseudonym, .generate generated pseudonym ∈ events →
    (connections server (generateWsToken server generated pseudonym) events).length ≤ 1

theorem isOk_authenticateWs {Memory : Type} (serverId : Nat) (pseudonym : String)
    (session : Session Database Memory) :
    (authenticateWs serverId pseudonym session).1.isOk =
      readsActive serverId pseudonym session := by
  unfold authenticateWs readsActive
  cases first : faultAt session.faults 0 with
  | some text =>
      rw [bind_error (connect_faulty first)]
      rfl
  | none =>
      have next : faultAt session.faults.tail 0 = faultAt session.faults 1 := faultAt_tail _ _
      rw [bind_ok (connect_done first)]
      unfold getPlatformIdentity
      cases second : faultAt session.faults 1 with
      | some text =>
          rw [bind_error (mapErr_apply (query_faulty (next.trans second)))]
          rfl
      | none =>
          change _ = (true && true && Option.any _ (session.database.platformIdentities.rows.find?
            fun row => row.serverId = serverId && row.pseudonymId = pseudonym))
          cases found : session.database.platformIdentities.rows.find? fun row =>
              row.serverId = serverId && row.pseudonymId = pseudonym with
          | none =>
              rw [bind_error (mapErr_apply (query_refused (next.trans second) (by rw [found])))]
              rfl
          | some row =>
              cases role : roleFromStr row.participantType with
              | error error =>
                  rw [bind_error (mapErr_apply (query_refused (next.trans second)
                    (by rw [found]; dsimp only; rw [role])))]
                  simp [role, Except.isOk, Except.toBool]
              | ok roleCode =>
                  rw [bind_ok (mapErr_apply (query_done (next.trans second)
                    (by rw [found]; dsimp only; rw [role])))]
                  rw [Option.any_some, role]
                  dsimp only
                  rw [bind_apply, check_apply]
                  cases row.active <;> rfl

section Uses

variable {server : TokenServer}

/-- Whether an attempt with a generated token is accepted. -/
theorem accepted_of_generated
    (codec : ∀ bytes, server.packages.base64Decode (server.packages.base64Encode bytes) =
      some bytes) {generated : UnixSecs} {pseudonym : String} {attempt : WsAttempt}
    (token : attempt.params.token = some (generateWsToken server generated pseudonym)) :
    attempt.accepted server =
      (decide ('|' ∉ pseudonym.toList) && attempt.presents server generated pseudonym) := by
  have resolved : resolvePseudonym server attempt.now attempt.params =
      if '|' ∉ pseudonym.toList ∧ attempt.now.val ≤ generated.val + wsTokenTtlSecs then
        .ok pseudonym
      else .error .unauthorized := by
    unfold resolvePseudonym
    rw [token]
    exact verifyWsToken_generateWsToken codec generated attempt.now pseudonym
  unfold WsAttempt.accepted WsAttempt.presents wsHandler
  rw [resolved, token, decide_eq_true rfl, Bool.true_and]
  by_cases free : '|' ∉ pseudonym.toList
  · by_cases inTime : attempt.now.val ≤ generated.val + wsTokenTtlSecs
    · rw [if_pos ⟨free, inTime⟩, decide_eq_true free, decide_eq_true inTime]
      exact isOk_authenticateWs server.serverId pseudonym attempt.session
    · rw [if_neg fun both => inTime both.2, decide_eq_false inTime, Bool.false_and, Bool.and_false]
      rfl
  · rw [if_neg fun both => free both.1, decide_eq_false free, Bool.false_and]
    rfl

/-- The connections of a generated token are the attempts that present it in time. -/
theorem connections_generated
    (codec : ∀ bytes, server.packages.base64Decode (server.packages.base64Encode bytes) =
      some bytes) (generated : UnixSecs) (pseudonym : String) (events : List TokenEvent) :
    connections server (generateWsToken server generated pseudonym) events =
      if '|' ∈ pseudonym.toList then []
      else (attempts events).filter (·.presents server generated pseudonym) := by
  have same (attempt : WsAttempt) :
      (decide (attempt.params.token = some (generateWsToken server generated pseudonym)) &&
          attempt.accepted server) =
        (decide ('|' ∉ pseudonym.toList) && attempt.presents server generated pseudonym) := by
    by_cases token : attempt.params.token = some (generateWsToken server generated pseudonym)
    · rw [accepted_of_generated codec token, decide_eq_true token, Bool.true_and]
    · unfold WsAttempt.presents
      rw [decide_eq_false token, Bool.false_and, Bool.false_and, Bool.false_and, Bool.and_false]
  unfold connections
  split
  · next delimiter =>
    apply List.filter_eq_nil_iff.mpr
    intro attempt _
    rw [same, decide_eq_false (not_not_intro delimiter), Bool.false_and]
    exact Bool.false_ne_true
  · next free =>
    apply List.filter_congr
    intro attempt _
    rw [same, decide_eq_true free, Bool.true_and]

/-- Tokens are single-use exactly in the runs in which no generated token is presented twice in
time. -/
theorem singleUse_iff
    (codec : ∀ bytes, server.packages.base64Decode (server.packages.base64Encode bytes) =
      some bytes) (events : List TokenEvent) :
    SingleUse server events ↔
      ∀ generated pseudonym, .generate generated pseudonym ∈ events →
        '|' ∉ pseudonym.toList →
          ((attempts events).filter (·.presents server generated pseudonym)).length ≤ 1 := by
  constructor
  · intro single generated pseudonym member free
    have once := single generated pseudonym member
    rw [connections_generated codec, if_neg free] at once
    exact once
  · intro once generated pseudonym member
    rw [connections_generated codec]
    split
    · exact Nat.zero_le 1
    · next free => exact once generated pseudonym member free

end Uses

namespace Sample

/-- A codec that takes the text of one token to its real base64 text. -/
def tokenCodec : Equiv.Perm String :=
  Equiv.swap
    (Hex.encode (utf8 ("alice|1060|" ++
      "6796af30c5e39709ad06ad228aad36e163a225f68d867330861bf25829402d88")))
    ("YWxpY2V8MTA2MHw2Nzk2YWYzMGM1ZTM5NzA5YWQwNmFkMjI4YWFkMzZlMTYz" ++
      "YTIyNWY2OGQ4NjczMzA4NjFiZjI1ODI5NDAyZDg4")

def tokenSecret : List Byte :=
  (Hex.decode "29115edb47781a9e591b9c24f0ce8c576dd2361085e59a7af58295870d18934a").getD []

def tokenPackages : TokenPackages where
  hmac key payload :=
    if key = tokenSecret ∧ payload = utf8 "alice|1060" then
      (Hex.decode "6796af30c5e39709ad06ad228aad36e163a225f68d867330861bf25829402d88").getD []
    else []
  base64Encode bytes := tokenCodec (Hex.encode bytes)
  base64Decode text := Hex.decode (tokenCodec text)

def tokenServer : TokenServer where
  environment := .sample fun _ => tokenSecret
  packages := tokenPackages
  signingKey := List.replicate 32 0
  serverId := 1

theorem base64_tokenServer (bytes : List Byte) :
    tokenServer.packages.base64Decode (tokenServer.packages.base64Encode bytes) =
      some bytes := by
  change Hex.decode (tokenCodec (tokenCodec (Hex.encode bytes))) = some bytes
  unfold tokenCodec
  rw [Equiv.swap_apply_self, Hex.decode_encode]

def aliceDatabase : Database :=
  { migrated with
    platformIdentities := Table.empty.insert fun id =>
      ⟨id, 1, "alice", "HUMAN", true, true, true, true, false, true⟩ }

/-- An attempt with the token of second 1000. -/
def tokenAttempt (now : UnixSecs) : WsAttempt where
  now
  params := ⟨none, some (generateWsToken tokenServer 1000 "alice")⟩
  session := ⟨aliceDatabase, (), []⟩

theorem presents_tokenAttempt {now : UnixSecs} (inTime : now.val ≤ 1060) :
    (tokenAttempt now).presents tokenServer 1000 "alice" = true := by
  have active : readsActive 1 "alice" (⟨aliceDatabase, (), []⟩ : Session Database Unit) = true := by
    decide +kernel
  have token : (tokenAttempt now).params.token = some (generateWsToken tokenServer 1000 "alice") :=
    rfl
  have before : (tokenAttempt now).now.val ≤ (1000 : UnixSecs).val + wsTokenTtlSecs := inTime
  unfold WsAttempt.presents
  rw [decide_eq_true token, decide_eq_true before]
  exact active

theorem singleUse_once :
    SingleUse tokenServer [.generate 1000 "alice", .attempt (tokenAttempt 1001)] := by
  refine (singleUse_iff base64_tokenServer _).mpr ?_
  intro generated pseudonym _ _
  exact List.length_filter_le _ _

/-- The token is accepted twice in two seconds. -/
theorem not_singleUse :
    ¬ ∀ (server : TokenServer) (events : List TokenEvent),
      (∀ bytes, server.packages.base64Decode (server.packages.base64Encode bytes) = some bytes) →
        SingleUse server events := by
  intro single
  have once := single tokenServer
    [.generate 1000 "alice", .attempt (tokenAttempt 1001), .attempt (tokenAttempt 1002)]
    base64_tokenServer 1000 "alice" List.mem_cons_self
  rw [connections_generated base64_tokenServer, if_neg (by decide)] at once
  change ([tokenAttempt 1001, tokenAttempt 1002].filter
    (·.presents tokenServer 1000 "alice")).length ≤ 1 at once
  rw [List.filter_cons_of_pos (presents_tokenAttempt (by decide)),
    List.filter_cons_of_pos (presents_tokenAttempt (by decide))] at once
  exact absurd once (by decide)

end Sample

/-! Which texts verify as session tokens, and as whose. -/

/-- The parts of a token that carries the server's signature. -/
structure SignedToken (server : TokenServer) (token : String) where
  pseudonym : String
  expiresStr : String
  sigHex : String
  expires : Nat
  decoded : (server.packages.base64Decode token).bind fromUtf8 =
    some (tokenPayload pseudonym expiresStr ++ "|" ++ sigHex)
  pseudonymFree : '|' ∉ pseudonym.toList
  expiresFree : '|' ∉ expiresStr.toList
  signed : Hex.decode sigHex = some (signToken server (tokenPayload pseudonym expiresStr))
  expiry : parseU64 expiresStr = some expires

section Splitting

theorem splitOnce_eq_some_iff {text front back : List Char} :
    splitOnce text = some (front, back) ↔ '|' ∉ front ∧ text = front ++ '|' :: back := by
  constructor
  · intro split
    induction text generalizing front with
    | nil => cases split
    | cons character rest induction =>
        rw [splitOnce] at split
        split at split
        · next delimiter =>
          cases split
          exact ⟨List.not_mem_nil, by rw [delimiter]; rfl⟩
        · next other =>
          rcases Option.map_eq_some_iff.mp split with ⟨parts, isParts, same⟩
          cases same
          have later := induction isParts
          constructor
          · rw [List.mem_cons, not_or]
            exact ⟨Ne.symm other, later.1⟩
          · rw [List.cons_append, ← later.2]
  · intro joined
    rw [joined.2]
    exact splitOnce_append joined.1 back

/-- The three parts of a text, of which only the last may have the delimiter. -/
theorem splitToken_eq_some_iff {text pseudonym expires sigHex : String} :
    splitToken text = some (pseudonym, expires, sigHex) ↔
      '|' ∉ pseudonym.toList ∧ '|' ∉ expires.toList ∧
        text = tokenPayload pseudonym expires ++ "|" ++ sigHex := by
  constructor
  · intro split
    unfold splitToken at split
    rcases Option.bind_eq_some_iff.mp split with ⟨⟨front, rest⟩, first, split⟩
    rcases Option.bind_eq_some_iff.mp split with ⟨⟨middle, last⟩, second, split⟩
    cases split
    have outer := splitOnce_eq_some_iff.mp first
    have inner := splitOnce_eq_some_iff.mp second
    simp only [String.toList_ofList]
    refine ⟨outer.1, inner.1, ?_⟩
    apply String.toList_inj.mp
    rw [outer.2, inner.2]
    simp [tokenPayload, String.toList_append]
  · intro joined
    rw [joined.2.2]
    exact splitToken_of_free joined.1 joined.2.1 sigHex

/-- A payload whose parts are free of the delimiter is no other payload. -/
theorem tokenPayload_injective {pseudonym expires other otherExpires : String}
    (free : '|' ∉ pseudonym.toList) (expiresFree : '|' ∉ expires.toList)
    (otherFree : '|' ∉ otherExpires.toList)
    (same : tokenPayload pseudonym expires = tokenPayload other otherExpires) :
    pseudonym = other ∧ expires = otherExpires := by
  have characters : pseudonym.toList ++ '|' :: expires.toList =
      other.toList ++ '|' :: otherExpires.toList := by
    have lists := congrArg String.toList same
    simpa [tokenPayload, String.toList_append] using lists
  have counts := congrArg (List.count '|') characters
  rw [List.count_append, List.count_append, List.count_cons_self, List.count_cons_self,
    List.count_eq_zero.mpr free, List.count_eq_zero.mpr expiresFree,
    List.count_eq_zero.mpr otherFree] at counts
  have otherNameFree : '|' ∉ other.toList := List.count_eq_zero.mp (by omega)
  have split := splitOnce_append free expires.toList
  rw [characters, splitOnce_append otherNameFree] at split
  simp only [Option.some.injEq, Prod.mk.injEq] at split
  exact ⟨String.toList_inj.mp split.1.symm, String.toList_inj.mp split.2.symm⟩

end Splitting

section Soundness

variable {server : TokenServer} {now : UnixSecs} {token pseudonym : String}

theorem verifyTokenText_eq_some_iff {tokenStr : String} :
    verifyTokenText server now tokenStr = some pseudonym ↔
      ∃ expiresStr sigHex expires,
        splitToken tokenStr = some (pseudonym, expiresStr, sigHex) ∧
        Hex.decode sigHex = some (signToken server (tokenPayload pseudonym expiresStr)) ∧
        parseU64 expiresStr = some expires ∧ now.val ≤ expires := by
  constructor
  · intro verified
    unfold verifyTokenText at verified
    rcases Option.bind_eq_some_iff.mp verified with ⟨⟨name, expiresStr, sigHex⟩, split, verified⟩
    rcases Option.bind_eq_some_iff.mp verified with ⟨providedSig, decoded, verified⟩
    split at verified
    · cases verified
    · next equal =>
      rcases Option.bind_eq_some_iff.mp verified with ⟨expires, parsed, verified⟩
      split at verified
      · cases verified
      · next inTime =>
        cases verified
        rw [not_not] at equal
        rw [← equal] at decoded
        exact ⟨expiresStr, sigHex, expires, split, decoded, parsed, Nat.not_lt.mp inTime⟩
  · intro parts
    rcases parts with ⟨expiresStr, sigHex, expires, split, signed, parsed, inTime⟩
    unfold verifyTokenText
    rw [split, Option.bind_eq_bind, Option.bind_some]
    dsimp only
    rw [signed, Option.bind_eq_bind, Option.bind_some, if_neg (not_not_intro rfl), parsed,
      Option.bind_eq_bind, Option.bind_some, if_neg (Nat.not_lt.mpr inTime)]

/-- A text verifies as a pseudonym where it carries the server's signature of that pseudonym and
an expiry that is not past. -/
theorem verifyWsToken_eq_ok_iff :
    verifyWsToken server now token = .ok pseudonym ↔
      ∃ parts : SignedToken server token,
        parts.pseudonym = pseudonym ∧ now.val ≤ parts.expires := by
  constructor
  · intro verified
    unfold verifyWsToken at verified
    split at verified
    · cases verified
    · next tokenStr decoded =>
      split at verified
      · cases verified
      · next name isName =>
        cases verified
        rcases verifyTokenText_eq_some_iff.mp isName with
          ⟨expiresStr, sigHex, expires, split, signed, parsed, inTime⟩
        have joined := splitToken_eq_some_iff.mp split
        rw [joined.2.2] at decoded
        exact ⟨⟨pseudonym, expiresStr, sigHex, expires, decoded, joined.1, joined.2.1, signed,
          parsed⟩, rfl, inTime⟩
  · intro carried
    rcases carried with ⟨parts, same, inTime⟩
    have split := splitToken_of_free parts.pseudonymFree parts.expiresFree parts.sigHex
    have verified := verifyTokenText_eq_some_iff.mpr
      ⟨parts.expiresStr, parts.sigHex, parts.expires, split, parts.signed, parts.expiry, inTime⟩
    unfold verifyWsToken
    rw [parts.decoded]
    dsimp only
    rw [verified, same]

/-- A signature that was issued for a pseudonym and a time is of no use for any other. -/
theorem SignedToken.eq_of_issued (injective : Function.Injective (signToken server))
    (parts : SignedToken server token) {issuedTo : String} {generated : UnixSecs}
    (issued : Hex.decode parts.sigHex =
      some (signToken server (tokenPayload issuedTo (toString (generated.val + wsTokenTtlSecs))))) :
    parts.pseudonym = issuedTo ∧ parts.expires = generated.val + wsTokenTtlSecs := by
  have sameMac := parts.signed.symm.trans issued
  have samePayload := injective (Option.some.inj sameMac)
  have same := tokenPayload_injective parts.pseudonymFree parts.expiresFree
    (delimiter_notMem_toString (generated.val + wsTokenTtlSecs)) samePayload
  have expiry := parts.expiry
  rw [same.2, parseU64_toString (expires_lt generated)] at expiry
  exact ⟨same.1, (Option.some.inj expiry).symm⟩

end Soundness

/-- A generated token verifies as its pseudonym up to its expiry. A text that verifies carries
the server's signature of the pseudonym it verifies as, and of an expiry that is not past; where
the signature was issued, it was for that pseudonym and expiry. -/
theorem verifyWsToken_sound_complete (server : TokenServer)
    (codec : ∀ bytes, server.packages.base64Decode (server.packages.base64Encode bytes) =
      some bytes)
    (injective : Function.Injective (signToken server)) :
    (∀ (generated now : UnixSecs) (pseudonym : String), '|' ∉ pseudonym.toList →
      verifyWsToken server now (generateWsToken server generated pseudonym) =
        if now.val ≤ generated.val + wsTokenTtlSecs then .ok pseudonym
        else .error .unauthorized) ∧
    (∀ (token : String) (now : UnixSecs) (pseudonym : String),
      verifyWsToken server now token = .ok pseudonym ↔
        ∃ parts : SignedToken server token,
          parts.pseudonym = pseudonym ∧ now.val ≤ parts.expires) ∧
    (∀ (token : String) (parts : SignedToken server token) (issuedTo : String)
      (generated : UnixSecs),
      Hex.decode parts.sigHex = some (signToken server
          (tokenPayload issuedTo (toString (generated.val + wsTokenTtlSecs)))) →
        parts.pseudonym = issuedTo ∧ parts.expires = generated.val + wsTokenTtlSecs) ∧
    ∀ (generated now : UnixSecs) (pseudonym other : String),
      verifyWsToken server now (generateWsToken server generated pseudonym) = .ok other →
        other = pseudonym := by
  refine ⟨?complete, ?sound, ?issued, ?same⟩
  case complete =>
    intro generated now pseudonym free
    rw [verifyWsToken_generateWsToken codec]
    simp only [free, not_false_eq_true, true_and]
  case sound =>
    intro token now pseudonym
    exact verifyWsToken_eq_ok_iff
  case issued =>
    intro token parts issuedTo generated issued
    exact parts.eq_of_issued injective issued
  case same =>
    intro generated now pseudonym other verified
    rw [verifyWsToken_generateWsToken codec] at verified
    split at verified
    · cases verified
      rfl
    · cases verified

namespace Sample

/-- Signatures that tell the payloads apart, with the real one of the token below. -/
def tellingServer : TokenServer :=
  { tokenServer with
    packages := { tokenPackages with
      hmac := fun _ payload => Equiv.swap (utf8 "alice|1060")
        ((Hex.decode "6796af30c5e39709ad06ad228aad36e163a225f68d867330861bf25829402d88").getD [])
        payload } }

theorem signToken_tellingServer_injective : Function.Injective (signToken tellingServer) := by
  intro payload other same
  have sameBytes : utf8 payload = utf8 other := (Equiv.swap _ _).injective same
  have sameText := congrArg fromUtf8 sameBytes
  rw [fromUtf8_utf8, fromUtf8_utf8] at sameText
  exact Option.some.inj sameText

/-- The token of second 1000 is good up to second 1060. -/
theorem verifyWsToken_alice :
    verifyWsToken tellingServer 1060 (generateWsToken tellingServer 1000 "alice") = .ok "alice" ∧
    verifyWsToken tellingServer 1061 (generateWsToken tellingServer 1000 "alice") =
      .error .unauthorized := by
  have complete := (verifyWsToken_sound_complete tellingServer base64_tokenServer
    signToken_tellingServer_injective).1
  have free : '|' ∉ "alice".toList := by decide
  exact ⟨complete 1000 1060 "alice" free, complete 1000 1061 "alice" free⟩

end Sample

end Annex.Server
