import Annex.Channels.Store
import Annex.Identity.Proof
import Annex.Identity.Pseudonym
import Annex.Server.State

namespace Annex.Server

open Channels Db Identity Sql

/-! Reading a channel: its messages, and the edits of a message. -/

/-- The status codes the handlers answer a failure with. -/
inductive StatusCode where
  | unauthorized
  | forbidden
  | notFound
  | internalServerError
deriving DecidableEq, Repr

/-- A handler that answers a failure with its status alone. -/
abbrev StatusHandler := Sql Database (List Outbound) StatusCode

/-- The payload of the `x-annex-zk-proof` header. -/
structure ZkProofPayload where
  proof : JsonText SnarkJsProof
  rootHex : String
  commitmentHex : String
deriving DecidableEq, Repr

/-- What the channel handlers run with; `rootHex` is the root of the tree in memory. -/
structure ChannelServer (Fq Key : Type) where
  environment : Environment
  curve : Curve Fq Key
  membershipVkey : Key
  serverId : Nat
  enforceZkProofs : Bool
  rootHex : String

/-- Whether a row of before the lookup columns derives the pseudonym. -/
def derivesPseudonym (environment : Environment) (pseudonym : String) (row : ZkNullifier) :
    Bool :=
  match derivePseudonymId environment row.topic row.nullifierHex with
  | .ok derived => derived = pseudonym
  | .error _ => false

/-- Whether a commitment has the nullifier of a row. -/
def derivesNullifier (environment : Environment) (row : ZkNullifier)
    (commitmentHex : String) : Bool :=
  match deriveNullifierHex environment commitmentHex row.topic with
  | .ok derived => derived = row.nullifierHex
  | .error _ => false

/-- The commitment and topic of a pseudonym, by the lookup columns or, for rows without
them, by deriving the pseudonyms of all rows and the nullifiers of all identities. -/
def findCommitmentForPseudonym {Memory : Type} (environment : Environment)
    (pseudonym : String) : Sql Database Memory DbError (Option (String × String)) := do
  let fast ← query id fun database =>
    .ok (database.zkNullifiers.rows.findSome? fun row =>
      if row.pseudonymId = some pseudonym then
        row.commitmentHex.map fun commitment => (commitment, row.topic)
      else none)
  match fast with
  | some found => pure (some found)
  | none => do
      let candidates ← query id fun database =>
        .ok (database.zkNullifiers.rows.filter fun row =>
          row.pseudonymId = none && derivesPseudonym environment pseudonym row)
      if candidates = [] then
        pure none
      else do
        let commitments ← query id fun database =>
          .ok (database.vrpIdentities.rows.map VrpIdentity.commitmentHex)
        pure (candidates.findSome? fun row =>
          (commitments.find? (derivesNullifier environment row)).map fun commitment =>
            (commitment, row.topic))

section Handlers

variable {Fq Key : Type} (server : ChannelServer Fq Key)

def internal {Error : Type} (_ : Error) : StatusCode := .internalServerError

def lookupCommitment (pseudonymId : String) : StatusHandler (Option String) := do
  connect internal
  let found ← mapErr internal (findCommitmentForPseudonym server.environment pseudonymId)
  pure (found.map Prod.fst)

/-- The proof of the header, if proofs are enforced: of the expected commitment where
there is one, valid, and under the current root. A header that is not base64 of a
payload does not decode. -/
def verifyZkMembershipHeader (header : Option (JsonText ZkProofPayload))
    (expectedCommitmentHex : Option String) : Except StatusCode Unit :=
  if server.enforceZkProofs = false then
    .ok ()
  else
    match header.bind JsonText.decode with
    | none => .error .forbidden
    | some payload =>
        if expectedCommitmentHex.any (· ≠ payload.commitmentHex) then
          .error .forbidden
        else
          match parseProof server.curve server.environment payload.proof,
              parseFrFromHex payload.rootHex, parseFrFromHex payload.commitmentHex with
          | .ok proof, .ok root, .ok commitment =>
              match verifyProof server.curve server.membershipVkey proof
                  [root, commitment] with
              | .ok true =>
                  if server.rootHex = payload.rootHex then .ok () else .error .forbidden
              | _ => .error .forbidden
          | _, _, _ => .error .forbidden

/-- Both handlers go on for members of the channel of the path only. -/
def requireMember (channelId pseudonymId : String) : StatusHandler Unit := do
  connect internal
  let isMember ← mapErr internal (isMember server.serverId channelId pseudonymId)
  check (isMember = true) .forbidden

/-- `GET /api/channels/:channelId/messages`. -/
def getChannelHistoryHandler (pseudonymId channelId : String)
    (header : Option (JsonText ZkProofPayload)) (before : Option String)
    (limit : Option Nat) : StatusHandler (List Message) := do
  let commitment ← lookupCommitment server pseudonymId
  ofExcept (verifyZkMembershipHeader server header commitment)
  requireMember server channelId pseudonymId
  connect internal
  mapErr internal (listMessages server.serverId channelId before (limit.map (min · 200)))

/-- `GET /api/channels/:channelId/messages/:messageId/edits`. -/
def getMessageEditsHandler (pseudonymId channelId messageId : String) :
    StatusHandler (List MessageEdit) := do
  requireMember server channelId pseudonymId
  connect internal
  mapErr internal (getEditHistory messageId)

end Handlers

end Annex.Server
