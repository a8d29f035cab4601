import Annex.Client.Shamir
import Annex.Server.EventHandlers

namespace Annex.Client

open Identity Server

/-! A client registers its identity with a server. An attempt works on the identity store, on
IndexedDB and on the server, and how it goes is decided at every await. -/

/-- An identity as IndexedDB holds it. -/
structure StoredIdentity where
  id : String
  sk : String
  roleCode : Nat
  nodeId : Nat
  commitmentHex : String
  pseudonymId : Option String
  serverSlug : String
  leafIndex : Option Nat
  createdAt : String
deriving DecidableEq, Repr

inductive IdentityPhase where
  | uninitialized
  | generating
  | keysReady
  | registering
  | proving
  | verifying
  | ready
  | error
deriving DecidableEq, Repr

inductive ProvingStatus where
  | idle
  | loadingAssets
  | computingWitness
  | generatingProof
deriving DecidableEq, Repr

/-- The identity store, as far as a registration writes it. -/
structure IdentityState where
  phase : IdentityPhase
  identity : Option StoredIdentity
  error : Option String
  errorDetails : Option String
  storedIdentities : List StoredIdentity
  proofInFlight : Bool
  provingStatus : ProvingStatus
deriving DecidableEq, Repr

/-- What an await can throw. -/
inductive Thrown where
  | error (name message : String)
  | apiError (status : Nat) (message : String)
  | zkProofAssetsError (message : String)
  | zkProofTimeoutError (message : String)
  | zkProofInFlightError (message : String)
  | zkProofCancelledError (message : String)
deriving DecidableEq, Repr

namespace Thrown

def name : Thrown → String
  | .error name _ => name
  | .apiError _ _ => "ApiError"
  | .zkProofAssetsError _ => "ZkProofAssetsError"
  | .zkProofTimeoutError _ => "ZkProofTimeoutError"
  | .zkProofInFlightError _ => "ZkProofInFlightError"
  | .zkProofCancelledError _ => "ZkProofCancelledError"

def message : Thrown → String
  | .error _ message
  | .apiError _ message
  | .zkProofAssetsError message
  | .zkProofTimeoutError message
  | .zkProofInFlightError message
  | .zkProofCancelledError message => message

/-- What the user is told of an error. -/
def userError : Thrown → String
  | .zkProofAssetsError _ => "Proof assets missing. Please restart and try again."
  | .zkProofTimeoutError _ =>
      "Proof generation timed out. Please retry (the first proof can take longer on slow hardware)."
  | .zkProofInFlightError _ => "proof still running."
  | .zkProofCancelledError _ => "Proof generation was cancelled. Please retry."
  | thrown => thrown.message

def details (thrown : Thrown) : String :=
  thrown.name ++ ": " ++ thrown.message

end Thrown

/-- The commitment of the keys in hexadecimal, filled up to 64 digits. -/
def computeCommitment (poseidon3 : Fr → Fr → Fr → Fr) (sk roleCode nodeId : Nat) : String :=
  let val := Nat.toDigits 16 (poseidon3 sk roleCode nodeId).val
  String.ofList (List.replicate (64 - val.length) '0' ++ val)

/-- The input of `generateMembershipProof`. -/
structure MembershipProofInput where
  sk : Nat
  roleCode : Nat
  nodeId : Nat
  leafIndex : Nat
  pathElements : List String
  pathIndexBits : List Nat
deriving DecidableEq, Repr

/-- The input of the circuit: decimal texts, and hexadecimal ones with their mark. -/
structure CircuitInput where
  sk : String
  roleCode : String
  nodeId : String
  leafIndex : String
  pathElements : List String
  pathIndexBits : List String
deriving DecidableEq, Repr

def circuitInput (input : MembershipProofInput) : CircuitInput where
  sk := toString input.sk
  roleCode := toString input.roleCode
  nodeId := toString input.nodeId
  leafIndex := toString input.leafIndex
  pathElements := input.pathElements.map fun s => "0x" ++ s
  pathIndexBits := input.pathIndexBits.map toString

structure MembershipProofOutput where
  proof : JsonText SnarkJsProof
  publicSignals : List String
deriving DecidableEq, Repr

/-- What a registration runs with: the server, the body its errors are sent with, and the
prover of the circuit, whose first argument is what it draws at random. -/
structure Setting (Fq Key : Type) where
  server : EventServer Fq Key
  errorBody : String → String
  fullProve : Nat → CircuitInput → MembershipProofOutput

/-- The status and the message of an error response. -/
def response : ApiError → Nat × String
  | .badRequest msg => (400, msg)
  | .unauthorized msg => (401, msg)
  | .forbidden msg => (403, msg)
  | .notFound msg => (404, msg)
  | .conflict msg => (409, msg)
  | .internalServerError msg => (500, msg)

/-- Where an attempt takes place. -/
structure Place where
  store : IdentityState
  saved : List StoredIdentity
  server : Task.World ServerDatabase Live

/-- How a request goes: it is lost on its way, the server acts on it and its answer is lost,
or the answer arrives. Of the server's statements some may fail. -/
inductive Fate where
  | lost (thrown : Thrown)
  | unanswered (context : EventContext) (faults : List (Option String)) (thrown : Thrown)
  | answered (context : EventContext) (faults : List (Option String))

/-- How an attempt goes. Of a save and of the listing it says whether they throw. -/
structure Course where
  slugSave : Option Thrown
  registration : Fate
  leafIndexSave : Option Thrown
  stages : List ProvingStatus
  proof : Except Thrown Nat
  verification : Fate
  pseudonymSave : Option Thrown
  listing : Option Thrown
  proofInFlight : Bool

/-- A part of an attempt. What it changed before it threw stays changed. -/
abbrev Flow := EStateM Thrown Place

def setStore (change : IdentityState → IdentityState) : Flow Unit :=
  modify fun place => { place with store := change place.store }

/-- Go on unless the await throws. -/
def settled (outcome : Option Thrown) : Flow Unit :=
  match outcome with
  | none => pure ()
  | some thrown => throw thrown

/-- `BigInt('0x' + text)`. -/
def bigInt (text : String) : Flow Nat :=
  match readKey text with
  | some value => pure value
  | none => throw (.error "SyntaxError" ("Cannot convert 0x" ++ text ++ " to a BigInt"))

/-- `put` into the object store, which is ordered by its keys. -/
def put (identity : StoredIdentity) (saved : List StoredIdentity) : List StoredIdentity :=
  saved.filter (·.id < identity.id) ++ identity :: saved.filter (identity.id < ·.id)

def saveIdentity (identity : StoredIdentity) (outcome : Option Thrown) : Flow Unit := do
  settled outcome
  modify fun place => { place with saved := put identity place.saved }

def listIdentities (outcome : Option Thrown) : Flow (List StoredIdentity) := do
  settled outcome
  let place ← get
  pure place.saved

/-- `annex:server:<slug>:v1`. -/
def vrpTopic (serverSlug : String) : String :=
  "annex:server:" ++ serverSlug ++ ":v1"

section Attempt

variable {Fq Key : Type} (setting : Setting Fq Key)

/-- The server acts on a request. -/
def serve {α : Type} (task : EventTask ApiError α) (context : EventContext)
    (faults : List (Option String)) : Flow (Except ApiError α) := fun place =>
  let (result, after) := task.alone (EventCommand.run setting.server) context
    ⟨place.server.database, place.server.memory, faults⟩
  .ok result { place with server := ⟨after.database, after.memory⟩ }

def request {α : Type} (fate : Fate) (task : EventTask ApiError α) : Flow α :=
  match fate with
  | .lost thrown => throw thrown
  | .unanswered context faults thrown => do
      let _ ← serve setting task context faults
      throw thrown
  | .answered context faults => do
      match ← serve setting task context faults with
      | .ok value => pure value
      | .error error =>
          throw (.apiError (response error).1 (setting.errorBody (response error).2))

/-- Every stage the worker reports is shown. -/
def generateMembershipProof (input : MembershipProofInput) (stages : List ProvingStatus)
    (outcome : Except Thrown Nat) : Flow MembershipProofOutput := do
  setStore fun store => stages.foldl (fun store provingStatus => { store with provingStatus }) store
  match outcome with
  | .ok random => pure (setting.fullProve random (circuitInput input))
  | .error thrown => throw thrown

/-- The attempt with the keys of an identity. -/
def register (serverSlug : String) (course : Course) (identity : StoredIdentity) :
    Flow Unit := do
  let sk ← bigInt identity.sk
  -- The store holds this identity until it is given a copy.
  let identity := { identity with serverSlug }
  setStore fun store => { store with identity := some identity }
  saveIdentity identity course.slugSave
  setStore fun store => { store with identity := some identity }
  setStore fun store =>
    { store with
      phase := .registering
      error := none
      errorDetails := none
      proofInFlight := false
      provingStatus := .idle }
  let reg ← request setting course.registration (registerHandler setting.server
    { commitmentHex := identity.commitmentHex
      roleCode := identity.roleCode
      nodeId := identity.nodeId })
  let identity := { identity with leafIndex := some reg.leafIndex }
  saveIdentity identity course.leafIndexSave
  setStore fun store =>
    { store with
      phase := .proving
      proofInFlight := true
      provingStatus := .loadingAssets
      error := none
      errorDetails := none }
  let output ← generateMembershipProof setting
    { sk
      roleCode := identity.roleCode
      nodeId := identity.nodeId
      leafIndex := reg.leafIndex
      pathElements := reg.pathElements
      pathIndexBits := reg.pathIndices } course.stages course.proof
  setStore fun store =>
    { store with
      phase := .verifying
      error := none
      errorDetails := none
      provingStatus := .idle }
  let pseudonymId ← request setting course.verification (verifyMembership setting.server
    { root := reg.rootHex
      commitment := identity.commitmentHex
      topic := vrpTopic serverSlug
      proof := output.proof
      publicSignals := output.publicSignals })
  let identity := { identity with pseudonymId := some pseudonymId }
  saveIdentity identity course.pseudonymSave
  let identities ← listIdentities course.listing
  setStore fun store =>
    { store with
      phase := .ready
      proofInFlight := false
      provingStatus := .idle
      identity := some identity
      storedIdentities := identities
      error := none
      errorDetails := none }

/-- What an attempt without keys leaves behind. -/
def Place.abort (place : Place) : Place :=
  { place with
    store :=
      { place.store with
        phase := .error
        error := some "No identity keys found"
        errorDetails := some "registerWithServer aborted: missing local key material." } }

/-- What an attempt that threw leaves behind. -/
def Place.fail (place : Place) (thrown : Thrown) (proofInFlight : Bool) : Place :=
  { place with
    store :=
      { place.store with
        phase := .error
        proofInFlight
        provingStatus := .idle
        error := some thrown.userError
        errorDetails := some thrown.details } }

/-- An attempt. A proof that still runs for an earlier one is cancelled first, so that none
does when attempts follow each other. -/
def registerWithServer (serverSlug : String) (course : Course) (place : Place) : Place :=
  match place.store.identity with
  | none => place.abort
  | some identity =>
      if identity.sk = "" ∨ identity.commitmentHex = "" then place.abort
      else
        match register setting serverSlug course identity place with
        | .ok _ after => after
        | .error thrown after => after.fail thrown course.proofInFlight

end Attempt

end Annex.Client
