import Annex.Foundation.Execution
import Annex.Server.VerifyMembership

namespace Annex.Server

open Db Identity Observe Sql

/-! The trace a membership verification leaves. The event that a proof was verified is
logged before the transaction and apart from it. -/

variable {Fq Key : Type} (environment : Environment) (curve : Curve Fq Key)
  (membershipVkey : Key) (now : String) (stateServerId : Nat)

/-- Steps 5 to 11 of a verification, after its proof has been verified and logged. -/
def issuePseudonym (payload : VerifyMembershipRequest) : Handler String := do
  let nullifierHex ← orElse
    (deriveNullifierHex environment payload.commitment payload.topic) fun error =>
      .badRequest ("failed to derive nullifier: " ++ error.text)
  let pseudonymId ← orElse (derivePseudonymId environment payload.topic nullifierHex)
    fun error => .internalServerError ("failed to derive pseudonym: " ++ error.text)
  let roleCode ← lookupRole payload.commitment
  let serverId ← lookupServerId
  let metadataJson ← agentMetadata serverId pseudonymId roleCode
  transaction startFailed commitFailed
    (recordPseudonym now stateServerId serverId payload nullifierHex pseudonymId roleCode
      metadataJson)
  send (.presence (.nodeUpdated pseudonymId true))
  pure pseudonymId

theorem verifyMembershipHandler_eq (payload : VerifyMembershipRequest) :
    verifyMembershipHandler environment curve membershipVkey now stateServerId payload = (do
      connect dbConnectionFailed
      checkMembershipProof environment curve membershipVkey payload
      emitAndBroadcast now stateServerId payload.commitment
        (.identityVerified payload.commitment payload.topic)
      issuePseudonym environment now stateServerId payload) :=
  rfl

/-- The log says that the proof of a commitment was verified for a topic. -/
def isVerified (commitment topic : String) (event : PublicEvent) : Bool :=
  event.eventType = "IDENTITY_VERIFIED" &&
    event.payloadJson = .identityVerified commitment topic

def verifiedEvents (commitment topic : String) (database : Database) : Nat :=
  database.publicEventLog.rows.countP (isVerified commitment topic)

/-- The database once the proof of a request is logged as verified. -/
def verificationLogged (payload : VerifyMembershipRequest) (database : Database) : Database :=
  { database with
    publicEventLog := (logged now stateServerId payload.commitment
      (.identityVerified payload.commitment payload.topic) database.publicEventLog).2 }

section Steps

variable {environment curve membershipVkey now stateServerId}
  {payload : VerifyMembershipRequest} {database : Database} {sent : List Outbound}

theorem verifiedEvents_logged {commitment topic entityId : String} {serverId : Nat}
    {event : EventPayload} :
    verifiedEvents commitment topic
        { database with
          publicEventLog := (logged now serverId entityId event database.publicEventLog).2 } =
      verifiedEvents commitment topic database +
        if event = .identityVerified commitment topic then 1 else 0 := by
  unfold verifiedEvents logged insertEvent
  rw [Table.rows_insert, List.countP_append, List.countP_singleton]
  congr 1
  by_cases same : event = .identityVerified commitment topic
  · subst same
    simp [isVerified, EventPayload.eventType]
  · simp [isVerified, same]

/-- Other events are not about verified proofs. -/
theorem emitAndBroadcast_keeps_verifiedEvents {Error : Type} {commitment topic entityId : String}
    {serverId : Nat} {event : EventPayload}
    (other : event ≠ .identityVerified commitment topic) :
    Keeps (verifiedEvents commitment topic)
      (emitAndBroadcast now serverId entityId event :
        Sql Database (List Outbound) Error Unit) := by
  intro count session held
  cases faulty : faultAt session.faults 0 with
  | some text =>
      rw [emitAndBroadcast_faulty faulty]
      exact held
  | none =>
      rw [emitAndBroadcast_done faulty, verifiedEvents_logged, if_neg other]
      exact held

/-- The proof is checked with one statement. -/
theorem faults_checkMembershipProof (session : Session Database (List Outbound)) :
    (checkMembershipProof environment curve membershipVkey payload session).2.faults =
      session.faults.tail := by
  unfold checkMembershipProof
  apply faults_bind_query
  intro count
  refine computes_bind (computes_check _ _) fun _ => ?_
  refine computes_bind (computes_orElse _ _) fun proof => ?_
  refine computes_bind (computes_orElse _ _) fun publicSignals => ?_
  refine computes_bind (computes_orElse _ _) fun valid => ?_
  refine computes_bind (computes_check _ _) fun _ => ?_
  refine computes_bind (computes_check _ _) fun _ => ?_
  refine computes_bind (computes_orElse _ _) fun claimedRoot => ?_
  refine computes_bind (computes_orElse _ _) fun claimedCommitment => ?_
  exact computes_bind (computes_check _ _) fun _ => computes_check _ _

/-- An error after the proof was logged puts back what came after it. -/
theorem issuePseudonym_ensures :
    Ensures (issuePseudonym environment now stateServerId payload) database sent
      fun result changed _ => ∀ error, result = .error error → changed = database := by
  have refused : ∀ error : ApiError, ∀ other,
      (Except.error error : Except ApiError String) = .error other → database = database :=
    fun _ _ _ => rfl
  refine (looks_orElse _ _).ensures_bind refused fun nullifierHex _ => ?_
  refine (looks_orElse _ _).ensures_bind refused fun pseudonymId _ => ?_
  refine (looks_lookupRole _).ensures_bind refused fun role _ => ?_
  refine looks_lookupServerId.ensures_bind refused fun serverId _ => ?_
  refine (looks_agentMetadata _ _ _).ensures_bind refused fun metadata _ => ?_
  refine ensures_bind (ensures_transaction (fun text => refused _) fun faults => ?_)
  cases (recordPseudonym now stateServerId serverId payload nullifierHex pseudonymId role
      metadata ⟨database, sent, faults⟩).1 with
  | error error => exact refused error
  | ok done =>
      refine ⟨?_, fun text => refused _⟩
      rw [andThen_ok]
      refine ensures_bind ((ensures_send _).mpr ?_)
      rw [andThen_ok, ensures_pure]
      exact fun _ failed => nomatch failed

theorem issuePseudonym_keeps_verifiedEvents {commitment topic : String} :
    Keeps (verifiedEvents commitment topic)
      (issuePseudonym environment now stateServerId payload) := by
  refine keeps_bind (reads_orElse _ _).keeps fun nullifierHex => ?_
  refine keeps_bind (reads_orElse _ _).keeps fun pseudonymId => ?_
  refine keeps_bind (looks_lookupRole _).reads.keeps fun role => ?_
  refine keeps_bind looks_lookupServerId.reads.keeps fun serverId => ?_
  refine keeps_bind (looks_agentMetadata _ _ _).reads.keeps fun metadata => ?_
  refine keeps_bind (keeps_transaction ?_) fun _ =>
    keeps_bind (keeps_send _) fun _ => (reads_pure _).keeps
  apply recordPseudonym_keeps
  · exact fun _ _ => rfl
  · exact emitAndBroadcast_keeps_verifiedEvents (fun same => nomatch same)
  · exact emitAndBroadcast_keeps_verifiedEvents (fun same => nomatch same)
  · exact fun _ _ => rfl
  · exact fun _ _ => rfl

end Steps

/-- A request to the handler, with the time it runs at and the statements of it that fail. -/
structure VerifyRequest where
  payload : VerifyMembershipRequest
  now : String
  faults : List (Option String)

/-- A request that is refused leaves the database as it was, or with the event that its proof
was verified. One that is accepted logs this event once, if the statement for it, the third
of the request, does not fail. -/
structure Traced (request : VerifyRequest) (database : Database)
    (result : Except ApiError String) (changed : Database) : Prop where
  refused : ∀ error, result = .error error → changed = database ∨
    MembershipProven environment curve membershipVkey request.payload database ∧
      changed = verificationLogged request.now stateServerId request.payload database
  accepted : ∀ pseudonymId, result = .ok pseudonymId →
    verifiedEvents request.payload.commitment request.payload.topic changed =
      verifiedEvents request.payload.commitment request.payload.topic database +
        if faultAt request.faults 2 = none then 1 else 0

/-- What the handler makes of a request. -/
def verify (request : VerifyRequest) (database : Database) :
    Except ApiError String × Session Database (List Outbound) :=
  verifyMembershipHandler environment curve membershipVkey request.now stateServerId
    request.payload ⟨database, [], request.faults⟩

section Request

variable {environment curve membershipVkey stateServerId}
  {request : VerifyRequest} {database : Database}

theorem traced_of_unchanged {error : ApiError} :
    Traced environment curve membershipVkey stateServerId request database (.error error)
      database where
  refused _ _ := Or.inl rfl
  accepted _ failed := nomatch failed

/-- The trace of a request, from what its emission has left. -/
theorem traced_of_issuePseudonym {session : Session Database (List Outbound)}
    (proven : MembershipProven environment curve membershipVkey request.payload database)
    (emitted : session.database =
      if faultAt request.faults 2 = none then
        verificationLogged request.now stateServerId request.payload database
      else database) :
    Traced environment curve membershipVkey stateServerId request database
      (issuePseudonym environment request.now stateServerId request.payload session).1
      (issuePseudonym environment request.now stateServerId request.payload
        session).2.database where
  refused error failed := by
    rw [issuePseudonym_ensures session.faults error failed, emitted]
    split
    · exact Or.inr ⟨proven, rfl⟩
    · exact Or.inl rfl
  accepted pseudonymId _ := by
    rw [issuePseudonym_keeps_verifiedEvents _ session rfl, emitted]
    split
    · rw [verificationLogged, verifiedEvents_logged, if_pos rfl]
    · rfl

theorem traced_verify :
    Traced environment curve membershipVkey stateServerId request database
      (verify environment curve membershipVkey stateServerId request database).1
      (verify environment curve membershipVkey stateServerId request database).2.database := by
  unfold verify
  rw [verifyMembershipHandler_eq]
  cases connected : faultAt request.faults 0 with
  | some text =>
      rw [bind_error (connect_faulty connected)]
      exact traced_of_unchanged
  | none =>
      rw [bind_ok (connect_done connected)]
      rcases @looks_checkMembershipProof _ _ environment curve membershipVkey request.payload
        database [] with ⟨result, ran, faulty⟩
      have taken := @faults_checkMembershipProof _ _ environment curve membershipVkey
        request.payload ⟨database, [], request.faults.tail⟩
      rcases faulty request.faults.tail with ⟨rest, same | ⟨error, failed⟩⟩
      · rw [same] at taken
        cases result with
        | error error =>
            rw [bind_error same]
            exact traced_of_unchanged
        | ok done =>
            have proven := answers_checkMembershipProof.mp ran
            have third : faultAt rest 0 = faultAt request.faults 2 := by
              rw [show rest = request.faults.tail.tail from taken, faultAt_tail, faultAt_tail]
            rw [bind_ok same]
            cases emission : faultAt rest 0 with
            | some text =>
                rw [bind_ok (emitAndBroadcast_faulty emission)]
                apply traced_of_issuePseudonym proven
                rw [← third, emission]
                rfl
            | none =>
                rw [bind_ok (emitAndBroadcast_done emission)]
                apply traced_of_issuePseudonym proven
                rw [← third, emission]
                rfl
      · rw [bind_error failed]
        exact traced_of_unchanged

end Request

/-- The database after a request. -/
def verifyStep (database : Database) (request : VerifyRequest) : Database :=
  (verify environment curve membershipVkey stateServerId request database).2.database

open Execution

/-- Every request of every sequence leaves its trace and no other. -/
theorem verifications_traced (database : Database) (requests : List VerifyRequest) :
    Guarded (verifyStep environment curve membershipVkey stateServerId)
      (fun before request => Traced environment curve membershipVkey stateServerId request
        before (verify environment curve membershipVkey stateServerId request before).1
        (verifyStep environment curve membershipVkey stateServerId before request))
      database requests := by
  induction requests generalizing database with
  | nil => trivial
  | cons request requests induction => exact ⟨traced_verify, induction _⟩

section Sample

/-! A valid proof of a commitment that is not registered. -/

def proofEnvironment : Environment := Environment.sample fun _ => List.replicate 32 0

def proofCurve : Curve Unit Unit :=
  ⟨fun _ => some (), fun text => some (if text = "1" then 1 else (2 : Nat)), fun _ => true,
    fun _ => true, fun _ inputs _ => .ok (inputs = [1, (2 : Nat)])⟩

def unregisteredRequest : VerifyRequest where
  payload :=
    { root := "01"
      commitment := "0000000000000000000000000000000000000000000000000000000000000002"
      topic := "topic"
      proof := .encoded ⟨["", ""], [["", ""], ["", ""]], ["", ""]⟩
      publicSignals := ["1", "2"] }
  now := ""
  faults := []

def provenRootDatabase : Database :=
  { migrated with vrpRoots := Table.empty.insert fun rowId => ⟨rowId, "01", true, ""⟩ }

/-- The request is answered with an error, and its event stays in the log. -/
theorem trace_of_refused_request :
    ¬ ∀ (database : Database) (requests : List VerifyRequest),
      Guarded (verifyStep proofEnvironment proofCurve () 1)
        (fun before request => ∀ error,
          (verify proofEnvironment proofCurve () 1 request before).1 = .error error →
            verifyStep proofEnvironment proofCurve () 1 before request = before)
        database requests := by
  intro untraced
  have unchanged := (untraced provenRootDatabase [unregisteredRequest]).1
    (.notFound "identity not found in registry") (by decide +kernel)
  have logged := congrArg (fun database => database.publicEventLog.rows.length) unchanged
  exact absurd logged (by decide +kernel)

end Sample

end Annex.Server
