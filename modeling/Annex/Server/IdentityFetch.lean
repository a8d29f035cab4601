import Annex.Foundation.Interleaving
import Annex.Identity.Platform
import Annex.Server.Federation

namespace Annex.Server

open Db Federation Identity Interleaving Sql

/-! Reading an identity, which may promote one, among the requests that write identities.
The statements of a read are not in a transaction: each is a step, and the steps of other
requests may come between them. -/

/-- The error of an identity that must be there. -/
def identityNotFound (pseudonymId : String) : IdentityError → ApiError
  | .databaseError .noRows => .notFound ("identity not found: " ++ pseudonymId)
  | error => .internalServerError error.text

def identityFailed (error : IdentityError) : ApiError := .internalServerError error.text

def statementFailed (error : DbError) : ApiError := .internalServerError error.text

/-- An active moderator of the server has a node that was seen after the cutoff, which is
`datetime('now', '-300 seconds')`. -/
def hasLiveModerator (serverId : Nat) (cutoff : String) (database : Database) : Bool :=
  database.platformIdentities.rows.any fun row =>
    row.serverId = serverId && row.canModerate && row.active &&
      database.graphNodes.rows.any fun node =>
        node.serverId = row.serverId && node.pseudonymId = row.pseudonymId &&
          node.lastSeenAt.any (cutoff < ·)

/-- The `UPDATE` for moderators that are all stale. It does not ask for an active identity. -/
def promoteRequested (serverId : Nat) (pseudonymId : String) : Handler Unit :=
  execute statementFailed fun database =>
    .ok
      { database with
        platformIdentities := database.platformIdentities.updateWhere
          (hasPseudonym serverId pseudonymId) grantFounder key_grantFounder }

def lookUpIdentity (serverId : Nat) (pseudonymId : String) : Handler PlatformIdentity := do
  connect dbConnectionFailed
  mapErr (identityNotFound pseudonymId) (getPlatformIdentity serverId pseudonymId)

def reread (serverId : Nat) (pseudonymId : String) : Handler PlatformIdentity :=
  mapErr identityFailed (getPlatformIdentity serverId pseudonymId)

/-- The rule for stale moderators: of an identity without the right, if no moderator is
live. -/
def recoverStale (serverId : Nat) (identity : PlatformIdentity) (cutoff : String) :
    Handler PlatformIdentity := do
  let live ← query statementFailed fun database =>
    .ok (hasLiveModerator serverId cutoff database)
  if live then
    pure identity
  else do
    promoteRequested serverId identity.pseudonymId
    reread serverId identity.pseudonymId

/-- The rule for servers without a moderator, then that for stale ones. -/
def recover (serverId : Nat) (identity : PlatformIdentity) (cutoff : String) :
    Handler PlatformIdentity := do
  let promoted ← mapErr identityFailed (ensureFounder serverId)
  if promoted then
    reread serverId identity.pseudonymId
  else
    recoverStale serverId identity cutoff

/-- `fetch_platform_identity`, with nothing between its statements. -/
def fetchPlatformIdentity (serverId : Nat) (pseudonymId cutoff : String) :
    Handler PlatformIdentity := do
  let identity ← lookUpIdentity serverId pseudonymId
  if identity.canModerate then
    pure identity
  else
    recover serverId identity cutoff

/-- The database, and what the reads have answered. -/
structure IdentityState where
  database : Database
  fetched : List (String × Except ApiError PlatformIdentity)

/-- Requests that write identities, `fetch` among them. A request of another kind writes
other tables. -/
inductive IdentityRequest (Fq Key : Type) where
  | create (serverId : Nat) (pseudonymId : String) (participantType : RoleCode)
  | attest (server : FederationServer Fq Key) (payload : AttestationRequest)
  | deactivate (serverId : Nat) (pseudonymId : String)
  | updateCapabilities (serverId : Nat) (pseudonymId : String) (caps : Capabilities)
  | fetch (serverId : Nat) (pseudonymId : String)
  | elsewhere (write : Database → Database)

/-- What is left of a request. An `UPDATE` of a recovery rule remembers the database its
check was answered from, and the cutoff of the check. -/
inductive IdentityCall (Fq Key : Type) where
  | first (request : IdentityRequest Fq Key)
  | findModerator (serverId : Nat) (identity : PlatformIdentity)
  | promoteEarliest (serverId : Nat) (identity : PlatformIdentity) (checkedWith : Database)
  | findLiveModerator (serverId : Nat) (identity : PlatformIdentity)
  | promoteRequested (serverId : Nat) (pseudonymId cutoff : String) (checkedWith : Database)
  | reread (serverId : Nat) (pseudonymId : String)

/-- What a step takes from outside: the statements that fail, and the cutoff. -/
structure IdentityInput where
  faults : List (Option String)
  cutoff : String

namespace IdentityState

/-- The state after a program that writes the database alone. -/
def ran {Memory Error α : Type} (state : IdentityState) (memory : Memory)
    (program : Sql Database Memory Error α) (faults : List (Option String)) :
    IdentityState :=
  { state with database := (program ⟨state.database, memory, faults⟩).2.database }

/-- The state after a read has answered. -/
def answered (state : IdentityState) (pseudonymId : String)
    (answer : Except ApiError PlatformIdentity) : IdentityState :=
  { state with fetched := state.fetched ++ [(pseudonymId, answer)] }

end IdentityState

namespace IdentityCall

variable {Fq Key : Type}

/-- The only step of a request, or the first of a read. -/
def actRequest (input : IdentityInput) (state : IdentityState) :
    IdentityRequest Fq Key → IdentityState × Option (IdentityCall Fq Key)
  | .create serverId pseudonymId participantType =>
      (state.ran () (createPlatformIdentity serverId pseudonymId participantType)
        input.faults, none)
  | .attest server payload =>
      (state.ran [] (attestMembershipHandler server payload) input.faults, none)
  | .deactivate serverId pseudonymId =>
      (state.ran () (deactivatePlatformIdentity serverId pseudonymId) input.faults, none)
  | .updateCapabilities serverId pseudonymId caps =>
      (state.ran () (Identity.updateCapabilities serverId pseudonymId caps) input.faults, none)
  | .fetch serverId pseudonymId =>
      match (lookUpIdentity serverId pseudonymId ⟨state.database, [], input.faults⟩).1 with
      | .error error => (state.answered pseudonymId (.error error), none)
      | .ok identity =>
          if identity.canModerate then
            (state.answered pseudonymId (.ok identity), none)
          else
            (state, some (.findModerator serverId identity))
  | .elsewhere write =>
      ({ state with
        database :=
          { write state.database with
            platformIdentities := state.database.platformIdentities } }, none)

/-- The next step of a request. -/
def act (input : IdentityInput) (state : IdentityState) :
    IdentityCall Fq Key → IdentityState × Option (IdentityCall Fq Key)
  | .first request => actRequest input state request
  | .findModerator serverId identity =>
      match (query IdentityError.databaseError fun database =>
          .ok (hasModerator serverId database)) ⟨state.database, (), input.faults⟩ with
      | (.error error, _) =>
          (state.answered identity.pseudonymId (.error (identityFailed error)), none)
      | (.ok true, _) => (state, some (.findLiveModerator serverId identity))
      | (.ok false, _) =>
          (state, some (.promoteEarliest serverId identity state.database))
  | .promoteEarliest serverId identity _ =>
      match (Identity.promoteEarliest serverId ⟨state.database, (), input.faults⟩).1 with
      | .error error =>
          (state.answered identity.pseudonymId (.error (identityFailed error)), none)
      | .ok promoted =>
          (state.ran () (Identity.promoteEarliest serverId) input.faults,
            if 0 < promoted then some (.reread serverId identity.pseudonymId)
            else some (.findLiveModerator serverId identity))
  | .findLiveModerator serverId identity =>
      match (query statementFailed fun database =>
          .ok (hasLiveModerator serverId input.cutoff database))
          ⟨state.database, (), input.faults⟩ with
      | (.error error, _) => (state.answered identity.pseudonymId (.error error), none)
      | (.ok true, _) => (state.answered identity.pseudonymId (.ok identity), none)
      | (.ok false, _) =>
          (state, some (.promoteRequested serverId identity.pseudonymId input.cutoff
            state.database))
  | .promoteRequested serverId pseudonymId _ _ =>
      match (Server.promoteRequested serverId pseudonymId
          ⟨state.database, [], input.faults⟩).1 with
      | .error error => (state.answered pseudonymId (.error error), none)
      | .ok () =>
          (state.ran [] (Server.promoteRequested serverId pseudonymId) input.faults,
            some (.reread serverId pseudonymId))
  | .reread serverId pseudonymId =>
      (state.answered pseudonymId
        (Server.reread serverId pseudonymId ⟨state.database, [], input.faults⟩).1, none)

end IdentityCall

/-- The requests over one database. No step waits. -/
def identityProgram (Fq Key : Type) :
    Interleaving.Program IdentityState (IdentityCall Fq Key) (IdentityRequest Fq Key)
      IdentityInput where
  enter _ request := .first request
  act _ call input state := some (call.act input state)

abbrev Identities (Fq Key : Type) := Interleaving IdentityState (IdentityCall Fq Key)

abbrev IdentityLabel (Fq Key : Type) :=
  Interleaving.Label (IdentityRequest Fq Key) IdentityInput

/-! A read that no other request comes between. -/

theorem reads_reread {serverId : Nat} {pseudonymId : String} :
    Reads (reread serverId pseudonymId) :=
  (looks_mapErr (looks_query _ _)).reads

namespace IdentityCall

variable {Fq Key : Type}

/-- The steps of a call that nothing comes between. -/
def drive (input : IdentityInput) :
    Nat → IdentityState → Option (IdentityCall Fq Key) → IdentityState
  | 0, state, _ => state
  | _ + 1, state, none => state
  | count + 1, state, some call =>
      drive input count (call.act input state).1 (call.act input state).2

@[simp] theorem drive_none {input : IdentityInput} {count : Nat} {state : IdentityState} :
    @drive Fq Key input count state none = state := by
  cases count <;> rfl

theorem run_advance {input : IdentityInput} {id count : Nat} {state : IdentityState}
    {calls : Nat → Option (IdentityCall Fq Key)} {call : Option (IdentityCall Fq Key)} :
    (Execution.run (step (identityProgram Fq Key)) ⟨state, Function.update calls id call⟩
      (List.replicate count (.advance id input))).shared = drive input count state call := by
  induction count generalizing state calls call with
  | zero => rfl
  | succ count induction =>
      rw [List.replicate_succ, Execution.run_cons]
      cases call with
      | none =>
          simp only [step, Function.update_self]
          rw [induction, drive_none, drive_none]
      | some call =>
          have stepped : step (identityProgram Fq Key)
              ⟨state, Function.update calls id (some call)⟩ (.advance id input) =
              ⟨(call.act input state).1, Function.update (Function.update calls id (some call))
                id (call.act input state).2⟩ := by
            simp only [step, Function.update_self, identityProgram]
          rw [stepped, induction, drive]

variable {serverId : Nat} {cutoff : String} {identity : PlatformIdentity}
  {database : Database} {fetched : List (String × Except ApiError PlatformIdentity)}
  {count : Nat}

/-- The state after a program that nothing came between has answered. -/
def completed (fetched : List (String × Except ApiError PlatformIdentity)) (pseudonymId : String)
    (outcome : Except ApiError PlatformIdentity × Session Database (List Outbound)) :
    IdentityState :=
  ⟨outcome.2.database, fetched ++ [(pseudonymId, outcome.1)]⟩

theorem drive_findLiveModerator :
    @drive Fq Key ⟨[], cutoff⟩ (count + 3) ⟨database, fetched⟩
        (some (.findLiveModerator serverId identity)) =
      completed fetched identity.pseudonymId
        (recoverStale serverId identity cutoff ⟨database, [], []⟩) := by
  rw [recoverStale, bind_apply, query_apply]
  dsimp only
  rw [drive, act, query_apply]
  dsimp only
  cases hasLiveModerator serverId cutoff database with
  | true => exact drive_none
  | false =>
      simp only [Bool.false_eq_true, if_false, bind_apply, Server.promoteRequested,
        execute_apply, drive, act, IdentityState.ran, drive_none, completed]
      rw [(reads_reread _).1]
      rfl

/-- `ensure_founder` on a server without a moderator is its `UPDATE`. -/
theorem ensureFounder_of_unmoderated {value : Nat} {changed : Database}
    (unmoderated : hasModerator serverId database = false)
    (promoted : Identity.promoteEarliest serverId ⟨database, ([] : List Outbound), []⟩ =
      (.ok value, ⟨changed, [], []⟩)) :
    ensureFounder serverId ⟨database, ([] : List Outbound), []⟩ =
      (.ok (decide (0 < value)), ⟨changed, [], []⟩) := by
  rw [ensureFounder, bind_apply, query_apply, unmoderated]
  simp only [Bool.false_eq_true, if_false]
  rw [bind_ok promoted]
  rfl

theorem drive_promoteEarliest {checkedWith : Database}
    (unmoderated : hasModerator serverId database = false) :
    @drive Fq Key ⟨[], cutoff⟩ (count + 4) ⟨database, fetched⟩
        (some (.promoteEarliest serverId identity checkedWith)) =
      completed fetched identity.pseudonymId
        (recover serverId identity cutoff ⟨database, [], []⟩) := by
  have updates : ∃ value changed, ∀ {Memory : Type} (memory : Memory),
      Identity.promoteEarliest serverId ⟨database, memory, []⟩ =
        (.ok value, ⟨changed, memory, []⟩) :=
    ⟨_, _, fun memory => statement_apply _ _⟩
  rcases updates with ⟨value, changed, promoted⟩
  rw [recover, bind_ok (mapErr_apply (ensureFounder_of_unmoderated unmoderated (promoted []))),
    drive, act, promoted ()]
  simp only [IdentityState.ran, promoted ()]
  by_cases changes : 0 < value
  · simp only [changes, if_true, decide_true, drive, act, drive_none]
    rw [completed, (reads_reread _).1]
    rfl
  · simp only [changes, if_false, decide_false, Bool.false_eq_true]
    exact drive_findLiveModerator

theorem drive_findModerator :
    @drive Fq Key ⟨[], cutoff⟩ (count + 5) ⟨database, fetched⟩
        (some (.findModerator serverId identity)) =
      completed fetched identity.pseudonymId
        (recover serverId identity cutoff ⟨database, [], []⟩) := by
  rw [drive, act, query_apply]
  cases found : hasModerator serverId database with
  | false => exact drive_promoteEarliest found
  | true =>
      have kept : ensureFounder serverId ⟨database, ([] : List Outbound), []⟩ =
          (.ok false, ⟨database, [], []⟩) := by
        rw [ensureFounder, bind_apply, query_apply, found]
        rfl
      rw [recover, bind_ok (mapErr_apply kept)]
      exact drive_findLiveModerator

end IdentityCall

variable {serverId : Nat} {pseudonymId cutoff : String} {database : Database}

theorem looks_lookUpIdentity : Looks (lookUpIdentity serverId pseudonymId) :=
  looks_bind (looks_connect _) fun _ => looks_mapErr (looks_query _ _)

theorem pseudonymId_of_lookUpIdentity {identity : PlatformIdentity}
    (looked : Answers (lookUpIdentity serverId pseudonymId) database [] identity) :
    identity.pseudonymId = pseudonymId := by
  rcases (answers_bind (looks_connect _)).mp looked with ⟨_, -, found⟩
  have answered := (answers_mapErr (looks_query _ _)).mp found
  rw [answers_query] at answered
  split at answered
  · cases answered
  · next row present =>
    split at answered
    · cases answered
      have named := List.find?_some present
      rw [Bool.and_eq_true, decide_eq_true_eq, decide_eq_true_eq] at named
      exact named.2
    · cases answered

/-- A read that no other request comes between answers and writes as
`fetch_platform_identity`. -/
theorem run_fetch {Fq Key : Type} :
    (Execution.run (step (identityProgram Fq Key)) (idle ⟨database, []⟩)
      (.start 0 (.fetch serverId pseudonymId) ::
        List.replicate 6 (.advance 0 ⟨[], cutoff⟩))).shared =
      IdentityCall.completed [] pseudonymId
        (fetchPlatformIdentity serverId pseudonymId cutoff ⟨database, [], []⟩) := by
  rw [Execution.run_cons]
  refine IdentityCall.run_advance.trans ?_
  rcases @looks_lookUpIdentity serverId pseudonymId database [] with ⟨result, looked, -⟩
  simp only [identityProgram, IdentityCall.drive, IdentityCall.act, IdentityCall.actRequest]
  cases result with
  | error error =>
      rw [fetchPlatformIdentity, bind_error looked]
      simp only [idle, looked]
      rfl
  | ok identity =>
      rw [fetchPlatformIdentity, bind_ok looked]
      simp only [idle, looked]
      cases moderates : identity.canModerate with
      | true => rfl
      | false =>
          simp only [Bool.false_eq_true, if_false]
          rw [← pseudonymId_of_lookUpIdentity looked]
          exact IdentityCall.drive_findModerator

end Annex.Server
