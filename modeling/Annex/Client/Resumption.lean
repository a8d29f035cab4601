import Annex.Client.HonestProof
import Annex.Foundation.Execution
import Annex.Foundation.Throwing

namespace Annex.Client

open Db Identity Server Sql Throwing

/-! Attempts to register one identity with one server, after each other. -/

/-- An identity that is to be enrolled with a server under a slug. Its role is known, its
pseudonym can be derived, and the prover proves. -/
structure Enrolment (Fq Key : Type) where
  setting : Setting Fq Key
  poseidon3 : Fr → Fr → Fr → Fr
  depth : Nat
  keys : Keys
  serverSlug : String
  role : RoleCode
  pseudonymId : String
  known : RoleCode.fromU8 keys.roleCode = some role
  derived : deriveTopicScopedPseudonym setting.server.environment
    (frToHex (keys.commitment poseidon3)) (vrpTopic serverSlug) = .ok pseudonymId
  proves : Proves setting poseidon3 depth

namespace Enrolment

variable {Fq Key : Type} (enrolment : Enrolment Fq Key)

/-- The text of the commitment. -/
def commitmentHex : String :=
  frToHex (enrolment.keys.commitment enrolment.poseidon3)

/-- The identity is the one that was generated with the keys. -/
structure OfKeys (identity : StoredIdentity) : Prop where
  sk : identity.sk = storedKey enrolment.keys.sk
  roleCode : identity.roleCode = enrolment.keys.roleCode
  nodeId : identity.nodeId = enrolment.keys.nodeId
  commitmentHex : identity.commitmentHex =
    computeCommitment enrolment.poseidon3 enrolment.keys.sk enrolment.keys.roleCode
      enrolment.keys.nodeId

/-- The identity of the store has the keys. -/
def HoldsKeys (store : IdentityState) : Prop :=
  ∃ identity, store.identity = some identity ∧ enrolment.OfKeys identity

/-- The server has registered the commitment. -/
def Enrolled (server : Task.World ServerDatabase Live) : Prop :=
  IsRegistered enrolment.commitmentHex server.database.toDatabase

/-- The server has a leaf to give, and nothing of the pseudonym. -/
structure Admits (server : Task.World ServerDatabase Live) : Prop where
  room : ∃ leaves, (Registry.mk server.memory.tree server.database.toDatabase).Synced
      enrolment.setting.server.hash enrolment.depth leaves ∧
    leaves.length < capacity enrolment.depth ∧ leaves.length < 2 ^ 63
  claimable : ∃ serverId, firstServer server.database.toDatabase = some serverId ∧
    ∀ nullifierHex, deriveNullifierHex enrolment.setting.server.environment
        enrolment.commitmentHex (vrpTopic enrolment.serverSlug) = .ok nullifierHex →
      Claimable serverId (vrpTopic enrolment.serverSlug) nullifierHex enrolment.pseudonymId
        server.database.toDatabase

/-- The server admits the identity if it has not enrolled it. -/
def Able (server : Task.World ServerDatabase Live) : Prop :=
  ¬ enrolment.Enrolled server → enrolment.Admits server

/-- The store has the keys, and the server is as the property says. -/
def Standing (property : Task.World ServerDatabase Live → Prop) (place : Place) : Prop :=
  enrolment.HoldsKeys place.store ∧ property place.server

/-- Something else that happens between attempts: the keys stay, and so does what the server
knows of the identity and whether it admits it. -/
structure Elsewhere where
  change : Place → Place
  keys : ∀ place, enrolment.HoldsKeys place.store → enrolment.HoldsKeys (change place).store
  enrolled : ∀ place, enrolment.Enrolled (change place).server ↔
    enrolment.Enrolled place.server
  admits : ∀ place, enrolment.Admits place.server → enrolment.Admits (change place).server

inductive Move where
  | attempt (course : Course)
  | elsewhere (other : enrolment.Elsewhere)

variable {enrolment}

def step (place : Place) : enrolment.Move → Place
  | .attempt course => registerWithServer enrolment.setting enrolment.serverSlug course place
  | .elsewhere other => other.change place

end Enrolment

/-- Nothing fails: every save and the listing settle, both answers arrive, no statement of the
server fails, and the proof is made. -/
structure Course.Clean (course : Course) : Prop where
  slugSave : course.slugSave = none
  registration : ∃ context, course.registration = .answered context []
  leafIndexSave : course.leafIndexSave = none
  proof : ∃ random, course.proof = .ok random
  verification : ∃ context, course.verification = .answered context []
  pseudonymSave : course.pseudonymSave = none
  listing : course.listing = none

/-- The store is ready with the pseudonym. -/
def EndsReady (pseudonymId : String) (place : Place) : Prop :=
  place.store.phase = .ready ∧
    ∃ identity, place.store.identity = some identity ∧ identity.pseudonymId = some pseudonymId

section Kept

/-! What the parts of an attempt keep. -/

variable {Fq Key : Type} {enrolment : Enrolment Fq Key}
  {server : Task.World ServerDatabase Live → Prop}

/-- Whether it returns or throws, the program keeps the property. -/
def Stays {α : Type} (property : Place → Prop) (program : Flow α) : Prop :=
  Leaves property program (fun _ => property) property

theorem stays_bind {α β : Type} {property : Place → Prop} {program : Flow α} {next : α → Flow β}
    (first : Stays property program) (rest : ∀ value, Stays property (next value)) :
    Stays property (program >>= next) :=
  leaves_bind first rest

theorem stays_setStore {change : IdentityState → IdentityState}
    (same : ∀ store, (change store).identity = store.identity) :
    Stays (enrolment.Standing server) (setStore change) := by
  apply leaves_modify
  intro place standing
  rcases standing with ⟨⟨identity, held, keys⟩, holds⟩
  exact ⟨⟨identity, (same place.store).trans held, keys⟩, holds⟩

theorem stays_setIdentity {identity : StoredIdentity} (keys : enrolment.OfKeys identity)
    {change : IdentityState → IdentityState}
    (set : ∀ store, (change store).identity = some identity) :
    Stays (enrolment.Standing server) (setStore change) := by
  apply leaves_modify
  intro place standing
  exact ⟨⟨identity, set place.store, keys⟩, standing.2⟩

theorem stays_settled {property : Place → Prop} (outcome : Option Thrown) :
    Stays property (settled outcome) := by
  cases outcome with
  | none => exact leaves_pure fun _ holds => holds
  | some thrown => exact leaves_throw fun _ holds => holds

theorem stays_bigInt {property : Place → Prop} (text : String) :
    Stays property (bigInt text) := by
  unfold bigInt
  cases readKey text with
  | none => exact leaves_throw fun _ holds => holds
  | some value => exact leaves_pure fun _ holds => holds

theorem stays_saveIdentity (identity : StoredIdentity) (outcome : Option Thrown) :
    Stays (enrolment.Standing server) (saveIdentity identity outcome) :=
  stays_bind (stays_settled outcome) fun _ => leaves_modify fun _ standing => standing

theorem stays_listIdentities (outcome : Option Thrown) :
    Stays (enrolment.Standing server) (listIdentities outcome) :=
  stays_bind (stays_settled outcome) fun _ => fun _ standing => standing

theorem stays_generateMembershipProof (input : MembershipProofInput)
    (stages : List ProvingStatus) (outcome : Except Thrown Nat) :
    Stays (enrolment.Standing server)
      (generateMembershipProof enrolment.setting input stages outcome) := by
  have shown (store : IdentityState) : (stages.foldl (fun store provingStatus =>
      { store with provingStatus }) store).identity = store.identity := by
    induction stages generalizing store with
    | nil => rfl
    | cons stage stages induction => exact induction _
  apply stays_bind (stays_setStore shown)
  intro _
  cases outcome with
  | error thrown => exact leaves_throw fun _ standing => standing
  | ok random => exact leaves_pure fun _ standing => standing

/-- A request leaves what the server's handler leaves. -/
theorem leaves_request {α : Type} {task : EventTask ApiError α} {fate : Fate}
    {before answered : Task.World ServerDatabase Live → Prop}
    (acts : ∀ world context faults, before world →
      let ran := task.alone (EventCommand.run enrolment.setting.server) context
        ⟨world.database, world.memory, faults⟩
      before ⟨ran.2.database, ran.2.memory⟩ ∧
        ∀ value, ran.1 = .ok value → answered ⟨ran.2.database, ran.2.memory⟩) :
    Leaves (enrolment.Standing before) (request enrolment.setting fate task)
      (fun _ => enrolment.Standing answered) (enrolment.Standing before) := by
  have served (context : EventContext) (faults : List (Option String)) :
      Leaves (enrolment.Standing before) (serve enrolment.setting task context faults)
        (fun result place => enrolment.Standing before place ∧
          ∀ value, result = .ok value → enrolment.Standing answered place)
        (enrolment.Standing before) := by
    intro place standing
    have acted := acts place.server context faults standing.2
    exact ⟨⟨standing.1, acted.1⟩, fun value answers => ⟨standing.1, acted.2 value answers⟩⟩
  cases fate with
  | lost thrown => exact leaves_throw fun _ standing => standing
  | unanswered context faults thrown =>
      exact leaves_bind (served context faults) fun _ => leaves_throw fun _ standing => standing.1
  | answered context faults =>
      apply leaves_bind (served context faults)
      intro result
      cases result with
      | error error => exact leaves_throw fun _ standing => standing.1
      | ok value => exact leaves_pure fun _ standing => standing.2 value rfl

theorem Enrolment.OfKeys.text {identity : StoredIdentity} (keys : enrolment.OfKeys identity) :
    identity.commitmentHex = enrolment.commitmentHex := by
  rw [keys.commitmentHex, computeCommitment_eq]
  rfl

/-- A registration leaves the server able, and having enrolled the identity if it answers. -/
theorem leaves_register {identity : StoredIdentity} (keys : enrolment.OfKeys identity)
    (fate : Fate) :
    Leaves (enrolment.Standing enrolment.Able)
      (request enrolment.setting fate (registerHandler enrolment.setting.server
        { commitmentHex := identity.commitmentHex
          roleCode := identity.roleCode
          nodeId := identity.nodeId }))
      (fun _ => enrolment.Standing enrolment.Enrolled) (enrolment.Standing enrolment.Able) := by
  apply leaves_request
  intro world context faults able
  dsimp only
  have lower : toAsciiLowercase identity.commitmentHex = enrolment.commitmentHex := by
    rw [keys.text]
    exact toAsciiLowercase_frToHex _
  by_cases enrolled : enrolment.Enrolled world
  · have still := @registerHandler_keepsRegistered _ _ enrolment.setting.server context
      ⟨identity.commitmentHex, identity.roleCode, identity.nodeId⟩ world.database world.memory
      enrolment.commitmentHex enrolled faults
    exact ⟨fun absent => (absent still).elim, fun _ _ => still⟩
  · rcases (able enrolled).room with ⟨leaves, synced, -, -⟩
    have outcome := @registerHandler_ensures _ _ enrolment.setting.server context
      ⟨identity.commitmentHex, identity.roleCode, identity.nodeId⟩ world.database world.memory
      enrolment.depth leaves synced faults
    rw [lower] at outcome
    rcases outcome with ⟨⟨error, failed⟩, tables, tree⟩ | registered
    · constructor
      · intro _
        have admits := able enrolled
        refine ⟨?_, ?_⟩
        · rw [tables, tree]
          exact admits.room
        · rw [tables]
          exact admits.claimable
      · intro value answers
        rw [failed] at answers
        cases answers
    · exact ⟨fun absent => (absent registered).elim, fun _ _ => registered⟩

theorem stays_verify (fate : Fate) (payload : VerifyMembershipRequest) :
    Stays (enrolment.Standing enrolment.Enrolled)
      (request enrolment.setting fate (verifyMembership enrolment.setting.server payload)) := by
  apply leaves_request
  intro world context faults enrolled
  have still := @verifyMembership_keepsRegistered _ _ payload enrolment.setting.server context
    world.database world.memory enrolment.commitmentHex enrolled faults
  exact ⟨still, fun _ _ => still⟩

/-- An attempt keeps the keys, and a server that is able. -/
theorem stays_register {identity : StoredIdentity} (keys : enrolment.OfKeys identity)
    (course : Course) :
    Stays (enrolment.Standing enrolment.Able)
      (register enrolment.setting enrolment.serverSlug course identity) := by
  have slugged : enrolment.OfKeys { identity with serverSlug := enrolment.serverSlug } :=
    ⟨keys.sk, keys.roleCode, keys.nodeId, keys.commitmentHex⟩
  unfold register
  refine stays_bind (stays_bigInt identity.sk) fun sk => ?_
  dsimp only
  refine stays_bind (stays_setIdentity slugged fun _ => rfl) fun _ => ?_
  refine stays_bind (stays_saveIdentity _ _) fun _ => ?_
  refine stays_bind (stays_setIdentity slugged fun _ => rfl) fun _ => ?_
  refine stays_bind (stays_setStore fun _ => rfl) fun _ => ?_
  apply leaves_bind (leaves_register slugged course.registration)
  intro reg
  -- From here on the server has enrolled the identity.
  refine @leaves_mono _ _ _ (enrolment.Standing enrolment.Enrolled)
    (fun _ => enrolment.Standing enrolment.Enrolled) (enrolment.Standing enrolment.Enrolled) _ _ _
    ?_ (fun _ _ standing => ⟨standing.1, fun absent => (absent standing.2).elim⟩)
    fun _ standing => ⟨standing.1, fun absent => (absent standing.2).elim⟩
  have indexed : enrolment.OfKeys { identity with
      serverSlug := enrolment.serverSlug
      leafIndex := some reg.leafIndex } :=
    ⟨keys.sk, keys.roleCode, keys.nodeId, keys.commitmentHex⟩
  refine stays_bind (stays_saveIdentity _ _) fun _ => ?_
  refine stays_bind (stays_setStore fun _ => rfl) fun _ => ?_
  refine stays_bind (stays_generateMembershipProof _ _ _) fun output => ?_
  refine stays_bind (stays_setStore fun _ => rfl) fun _ => ?_
  refine stays_bind (stays_verify _ _) fun pseudonymId => ?_
  have verified : enrolment.OfKeys { identity with
      serverSlug := enrolment.serverSlug
      leafIndex := some reg.leafIndex
      pseudonymId := some pseudonymId } :=
    ⟨keys.sk, keys.roleCode, keys.nodeId, keys.commitmentHex⟩
  refine stays_bind (stays_saveIdentity _ _) fun _ => ?_
  refine stays_bind (stays_listIdentities _) fun identities => ?_
  exact stays_setIdentity verified fun _ => rfl

/-- What an attempt leaves behind. -/
theorem standing_registerWithServer (course : Course) {place : Place}
    (standing : enrolment.Standing enrolment.Able place) :
    enrolment.Standing enrolment.Able
      (registerWithServer enrolment.setting enrolment.serverSlug course place) := by
  rcases standing.1 with ⟨identity, held, keys⟩
  unfold registerWithServer
  rw [held]
  dsimp only
  split
  · exact ⟨⟨identity, held, keys⟩, standing.2⟩
  · have left := stays_register keys course place standing
    cases ran : register enrolment.setting enrolment.serverSlug course identity place with
    | ok done after =>
        rw [ran] at left
        exact left
    | error thrown after =>
        rw [ran] at left
        exact left

end Kept

section Clean

/-! Attempts in which nothing fails. What they meet is decided by the server alone. -/

variable {Fq Key : Type} {enrolment : Enrolment Fq Key} {course : Course} {α : Type}
  {world : Task.World ServerDatabase Live} {returned : α → Place → Prop} {thrown : Place → Prop}

def AtServer (world : Task.World ServerDatabase Live) (place : Place) : Prop :=
  place.server = world

theorem serve_apply {setting : Setting Fq Key} {β : Type} {task : EventTask ApiError β}
    {place : Place} {context : EventContext} {faults : List (Option String)}
    {result : Except ApiError β}
    {after : Session ServerDatabase Live}
    (ran : task.alone (EventCommand.run setting.server) context
      ⟨place.server.database, place.server.memory, faults⟩ = (result, after)) :
    serve setting task context faults place =
      .ok result { place with server := ⟨after.database, after.memory⟩ } := by
  unfold serve
  rw [ran]

theorem at_setStore {change : IdentityState → IdentityState} {next : Unit → Flow α}
    (rest : Leaves (AtServer world) (next ()) returned thrown) :
    Leaves (AtServer world) (setStore change >>= next) returned thrown :=
  leaves_bind (leaves_modify fun _ server => server) fun _ => rest

theorem at_saveIdentity {identity : StoredIdentity} {next : Unit → Flow α}
    (rest : Leaves (AtServer world) (next ()) returned thrown) :
    Leaves (AtServer world) (saveIdentity identity none >>= next) returned thrown :=
  leaves_bind (leaves_bind (leaves_pure fun _ server => server)
    fun _ => leaves_modify fun _ server => server) fun _ => rest

theorem at_listIdentities {next : List StoredIdentity → Flow α}
    (rest : ∀ identities, Leaves (AtServer world) (next identities) returned thrown) :
    Leaves (AtServer world) (listIdentities none >>= next) returned thrown := by
  have listed : Leaves (AtServer world) (listIdentities none) (fun _ => AtServer world) thrown :=
    fun _ server => server
  exact leaves_bind listed rest

theorem at_generateMembershipProof {setting : Setting Fq Key} {input : MembershipProofInput}
    {stages : List ProvingStatus} {random : Nat} {next : MembershipProofOutput → Flow α}
    (rest : Leaves (AtServer world) (next (setting.fullProve random (circuitInput input))) returned
      thrown) :
    Leaves (AtServer world)
      (generateMembershipProof setting input stages (.ok random) >>= next) returned thrown := by
  intro place server
  rw [bind_returned (show generateMembershipProof setting input stages (.ok random) place =
    .ok (setting.fullProve random (circuitInput input))
      { place with
        store := stages.foldl (fun store provingStatus => { store with provingStatus })
          place.store } from rfl)]
  exact rest _ server

theorem at_bigInt {sk : Nat} {next : Nat → Flow α}
    (rest : Leaves (AtServer world) (next sk) returned thrown) :
    Leaves (AtServer world) (bigInt (storedKey sk) >>= next) returned thrown := by
  unfold bigInt
  rw [readKey_storedKey]
  exact rest

theorem at_request {setting : Setting Fq Key} {β : Type} {task : EventTask ApiError β}
    {context : EventContext} {value : β} {after : Session ServerDatabase Live}
    {next : β → Flow α}
    (ran : task.alone (EventCommand.run setting.server) context
      ⟨world.database, world.memory, []⟩ = (.ok value, after))
    (rest : Leaves (AtServer ⟨after.database, after.memory⟩) (next value) returned thrown) :
    Leaves (AtServer world) (request setting (.answered context []) task >>= next) returned
      thrown := by
  intro place server
  rw [← server] at ran
  have answered : request setting (.answered context []) task place =
      .ok value { place with server := ⟨after.database, after.memory⟩ } := by
    unfold request
    dsimp only
    rw [bind_returned (serve_apply ran)]
    rfl
  rw [bind_returned answered]
  exact rest _ rfl

theorem at_request_refused {setting : Setting Fq Key} {β : Type} {task : EventTask ApiError β}
    {context : EventContext} {error : ApiError} {after : Session ServerDatabase Live}
    {next : β → Flow α}
    (ran : task.alone (EventCommand.run setting.server) context
      ⟨world.database, world.memory, []⟩ = (.error error, after)) :
    Leaves (AtServer world) (request setting (.answered context []) task >>= next)
      (fun _ _ => False) fun _ => True := by
  intro place server
  rw [← server] at ran
  have refused : request setting (.answered context []) task place =
      .error (.apiError (response error).1 (setting.errorBody (response error).2))
        { place with server := ⟨after.database, after.memory⟩ } := by
    unfold request
    dsimp only
    rw [bind_returned (serve_apply ran)]
    rfl
  rw [bind_thrown refused]
  trivial

variable {identity : StoredIdentity} {registering verifying : EventContext} {random : Nat}

/-- What the client proves after its registration was answered. -/
def proofInput (enrolment : Enrolment Fq Key) (identity : StoredIdentity)
    (reg : RegistrationResult) : MembershipProofInput where
  sk := enrolment.keys.sk
  roleCode := identity.roleCode
  nodeId := identity.nodeId
  leafIndex := reg.leafIndex
  pathElements := reg.pathElements
  pathIndexBits := reg.pathIndices

def registrationRequest (identity : StoredIdentity) : RegisterRequest where
  commitmentHex := identity.commitmentHex
  roleCode := identity.roleCode
  nodeId := identity.nodeId

/-- The request with the proof that is made of the answer to the registration. -/
def verificationRequest (enrolment : Enrolment Fq Key) (identity : StoredIdentity)
    (reg : RegistrationResult) (random : Nat) : VerifyMembershipRequest where
  root := reg.rootHex
  commitment := identity.commitmentHex
  topic := vrpTopic enrolment.serverSlug
  proof := (enrolment.setting.fullProve random
    (circuitInput (proofInput enrolment identity reg))).proof
  publicSignals := (enrolment.setting.fullProve random
    (circuitInput (proofInput enrolment identity reg))).publicSignals

/-- An attempt whose two requests are answered ends ready. -/
theorem register_ready (keys : enrolment.OfKeys identity) (clean : course.Clean)
    (registration : course.registration = .answered registering [])
    (proof : course.proof = .ok random)
    (verification : course.verification = .answered verifying [])
    {reg : RegistrationResult} {enrolled left : Session ServerDatabase Live}
    (registered : (registerHandler enrolment.setting.server
      (registrationRequest identity)).alone (EventCommand.run enrolment.setting.server)
        registering ⟨world.database, world.memory, []⟩ = (.ok reg, enrolled))
    (verified : (verifyMembership enrolment.setting.server
      (verificationRequest enrolment identity reg random)).alone
        (EventCommand.run enrolment.setting.server) verifying
        ⟨enrolled.database, enrolled.memory, []⟩ = (.ok enrolment.pseudonymId, left)) :
    Leaves (AtServer world) (register enrolment.setting enrolment.serverSlug course identity)
      (fun _ => EndsReady enrolment.pseudonymId) fun _ => False := by
  unfold register
  rw [keys.sk, clean.slugSave, clean.leafIndexSave, clean.pseudonymSave, clean.listing,
    registration, proof, verification]
  apply at_bigInt
  dsimp only
  apply at_setStore
  apply at_saveIdentity
  apply at_setStore
  apply at_setStore
  apply at_request registered
  apply at_saveIdentity
  apply at_setStore
  apply at_generateMembershipProof
  apply at_setStore
  apply at_request verified
  apply at_saveIdentity
  apply at_listIdentities
  intro identities
  exact leaves_modify fun _ _ => ⟨rfl, _, rfl, rfl⟩

/-- An attempt whose registration is refused throws. -/
theorem register_refused (keys : enrolment.OfKeys identity) (clean : course.Clean)
    (registration : course.registration = .answered registering [])
    {error : ApiError} {after : Session ServerDatabase Live}
    (refused : (registerHandler enrolment.setting.server
      (registrationRequest identity)).alone (EventCommand.run enrolment.setting.server)
        registering ⟨world.database, world.memory, []⟩ = (.error error, after)) :
    Leaves (AtServer world) (register enrolment.setting enrolment.serverSlug course identity)
      (fun _ _ => False) fun _ => True := by
  unfold register
  rw [keys.sk, clean.slugSave, registration]
  apply at_bigInt
  dsimp only
  apply at_setStore
  apply at_saveIdentity
  apply at_setStore
  apply at_setStore
  exact at_request_refused refused

end Clean

section Resumption

variable {Fq Key : Type} {enrolment : Enrolment Fq Key} {identity : StoredIdentity}
  {world : Task.World ServerDatabase Live}

/-- A server that admits an identity answers its registration and the verification of the proof
that is made of the answer. -/
theorem exists_answers (keys : enrolment.OfKeys identity) (admits : enrolment.Admits world)
    (new : ¬ enrolment.Enrolled world) (registering verifying : EventContext) (random : Nat) :
    ∃ (reg : RegistrationResult) (enrolled left : Session ServerDatabase Live),
      (registerHandler enrolment.setting.server
        (registrationRequest identity)).alone (EventCommand.run enrolment.setting.server)
          registering ⟨world.database, world.memory, []⟩ = (.ok reg, enrolled) ∧
      (verifyMembership enrolment.setting.server
        (verificationRequest enrolment identity reg random)).alone
          (EventCommand.run enrolment.setting.server) verifying
          ⟨enrolled.database, enrolled.memory, []⟩ = (.ok enrolment.pseudonymId, left) := by
  rcases admits.room with ⟨leaves, synced, room, representable⟩
  rcases admits.claimable with ⟨serverId, first, claimable⟩
  rcases exists_nullifier enrolment.derived with ⟨nullifierHex, nullifier, pseudonym⟩
  have known : RoleCode.fromU8 identity.roleCode = some enrolment.role := by
    rw [keys.roleCode]
    exact enrolment.known
  have text : identity.commitmentHex = frToHex (enrolment.keys.commitment enrolment.poseidon3) :=
    keys.text
  have registers := @registerHandler_achieves _ _ enrolment.setting.server registering
    ⟨identity.commitmentHex, identity.roleCode, identity.nodeId⟩ world.database world.memory
    enrolment.depth leaves enrolment.role (enrolment.keys.commitment enrolment.poseidon3) synced
    room representable new known text
  rcases registers with ⟨reg, changed, live, registered, added, same⟩
  have serverRow : firstServer changed.toDatabase = some serverId := by
    unfold verifiedTables at same
    simp only [Prod.mk.injEq] at same
    unfold firstServer
    rw [same.2.1]
    exact first
  have input : proofInput enrolment identity reg =
      { sk := enrolment.keys.sk
        roleCode := enrolment.keys.roleCode
        nodeId := enrolment.keys.nodeId
        leafIndex := reg.leafIndex
        pathElements := reg.pathElements
        pathIndexBits := reg.pathIndices } := by
    rw [proofInput, keys.roleCode, keys.nodeId]
  have proven := membershipProven_of_added enrolment.proves added random
    (vrpTopic enrolment.serverSlug) input
  have verifies := @verifyMembership_achieves _ _ serverId _ nullifierHex enrolment.pseudonymId
    enrolment.role enrolment.setting.server verifying changed live proven nullifier pseudonym
    (registeredRole_of_added added new) serverRow
    ((claimable nullifierHex nullifier).of_tables same)
  rcases verifies with ⟨value, last, after, verified, is⟩
  rw [is] at verified
  refine ⟨reg, ⟨changed, live, []⟩, ⟨last, after, []⟩, registered, ?_⟩
  rw [verificationRequest, keys.text]
  exact verified

theorem storedKey_ne_empty (sk : Nat) : storedKey sk ≠ "" := by
  intro empty
  have read := readKey_storedKey sk
  rw [empty] at read
  cases read

theorem frToHex_ne_empty (value : Fr) : frToHex value ≠ "" := by
  intro empty
  have valid := (validCommitment_frToHex value).1
  rw [empty] at valid
  exact absurd valid (by decide)

theorem registerWithServer_of_keys {place : Place} {course : Course}
    (held : place.store.identity = some identity) (keys : enrolment.OfKeys identity) :
    registerWithServer enrolment.setting enrolment.serverSlug course place =
      match register enrolment.setting enrolment.serverSlug course identity place with
      | .ok _ after => after
      | .error thrown after => after.fail thrown course.proofInFlight := by
  have present : ¬ (identity.sk = "" ∨ identity.commitmentHex = "") := by
    intro missing
    rcases missing with noKey | noCommitment
    · rw [keys.sk] at noKey
      exact storedKey_ne_empty _ noKey
    · rw [keys.text] at noCommitment
      exact frToHex_ne_empty _ noCommitment
  unfold registerWithServer
  rw [held]
  exact if_neg present

/-- An attempt in which nothing fails ends ready exactly when the server has not enrolled the
identity before. -/
theorem endsReady_iff {place : Place} {course : Course} (clean : course.Clean)
    (standing : enrolment.Standing enrolment.Able place) :
    EndsReady enrolment.pseudonymId
        (registerWithServer enrolment.setting enrolment.serverSlug course place) ↔
      ¬ enrolment.Enrolled place.server := by
  rcases standing with ⟨⟨identity, held, keys⟩, able⟩
  rcases clean.registration with ⟨registering, registration⟩
  rcases clean.verification with ⟨verifying, verification⟩
  rcases clean.proof with ⟨random, proof⟩
  rw [registerWithServer_of_keys held keys]
  by_cases enrolled : enrolment.Enrolled place.server
  · refine iff_of_false ?_ fun new => new enrolled
    have lower : toAsciiLowercase identity.commitmentHex = enrolment.commitmentHex := by
      rw [keys.text]
      exact toAsciiLowercase_frToHex _
    have refused := @registerHandler_refused _ _ enrolment.setting.server registering
      ⟨identity.commitmentHex, identity.roleCode, identity.nodeId⟩ place.server.database
      place.server.memory (lower.symm ▸ enrolled) []
    rcases refused with ⟨error, failed⟩
    have thrown := register_refused keys clean registration (Prod.ext failed rfl) place rfl
    cases ran : register enrolment.setting enrolment.serverSlug course identity place with
    | ok done after =>
        rw [ran] at thrown
        exact thrown.elim
    | error error after => exact fun ready => nomatch ready.1
  · refine iff_of_true ?_ enrolled
    rcases exists_answers keys (able enrolled) enrolled registering verifying random with
      ⟨reg, registered, left, registers, verifies⟩
    have ready := register_ready keys clean registration proof verification registers verifies
      place rfl
    cases ran : register enrolment.setting enrolment.serverSlug course identity place with
    | ok done after =>
        rw [ran] at ready
        exact ready
    | error error after =>
        rw [ran] at ready
        exact ready.elim

theorem step_standing (place : Place) (move : enrolment.Move)
    (standing : enrolment.Standing enrolment.Able place) :
    enrolment.Standing enrolment.Able (Enrolment.step place move) := by
  cases move with
  | attempt course => exact standing_registerWithServer course standing
  | elsewhere other =>
      refine ⟨other.keys place standing.1, ?_⟩
      intro absent
      apply other.admits
      apply standing.2
      exact fun enrolled => absent ((other.enrolled place).mpr enrolled)

/-- However earlier attempts went and whatever else happened between them, the next attempt in
which nothing fails ends ready exactly when none of them got the identity enrolled. -/
theorem registration_resumes (enrolment : Enrolment Fq Key) (place : Place)
    (start : enrolment.Standing enrolment.Able place) (moves : List enrolment.Move)
    (course : Course) (clean : course.Clean) :
    EndsReady enrolment.pseudonymId
        (registerWithServer enrolment.setting enrolment.serverSlug course
          (Execution.run Enrolment.step place moves)) ↔
      ¬ enrolment.Enrolled (Execution.run Enrolment.step place moves).server :=
  endsReady_iff clean (Execution.run_invariant (enrolment.Standing enrolment.Able)
    (fun place move => step_standing place move) start moves)

end Resumption

section Sample

/-! A tree of two leaves over hashes that add. -/

def samplePoseidon2 (left right : Fr) : Fr := left + (2 : Nat) * right

def samplePoseidon3 (sk roleCode nodeId : Fr) : Fr := sk + roleCode + nodeId

def readDecimal (text : String) : Nat :=
  Nat.ofDigitChars 10 text.toList 0

def readElement (text : String) : Option Fr :=
  (Hex.decode text).map frFromBeBytesModOrder

/-- The element of a text with its mark. -/
def readMarked (text : String) : Fr :=
  (readElement (String.ofList (text.toList.drop 2))).getD 0

def sampleProve (input : CircuitInput) : MembershipProofOutput :=
  let commitment := samplePoseidon3 (readDecimal input.sk) (readDecimal input.roleCode)
    (readDecimal input.nodeId)
  let element := readMarked (input.pathElements.headD "")
  let bit : Fr := readDecimal (input.pathIndexBits.headD "")
  let root := samplePoseidon2 (bit * (element - commitment) + commitment)
    (bit * (commitment - element) + element)
  { proof := .encoded ⟨["", ""], [["", ""], ["", ""]], ["", ""]⟩
    publicSignals := [frToHex root, frToHex commitment] }

def sampleCurve : Curve Unit Unit :=
  ⟨fun _ => some (), readElement, fun _ => true, fun _ => true,
    fun _ inputs _ => .ok (inputs.length = 2)⟩

def sampleSetting : Setting Unit Unit where
  server :=
    { environment := Environment.sample fun _ => List.replicate 32 0
      curve := sampleCurve
      membershipVkey := ()
      hash := samplePoseidon2
      serverId := 1
      realText := fun _ => "0"
      isWhitespace := Char.isWhitespace }
  errorBody := fun message => "\x7b\"error\":\"" ++ message ++ "\"\x7d"
  fullProve := fun _ => sampleProve

theorem readDecimal_toString (value : Nat) : readDecimal (toString value) = value := by
  unfold readDecimal
  rw [Nat.toString_eq_repr, Nat.toList_repr]
  exact Nat.ofDigitChars_ten_toDigits

theorem readElement_frToHex (value : Fr) : readElement (frToHex value) = some value :=
  decode_frToHex value

theorem readMarked_frToHex (value : Fr) : readMarked ("0x" ++ frToHex value) = value := by
  unfold readMarked
  rw [String.toList_append]
  change (readElement (String.ofList (frToHex value).toList)).getD 0 = value
  rw [String.ofList_toList, readElement_frToHex]
  rfl

theorem parseFr_sampleCurve (value : Fr) : parseFr sampleCurve (frToHex value) = .ok value := by
  have reads (text : String) : sampleCurve.parseFr text = readElement text := rfl
  unfold parseFr
  rw [reads, readElement_frToHex]

theorem sampleSetting_proves : Proves sampleSetting samplePoseidon3 1 := by
  intro random input elements signals satisfies sk roleCode nodeId leafIndex texts elementsLength
    indicesLength pathElements pathIndexBits
  rcases List.length_eq_one_iff.mp elementsLength with ⟨element, isElement⟩
  rcases List.length_eq_one_iff.mp indicesLength with ⟨bit, isBit⟩
  have commitment : signals.commitment =
      samplePoseidon3 input.sk input.roleCode input.nodeId := by
    rw [satisfies.commitment, satisfies.identity, satisfies.identityInputs, sk, roleCode, nodeId]
  have side : signals.merkleProof.pathIndexBits 0 = (bit : Fr) := by
    rw [satisfies.pathIndexBits 0 (by omega), pathIndexBits 0 (by omega), isBit]
    rfl
  have sibling : signals.merkleProof.pathElements 0 = element := by
    rw [satisfies.pathElements 0 (by omega), pathElements 0 (by omega), isElement]
    rfl
  have leaf : signals.merkleProof.currentHash 0 = signals.commitment := by
    rw [satisfies.merkleProof.start, satisfies.leaf]
  have root : signals.root = samplePoseidon2
      (bit * (element - signals.commitment) + signals.commitment)
      (bit * (signals.commitment - element) + element) := by
    have climbs := satisfies.merkleProof
    rw [satisfies.root, climbs.output, climbs.next 0 (by omega), climbs.poseidon 0 (by omega),
      climbs.leftInput 0 (by omega), climbs.rightInput 0 (by omega)]
    unfold Zk.MerkleTreeInclusionProof.left Zk.MerkleTreeInclusionProof.right
    rw [side, sibling, leaf]
    rfl
  have output : (sampleProve (circuitInput input)).publicSignals =
      [frToHex signals.root, frToHex signals.commitment] := by
    unfold sampleProve circuitInput
    rw [texts, isElement, isBit]
    have bitText : ([bit].map toString).headD "" = toString bit := rfl
    have elementText : (([element].map frToHex).map fun s => "0x" ++ s).headD "" =
        "0x" ++ frToHex element := rfl
    dsimp only
    rw [bitText, elementText, readDecimal_toString, readDecimal_toString, readDecimal_toString,
      readDecimal_toString, readMarked_frToHex, ← commitment, ← root]
  refine ⟨_, rfl, ?_, rfl⟩
  change parsePublicSignals sampleCurve (sampleProve (circuitInput input)).publicSignals = _
  rw [output]
  unfold parsePublicSignals
  rw [List.mapM_cons, parseFr_sampleCurve, List.mapM_cons, parseFr_sampleCurve]
  rfl

def sampleEnrolment : Enrolment Unit Unit where
  setting := sampleSetting
  poseidon3 := samplePoseidon3
  depth := 1
  keys := ⟨7, 1, 3⟩
  serverSlug := "home"
  role := .human
  pseudonymId := "0000000000000000000000000000000000000000000000000000000000000000"
  known := rfl
  derived := by decide +kernel
  proves := sampleSetting_proves

def sampleIdentity : StoredIdentity where
  id := "1"
  sk := storedKey 7
  roleCode := 1
  nodeId := 3
  commitmentHex := computeCommitment samplePoseidon3 7 1 3
  pseudonymId := none
  serverSlug := ""
  leafIndex := none
  createdAt := ""

/-- Before the first attempt. -/
def samplePlace : Place where
  store := ⟨.keysReady, some sampleIdentity, none, none, [sampleIdentity], false, .idle⟩
  saved := [sampleIdentity]
  server :=
    { database :=
        { migrated with servers := singleServer }
      memory := ⟨MerkleTree.new samplePoseidon2 1, .default, [], [], []⟩ }

theorem samplePlace_standing :
    sampleEnrolment.Standing sampleEnrolment.Able samplePlace := by
  refine ⟨⟨sampleIdentity, rfl, rfl, rfl, rfl, rfl⟩, fun _ => ⟨?_, ?_⟩⟩
  · exact ⟨[], ⟨rfl, rfl, rfl⟩, by decide, by decide⟩
  · refine ⟨1, rfl, fun nullifierHex _ => ⟨rfl, rfl, ?_, ?_⟩⟩
    · exact fun _ found => nomatch found
    · exact fun _ member => nomatch member

def sampleContext : EventContext := ⟨"", some 0, ⟨id, id⟩, fun _ => none⟩

/-- Nothing fails. -/
def cleanCourse : Course where
  slugSave := none
  registration := .answered sampleContext []
  leafIndexSave := none
  stages := [.computingWitness, .generatingProof]
  proof := .ok 0
  verification := .answered sampleContext []
  pseudonymSave := none
  listing := none
  proofInFlight := false

def failedFetch : Thrown := .error "TypeError" "Failed to fetch"

/-- The request to register is lost on its way. -/
def lostRequest : Course :=
  { cleanCourse with registration := .lost failedFetch }

/-- The answer to the registration is lost. -/
def lostAnswer : Course :=
  { cleanCourse with registration := .unanswered sampleContext [] failedFetch }

theorem cleanCourse_clean : cleanCourse.Clean :=
  ⟨rfl, ⟨_, rfl⟩, rfl, ⟨_, rfl⟩, ⟨_, rfl⟩, rfl, rfl⟩

def afterLostRequest : Place :=
  Execution.run Enrolment.step samplePlace [(.attempt lostRequest : sampleEnrolment.Move)]

/-- A lost request registers nothing. -/
theorem registration_resumes_after_lostRequest :
    EndsReady sampleEnrolment.pseudonymId
        (registerWithServer sampleSetting "home" cleanCourse afterLostRequest) ↔
      ¬ sampleEnrolment.Enrolled afterLostRequest.server :=
  registration_resumes sampleEnrolment samplePlace samplePlace_standing [.attempt lostRequest]
    cleanCourse cleanCourse_clean

/-- After any attempts that failed, the next one in which nothing fails ends ready. -/
def Resumable (enrolment : Enrolment Unit Unit) (place : Place) : Prop :=
  ∀ attempts : List Course,
    Execution.Guarded (fun place course => registerWithServer enrolment.setting
        enrolment.serverSlug course place)
      (fun place course => (registerWithServer enrolment.setting enrolment.serverSlug course
        place).store.phase = .error) place attempts →
    ∀ course : Course, course.Clean →
      EndsReady enrolment.pseudonymId
        (registerWithServer enrolment.setting enrolment.serverSlug course
          (Execution.run (fun place course => registerWithServer enrolment.setting
            enrolment.serverSlug course place) place attempts))

/-- After a lost answer the commitment is registered, and the next attempt is refused. -/
theorem not_resumable : ¬ Resumable sampleEnrolment samplePlace := by
  intro resumable
  have ready := (resumable [lostAnswer] ⟨by decide +kernel, trivial⟩ cleanCourse
    cleanCourse_clean).1
  revert ready
  decide +kernel

end Sample

end Annex.Client
