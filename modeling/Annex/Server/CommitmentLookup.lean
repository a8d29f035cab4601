import Annex.Identity.Pseudonym
import Annex.Server.AntiSybil
import Annex.Server.ProofBinding
import Annex.Server.MessageRelay

namespace Annex.Server

open Db Identity Observe Sql

/-! The two ways to look up the commitment of a pseudonym, by the columns its row was stored
with and, where a row has none, by deriving it, find the same. -/

/-- A row as the migration found it. -/
def withoutColumns (row : ZkNullifier) : ZkNullifier :=
  { row with
    pseudonymId := none
    commitmentHex := none }

/-- The database with the lookup columns of some rows set to `NULL`. -/
def withoutLookup (selected : ZkNullifier → Bool) (database : Database) : Database :=
  { database with
    zkNullifiers := database.zkNullifiers.updateWhere selected withoutColumns }

/-- The columns of a row are what can be derived from a registered commitment. -/
structure Derived (environment : Environment) (database : Database) (row : ZkNullifier)
    (commitment pseudonymId : String) : Prop where
  named : row.pseudonymId = some pseudonymId
  stored : row.commitmentHex = some commitment
  nullifierDerived : deriveNullifierHex environment commitment row.topic = .ok row.nullifierHex
  pseudonymDerived : derivePseudonymId environment row.topic row.nullifierHex = .ok pseudonymId
  registered : ∃ identity ∈ database.vrpIdentities.rows, identity.commitmentHex = commitment

/-- Every row has its columns, as they are derived. -/
def AllDerived (environment : Environment) (database : Database) : Prop :=
  ∀ row ∈ database.zkNullifiers.rows, ∃ commitment pseudonymId,
    Derived environment database row commitment pseudonymId

section Lookup

variable {environment : Environment} {database : Database} {selected : ZkNullifier → Bool}
  {pseudonymId commitment : String}

theorem mem_withoutLookup {row : ZkNullifier} :
    row ∈ (withoutLookup selected database).zkNullifiers.rows ↔
      ∃ old ∈ database.zkNullifiers.rows,
        (if selected old then withoutColumns old else old) = row :=
  List.mem_map

theorem withoutLookup_none : withoutLookup (fun _ => false) database = database := by
  have unchanged : database.zkNullifiers.updateWhere (fun _ => false) withoutColumns =
      database.zkNullifiers :=
    Table.updateWhere_of_none (List.countP_eq_zero.mpr fun _ _ => Bool.false_ne_true)
  exact congrArg (fun zkNullifiers => { database with zkNullifiers }) unchanged

/-- The topic and the nullifier of a row stay. -/
theorem withoutColumns_keeps (old : ZkNullifier) :
    (if selected old then withoutColumns old else old).topic = old.topic ∧
      (if selected old then withoutColumns old else old).nullifierHex = old.nullifierHex := by
  split <;> exact ⟨rfl, rfl⟩

/-- A pseudonym of a row is verified under the row's pair, whichever columns are missing. -/
theorem Derived.verifiedUnder (injective : Function.Injective environment.sha256)
    (derived : AllDerived environment database) {row : ZkNullifier}
    (member : row ∈ database.zkNullifiers.rows)
    (columns : Derived environment database row commitment pseudonymId) :
    VerifiedUnder environment pseudonymId commitment row.topic
      (withoutLookup selected database) := by
  constructor
  · rw [deriveTopicScopedPseudonym, columns.nullifierDerived]
    exact columns.pseudonymDerived
  · cases chosen : selected row with
    | true =>
        right
        refine ⟨withoutColumns row, ?_, rfl, rfl, columns.nullifierDerived,
          columns.registered⟩
        exact mem_withoutLookup.mpr ⟨row, member, if_pos chosen⟩
    | false =>
        left
        refine ⟨row, ?_, columns.named, ?_⟩
        · exact mem_withoutLookup.mpr ⟨row, member, if_neg (Bool.eq_false_iff.mp chosen)⟩
        · rw [columns.stored]
          exact Option.some_ne_none _
  · intro other otherMember named text stored
    rcases mem_withoutLookup.mp otherMember with ⟨old, oldMember, isOther⟩
    split at isOther
    · rw [← isOther] at named
      cases named
    · rw [← isOther] at named stored ⊢
      rcases derived old oldMember with ⟨oldCommitment, oldPseudonym, oldColumns⟩
      have samePseudonym := Option.some.inj (oldColumns.named.symm.trans named)
      have sameText := Option.some.inj (oldColumns.stored.symm.trans stored)
      have pseudonymDerived := oldColumns.pseudonymDerived
      rw [samePseudonym] at pseudonymDerived
      have nullifierDerived := oldColumns.nullifierDerived
      rw [sameText] at nullifierDerived
      exact derivedPair_injective nullifierDerived pseudonymDerived columns.nullifierDerived
        columns.pseudonymDerived injective.injOn
  · intro other _ _ identity _ nullifierDerived pseudonymDerived
    exact derivedPair_injective nullifierDerived pseudonymDerived columns.nullifierDerived
      columns.pseudonymDerived injective.injOn

/-- A pseudonym no row has is registered with no commitment, whichever columns are missing. -/
theorem not_registered_of_unnamed (derived : AllDerived environment database)
    (unnamed : ∀ row ∈ database.zkNullifiers.rows, row.pseudonymId ≠ some pseudonymId) :
    ¬ RegisteredCommitment environment (withoutLookup selected database) pseudonymId
      commitment := by
  intro registered
  cases registered with
  | columns row member named stored =>
      rcases mem_withoutLookup.mp member with ⟨old, oldMember, isRow⟩
      split at isRow
      · rw [← isRow] at named
        cases named
      · rw [← isRow] at named
        exact unnamed old oldMember named
  | nullifier row identity member unset pseudonymDerived known nullifierDerived =>
      rcases mem_withoutLookup.mp member with ⟨old, oldMember, isRow⟩
      rcases derived old oldMember with ⟨oldCommitment, oldPseudonym, oldColumns⟩
      have same := @withoutColumns_keeps selected old
      rw [isRow] at same
      rw [same.1, same.2, oldColumns.pseudonymDerived] at pseudonymDerived
      apply unnamed old oldMember
      rw [oldColumns.named, Except.ok.inj pseudonymDerived]

/-- The lookup answers unless a statement fails. -/
theorem exists_answers_findCommitmentForPseudonym {Memory : Type} (memory : Memory) :
    ∃ found, Answers (findCommitmentForPseudonym environment pseudonymId) database memory
      found := by
  unfold findCommitmentForPseudonym
  simp only [answers_bind, looks_query, answers_query, Except.ok.injEq, exists_eq_left']
  split
  · exact ⟨_, answers_pure.mpr rfl⟩
  · simp only [answers_bind, looks_query, answers_query, Except.ok.injEq, exists_eq_left']
    split
    · exact ⟨none, answers_pure.mpr rfl⟩
    · simp only [answers_bind, looks_query, answers_query, answers_pure, Except.ok.injEq,
        exists_eq_left', exists_eq']

/-- What the lookup finds does not depend on the columns that are missing. -/
theorem findCommitmentForPseudonym_withoutLookup {Memory : Type} (memory : Memory)
    (injective : Function.Injective environment.sha256)
    (derived : AllDerived environment database) (selected : ZkNullifier → Bool)
    (pseudonymId : String) :
    ∃ found,
      Answers (findCommitmentForPseudonym environment pseudonymId) database memory found ∧
      Answers (findCommitmentForPseudonym environment pseudonymId)
        (withoutLookup selected database) memory found := by
  by_cases named : ∃ row ∈ database.zkNullifiers.rows, row.pseudonymId = some pseudonymId
  · rcases named with ⟨row, member, named⟩
    rcases derived row member with ⟨commitment, other, columns⟩
    have same := Option.some.inj (columns.named.symm.trans named)
    rw [same] at columns
    refine ⟨some (commitment, row.topic), ?_, ?_⟩
    · have whole := @Derived.verifiedUnder _ _ (fun _ => false) _ _ injective derived _ member
        columns
      rw [withoutLookup_none] at whole
      exact whole.answers
    · exact (columns.verifiedUnder injective derived member).answers
  · have unnamed : ∀ row ∈ database.zkNullifiers.rows, row.pseudonymId ≠ some pseudonymId :=
      fun row member same => named ⟨row, member, same⟩
    have answersNone (selected : ZkNullifier → Bool) :
        Answers (findCommitmentForPseudonym environment pseudonymId)
          (withoutLookup selected database) memory none := by
      rcases @exists_answers_findCommitmentForPseudonym environment
        (withoutLookup selected database) pseudonymId _ memory with ⟨found, answers⟩
      cases found with
      | none => exact answers
      | some pair =>
          have registered := (findCommitmentForPseudonym_registered answers).1 pair rfl
          exact absurd registered (not_registered_of_unnamed derived unnamed)
    have whole := answersNone fun _ => false
    rw [withoutLookup_none] at whole
    exact ⟨none, whole, answersNone selected⟩

end Lookup

/-! Registrations and verifications store rows whose columns are derived. -/

section Verify

variable {Fq Key : Type} {environment : Environment} {curve : Curve Fq Key}
  {membershipVkey : Key} {now : String} {stateServerId serverId : Nat}
  {payload : VerifyMembershipRequest} {nullifierHex pseudonymId : String} {role : RoleCode}
  {metadata : Option AgentMetadata} {database : Database} {sent : List Outbound}

/-- The row a verification stores. -/
def nullifierRow (payload : VerifyMembershipRequest) (nullifierHex pseudonymId : String)
    (rowId : Nat) : ZkNullifier :=
  ⟨rowId, payload.topic, nullifierHex, some pseudonymId, some payload.commitment⟩

/-- What is recorded without an error has the row. -/
theorem recordPseudonym_nullifiers :
    Ensures (recordPseudonym now stateServerId serverId payload nullifierHex pseudonymId role
        metadata) database sent fun result changed _ =>
      ∀ done, result = .ok done → changed.zkNullifiers =
        database.zkNullifiers.insert (nullifierRow payload nullifierHex pseudonymId) := by
  have rest : Keeps Database.zkNullifiers (do
      emitAndBroadcast now stateServerId pseudonymId
        (.pseudonymDerived pseudonymId payload.topic)
      let _ ← mapErr
        (fun error : IdentityError =>
          ApiError.internalServerError ("failed to create platform identity: " ++ error.text))
        (createPlatformIdentity serverId pseudonymId role)
      let _ ← mapErr
        (fun error : Graph.GraphError =>
          ApiError.internalServerError ("failed to ensure graph node: " ++ error.text))
        (Graph.ensureGraphNode now serverId pseudonymId (roleCodeToNodeType role) metadata)
      emitAndBroadcast now serverId pseudonymId
        (.nodeAdded pseudonymId (roleCodeToNodeType role).debug) : Handler Unit) := by
    refine keeps_bind (emitAndBroadcast_keeps fun _ _ => rfl) fun _ => ?_
    refine keeps_bind (keeps_mapErr (createPlatformIdentity_keeps fun _ _ => rfl)) fun _ => ?_
    exact keeps_bind (keeps_mapErr (Graph.ensureGraphNode_keeps fun _ _ => rfl)) fun _ =>
      emitAndBroadcast_keeps fun _ _ => rfl
  unfold recordPseudonym
  apply ensures_bind
  apply ensures_mapErr
  apply ensures_execute
  · intro _ _ failed
    cases failed
  · intro inserted written
    dsimp only [Except.mapError]
    rw [andThen_ok]
    split at written
    · cases written
    · cases written
      exact ensures_mono (fun _ changed _ held _ _ => held) rest.ensures
  · intro _ _ _ failed
    cases failed

/-- A verification leaves the nullifiers as they are, or adds a row that is derived from a
registered commitment. -/
def StoresDerived (environment : Environment) (payload : VerifyMembershipRequest)
    (database changed : Database) : Prop :=
  changed.zkNullifiers = database.zkNullifiers ∨
    ∃ nullifierHex pseudonymId,
      deriveNullifierHex environment payload.commitment payload.topic = .ok nullifierHex ∧
      derivePseudonymId environment payload.topic nullifierHex = .ok pseudonymId ∧
      (∃ identity ∈ database.vrpIdentities.rows,
        identity.commitmentHex = payload.commitment) ∧
      changed.zkNullifiers =
        database.zkNullifiers.insert (nullifierRow payload nullifierHex pseudonymId)

theorem verifyMembershipHandler_nullifiers :
    Ensures (verifyMembershipHandler environment curve membershipVkey now stateServerId
        payload) database sent fun _ changed _ =>
      StoresDerived environment payload database changed := by
  refine (looks_connect _).ensures_bind (fun _ => Or.inl rfl) fun _ _ => ?_
  refine looks_checkMembershipProof.ensures_bind (fun _ => Or.inl rfl) fun _ _ => ?_
  refine ensures_bind (emitAndBroadcast_ensures _ _ _ _ fun publicEventLog extra => ?_)
  rw [andThen_ok]
  refine (looks_orElse _ _).ensures_bind (fun _ => Or.inl rfl) fun nullifierHex nullifier => ?_
  refine (looks_orElse _ _).ensures_bind (fun _ => Or.inl rfl) fun pseudonymId pseudonym => ?_
  refine (looks_lookupRole _).ensures_bind (fun _ => Or.inl rfl) fun role answersRole => ?_
  have registered := mem_of_registeredRole (registeredRole_of_answers answersRole)
  refine looks_lookupServerId.ensures_bind (fun _ => Or.inl rfl) fun serverId _ => ?_
  refine (looks_agentMetadata _ _ _).ensures_bind (fun _ => Or.inl rfl) fun metadata _ => ?_
  apply ensures_bind
  apply ensures_transaction
  · exact fun _ => Or.inl rfl
  · refine ensures_mono ?_ recordPseudonym_nullifiers
    intro result changed after held
    cases result with
    | error error => exact Or.inl rfl
    | ok done =>
        refine ⟨?_, fun _ => Or.inl rfl⟩
        rw [andThen_ok]
        apply ensures_bind
        rw [ensures_send, andThen_ok, ensures_pure]
        exact Or.inr ⟨nullifierHex, pseudonymId, answers_orElse.mp nullifier,
          answers_orElse.mp pseudonym, registered, held done rfl⟩

end Verify

namespace Issuance

variable {Fq Key : Type} {environment : Environment} {H : Fr → Fr → Fr} {curve : Curve Fq Key}
  {membershipVkey : Key} {stateServerId : Nat}

theorem derived_of_stored {database changed : Database} {payload : VerifyMembershipRequest}
    (derived : AllDerived environment database)
    (stored : StoresDerived environment payload database changed)
    (identities : changed.vrpIdentities = database.vrpIdentities) :
    AllDerived environment changed := by
  have old (row : ZkNullifier) (member : row ∈ database.zkNullifiers.rows) :
      ∃ commitment pseudonymId, Derived environment changed row commitment pseudonymId := by
    rcases derived row member with ⟨commitment, pseudonymId, columns⟩
    refine ⟨commitment, pseudonymId, columns.named, columns.stored, columns.nullifierDerived,
      columns.pseudonymDerived, ?_⟩
    rw [identities]
    exact columns.registered
  intro row member
  rcases stored with same | ⟨nullifierHex, pseudonymId, nullifier, pseudonym, registered, added⟩
  · rw [same] at member
    exact old row member
  · rw [added] at member
    rcases Table.mem_insert.mp member with before | new
    · exact old row before
    · rw [new]
      refine ⟨payload.commitment, pseudonymId, rfl, rfl, nullifier, pseudonym, ?_⟩
      rw [identities]
      exact registered

theorem step_derived {state : Issuance} {call : IssuanceCall}
    (derived : AllDerived environment state.database) :
    AllDerived environment
      (step environment H curve membershipVkey stateServerId state call).database := by
  cases call with
  | register commitmentHex role nodeId now faults =>
      have rows := @registerIdentity_rows state.database H state.tree now commitmentHex
        role nodeId faults
      have nullifiers := @registerIdentity_keeps H _ Database.zkNullifiers now commitmentHex
        role nodeId (fun _ _ => rfl) (fun _ _ => rfl) (fun _ _ => rfl) _
        ⟨state.database, state.tree, faults⟩ rfl
      intro row member
      change row ∈ (registerIdentity H now commitmentHex role nodeId
        ⟨state.database, state.tree, faults⟩).2.database.zkNullifiers.rows at member
      rw [nullifiers] at member
      rcases derived row member with ⟨commitment, pseudonymId, columns⟩
      rcases columns.registered with ⟨identity, known, text⟩
      exact ⟨commitment, pseudonymId, columns.named, columns.stored, columns.nullifierDerived,
        columns.pseudonymDerived, identity, rows.1 identity known, text⟩
  | verify payload now faults =>
      have stored := @verifyMembershipHandler_nullifiers _ _ environment curve membershipVkey
        now stateServerId payload state.database [] faults
      have identities := @verifyMembershipHandler_vrpIdentities _ _ environment curve
        membershipVkey now stateServerId payload ⟨state.database, [], faults⟩
      have kept := derived_of_stored derived stored identities
      unfold step
      dsimp only
      cases ran : verifyMembershipHandler environment curve membershipVkey now stateServerId
          payload ⟨state.database, [], faults⟩ with
      | mk result after =>
          rw [ran] at kept
          cases result <;> exact kept

/-- After any registrations and verifications, setting the lookup columns of any rows to `NULL`
does not change what is found for any pseudonym. -/
theorem lookups_agree (environment : Environment)
    (injective : Function.Injective environment.sha256) (H : Fr → Fr → Fr)
    (curve : Curve Fq Key) (membershipVkey : Key) (stateServerId depth : Nat)
    (database : Database) (fresh : database.zkNullifiers = Table.empty)
    (calls : List IssuanceCall) (selected : ZkNullifier → Bool) (pseudonymId : String)
    (Memory : Type) (memory : Memory) :
    (findCommitmentForPseudonym environment pseudonymId
        ⟨withoutLookup selected (Execution.run
          (step environment H curve membershipVkey stateServerId)
          (initial H depth database) calls).database, memory, []⟩).1 =
      (findCommitmentForPseudonym environment pseudonymId
        ⟨(Execution.run (step environment H curve membershipVkey stateServerId)
          (initial H depth database) calls).database, memory, []⟩).1 := by
  have started : AllDerived environment (initial H depth database).database := by
    intro row member
    rw [show (initial H depth database).database = database from rfl, fresh] at member
    cases member
  have derived := Execution.run_invariant
    (fun state : Issuance => AllDerived environment state.database)
    (fun state call derived =>
      @step_derived _ _ environment H curve membershipVkey stateServerId state call derived)
    started calls
  rcases findCommitmentForPseudonym_withoutLookup memory injective derived selected
    pseudonymId with ⟨found, whole, without⟩
  rw [whole, without]

/-- The row of the canonical commitment, with its columns and without. -/
theorem lookups_agree_canonical :
    (findCommitmentForPseudonym aliasEnvironment canonicalPseudonym
        ⟨withoutLookup (fun _ => true) canonicalRun.database, (), []⟩).1 =
      .ok (some (canonicalText, aliasTopic)) := by
  have found : (findCommitmentForPseudonym aliasEnvironment canonicalPseudonym
      ⟨canonicalRun.database, (), []⟩).1 = .ok (some (canonicalText, aliasTopic)) := by
    decide +kernel
  exact (lookups_agree aliasEnvironment aliasDigest.injective aliasHash aliasCurve () 1 1
    aliasDatabase rfl _ (fun _ => true) canonicalPseudonym Unit ()).trans found

end Issuance

end Annex.Server
