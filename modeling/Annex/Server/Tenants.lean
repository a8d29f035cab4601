import Annex.Server.ActiveAgreements
import Annex.Server.FederationCorrectness

namespace Annex.Server

open Db Federation Rtx Sql Vrp

/-! Several servers on one database: whose agreements a re-evaluation changes, and whose
agreements let the messages and the bundles of a peer in. -/

/-- The agreements of the other servers. -/
def otherAgreements (serverId : Nat) (database : Database) : List FederationAgreement :=
  database.federationAgreements.rows.filter (·.localServerId ≠ serverId)

/-- The database with no agreements but those of the server. -/
def withOwnAgreements (serverId : Nat) (database : Database) : Database :=
  { database with
    federationAgreements :=
      database.federationAgreements.deleteWhere (·.localServerId ≠ serverId) }

/-- The re-evaluation that the server runs leaves the other servers' agreements alone. -/
def RecalculationKeepsOthers (environment : Environment) (clock : Option Nat) (now : String)
    (serverId : Nat) (policy : ServerPolicy) (database : Database) (sent : List Outbound)
    (faults : List (Option String)) : Prop :=
  otherAgreements serverId (recalculateFederationAgreements environment clock now serverId
    policy ⟨database, sent, faults⟩).2.database = otherAgreements serverId database

/-- If the re-evaluation comes to its commit, no active agreement of another server has a
handshake that this server's policy gives another status or scope. -/
def OthersUnchanged (environment : Environment) (clock : Option Nat) (serverId : Nat)
    (policy : ServerPolicy) (database : Database) (faults : List (Option String)) : Prop :=
  Committed (recalculationSlots environment clock policy database) faults →
    ∀ localAnchor, VrpAnchorSnapshot.new environment clock policy.principles
        policy.prohibitedActions = .ok localAnchor →
      ∀ pair ∈ activeAgreements database, pair.1.localServerId ≠ serverId →
        reevaluate environment localAnchor policy pair.1 pair.2 = .ok none

/-- The message gate lets the instance in with the server's own agreements if it does so with
all of them. -/
def MessageGateOwn (serverId remoteInstanceId : Nat) (database : Database) : Prop :=
  anyActiveAgreement remoteInstanceId database = true →
    anyActiveAgreement remoteInstanceId (withOwnAgreements serverId database) = true

/-- The bundle gate grants the instance a scope. -/
def RtxGranted (remoteInstanceId : Nat) (database : Database) (scope : VrpTransferScope) :
    Prop :=
  agreementScope remoteInstanceId database = some scope.toString ∧ scope ≠ .noTransfer

/-- The bundle gate grants the instance with the server's own agreements what it grants with
all of them. -/
def RtxGateOwn (serverId remoteInstanceId : Nat) (database : Database) : Prop :=
  ∀ scope, RtxGranted remoteInstanceId database scope →
    RtxGranted remoteInstanceId (withOwnAgreements serverId database) scope

/-- The agreement that the bundle gate reads. -/
def agreementRead (remoteInstanceId : Nat) (database : Database) : Option FederationAgreement :=
  database.federationAgreements.rows.find? fun row =>
    row.remoteInstanceId = remoteInstanceId && row.active

/-- Where another server has an active agreement with the instance, the server has one too. -/
def AgreesToo (serverId remoteInstanceId : Nat) (database : Database) : Prop :=
  (∃ row ∈ database.federationAgreements.rows, row.localServerId ≠ serverId ∧
      row.remoteInstanceId = remoteInstanceId ∧ row.active = true) →
    ∃ row ∈ database.federationAgreements.rows, row.localServerId = serverId ∧
      row.remoteInstanceId = remoteInstanceId ∧ row.active = true

/-- Where the agreement that the bundle gate reads is another server's and permits transfers,
the first active one of the server has the same scope. -/
def GrantsToo (serverId remoteInstanceId : Nat) (database : Database) : Prop :=
  ∀ row, agreementRead remoteInstanceId database = some row → row.localServerId ≠ serverId →
    ∀ scope : VrpTransferScope, row.transferScope = scope.toString → scope ≠ .noTransfer →
      ∃ own, agreementRead remoteInstanceId (withOwnAgreements serverId database) = some own ∧
        own.transferScope = row.transferScope

section Recalculate

variable {environment : Environment} {localAnchor : VrpAnchorSnapshot} {policy : ServerPolicy}
  {serverId : Nat} {database : Database}

/-- The updates leave an agreement as it is just when none of them is its own. -/
theorem foldl_agreementAfter_eq_self_iff {updates : List FederationUpdate}
    {row : FederationAgreement} (now : String)
    (collected : federationUpdates environment localAnchor policy (activeAgreements database) =
      .ok updates) (member : row ∈ database.federationAgreements.rows) :
    updates.foldl (agreementAfter now) row = row ↔ ∀ update ∈ updates, row.id ≠ update.id := by
  constructor
  · intro unchanged update updateMember same
    rcases foldl_agreementAfter_own now ⟨update, updateMember, same⟩ with
      ⟨shown, shownMember, sameId, status, scope⟩
    rw [unchanged] at status scope
    rcases source_of_update collected shownMember with ⟨pair, pairMember, named, evaluated⟩
    have isRow : pair.1 = row :=
      Table.eq_of_key _ (mem_activeAgreements.mp pairMember).1 member (named.trans sameId.symm)
    rw [isRow] at evaluated
    rcases (reevaluate_some evaluated).2 with differs | differs
    · exact differs status.symm
    · exact differs scope.symm
  · exact foldl_agreementAfter_other now

/-- An active agreement has no update just when its re-evaluation brings nothing new. -/
theorem no_update_iff {updates : List FederationUpdate} {row : FederationAgreement}
    (collected : federationUpdates environment localAnchor policy (activeAgreements database) =
      .ok updates) (member : row ∈ database.federationAgreements.rows) :
    (∀ update ∈ updates, row.id ≠ update.id) ↔
      ∀ pair ∈ activeAgreements database, pair.1 = row →
        reevaluate environment localAnchor policy pair.1 pair.2 = .ok none := by
  constructor
  · intro without pair pairMember isRow
    rw [federationUpdates_eq_collect] at collected
    rcases (collect_ok collected).1 pair pairMember with ⟨outcome, evaluated, kept⟩
    cases outcome with
    | none => exact evaluated
    | some update =>
        have named := (reevaluate_some evaluated).1
        rw [isRow] at named
        exact absurd named.symm (without update (kept update rfl))
  · intro settled update updateMember same
    rcases source_of_update collected updateMember with ⟨pair, pairMember, named, evaluated⟩
    have isRow : pair.1 = row :=
      Table.eq_of_key _ (mem_activeAgreements.mp pairMember).1 member (named.trans same.symm)
    rw [settled pair pairMember isRow] at evaluated
    cases evaluated

theorem otherAgreements_updated {changed : Database} {updates : List FederationUpdate}
    {now : String} (updated : changed.federationAgreements =
      updatedAgreements now updates database.federationAgreements) :
    otherAgreements serverId changed =
      (otherAgreements serverId database).map fun row =>
        updates.foldl (agreementAfter now) row := by
  unfold otherAgreements
  rw [updated, rows_updatedAgreements, List.filter_map]
  congr 1
  apply List.filter_congr
  intro row _
  dsimp only [Function.comp]
  rw [(foldl_agreementAfter_keeps now updates row).2.1]

theorem recalculationKeepsOthers_iff (clock : Option Nat) (now : String)
    (sent : List Outbound) (faults : List (Option String)) :
    RecalculationKeepsOthers environment clock now serverId policy database sent faults ↔
      OthersUnchanged environment clock serverId policy database faults := by
  have concludes := @recalculateFederationAgreements_concludes environment policy database sent
    clock now serverId faults
  unfold RecalculationKeepsOthers OthersUnchanged
  by_cases committed : Committed (recalculationSlots environment clock policy database) faults
  · rcases concludes.1 committed with ⟨_, -, localAnchor, updates, anchored, collected, updated⟩
    rw [otherAgreements_updated updated, imp_iff_right committed]
    have each : (otherAgreements serverId database).map
          (fun row => updates.foldl (agreementAfter now) row) =
            otherAgreements serverId database ↔
        ∀ row ∈ otherAgreements serverId database, updates.foldl (agreementAfter now) row =
          row := by
      nth_rewrite 2 [← List.map_id (otherAgreements serverId database)]
      exact List.map_inj_left
    rw [each]
    constructor
    · intro unchanged anchor taken pair pairMember foreign
      rw [anchored, Except.ok.injEq] at taken
      rw [← taken]
      have member := (mem_activeAgreements.mp pairMember).1
      have kept := unchanged pair.1 (List.mem_filter.mpr ⟨member, decide_eq_true foreign⟩)
      rw [foldl_agreementAfter_eq_self_iff now collected member,
        no_update_iff collected member] at kept
      exact kept pair pairMember rfl
    · intro settled row rowMember
      rcases List.mem_filter.mp rowMember with ⟨member, foreign⟩
      rw [foldl_agreementAfter_eq_self_iff now collected member,
        no_update_iff collected member]
      intro pair pairMember isRow
      apply settled localAnchor anchored pair pairMember
      rw [isRow]
      exact of_decide_eq_true foreign
  · rw [(concludes.2 committed).2]
    exact iff_of_true rfl fun done => absurd done committed

end Recalculate

section Gates

variable {serverId remoteInstanceId : Nat} {database : Database}

theorem anyActiveAgreement_iff :
    anyActiveAgreement remoteInstanceId database = true ↔
      ∃ row ∈ database.federationAgreements.rows,
        row.remoteInstanceId = remoteInstanceId ∧ row.active = true := by
  simp [anyActiveAgreement]

theorem mem_withOwnAgreements {row : FederationAgreement} :
    row ∈ (withOwnAgreements serverId database).federationAgreements.rows ↔
      row ∈ database.federationAgreements.rows ∧ row.localServerId = serverId := by
  simp [withOwnAgreements]

theorem messageGateOwn_iff :
    MessageGateOwn serverId remoteInstanceId database ↔
      AgreesToo serverId remoteInstanceId database := by
  unfold MessageGateOwn AgreesToo
  rw [anyActiveAgreement_iff, anyActiveAgreement_iff]
  simp only [mem_withOwnAgreements, and_assoc]
  constructor
  · intro own foreign
    rcases foreign with ⟨row, member, -, agreed⟩
    exact own ⟨row, member, agreed⟩
  · intro own active
    rcases active with ⟨row, member, agreed⟩
    by_cases mine : row.localServerId = serverId
    · exact ⟨row, member, mine, agreed⟩
    · exact own ⟨row, member, mine, agreed⟩

theorem agreementScope_eq :
    agreementScope remoteInstanceId database =
      (agreementRead remoteInstanceId database).map FederationAgreement.transferScope :=
  rfl

/-- An own agreement that is the first of all is the first of the own ones. -/
theorem agreementRead_own {row : FederationAgreement}
    (read : agreementRead remoteInstanceId database = some row)
    (own : row.localServerId = serverId) :
    agreementRead remoteInstanceId (withOwnAgreements serverId database) = some row := by
  rcases List.find?_eq_some_iff_append.mp read with ⟨selected, before, after, rows, none⟩
  apply List.find?_eq_some_iff_append.mpr
  refine ⟨selected, before.filter (·.localServerId = serverId),
    after.filter (·.localServerId = serverId), ?_, ?_⟩
  · have kept : (withOwnAgreements serverId database).federationAgreements.rows =
        database.federationAgreements.rows.filter (·.localServerId = serverId) := by
      apply List.filter_congr
      simp
    rw [kept, rows, List.filter_append, List.filter_cons, if_pos (decide_eq_true own)]
  · intro other member
    exact none other (List.mem_of_mem_filter member)

theorem rtxGateOwn_iff :
    RtxGateOwn serverId remoteInstanceId database ↔
      GrantsToo serverId remoteInstanceId database := by
  unfold RtxGateOwn RtxGranted GrantsToo
  simp only [agreementScope_eq, Option.map_eq_some_iff]
  constructor
  · intro own row read _ scope granted permitted
    rcases (own scope ⟨⟨row, read, granted⟩, permitted⟩).1 with ⟨found, ownRead, same⟩
    exact ⟨found, ownRead, same.trans granted.symm⟩
  · intro own scope granted
    rcases granted with ⟨⟨row, read, granted⟩, permitted⟩
    refine ⟨?_, permitted⟩
    by_cases mine : row.localServerId = serverId
    · exact ⟨row, agreementRead_own read mine, granted⟩
    · rcases own row read mine scope granted permitted with ⟨found, ownRead, same⟩
      exact ⟨found, ownRead, same.trans granted⟩

end Gates

section Handlers

variable {Fq Key : Type} {server : FederationServer Fq Key} {database : Database}
  {sent : List Outbound} {remote : Instance}

/-- A message that is accepted is accepted with the server's own agreements just when they let
its sender through the gate. -/
theorem checkFederatedMessage_own_iff {envelope : FederatedMessageEnvelope}
    {pseudonymId : String}
    (accepted : Answers (checkFederatedMessage server envelope) database sent pseudonymId)
    (known : findInstance envelope.originatingServer database = some remote) :
    Answers (checkFederatedMessage server envelope)
        (withOwnAgreements server.serverId database) sent pseudonymId ↔
      anyActiveAgreement remote.id (withOwnAgreements server.serverId database) = true := by
  rw [answers_checkFederatedMessage] at accepted ⊢
  constructor
  · intro own
    rcases own with ⟨other, identity, row, admitted, -⟩
    have isRemote : other = remote := Option.some.inj (admitted.known.symm.trans known)
    rw [← isRemote]
    exact admitted.agreed
  · intro agreed
    rcases accepted with ⟨other, identity, row, admitted, same⟩
    have isRemote : other = remote := Option.some.inj (admitted.known.symm.trans known)
    rw [← isRemote] at agreed
    exact ⟨other, identity, row, ⟨admitted.known, admitted.active, agreed, admitted.signed,
      admitted.attested, admitted.fresh, admitted.channel, admitted.federated,
      admitted.member⟩, same⟩

/-- A bundle that is accepted is accepted alike with the server's own agreements just when they
grant its sender the same scope. -/
theorem checkFederatedRtx_own_iff {envelope : FederatedRtxEnvelope} {scope : VrpTransferScope}
    {scopedBundle : ReflectionSummaryBundle}
    (accepted : Answers (checkFederatedRtx server envelope) database sent (scope, scopedBundle))
    (known : findInstance envelope.relayingServer database = some remote) :
    Answers (checkFederatedRtx server envelope) (withOwnAgreements server.serverId database)
        sent (scope, scopedBundle) ↔
      RtxGranted remote.id (withOwnAgreements server.serverId database) scope := by
  rw [answers_checkFederatedRtx] at accepted ⊢
  constructor
  · intro own
    rcases own with ⟨⟨other, admitted⟩, -⟩
    have isRemote : other = remote := Option.some.inj (admitted.known.symm.trans known)
    rw [← isRemote]
    exact ⟨admitted.agreed, admitted.permitted⟩
  · intro granted
    rcases accepted with ⟨⟨other, admitted⟩, enforced⟩
    have isRemote : other = remote := Option.some.inj (admitted.known.symm.trans known)
    rw [← isRemote] at granted
    exact ⟨⟨other, admitted.known, admitted.active, admitted.acyclic, admitted.originKnown,
      granted.1, granted.2, admitted.signed, admitted.wellFormed⟩, enforced⟩

end Handlers

/-- A server's re-evaluation spares the other servers' agreements just when it has nothing new
to say of them, and its gates rest on its own just when these grant what the others do. -/
theorem tenants_apart_iff (environment : Environment) (serverId : Nat) (database : Database) :
    (∀ clock now policy sent faults,
      RecalculationKeepsOthers environment clock now serverId policy database sent faults ↔
        OthersUnchanged environment clock serverId policy database faults) ∧
    (∀ remoteInstanceId, MessageGateOwn serverId remoteInstanceId database ↔
      AgreesToo serverId remoteInstanceId database) ∧
    ∀ remoteInstanceId, RtxGateOwn serverId remoteInstanceId database ↔
      GrantsToo serverId remoteInstanceId database :=
  ⟨fun clock now _ sent faults => recalculationKeepsOthers_iff clock now sent faults,
    fun _ => messageGateOwn_iff, fun _ => rtxGateOwn_iff⟩

section Sample

/-! The second server of the database has an agreement with the peer, the first has none and no
federation. -/

def tenantDatabase : Database :=
  (FederationState.step sampleEnvironment 2 ⟨sampleDatabase, samplePolicy⟩
    (FederationState.sampleCall (.handshake 1 (alignedHandshake []) (some 0)))).database

def secludedPolicy : ServerPolicy :=
  { samplePolicy with federationEnabled := false }

/-- The first server's re-evaluation changes the second server's agreement, which lets the
peer's messages and bundles into the first server. -/
theorem not_tenants_apart :
    ¬ RecalculationKeepsOthers sampleEnvironment (some 1) "2026-01-02 00:00:00" 1 secludedPolicy
        tenantDatabase [] [] ∧
      ¬ MessageGateOwn 1 1 tenantDatabase ∧ ¬ RtxGateOwn 1 1 tenantDatabase := by
  refine ⟨by unfold RecalculationKeepsOthers; decide +kernel, ?_, ?_⟩
  · intro own
    exact absurd (own (by decide +kernel)) (by decide +kernel)
  · intro own
    have granted := own .reflectionSummariesOnly ⟨by decide +kernel, by decide⟩
    exact absurd granted.1 (by decide +kernel)

end Sample

end Annex.Server
