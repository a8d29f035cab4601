import Annex.Server.EventStream
import Annex.Server.FederationLifecycle

namespace Annex.Server

open Db Federation Sql Vrp

/-! What a re-evaluation leaves of each agreement. -/

section Rows

variable (now : String)

/-- An agreement after an update, which is its own or not. -/
def agreementAfter (row : FederationAgreement) (update : FederationUpdate) :
    FederationAgreement :=
  if row.id = update.id then
    { row with
      alignmentStatus := update.report.alignmentStatus.toString
      transferScope := update.report.transferScope.toString
      agreementJson := .encoded update.report
      active := decide (update.report.alignmentStatus ≠ .conflict)
      updatedAt := now }
  else row

theorem rows_updatedAgreements (updates : List FederationUpdate)
    (agreements : Table FederationAgreement) :
    (updatedAgreements now updates agreements).rows =
      agreements.rows.map fun row => updates.foldl (agreementAfter now) row := by
  induction updates generalizing agreements with
  | nil => simp [updatedAgreements]
  | cons update rest induction =>
      refine (induction (updateAgreement now update agreements)).trans ?_
      rw [updateAgreement, Table.rows_updateWhere, List.map_map]
      apply List.map_congr_left
      intro row _
      simp [agreementAfter]

/-- No update touches whose an agreement is, and with whom. -/
theorem foldl_agreementAfter_keeps (updates : List FederationUpdate)
    (row : FederationAgreement) :
    (updates.foldl (agreementAfter now) row).id = row.id ∧
      (updates.foldl (agreementAfter now) row).localServerId = row.localServerId ∧
      (updates.foldl (agreementAfter now) row).remoteInstanceId = row.remoteInstanceId := by
  induction updates generalizing row with
  | nil => exact ⟨rfl, rfl, rfl⟩
  | cons update rest induction =>
      have first : (agreementAfter now row update).id = row.id ∧
          (agreementAfter now row update).localServerId = row.localServerId ∧
          (agreementAfter now row update).remoteInstanceId = row.remoteInstanceId := by
        unfold agreementAfter
        split <;> exact ⟨rfl, rfl, rfl⟩
      rw [List.foldl_cons]
      rcases induction (agreementAfter now row update) with ⟨id, localServer, remote⟩
      exact ⟨id.trans first.1, localServer.trans first.2.1, remote.trans first.2.2⟩

/-- Updates of other agreements leave an agreement alone. -/
theorem foldl_agreementAfter_other {updates : List FederationUpdate}
    {row : FederationAgreement} (others : ∀ update ∈ updates, row.id ≠ update.id) :
    updates.foldl (agreementAfter now) row = row := by
  induction updates with
  | nil => rfl
  | cons update rest induction =>
      rw [List.forall_mem_cons] at others
      rw [List.foldl_cons, agreementAfter, if_neg others.1]
      exact induction others.2

/-- An agreement with an update of its own shows the outcome of one of them. -/
theorem foldl_agreementAfter_own {updates : List FederationUpdate}
    {row : FederationAgreement} (own : ∃ update ∈ updates, row.id = update.id) :
    ∃ update ∈ updates, row.id = update.id ∧
      (updates.foldl (agreementAfter now) row).alignmentStatus =
        update.report.alignmentStatus.toString ∧
      (updates.foldl (agreementAfter now) row).transferScope =
        update.report.transferScope.toString := by
  induction updates generalizing row with
  | nil =>
      rcases own with ⟨update, member, -⟩
      cases member
  | cons first rest induction =>
      rw [List.foldl_cons]
      have sameId : (agreementAfter now row first).id = row.id := by
        unfold agreementAfter
        split <;> rfl
      by_cases later : ∃ update ∈ rest, row.id = update.id
      · rw [← sameId] at later
        rcases induction later with ⟨update, member, same, shown⟩
        exact ⟨update, List.mem_cons_of_mem _ member, sameId.symm.trans same, shown⟩
      · have isFirst : row.id = first.id := by
          rcases own with ⟨update, member, same⟩
          rcases List.mem_cons.mp member with isFirst | member
          · rw [← isFirst]
            exact same
          · exact absurd ⟨update, member, same⟩ later
        have others : ∀ update ∈ rest, (agreementAfter now row first).id ≠ update.id := by
          intro update member same
          exact later ⟨update, member, sameId.symm.trans same⟩
        refine ⟨first, List.mem_cons_self, isFirst, ?_⟩
        rw [foldl_agreementAfter_other now others, agreementAfter, if_pos isFirst]
        exact ⟨rfl, rfl⟩

end Rows

section Recalculate

variable {environment : Environment} {localAnchor : VrpAnchorSnapshot} {policy : ServerPolicy}
  {database : Database} {sent : List Outbound}

theorem mem_activeAgreements {pair : FederationAgreement × Instance} :
    pair ∈ activeAgreements database ↔
      pair.1 ∈ database.federationAgreements.rows ∧ pair.1.active = true ∧
        database.instances.rows.find? (·.id = pair.1.remoteInstanceId) = some pair.2 := by
  unfold activeAgreements
  simp only [List.mem_filterMap, List.mem_filter, Option.map_eq_some_iff]
  constructor
  · intro listed
    rcases listed with ⟨row, ⟨member, active⟩, found, joined, same⟩
    rw [← same]
    exact ⟨member, active, joined⟩
  · intro joined
    exact ⟨pair.1, ⟨joined.1, joined.2.1⟩, pair.2, joined.2.2, rfl⟩

/-- An update is that of an active agreement, whose status or scope it changes. -/
theorem source_of_update {updates : List FederationUpdate} {update : FederationUpdate}
    (collected : federationUpdates environment localAnchor policy (activeAgreements database) =
      .ok updates) (member : update ∈ updates) :
    ∃ pair ∈ activeAgreements database, pair.1.id = update.id ∧
      reevaluate environment localAnchor policy pair.1 pair.2 = .ok (some update) := by
  rw [federationUpdates_eq_collect] at collected
  rcases (collect_ok collected).2 update member with ⟨pair, pairMember, evaluated⟩
  exact ⟨pair, pairMember, (reevaluate_some evaluated).1.symm, evaluated⟩

/-- What a re-evaluation comes to, up to its commit. -/
def recalculationSlots (environment : Environment) (clock : Option Nat) (policy : ServerPolicy)
    (database : Database) : List Slot :=
  evaluationSlots
    (VrpAnchorSnapshot.new environment clock policy.principles policy.prohibitedActions)
    fun localAnchor => federationUpdates environment localAnchor policy
      (activeAgreements database)

/-- A re-evaluation makes all of its updates, or nothing. -/
theorem recalculateFederationAgreements_concludes (clock : Option Nat) (now : String)
    (serverId : Nat) :
    Concludes (recalculationSlots environment clock policy database)
      (recalculateFederationAgreements environment clock now serverId policy) database sent
      fun _ changed => ∃ localAnchor updates,
        VrpAnchorSnapshot.new environment clock policy.principles policy.prohibitedActions =
          .ok localAnchor ∧
        federationUpdates environment localAnchor policy (activeAgreements database) =
          .ok updates ∧
        changed.federationAgreements =
          updatedAgreements now updates database.federationAgreements := by
  exact concludes_evaluation fun _ _ => follows_applyUpdates

end Recalculate

/-! How many agreements of a server with an instance are active, in the runs of all the servers
that share the database. -/

/-- No two active agreements are of one server with one instance. -/
def AtMostOneActive (database : Database) : Prop :=
  ∀ left ∈ database.federationAgreements.rows, ∀ right ∈ database.federationAgreements.rows,
    left.active = true → right.active = true → left.localServerId = right.localServerId →
      left.remoteInstanceId = right.remoteInstanceId → left = right

/-- Agreements may have ended, but each is still there, between the same two. -/
def OnlyEnds (before after : Database) : Prop :=
  ∃ change : FederationAgreement → FederationAgreement,
    after.federationAgreements.rows = before.federationAgreements.rows.map change ∧
      ∀ row ∈ before.federationAgreements.rows,
        (change row).localServerId = row.localServerId ∧
          (change row).remoteInstanceId = row.remoteInstanceId ∧
            ((change row).active = true → row.active = true)

section Ends

variable {environment : Environment} {policy : ServerPolicy} {database changed : Database}

theorem onlyEnds_of_eq
    (unchanged : changed.federationAgreements = database.federationAgreements) :
    OnlyEnds database changed := by
  refine ⟨id, ?_, fun _ _ => ⟨rfl, rfl, id⟩⟩
  rw [unchanged, List.map_id]

theorem AtMostOneActive.onlyEnds (once : AtMostOneActive database)
    (ends : OnlyEnds database changed) : AtMostOneActive changed := by
  rcases ends with ⟨change, rows, keeps⟩
  intro left leftMember right rightMember leftActive rightActive sameServer sameInstance
  rw [rows] at leftMember rightMember
  rcases List.mem_map.mp leftMember with ⟨leftOld, leftOldMember, isLeft⟩
  rcases List.mem_map.mp rightMember with ⟨rightOld, rightOldMember, isRight⟩
  have leftKept := keeps leftOld leftOldMember
  have rightKept := keeps rightOld rightOldMember
  rw [isLeft] at leftKept
  rw [isRight] at rightKept
  have same : leftOld = rightOld := by
    apply once leftOld leftOldMember rightOld rightOldMember
    · exact leftKept.2.2 leftActive
    · exact rightKept.2.2 rightActive
    · rw [← leftKept.1, ← rightKept.1, sameServer]
    · rw [← leftKept.2.1, ← rightKept.2.1, sameInstance]
  rw [← isLeft, ← isRight, same]

theorem deactivate_onlyEnds (selected : FederationAgreement → Bool) (now : String) :
    OnlyEnds database (deactivate selected now database) := by
  refine ⟨_, rfl, ?_⟩
  intro row _
  dsimp only
  split
  · exact ⟨rfl, rfl, fun active => nomatch active⟩
  · exact ⟨rfl, rfl, id⟩

/-- Only active agreements are re-evaluated. -/
theorem updatedAgreements_onlyEnds {localAnchor : VrpAnchorSnapshot}
    {updates : List FederationUpdate} {now : String}
    (collected : federationUpdates environment localAnchor policy (activeAgreements database) =
      .ok updates)
    (updated : changed.federationAgreements =
      updatedAgreements now updates database.federationAgreements) :
    OnlyEnds database changed := by
  refine ⟨fun row => updates.foldl (agreementAfter now) row, ?_, ?_⟩
  · rw [updated, rows_updatedAgreements]
  · intro row member
    have kept := foldl_agreementAfter_keeps now updates row
    refine ⟨kept.2.1, kept.2.2, ?_⟩
    intro active
    dsimp only at active
    by_cases own : ∃ update ∈ updates, row.id = update.id
    · rcases own with ⟨update, updateMember, same⟩
      rcases source_of_update collected updateMember with ⟨pair, pairMember, named, -⟩
      have source := mem_activeAgreements.mp pairMember
      have isRow : pair.1 = row := Table.eq_of_key _ source.1 member (named.trans same.symm)
      rw [← isRow]
      exact source.2.1
    · have untouched : updates.foldl (agreementAfter now) row = row := by
        apply foldl_agreementAfter_other
        intro update updateMember same
        exact own ⟨update, updateMember, same⟩
      rw [untouched] at active
      exact active

theorem recalculateFederationAgreements_onlyEnds (clock : Option Nat) (now : String)
    (serverId : Nat) (sent : List Outbound) (faults : List (Option String)) :
    OnlyEnds database (recalculateFederationAgreements environment clock now serverId policy
      ⟨database, sent, faults⟩).2.database := by
  have concludes := @recalculateFederationAgreements_concludes environment policy database sent
    clock now serverId faults
  by_cases committed : Committed (recalculationSlots environment clock policy database) faults
  · rcases concludes.1 committed with ⟨_, -, localAnchor, updates, -, collected, updated⟩
    exact updatedAgreements_onlyEnds collected updated
  · rw [(concludes.2 committed).2]
    exact onlyEnds_of_eq rfl

theorem revokeAgreement_onlyEnds {Memory : Type} (now : String)
    (agreementId localServerId : Nat) (memory : Memory) (faults : List (Option String)) :
    OnlyEnds database (revokeAgreement now agreementId localServerId
      ⟨database, memory, faults⟩).2.database := by
  have ensures : Ensures (revokeAgreement now agreementId localServerId) database memory
      fun _ changed _ => OnlyEnds database changed := by
    apply ensures_statement
    · exact fun _ => onlyEnds_of_eq rfl
    · intro revoked changed done
      cases done
      exact deactivate_onlyEnds _ now
    · exact fun _ _ => onlyEnds_of_eq rfl
  exact ensures faults

theorem expireStaleAgreements_onlyEnds {Memory : Type} (now : String) (localServerId : Nat)
    (stale : String → Bool) (memory : Memory) (faults : List (Option String)) :
    OnlyEnds database (expireStaleAgreements now localServerId stale
      ⟨database, memory, faults⟩).2.database := by
  have ensures : Ensures (expireStaleAgreements now localServerId stale) database memory
      fun _ changed _ => OnlyEnds database changed := by
    apply ensures_statement
    · exact fun _ => onlyEnds_of_eq rfl
    · intro count changed done
      cases done
      exact deactivate_onlyEnds _ now
    · exact fun _ _ => onlyEnds_of_eq rfl
  exact ensures faults

end Ends

section Replace

variable {database changed : Database} {localServerId remoteInstanceId : Nat}
  {report : VrpValidationReport} {handshake : Option VrpFederationHandshake} {now : String}

/-- The active agreement of the server with the instance was ended, and a new one inserted. -/
def Replaced (localServerId remoteInstanceId : Nat) (report : VrpValidationReport)
    (handshake : Option VrpFederationHandshake) (now : String) (before after : Database) :
    Prop :=
  after.federationAgreements =
    (deactivateBetween localServerId remoteInstanceId now before).federationAgreements.insert
      (newAgreement localServerId remoteInstanceId report handshake now)
      (key_newAgreement localServerId remoteInstanceId report handshake now)

/-- No agreement of the two is active any more. -/
theorem inactive_between {row : FederationAgreement}
    (member : row ∈
      (deactivateBetween localServerId remoteInstanceId now database).federationAgreements.rows)
    (sameServer : row.localServerId = localServerId)
    (sameInstance : row.remoteInstanceId = remoteInstanceId) : row.active = false := by
  rcases List.mem_map.mp member with ⟨old, oldMember, isRow⟩
  rw [← isRow] at sameServer sameInstance ⊢
  split at sameServer
  · next selected => rw [if_pos selected]
  · next unselected =>
    rw [if_neg unselected] at sameInstance ⊢
    simpa [sameServer, sameInstance] using unselected

theorem Replaced.active_eq_new
    (replaced : Replaced localServerId remoteInstanceId report handshake now database changed)
    {row : FederationAgreement} (member : row ∈ changed.federationAgreements.rows)
    (sameServer : row.localServerId = localServerId)
    (sameInstance : row.remoteInstanceId = remoteInstanceId) (active : row.active = true) :
    row = newAgreement localServerId remoteInstanceId report handshake now
      (database.federationAgreements.lastId + 1) := by
  rw [replaced] at member
  rcases Table.mem_insert.mp member with old | new
  · rw [inactive_between old sameServer sameInstance] at active
    cases active
  · exact new

theorem AtMostOneActive.replaced (once : AtMostOneActive database)
    (replaced : Replaced localServerId remoteInstanceId report handshake now database changed) :
    AtMostOneActive changed := by
  have ended : AtMostOneActive
      (deactivateBetween localServerId remoteInstanceId now database) :=
    once.onlyEnds (deactivate_onlyEnds _ now)
  intro left leftMember right rightMember leftActive rightActive sameServer sameInstance
  by_cases own : left.localServerId = localServerId ∧ left.remoteInstanceId = remoteInstanceId
  · rw [replaced.active_eq_new leftMember own.1 own.2 leftActive,
      replaced.active_eq_new rightMember (sameServer.symm.trans own.1)
        (sameInstance.symm.trans own.2) rightActive]
  · have old (row : FederationAgreement) (member : row ∈ changed.federationAgreements.rows)
        (other : ¬ (row.localServerId = localServerId ∧
          row.remoteInstanceId = remoteInstanceId)) :
        row ∈ (deactivateBetween localServerId remoteInstanceId now
          database).federationAgreements.rows := by
      rw [replaced] at member
      rcases Table.mem_insert.mp member with old | new
      · exact old
      · rw [new] at other
        exact absurd ⟨rfl, rfl⟩ other
    apply ended left (old left leftMember own) right _ leftActive rightActive sameServer
      sameInstance
    apply old right rightMember
    rw [← sameServer, ← sameInstance]
    exact own

theorem createAgreement_ensures {Memory : Type} {memory : Memory} :
    Ensures (createAgreement now localServerId remoteInstanceId report handshake) database memory
      fun result changed _ =>
        match result with
        | .ok _ => Replaced localServerId remoteInstanceId report handshake now database changed
        | .error _ => changed = database := by
  apply ensures_transaction
  · exact fun _ => rfl
  · apply ensures_bind
    apply ensures_execute
    · exact fun _ => rfl
    · intro ended written
      cases written
      rw [andThen_ok]
      apply ensures_statement
      · exact fun _ => rfl
      · intro agreementId changed inserted
        unfold insertAgreement at inserted
        split at inserted
        · cases inserted
          exact ⟨rfl, fun _ => rfl⟩
        · cases inserted
      · exact fun _ _ => rfl
    · exact fun _ _ => rfl

/-- An accepted handshake replaces the active agreement, a failed one does nothing. -/
theorem processIncomingHandshake_ensures {Memory : Type} {memory : Memory}
    {environment : Environment} {clock : Option Nat} {policy : ServerPolicy}
    {stated : VrpFederationHandshake} :
    Ensures (processIncomingHandshake environment clock now localServerId policy
        remoteInstanceId stated) database memory
      fun result changed _ =>
        match result with
        | .ok report =>
            Replaced localServerId remoteInstanceId report (some stated) now database changed
        | .error _ => changed = database := by
  apply ensures_bind
  apply ensures_orElse
  · intro localAnchor _
    rw [andThen_ok]
    apply ensures_bind
    apply ensures_mapErr
    refine ensures_mono ?_ createAgreement_ensures
    intro result changed _ held
    cases result with
    | error error => exact held
    | ok agreementId => exact fun _ => held
  · exact fun _ _ => rfl

end Replace

/-- A request to one of the servers that share the database, under the policy it has then. -/
structure TenantCall where
  serverId : Nat
  policy : ServerPolicy
  call : FederationCall

/-- What the request of a server leaves in the database. -/
def tenantStep (environment : Environment) (database : Database) (call : TenantCall) : Database :=
  (FederationState.step environment call.serverId ⟨database, call.policy⟩ call.call).database

section Runs

variable {environment : Environment} {database : Database}

theorem tenantStep_atMostOneActive {call : TenantCall} (once : AtMostOneActive database) :
    AtMostOneActive (tenantStep environment database call) := by
  rcases call with ⟨serverId, policy, ⟨request, now, faults⟩⟩
  cases request with
  | handshake remoteInstanceId handshake clock =>
      have ensured := @processIncomingHandshake_ensures database serverId remoteInstanceId now
        Unit () environment clock policy handshake faults
      unfold tenantStep FederationState.step
      dsimp only
      cases ran : (processIncomingHandshake environment clock now serverId policy
          remoteInstanceId handshake ⟨database, (), faults⟩).1 with
      | error error =>
          rw [ran] at ensured
          rw [show (processIncomingHandshake environment clock now serverId policy
            remoteInstanceId handshake ⟨database, (), faults⟩).2.database = database from ensured]
          exact once
      | ok report =>
          rw [ran] at ensured
          exact once.replaced ensured
  | changePolicy policy => exact once
  | recalculate clock =>
      exact once.onlyEnds (recalculateFederationAgreements_onlyEnds clock now serverId [] faults)
  | revoke agreementId =>
      exact once.onlyEnds (revokeAgreement_onlyEnds now agreementId serverId () faults)
  | expire stale =>
      exact once.onlyEnds (expireStaleAgreements_onlyEnds now serverId stale () faults)

/-- In every run at most one agreement of a server with an instance is active, and after a
handshake it is the new one. -/
theorem at_most_one_active (environment : Environment) (database : Database)
    (once : AtMostOneActive database) (calls : List TenantCall) :
    AtMostOneActive (Execution.run (tenantStep environment) database calls) ∧
      ∀ serverId policy clock now remoteInstanceId handshake faults report
        (after : Session Database Unit),
        processIncomingHandshake environment clock now serverId policy remoteInstanceId
          handshake ⟨Execution.run (tenantStep environment) database calls, (), faults⟩ =
            (.ok report, after) →
        ∀ row ∈ after.database.federationAgreements.rows, row.localServerId = serverId →
          row.remoteInstanceId = remoteInstanceId → row.active = true →
            row = newAgreement serverId remoteInstanceId report (some handshake) now
              ((Execution.run (tenantStep environment) database
                calls).federationAgreements.lastId + 1) := by
  constructor
  · exact Execution.run_invariant AtMostOneActive
      (fun _ _ => tenantStep_atMostOneActive) once calls
  · intro serverId policy clock now remoteInstanceId handshake faults report after accepted
    have replaced := @processIncomingHandshake_ensures
      (Execution.run (tenantStep environment) database calls) serverId remoteInstanceId now
      Unit () environment clock policy handshake faults
    rw [accepted] at replaced
    intro row member
    exact replaced.active_eq_new member

end Runs

section Sample

/-! Two servers with one peer, of which the first shakes hands twice. -/

def sharedCalls : List TenantCall :=
  [⟨1, samplePolicy, FederationState.sampleCall (.handshake 1 (alignedHandshake []) (some 0))⟩,
    ⟨2, samplePolicy, FederationState.sampleCall (.handshake 1 (alignedHandshake []) (some 0))⟩,
    ⟨1, samplePolicy, FederationState.sampleCall (.handshake 1 (alignedHandshake []) (some 1))⟩,
    ⟨1, { samplePolicy with federationEnabled := false },
      FederationState.sampleCall (.recalculate (some 2))⟩]

/-- Of its three agreements two are active, one of each server. -/
theorem at_most_one_active_shared :
    (Execution.run (tenantStep sampleEnvironment) sampleDatabase
      sharedCalls).federationAgreements.rows.map (fun row => (row.localServerId, row.active)) =
        [(1, false), (2, true), (1, true)] ∧
      AtMostOneActive (Execution.run (tenantStep sampleEnvironment) sampleDatabase
        sharedCalls) := by
  constructor
  · decide +kernel
  · have once : AtMostOneActive sampleDatabase := by
      intro left member
      cases member
    exact (at_most_one_active sampleEnvironment sampleDatabase once sharedCalls).1

end Sample

end Annex.Server
