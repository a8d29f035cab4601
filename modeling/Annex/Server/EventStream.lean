import Annex.Foundation.SqlRollback
import Annex.Observe.EventLog
import Annex.Server.EventHandlers
import Annex.Server.PolicyCorrectness

namespace Annex.Server

open Db Federation Graph Identity Observe Sql Vrp

/-! What the transactions that emit events do to the event log and to the stream. -/

/-- The event of a broadcast to the listeners of the event stream. -/
def Outbound.observed : Outbound → Option PublicEvent
  | .observe event => some event
  | _ => none

/-- The event log, and what has been broadcast of it. -/
def eventJournal : Journal Database (List Outbound) PublicEvent (Nat × Nat) where
  logged database := database.publicEventLog.rows
  announced sent := sent.filterMap Outbound.observed
  key event := (event.serverId, event.seq)

def policyJournal : Journal PolicyDatabase (List Outbound) PublicEvent (Nat × Nat) :=
  eventJournal.comap PolicyDatabase.toDatabase id

def serverJournal : Journal ServerDatabase (List Outbound) PublicEvent (Nat × Nat) :=
  policyJournal.comap ServerDatabase.toPolicyDatabase id

def liveJournal : Journal ServerDatabase Live PublicEvent (Nat × Nat) :=
  serverJournal.comap id Live.sent

section Emission

variable {Error : Type} {now : String} {serverId : Nat} {entityId : String}
  {payload : EventPayload} {database : Database} {sent : List Outbound}

theorem announced_append_presence (event : PresenceEvent) :
    eventJournal.announced (sent ++ [.presence event]) = eventJournal.announced sent := by
  unfold eventJournal
  dsimp only
  rw [List.filterMap_append]
  exact List.append_nil _

theorem follows_send_presence {Whole : Type} {read : Whole → Database} {whole : Whole}
    (event : PresenceEvent) :
    Follows (eventJournal.comap read id) [] (send (.presence event) : Sql Whole (List Outbound)
      Error Unit) whole sent fun _ changed => changed = whole :=
  follows_remember (announced_append_presence event)

/-- An emission writes one entry and announces it, or does nothing. -/
theorem follows_emitAndBroadcast :
    Follows eventJournal [.emission]
      (emitAndBroadcast now serverId entityId payload : Sql Database (List Outbound) Error Unit)
      database sent
      fun _ changed => ∃ publicEventLog, changed = { database with publicEventLog } := by
  intro faults
  cases fault : faultAt faults 0 with
  | some text =>
      rw [emitAndBroadcast_faulty fault]
      refine ⟨⟨trivial, List.drop_one.symm, database.publicEventLog, rfl⟩, [],
        Journal.grows_nil rfl rfl, ?_⟩
      rw [Emits, Emits, fault]
      simp
  | none =>
      rw [emitAndBroadcast_done fault]
      refine ⟨⟨trivial, List.drop_one.symm, _, rfl⟩,
        [(logged now serverId entityId payload database.publicEventLog).1], ⟨?_, ?_, ?_⟩, ?_⟩
      · apply Journal.fresh_singleton
        intro old member same
        have same := Prod.mk.inj same
        exact Nat.ne_of_lt (seq_lt_nextSeq member same.1) same.2
      · rfl
      · exact List.filterMap_append
      · rw [Emits, fault]
        simp

theorem records_emitAndBroadcast :
    Records eventJournal (emitAndBroadcast now serverId entityId payload :
      Sql Database (List Outbound) Error Unit) := by
  intro session
  rcases (follows_emitAndBroadcast session.faults).2 with ⟨new, grows, -⟩
  exact ⟨new, grows⟩

end Emission

/-! What the transactions come to. -/

/-- What storing a policy comes to. -/
def policySlots (serverId : Nat) (request : PolicyRequest) (database : PolicyDatabase) :
    List Slot :=
  Slot.ofCondition (request.identity.canModerate = true) ++
    .statement :: .statement :: .statement ::
      Slot.ofStatement (insertPolicyVersion serverId request.versionId request.newPolicy
        (updateServerPolicy serverId request.newPolicy database)) :: [.emission]

/-- What storing that many updates comes to. -/
def updateSlots {α : Type} : List α → List Slot
  | [] => []
  | _ :: rest => .statement :: .emission :: updateSlots rest

/-- What an evaluation comes to, from its anchor on. -/
def evaluationSlots {Inner Error α : Type} (anchor : Except Inner VrpAnchorSnapshot)
    (updates : VrpAnchorSnapshot → Except Error (List α)) : List Slot :=
  match anchor with
  | .error _ => [.refusal]
  | .ok localAnchor =>
      .statement :: .statement :: .statement ::
        match updates localAnchor with
        | .error _ => [.refusal]
        | .ok updates => updateSlots updates

section Transactions

variable {environment : Environment} {clock : Option Nat} {now : String} {serverId : Nat}
  {policy : ServerPolicy} {sent : List Outbound}

theorem logged_insertPolicyVersion {versionId : String} {database changed : PolicyDatabase}
    (written : insertPolicyVersion serverId versionId policy database = .ok changed) :
    policyJournal.logged changed = policyJournal.logged database := by
  unfold insertPolicyVersion at written
  split at written
  · cases written
  · split at written
    · cases written
    · cases written
      rfl

theorem settles_storePolicy {request : PolicyRequest} {database : PolicyDatabase} :
    Settles policyJournal (policySlots serverId request database)
      (storePolicy now serverId request) database sent := by
  refine settles_bind (follows_check _ _) (Slot.silent_ofCondition _) ?_
  intro _ changed _ held
  rw [held.2]
  refine settles_bind (follows_connect _) (by decide) ?_
  intro _ changed _ same
  rw [same]
  apply settles_transaction
  refine commits_bind (follows_update rfl) (by decide) ?_
  intro _ changed _ same
  rw [same]
  refine commits_bind (follows_execute fun _ => logged_insertPolicyVersion)
    (Slot.silent_ofStatement _) ?_
  intro _ changed _ _
  exact (follows_onPart (fun _ _ => rfl) follows_emitAndBroadcast).commits

theorem follows_applyAgentUpdates {updates : List AgentUpdate} {database : PolicyDatabase} :
    Follows policyJournal (updateSlots updates) (applyAgentUpdates now serverId updates)
      database sent fun _ _ => True := by
  induction updates generalizing database sent with
  | nil => exact (follows_pure ()).anyhow
  | cons update rest induction =>
      refine @follows_bind _ _ _ _ _ _ _ _ _ _ [.statement, .emission] (updateSlots rest) _ _
        (fun _ _ => True) _ ?_ fun _ _ _ _ => induction
      refine follows_bind (follows_update rfl) fun _ _ _ _ => ?_
      refine follows_bind (follows_send_presence _) fun _ changed _ _ => ?_
      exact (follows_onPart (fun _ _ => rfl) follows_emitAndBroadcast).anyhow

theorem follows_applyUpdate {update : FederationUpdate} {database : Database} :
    Follows eventJournal [.statement, .emission] (applyUpdate now serverId update) database sent
      fun _ changed => changed.federationAgreements =
        updateAgreement now update database.federationAgreements := by
  have announces (event : PresenceEvent) (entityId : String) (payload : EventPayload)
      (changed : Database) (sent : List Outbound) :
      Follows eventJournal [.emission]
        (send (.presence event) >>= fun _ => emitAndBroadcast now serverId entityId payload :
          Handler Unit) changed sent
        fun _ after => after.federationAgreements = changed.federationAgreements := by
    refine follows_bind (follows_send_presence _) ?_
    intro _ later _ same
    apply follows_mono _ follows_emitAndBroadcast
    intro _ after logged
    rcases logged with ⟨publicEventLog, isAfter⟩
    rw [isAfter, same]
  refine follows_bind (follows_update rfl) ?_
  intro _ changed _ written
  have stored : changed.federationAgreements =
      updateAgreement now update database.federationAgreements :=
    congrArg Database.federationAgreements written
  rw [← stored]
  split
  · exact announces _ _ _ _ _
  · exact announces _ _ _ _ _

theorem follows_applyUpdates {updates : List FederationUpdate} {database : Database} :
    Follows eventJournal (updateSlots updates) (applyUpdates now serverId updates) database sent
      fun _ changed => changed.federationAgreements =
        updatedAgreements now updates database.federationAgreements := by
  induction updates generalizing database sent with
  | nil => exact follows_mono (fun _ _ same => congrArg _ same.2) (follows_pure [])
  | cons update rest induction =>
      refine follows_bind follows_applyUpdate fun _ changed _ stored => ?_
      rw [updatedAgreements, List.foldl_cons, ← stored, ← List.append_nil (updateSlots rest)]
      refine follows_bind induction fun _ later _ updated => ?_
      apply follows_mono _ (follows_pure _)
      intro _ after same
      rw [same.2, updated]
      rfl

/-- An evaluation stores the updates it has collected in one transaction. -/
theorem settles_evaluation {Whole Inner Error Row α β : Type}
    {journal : Journal Whole (List Outbound) PublicEvent (Nat × Nat)}
    {anchor : Except Inner VrpAnchorSnapshot} {wrap : Inner → Error}
    {wrapConnect wrapBegin wrapCommit wrapQuery : DbError → Error} {select : Whole → List Row}
    {collect : VrpAnchorSnapshot → List Row → Except Error (List α)}
    {store : List α → Sql Whole (List Outbound) Error β} {database : Whole}
    (follows : ∀ updates database sent,
      Follows journal (updateSlots updates) (store updates) database sent fun _ _ => True) :
    Settles journal
      (evaluationSlots anchor fun localAnchor => collect localAnchor (select database))
      (do
        let localAnchor ← orElse anchor wrap
        connect wrapConnect
        transaction wrapBegin wrapCommit do
          let rows ← query wrapQuery fun database => .ok (select database)
          let updates ← ofExcept (collect localAnchor rows)
          store updates) database sent := by
  cases anchor with
  | error error =>
      refine @settles_bind _ _ _ _ _ _ _ _ _ _ _ [] _ _ _ (follows_orElse _ _)
        (Slot.silent_ofResult _) ?_
      intro value changed _ held
      cases held.1
  | ok localAnchor =>
      refine settles_bind (follows_orElse _ _) (Slot.silent_ofResult _) ?_
      intro value changed _ held
      cases held.1
      rw [held.2]
      refine settles_bind (follows_connect _) (by decide) ?_
      intro _ changed _ same
      rw [same]
      apply settles_transaction
      refine commits_bind follows_select (by decide) ?_
      intro rows changed _ held
      rw [held.1, held.2]
      dsimp only
      cases collected : collect localAnchor (select database) with
      | error error =>
          show FillsSlots journal (Slot.ofResult (.error error : Except Error (List α)) ++ []) _ _ _
          refine commits_bind (follows_ofExcept _) (Slot.silent_ofResult _) ?_
          intro updates _ _ held
          cases held.1
      | ok updates =>
          show FillsSlots journal
            (Slot.ofResult (.ok updates : Except Error (List α)) ++ updateSlots updates) _ _ _
          refine commits_bind (follows_ofExcept _) (Slot.silent_ofResult _) ?_
          intro found changed _ held
          cases held.1
          exact (follows updates changed _).commits

/-- An evaluation stores all the updates it has collected, or nothing. -/
theorem concludes_evaluation {Whole Inner Error Row α β : Type}
    {journal : Journal Whole (List Outbound) PublicEvent (Nat × Nat)}
    {anchor : Except Inner VrpAnchorSnapshot} {wrap : Inner → Error}
    {wrapConnect wrapBegin wrapCommit wrapQuery : DbError → Error} {select : Whole → List Row}
    {collect : VrpAnchorSnapshot → List Row → Except Error (List α)}
    {store : List α → Sql Whole (List Outbound) Error β} {database : Whole}
    {post : List α → β → Whole → Prop}
    (follows : ∀ updates sent,
      Follows journal (updateSlots updates) (store updates) database sent (post updates)) :
    Concludes
      (evaluationSlots anchor fun localAnchor => collect localAnchor (select database))
      (do
        let localAnchor ← orElse anchor wrap
        connect wrapConnect
        transaction wrapBegin wrapCommit do
          let rows ← query wrapQuery fun database => .ok (select database)
          let updates ← ofExcept (collect localAnchor rows)
          store updates) database sent
      fun value changed => ∃ localAnchor updates, anchor = .ok localAnchor ∧
        collect localAnchor (select database) = .ok updates ∧ post updates value changed := by
  cases anchor with
  | error error =>
      refine @concludes_bind _ _ _ _ _ _ _ journal _ _ [.refusal] [] _ _ _ _
        (follows_orElse (.error error) wrap) (looks_orElse _ _) ?_
      intro value held
      cases held.1
  | ok localAnchor =>
      refine @concludes_bind _ _ _ _ _ _ _ journal _ _ [] _ _ _ _ _
        (follows_orElse (.ok localAnchor) wrap) (looks_orElse _ _) ?_
      intro value held
      cases held.1
      refine @concludes_bind _ _ _ _ _ _ _ journal _ _ [.statement] _ _ _ _ _
        (follows_connect _) (looks_connect _) ?_
      intro _ _
      apply @concludes_transaction _ _ _ _ _ _ journal
      refine @follows_bind _ _ _ _ _ _ _ journal _ _ [.statement] _ _ _ _ _ follows_select ?_
      intro rows changed _ held
      rw [held.1, held.2]
      dsimp only
      cases collected : collect localAnchor (select database) with
      | error error =>
          refine @follows_bind _ _ _ _ _ _ _ journal _ _ [.refusal] [] _ _ _ _
            (follows_ofExcept (.error error)) ?_
          intro updates _ _ held
          cases held.1
      | ok updates =>
          refine @follows_bind _ _ _ _ _ _ _ journal _ _ [] _ _ _ _ _
            (follows_ofExcept (.ok updates)) ?_
          intro found changed _ held
          cases held.1
          rw [held.2]
          apply follows_mono _ (follows updates _)
          intro value after stored
          exact ⟨localAnchor, updates, rfl, collected, stored⟩

end Transactions

end Annex.Server
