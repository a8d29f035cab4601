import Annex.Identity.RegistryCorrectness
import Annex.Server.EventTransactions
import Annex.Server.FederationCorrectness
import Annex.Server.VerifyMembership

namespace Annex.Server

open Db Federation Graph Identity Observe Sql Vrp

/-! A handler alone is the handler as a whole. -/

section Alone

variable {Error α β : Type}

theorem sending_onTables_bind {program : Sql Database (List Outbound) Error β}
    {next : β → Sql Database (List Outbound) Error α} :
    sending (onTables (program >>= next)) =
      sending (onTables program) >>= fun value => sending (onTables (next value)) := by
  have tables : onTables (program >>= next) =
      onTables program >>= fun value => onTables (next value) :=
    onPart_bind (fun _ _ => rfl) fun _ _ _ => rfl
  rw [tables]
  exact inMemory_bind (fun _ _ => rfl) fun _ _ _ => rfl

theorem sending_onTables_ofExcept (result : Except Error α) :
    sending (onTables (ofExcept result)) = ofExcept result := by
  have tables : onTables (ofExcept result) = ofExcept result :=
    onPart_ofExcept result fun _ => rfl
  rw [tables]
  exact inMemory_ofExcept result fun _ => rfl

theorem sending_onTables_connect (wrap : DbError → Error) :
    sending (onTables (connect wrap)) = connect wrap := by
  funext session
  unfold sending inMemory onTables onPart connect query statement
  dsimp only
  cases session.faults.head?.join <;> rfl

variable {Fq Key : Type} {server : EventServer Fq Key} {context : EventContext}

theorem alone_command {run : EventContext → LiveSql Error α} :
    (command run).alone (EventCommand.run server) context = run context := by
  funext session
  rfl

/-- `verify_membership_handler`, taken apart and as a whole. -/
theorem alone_verifyMembership (payload : VerifyMembershipRequest) :
    (verifyMembership server payload).alone (EventCommand.run server) context =
      sending (onTables (verifyMembershipHandler server.environment server.curve
        server.membershipVkey context.now server.serverId payload)) := by
  unfold verifyMembership verifyMembershipHandler
  simp only [Task.alone_bind, sending_onTables_bind, sending_onTables_connect, alone_command,
    orElse, sending_onTables_ofExcept]
  rfl

end Alone

/-! Outside the transactions that are listed, the handlers announce what they log, whatever
fails. -/

/-- A command outside the transactions that emit events announces what it logs. -/
def EventCommand.Recorded : (β : Type) → EventCommand β → Prop
  | _, .program run => ∀ context, Records liveJournal (run context)
  | _, _ => True

section Programs

variable {Error α : Type}

theorem records_onTables {program : Sql Database (List Outbound) Error α}
    (records : Records eventJournal program) :
    Records liveJournal (sending (onTables program)) :=
  records_inMemory (fun _ _ => rfl) (records_onPart (fun _ _ => rfl) records)

/-- A program on the tree sends nothing. -/
theorem records_onTree {program : Sql Database (MerkleTree Fr) Error α}
    (keeps : Keeps Database.publicEventLog program) :
    Records liveJournal (onTree program) := by
  apply records_of_keeps
  · intro value session held
    exact (congrArg Table.rows (keeps _ _ rfl)).trans held
  · exact fun _ => rfl

theorem records_createAgreement {now : String} {localServerId remoteInstanceId : Nat}
    {report : VrpValidationReport} {handshake : Option VrpFederationHandshake} :
    Records eventJournal (createAgreement now localServerId remoteInstanceId report
      handshake) := by
  apply records_of_keeps
  · refine keeps_transaction (keeps_bind (keeps_execute ?_) fun _ => keeps_statement ?_)
    · intro database changed written
      cases written
      rfl
    · intro database value changed written
      unfold insertAgreement at written
      split at written
      · cases written
        rfl
      · cases written
  · exact keepsMemory_transaction
      (keepsMemory_bind (keepsMemory_execute _ _) fun _ => keepsMemory_statement _ _)

theorem records_processIncomingHandshake {environment : Environment} {clock : Option Nat}
    {now : String} {localServerId remoteInstanceId : Nat} {policy : ServerPolicy}
    {handshake : VrpFederationHandshake} :
    Records eventJournal (processIncomingHandshake environment clock now localServerId policy
      remoteInstanceId handshake) := by
  refine records_bind (reads_orElse _ _).records fun localAnchor => ?_
  refine records_bind (records_mapErr records_createAgreement) fun _ => ?_
  exact (reads_pure _).records

theorem records_revokeAgreement {now : String} {agreementId serverId : Nat} :
    Records eventJournal (revokeAgreement now agreementId serverId) := by
  apply records_of_keeps
  · apply keeps_statement
    intro database value changed written
    cases written
    rfl
  · exact keepsMemory_statement _ _

theorem records_updateCapabilities {serverId : Nat} {target : String} {caps : Capabilities} :
    Records eventJournal (updateCapabilities serverId target caps) := by
  refine records_bind (records_of_keeps (keeps_statement ?_) (keepsMemory_statement _ _))
    fun changed => (reads_check _ _).records
  intro database count changed written
  cases written
  rfl

theorem records_pruneInactiveNodes {secondsAgo : Nat → Option String}
    {serverId thresholdSeconds : Nat} :
    Records eventJournal (pruneInactiveNodes secondsAgo serverId thresholdSeconds) := by
  apply records_of_keeps
  · exact pruneInactiveNodes_keeps fun _ _ => rfl
  · exact keepsMemory_statement _ _

/-- An `UPDATE` of something but the log. -/
theorem records_execute {wrap : DbError → Error}
    {write : ServerDatabase → Except DbError ServerDatabase}
    (kept : ∀ database changed, write database = .ok changed →
      changed.publicEventLog = database.publicEventLog) :
    Records liveJournal (execute wrap write : LiveSql Error Unit) := by
  apply records_of_keeps
  · apply keeps_execute
    intro database changed written
    exact congrArg Table.rows (kept database changed written)
  · exact keepsMemory_execute _ _

end Programs

section Commands

variable {Error α : Type}

theorem always_command {run : EventContext → LiveSql Error α}
    (records : ∀ context, Records liveJournal (run context)) :
    (command run).Always EventCommand.Recorded :=
  Task.always_perform records

theorem always_reads {run : EventContext → LiveSql Error α}
    (reads : ∀ context, Reads (run context)) : (command run).Always EventCommand.Recorded :=
  always_command fun context => (reads context).records

theorem always_connect {wrap : DbError → Error} :
    (command fun _ => connect wrap).Always EventCommand.Recorded :=
  always_reads fun _ => reads_connect wrap

theorem always_onTables {run : EventContext → Sql Database (List Outbound) Error α}
    (records : ∀ context, Records eventJournal (run context)) :
    (command fun context => sending (onTables (run context))).Always EventCommand.Recorded :=
  always_command fun context => records_onTables (records context)

theorem always_looks {run : EventContext → Sql Database (List Outbound) Error α}
    (looks : ∀ context, Looks (run context)) :
    (command fun context => sending (onTables (run context))).Always EventCommand.Recorded :=
  always_onTables fun context => (looks context).reads.records

theorem always_demand (condition : Prop) [Decidable condition] (error : Error) :
    (demand condition error).Always EventCommand.Recorded :=
  Task.always_ended _

theorem always_readPolicy :
    (readPolicy : EventTask Error ServerPolicy).Always EventCommand.Recorded := by
  apply always_reads
  intro context session
  exact ⟨rfl, rfl⟩

theorem always_remember {change : Live → Live}
    (kept : ∀ live, (change live).sent.filterMap Outbound.observed =
      live.sent.filterMap Outbound.observed) :
    (command fun _ => remember change : EventTask Error Unit).Always EventCommand.Recorded := by
  apply always_command
  intro context
  apply records_of_keeps
  · exact fun _ => preserves_remember _
  · exact keepsMemory_remember kept

variable {Fq Key : Type} {server : EventServer Fq Key}

theorem always_emit {entityId : String} {payload : EventPayload} :
    (emit server entityId payload : EventTask Error Unit).Always EventCommand.Recorded :=
  always_onTables fun _ => records_emitAndBroadcast

theorem always_announcePresence {events : List PresenceEvent} :
    (announcePresence events : EventTask Error Unit).Always EventCommand.Recorded := by
  apply always_command
  intro context
  apply @records_inMemory _ _ _ _ _ _ _ serverJournal _ _ _ fun _ _ => rfl
  apply records_of_keeps
  · exact fun _ => preserves_remember _
  · apply keepsMemory_remember
    intro sent
    have silent : (events.map Outbound.presence).filterMap Outbound.observed = [] := by
      rw [List.filterMap_map]
      exact List.filterMap_none events
    unfold serverJournal policyJournal eventJournal Journal.comap
    dsimp only [Function.comp, id]
    rw [List.filterMap_append, silent, List.append_nil]

theorem always_emitPruned {pseudonyms : List String} :
    (emitPruned server pseudonyms : EventTask Error Unit).Always EventCommand.Recorded := by
  induction pseudonyms with
  | nil => exact Task.always_pure ()
  | cons pseudonymId rest induction => exact Task.always_bind always_emit fun _ => induction

end Commands

section Handlers

variable {Fq Key : Type} (server : EventServer Fq Key)

theorem always_registerHandler (payload : RegisterRequest) :
    (registerHandler server payload).Always EventCommand.Recorded := by
  refine Task.always_bind (Task.always_ended _) fun role => ?_
  refine Task.always_bind always_connect fun _ => ?_
  refine Task.always_bind (always_command fun context => ?_) fun result => ?_
  · apply records_mapErr
    apply records_onTree
    exact registerIdentity_keeps (fun _ _ => rfl) (fun _ _ => rfl) fun _ _ => rfl
  · exact Task.always_bind always_emit fun _ => Task.always_pure _

theorem always_verifyMembership (payload : VerifyMembershipRequest) :
    (verifyMembership server payload).Always EventCommand.Recorded := by
  refine Task.always_bind always_connect fun _ => ?_
  refine Task.always_bind (always_looks fun _ => looks_checkMembershipProof) fun _ => ?_
  refine Task.always_bind always_emit fun _ => ?_
  refine Task.always_bind (Task.always_ended _) fun nullifierHex => ?_
  refine Task.always_bind (Task.always_ended _) fun pseudonymId => ?_
  refine Task.always_bind (always_looks fun _ => looks_lookupRole _) fun roleCode => ?_
  refine Task.always_bind (always_looks fun _ => looks_lookupServerId) fun serverId => ?_
  refine Task.always_bind (always_looks fun _ => looks_agentMetadata _ _ _)
    fun metadataJson => ?_
  refine Task.always_bind (Task.always_perform trivial) fun _ => ?_
  exact Task.always_bind always_announcePresence fun _ => Task.always_pure _

theorem always_agentHandshakeHandler (request : AgentHandshakeRequest) :
    (agentHandshakeHandler server request).Always EventCommand.Recorded := by
  refine Task.always_bind always_connect fun _ => ?_
  refine Task.always_bind always_readPolicy fun policy => ?_
  refine Task.always_bind (always_reads fun _ => reads_orElse _ _) fun localAnchor => ?_
  refine Task.always_bind (Task.always_perform trivial) fun event => ?_
  cases event with
  | none => exact Task.always_pure _
  | some payload => exact Task.always_bind always_emit fun _ => Task.always_pure _

theorem always_federationHandshakeHandler (payload : FederationHandshakeRequest) :
    (federationHandshakeHandler server payload).Always EventCommand.Recorded := by
  refine Task.always_bind always_connect fun _ => ?_
  refine Task.always_bind (always_looks fun _ => looks_resolveInstance _) fun remote => ?_
  refine Task.always_bind always_readPolicy fun policy => ?_
  refine Task.always_bind (always_command fun context => ?_) fun report => ?_
  · exact records_mapErr (records_onTables records_processIncomingHandshake)
  · exact Task.always_bind always_emit fun _ => Task.always_pure _

theorem always_updatePolicyHandler (request : PolicyRequest) :
    (updatePolicyHandler request).Always EventCommand.Recorded := by
  refine Task.always_bind (Task.always_perform trivial) fun _ => ?_
  refine Task.always_bind (always_remember fun _ => rfl) fun _ => ?_
  refine Task.always_bind always_readPolicy fun policy => ?_
  refine Task.always_bind (Task.always_perform trivial) fun pseudonyms => ?_
  refine Task.always_bind (always_remember fun _ => rfl) fun _ => ?_
  refine Task.always_bind always_readPolicy fun policy => ?_
  refine Task.always_bind (Task.always_perform trivial) fun affectedPeers => ?_
  exact Task.always_bind (always_remember fun _ => rfl) fun _ => Task.always_pure _

theorem always_revokeFederationHandler (identity : PlatformIdentity) (agreementId : Nat) :
    (revokeFederationHandler server identity agreementId).Always EventCommand.Recorded := by
  refine Task.always_bind (always_demand _ _) fun _ => ?_
  refine Task.always_bind always_connect fun _ => ?_
  refine Task.always_bind (Task.always_tolerate fun _ => ?_) fun found => ?_
  · exact records_onTables (reads_query _ _).records
  refine Task.always_bind (always_command fun context => ?_) fun revoked => ?_
  · exact records_mapErr (records_onTables records_revokeAgreement)
  refine Task.always_bind (always_demand _ _) fun _ => ?_
  cases found.toOption with
  | none => exact Task.always_pure _
  | some remoteUrl => exact Task.always_bind always_emit fun _ => Task.always_pure _

theorem always_renameServerHandler (identity : PlatformIdentity) (label : String) :
    (renameServerHandler server identity label).Always EventCommand.Recorded := by
  refine Task.always_bind (always_demand _ _) fun _ => ?_
  refine Task.always_bind (always_demand _ _) fun _ => ?_
  refine Task.always_bind always_connect fun _ => ?_
  refine Task.always_bind (always_command fun context => records_execute ?_) fun _ => ?_
  · intro database changed written
    cases written
    rfl
  · exact Task.always_bind always_emit fun _ => Task.always_pure _

theorem always_updateMemberCapabilitiesHandler (identity : PlatformIdentity) (target : String)
    (caps : Capabilities) :
    (updateMemberCapabilitiesHandler server identity target caps).Always
      EventCommand.Recorded := by
  refine Task.always_bind (always_demand _ _) fun _ => ?_
  refine Task.always_bind always_connect fun _ => ?_
  refine Task.always_bind (always_command fun context => ?_) fun _ => always_emit
  exact records_mapErr (records_onTables records_updateCapabilities)

theorem always_uploadServerImageHandler (identity : PlatformIdentity) (image : SavedImage) :
    (uploadServerImageHandler server identity image).Always EventCommand.Recorded := by
  refine Task.always_bind (always_demand _ _) fun _ => ?_
  refine Task.always_bind always_connect fun _ => ?_
  refine Task.always_bind (always_command fun context => records_execute ?_) fun _ => ?_
  · intro database changed written
    cases written
    rfl
  refine Task.always_bind (always_command fun context => records_execute ?_) fun _ => ?_
  · intro database changed written
    unfold insertUpload at written
    split at written
    · cases written
    · split at written
      · cases written
        rfl
      · cases written
  · exact Task.always_bind always_emit fun _ => Task.always_pure _

theorem always_pruneNodes (thresholdSeconds : Nat) :
    (pruneNodes server thresholdSeconds).Always EventCommand.Recorded := by
  refine Task.always_bind always_connect fun _ => ?_
  refine Task.always_bind (always_command fun context => ?_) fun pruned => ?_
  · exact records_mapErr (records_onTables records_pruneInactiveNodes)
  refine Task.always_bind always_emitPruned fun _ => ?_
  exact Task.always_bind always_announcePresence fun _ => Task.always_pure _

/-- Whatever a request comes to outside the listed transactions is recorded. -/
theorem always_handler (request : EventRequest) :
    (request.handler server).Always EventCommand.Recorded := by
  cases request with
  | register payload => exact Task.always_unanswered (always_registerHandler server payload)
  | verifyMembership payload =>
      exact Task.always_unanswered (always_verifyMembership server payload)
  | agentHandshake request =>
      exact Task.always_unanswered (always_agentHandshakeHandler server request)
  | federationHandshake payload =>
      exact Task.always_unanswered (always_federationHandshakeHandler server payload)
  | updatePolicy request => exact Task.always_unanswered (always_updatePolicyHandler request)
  | revokeFederation identity agreementId =>
      exact Task.always_unanswered (always_revokeFederationHandler server identity agreementId)
  | renameServer identity label =>
      exact Task.always_unanswered (always_renameServerHandler server identity label)
  | updateMemberCapabilities identity target caps =>
      exact Task.always_unanswered
        (always_updateMemberCapabilitiesHandler server identity target caps)
  | uploadServerImage identity image =>
      exact Task.always_unanswered (always_uploadServerImageHandler server identity image)
  | prune thresholdSeconds =>
      exact Task.always_unanswered (always_pruneNodes server thresholdSeconds)
  | elsewhere change unlogged =>
      apply Task.always_unanswered
      apply always_command
      intro context
      apply records_execute
      intro database changed written
      cases written
      exact unlogged database

end Handlers

end Annex.Server
