import Annex.Foundation.SqlCount
import Annex.Server.AgentStanding
import Annex.Server.ChannelMembership
import Annex.Server.ReadConfidentiality

namespace Annex.Server

open Channels Db Identity Rtx Sql Vrp

/-! The edges of the agents against their memberships, over the joins, leaves and
registrations of the agents and the deletions of channels. -/

/-- An identity whose requests are an agent's. -/
structure Agent where
  identity : PlatformIdentity
  isAgent : identity.participantType = "AI_AGENT"

section Handlers

variable {Fq Key : Type} (server : ChannelServer Fq Key) (json : SerdeJson)

def ChannelServer.sockets : SocketServer := ⟨server.environment, server.serverId⟩

/-- Steps 1 to 3 of `join_channel_handler`. -/
def joinChecks (identity : PlatformIdentity) (channelId : String)
    (header : Option (JsonText ZkProofPayload)) : StatusHandler Unit := do
  let commitment ← lookupCommitment server identity.pseudonymId
  ofExcept (verifyZkMembershipHeader server header commitment)
  connect internal
  let channel ← mapErr channelErrToStatus (getChannel server.environment channelId)
  checkAdmission server json channel identity

/-- `POST /api/channels/:channelId/leave` up to the sockets and the voice room. -/
def leaveChannelHandler (identity : PlatformIdentity) (channelId : String) :
    StatusHandler Unit := do
  let _ ← leaveFetch server.sockets channelId
  leaveRemove server.sockets identity channelId

inductive EdgeRequest where
  | join (agent : Agent) (channelId : String) (header : Option (JsonText ZkProofPayload))
  | leave (agent : Agent) (channelId : String)
  | delete (identity : PlatformIdentity) (channelId : String)
  | register (request : AgentHandshakeRequest) (policy : ServerPolicy) (ties : TieOrder)
      (clock : Option Nat)
  | elsewhere (changed : ServerDatabase)

structure EdgeCall where
  request : EdgeRequest
  now : String
  faults : List (Option String)

/-- What a request leaves in the database. The other handlers write neither memberships nor
edges. -/
def edgeStep (realText : F32 → String) (database : ServerDatabase) (call : EdgeCall) :
    ServerDatabase :=
  match call.request with
  | .join agent channelId header =>
      (onTables (joinChannelHandler server json call.now agent.identity channelId header)
        ⟨database, [], call.faults⟩).2.database
  | .leave agent channelId =>
      (onTables (leaveChannelHandler server agent.identity channelId)
        ⟨database, [], call.faults⟩).2.database
  | .delete identity channelId =>
      (onTables (deleteChannelHandler identity channelId)
        ⟨database, [], call.faults⟩).2.database
  | .register request policy ties clock =>
      (agentHandshake server.environment realText ties clock call.now server.serverId policy
        request ⟨database, [], call.faults⟩).2.database
  | .elsewhere changed =>
      { changed with
        channelMembers := database.channelMembers
        graphEdges := database.graphEdges }

end Handlers

/-- Whether there is an edge from the agent to the channel it serves. -/
def agentServing (serverId : Nat) (channelId pseudonymId : String) (database : Database) :
    Bool :=
  database.graphEdges.rows.any fun row =>
    row.serverId = serverId && row.fromNode = pseudonymId && row.toNode = channelId &&
      row.kind = Graph.edgeKindToStr .agentServing

/-- The edges to the channels are those of their members. -/
def Mirrors (serverId : Nat) (database : Database) : Prop :=
  ∀ channelId pseudonymId, agentServing serverId channelId pseudonymId database =
    memberOf serverId channelId pseudonymId database

section Law

variable {Fq Key : Type} (server : ChannelServer Fq Key) (json : SerdeJson)
  (realText : F32 → String) (database : ServerDatabase) (call : EdgeCall)

/-- A join of a channel whose member the agent is, and a leave of one whose member it is not,
succeed without a change, unless a check or a statement fails. -/
def RepeatsSafely : Prop :=
  match call.request with
  | .join agent channelId header =>
      memberOf server.serverId channelId agent.identity.pseudonymId database.toDatabase = true →
      ∀ rest, joinChecks server json agent.identity channelId header
          ⟨database.toDatabase, [], call.faults⟩ =
        (.ok (), ⟨database.toDatabase, [], rest⟩) → Spared rest 4 →
      (joinChannelHandler server json call.now agent.identity channelId header
          ⟨database.toDatabase, [], call.faults⟩).1 = .ok () ∧
        edgeStep server json realText database call = database
  | .leave agent channelId =>
      memberOf server.serverId channelId agent.identity.pseudonymId database.toDatabase = false →
      ∀ channel, Answers (leaveFetch server.sockets channelId) database.toDatabase [] channel →
      Spared call.faults 5 →
      (leaveChannelHandler server agent.identity channelId
          ⟨database.toDatabase, [], call.faults⟩).1 = .ok () ∧
        edgeStep server json realText database call = database
  | _ => True

/-- A channel is joined by agents that are no members yet and deleted after its members have
left, and no statement that writes an edge fails after the one that writes the membership. -/
def Orderly : Prop :=
  match call.request with
  | .join agent channelId header =>
      ∀ rest, joinChecks server json agent.identity channelId header
          ⟨database.toDatabase, [], call.faults⟩ =
        (.ok (), ⟨database.toDatabase, [], rest⟩) → Spared rest 3 →
      if memberOf server.serverId channelId agent.identity.pseudonymId database.toDatabase then
        faultAt rest 3 ≠ none
      else
        (database.servers.rows.any (·.id = server.serverId) &&
          database.platformIdentities.rows.any fun row => row.serverId = server.serverId &&
            row.pseudonymId = agent.identity.pseudonymId) = true → faultAt rest 3 = none
  | .leave agent channelId =>
      memberOf server.serverId channelId agent.identity.pseudonymId database.toDatabase = true →
      ∀ channel, Answers (leaveFetch server.sockets channelId) database.toDatabase [] channel →
      Spared call.faults 4 → faultAt call.faults 4 = none
  | .delete identity channelId =>
      identity.canModerate = true → Spared call.faults 3 →
      (∀ message ∈ database.messages.rows, message.channelId = channelId →
        ∀ edit ∈ database.messageEdits.rows, edit.messageId ≠ message.messageId) →
      ∀ row ∈ database.channelMembers.rows, row.channelId ≠ channelId
  | _ => True

end Law

/-! One row more or less. -/

section Rows

variable {serverId : Nat} {now channelId pseudonymId other user : String}
  {database changed : Database}

theorem insertMember_eq_ok
    (inserted : insertMember now serverId channelId pseudonymId database = .ok changed) :
    memberOf serverId channelId pseudonymId database = false ∧
    (database.servers.rows.any (·.id = serverId) &&
      database.platformIdentities.rows.any fun row => row.serverId = serverId &&
        row.pseudonymId = pseudonymId) = true ∧
      changed = { database with
        channelMembers := database.channelMembers.insert fun id =>
          { id
            serverId
            channelId
            pseudonymId
            role := "MEMBER"
            joinedAt := now } } := by
  unfold insertMember at inserted
  split at inserted
  · cases inserted
  · next new =>
    split at inserted
    · cases inserted
    · next referred =>
      cases inserted
      have left : memberOf serverId channelId pseudonymId database = false := by
        rw [← Bool.not_eq_true]
        intro member
        rcases List.any_eq_true.mp member with ⟨row, stored, same⟩
        simp only [Bool.and_eq_true] at same
        apply new
        exact List.any_eq_true.mpr ⟨row, stored, by rw [same.1.2, same.2]; rfl⟩
      simp only [Bool.and_eq_true, Bool.not_eq_false] at referred
      exact ⟨left, by rw [referred.1.1, referred.2]; rfl, rfl⟩

/-- The only constraint on the members themselves is that a pseudonym is one once. -/
theorem row_of_insertMember_error {error : DbError}
    (refused : insertMember now serverId channelId pseudonymId database = .error error)
    (own : error ≠ foreignKeyFailed) :
    ∃ row ∈ database.channelMembers.rows,
      row.channelId = channelId ∧ row.pseudonymId = pseudonymId := by
  unfold insertMember at refused
  split at refused
  · next joined =>
    rcases List.any_eq_true.mp joined with ⟨row, member, same⟩
    simp only [Bool.and_eq_true, decide_eq_true_eq] at same
    exact ⟨row, member, same⟩
  · split at refused
    · cases refused
      exact absurd rfl own
    · cases refused

theorem memberOf_insert {role joinedAt : String} :
    memberOf serverId other user { database with
      channelMembers := database.channelMembers.insert fun id =>
        { id, serverId, channelId, pseudonymId, role, joinedAt } } =
      (memberOf serverId other user database ||
        (channelId = other && pseudonymId = user)) := by
  simp [memberOf]

theorem agentServing_insert {weight : String} :
    agentServing serverId other user { database with
      graphEdges := database.graphEdges.insert fun id =>
        { id
          serverId
          fromNode := pseudonymId
          toNode := channelId
          kind := Graph.edgeKindToStr .agentServing
          weight
          createdAt := now } } =
      (agentServing serverId other user database ||
        (channelId = other && pseudonymId = user)) := by
  simp [agentServing, Bool.and_comm]

theorem memberOf_deleteWhere :
    memberOf serverId other user (deleteMembers (fun row => row.serverId = serverId &&
        row.channelId = channelId && row.pseudonymId = pseudonymId) database) =
      (memberOf serverId other user database &&
        !(channelId = other && pseudonymId = user)) := by
  rw [Bool.eq_iff_iff]
  simp only [memberOf, deleteMembers, List.any_eq_true, Table.mem_deleteWhere, Bool.and_eq_true,
    decide_eq_true_eq, Bool.not_eq_true', Bool.and_eq_false_iff, decide_eq_false_iff_not]
  constructor
  · intro kept
    rcases kept with ⟨row, ⟨stored, spared⟩, ⟨own, sameChannel⟩, sameUser⟩
    subst own sameChannel sameUser
    refine ⟨⟨row, stored, ⟨rfl, rfl⟩, rfl⟩, ?_⟩
    simpa [eq_comm] using spared
  · intro kept
    rcases kept with ⟨⟨row, stored, ⟨own, sameChannel⟩, sameUser⟩, spared⟩
    subst own sameChannel sameUser
    refine ⟨row, ⟨stored, ?_⟩, ⟨rfl, rfl⟩, rfl⟩
    simpa [eq_comm] using spared

theorem agentServing_deleteWhere :
    agentServing serverId other user { database with
      graphEdges := database.graphEdges.deleteWhere fun row => row.serverId = serverId &&
        row.fromNode = pseudonymId && row.toNode = channelId &&
          row.kind = Graph.edgeKindToStr .agentServing } =
      (agentServing serverId other user database &&
        !(channelId = other && pseudonymId = user)) := by
  rw [Bool.eq_iff_iff]
  simp only [agentServing, List.any_eq_true, Table.mem_deleteWhere, Bool.and_eq_true,
    decide_eq_true_eq, Bool.not_eq_true', Bool.and_eq_false_iff, decide_eq_false_iff_not]
  constructor
  · intro kept
    rcases kept with ⟨row, ⟨stored, spared⟩, ⟨⟨own, sameUser⟩, sameChannel⟩, kind⟩
    subst own sameChannel sameUser
    refine ⟨⟨row, stored, ⟨⟨rfl, rfl⟩, rfl⟩, kind⟩, ?_⟩
    simpa [eq_comm, kind, or_comm] using spared
  · intro kept
    rcases kept with ⟨⟨row, stored, ⟨⟨own, sameUser⟩, sameChannel⟩, kind⟩, spared⟩
    subst own sameChannel sameUser
    refine ⟨row, ⟨stored, ?_⟩, ⟨⟨rfl, rfl⟩, rfl⟩, kind⟩
    simpa [eq_comm, kind, or_comm] using spared

end Rows

/-! What the handlers do. -/

section Steps

variable {Fq Key : Type} {server : ChannelServer Fq Key} {json : SerdeJson} {now : String}
  {agent : Agent} {channelId : String} {header : Option (JsonText ZkProofPayload)}
  {database : Database}

theorem joinChannelHandler_eq (identity : PlatformIdentity) :
    joinChannelHandler server json now identity channelId header =
      joinChecks server json identity channelId header >>= fun _ =>
        addChannelMember server now channelId identity := by
  simp only [joinChannelHandler, joinChecks, bind_bind]

theorem looks_joinChecks (identity : PlatformIdentity) :
    Looks (joinChecks server json identity channelId header) := by
  refine looks_bind (looks_lookupCommitment _) fun _ => ?_
  refine looks_bind (looks_ofExcept _) fun _ => ?_
  refine looks_bind (looks_connect _) fun _ => ?_
  exact looks_bind (looks_mapErr looks_getChannel) fun _ => looks_checkAdmission

/-- The row of a join, without the edge. -/
def addRow (server : ChannelServer Fq Key) (now channelId pseudonymId : String) :
    StatusHandler Unit := do
  connect internal
  mapErr internal (addMember server.environment now server.serverId channelId pseudonymId)

theorem addChannelMember_eq :
    addChannelMember server now channelId agent.identity =
      addRow server now channelId agent.identity.pseudonymId >>= fun _ =>
        mapErr internal (Graph.createEdge now server.serverId agent.identity.pseudonymId
          channelId .agentServing "1.0") := by
  simp only [addChannelMember, addRow, bind_bind, if_pos agent.isAgent]

theorem takes_getChannel {Memory : Type} {environment : Environment} :
    Takes 1 (getChannel environment channelId : Sql Database Memory ChannelError Channel) :=
  takes_bind (takes_query _ _) fun _ => takes_require _ _

theorem takes_addRow {pseudonymId : String} :
    Takes 3 (addRow server now channelId pseudonymId) := by
  refine @takes_bind _ _ _ _ _ 1 2 _ _ (takes_connect internal) fun _ => takes_mapErr ?_
  refine @takes_bind _ _ _ _ _ 1 1 _ _ takes_getChannel fun channel => ?_
  apply @takes_attempt_execute _ _ _ _ _ 0
  · exact fun _ => ⟨_, rfl⟩
  · intro result
    split
    · exact takes_pure _
    · exact takes_pure _
    · exact takes_pure _
    · exact takes_ofExcept _

theorem failsKeeping_addRow {pseudonymId : String} :
    FailsKeeping id (addRow server now channelId pseudonymId) := by
  apply failsKeeping_bind (reads_connect _).keeps
  intro _
  apply failsKeeping_mapErr
  apply failsKeeping_bind looks_getChannel.reads.keeps
  intro channel
  apply failsKeeping_attempt_execute
  · exact fun _ _ failed => nomatch failed
  · intro error
    split
    · exact (reads_pure _).keeps
    · exact (reads_pure _).keeps
    · exact (reads_pure _).keeps
    · exact (reads_fail _).keeps

/-- A join adds the row, or finds one. -/
theorem addRow_ensures {pseudonymId : String} {sent : List Outbound} :
    Ensures (addRow server now channelId pseudonymId) database sent
      fun result changed after => result = .ok () → after = sent ∧
        (insertMember now server.serverId channelId pseudonymId database = .ok changed ∨
          changed = database ∧ ∃ row ∈ database.channelMembers.rows,
            row.channelId = channelId ∧ row.pseudonymId = pseudonymId) := by
  refine (looks_connect _).ensures_bind (fun _ failed => nomatch failed) fun _ _ => ?_
  apply ensures_mapErr
  refine looks_getChannel.ensures_bind (fun _ failed => nomatch failed) fun channel _ => ?_
  apply ensures_bind
  rw [ensures_attempt]
  apply ensures_execute
  · intro text
    rw [andThen_ok]
    exact fun _ failed => nomatch failed
  · intro changed inserted
    rw [andThen_ok]
    exact fun _ _ => ⟨rfl, Or.inl inserted⟩
  · intro error refused
    rw [andThen_ok]
    split
    · next done => cases done
    · next violated =>
      cases violated
      have joined := row_of_insertMember_error refused (by simp [foreignKeyFailed])
      exact fun _ _ => ⟨rfl, Or.inr ⟨rfl, joined⟩⟩
    · next violated =>
      cases violated
      have joined := row_of_insertMember_error refused (by simp [foreignKeyFailed])
      exact fun _ _ => ⟨rfl, Or.inr ⟨rfl, joined⟩⟩
    · exact fun _ failed => nomatch failed

theorem createEdge_new {sent : List Outbound} {faults : List (Option String)}
    {serverId : Nat} {pseudonymId : String} (unfaulted : faultAt faults 0 = none)
    (new : agentServing serverId channelId pseudonymId database = false) :
    (mapErr internal (Graph.createEdge now serverId pseudonymId channelId .agentServing "1.0") :
        StatusHandler Unit) ⟨database, sent, faults⟩ =
      (.ok (), ⟨{ database with
        graphEdges := database.graphEdges.insert fun id =>
          { id
            serverId
            fromNode := pseudonymId
            toNode := channelId
            kind := Graph.edgeKindToStr .agentServing
            weight := "1.0"
            createdAt := now } }, sent, faults.tail⟩) := by
  have created := @execute_done _ _ _ Graph.GraphError.databaseError
    (Graph.insertEdge now serverId pseudonymId channelId .agentServing "1.0")
    ⟨database, sent, faults⟩ _ unfaulted (if_neg (Bool.eq_false_iff.mp new))
  exact mapErr_apply created

theorem createEdge_faulty {sent : List Outbound} {faults : List (Option String)}
    {serverId : Nat} {pseudonymId : String} (faulty : faultAt faults 0 ≠ none) :
    ((mapErr internal (Graph.createEdge now serverId pseudonymId channelId .agentServing "1.0") :
        StatusHandler Unit) ⟨database, sent, faults⟩).2.database = database := by
  rcases Option.ne_none_iff_exists'.mp faulty with ⟨text, fault⟩
  have failed := @execute_faulty _ _ _ Graph.GraphError.databaseError
    (Graph.insertEdge now serverId pseudonymId channelId .agentServing "1.0")
    ⟨database, sent, faults⟩ _ fault
  exact congrArg (fun ran => ran.2.database)
    (mapErr_apply failed : mapErr (internal : Graph.GraphError → StatusCode) _ _ = _)

/-- The edges are the members', all of them of this server. -/
structure Mirrored (serverId : Nat) (database : Database) : Prop where
  edges : Mirrors serverId database
  own : ∀ row ∈ database.channelMembers.rows, row.serverId = serverId

theorem Mirrored.of_same {serverId : Nat} {changed : Database}
    (mirrored : Mirrored serverId database)
    (members : changed.channelMembers = database.channelMembers)
    (edges : changed.graphEdges = database.graphEdges) : Mirrored serverId changed := by
  constructor
  · intro channelId pseudonymId
    have same := mirrored.edges channelId pseudonymId
    unfold agentServing memberOf at same ⊢
    rw [members, edges]
    exact same
  · rw [members]
    exact mirrored.own

theorem Mirrored.memberOf_of_row {serverId : Nat} (mirrored : Mirrored serverId database)
    {row : ChannelMember} (stored : row ∈ database.channelMembers.rows) :
    memberOf serverId row.channelId row.pseudonymId database = true := by
  apply List.any_eq_true.mpr
  refine ⟨row, stored, ?_⟩
  simp only [mirrored.own row stored, decide_true, Bool.and_self]

/-- A join of an agent that is no member adds the row and the edge. -/
theorem addChannelMember_mirrored {faults : List (Option String)}
    (mirrored : Mirrored server.serverId database)
    (orderly : Spared faults 3 →
      if memberOf server.serverId channelId agent.identity.pseudonymId database then
        faultAt faults 3 ≠ none
      else
        (database.servers.rows.any (·.id = server.serverId) &&
          database.platformIdentities.rows.any fun row => row.serverId = server.serverId &&
            row.pseudonymId = agent.identity.pseudonymId) = true → faultAt faults 3 = none) :
    Mirrored server.serverId
      (addChannelMember server now channelId agent.identity
        ⟨database, [], faults⟩).2.database := by
  rw [addChannelMember_eq]
  rcases takes_addRow.bind_cases failsKeeping_addRow faults with
    failed | ⟨_, changed, kept, spared, ran, goesOn⟩
  · have unchanged := failed.2
    dsimp only [id] at unchanged
    rw [unchanged]
    exact mirrored
  · rw [goesOn]
    have outcome := @addRow_ensures _ _ server now channelId database
      agent.identity.pseudonymId [] []
    rw [ran] at outcome
    dsimp only at outcome
    rcases outcome rfl with ⟨isKept, inserted | ⟨isChanged, row, stored, sameChannel, sameUser⟩⟩
    · rcases insertMember_eq_ok inserted with ⟨new, referred, isChanged⟩
      have unfaulted := orderly spared
      rw [new] at unfaulted
      have fault : faultAt (faults.drop 3) 0 = none :=
        (faultAt_drop faults 3 0).trans (unfaulted referred)
      have unserved : agentServing server.serverId channelId agent.identity.pseudonymId
          changed = false := by
        rw [isChanged]
        exact (mirrored.edges _ _).trans new
      rw [createEdge_new fault unserved]
      constructor
      · intro other user
        rw [agentServing_insert]
        have members : memberOf server.serverId other user changed =
            (memberOf server.serverId other user database ||
              (channelId = other && agent.identity.pseudonymId = user)) := by
          rw [isChanged]
          exact memberOf_insert
        refine Eq.trans ?_ members.symm
        rw [← mirrored.edges other user, isChanged]
        rfl
      · intro row stored
        rw [isChanged] at stored
        rcases Table.mem_insert.mp stored with old | isRow
        · exact mirrored.own row old
        · rw [isRow]
    · have member := mirrored.memberOf_of_row stored
      rw [sameChannel, sameUser] at member
      have faulted := orderly spared
      rw [if_pos member, ← faultAt_drop faults 3 0] at faulted
      rw [isChanged, createEdge_faulty faulted]
      exact mirrored

/-- The checks of a join change nothing. -/
theorem join_mirrored {faults : List (Option String)}
    (mirrored : Mirrored server.serverId database)
    (orderly : ∀ rest, joinChecks server json agent.identity channelId header
        ⟨database, [], faults⟩ = (.ok (), ⟨database, [], rest⟩) →
      Mirrored server.serverId
        (addChannelMember server now channelId agent.identity ⟨database, [], rest⟩).2.database) :
    Mirrored server.serverId
      (joinChannelHandler server json now agent.identity channelId header
        ⟨database, [], faults⟩).2.database := by
  have unchanged := (@looks_joinChecks _ _ server json channelId header
    agent.identity).reads ⟨database, [], faults⟩
  rw [joinChannelHandler_eq]
  cases ran : joinChecks server json agent.identity channelId header
      ⟨database, [], faults⟩ with
  | mk result after =>
      rcases after with ⟨changed, sent, rest⟩
      rw [ran] at unchanged
      dsimp only at unchanged
      rw [unchanged.1, unchanged.2] at ran
      cases result with
      | error error =>
          rw [bind_error ran]
          exact mirrored
      | ok _ =>
          rw [bind_ok ran]
          exact orderly rest ran

/-- The row of a leave, without the edge. -/
def removeRow (server : ChannelServer Fq Key) (channelId pseudonymId : String) :
    StatusHandler Unit := do
  let _ ← leaveFetch server.sockets channelId
  connect internal
  mapErr internal (removeMember server.serverId channelId pseudonymId)

def removeEdge (server : ChannelServer Fq Key) (channelId pseudonymId : String) :
    StatusHandler Unit := do
  let _ ← mapErr internal (Graph.deleteEdge server.serverId pseudonymId channelId .agentServing)
  pure ()

theorem leaveChannelHandler_eq :
    leaveChannelHandler server agent.identity channelId =
      removeRow server channelId agent.identity.pseudonymId >>= fun _ =>
        removeEdge server channelId agent.identity.pseudonymId := by
  simp only [leaveChannelHandler, leaveRemove, removeRow, removeEdge, bind_bind,
    if_pos agent.isAgent]
  rfl

theorem takes_removeRow {pseudonymId : String} :
    Takes 4 (removeRow server channelId pseudonymId) := by
  have fetches : Takes 2 (leaveFetch server.sockets channelId) :=
    takes_bind (takes_connect internal) fun _ => takes_mapErr takes_getChannel
  refine @takes_bind _ _ _ _ _ 2 2 _ _ fetches fun _ => ?_
  exact takes_bind (takes_connect internal) fun _ => takes_mapErr (takes_execute _ _)

theorem looks_leaveFetch : Looks (leaveFetch server.sockets channelId) :=
  looks_bind (looks_connect _) fun _ => looks_mapErr looks_getChannel

theorem failsKeeping_removeRow {pseudonymId : String} :
    FailsKeeping id (removeRow server channelId pseudonymId) := by
  apply failsKeeping_bind looks_leaveFetch.reads.keeps
  intro _
  apply failsKeeping_bind (reads_connect _).keeps
  intro _
  apply failsKeeping_mapErr
  exact failsKeeping_execute _ _

theorem removeRow_ensures {pseudonymId : String} {sent : List Outbound} :
    Ensures (removeRow server channelId pseudonymId) database sent
      fun result changed after => result = .ok () →
        (∃ channel, Answers (leaveFetch server.sockets channelId) database sent channel) ∧
        after = sent ∧
        changed = deleteMembers (fun row => row.serverId = server.serverId &&
          row.channelId = channelId && row.pseudonymId = pseudonymId) database := by
  refine looks_leaveFetch.ensures_bind (fun _ failed => nomatch failed) fun channel found => ?_
  refine (looks_connect _).ensures_bind (fun _ failed => nomatch failed) fun _ _ => ?_
  apply ensures_mapErr
  apply ensures_execute
  · exact fun _ failed => nomatch failed
  · intro changed removed _
    cases removed
    exact ⟨⟨channel, found⟩, rfl, rfl⟩
  · exact fun _ _ failed => nomatch failed

theorem removeEdge_done {sent : List Outbound} {faults : List (Option String)}
    {pseudonymId : String} (unfaulted : faultAt faults 0 = none) :
    removeEdge server channelId pseudonymId ⟨database, sent, faults⟩ =
      (.ok (), ⟨{ database with
        graphEdges := database.graphEdges.deleteWhere fun row =>
          row.serverId = server.serverId && row.fromNode = pseudonymId &&
            row.toNode = channelId && row.kind = Graph.edgeKindToStr .agentServing },
        sent, faults.tail⟩) := by
  have deleted : Graph.deleteEdge server.serverId pseudonymId channelId .agentServing
      ⟨database, sent, faults⟩ =
        ((.ok _, ⟨_, sent, faults.tail⟩) : Except Graph.GraphError _ × _) :=
    statement_done unfaulted rfl
  exact bind_ok (mapErr_apply deleted)

theorem removeEdge_faulty {sent : List Outbound} {faults : List (Option String)}
    {pseudonymId : String} (faulty : faultAt faults 0 ≠ none) :
    (removeEdge server channelId pseudonymId ⟨database, sent, faults⟩).2.database =
      database := by
  rcases Option.ne_none_iff_exists'.mp faulty with ⟨text, fault⟩
  have failed : Graph.deleteEdge server.serverId pseudonymId channelId .agentServing
      ⟨database, sent, faults⟩ =
        ((.error _, ⟨database, sent, faults.tail⟩) : Except Graph.GraphError _ × _) :=
    statement_faulty fault
  have stopped : removeEdge server channelId pseudonymId ⟨database, sent, faults⟩ = _ :=
    bind_error (mapErr_apply failed)
  rw [stopped]

/-- A leave takes the row and the edge away. -/
theorem leave_mirrored {faults : List (Option String)}
    (mirrored : Mirrored server.serverId database)
    (orderly : memberOf server.serverId channelId agent.identity.pseudonymId database = true →
      ∀ channel, Answers (leaveFetch server.sockets channelId) database [] channel →
      Spared faults 4 → faultAt faults 4 = none) :
    Mirrored server.serverId
      (leaveChannelHandler server agent.identity channelId ⟨database, [], faults⟩).2.database := by
  rw [leaveChannelHandler_eq]
  rcases takes_removeRow.bind_cases failsKeeping_removeRow faults with
    failed | ⟨_, changed, kept, spared, ran, goesOn⟩
  · have unchanged := failed.2
    dsimp only [id] at unchanged
    rw [unchanged]
    exact mirrored
  · rw [goesOn]
    have outcome := @removeRow_ensures _ _ server channelId database
      agent.identity.pseudonymId [] []
    rw [ran] at outcome
    dsimp only at outcome
    rcases outcome rfl with ⟨⟨channel, found⟩, -, isChanged⟩
    have members (other user : String) : memberOf server.serverId other user changed =
        (memberOf server.serverId other user database &&
          !(channelId = other && agent.identity.pseudonymId = user)) := by
      rw [isChanged]
      exact memberOf_deleteWhere
    have own : ∀ row ∈ changed.channelMembers.rows, row.serverId = server.serverId := by
      rw [isChanged]
      exact fun row stored => mirrored.own row (Table.mem_deleteWhere.mp stored).1
    have edges (other user : String) : agentServing server.serverId other user changed =
        memberOf server.serverId other user database := by
      rw [isChanged]
      exact mirrored.edges other user
    by_cases unfaulted : faultAt (faults.drop 4) 0 = none
    · rw [removeEdge_done unfaulted]
      refine ⟨?_, own⟩
      intro other user
      rw [agentServing_deleteWhere, edges]
      exact (members other user).symm
    · rw [removeEdge_faulty unfaulted]
      refine ⟨?_, own⟩
      intro other user
      rw [edges, members]
      -- the edge stays, so it was not there: the agent was no member
      cases isMember : memberOf server.serverId other user database with
      | false => rfl
      | true =>
          have different : ¬ (channelId = other ∧ agent.identity.pseudonymId = user) := by
            intro same
            rw [← same.1, ← same.2] at isMember
            rw [faultAt_drop] at unfaulted
            exact unfaulted (orderly isMember channel found spared)
          simpa using not_and_or.mp different

/-- A leave of a channel one is not in leaves everything as it is. -/
theorem leave_repeats {faults : List (Option String)} {channel : Channel}
    (mirrored : Mirrors server.serverId database)
    (absent : memberOf server.serverId channelId agent.identity.pseudonymId database = false)
    (found : Answers (leaveFetch server.sockets channelId) database [] channel)
    (spared : Spared faults 5) :
    leaveChannelHandler server agent.identity channelId ⟨database, [], faults⟩ =
      (.ok (), ⟨database, [], faults.drop 5⟩) := by
  rw [leaveChannelHandler_eq]
  have noRow : deleteMembers (fun row => row.serverId = server.serverId &&
      row.channelId = channelId && row.pseudonymId = agent.identity.pseudonymId) database =
        database := by
    have same := Table.deleteWhere_eq_self_iff.mpr absent
    exact congrArg (fun channelMembers => { database with channelMembers }) same
  have noEdge : { database with
      graphEdges := database.graphEdges.deleteWhere fun row =>
        row.serverId = server.serverId && row.fromNode = agent.identity.pseudonymId &&
          row.toNode = channelId && row.kind = Graph.edgeKindToStr .agentServing } =
        database := by
    have unserved := (mirrored channelId agent.identity.pseudonymId).trans absent
    have same := Table.deleteWhere_eq_self_iff.mpr unserved
    exact congrArg (fun graphEdges => { database with graphEdges }) same
  have removed : Answers (removeRow server channelId agent.identity.pseudonymId) database []
      () := by
    apply (bind_ok found).trans
    apply (bind_ok (connect_done rfl)).trans
    have emptied : removeMember server.serverId channelId agent.identity.pseudonymId
        ⟨database, [], []⟩ =
          ((.ok (), ⟨database, [], []⟩) : Except ChannelError Unit × Session _ (List Outbound)) :=
      execute_done rfl (congrArg Except.ok noRow)
    exact mapErr_apply emptied
  have parts := (@spared_add 4 1 faults).mp spared
  rw [takes_removeRow.bind_spared removed parts.1, removeEdge_done (spared_one.mp parts.2), noEdge,
    List.tail_drop]

/-- The statements of a deletion up to the one that deletes the members. -/
def deleteRows (identity : PlatformIdentity) (channelId : String) : StatusHandler Unit := do
  check (identity.canModerate = true) .forbidden
  connect internal
  mapErr channelErrToStatus (execute .database (deleteMessages (·.channelId = channelId)))
  mapErr channelErrToStatus (execute .database fun database =>
    .ok (deleteMembers (·.channelId = channelId) database))

def deleteRow (channelId : String) : StatusHandler Unit :=
  mapErr channelErrToStatus do
    let count ← statement .database (deleteChannelRow channelId)
    check (count ≠ 0) (.notFound channelId)

theorem deleteChannelHandler_eq (identity : PlatformIdentity) :
    deleteChannelHandler identity channelId =
      deleteRows identity channelId >>= fun _ => deleteRow channelId := by
  simp only [deleteChannelHandler, deleteChannel, deleteRows, deleteRow, mapErr_bind, bind_bind]

/-- What the law is about. -/
def membersAndEdges (database : Database) : Table ChannelMember × Table GraphEdge :=
  (database.channelMembers, database.graphEdges)

theorem deleteMessages_keeps {Memory Error : Type} {wrap : DbError → Error} :
    Keeps membersAndEdges (execute wrap (deleteMessages (·.channelId = channelId)) :
      Sql Database Memory Error Unit) := by
  apply keeps_execute
  intro database changed deleted
  unfold deleteMessages at deleted
  split at deleted
  · cases deleted
  · cases deleted
    rfl

theorem deleteRow_keeps : Keeps membersAndEdges (deleteRow channelId) := by
  apply keeps_mapErr
  refine keeps_bind (keeps_statement ?_) fun count => (reads_check _ _).keeps
  intro database count changed deleted
  unfold deleteChannelRow at deleted
  split at deleted
  · cases deleted
  · cases deleted
    rfl

theorem takes_deleteRows {identity : PlatformIdentity} :
    Takes 3 (deleteRows identity channelId) := by
  refine @takes_bind _ _ _ _ _ 0 3 _ _ (takes_check _ _) fun _ => ?_
  refine @takes_bind _ _ _ _ _ 1 2 _ _ (takes_connect _) fun _ => ?_
  exact takes_bind (takes_mapErr (takes_execute _ _)) fun _ => takes_mapErr (takes_execute _ _)

theorem failsKeeping_deleteRows {identity : PlatformIdentity} :
    FailsKeeping membersAndEdges (deleteRows identity channelId) := by
  apply failsKeeping_bind (reads_check _ _).keeps
  intro _
  apply failsKeeping_bind (reads_connect _).keeps
  intro _
  apply failsKeeping_bind (keeps_mapErr deleteMessages_keeps)
  intro _
  exact failsKeeping_mapErr (failsKeeping_execute _ _)

theorem deleteRows_ensures {identity : PlatformIdentity} {sent : List Outbound} :
    Ensures (deleteRows identity channelId) database sent fun result changed _ =>
      result = .ok () → identity.canModerate = true ∧
        (∀ message ∈ database.messages.rows, message.channelId = channelId →
          ∀ edit ∈ database.messageEdits.rows, edit.messageId ≠ message.messageId) ∧
        changed.channelMembers = database.channelMembers.deleteWhere (·.channelId = channelId) ∧
        changed.graphEdges = database.graphEdges := by
  refine (looks_check _ _).ensures_bind (fun _ failed => nomatch failed) fun _ allowed => ?_
  refine (looks_connect _).ensures_bind (fun _ failed => nomatch failed) fun _ _ => ?_
  apply ensures_bind
  apply ensures_mapErr
  apply ensures_execute
  · exact fun _ failed => nomatch failed
  · intro changed deleted
    dsimp only [Except.mapError]
    rw [andThen_ok]
    apply ensures_mapErr
    apply ensures_execute
    · exact fun _ failed => nomatch failed
    · intro after removed _
      cases removed
      unfold deleteMessages at deleted
      split at deleted
      · cases deleted
      · next unedited =>
        cases deleted
        refine ⟨(answers_check.mp allowed), ?_, rfl, rfl⟩
        intro message stored inChannel edit edited same
        apply unedited
        apply List.any_eq_true.mpr
        refine ⟨message, stored, ?_⟩
        rw [Bool.and_eq_true, decide_eq_true_eq]
        exact ⟨inChannel, List.any_eq_true.mpr ⟨edit, edited, decide_eq_true same⟩⟩
    · exact fun _ _ failed => nomatch failed
  · exact fun _ _ failed => nomatch failed

/-- The deletion of a channel without members leaves memberships and edges alone. -/
theorem delete_keeps {identity : PlatformIdentity} {faults : List (Option String)}
    (orderly : identity.canModerate = true → Spared faults 3 →
      (∀ message ∈ database.messages.rows, message.channelId = channelId →
        ∀ edit ∈ database.messageEdits.rows, edit.messageId ≠ message.messageId) →
      ∀ row ∈ database.channelMembers.rows, row.channelId ≠ channelId) :
    membersAndEdges (deleteChannelHandler identity channelId
        ⟨database, [], faults⟩).2.database = membersAndEdges database := by
  rw [deleteChannelHandler_eq]
  rcases takes_deleteRows.bind_cases failsKeeping_deleteRows faults with
    failed | ⟨_, changed, kept, spared, ran, goesOn⟩
  · exact failed.2
  · rw [goesOn]
    have outcome := @deleteRows_ensures channelId database identity [] []
    rw [ran] at outcome
    dsimp only at outcome
    rcases outcome rfl with ⟨canModerate, unedited, members, edges⟩
    have empty := orderly canModerate spared unedited
    have noMember : database.channelMembers.rows.any (·.channelId = channelId) = false :=
      List.any_eq_false.mpr fun row stored same => empty row stored (of_decide_eq_true same)
    rw [Table.deleteWhere_eq_self_iff.mpr noMember] at members
    have unchanged : membersAndEdges changed = membersAndEdges database :=
      congrArg₂ Prod.mk members edges
    exact (deleteRow_keeps _ ⟨changed, kept, faults.drop 3⟩ rfl).trans unchanged

end Steps

/-! The runs. -/

section Runs

variable {Fq Key : Type} {server : ChannelServer Fq Key} {json : SerdeJson}
  {realText : F32 → String} {database : ServerDatabase} {call : EdgeCall}

theorem onTables_membersAndEdges {Error α : Type}
    {program : Sql Database (List Outbound) Error α} (kept : Keeps membersAndEdges program) :
    Keeps (fun database : ServerDatabase => membersAndEdges database.toDatabase)
      (onTables program) :=
  keeps_onPart (fun _ => rfl) fun _ => kept

theorem registerAgent_membersAndEdges {now : String} {serverId : Nat}
    {request : AgentHandshakeRequest} {report : VrpValidationReport} {reputationScore : F32} :
    Keeps (fun database : ServerDatabase => membersAndEdges database.toDatabase)
      (registerAgent realText now serverId request report reputationScore) := by
  have upserts : Keeps (fun database : ServerDatabase => membersAndEdges database.toDatabase)
      (execute (fun error => ApiError.internalServerError
          ("failed to upsert registration: " ++ error.text))
        (upsertAgent serverId request report (realText reputationScore)) :
          ServerSql ApiError Unit) := by
    apply keeps_execute
    intro database changed written
    unfold upsertAgent at written
    split at written
    · cases written
      rfl
    · cases written
  apply keeps_bind
  · exact keeps_attempt (onTables_membersAndEdges (Graph.updateNodeActivity_keeps fun _ _ => rfl))
  · intro activity
    split
    · refine keeps_bind (keeps_send _) fun _ => ?_
      exact keeps_bind (onTables_membersAndEdges (emitAndBroadcast_keeps fun _ _ => rfl))
        fun _ => upserts
    · exact upserts
    · exact upserts

theorem agentHandshake_membersAndEdges {environment : Environment} {ties : TieOrder}
    {clock : Option Nat} {now : String} {serverId : Nat} {policy : ServerPolicy}
    {request : AgentHandshakeRequest} :
    Keeps (fun database : ServerDatabase => membersAndEdges database.toDatabase)
      (agentHandshake environment realText ties clock now serverId policy request) := by
  apply keeps_bind (reads_orElse _ _).keeps
  intro localAnchor
  refine keeps_bind (keeps_transaction ?_) fun _ => (reads_pure _).keeps
  refine keeps_bind (keeps_mapErr (keeps_execute ?_)) fun _ => ?_
  · intro database changed written
    split at written
    · cases written
      rfl
    · cases written
  refine keeps_bind (keeps_mapErr (reads_query _ _).keeps) fun reputationScore => ?_
  split
  · exact keeps_bind registerAgent_membersAndEdges fun _ => (reads_pure _).keeps
  · exact keeps_bind registerAgent_membersAndEdges fun _ => (reads_pure _).keeps
  · refine keeps_bind (keeps_statement ?_) fun _ => (reads_pure _).keeps
    intro database count changed done
    cases done
    rfl

theorem Mirrored.of_view {serverId : Nat} {before changed : Database}
    (mirrored : Mirrored serverId before)
    (same : membersAndEdges changed = membersAndEdges before) : Mirrored serverId changed :=
  mirrored.of_same (congrArg Prod.fst same) (congrArg Prod.snd same)

theorem edgeStep_mirrored (mirrored : Mirrored server.serverId database.toDatabase)
    (orderly : Orderly server json database call) :
    Mirrored server.serverId (edgeStep server json realText database call).toDatabase := by
  rcases call with ⟨request, now, faults⟩
  cases request with
  | join agent channelId header =>
      apply join_mirrored mirrored
      intro rest ran
      exact addChannelMember_mirrored mirrored (orderly rest ran)
  | leave agent channelId => exact leave_mirrored mirrored orderly
  | delete identity channelId => exact mirrored.of_view (delete_keeps orderly)
  | register request policy ties clock =>
      exact mirrored.of_view (agentHandshake_membersAndEdges _ ⟨database, [], faults⟩ rfl)
  | elsewhere changed => exact mirrored.of_same rfl rfl

theorem repeatsSafely_of_orderly (mirrored : Mirrored server.serverId database.toDatabase)
    (orderly : Orderly server json database call) :
    RepeatsSafely server json realText database call := by
  rcases call with ⟨request, now, faults⟩
  cases request with
  | join agent channelId header =>
      intro member rest ran spared
      have faulted := orderly rest ran fun number below => spared number (by omega)
      rw [if_pos member] at faulted
      exact absurd (spared 3 (by omega)) faulted
  | leave agent channelId =>
      intro absent channel found spared
      have left := leave_repeats mirrored.edges absent found spared
      refine ⟨congrArg Prod.fst left, ?_⟩
      exact congrArg (fun ran => { database with toDatabase := ran.2.database }) left
  | delete identity channelId => trivial
  | register request policy ties clock => trivial
  | elsewhere changed => trivial

end Runs

/-- From a server without memberships and edges, every orderly run has an edge from each agent
to each channel it is a member of and no others, and repeats joins and leaves safely. -/
theorem edges_mirror_memberships {Fq Key : Type} (server : ChannelServer Fq Key)
    (json : SerdeJson) (realText : F32 → String) (database : ServerDatabase)
    (noMembers : database.channelMembers.rows = []) (noEdges : database.graphEdges.rows = [])
    (calls : List EdgeCall)
    (orderly : Execution.Guarded (edgeStep server json realText) (Orderly server json) database
      calls) :
    (∀ state, Execution.Visits (edgeStep server json realText) database calls state →
        Mirrors server.serverId state.toDatabase) ∧
      Execution.Guarded (edgeStep server json realText) (RepeatsSafely server json realText)
        database calls := by
  have mirrored : Mirrored server.serverId database.toDatabase := by
    constructor
    · intro channelId pseudonymId
      rw [agentServing, memberOf, noMembers, noEdges]
      rfl
    · rw [noMembers]
      exact fun _ member => absurd member List.not_mem_nil
  have preserved := fun state label held guard =>
    @edgeStep_mirrored _ _ server json realText state label held guard
  constructor
  · intro state visited
    exact (Execution.visits_invariant_of_guarded _ preserved mirrored orderly state visited).edges
  · exact Execution.guarded_of_invariant _ preserved
      (fun state label held guard => repeatsSafely_of_orderly held guard) mirrored orderly

section Sample

/-! An agent joins a channel and leaves it again. -/

def agentJson : SerdeJson where
  stringList _ := none
  alignmentStatus text := if text = "\"ALIGNED\"" then some .aligned else none

def servingAgent : Agent :=
  ⟨⟨1, 1, "agent", "AI_AGENT", false, false, false, false, false, true⟩, rfl⟩

def channelModerator : PlatformIdentity :=
  ⟨2, 1, "moderator", "HUMAN", false, true, false, false, false, true⟩

def servedDatabase : ServerDatabase :=
  { migrated with
    servers := singleServer
    platformIdentities :=
      (Table.empty.insert fun id => { servingAgent.identity with id }).insert fun id =>
        { channelModerator with id }
    agentRegistrations := Table.empty.insert fun id =>
      ⟨id, 1, "agent", "ALIGNED", "NO_TRANSFER", .encoded ⟨[], [], []⟩, "1.0", true⟩
    channels := Table.empty.insert (channelRow "room") }

def edgeCall (request : EdgeRequest) : EdgeCall := ⟨request, "", []⟩

def afterServing (requests : List EdgeRequest) : ServerDatabase :=
  Execution.run (edgeStep readingServer agentJson fun _ => "0") servedDatabase
    (requests.map edgeCall)

/-- It has the edge in between. -/
theorem edges_mirror_memberships_left :
    agentServing 1 "room" "agent"
        (afterServing [.join servingAgent "room" none]).toDatabase = true ∧
      ∀ state, Execution.Visits (edgeStep readingServer agentJson fun _ => "0") servedDatabase
        ([.join servingAgent "room" none, .leave servingAgent "room"].map edgeCall) state →
          Mirrors 1 state.toDatabase := by
  refine ⟨by decide +kernel, ?_⟩
  apply And.left
  apply edges_mirror_memberships readingServer agentJson (fun _ => "0") servedDatabase rfl rfl
  refine ⟨?_, ?_, trivial⟩
  · intro rest ran _
    have isRest : rest = [] := (congrArg (fun ran => ran.2.faults) ran).symm
    rw [isRest, if_neg (by decide +kernel)]
    exact fun _ => rfl
  · exact fun _ _ _ _ => rfl

/-- An agent that joins once more is refused, and the edge of a deleted channel stays. -/
theorem not_edges_mirror_memberships :
    ¬ (∀ (database : ServerDatabase), database.channelMembers.rows = [] →
        database.graphEdges.rows = [] → ∀ calls,
          Execution.Guarded (edgeStep readingServer agentJson fun _ => "0")
            (RepeatsSafely readingServer agentJson fun _ => "0") database calls) ∧
      ¬ ∀ (database : ServerDatabase), database.channelMembers.rows = [] →
        database.graphEdges.rows = [] → ∀ calls state,
          Execution.Visits (edgeStep readingServer agentJson fun _ => "0") database calls
            state → Mirrors 1 state.toDatabase := by
  constructor
  · intro safely
    have repeated := (Execution.guarded_append.mp (safely servedDatabase rfl rfl
      ([edgeCall (.join servingAgent "room" none)] ++
        [edgeCall (.join servingAgent "room" none)]))).2.1
    have joined := (repeated (by decide +kernel) [] (by rfl) (spared_nil 4)).1
    revert joined
    decide +kernel
  · intro mirrors
    have left := mirrors servedDatabase rfl rfl
      ([.join servingAgent "room" none, .delete channelModerator "room"].map edgeCall) _
      ⟨_, List.prefix_rfl, rfl⟩ "room" "agent"
    revert left
    decide +kernel

end Sample

end Annex.Server
