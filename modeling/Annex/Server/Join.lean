import Annex.Channels.StoreCorrectness
import Annex.Graph.Node
import Annex.Server.Channels

namespace Annex.Server

open Channels Db Identity Sql

/-! Joining a channel, and what a channel asks of who joins. -/

/-- `serde_json::from_str` into the types the checks read from text columns. -/
structure SerdeJson where
  stringList : String → Option (List String)
  alignmentStatus : String → Option AlignmentStatus

/-- The capability of a name; there is none of an unknown name. -/
def hasCapability (identity : PlatformIdentity) (required : String) : Bool :=
  if required = "can_voice" then identity.canVoice
  else if required = "can_moderate" then identity.canModerate
  else if required = "can_invite" then identity.canInvite
  else if required = "can_federate" then identity.canFederate
  else if required = "can_bridge" then identity.canBridge
  else false

/-- The order Aligned, Partial, Conflict against the minimum of a channel. -/
def alignmentAllowed (minAlignment status : AlignmentStatus) : Bool :=
  match minAlignment with
  | .conflict => true
  | .partial_ => status ≠ .conflict
  | .aligned => status = .aligned

def channelErrToStatus : ChannelError → StatusCode
  | .notFound _ => .notFound
  | .database _ => .internalServerError

section Handlers

variable {Fq Key : Type} (server : ChannelServer Fq Key) (json : SerdeJson)

/-- Step 2. -/
def checkCapabilities (channel : Channel) (identity : PlatformIdentity) :
    Except StatusCode Unit :=
  match channel.requiredCapabilitiesJson with
  | none => .ok ()
  | some capsJson =>
      match json.stringList capsJson with
      | none => .error .internalServerError
      | some required =>
          if required.all (hasCapability identity) then .ok () else .error .forbidden

/-- The rules of step 3 for the status an agent is registered with. The text of the column
is JSON or what stands between the quotes of a JSON string. -/
def checkAgentStatus (channel : Channel) (statusStr : String) : Except StatusCode Unit :=
  match (json.alignmentStatus statusStr).or
      (json.alignmentStatus ("\"" ++ statusStr ++ "\"")) with
  | none => .error .internalServerError
  | some status =>
      if status = .conflict then .error .forbidden
      else if status = .partial_ ∧ channel.channelType ≠ .text then .error .forbidden
      else if channel.agentMinAlignment.all (alignmentAllowed · status) then .ok ()
      else .error .forbidden

/-- Step 3. -/
def checkAgentAlignment (channel : Channel) (identity : PlatformIdentity) :
    StatusHandler Unit :=
  if identity.participantType = "AI_AGENT" then do
    connect internal
    let alignmentStatus ← query internal fun database =>
      .ok ((database.agentRegistrations.rows.find? fun row =>
        row.serverId = server.serverId && row.pseudonymId = identity.pseudonymId).map
          AgentRegistration.alignmentStatus)
    let statusStr ← require alignmentStatus .forbidden
    ofExcept (checkAgentStatus json channel statusStr)
  else
    pure ()

/-- Steps 2 and 3: what the channel asks of the identity. -/
def checkAdmission (channel : Channel) (identity : PlatformIdentity) :
    StatusHandler Unit := do
  ofExcept (checkCapabilities json channel identity)
  checkAgentAlignment server json channel identity

/-- Step 4. -/
def addChannelMember (now channelId : String) (identity : PlatformIdentity) :
    StatusHandler Unit := do
  connect internal
  mapErr internal (addMember server.environment now server.serverId channelId
    identity.pseudonymId)
  if identity.participantType = "AI_AGENT" then
    mapErr internal (Graph.createEdge now server.serverId identity.pseudonymId channelId
      .agentServing "1.0")
  else
    pure ()

/-- `POST /api/channels/:channelId/join` up to the voice client of an agent, which is
connected last. -/
def joinChannelHandler (now : String) (identity : PlatformIdentity) (channelId : String)
    (header : Option (JsonText ZkProofPayload)) : StatusHandler Unit := do
  let commitment ← lookupCommitment server identity.pseudonymId
  ofExcept (verifyZkMembershipHeader server header commitment)
  connect internal
  let channel ← mapErr channelErrToStatus (getChannel server.environment channelId)
  checkAdmission server json channel identity
  addChannelMember server now channelId identity

end Handlers

/-! What the checks ask for. -/

/-- An agent has a registered status that every rule lets pass. -/
structure AgentAdmitted (json : SerdeJson) (serverId : Nat) (channel : Channel)
    (pseudonymId : String) (database : Database) : Prop where
  registered : ∃ row, (database.agentRegistrations.rows.find? fun row =>
      row.serverId = serverId && row.pseudonymId = pseudonymId) = some row ∧
    ∃ status, (json.alignmentStatus row.alignmentStatus).or
        (json.alignmentStatus ("\"" ++ row.alignmentStatus ++ "\"")) = some status ∧
      status ≠ .conflict ∧ (status = .partial_ → channel.channelType = .text) ∧
      ∀ minAlignment, channel.agentMinAlignment = some minAlignment →
        alignmentAllowed minAlignment status = true

/-- The identity has the capabilities of the channel and, if it is an agent, the
alignment. -/
structure ChannelAdmits (json : SerdeJson) (serverId : Nat) (channel : Channel)
    (identity : PlatformIdentity) (database : Database) : Prop where
  capable : ∀ capsJson, channel.requiredCapabilitiesJson = some capsJson →
    ∃ required, json.stringList capsJson = some required ∧
      ∀ name ∈ required, hasCapability identity name = true
  aligned : identity.participantType = "AI_AGENT" →
    AgentAdmitted json serverId channel identity.pseudonymId database

section Answers

variable {Fq Key : Type} {server : ChannelServer Fq Key} {json : SerdeJson}
  {channel : Channel} {identity : PlatformIdentity} {database : Database}
  {sent : List Outbound}

theorem looks_findCommitmentForPseudonym {Memory : Type} (environment : Environment)
    (pseudonym : String) :
    Looks (findCommitmentForPseudonym environment pseudonym :
      Sql Database Memory DbError (Option (String × String))) := by
  apply looks_bind (looks_query _ _)
  rintro (_ | found)
  · refine looks_bind (looks_query _ _) fun candidates => ?_
    split
    · exact looks_pure _
    · exact looks_bind (looks_query _ _) fun _ => looks_pure _
  · exact looks_pure _

theorem looks_lookupCommitment (pseudonymId : String) :
    Looks (lookupCommitment server pseudonymId) :=
  looks_bind (looks_connect _) fun _ =>
    looks_bind (looks_mapErr (looks_findCommitmentForPseudonym _ _)) fun _ => looks_pure _

theorem checkCapabilities_eq_ok_iff :
    checkCapabilities json channel identity = .ok () ↔
      ∀ capsJson, channel.requiredCapabilitiesJson = some capsJson →
        ∃ required, json.stringList capsJson = some required ∧
          ∀ name ∈ required, hasCapability identity name = true := by
  unfold checkCapabilities
  cases channel.requiredCapabilitiesJson with
  | none => simp
  | some capsJson => cases parsed : json.stringList capsJson <;> simp [parsed]

theorem checkAgentStatus_eq_ok_iff {statusStr : String} :
    checkAgentStatus json channel statusStr = .ok () ↔
      ∃ status, (json.alignmentStatus statusStr).or
          (json.alignmentStatus ("\"" ++ statusStr ++ "\"")) = some status ∧
        status ≠ .conflict ∧ (status = .partial_ → channel.channelType = .text) ∧
        ∀ minAlignment, channel.agentMinAlignment = some minAlignment →
          alignmentAllowed minAlignment status = true := by
  unfold checkAgentStatus
  cases (json.alignmentStatus statusStr).or
      (json.alignmentStatus ("\"" ++ statusStr ++ "\"")) with
  | none => simp
  | some status =>
      cases status with
      | aligned => cases channel.agentMinAlignment <;> simp
      | partial_ =>
          by_cases text : channel.channelType = .text
          · cases channel.agentMinAlignment <;> simp [text]
          · simp [text]
      | conflict => simp

theorem looks_checkAgentAlignment :
    Looks (checkAgentAlignment server json channel identity) := by
  unfold checkAgentAlignment
  split
  · exact looks_bind (looks_connect _) fun _ => looks_bind (looks_query _ _) fun _ =>
      looks_bind (looks_require _ _) fun _ => looks_ofExcept _
  · exact looks_pure _

theorem answers_checkAgentAlignment :
    Answers (checkAgentAlignment server json channel identity) database sent () ↔
      (identity.participantType = "AI_AGENT" →
        AgentAdmitted json server.serverId channel identity.pseudonymId database) := by
  unfold checkAgentAlignment
  split
  · next agent =>
    simp only [answers_bind, looks_connect, looks_query, looks_require, answers_connect,
      answers_query, answers_require, answers_ofExcept, checkAgentStatus_eq_ok_iff,
      exists_const, true_and, agent, true_imp_iff]
    constructor
    · rintro ⟨_, ⟨⟩, statusStr, registered, rules⟩
      rcases Option.map_eq_some_iff.mp registered with ⟨row, found, rfl⟩
      exact ⟨row, found, rules⟩
    · rintro ⟨row, found, rules⟩
      exact ⟨_, rfl, row.alignmentStatus, by rw [found]; rfl, rules⟩
  · next human =>
    simp [human]

theorem looks_checkAdmission : Looks (checkAdmission server json channel identity) :=
  looks_bind (looks_ofExcept _) fun _ => looks_checkAgentAlignment

theorem answers_checkAdmission :
    Answers (checkAdmission server json channel identity) database sent () ↔
      ChannelAdmits json server.serverId channel identity database := by
  rw [checkAdmission, answers_bind (looks_ofExcept _)]
  simp only [answers_ofExcept, answers_checkAgentAlignment]
  constructor
  · rintro ⟨_, capable, aligned⟩
    exact ⟨checkCapabilities_eq_ok_iff.mp capable, aligned⟩
  · intro admits
    exact ⟨(), checkCapabilities_eq_ok_iff.mpr admits.capable, admits.aligned⟩

/-- Who joins a channel of this server is admitted by it. -/
theorem joinChannelHandler_ensures {now channelId : String}
    {header : Option (JsonText ZkProofPayload)} :
    Ensures (joinChannelHandler server json now identity channelId header) database sent
      fun result _ _ => result = .ok () →
        ∃ row channel, findChannel channelId database = some row ∧
          mapRowToChannel server.environment row = .ok channel ∧
          ChannelAdmits json server.serverId channel identity database := by
  refine (looks_lookupCommitment _).ensures_bind (fun _ failed => nomatch failed) ?_
  intro commitment _
  refine (looks_ofExcept _).ensures_bind (fun _ failed => nomatch failed) fun _ _ => ?_
  refine (looks_connect _).ensures_bind (fun _ failed => nomatch failed) fun _ _ => ?_
  refine (looks_mapErr looks_getChannel).ensures_bind (fun _ failed => nomatch failed) ?_
  intro channel found
  rcases answers_getChannel.mp ((answers_mapErr looks_getChannel).mp found) with
    ⟨row, foundRow, decoded⟩
  refine looks_checkAdmission.ensures_bind (fun _ failed => nomatch failed) ?_
  intro _ admits
  exact fun _ _ => ⟨row, channel, foundRow, decoded, answers_checkAdmission.mp admits⟩

end Answers

end Annex.Server
