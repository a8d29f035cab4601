import Annex.Server.Join
import Annex.Server.MessageReceipt

namespace Annex.Server

open Channels Db Federation Identity Sql

/-! The members that federation peers add, against what a channel asks of local ones. -/

variable {Fq Key : Type}

/-- The endpoint makes the identity a member of the channel. -/
def AddsMember (server : FederationServer Fq Key) (channelId : String)
    (payload : JoinFederatedChannelRequest) (session : Session Database (List Outbound)) :
    Prop :=
  memberOf server.serverId channelId payload.pseudonymId session.database = false ∧
    memberOf server.serverId channelId payload.pseudonymId
      (joinFederatedChannelHandler server channelId payload session).2.database = true

/-- The channel is federated, and the join of a local member would admit the identity of
the pseudonym. -/
def AdmitsFederated (server : FederationServer Fq Key) (json : SerdeJson)
    (channelId pseudonymId : String) (database : Database) : Prop :=
  ∃ row channel identity, findChannel channelId database = some row ∧
    mapRowToChannel server.environment row = .ok channel ∧
    channel.federationScope = .federated ∧
    (database.platformIdentities.rows.find? fun row =>
      row.serverId = server.serverId && row.pseudonymId = pseudonymId) = some identity ∧
    ChannelAdmits json server.serverId channel identity database

section Join

variable {server : FederationServer Fq Key} {channelId : String}
  {payload : JoinFederatedChannelRequest} {database : Database} {sent : List Outbound}

/-- Some run of the endpoint adds the identity exactly when the checks of the endpoint pass
and the membership can be stored. -/
theorem addsMember_iff :
    (∃ faults, AddsMember server channelId payload ⟨database, sent, faults⟩) ↔
      JoinAdmissible server channelId payload database := by
  constructor
  · rintro ⟨faults, before, after⟩
    refine (@joinFederatedChannelHandler_mayChange _ _ server database sent channelId
      payload).mp ⟨faults, fun same => ?_⟩
    rw [same, before] at after
    cases after
  · rintro ⟨admitted, ⟨row, channel, found, decoded⟩, canJoin⟩
    have checked : Answers (checkFederatedJoin server channelId payload) database sent () :=
      answers_checkFederatedJoin.mpr admitted
    have achieved : Achieves (joinFederatedChannelHandler server channelId payload) database
        sent fun _ changed _ =>
          memberOf server.serverId channelId payload.pseudonymId changed = true :=
      checked.achieves_bind (achieves_mapErr (addMember_achieves found decoded canJoin))
    rcases achieved with ⟨done, changed, after, ran, joined⟩
    refine ⟨[], canJoin.notMember, ?_⟩
    rw [ran]
    exact joined

/-- The endpoint adds admitted members to federated channels only, however statements fail,
exactly where whatever its own checks pass is admitted. -/
theorem adds_admitted_iff (server : FederationServer Fq Key) (json : SerdeJson)
    (channelId : String) (payload : JoinFederatedChannelRequest) (database : Database)
    (sent : List Outbound) :
    (∀ faults, AddsMember server channelId payload ⟨database, sent, faults⟩ →
        AdmitsFederated server json channelId payload.pseudonymId database) ↔
      (JoinAdmissible server channelId payload database →
        AdmitsFederated server json channelId payload.pseudonymId database) := by
  rw [← @addsMember_iff _ _ server channelId payload database sent]
  exact ⟨fun holds ⟨faults, adds⟩ => holds faults adds,
    fun holds faults adds => holds ⟨faults, adds⟩⟩

end Join

section Sample

/-! A peer adds its participant to a channel that is not federated and asks for
moderators. -/

def localDatabase : Database :=
  { receivingDatabase with
    platformIdentities := Table.empty.insert fun id =>
      ⟨id, 1, "first pseudonym", "HUMAN", false, false, false, false, false, true⟩
    channels := Table.empty.insert fun id =>
      ⟨id, 1, "room", "Room", .encoded .text, none, none, some "[\"can_moderate\"]", none,
        some 30, .encoded .localOnly, "2026-01-01 00:00:00"⟩
    channelMembers := Table.empty }

def joinPayload : JoinFederatedChannelRequest where
  originatingServer := "https://peer.example"
  pseudonymId := "first pseudonym"
  signature := peerKey ++ peerKey

theorem local_channel_joined :
    ¬ ∀ (server : FederationServer Unit Unit) (json : SerdeJson) (channelId : String)
      (payload : JoinFederatedChannelRequest) (database : Database)
      (faults : List (Option String)),
        AddsMember server channelId payload ⟨database, [], faults⟩ →
          AdmitsFederated server json channelId payload.pseudonymId database := by
  intro admits
  have adds : AddsMember receivingServer "room" joinPayload ⟨localDatabase, [], []⟩ := by
    unfold AddsMember
    decide +kernel
  rcases admits receivingServer ⟨fun _ => some ["can_moderate"], fun _ => none⟩ "room"
    joinPayload localDatabase [] adds with
    ⟨row, channel, identity, found, decoded, federated, -⟩
  have stored : (findChannel "room" localDatabase).map (mapRowToChannel
      receivingServer.environment) = some (.ok ⟨1, 1, "room", "Room", .text, none, none,
        some "[\"can_moderate\"]", none, some 30, .localOnly, "2026-01-01 00:00:00"⟩) := rfl
  rw [found, Option.map_some, decoded] at stored
  cases Except.ok.inj (Option.some.inj stored)
  cases federated

end Sample

end Annex.Server
