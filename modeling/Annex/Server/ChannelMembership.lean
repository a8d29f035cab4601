import Annex.Channels.StoreCorrectness
import Annex.Foundation.SqlFrame
import Annex.Server.Join
import Annex.Server.WebSocket

namespace Annex.Server

open Channels Db Identity Sql

/-! Leaving and deleting a channel, and what the operations on channels do to the
memberships. -/

section Handlers

variable (server : SocketServer)

/-- Step 1 of `leave_channel_handler`. -/
def leaveFetch (channelId : String) : StatusHandler Channel := do
  connect internal
  mapErr channelErrToStatus (getChannel server.environment channelId)

/-- Step 2: remove the member, and an agent's edge to the channel. -/
def leaveRemove (identity : PlatformIdentity) (channelId : String) : StatusHandler Unit := do
  connect internal
  mapErr internal (removeMember server.serverId channelId identity.pseudonymId)
  if identity.participantType = "AI_AGENT" then do
    let _ ← mapErr internal (Graph.deleteEdge server.serverId identity.pseudonymId channelId
      .agentServing)
    pure ()
  else
    pure ()

/-- `DELETE /api/channels/:channelId`. -/
def deleteChannelHandler (identity : PlatformIdentity) (channelId : String) :
    StatusHandler Unit := do
  check (identity.canModerate = true) .forbidden
  connect internal
  mapErr channelErrToStatus (deleteChannel channelId)

end Handlers

/-! Memberships. -/

section Members

variable {server : SocketServer} {serverId : Nat} {channelId pseudonymId : String}
  {database : Database} {identity : PlatformIdentity}

theorem memberOf_insertMember {now other user : String} {changed : Database}
    (inserted : insertMember now serverId other user database = .ok changed)
    (member : memberOf serverId channelId pseudonymId database = true) :
    memberOf serverId channelId pseudonymId changed = true := by
  unfold insertMember at inserted
  split at inserted
  · cases inserted
  · split at inserted
    · cases inserted
    · cases inserted
      simp only [memberOf, Table.rows_insert, List.any_append, Bool.or_eq_true]
      exact Or.inl member

/-- Whoever joins, the other members stay. -/
theorem addMember_preserves {Memory : Type} {environment : Environment}
    {now other user : String} :
    Preserves (fun database => memberOf serverId channelId pseudonymId database = true)
      (addMember environment now serverId other user :
        Sql Database Memory ChannelError Unit) := by
  refine preserves_bind looks_getChannel.reads.preserves fun channel => ?_
  refine preserves_bind (preserves_attempt (preserves_execute ?_)) fun outcome => ?_
  · intro database changed inserted member
    exact memberOf_insertMember inserted member
  · split
    · exact (reads_pure _).preserves
    · exact (reads_pure _).preserves
    · exact (reads_pure _).preserves
    · exact (reads_fail _).preserves

/-- A deletion of members that spares the rows of a membership spares the membership. -/
theorem memberOf_deleteMembers {selected : ChannelMember → Bool}
    (spared : ∀ row : ChannelMember, row.channelId = channelId →
      row.pseudonymId = pseudonymId → selected row = false)
    (member : memberOf serverId channelId pseudonymId database = true) :
    memberOf serverId channelId pseudonymId (deleteMembers selected database) = true := by
  rcases List.any_eq_true.mp member with ⟨row, stored, matching⟩
  apply List.any_eq_true.mpr
  refine ⟨row, Table.mem_deleteWhere.mpr ⟨stored, ?_⟩, matching⟩
  simp only [Bool.and_eq_true, decide_eq_true_eq] at matching
  exact spared row matching.1.2 matching.2

theorem removeMember_preserves {Memory : Type} {other user : String}
    (different : ¬ (channelId = other ∧ pseudonymId = user)) :
    Preserves (fun database => memberOf serverId channelId pseudonymId database = true)
      (removeMember serverId other user : Sql Database Memory ChannelError Unit) := by
  apply preserves_execute
  intro database changed removed member
  cases removed
  apply memberOf_deleteMembers _ member
  intro row sameChannel sameUser
  rw [sameChannel, sameUser]
  simpa using fun _ same other => different ⟨same, other⟩

theorem createChannel_preserves {Memory : Type} {now : String}
    {params : CreateChannelParams} :
    Preserves (fun database => memberOf serverId channelId pseudonymId database = true)
      (createChannel now params : Sql Database Memory ChannelError Unit) := by
  apply preserves_execute
  intro database changed inserted member
  unfold insertChannel at inserted
  split at inserted
  · cases inserted
  · split at inserted
    · cases inserted
    · cases inserted
      exact member

/-- The deletion of a channel leaves the members of the others. -/
theorem deleteChannel_preserves {Memory : Type} {other : String}
    (different : channelId ≠ other) :
    Preserves (fun database => memberOf serverId channelId pseudonymId database = true)
      (deleteChannel other : Sql Database Memory ChannelError Unit) := by
  refine preserves_bind (preserves_execute ?_) fun _ => ?_
  · intro database changed deleted member
    unfold deleteMessages at deleted
    split at deleted
    · cases deleted
    · cases deleted
      exact member
  refine preserves_bind (preserves_execute ?_) fun _ => ?_
  · intro database changed deleted member
    cases deleted
    apply memberOf_deleteMembers _ member
    intro row sameChannel _
    rw [sameChannel]
    exact decide_eq_false different
  refine preserves_bind (preserves_statement ?_) fun count => (reads_check _ _).preserves
  intro database count changed deleted member
  unfold deleteChannelRow at deleted
  split at deleted
  · cases deleted
  · cases deleted
    exact member

theorem deleteChannelHandler_preserves {other : String} (different : channelId ≠ other) :
    Preserves (fun database => memberOf serverId channelId pseudonymId database = true)
      (deleteChannelHandler identity other) :=
  preserves_bind (reads_check _ _).preserves fun _ =>
    preserves_bind (reads_connect _).preserves fun _ =>
      preserves_mapErr (deleteChannel_preserves different)

theorem deleteChannelHandler_refused {other : String}
    {session : Session Database (List Outbound)} (refused : identity.canModerate ≠ true) :
    deleteChannelHandler identity other session = (.error .forbidden, session) := by
  apply bind_error
  rw [check_apply, if_neg refused]

theorem leaveRemove_preserves {other : String}
    (different : ¬ (channelId = other ∧ pseudonymId = identity.pseudonymId)) :
    Preserves (fun database => memberOf server.serverId channelId pseudonymId database = true)
      (leaveRemove server identity other) := by
  refine preserves_bind (reads_connect _).preserves fun _ => ?_
  refine preserves_bind (preserves_mapErr (removeMember_preserves different)) fun _ => ?_
  split
  · refine preserves_bind (preserves_mapErr (preserves_statement ?_)) fun _ =>
      (reads_pure _).preserves
    intro database count changed deleted member
    cases deleted
    exact member
  · exact (reads_pure _).preserves

/-- A leave fails before its deletion, unless the edge of an agent cannot be deleted. -/
theorem leaveRemove_ok_or_unchanged {faults : List (Option String)} {sent : List Outbound}
    (edge : identity.participantType = "AI_AGENT" → faultAt faults 2 = none) :
    (leaveRemove server identity channelId ⟨database, sent, faults⟩).1 = .ok () ∨
      (leaveRemove server identity channelId ⟨database, sent, faults⟩).2.database =
        database := by
  cases connected : faultAt faults 0 with
  | some text =>
      rw [leaveRemove, bind_error (connect_faulty connected)]
      exact Or.inr rfl
  | none =>
      rw [leaveRemove, bind_ok (connect_done connected)]
      cases second : faultAt faults 1 with
      | some text =>
          have failed : removeMember server.serverId channelId identity.pseudonymId
              ⟨database, sent, faults.tail⟩ =
                (.error (.database (.failure text)), ⟨database, sent, faults.tail.tail⟩) :=
            execute_faulty ((faultAt_tail faults 0).trans second)
          rw [bind_error (mapErr_apply failed)]
          exact Or.inr rfl
      | none =>
          obtain ⟨changed, removed⟩ : ∃ changed,
              removeMember server.serverId channelId identity.pseudonymId
                ⟨database, sent, faults.tail⟩ =
                  ((.ok (), ⟨changed, sent, faults.tail.tail⟩) :
                    Except ChannelError Unit × _) :=
            ⟨_, execute_done ((faultAt_tail faults 0).trans second) rfl⟩
          rw [bind_ok (mapErr_apply removed)]
          split
          · next agent =>
            have third : faultAt faults.tail.tail 0 = none :=
              (faultAt_tail faults.tail 0).trans ((faultAt_tail faults 1).trans (edge agent))
            obtain ⟨count, after, deleted⟩ : ∃ count after,
                Graph.deleteEdge server.serverId identity.pseudonymId channelId .agentServing
                  ⟨changed, sent, faults.tail.tail⟩ = (.ok count, after) :=
              ⟨_, _, statement_done third rfl⟩
            rw [bind_ok (mapErr_apply deleted)]
            exact Or.inl rfl
          · exact Or.inl rfl

end Members

end Annex.Server
