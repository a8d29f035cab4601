import Annex.Server.EventRecords

namespace Annex.Server

open Db Federation Graph Identity Observe Sql Vrp

/-! The event stream against the event log, in every run of the handlers. -/

section Commands

variable {Fq Key : Type} (server : EventServer Fq Key)

namespace EventCommand

/-- What a command comes to that emits events in a transaction. -/
def slots (context : EventContext) (database : ServerDatabase) :
    {β : Type} → EventCommand β → List Slot
  | _, .program _ => []
  | _, .storePolicy request =>
      policySlots server.serverId request database.toPolicyDatabase
  | _, .recalculateAgents policy =>
      evaluationSlots
        (VrpAnchorSnapshot.new server.environment context.clock policy.principles
          policy.prohibitedActions)
        fun localAnchor => agentUpdates server.environment localAnchor policy
          (activeAgents server.serverId database.toPolicyDatabase)
  | _, .recalculateAgreements policy =>
      evaluationSlots
        (VrpAnchorSnapshot.new server.environment context.clock policy.principles
          policy.prohibitedActions)
        fun localAnchor => federationUpdates server.environment localAnchor policy
          (activeAgreements database.toDatabase)
  | _, .recordPseudonym serverId payload nullifierHex pseudonymId roleCode metadataJson =>
      pseudonymSlots context.now serverId payload.topic nullifierHex pseudonymId
        (roleCodeToNodeType roleCode) metadataJson database.toDatabase
  | _, .storeAgentHandshake request report =>
      agentSlots server.serverId request report database

variable {server}

section Parts

variable {Error α : Type} {database : ServerDatabase} {live : Live} {slots : List Slot}

theorem settles_onTables {program : Sql Database (List Outbound) Error α}
    (settles : Settles eventJournal slots program database.toDatabase live.sent) :
    Settles liveJournal slots (sending (onTables program)) database live := by
  have onServer : Settles (eventJournal.comap (fun database => database.toDatabase) id) slots
      (onTables program) database live.sent := by
    unfold onTables
    exact settles_onPart (fun _ _ => rfl) settles
  exact settles_inMemory (fun _ _ => rfl) onServer

theorem settles_onPolicies {program : Sql PolicyDatabase (List Outbound) Error α}
    (settles : Settles policyJournal slots program database.toPolicyDatabase live.sent) :
    Settles liveJournal slots (sending (onPolicies program)) database live :=
  settles_inMemory (fun _ _ => rfl) (settles_onPart (fun _ _ => rfl) settles)

end Parts

/-- Whatever fails, a command announces what it writes, and keeps it exactly when it stands. -/
theorem run_settles {β : Type} {command : EventCommand β} (recorded : command.Recorded)
    (context : EventContext) (database : ServerDatabase) (live : Live)
    (faults : List (Option String)) :
    Settled liveJournal (command.slots server context database) ⟨database, live, faults⟩
      (run server β context command ⟨database, live, faults⟩).2 := by
  revert faults
  cases command with
  | program run => exact (recorded context).settles
  | storePolicy request => exact settles_onPolicies settles_storePolicy
  | recalculateAgents policy =>
      apply settles_onPolicies
      apply settles_evaluation
      intro updates database sent
      rw [← List.append_nil (updateSlots updates)]
      exact follows_bind follows_applyAgentUpdates fun _ _ _ _ => (follows_pure _).anyhow
  | recalculateAgreements policy =>
      exact settles_onTables (settles_evaluation fun _ _ _ => follows_applyUpdates.anyhow)
  | recordPseudonym serverId payload nullifierHex pseudonymId roleCode metadataJson =>
      exact settles_onTables settles_recordingPseudonym
  | storeAgentHandshake request report =>
      exact settles_inMemory (fun _ _ => rfl) settles_storeAgentHandshake

end EventCommand

end Commands

/-! The runs. -/

/-- The handlers in progress over what they share. -/
abbrev EventRuns := Interleaving (Task.World ServerDatabase Live) (EventTask Empty Unit)

abbrev EventLabel := Interleaving.Label EventRequest (Task.Turn EventContext)

/-- A server that has just started on its database. -/
def eventStart (database : ServerDatabase) (tree : MerkleTree Fr) (policy : ServerPolicy) :
    EventRuns :=
  Interleaving.idle ⟨database, ⟨tree, policy, [], [], []⟩⟩

/-- Every broadcast event is in the log with its number, type and payload, and no two of a
server have the same number. -/
def EventsAgree (world : Task.World ServerDatabase Live) : Prop :=
  (∀ event ∈ world.memory.sent.filterMap Outbound.observed,
    ∃ row ∈ world.database.publicEventLog.rows, row.serverId = event.serverId ∧
      row.seq = event.seq ∧ row.eventType = event.eventType ∧
      row.payloadJson = event.payloadJson) ∧
  (world.memory.sent.filterMap Outbound.observed).Pairwise fun first second =>
    first.serverId = second.serverId → first.seq ≠ second.seq

instance (world : Task.World ServerDatabase Live) : Decidable (EventsAgree world) :=
  inferInstanceAs (Decidable (_ ∧ _))

theorem eventsAgree_of_agrees {world : Task.World ServerDatabase Live}
    (agrees : Journal.Agrees liveJournal.key (liveJournal.logged world.database)
      (liveJournal.announced world.memory)) : EventsAgree world := by
  constructor
  · intro event member
    exact ⟨event, agrees.logged event member, rfl, rfl, rfl, rfl⟩
  · apply (List.pairwise_map.mp agrees.distinct).imp
    intro first second different sameServer sameSeq
    exact different (Prod.ext sameServer sameSeq)

theorem not_eventsAgree {world : Task.World ServerDatabase Live} {event : PublicEvent}
    (announced : event ∈ liveJournal.announced world.memory)
    (absent : ∀ old ∈ liveJournal.logged world.database,
      liveJournal.key old ≠ liveJournal.key event) : ¬ EventsAgree world := by
  intro agree
  rcases agree.1 event announced with ⟨row, member, sameServer, sameSeq, -⟩
  exact absent row member (Prod.ext sameServer sameSeq)

section Runs

variable {Fq Key : Type} (server : EventServer Fq Key)

/-- The handlers of a server, command by command. -/
def eventProgram :
    Interleaving.Program (Task.World ServerDatabase Live) (EventTask Empty Unit) EventRequest
      (Task.Turn EventContext) :=
  (Task.routine (EventCommand.run server) (EventRequest.handler server)).program

/-- No transaction that inserts an event fails afterwards, nor does its commit. -/
def EmissionsStand (state : EventRuns) : EventLabel → Prop
  | .start _ _ => True
  | .advance id turn =>
      match state.calls id with
      | some (.step command _) =>
          Stands (command.slots server turn.context state.shared.database) turn.faults
      | _ => True

/-- The stream is in step with the log, and every handler records what it emits. -/
def InStep : EventRuns → Prop :=
  Interleaving.Sound
    (fun world => Journal.Agrees liveJournal.key (liveJournal.logged world.database)
      (liveJournal.announced world.memory))
    (Task.Always EventCommand.Recorded)

variable {server}

theorem inStep_start (database : ServerDatabase) (tree : MerkleTree Fr)
    (policy : ServerPolicy) : InStep (eventStart database tree policy) :=
  Interleaving.sound_idle ⟨fun _ member => (nomatch member), List.nodup_nil⟩

theorem inStep_step (state : EventRuns) (label : EventLabel) (inStep : InStep state)
    (stand : EmissionsStand server state label) :
    InStep (Interleaving.step (eventProgram server) state label) := by
  refine Interleaving.sound_step (fun _ request => always_handler server request) ?_ state label
    inStep stand
  intro state id task turn world next inStep found stepped stand
  cases task with
  | ended result =>
      cases stepped
      exact ⟨inStep.shared, fun rest continues => nomatch continues⟩
  | step command continuation =>
      have always := inStep.calls id _ found
      cases stepped
      rw [EmissionsStand, found] at stand
      refine ⟨?_, ?_⟩
      · exact (EventCommand.run_settles always.1 turn.context state.shared.database
          state.shared.memory turn.faults).agrees stand inStep.shared
      · intro rest continues
        cases continues
        exact always.2 _

theorem eventsDisagree_of_undone (state : EventRuns) (label : EventLabel)
    (inStep : InStep state) (undone : ¬ EmissionsStand server state label) :
    ¬ EventsAgree (Interleaving.step (eventProgram server) state label).shared := by
  cases label with
  | start id request => exact absurd trivial undone
  | advance id turn =>
      rw [EmissionsStand] at undone
      cases found : state.calls id with
      | none =>
          rw [found] at undone
          exact absurd trivial undone
      | some task =>
          rw [found] at undone
          cases task with
          | ended result => exact absurd trivial undone
          | step command continuation =>
              have always := inStep.calls id _ found
              rcases (EventCommand.run_settles always.1 turn.context state.shared.database
                state.shared.memory turn.faults).lost undone with ⟨event, announced, absent⟩
              rw [Interleaving.step, found]
              exact not_eventsAgree announced absent

/-- The events that are broadcast agree with the log throughout exactly in the runs in which
no transaction that inserts an event fails afterwards. -/
theorem eventsAgree_iff_emissionsStand (database : ServerDatabase) (tree : MerkleTree Fr)
    (policy : ServerPolicy) (labels : List EventLabel) :
    (∀ state, Execution.Visits (Interleaving.step (eventProgram server))
        (eventStart database tree policy) labels state → EventsAgree state.shared) ↔
      Execution.Guarded (Interleaving.step (eventProgram server)) (EmissionsStand server)
        (eventStart database tree policy) labels :=
  Execution.visits_iff_guarded (fun _ inStep => eventsAgree_of_agrees inStep.shared) inStep_step
    eventsDisagree_of_undone (inStep_start database tree policy)

end Runs

section Sample

/-! A policy update whose commit fails, and the renaming of the server after it. -/

def eventServer : EventServer Unit Unit where
  environment := Environment.sample fun _ => []
  curve := ⟨fun _ => none, fun _ => none, fun _ => false, fun _ => false,
    fun _ _ _ => .error ""⟩
  membershipVkey := ()
  hash := fun left _ => left
  serverId := 1
  realText := fun _ => "0"
  isWhitespace := Char.isWhitespace

def eventModerator : PlatformIdentity :=
  ⟨1, 1, "moderator", "HUMAN", true, true, false, false, false, true⟩

def eventDatabase : ServerDatabase where
  servers := singleServer

def eventTurn (faults : List (Option String)) : Task.Turn EventContext :=
  ⟨⟨"", some 0, ⟨id, id⟩, fun _ => none⟩, faults⟩

def undoneUpdate : List EventLabel :=
  [.start 0 (.updatePolicy ⟨eventModerator, .default, "second"⟩),
    .advance 0 (eventTurn [none, none, none, none, none, some "database or disk is full"])]

def renameAfter : List EventLabel :=
  .start 1 (.renameServer eventModerator "Annex") ::
    List.replicate 3 (.advance 1 (eventTurn []))

/-- The event of the update is broadcast and not in the log, and the next event has its
number. -/
theorem eventsDisagree_undoneUpdate :
    ¬ ∀ (server : EventServer Unit Unit) (database : ServerDatabase) (tree : MerkleTree Fr)
      (policy : ServerPolicy) (labels : List EventLabel) (state : EventRuns),
        Execution.Visits (Interleaving.step (eventProgram server))
          (eventStart database tree policy) labels state → EventsAgree state.shared := by
  intro agree
  have visited := agree eventServer eventDatabase (MerkleTree.new (fun left _ => left) 1)
    .default (undoneUpdate ++ renameAfter) _ ⟨_, List.prefix_rfl, rfl⟩
  exact absurd visited (by decide +kernel)

end Sample

end Annex.Server
