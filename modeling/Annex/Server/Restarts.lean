import Annex.Server.PolicyConvergence
import Annex.Server.Startup

namespace Annex.Server

open Db Identity Sql

/-! The life of a server: it starts, answers requests, and stops or crashes. -/

/-- A write of the other handlers, which is none of leaves, of roots or of the policy. -/
structure OtherWrite where
  apply : PolicyDatabase → PolicyDatabase
  leaves_eq : ∀ database, (apply database).vrpLeaves = database.vrpLeaves
  roots_eq : ∀ database, (apply database).vrpRoots = database.vrpRoots
  servers_eq : ∀ database, (apply database).servers = database.servers

inductive LifeEvent where
  | start (input : StartInput)
  /-- A crash within a call is the call's effect on the database and then this. -/
  | stop
  | register (call : RegistryCall)
  | storePolicy (now : String) (request : PolicyRequest) (faults : List (Option String))
  | publishPolicy (policy : ServerPolicy)
  | otherWrite (write : OtherWrite)

structure Life where
  host : Installation
  running : Option AppState
  /-- The policy of the last update that was stored, the default one before the first. -/
  accepted : ServerPolicy

namespace Life

/-- Nothing but the migrations has run. -/
def initial (files : FileSystem) : Life where
  host := ⟨{ toDatabase := migrated }, files⟩
  running := none
  accepted := .default

section Step

variable (hash : Fr → Fr → Fr) (depth : Nat) (environment : Environment) (keyFile : String)

def step (life : Life) (event : LifeEvent) : Life :=
  match life.running, event with
  | none, .start input =>
      let started := prepareServer hash depth environment keyFile input life.host
      { life with host := started.2, running := started.1.toOption }
  | some _, .stop => { life with running := none }
  | some state, .register call =>
      let registry := Registry.step hash ⟨state.tree, life.host.database.toDatabase⟩ call
      { life with
        host.database.toDatabase := registry.database
        running := some { state with tree := registry.tree } }
  | some state, .storePolicy now request faults =>
      let answered := Server.storePolicy now state.serverId request
        ⟨life.host.database, [], faults⟩
      { life with
        host.database := answered.2.database
        accepted :=
          match answered.1 with
          | .ok _ => request.newPolicy
          | .error _ => life.accepted }
  | some state, .publishPolicy policy => { life with running := some { state with policy } }
  | some _, .otherWrite write =>
      { life with host.database := write.apply life.host.database }
  | _, _ => life

def run (files : FileSystem) (events : List LifeEvent) : Life :=
  Execution.run (step hash depth environment keyFile) (initial files) events

end Step

end Life

section Writes

variable {hash : Fr → Fr → Fr} {depth : Nat} {tree : MerkleTree Fr} {serverId : Nat}
  {policy : ServerPolicy} {database : PolicyDatabase}

/-- No call on the registry writes to the servers. -/
theorem perform_servers (now : String) (request : RegistryRequest) :
    Keeps Database.servers (Registry.perform hash now request) := by
  cases request with
  | register commitmentHex role nodeId =>
      exact keeps_bind (registerIdentity_keeps (fun _ _ => rfl) (fun _ _ => rfl)
        fun _ _ => rfl) fun _ => (reads_pure _).keeps
  | insertAndPersist leaf =>
      intro value
      unfold Registry.perform MerkleTree.insertAndPersist
      refine preserves_bind reads_readMemory.preserves fun _ =>
        preserves_bind (reads_ofExcept _).preserves fun _ =>
        preserves_bind (preserves_transaction ?_) fun _ =>
        preserves_bind (preserves_remember _) fun _ => (reads_pure _).preserves
      exact persistLeafAndRoot_preserves (fun _ _ held => held) fun _ _ held => held

theorem Seeded.register (holds : Seeded hash depth tree serverId policy database)
    (call : RegistryCall) :
    Seeded hash depth (Registry.step hash ⟨tree, database.toDatabase⟩ call).tree serverId policy
      { database with
        toDatabase := (Registry.step hash ⟨tree, database.toDatabase⟩ call).database } := by
  rcases holds.registry with ⟨leaves, synced⟩
  refine ⟨?_, ?_⟩
  · rcases Registry.step_outcome synced call with ⟨_, _, unchanged⟩ | ⟨_, leaf, _, grown⟩
    · rw [unchanged]
      exact ⟨leaves, synced⟩
    · exact ⟨leaves ++ [leaf], grown⟩
  · have kept := @perform_servers hash call.now call.request _
      ⟨database.toDatabase, tree, call.faults⟩ rfl
    exact (congrArg Table.rows kept).trans holds.server

theorem Seeded.of_eq {changed : PolicyDatabase}
    (holds : Seeded hash depth tree serverId policy database)
    (leaves : changed.vrpLeaves = database.vrpLeaves)
    (roots : changed.vrpRoots = database.vrpRoots) {newPolicy : ServerPolicy}
    (server : changed.servers.rows = [⟨serverId, .encoded newPolicy⟩]) :
    Seeded hash depth tree serverId newPolicy changed := by
  rcases holds.registry with ⟨inserted, synced⟩
  refine ⟨⟨inserted, synced.history, ?_, ?_⟩, server⟩
  · exact (congrArg Table.rows leaves).trans synced.leafRows
  · unfold activeRoots
    rw [roots]
    exact synced.activeRoots

/-- An update of the policy is no matter of the leaves, of the roots and of the servers' ids. -/
theorem storePolicy_keeps (now : String) (request : PolicyRequest) :
    Keeps (fun database : PolicyDatabase =>
        (database.vrpLeaves, database.vrpRoots, database.servers.rows.map Server.id))
      (storePolicy now serverId request) := by
  unfold storePolicy
  refine keeps_bind (reads_check _ _).keeps fun _ => keeps_bind (reads_connect _).keeps fun _ =>
    keeps_transaction (keeps_bind (keeps_execute ?_) fun _ =>
      keeps_bind (keeps_execute ?_) fun _ => ?_)
  · rintro database _ ⟨⟩
    simp only [updateServerPolicy, Table.rows_updateWhere, List.map_map, Prod.mk.injEq, true_and]
    refine List.map_congr_left fun row _ => ?_
    dsimp only [Function.comp_apply]
    split <;> rfl
  · intro database changed written
    unfold insertPolicyVersion at written
    split at written
    · cases written
    · split at written
      · cases written
      · cases written
        rfl
  · exact keeps_onPart (fun _ => rfl) fun _ => emitAndBroadcast_keeps fun _ _ => rfl

theorem Seeded.storePolicy (holds : Seeded hash depth tree serverId policy database)
    (now : String) (request : PolicyRequest) :
    Ensures (Server.storePolicy now serverId request) database [] fun result changed _ =>
      Seeded hash depth tree serverId
        (match result with
        | .ok _ => request.newPolicy
        | .error _ => policy) changed := by
  intro faults
  have stores := @Policies.storePolicy_ensures serverId now request database [] faults
  have kept := @storePolicy_keeps serverId now request _ ⟨database, [], faults⟩ rfl
  dsimp only at kept
  rcases ran : Server.storePolicy now serverId request ⟨database, [], faults⟩ with
    ⟨_ | _, session⟩ <;> rw [ran] at stores kept
  · rw [show session.database = database from stores]
    exact holds
  · simp only [Prod.mk.injEq, holds.server, List.map_cons, List.map_nil] at kept
    rcases stores.1.current with ⟨row, member, same, encoded⟩
    rcases List.map_eq_singleton_iff.mp kept.2.2 with ⟨only, rows, -⟩
    refine holds.of_eq kept.1 kept.2.1 ?_
    have alone : row = only := by
      change row ∈ session.database.servers.rows at member
      rw [rows] at member
      exact List.mem_singleton.mp member
    rw [rows, ← alone, ← same, ← encoded]

end Writes

namespace Life

variable {hash : Fr → Fr → Fr} {depth : Nat} {environment : Environment} {keyFile : String}
  {tree : MerkleTree Fr} {serverId : Nat} {life : Life} {event : LifeEvent}

/-- The database and, while the server runs, its memory have the tree and the server's id. -/
structure Serves (hash : Fr → Fr → Fr) (depth : Nat) (tree : MerkleTree Fr) (serverId : Nat)
    (life : Life) : Prop where
  holds : Seeded hash depth tree serverId life.accepted life.host.database
  running : ∀ state, life.running = some state → state.tree = tree ∧ state.serverId = serverId

/-- No start has come as far as the server's row. -/
structure Unseeded (hash : Fr → Fr → Fr) (depth : Nat) (life : Life) : Prop where
  registry : ∃ leaves, (Registry.mk (MerkleTree.new hash depth)
    life.host.database.toDatabase).Synced hash depth leaves
  servers : life.host.database.servers.rows = []
  accepted : life.accepted = .default
  running : life.running = none

theorem Unseeded.step (unseeded : life.Unseeded hash depth) :
    (step hash depth environment keyFile life event).Unseeded hash depth ∨
      ∃ tree serverId, (Life.step hash depth environment keyFile life event).Serves hash depth
        tree serverId := by
  unfold Life.step
  rw [unseeded.running]
  cases event with
  | start input =>
      rcases unseeded.registry with ⟨leaves, synced⟩
      rcases @prepareServer_seeds hash depth environment keyFile _ _ input _ synced
        unseeded.servers with ⟨same, error, failed⟩ | ⟨serverId, holds, ran⟩
      · refine Or.inl ⟨⟨leaves, ?_⟩, ?_, unseeded.accepted, ?_⟩
        · dsimp only
          rw [same]
          exact synced
        · dsimp only
          rw [same]
          exact unseeded.servers
        · dsimp only
          rw [failed]
          rfl
      · refine Or.inr ⟨_, serverId, ?_, fun state started => ran state (ok_of_toOption started)⟩
        rw [← unseeded.accepted] at holds
        exact holds
  | _ => exact Or.inl unseeded

/-- A start at which nothing fails, without `ANNEX_SIGNING_KEY`. -/
def plainStart (generated : Ed25519Key) : StartInput where
  signingKeyEnv := none
  generated := generated
  generalId := "general"
  now := "2026-01-01 00:00:00"
  faults := []
  vkeyError := none
  bindError := none

theorem plainStart_healthy (generated : Ed25519Key) :
    (plainStart generated).Healthy environment :=
  ⟨rfl, rfl, rfl, fun _ set => by cases set⟩

def noFiles : FileSystem where
  files _ := .absent
  faults := []

/-- Once the file has a key, it has that key. -/
theorem step_storedSigningKey {key : Ed25519Key}
    (stored : storedSigningKey keyFile life.host.files = some key) :
    storedSigningKey keyFile (step hash depth environment keyFile life event).host.files =
      some key := by
  unfold step
  cases life.running with
  | none =>
      cases event with
      | start input =>
          dsimp only
          rw [prepareServer_files stored]
          exact stored
      | _ => exact stored
  | some state => cases event <;> exact stored

/-- A server that started without `ANNEX_SIGNING_KEY` and could write its key has that key
after every later start without the variable. -/
theorem signingKey_kept {files : FileSystem} {events between : List LifeEvent}
    {first second : AppState} {input again : StartInput}
    (stopped : (run hash depth environment keyFile files events).running = none)
    (unset : input.signingKeyEnv = none)
    (saves : storedSigningKey keyFile
        (run hash depth environment keyFile files events).host.files = none →
      ((run hash depth environment keyFile files events).host.files.write keyFile
        (Hex.encode input.generated.bytes)).1 = .ok ())
    (started : (run hash depth environment keyFile files
      (events ++ [.start input])).running = some first)
    (stillUnset : again.signingKeyEnv = none)
    (restarted : (prepareServer hash depth environment keyFile again
      (run hash depth environment keyFile files
        (events ++ .start input :: between)).host).1 = .ok second) :
    second.signingKey = first.signingKey := by
  have ran : (prepareServer hash depth environment keyFile input
      (run hash depth environment keyFile files events).host).1 = .ok first := by
    rw [run, Execution.run_concat] at started
    change (step hash depth environment keyFile
      (run hash depth environment keyFile files events) (.start input)).running = _ at started
    unfold step at started
    rw [stopped] at started
    exact ok_of_toOption started
  have resolved := prepareServer_key ran
  have saved : storedSigningKey keyFile (step hash depth environment keyFile
      (run hash depth environment keyFile files events) (.start input)).host.files =
      some first.signingKey := by
    unfold step
    rw [stopped]
    dsimp only
    rw [resolved.2]
    exact resolveSigningKey_saves unset saves resolved.1
  have kept := @Execution.run_invariant _ _ (step hash depth environment keyFile)
    (fun life => storedSigningKey keyFile life.host.files = some first.signingKey)
    (fun _ _ => step_storedSigningKey) _ saved between
  rw [run, Execution.run_append, Execution.run_cons] at restarted
  have taken := (prepareServer_key restarted).1
  exact Except.ok.inj (taken.symm.trans ((resolveSigningKey_stored kept).2 stillUnset))

theorem signingKey_kept_stopped :
    ∃ second, (prepareServer (· + ·) 1 (.sample id) "signing.key" (plainStart (.repeating 1))
        (run (· + ·) 1 (.sample id) "signing.key" noFiles
          ([] ++ .start (plainStart (.repeating 0)) :: [.stop])).host).1 = .ok second ∧
      second.signingKey = .repeating 0 := by
  have holds : Seeded (· + ·) 1 (MerkleTree.new (· + ·) 1) 1 .default
      (run (· + ·) 1 (.sample id) "signing.key" noFiles
        [.start (plainStart (.repeating 0)), .stop]).host.database :=
    ⟨⟨[], rfl, rfl, rfl⟩, rfl⟩
  rcases prepareServer_healthy holds (plainStart_healthy (.repeating 1)) with ⟨second, started⟩
  exact ⟨second, started, @signingKey_kept (· + ·) 1 (.sample id) "signing.key" noFiles [] [.stop]
    ⟨MerkleTree.new (· + ·) 1, 1, .default, .repeating 0⟩ second (plainStart (.repeating 0))
    (plainStart (.repeating 1)) rfl rfl (fun _ => rfl) rfl rfl started⟩

end Life

end Annex.Server
