import Annex.Foundation.SqlFrame
import Annex.Identity.Merkle
import Annex.Identity.Registry

namespace Annex.Identity

open Db Sql

/-! The registry over whole runs: whatever statements fail, the database holds
the leaves and the root of the tree in memory, and the tree can be restored
from it. -/

section Encoding

theorem decode_frToHex (value : Fr) :
    (Hex.decode (frToHex value)).map frFromBeBytesModOrder = some value := by
  have bound : value.val < 256 ^ 32 :=
    Nat.lt_trans (ZMod.val_lt value) (by decide)
  rw [frToHex, Hex.decode_encode, Option.map_some, frFromBeBytesModOrder,
    Hex.number_bytes bound, ZMod.natCast_zmod_val]

end Encoding

/-- The tree in memory and the database. -/
structure Registry where
  tree : MerkleTree Fr
  database : Database

/-- A call on the registry. -/
inductive RegistryRequest where
  | register (commitmentHex : String) (role : RoleCode) (nodeId : Int)
  | insertAndPersist (leaf : Fr)
deriving DecidableEq

/-- A call, the clock while it runs, and which of its statements fail. -/
structure RegistryCall where
  request : RegistryRequest
  now : String
  faults : List (Option String)
deriving DecidableEq

namespace Registry

variable (H : Fr → Fr → Fr)

/-- The registry of a fresh server. -/
def initial (depth : Nat) : Registry :=
  ⟨MerkleTree.new H depth, migrated⟩

/-- The leaf index a call was answered with. -/
def perform (now : String) :
    RegistryRequest → Sql Database (MerkleTree Fr) IdentityError Nat
  | .register commitmentHex role nodeId => do
      let result ← registerIdentity H now commitmentHex role nodeId
      pure result.leafIndex
  | .insertAndPersist leaf => MerkleTree.insertAndPersist H now leaf

/-- Run a call. -/
def answer (registry : Registry) (call : RegistryCall) :
    Except IdentityError Nat × Session Database (MerkleTree Fr) :=
  perform H call.now call.request ⟨registry.database, registry.tree, call.faults⟩

def step (registry : Registry) (call : RegistryCall) : Registry :=
  ⟨(answer H registry call).2.memory, (answer H registry call).2.database⟩

end Registry

section Rows

variable {database changed : Database}

/-- The active root rows' texts. -/
def activeRoots (database : Database) : List String :=
  (database.vrpRoots.rows.filter (·.active)).map VrpRoot.rootHex

/-- The leaf rows of a list of leaves. -/
def leafRows (leaves : List Fr) : List VrpLeaf :=
  leaves.mapIdx fun index leaf => ⟨index, frToHex leaf⟩

theorem leafRows_concat (leaves : List Fr) (leaf : Fr) :
    leafRows (leaves ++ [leaf]) =
      leafRows leaves ++ [⟨leaves.length, frToHex leaf⟩] := by
  simp [leafRows]

theorem leafIndex_lt_of_mem_leafRows {leaves : List Fr} {row : VrpLeaf}
    (member : row ∈ leafRows leaves) : row.leafIndex < leaves.length := by
  rcases List.mem_mapIdx.mp member with ⟨index, bound, rfl⟩
  exact bound

theorem activeRoots_deactivateRoots (database : Database) :
    activeRoots (MerkleTree.deactivateRoots database) = [] := by
  rw [activeRoots, List.map_eq_nil_iff, List.filter_eq_nil_iff]
  intro row member
  simp only [MerkleTree.deactivateRoots, Table.rows_updateWhere, List.mem_map] at member
  rcases member with ⟨old, _, rfl⟩
  by_cases active : old.active <;> simp [active]

theorem activeRoots_insertRoot (rootHex now : String) (database : Database) :
    activeRoots (MerkleTree.insertRoot rootHex now database) =
      activeRoots database ++ [rootHex] := by
  simp [activeRoots, MerkleTree.insertRoot]

/-- After a persisted insertion the new leaf is the last row and the new root
the only active one. -/
theorem persistLeafAndRoot_ensures {Memory : Type} {memory : Memory}
    {leaves : List Fr} (rows : database.vrpLeaves.rows = leafRows leaves)
    (now : String) (leaf root : Fr) :
    Ensures (MerkleTree.persistLeafAndRoot now leaves.length leaf root) database memory
      fun result changed after => after = memory ∧
        (result = .ok () →
          changed.vrpLeaves.rows = leafRows (leaves ++ [leaf]) ∧
          activeRoots changed = [frToHex root]) := by
  have above : ∀ old ∈ database.vrpLeaves.rows,
      key old < key (⟨leaves.length, frToHex leaf⟩ : VrpLeaf) := by
    intro old member
    rw [rows] at member
    exact leafIndex_lt_of_mem_leafRows member
  rcases Table.place_of_above above with ⟨placed, place, placedRows⟩
  unfold MerkleTree.persistLeafAndRoot
  refine ensures_bind (ensures_execute (by simp) ?_ (by simp))
  intro inserted wrote
  rw [andThen_ok]
  refine ensures_bind (ensures_execute (by simp) ?_ (by simp))
  rintro _ ⟨⟩
  rw [andThen_ok]
  refine ensures_execute (by simp) ?_ (by simp)
  rintro _ ⟨⟩
  refine ⟨rfl, fun _ => ?_⟩
  have effect : inserted = { database with vrpLeaves := placed } := by
    unfold MerkleTree.insertLeaf at wrote
    split at wrote
    · cases wrote
    · simp only [place] at wrote
      cases wrote
      rfl
  subst effect
  refine ⟨?_, ?_⟩
  · rw [leafRows_concat, ← rows]
    exact placedRows
  · rw [activeRoots_insertRoot, activeRoots_deactivateRoots, List.nil_append]

/-- What writes of leaves and of roots preserve, persisting a leaf preserves. -/
theorem persistLeafAndRoot_preserves {Memory : Type} {invariant : Database → Prop}
    {now : String} {index : Nat} {leaf root : Fr}
    (leaves : ∀ (database : Database) vrpLeaves,
      invariant database → invariant { database with vrpLeaves })
    (roots : ∀ (database : Database) vrpRoots,
      invariant database → invariant { database with vrpRoots }) :
    Preserves invariant (MerkleTree.persistLeafAndRoot now index leaf root :
      Sql Database Memory IdentityError Unit) := by
  unfold MerkleTree.persistLeafAndRoot
  refine preserves_bind (preserves_execute ?_) fun _ =>
    preserves_bind (preserves_execute ?_) fun _ => preserves_execute ?_
  · intro database changed inserted holds
    unfold MerkleTree.insertLeaf at inserted
    split at inserted
    · cases inserted
    · split at inserted
      · cases inserted
      · cases inserted
        exact leaves _ _ holds
  · rintro database _ ⟨⟩ holds
    exact roots _ _ holds
  · rintro database _ ⟨⟩ holds
    exact roots _ _ holds

theorem insertIdentity_rows {commitmentHex : String} {role : RoleCode} {nodeId : Int}
    {value : Nat}
    (inserted : insertIdentity commitmentHex role nodeId database = .ok (value, changed)) :
    ∃ vrpIdentities, changed = { database with vrpIdentities } ∧
      ∃ row, row.commitmentHex = commitmentHex ∧
        vrpIdentities.rows = database.vrpIdentities.rows ++ [row] := by
  unfold insertIdentity at inserted
  split at inserted
  · cases inserted
  · cases inserted
    exact ⟨_, rfl, _, rfl, rfl⟩

/-- What the four writes of a registration preserve, a registration preserves. -/
theorem registerIdentity_preserves {H : Fr → Fr → Fr} {invariant : Database → Prop}
    {now commitmentHex : String} {role : RoleCode} {nodeId : Int}
    (identity : ∀ database value changed,
      insertIdentity (toAsciiLowercase commitmentHex) role nodeId database =
        .ok (value, changed) → invariant database → invariant changed)
    (leaves : ∀ (database : Database) vrpLeaves,
      invariant database → invariant { database with vrpLeaves })
    (roots : ∀ (database : Database) vrpRoots,
      invariant database → invariant { database with vrpRoots }) :
    Preserves invariant (registerIdentity H now commitmentHex role nodeId) := by
  refine preserves_bind (reads_check _ _).preserves fun _ =>
    preserves_bind (reads_require _ _).preserves fun leafBytes =>
    preserves_bind reads_readMemory.preserves fun tree =>
    preserves_bind (reads_ofExcept _).preserves fun preview =>
    preserves_bind (preserves_transaction ?_) fun _ =>
    preserves_bind (preserves_remember _) fun _ =>
    preserves_bind reads_readMemory.preserves fun _ =>
    preserves_bind (reads_ofExcept _).preserves fun _ => (reads_pure _).preserves
  exact preserves_bind (preserves_statement identity) fun _ =>
    preserves_bind (persistLeafAndRoot_preserves leaves roots) fun _ =>
    (reads_pure _).preserves

/-- Tables but those of the registry are not the business of a registration. -/
theorem registerIdentity_keeps {H : Fr → Fr → Fr} {γ : Type} {view : Database → γ}
    {now commitmentHex : String} {role : RoleCode} {nodeId : Int}
    (identities : ∀ (database : Database) vrpIdentities,
      view { database with vrpIdentities } = view database)
    (leaves : ∀ (database : Database) vrpLeaves,
      view { database with vrpLeaves } = view database)
    (roots : ∀ (database : Database) vrpRoots,
      view { database with vrpRoots } = view database) :
    Keeps view (registerIdentity H now commitmentHex role nodeId) := by
  intro value
  refine registerIdentity_preserves ?_
    (fun database vrpLeaves held => (leaves database vrpLeaves).trans held)
    fun database vrpRoots held => (roots database vrpRoots).trans held
  intro database _ changed inserted held
  rcases insertIdentity_rows inserted with ⟨vrpIdentities, rfl, -⟩
  exact (identities database vrpIdentities).trans held

/-- A registration keeps the rows there are and adds at most the lowercased text. -/
theorem registerIdentity_rows {H : Fr → Fr → Fr} {tree : MerkleTree Fr}
    (now commitmentHex : String) (role : RoleCode) (nodeId : Int) :
    Ensures (registerIdentity H now commitmentHex role nodeId) database tree
      fun _ changed _ =>
        (∀ row ∈ database.vrpIdentities.rows, row ∈ changed.vrpIdentities.rows) ∧
        ∀ row ∈ changed.vrpIdentities.rows, row ∈ database.vrpIdentities.rows ∨
          row.commitmentHex = toAsciiLowercase commitmentHex := by
  have grows : Preserves (fun changed : Database =>
      (∀ row ∈ database.vrpIdentities.rows, row ∈ changed.vrpIdentities.rows) ∧
        ∀ row ∈ changed.vrpIdentities.rows, row ∈ database.vrpIdentities.rows ∨
          row.commitmentHex = toAsciiLowercase commitmentHex)
      (registerIdentity H now commitmentHex role nodeId) := by
    refine registerIdentity_preserves ?_ (fun _ _ grown => grown) fun _ _ grown => grown
    rintro before _ changed inserted ⟨kept, added⟩
    rcases insertIdentity_rows inserted with ⟨vrpIdentities, rfl, new, text, rows⟩
    refine ⟨fun row member => rows ▸ List.mem_append_left _ (kept row member), ?_⟩
    intro row member
    rw [rows] at member
    rcases List.mem_append.mp member with old | fresh
    · exact added row old
    · exact Or.inr (List.mem_singleton.mp fresh ▸ text)
  intro faults
  exact grows ⟨database, tree, faults⟩
    ⟨fun _ member => member, fun _ member => Or.inl member⟩

end Rows

/-- The registry after the leaves were inserted, and nothing else. -/
structure Registry.Synced (H : Fr → Fr → Fr) (depth : Nat) (registry : Registry)
    (leaves : List Fr) : Prop where
  history : MerkleTree.insertAll H depth leaves = ⟨registry.tree, leaves⟩
  leafRows : registry.database.vrpLeaves.rows = leafRows leaves
  activeRoots : activeRoots registry.database =
    if leaves = [] then [] else [registry.tree.rootHex]

namespace Registry

variable {H : Fr → Fr → Fr} {depth : Nat} {registry : Registry} {leaves : List Fr}

theorem initial_synced (H : Fr → Fr → Fr) (depth : Nat) :
    (initial H depth).Synced H depth [] where
  history := rfl
  leafRows := rfl
  activeRoots := rfl

theorem Synced.valid (synced : registry.Synced H depth leaves) :
    MerkleTree.History.Valid H depth ⟨registry.tree, leaves⟩ := by
  rw [← synced.history]
  exact MerkleTree.insertAll_valid depth leaves

/-- The updates of an accepted leaf. -/
def growth (H : Fr → Fr → Fr) (depth : Nat) (leaves : List Fr) (leaf : Fr) :
    List (NodeUpdate Fr) :=
  (List.range' 0 (depth + 1)).map
    (MerkleTree.pathUpdate H (CompleteTree.padded (leaves ++ [leaf])) leaves.length)

theorem Synced.previewInsert (synced : registry.Synced H depth leaves) (leaf : Fr) :
    MerkleTree.previewInsert H registry.tree leaf =
      if capacity depth ≤ leaves.length then .error .treeFull
      else .ok (leaves.length, CompleteTree.root H depth (leaves ++ [leaf]),
        growth H depth leaves leaf) := by
  rw [MerkleTree.previewInsert_eq synced.valid.represents, synced.valid.depth_eq, growth]

/-- A persisted leaf that is then applied to the tree keeps the registry synced. -/
theorem Synced.grow (synced : registry.Synced H depth leaves) {leaf : Fr}
    (free : ¬ capacity depth ≤ leaves.length) {changed : Database}
    (rows : changed.vrpLeaves.rows = Identity.leafRows (leaves ++ [leaf]))
    (roots : Identity.activeRoots changed =
      [frToHex (CompleteTree.root H depth (leaves ++ [leaf]))]) :
    (Registry.mk (registry.tree.applyUpdates (leaves.length + 1)
      (growth H depth leaves leaf)) changed).Synced H depth (leaves ++ [leaf]) := by
  have history : MerkleTree.insertAll H depth (leaves ++ [leaf]) =
      ⟨registry.tree.applyUpdates (leaves.length + 1) (growth H depth leaves leaf),
        leaves ++ [leaf]⟩ := by
    have last : MerkleTree.insertAll H depth (leaves ++ [leaf]) =
        (MerkleTree.insertAll H depth leaves).insert H leaf :=
      Execution.run_concat _ _ _ _
    rw [last, synced.history, MerkleTree.History.insert, MerkleTree.insert,
      synced.previewInsert, if_neg free]
  refine ⟨history, rows, ?_⟩
  have valid := MerkleTree.insertAll_valid (H := H) depth (leaves ++ [leaf])
  rw [history] at valid
  rw [roots, if_neg (by simp), MerkleTree.rootHex, valid.represents.root_eq,
    valid.depth_eq]

/-- What a call that ran from a synced registry leaves behind. -/
def Outcome (H : Fr → Fr → Fr) (depth : Nat) (registry : Registry) (leaves : List Fr)
    {α : Type} : Except IdentityError α → Database → MerkleTree Fr → Prop
  | .ok _, database, tree =>
      ∃ leaf, (Registry.mk tree database).Synced H depth (leaves ++ [leaf])
  | .error _, database, tree => database = registry.database ∧ tree = registry.tree

theorem insertAndPersist_ensures (synced : registry.Synced H depth leaves)
    (now : String) (leaf : Fr) :
    Ensures (MerkleTree.insertAndPersist H now leaf) registry.database registry.tree
      (Outcome H depth registry leaves) := by
  unfold MerkleTree.insertAndPersist
  refine ensures_bind (ensures_readMemory.mpr ?_)
  rw [andThen_ok]
  refine ensures_bind ((ensures_ofExcept _).mpr ?_)
  rw [synced.previewInsert]
  by_cases full : capacity depth ≤ leaves.length
  · rw [if_pos full, andThen_error]
    exact ⟨rfl, rfl⟩
  · rw [if_neg full, andThen_ok]
    refine ensures_bind (ensures_transaction (fun _ => ⟨rfl, rfl⟩) ?_)
    refine ensures_mono ?_ (persistLeafAndRoot_ensures synced.leafRows now leaf _)
    rintro (error | ⟨⟩) changed after ⟨rfl, persisted⟩
    · exact ⟨rfl, rfl⟩
    · rcases persisted rfl with ⟨rows, roots⟩
      refine ⟨?_, fun _ => ⟨rfl, rfl⟩⟩
      rw [andThen_ok]
      refine ensures_bind ((ensures_remember _).mpr ?_)
      rw [andThen_ok, ensures_pure]
      exact ⟨leaf, synced.grow full rows roots⟩

/-- The leaf a commitment's text is registered as. -/
def commitmentLeaf (commitmentHex : String) : Option Fr :=
  (Hex.decode (toAsciiLowercase commitmentHex)).map frFromBeBytesModOrder

/-- What a registration that ran from a synced registry leaves behind: the leaf of its
text under the next index, or nothing new. -/
def Registered (H : Fr → Fr → Fr) (depth : Nat) (registry : Registry) (leaves : List Fr)
    (commitmentHex : String) :
    Except IdentityError RegistrationResult → Database → MerkleTree Fr → Prop
  | .ok result, database, tree =>
      result.leafIndex = leaves.length ∧
        ∃ leaf, commitmentLeaf commitmentHex = some leaf ∧
          (Registry.mk tree database).Synced H depth (leaves ++ [leaf])
  | .error _, database, tree => database = registry.database ∧ tree = registry.tree

theorem registerIdentity_registers (synced : registry.Synced H depth leaves)
    (now commitmentHex : String) (role : RoleCode) (nodeId : Int) :
    Ensures (registerIdentity H now commitmentHex role nodeId) registry.database
      registry.tree (Registered H depth registry leaves commitmentHex) := by
  unfold registerIdentity
  refine ensures_bind (ensures_check (fun _ => ?_) fun _ => ⟨rfl, rfl⟩)
  rw [andThen_ok]
  refine ensures_bind (ensures_require (fun leafBytes decoded => ?_) fun _ => ⟨rfl, rfl⟩)
  rw [andThen_ok]
  refine ensures_bind (ensures_readMemory.mpr ?_)
  rw [andThen_ok]
  refine ensures_bind ((ensures_ofExcept _).mpr ?_)
  rw [synced.previewInsert]
  by_cases full : capacity depth ≤ leaves.length
  · rw [if_pos full, andThen_error]
    exact ⟨rfl, rfl⟩
  · rw [if_neg full, andThen_ok]
    refine ensures_bind (ensures_transaction (fun _ => ⟨rfl, rfl⟩) ?_)
    refine ensures_bind (ensures_statement (fun _ => ⟨rfl, rfl⟩) ?_ fun _ _ => ⟨rfl, rfl⟩)
    intro identityId identified inserted
    have rows : identified.vrpLeaves.rows = leafRows leaves := by
      rcases insertIdentity_rows inserted with ⟨vrpIdentities, rfl, -⟩
      exact synced.leafRows
    rw [andThen_ok]
    refine ensures_bind (ensures_mono ?_ (persistLeafAndRoot_ensures rows now _ _))
    rintro (error | ⟨⟩) changed after ⟨rfl, persisted⟩
    · exact ⟨rfl, rfl⟩
    · rcases persisted rfl with ⟨newRows, roots⟩
      rw [andThen_ok, ensures_pure]
      refine ⟨?_, fun _ => ⟨rfl, rfl⟩⟩
      have grown := synced.grow full newRows roots
      have inserted : leaves.length < (leaves ++ [frFromBeBytesModOrder leafBytes]).length := by
        simp
      have proof := MerkleTree.getProof_eq grown.valid.represents inserted
      rw [andThen_ok]
      refine ensures_bind ((ensures_remember _).mpr ?_)
      rw [andThen_ok]
      refine ensures_bind (ensures_readMemory.mpr ?_)
      rw [andThen_ok]
      refine ensures_bind ((ensures_ofExcept _).mpr ?_)
      rw [proof, andThen_ok, ensures_pure]
      exact ⟨rfl, _, by rw [commitmentLeaf, decoded, Option.map_some], grown⟩

theorem registerIdentity_ensures (synced : registry.Synced H depth leaves)
    (now commitmentHex : String) (role : RoleCode) (nodeId : Int) :
    Ensures (registerIdentity H now commitmentHex role nodeId) registry.database
      registry.tree (Outcome H depth registry leaves) := by
  refine ensures_mono ?_ (registerIdentity_registers synced now commitmentHex role nodeId)
  rintro (error | result) changed after registered
  · exact registered
  · rcases registered with ⟨-, leaf, -, grown⟩
    exact ⟨leaf, grown⟩

theorem perform_ensures (synced : registry.Synced H depth leaves) (now : String)
    (request : RegistryRequest) :
    Ensures (perform H now request) registry.database registry.tree
      (Outcome H depth registry leaves) := by
  cases request with
  | register commitmentHex role nodeId =>
      refine ensures_bind (ensures_mono ?_
        (registerIdentity_ensures synced now commitmentHex role nodeId))
      rintro (error | result) changed after outcome
      · exact outcome
      · rw [andThen_ok, ensures_pure]
        exact outcome
  | insertAndPersist leaf => exact insertAndPersist_ensures synced now leaf

/-- A call that fails leaves the registry as it was; one that succeeds appends a
leaf. -/
theorem step_outcome (synced : registry.Synced H depth leaves) (call : RegistryCall) :
    (∃ error, (answer H registry call).1 = .error error ∧
      step H registry call = registry) ∨
    (∃ index leaf, (answer H registry call).1 = .ok index ∧
      (step H registry call).Synced H depth (leaves ++ [leaf])) := by
  have outcome := perform_ensures synced call.now call.request call.faults
  rcases ran : (answer H registry call).1 with error | index
  · rw [answer] at ran
    rw [ran] at outcome
    refine Or.inl ⟨error, rfl, ?_⟩
    rw [step, answer, outcome.1, outcome.2]
  · rw [answer] at ran
    rw [ran] at outcome
    rcases outcome with ⟨leaf, grown⟩
    exact Or.inr ⟨index, leaf, rfl, grown⟩

theorem run_synced (H : Fr → Fr → Fr) (depth : Nat) (calls : List RegistryCall) :
    ∃ leaves, (Execution.run (step H) (initial H depth) calls).Synced H depth leaves := by
  refine Execution.run_invariant
    (fun registry : Registry => ∃ leaves, registry.Synced H depth leaves) ?_
    ⟨[], initial_synced H depth⟩ calls
  rintro registry call ⟨leaves, synced⟩
  rcases step_outcome synced call with ⟨_, _, unchanged⟩ | ⟨_, leaf, _, grown⟩
  · rw [unchanged]
    exact ⟨leaves, synced⟩
  · exact ⟨leaves ++ [leaf], grown⟩

section Restore

theorem insertAll_insert (H : Fr → Fr → Fr) {depth : Nat} {front : List Fr} (leaf : Fr)
    (free : front.length < capacity depth) :
    MerkleTree.insert H (MerkleTree.insertAll H depth front).tree leaf =
      (.ok front.length, (MerkleTree.insertAll H depth (front ++ [leaf])).tree) := by
  have valid := MerkleTree.insertAll_valid (H := H) depth front
  have recorded : (MerkleTree.insertAll H depth front).leaves = front := by
    rw [MerkleTree.leaves_insertAll, List.take_of_length_le free.le]
  have last : MerkleTree.insertAll H depth (front ++ [leaf]) =
      (MerkleTree.insertAll H depth front).insert H leaf :=
    Execution.run_concat _ _ _ _
  rw [last, MerkleTree.History.insert]
  rcases MerkleTree.insert_eq valid.represents leaf with ⟨full, _⟩ | ⟨_, accepted, _⟩
  · rw [valid.depth_eq, recorded] at full
    omega
  · rcases outcome : MerkleTree.insert H (MerkleTree.insertAll H depth front).tree leaf
      with ⟨result, tree⟩
    rw [outcome] at accepted
    rw [recorded] at accepted
    cases accepted
    rfl

/-- Reading back the texts of leaves inserts them again. -/
theorem restoreLeaves_eq (H : Fr → Fr → Fr) {depth : Nat} (front back : List Fr)
    (fits : front.length + back.length ≤ capacity depth) :
    MerkleTree.restoreLeaves H (MerkleTree.insertAll H depth front).tree
        (back.map frToHex) =
      .ok (MerkleTree.insertAll H depth (front ++ back)).tree := by
  induction back generalizing front with
  | nil => simp [MerkleTree.restoreLeaves]
  | cons leaf back induction =>
      rw [List.length_cons] at fits
      have decoded := decode_frToHex leaf
      rcases bytes : Hex.decode (frToHex leaf) with _ | decodedBytes
      · simp [bytes] at decoded
      · rw [bytes, Option.map_some, Option.some_inj] at decoded
        rw [List.map_cons, MerkleTree.restoreLeaves, bytes]
        simp only [decoded, insertAll_insert H leaf (show front.length < capacity depth by omega)]
        rw [induction (front ++ [leaf]) (by simp; omega), List.append_assoc,
          List.singleton_append]

theorem storedRootHex_eq_head {database : Database} (few : (activeRoots database).length ≤ 1) :
    MerkleTree.storedRootHex database = (activeRoots database).head? := by
  rw [activeRoots, List.length_map] at few
  rw [MerkleTree.storedRootHex, Table.latest_eq_head _ few, activeRoots, List.head?_map]

/-- The tree in memory is what `restore` reads back. -/
theorem Synced.restore (synced : registry.Synced H depth leaves) {Memory : Type}
    (memory : Memory) :
    (MerkleTree.restore H depth ⟨registry.database, memory, []⟩).1 = .ok registry.tree := by
  have texts : registry.database.vrpLeaves.rows.map VrpLeaf.commitmentHex =
      leaves.map frToHex := by
    rw [synced.leafRows]
    exact List.ext_getElem (by simp [Identity.leafRows]) (by simp [Identity.leafRows])
  have restored : MerkleTree.restoreLeaves H (MerkleTree.new H depth)
      (registry.database.vrpLeaves.rows.map VrpLeaf.commitmentHex) = .ok registry.tree := by
    have again := @restoreLeaves_eq H depth [] leaves (by simpa using synced.valid.fits)
    rw [List.nil_append, synced.history] at again
    rw [texts]
    exact again
  have stored : MerkleTree.storedRootHex registry.database =
      if leaves = [] then none else some registry.tree.rootHex := by
    rw [storedRootHex_eq_head (by rw [synced.activeRoots]; split <;> simp),
      synced.activeRoots]
    split <;> rfl
  have rebuilt : (ofExcept (MerkleTree.restoreLeaves H (MerkleTree.new H depth)
        (registry.database.vrpLeaves.rows.map VrpLeaf.commitmentHex)) :
          Sql Database Memory IdentityError (MerkleTree Fr))
        ⟨registry.database, memory, []⟩ =
      (.ok registry.tree, ⟨registry.database, memory, []⟩) := by
    rw [restored]
    rfl
  unfold MerkleTree.restore
  rw [bind_ok (query_apply _ _), bind_ok rebuilt, bind_ok (query_apply _ _), stored]
  split <;> simp [pure_apply]

end Restore

/-- The registry reached by a sequence of calls on a fresh server. -/
def reached (H : Fr → Fr → Fr) (depth : Nat) (calls : List RegistryCall) : Registry :=
  Execution.run (step H) (initial H depth) calls

/-- After every call, whatever statements failed: the leaf rows are the leaves of
the tree in order; its root is the one active root; a call that fails changes
nothing; and restoring gives the tree back. -/
theorem registry_persists (H : Fr → Fr → Fr) (depth : Nat) (calls : List RegistryCall) :
    (reached H depth calls).database.vrpLeaves.rows =
      (List.range (reached H depth calls).tree.nextIndex).map (fun index =>
        ⟨index, frToHex ((reached H depth calls).tree.nodeAt 0 index)⟩) ∧
    activeRoots (reached H depth calls).database =
      (if (reached H depth calls).tree.nextIndex = 0 then []
        else [(reached H depth calls).tree.rootHex]) ∧
    (∀ call error, (answer H (reached H depth calls) call).1 = .error error →
      step H (reached H depth calls) call = reached H depth calls) ∧
    (MerkleTree.restore H depth
      ⟨(reached H depth calls).database, (reached H depth calls).tree, []⟩).1 =
        .ok (reached H depth calls).tree := by
  rcases run_synced H depth calls with ⟨leaves, synced⟩
  change (reached H depth calls).Synced H depth leaves at synced
  have represents := synced.valid.represents
  refine ⟨?_, ?_, ?_, synced.restore _⟩
  · rw [synced.leafRows, represents.nextIndex]
    refine List.ext_getElem (by simp [Identity.leafRows]) fun index bound _ => ?_
    have inserted : index < leaves.length := by
      simpa [Identity.leafRows] using bound
    simp [Identity.leafRows, represents.nodeAt 0 (Nat.zero_le _) index,
      CompleteTree.node_zero, inserted]
  · rw [synced.activeRoots, represents.nextIndex]
    simp only [List.length_eq_zero_iff]
  · intro call error failed
    rcases step_outcome synced call with ⟨_, _, unchanged⟩ | ⟨index, _, accepted, _⟩
    · exact unchanged
    · rw [accepted] at failed
      cases failed

end Registry

end Annex.Identity
