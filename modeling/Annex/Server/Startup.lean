import Annex.Foundation.FileSystem
import Annex.Identity.RegistryCorrectness
import Annex.Server.EventHandlers
import Annex.Server.PolicyUpdate

namespace Annex.Server

open Db Identity Sql

/-! Starting the server: the key it signs with, and the state it takes up from its database. -/

/-- The Unicode property `White_Space`. -/
def isWhiteSpace (character : Char) : Bool :=
  let code := character.toNat
  (9 ≤ code && code ≤ 13) || code = 0x20 || code = 0x85 || code = 0xA0 || code = 0x1680 ||
    (0x2000 ≤ code && code ≤ 0x200A) || code = 0x2028 || code = 0x2029 || code = 0x202F ||
    code = 0x205F || code = 0x3000

/-- An Ed25519 signing key. -/
structure Ed25519Key where
  bytes : List Byte
  length_eq : bytes.length = 32
deriving DecidableEq

/-- The key of 32 equal bytes. -/
def Ed25519Key.repeating (byte : Byte) : Ed25519Key := ⟨List.replicate 32 byte, rfl⟩

inductive StartupError where
  | identityError (error : IdentityError)
  | ioError (text : String)
  | poolConnection (error : DbError)
  | dbQuery (error : DbError)
  | zkError (text : String)
  | invalidSigningKey (text : String)
deriving DecidableEq

/-- What a start takes from outside: `ANNEX_SIGNING_KEY`, the key and the channel id that are
drawn, the time, the statements that fail, and why the verification key cannot be parsed or the
address not be bound. -/
structure StartInput where
  signingKeyEnv : Option String
  generated : Ed25519Key
  generalId : String
  now : String
  faults : List (Option String)
  vkeyError : Option String
  bindError : Option String

/-- What a server keeps in memory of what its database and its files hold. -/
structure AppState where
  tree : MerkleTree Fr
  serverId : Nat
  policy : ServerPolicy
  signingKey : Ed25519Key

/-- What is there whether the server runs or not. -/
structure Installation where
  database : PolicyDatabase
  files : FileSystem

section Keys

variable (environment : Environment) (keyFile : String)

def Ed25519Key.ofBytes (bytes : List Byte) : Option Ed25519Key :=
  if length_eq : bytes.length = 32 then some ⟨bytes, length_eq⟩ else none

/-- The key of the environment variable. -/
def signingKeyOfEnv (hexKey : String) : Except StartupError Ed25519Key :=
  match Hex.decode hexKey with
  | none => .error (.invalidSigningKey ("not valid hex: " ++ environment.hexErrorText hexKey))
  | some bytes =>
      match Ed25519Key.ofBytes bytes with
      | some key => .ok key
      | none => .error (.invalidSigningKey
          ("expected 32 bytes, got " ++ toString bytes.length))

/-- The key of the file, if there is one that can be read and is well formed. -/
def storedSigningKey (files : FileSystem) : Option Ed25519Key :=
  if files.isPresent keyFile then
    match files.readToString keyFile with
    | .ok hexKey => (Hex.decode (trim isWhiteSpace hexKey)).bind Ed25519Key.ofBytes
    | .error _ => none
  else
    none

/-- A key that is generated is used whether or not it can be written. -/
def resolveSigningKey (input : StartInput) (files : FileSystem) :
    Except StartupError Ed25519Key × FileSystem :=
  match input.signingKeyEnv with
  | some hexKey => (signingKeyOfEnv environment hexKey, files)
  | none =>
      match storedSigningKey keyFile files with
      | some key => (.ok key, files)
      | none =>
          (.ok input.generated,
            (files.write keyFile (Hex.encode input.generated.bytes)).2)

end Keys

section Start

variable (hash : Fr → Fr → Fr) (depth : Nat)

/-- `SELECT id, policy_json FROM servers LIMIT 1`, whose policy must be readable. -/
def existingServer (database : PolicyDatabase) : Except DbError (Option (Nat × ServerPolicy)) :=
  match database.servers.rows.head? with
  | none => .ok none
  | some row =>
      match row.policyJson.decode with
      | some policy => .ok (some (row.id, policy))
      | none => .error (.conversion "Conversion error from type Text at index: 1")

theorem key_seeded (id : Nat) : key (⟨id, .encoded ServerPolicy.default⟩ : Server) = id := rfl

def seedServer (database : PolicyDatabase) : Nat × PolicyDatabase :=
  let servers := database.servers.insert (fun id => ⟨id, .encoded ServerPolicy.default⟩) key_seeded
  (servers.lastId, { database with servers })

/-- The channel `General`. -/
def seedGeneral (input : StartInput) (serverId : Nat) (database : PolicyDatabase) :
    Except DbError PolicyDatabase :=
  if database.channels.rows.any (·.channelId = input.generalId) then
    .error (.constraint .unique "UNIQUE constraint failed: channels.channel_id")
  else
    .ok
      { database with
        channels := database.channels.insert fun id =>
          { id
            serverId
            channelId := input.generalId
            name := "General"
            channelType := .encoded .text
            topic := some "Welcome to Annex!"
            vrpTopicBinding := none
            requiredCapabilitiesJson := none
            agentMinAlignment := none
            retentionDays := none
            federationScope := .encoded .localOnly
            createdAt := input.now } }

/-- `MerkleTree::restore` on the whole database. -/
def restoreTree : Sql PolicyDatabase Unit IdentityError (MerkleTree Fr) :=
  onPart PolicyDatabase.toDatabase
    (fun part database => { database with toDatabase := part }) (MerkleTree.restore hash depth)

/-- The tree, the server's id and its policy. Without a server one is seeded. -/
def loadState (input : StartInput) :
    Sql PolicyDatabase Unit StartupError (MerkleTree Fr × Nat × ServerPolicy) := do
  connect .poolConnection
  let tree ← mapErr .identityError (restoreTree hash depth)
  connect .poolConnection
  let existing ← query .dbQuery existingServer
  match existing with
  | some (serverId, policy) => pure (tree, serverId, policy)
  | none =>
      let serverId ← statement .dbQuery fun database => .ok (seedServer database)
      let _ ← attempt (execute id (seedGeneral input serverId))
      pure (tree, serverId, .default)

section Prepare

variable (environment : Environment) (keyFile : String)

/-- What `prepare_server` does once the state is loaded. -/
def finishStart (input : StartInput) (loaded : MerkleTree Fr × Nat × ServerPolicy)
    (files : FileSystem) : Except StartupError AppState × FileSystem :=
  match input.vkeyError with
  | some text => (.error (.zkError text), files)
  | none =>
      match resolveSigningKey environment keyFile input files with
      | (.error error, files) => (.error error, files)
      | (.ok signingKey, files) =>
          match input.bindError with
          | some text => (.error (.ioError text), files)
          | none => (.ok ⟨loaded.1, loaded.2.1, loaded.2.2, signingKey⟩, files)

/-- `prepare_server`, with the services that keep no state left out. -/
def prepareServer (input : StartInput) (host : Installation) :
    Except StartupError AppState × Installation :=
  match loadState hash depth input ⟨host.database, (), input.faults⟩ with
  | (.error error, session) => (.error error, { host with database := session.database })
  | (.ok loaded, session) =>
      let finished := finishStart environment keyFile input loaded host.files
      (finished.1, ⟨session.database, finished.2⟩)

end Prepare

end Start

section Key

variable {keyFile : String} {environment : Environment} {files : FileSystem}
  {key : Ed25519Key} {input : StartInput}

theorem trim_of_none {text : String}
    (none : ∀ character ∈ text.toList, isWhiteSpace character = false) :
    trim isWhiteSpace text = text := by
  have kept : ∀ characters : List Char,
      (∀ character ∈ characters, isWhiteSpace character = false) →
      characters.dropWhile isWhiteSpace = characters := by
    rintro (_ | ⟨first, rest⟩) without
    · rfl
    · exact List.dropWhile_cons_of_neg (by simp [without first List.mem_cons_self])
  rw [trim, kept _ none, kept _ fun character member => none character (List.mem_reverse.mp member),
    List.reverse_reverse, String.ofList_toList]

theorem isWhiteSpace_digit (value : Fin 16) : isWhiteSpace (Hex.digit value) = false := by
  revert value
  decide

theorem trim_encode (bytes : List Byte) :
    trim isWhiteSpace (Hex.encode bytes) = Hex.encode bytes := by
  refine trim_of_none fun character member => ?_
  rw [Hex.encode, String.toList_ofList, List.mem_flatMap] at member
  rcases member with ⟨byte, -, member⟩
  rcases List.mem_pair.mp member with rfl | rfl <;> exact isWhiteSpace_digit _

/-- A key that is written to the file is found there. -/
theorem storedSigningKey_write
    (written : (files.write keyFile (Hex.encode key.bytes)).1 = .ok ()) :
    storedSigningKey keyFile (files.write keyFile (Hex.encode key.bytes)).2 = some key := by
  have read := FileSystem.readToString_write written
  rw [storedSigningKey, if_pos (FileSystem.isPresent_of_readToString read), read]
  dsimp only
  rw [trim_encode, Hex.decode_encode, Option.bind_some, Ed25519Key.ofBytes,
    dif_pos key.length_eq]

/-- Once the file has a key, no start changes the file. -/
theorem resolveSigningKey_stored (stored : storedSigningKey keyFile files = some key) :
    (resolveSigningKey environment keyFile input files).2 = files ∧
      (input.signingKeyEnv = none →
        (resolveSigningKey environment keyFile input files).1 = .ok key) := by
  unfold resolveSigningKey
  rw [stored]
  cases input.signingKeyEnv with
  | none => exact ⟨rfl, fun _ => rfl⟩
  | some hexKey => exact ⟨rfl, fun none => by cases none⟩

/-- Without the variable, the key that is used is the one in the file from then on, unless
writing it fails. -/
theorem resolveSigningKey_saves (unset : input.signingKeyEnv = none)
    (saves : storedSigningKey keyFile files = none →
      (files.write keyFile (Hex.encode input.generated.bytes)).1 = .ok ())
    (resolved : (resolveSigningKey environment keyFile input files).1 = .ok key) :
    storedSigningKey keyFile (resolveSigningKey environment keyFile input files).2 =
      some key := by
  unfold resolveSigningKey at resolved ⊢
  rw [unset] at resolved ⊢
  cases stored : storedSigningKey keyFile files with
  | some kept =>
      rw [stored] at resolved
      exact stored.trans (congrArg some (Except.ok.inj resolved))
  | none =>
      rw [stored] at resolved
      rw [← Except.ok.inj resolved]
      exact storedSigningKey_write (saves stored)

end Key

section Loading

variable {hash : Fr → Fr → Fr} {depth : Nat} {tree : MerkleTree Fr} {serverId : Nat}
  {policy : ServerPolicy} {database : PolicyDatabase} {leaves : List Fr} {input : StartInput}

/-- The database has what a start takes up. -/
structure Seeded (hash : Fr → Fr → Fr) (depth : Nat) (tree : MerkleTree Fr) (serverId : Nat)
    (policy : ServerPolicy) (database : PolicyDatabase) : Prop where
  registry : ∃ leaves, (Registry.mk tree database.toDatabase).Synced hash depth leaves
  server : database.servers.rows = [⟨serverId, .encoded policy⟩]

theorem looks_restore {Memory : Type} :
    Looks (MerkleTree.restore hash depth : Sql Database Memory IdentityError (MerkleTree Fr)) := by
  unfold MerkleTree.restore
  refine looks_bind (looks_query _ _) fun leaves => looks_bind (looks_ofExcept _) fun tree =>
    looks_bind (looks_query _ _) fun storedRoot => ?_
  split
  · exact looks_pure _
  · split
    · exact looks_fail _
    · exact looks_pure _

theorem looks_restoreTree : Looks (restoreTree hash depth) :=
  looks_onPart (fun _ => rfl) looks_restore

/-- Where the server is found and no statement fails, it is what the start takes up. -/
theorem loadState_answers (holds : Seeded hash depth tree serverId policy database) :
    Answers (loadState hash depth input) database () (tree, serverId, policy) := by
  rcases holds.registry with ⟨leaves, synced⟩
  have answered : Answers (restoreTree hash depth) database () tree :=
    answers_onPart (fun _ => rfl) (looks_restore.answers_of_ok (synced.restore ()))
  have first : existingServer database = .ok (some (serverId, policy)) := by
    rw [existingServer, holds.server]
    rfl
  unfold loadState
  refine (answers_bind (looks_connect _)).mpr ⟨(), connect_answers _, ?_⟩
  refine (answers_bind (looks_mapErr looks_restoreTree)).mpr
    ⟨tree, (answers_mapErr looks_restoreTree).mpr answered, ?_⟩
  refine (answers_bind (looks_connect _)).mpr ⟨(), connect_answers _, ?_⟩
  exact (answers_bind (looks_query _ _)).mpr
    ⟨some (serverId, policy), answers_query.mpr first, answers_pure.mpr rfl⟩

/-- What becomes of a start from a database whose leaves are those of the tree: an error or
the tree, and then what is made of the first server. -/
theorem loadState_ensures (synced : (Registry.mk tree database.toDatabase).Synced hash depth leaves)
    {post : Except StartupError (MerkleTree Fr × Nat × ServerPolicy) → PolicyDatabase → Unit → Prop}
    (refused : ∀ error, post (.error error) database ())
    (found : ∀ serverId policy, existingServer database = .ok (some (serverId, policy)) →
      post (.ok (tree, serverId, policy)) database ())
    (seeded : existingServer database = .ok none → ∀ channels,
      post (.ok (tree, (seedServer database).1, .default))
        { (seedServer database).2 with channels } ()) :
    Ensures (loadState hash depth input) database () post := by
  unfold loadState
  refine (looks_connect _).ensures_bind refused fun _ _ => ?_
  refine (looks_mapErr looks_restoreTree).ensures_bind refused fun restored answered => ?_
  have same : restored = tree := by
    have ran := congrArg Prod.fst ((answers_mapErr looks_restoreTree).mp answered)
    exact (Except.ok.inj ((synced.restore ()).symm.trans ran)).symm
  subst same
  refine (looks_connect _).ensures_bind refused fun _ _ => ?_
  refine (looks_query _ _).ensures_bind refused fun existing read => ?_
  rw [answers_query] at read
  cases existing with
  | some pair => exact (ensures_pure _).mpr (found pair.1 pair.2 read)
  | none =>
      refine ensures_bind (ensures_statement (fun _ => refused _) ?_ fun _ failed => ?_)
      rotate_left
      · cases failed
      rintro _ _ ⟨⟩
      rw [andThen_ok]
      refine ensures_bind (ensures_attempt.mpr (ensures_execute ?_ ?_ ?_))
      · exact fun _ => (ensures_pure _).mpr (seeded read _)
      · intro changed written
        unfold seedGeneral at written
        split at written
        · cases written
        · cases written
          exact (ensures_pure _).mpr (seeded read _)
      · exact fun _ _ => (ensures_pure _).mpr (seeded read _)

end Loading

section Prepare

variable {hash : Fr → Fr → Fr} {depth : Nat} {environment : Environment} {keyFile : String}
  {tree : MerkleTree Fr} {serverId : Nat} {policy : ServerPolicy} {host : Installation}
  {input : StartInput} {state : AppState}

theorem ok_of_toOption {Error α : Type} {result : Except Error α} {value : α}
    (found : result.toOption = some value) : result = .ok value := by
  cases result with
  | error error => cases found
  | ok other => exact congrArg Except.ok (Option.some.inj found)

section Finish

variable {loaded : MerkleTree Fr × Nat × ServerPolicy} {files : FileSystem}

theorem finishStart_ok
    (finished : (finishStart environment keyFile input loaded files).1 = .ok state) :
    (state.tree, state.serverId, state.policy) = loaded := by
  unfold finishStart at finished
  split at finished
  · cases finished
  · split at finished
    · cases finished
    · split at finished
      · cases finished
      · rw [← Except.ok.inj finished]

theorem finishStart_key
    (finished : (finishStart environment keyFile input loaded files).1 = .ok state) :
    (resolveSigningKey environment keyFile input files).1 = .ok state.signingKey ∧
      (finishStart environment keyFile input loaded files).2 =
        (resolveSigningKey environment keyFile input files).2 := by
  unfold finishStart at finished ⊢
  split at finished
  · cases finished
  · split at finished
    · cases finished
    · next ran =>
      rw [ran]
      split at finished
      · cases finished
      · rw [← Except.ok.inj finished]
        exact ⟨rfl, rfl⟩

theorem finishStart_files :
    (finishStart environment keyFile input loaded files).2 = files ∨
      (finishStart environment keyFile input loaded files).2 =
        (resolveSigningKey environment keyFile input files).2 := by
  unfold finishStart
  split
  · exact Or.inl rfl
  · right
    split
    · next ran => rw [ran]
    · next ran =>
      rw [ran]
      split <;> rfl

end Finish

/-- Nothing stands in the way of the start. -/
structure StartInput.Healthy (environment : Environment) (input : StartInput) : Prop where
  faults : input.faults = []
  vkey : input.vkeyError = none
  bind : input.bindError = none
  signingKey : ∀ hexKey, input.signingKeyEnv = some hexKey →
    ∃ key, signingKeyOfEnv environment hexKey = .ok key

theorem resolveSigningKey_healthy (healthy : input.Healthy environment) (files : FileSystem) :
    ∃ key, (resolveSigningKey environment keyFile input files).1 = .ok key := by
  unfold resolveSigningKey
  split
  · next hexKey set => exact healthy.signingKey hexKey set
  · split
    · next key _ => exact ⟨key, rfl⟩
    · exact ⟨_, rfl⟩

theorem prepareServer_healthy (holds : Seeded hash depth tree serverId policy host.database)
    (healthy : input.Healthy environment) :
    ∃ state, (prepareServer hash depth environment keyFile input host).1 = .ok state := by
  have loaded := @loadState_answers _ _ _ _ _ _ input holds
  rw [Answers, ← healthy.faults] at loaded
  rcases @resolveSigningKey_healthy environment keyFile input healthy host.files with
    ⟨key, resolved⟩
  unfold prepareServer finishStart
  rw [loaded, healthy.vkey, healthy.bind]
  dsimp only
  rcases ran : resolveSigningKey environment keyFile input host.files with ⟨_ | _, files⟩
  · rw [ran] at resolved
    cases resolved
  · exact ⟨_, rfl⟩

/-- A start that succeeds has resolved its key from the files, and nothing else changed them. -/
theorem prepareServer_key
    (started : (prepareServer hash depth environment keyFile input host).1 = .ok state) :
    (resolveSigningKey environment keyFile input host.files).1 = .ok state.signingKey ∧
      (prepareServer hash depth environment keyFile input host).2.files =
        (resolveSigningKey environment keyFile input host.files).2 := by
  unfold prepareServer at started ⊢
  split at started
  · cases started
  · exact finishStart_key started

/-- Once the file has a key, no start changes it. -/
theorem prepareServer_files {key : Ed25519Key}
    (stored : storedSigningKey keyFile host.files = some key) :
    (prepareServer hash depth environment keyFile input host).2.files = host.files := by
  unfold prepareServer
  split
  · rfl
  · rcases @finishStart_files environment keyFile input _ host.files with same | resolved
    · exact same
    · exact resolved.trans (resolveSigningKey_stored stored).1

/-- What a start ensures that finds no server: where the database changes, it has the server
that is seeded. -/
theorem prepareServer_seeds {leaves : List Fr}
    (synced : (Registry.mk tree host.database.toDatabase).Synced hash depth leaves)
    (none : host.database.servers.rows = []) :
    ((prepareServer hash depth environment keyFile input host).2.database = host.database ∧
        ∃ error, (prepareServer hash depth environment keyFile input host).1 = .error error) ∨
      ∃ serverId,
        Seeded hash depth tree serverId .default
          (prepareServer hash depth environment keyFile input host).2.database ∧
        ∀ state, (prepareServer hash depth environment keyFile input host).1 = .ok state →
          state.tree = tree ∧ state.serverId = serverId := by
  have first : existingServer host.database = .ok Option.none := by
    rw [existingServer, none]
    rfl
  have ensures : Ensures (loadState hash depth input) host.database () fun result changed _ =>
      (changed = host.database ∧ ∃ error, result = .error error) ∨
        ∃ serverId, Seeded hash depth tree serverId .default changed ∧
          result = .ok (tree, serverId, .default) := by
    refine loadState_ensures synced (fun _ => Or.inl ⟨rfl, _, rfl⟩) ?_ fun _ channels => ?_
    · intro _ _ found
      rw [first] at found
      cases found
    · refine Or.inr ⟨_, ⟨⟨leaves, synced.history, synced.leafRows, synced.activeRoots⟩, ?_⟩, rfl⟩
      simp [seedServer, none]
  have loaded := ensures input.faults
  unfold prepareServer
  rcases ran : loadState hash depth input ⟨host.database, (), input.faults⟩ with
    ⟨error | result, session⟩ <;> rw [ran] at loaded
  · rcases loaded with ⟨unchanged, -⟩ | ⟨_, _, failed⟩
    · exact Or.inl ⟨unchanged, error, rfl⟩
    · cases failed
  · rcases loaded with ⟨_, _, failed⟩ | ⟨serverId, holds, same⟩
    · cases failed
    · refine Or.inr ⟨serverId, holds, fun state finished => ?_⟩
      have taken := (finishStart_ok finished).trans (Except.ok.inj same)
      simp only [Prod.mk.injEq] at taken
      exact ⟨taken.1, taken.2.1⟩

end Prepare

end Annex.Server
