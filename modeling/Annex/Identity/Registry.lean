import Annex.Db.Schema
import Annex.Foundation.Hex
import Annex.Identity.Merkle
import Annex.Identity.Types
import Annex.Types

namespace Annex.Identity

open Db Sql

/-! How the tree is kept in `vrp_leaves` and `vrp_roots`, and read back. -/

/-- `hex::encode(fr.into_bigint().to_bytes_be())`. -/
def frToHex (value : Fr) : String :=
  Hex.encode (Hex.bytes 32 value.val)

/-- `Fr::from_be_bytes_mod_order`. -/
def frFromBeBytesModOrder (bytes : List Byte) : Fr :=
  (Hex.number bytes : Nat)

namespace MerkleTree

variable (H : Fr → Fr → Fr)

def rootHex (tree : MerkleTree Fr) : String :=
  frToHex tree.root

/-- `INSERT INTO vrp_leaves`. The driver binds the index as an `i64`. -/
def insertLeaf (index : Nat) (commitmentHex : String) (database : Database) :
    Except DbError Database :=
  if 2 ^ 63 ≤ index then
    .error (.conversion "out of range integral type conversion attempted")
  else
    match database.vrpLeaves.place ⟨index, commitmentHex⟩ with
    | none => .error (.constraint .primaryKey
          "UNIQUE constraint failed: vrp_leaves.leaf_index")
    | some vrpLeaves => .ok { database with vrpLeaves }

/-- `UPDATE vrp_roots SET active = 0 WHERE active = 1`. -/
def deactivateRoots (database : Database) : Database :=
  { database with
    vrpRoots := database.vrpRoots.updateWhere (·.active) fun row =>
      { row with active := false } }

/-- `INSERT INTO vrp_roots (root_hex, active) VALUES (?1, 1)`. -/
def insertRoot (rootHex now : String) (database : Database) : Database :=
  { database with
    vrpRoots := database.vrpRoots.insert fun rowId => ⟨rowId, rootHex, true, now⟩ }

def persistLeafAndRoot {Memory : Type} (now : String) (index : Nat) (leaf root : Fr) :
    Sql Database Memory IdentityError Unit := do
  execute .databaseError (insertLeaf index (frToHex leaf))
  execute .databaseError fun database => .ok (deactivateRoots database)
  execute .databaseError fun database => .ok (insertRoot (frToHex root) now database)

/-- Insert a leaf and persist it. The tree is updated after the commit only. -/
def insertAndPersist (now : String) (leaf : Fr) :
    Sql Database (MerkleTree Fr) IdentityError Nat := do
  let tree ← readMemory
  let (index, newRoot, updates) ← ofExcept (previewInsert H tree leaf)
  transaction .databaseError .databaseError (persistLeafAndRoot now index leaf newRoot)
  remember fun tree => tree.applyUpdates (index + 1) updates
  pure index

/-- The loop of `restore` over the stored leaves. -/
def restoreLeaves (tree : MerkleTree Fr) :
    List String → Except IdentityError (MerkleTree Fr)
  | [] => .ok tree
  | hexStr :: rest =>
      match Hex.decode hexStr with
      | none => .error .invalidHex
      | some bytes =>
          match insert H tree (frFromBeBytesModOrder bytes) with
          | (.error error, _) => .error error
          | (.ok _, grown) => restoreLeaves grown rest

/-- `SELECT root_hex FROM vrp_roots WHERE active = 1 ORDER BY created_at DESC LIMIT 1`. -/
def storedRootHex (database : Database) : Option String :=
  (Table.latest VrpRoot.createdAt (database.vrpRoots.rows.filter (·.active))).map
    VrpRoot.rootHex

/-- Reconstruct the tree from the database and check its root. -/
def restore {Memory : Type} (depth : Nat) :
    Sql Database Memory IdentityError (MerkleTree Fr) := do
  let leaves ← query .databaseError fun database =>
    .ok (database.vrpLeaves.rows.map VrpLeaf.commitmentHex)
  let tree ← ofExcept (restoreLeaves H (new H depth) leaves)
  let storedRoot ← query .databaseError fun database => .ok (storedRootHex database)
  match storedRoot with
  | none => pure tree
  | some storedHex =>
      if tree.rootHex ≠ storedHex then
        fail (.merkleRootMismatch storedHex tree.rootHex)
      else
        pure tree

end MerkleTree

/-- Result of a successful registration. -/
structure RegistrationResult where
  identityId : Nat
  leafIndex : Nat
  rootHex : String
  pathElements : List String
  pathIndices : List Nat
deriving DecidableEq, Repr

/-- `char::is_ascii_hexdigit`. -/
def isAsciiHexdigit (character : Char) : Bool :=
  (Hex.digitValue character).isSome

/-- `str::to_ascii_lowercase`. -/
def toAsciiLowercase (text : String) : String :=
  String.ofList (text.toList.map Char.toLower)

/-- The format check of `register_identity`. A text with a character outside
ASCII fails it whichever way its length is counted. -/
def ValidCommitment (commitmentHex : String) : Prop :=
  commitmentHex.toList.length = 64 ∧ commitmentHex.toList.all isAsciiHexdigit = true

instance (commitmentHex : String) : Decidable (ValidCommitment commitmentHex) :=
  inferInstanceAs (Decidable (_ ∧ _))

/-- The error of a failed `INSERT INTO vrp_identities`. -/
def registrationError (commitmentHex : String) : DbError → IdentityError
  | .constraint _ _ =>
      .duplicateCommitment ("commitment '" ++ commitmentHex ++ "' already registered")
  | error => .databaseError error

/-- `INSERT INTO vrp_identities`, returning the last row id. Every role code is
a row of the seeded `vrp_roles`, so the foreign key holds. -/
def insertIdentity (commitmentHex : String) (role : RoleCode) (nodeId : Int)
    (database : Database) : Except DbError (Nat × Database) :=
  if database.vrpIdentities.rows.any fun row => row.commitmentHex = commitmentHex then
    .error (.constraint .primaryKey
      "UNIQUE constraint failed: vrp_identities.commitment_hex")
  else
    let vrpIdentities := database.vrpIdentities.insert fun rowId =>
      ⟨rowId, commitmentHex, role.asU8, nodeId⟩
    .ok (vrpIdentities.lastId, { database with vrpIdentities })

/-- Register a new identity commitment. -/
def registerIdentity (H : Fr → Fr → Fr) (now : String) (commitmentHex : String)
    (role : RoleCode) (nodeId : Int) :
    Sql Database (MerkleTree Fr) IdentityError RegistrationResult := do
  check (ValidCommitment commitmentHex) .invalidCommitmentFormat
  let commitmentHex := toAsciiLowercase commitmentHex
  let leafBytes ← require (Hex.decode commitmentHex) .invalidHex
  let leaf := frFromBeBytesModOrder leafBytes
  let tree ← readMemory
  let (leafIndex, newRoot, updates) ← ofExcept (MerkleTree.previewInsert H tree leaf)
  let identityId ← transaction .databaseError .databaseError do
    let identityId ← statement (registrationError commitmentHex)
      (insertIdentity commitmentHex role nodeId)
    MerkleTree.persistLeafAndRoot now leafIndex leaf newRoot
    pure identityId
  remember fun tree => tree.applyUpdates (leafIndex + 1) updates
  let tree ← readMemory
  let (pathElements, pathIndices) ← ofExcept (tree.getProof leafIndex)
  pure
    { identityId
      leafIndex
      rootHex := frToHex newRoot
      pathElements := pathElements.map frToHex
      pathIndices }

/-- The leaf index stored for a commitment's text: of several the lowest, as the index on
the column lists them. -/
def findLeafIndex (commitmentHex : String) (database : Database) : Option Nat :=
  (database.vrpLeaves.rows.find? (·.commitmentHex = commitmentHex)).map VrpLeaf.leafIndex

/-- Retrieve the Merkle path for an existing commitment: its index, the root, the path
elements and the path indices. -/
def getPathForCommitment (commitmentHex : String) :
    Sql Database (MerkleTree Fr) IdentityError (Nat × String × List String × List Nat) := do
  let found ← query .databaseError fun database => .ok (findLeafIndex commitmentHex database)
  let leafIndex ← require found (.commitmentNotFound commitmentHex)
  let tree ← readMemory
  let (pathElements, pathIndices) ← ofExcept (tree.getProof leafIndex)
  pure (leafIndex, tree.rootHex, pathElements.map frToHex, pathIndices)

end Annex.Identity
