import Mathlib.Data.ZMod.Basic
import Annex.Foundation.Sql

namespace Annex.Identity

/-- The order of the BN254 scalar field. -/
def scalarModulus : Nat :=
  21888242871839275222246405745257275088548364400416034343698204186575808495617

instance : NeZero scalarModulus := ⟨by decide⟩

instance : Fact (1 < scalarModulus) := ⟨by decide⟩

/-- The BN254 scalar field as the residues of its order. -/
abbrev Fr := ZMod scalarModulus

/-- Errors produced by identity operations. -/
inductive IdentityError where
  | emptyCommitment
  | emptyTopic
  | emptyNullifier
  | invalidNullifierFormat
  | invalidCommitmentFormat
  | invalidHex
  | invalidRoleCode (code : Nat)
  | invalidRoleLabel (label : String)
  | poseidonError (text : String)
  | treeFull
  | invalidIndex (index : Nat)
  | duplicateNullifier (topic : String)
  | duplicateCommitment (text : String)
  | commitmentNotFound (commitmentHex : String)
  | merkleRootMismatch (stored computed : String)
  | databaseError (error : DbError)
deriving DecidableEq, Repr

/-- The text an identity error is displayed with. -/
def IdentityError.text : IdentityError → String
  | .emptyCommitment => "commitment hex cannot be empty"
  | .emptyTopic => "topic cannot be empty"
  | .emptyNullifier => "nullifier hex cannot be empty"
  | .invalidNullifierFormat => "nullifier hex must be 64 lowercase hex characters"
  | .invalidCommitmentFormat => "commitment hex must be 64 lowercase hex characters"
  | .invalidHex => "invalid hex string"
  | .invalidRoleCode code => "invalid role code: " ++ toString code
  | .invalidRoleLabel label => "invalid role label: " ++ label
  | .poseidonError text => "poseidon error: " ++ text
  | .treeFull => "merkle tree is full"
  | .invalidIndex index => "invalid leaf index: " ++ toString index
  | .duplicateNullifier topic => "nullifier already exists for topic '" ++ topic ++ "'"
  | .duplicateCommitment text => "duplicate commitment: " ++ text
  | .commitmentNotFound commitmentHex => "commitment not found: " ++ commitmentHex
  | .merkleRootMismatch stored computed =>
      "merkle root mismatch: stored=" ++ stored ++ ", computed=" ++ computed
  | .databaseError error => "database error: " ++ error.text

end Annex.Identity
