import Annex.Identity.Pseudonym

namespace Annex.Identity

open Db Sql

/-! The capabilities of platform identities and whether they are active. -/

structure Capabilities where
  canVoice : Bool
  canModerate : Bool
  canInvite : Bool
  canFederate : Bool
  canBridge : Bool
deriving DecidableEq, Repr

/-- `WHERE server_id = ? AND pseudonym_id = ?`. -/
def hasPseudonym (serverId : Nat) (pseudonymId : String) (row : PlatformIdentity) : Bool :=
  row.serverId = serverId && row.pseudonymId = pseudonymId

/-- An `UPDATE` of one identity, which must change a row. -/
def updateIdentity {Memory : Type} (serverId : Nat) (pseudonymId : String)
    (change : PlatformIdentity → PlatformIdentity)
    (keyed : ∀ row, key (change row) = key row) :
    Sql Database Memory IdentityError Unit := do
  let changed ← statement .databaseError fun database =>
    .ok (database.platformIdentities.rows.countP (hasPseudonym serverId pseudonymId),
      { database with
        platformIdentities := database.platformIdentities.updateWhere
          (hasPseudonym serverId pseudonymId) change keyed })
  check (changed ≠ 0) (.databaseError .noRows)

def setCapabilities (caps : Capabilities) (row : PlatformIdentity) : PlatformIdentity :=
  { row with
    canVoice := caps.canVoice
    canModerate := caps.canModerate
    canInvite := caps.canInvite
    canFederate := caps.canFederate
    canBridge := caps.canBridge }

def updateCapabilities {Memory : Type} (serverId : Nat) (pseudonymId : String)
    (caps : Capabilities) : Sql Database Memory IdentityError Unit :=
  updateIdentity serverId pseudonymId (setCapabilities caps) fun _ => rfl

def deactivate (row : PlatformIdentity) : PlatformIdentity :=
  { row with active := false }

def deactivatePlatformIdentity {Memory : Type} (serverId : Nat) (pseudonymId : String) :
    Sql Database Memory IdentityError Unit :=
  updateIdentity serverId pseudonymId deactivate fun _ => rfl

/-- What both recovery rules set. -/
def grantFounder (row : PlatformIdentity) : PlatformIdentity :=
  { row with
    canVoice := true
    canModerate := true
    canInvite := true
    canFederate := true }

theorem key_grantFounder (row : PlatformIdentity) : key (grantFounder row) = key row := rfl

/-- An active identity of the server is a moderator. -/
def hasModerator (serverId : Nat) (database : Database) : Bool :=
  database.platformIdentities.rows.any fun row =>
    row.serverId = serverId && row.canModerate && row.active

/-- `SELECT MIN(id)` of the active identities of a server, which stand in this order. -/
def earliestActive (serverId : Nat) (database : Database) : Option Nat :=
  (database.platformIdentities.rows.find? fun row =>
    row.serverId = serverId && row.active).map PlatformIdentity.id

/-- The `UPDATE` of `ensure_founder`, answering how many rows it changed. -/
def promoteEarliest {Memory : Type} (serverId : Nat) :
    Sql Database Memory IdentityError Nat :=
  statement .databaseError fun database =>
    let selected (row : PlatformIdentity) : Bool :=
      earliestActive serverId database = some row.id
    .ok (database.platformIdentities.rows.countP selected,
      { database with
        platformIdentities :=
          database.platformIdentities.updateWhere selected grantFounder key_grantFounder })

/-- Promote the earliest active identity of a server without an active moderator, answering
whether one was. -/
def ensureFounder {Memory : Type} (serverId : Nat) :
    Sql Database Memory IdentityError Bool := do
  let found ← query .databaseError fun database => .ok (hasModerator serverId database)
  if found then
    pure false
  else do
    let promoted ← promoteEarliest serverId
    pure (0 < promoted)

end Annex.Identity
