import Annex.Server.EventHandlers

namespace Annex.Server

open Sql

/-! The usernames of the members, and who may see them. A username is stored encrypted, and is
shown to those its owner has granted it to. -/

/-- `user_profiles`. -/
structure UserProfile where
  id : Nat
  serverId : Nat
  pseudonymId : String
  encryptedUsername : String
  updatedAt : String
deriving DecidableEq, Repr

instance : Keyed UserProfile := ⟨UserProfile.id⟩

/-- `username_grants`. -/
structure UsernameGrant where
  id : Nat
  serverId : Nat
  granterPseudonym : String
  granteePseudonym : String
  createdAt : String
deriving DecidableEq, Repr

instance : Keyed UsernameGrant := ⟨UsernameGrant.id⟩

/-- The database with the usernames and their grants. -/
structure UsernameDatabase extends ServerDatabase where
  userProfiles : Table UserProfile := Table.empty
  usernameGrants : Table UsernameGrant := Table.empty

/-! Encryption. -/

/-- The packages for HKDF-SHA256 and for ChaCha20-Poly1305. -/
structure UsernameCipher where
  hkdf : (salt input info : List Byte) → List Byte
  encrypt : (key nonce plaintext : List Byte) → List Byte
  decrypt : (key nonce ciphertext : List Byte) → Option (List Byte)

/-- What the handlers run with. -/
structure UsernameServer where
  environment : Environment
  cipher : UsernameCipher
  signingKey : List Byte
  serverId : Nat
  isWhitespace : Char → Bool

/-- 12 bytes of nonce and 16 of authentication tag. -/
def aeadOverhead : Nat := 12 + 16

/-- `String::from_utf8`. -/
def fromUtf8 (bytes : List Byte) : Option String :=
  String.fromUTF8? ⟨(bytes.map fun byte => UInt8.ofNat byte.val).toArray⟩

section Cipher

variable (server : UsernameServer)

def deriveAeadKey (pseudonymId : String) : List Byte :=
  server.cipher.hkdf (utf8 pseudonymId) server.signingKey (utf8 "annex-username-encryption-v2")

def encryptUsername (nonceBytes : List Byte) (pseudonymId username : String) : String :=
  Hex.encode (nonceBytes ++
    server.cipher.encrypt (deriveAeadKey server pseudonymId) nonceBytes (utf8 username))

def decryptAead (pseudonymId : String) (data : List Byte) : Option String := do
  let plaintext ← server.cipher.decrypt (deriveAeadKey server pseudonymId) (data.take 12)
    (data.drop 12)
  fromUtf8 plaintext

/-- The format before the authenticated one. -/
def decryptXorLegacy (pseudonymId : String) (data : List Byte) : Option String :=
  let keystream := server.environment.sha256
    (utf8 "annex-username-key-v1" ++ server.signingKey ++ utf8 pseudonymId)
  fromUtf8 (data.mapIdx fun i byte => byte ^^^ keystream.getD (i % keystream.length) 0)

def decryptUsername (pseudonymId encryptedHex : String) : Option String := do
  let data ← Hex.decode encryptedHex
  if aeadOverhead ≤ data.length then
    (decryptAead server pseudonymId data).or (decryptXorLegacy server pseudonymId data)
  else
    decryptXorLegacy server pseudonymId data

end Cipher

def maxUsernameLen : Nat := 32

/-- `char::is_control`. -/
def isControl (character : Char) : Bool :=
  character.val < 0x20 || (0x7f ≤ character.val && character.val < 0xa0)

def validateUsername (isWhitespace : Char → Bool) (username : String) : Except String Unit :=
  let trimmed := trim isWhitespace username
  if trimmed = "" then .error "username cannot be empty"
  else if maxUsernameLen < trimmed.length then
    .error ("username too long (max " ++ toString maxUsernameLen ++ " chars)")
  else if trimmed.toList.any isControl then
    .error "username cannot contain control characters"
  else .ok ()

/-! The statements. -/

/-- `WHERE server_id = ? AND pseudonym_id = ?`. -/
def isProfile (serverId : Nat) (pseudonymId : String) (row : UserProfile) : Bool :=
  row.serverId = serverId && row.pseudonymId = pseudonymId

/-- `INSERT INTO user_profiles ... ON CONFLICT`. -/
def upsertProfile (now : String) (serverId : Nat) (pseudonymId encryptedUsername : String)
    (database : UsernameDatabase) : Except DbError UsernameDatabase :=
  if database.userProfiles.rows.any (isProfile serverId pseudonymId) ||
      database.servers.rows.any (·.id = serverId) then
    .ok
      { database with
        userProfiles := database.userProfiles.upsert (isProfile serverId pseudonymId)
          (fun row => { row with encryptedUsername, updatedAt := now })
          fun id => { id, serverId, pseudonymId, encryptedUsername, updatedAt := now } }
  else
    .error Rtx.serverMissing

def isGrant (serverId : Nat) (granter grantee : String) (row : UsernameGrant) : Bool :=
  row.serverId = serverId && row.granterPseudonym = granter && row.granteePseudonym = grantee

/-- `INSERT OR IGNORE INTO username_grants`. -/
def insertGrant (now : String) (serverId : Nat) (granter grantee : String)
    (database : UsernameDatabase) : Except DbError UsernameDatabase :=
  if database.usernameGrants.rows.any (isGrant serverId granter grantee) then .ok database
  else if database.servers.rows.any (·.id = serverId) then
    .ok
      { database with
        usernameGrants := database.usernameGrants.insert fun id =>
          { id, serverId, granterPseudonym := granter, granteePseudonym := grantee,
            createdAt := now } }
  else
    .error Rtx.serverMissing

/-- The usernames of those who granted theirs, encrypted. -/
def grantedUsernames (serverId : Nat) (grantee : String) (database : UsernameDatabase) :
    List (String × String) :=
  (database.usernameGrants.rows.filter fun grant =>
      grant.serverId = serverId && grant.granteePseudonym = grantee).flatMap fun grant =>
    (database.userProfiles.rows.filter
      (isProfile grant.serverId grant.granterPseudonym)).map fun profile =>
        (profile.pseudonymId, profile.encryptedUsername)

/-! The handlers. Each statement is a command, and other requests may come between them. -/

/-- What a command takes from outside: the time, a nonce, and whether the policy of the moment
enables usernames. -/
structure UsernameContext where
  now : String
  nonceBytes : List Byte
  usernamesEnabled : Bool

abbrev UsernameSql (Error : Type) := Sql UsernameDatabase Unit Error

abbrev UsernameTask (α : Type) :=
  Task (Task.Single UsernameContext UsernameDatabase Unit) ApiError α

namespace Usernames

def failed (text : String) (error : DbError) : ApiError :=
  .internalServerError (text ++ error.text)

def readEnabled : UsernameTask Bool :=
  Task.issue fun context => pure context.usernamesEnabled

def getConnection : UsernameTask Unit :=
  Task.issue fun _ => connect (failed "db connection failed: ")

end Usernames

section Handlers

open Usernames

variable (server : UsernameServer)

/-- `PUT /api/profile/username`. -/
def setUsernameHandler (pseudonym username : String) : UsernameTask Unit := do
  let usernamesEnabled ← readEnabled
  Task.demand (usernamesEnabled = true) (.badRequest "usernames are not enabled on this server")
  let username := trim server.isWhitespace username
  .ended ((validateUsername server.isWhitespace username).mapError .badRequest)
  getConnection
  Task.issue fun context => execute (failed "failed to set username: ")
    (upsertProfile context.now server.serverId pseudonym
      (encryptUsername server context.nonceBytes pseudonym username))

/-- `DELETE /api/profile/username`. -/
def deleteUsernameHandler (pseudonym : String) : UsernameTask Unit := do
  getConnection
  Task.issue fun _ => execute (failed "failed to delete username: ") fun database => .ok
    { database with
      userProfiles := database.userProfiles.deleteWhere (isProfile server.serverId pseudonym) }
  Task.issue fun _ => execute (failed "failed to delete grants: ") fun database => .ok
    { database with
      usernameGrants := database.usernameGrants.deleteWhere fun row =>
        row.serverId = server.serverId && row.granterPseudonym = pseudonym }

/-- `POST /api/profile/username/grant`. -/
def grantUsernameHandler (granter granteePseudonym : String) : UsernameTask Unit := do
  let grantee := trim server.isWhitespace granteePseudonym
  Task.demand (grantee ≠ "") (.badRequest "grantee_pseudonym is required")
  Task.demand (granter ≠ grantee) (.badRequest "cannot grant visibility to yourself")
  getConnection
  let hasUsername ← Task.issue fun _ => query (failed "db query failed: ") fun database =>
    .ok (database.userProfiles.rows.any (isProfile server.serverId granter))
  Task.demand (hasUsername = true) (.badRequest "set a username before granting visibility")
  Task.issue fun context => execute (failed "failed to create grant: ")
    (insertGrant context.now server.serverId granter grantee)

/-- `DELETE /api/profile/username/grant/{granteePseudonym}`. -/
def revokeGrantHandler (granter granteePseudonym : String) : UsernameTask Unit := do
  getConnection
  Task.issue fun _ => execute (failed "failed to revoke grant: ") fun database => .ok
    { database with
      usernameGrants := database.usernameGrants.deleteWhere
        (isGrant server.serverId granter granteePseudonym) }

/-- A key of a JSON object is written. -/
def putUsername (usernames : List (String × String)) (pseudonymId username : String) :
    List (String × String) :=
  usernames.filter (·.1 ≠ pseudonymId) ++ [(pseudonymId, username)]

/-- The username of a row joins those that are shown, if it can be decrypted. -/
def showUsername (usernames : List (String × String)) (row : String × String) :
    List (String × String) :=
  match decryptUsername server row.1 row.2 with
  | some decrypted => putUsername usernames row.1 decrypted
  | none => usernames

/-- `GET /api/usernames/visible`. -/
def getVisibleUsernamesHandler (grantee : String) : UsernameTask (List (String × String)) := do
  let usernamesEnabled ← readEnabled
  if usernamesEnabled then do
    getConnection
    let own ← Task.tolerate (.program fun _ => (query id fun database =>
      match database.userProfiles.rows.find? (isProfile server.serverId grantee) with
      | some row => .ok row.encryptedUsername
      | none => .error .noRows : UsernameSql DbError String))
    let usernames := match own with
      | .ok encrypted => showUsername server [] (grantee, encrypted)
      | .error _ => []
    let rows ← Task.issue fun _ => query (failed "query failed: ") fun database =>
      .ok (grantedUsernames server.serverId grantee database)
    pure (rows.foldl (showUsername server) usernames)
  else
    pure []

end Handlers

/-- What the members ask. -/
inductive UsernameRequest where
  | set (pseudonym username : String)
  | delete (pseudonym : String)
  | grant (granter granteePseudonym : String)
  | revoke (granter granteePseudonym : String)
  | visible (grantee : String)
deriving DecidableEq, Repr

/-- The usernames that are shown; the other requests show none. -/
def UsernameRequest.handler (server : UsernameServer) :
    UsernameRequest → UsernameTask (List (String × String))
  | .set pseudonym username => do
      setUsernameHandler server pseudonym username
      pure []
  | .delete pseudonym => do
      deleteUsernameHandler server pseudonym
      pure []
  | .grant granter granteePseudonym => do
      grantUsernameHandler server granter granteePseudonym
      pure []
  | .revoke granter granteePseudonym => do
      revokeGrantHandler server granter granteePseudonym
      pure []
  | .visible grantee => getVisibleUsernamesHandler server grantee

end Annex.Server
