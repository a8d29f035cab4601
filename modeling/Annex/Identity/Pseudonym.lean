import Mathlib.Data.Set.Function
import Mathlib.Logic.Equiv.Basic
import Annex.Db.Schema
import Annex.Environment
import Annex.Identity.Types

namespace Annex.Identity

open Db Sql

/-! Nullifiers and pseudonyms of a commitment under a topic, and the platform
identity a pseudonym stands for. -/

/-- The check `is_lower_hex_64`. A text with a character outside ASCII fails it
whichever way its length is counted. -/
def isLowerHex64 (value : String) : Bool :=
  value.toList.length = 64 &&
    value.toList.all fun character =>
      ('0' ≤ character && character ≤ '9') || ('a' ≤ character && character ≤ 'f')

variable (environment : Environment)

/-- `sha256(commitmentHex + ":" + topic)`. -/
def deriveNullifierHex (commitmentHex topic : String) : Except IdentityError String :=
  if commitmentHex = "" then .error .emptyCommitment
  else if topic = "" then .error .emptyTopic
  else if isLowerHex64 commitmentHex = false then .error .invalidCommitmentFormat
  else .ok (environment.sha256Hex (commitmentHex ++ ":" ++ topic))

/-- `sha256(topic + ":" + nullifierHex)`. -/
def derivePseudonymId (topic nullifierHex : String) : Except IdentityError String :=
  if topic = "" then .error .emptyTopic
  else if nullifierHex = "" then .error .emptyNullifier
  else if isLowerHex64 nullifierHex = false then .error .invalidNullifierFormat
  else .ok (environment.sha256Hex (topic ++ ":" ++ nullifierHex))

/-- Both formulas, one after the other. -/
def deriveTopicScopedPseudonym (commitmentHex topic : String) :
    Except IdentityError String :=
  match deriveNullifierHex environment commitmentHex topic with
  | .error error => .error error
  | .ok nullifierHex => derivePseudonymId environment topic nullifierHex

omit environment in
/-- A derived pseudonym is that of a derived nullifier. -/
theorem exists_nullifier {environment : Environment} {commitment topic pseudonymId : String}
    (derived : deriveTopicScopedPseudonym environment commitment topic = .ok pseudonymId) :
    ∃ nullifierHex, deriveNullifierHex environment commitment topic = .ok nullifierHex ∧
      derivePseudonymId environment topic nullifierHex = .ok pseudonymId := by
  unfold deriveTopicScopedPseudonym at derived
  cases nullifier : deriveNullifierHex environment commitment topic with
  | error error =>
      rw [nullifier] at derived
      cases derived
  | ok nullifierHex =>
      rw [nullifier] at derived
      exact ⟨nullifierHex, rfl, derived⟩

/-- The error of a failed `INSERT INTO zk_nullifiers`. -/
def nullifierError (topic : String) : DbError → IdentityError
  | .constraint _ _ => .duplicateNullifier topic
  | error => .databaseError error

/-- `INSERT INTO zk_nullifiers`, unique in topic and nullifier. -/
def insertNullifier {Memory : Type} (topic nullifierHex : String)
    (pseudonymId commitmentHex : Option String) :
    Sql Database Memory IdentityError Unit :=
  execute (nullifierError topic) fun database =>
    if database.zkNullifiers.rows.any fun row =>
        row.topic = topic && row.nullifierHex = nullifierHex then
      .error (.constraint .unique
        "UNIQUE constraint failed: zk_nullifiers.topic, zk_nullifiers.nullifier_hex")
    else
      .ok
        { database with
          zkNullifiers := database.zkNullifiers.insert fun rowId =>
            ⟨rowId, topic, nullifierHex, pseudonymId, commitmentHex⟩ }

def roleFromStr (text : String) : Except IdentityError RoleCode :=
  if text = "HUMAN" then .ok .human
  else if text = "AI_AGENT" then .ok .aiAgent
  else if text = "COLLECTIVE" then .ok .collective
  else if text = "BRIDGE" then .ok .bridge
  else if text = "SERVICE" then .ok .service
  else .error (.invalidRoleLabel text)

@[simp] theorem roleFromStr_label (role : RoleCode) : roleFromStr role.label = .ok role := by
  cases role <;> rfl

/-- The row of a pseudonym on a server; its role label must be a known one. -/
def getPlatformIdentity {Memory : Type} (serverId : Nat) (pseudonymId : String) :
    Sql Database Memory IdentityError PlatformIdentity :=
  query .databaseError fun database =>
    match database.platformIdentities.rows.find? fun row =>
        row.serverId = serverId && row.pseudonymId = pseudonymId with
    | none => .error .noRows
    | some row =>
        match roleFromStr row.participantType with
        | .ok _ => .ok row
        | .error error => .error (.conversion
            ("Conversion error from type Text at index: 3, " ++ error.text))

/-- `INSERT INTO platform_identities`. The first identity of a server gets the
founder's capabilities, by a count inside the statement. -/
def insertPlatformIdentity (serverId : Nat) (pseudonymId : String)
    (participantType : RoleCode) (database : Database) : Except DbError Database :=
  if database.platformIdentities.rows.any fun row =>
      row.serverId = serverId && row.pseudonymId = pseudonymId then
    .error (.constraint .unique
      "UNIQUE constraint failed: platform_identities.server_id, platform_identities.pseudonym_id")
  else
    let founder := !(database.platformIdentities.rows.any fun row =>
      row.serverId = serverId)
    .ok
      { database with
        platformIdentities := database.platformIdentities.insert fun id =>
          { id
            serverId
            pseudonymId
            participantType := participantType.label
            canVoice := founder
            canModerate := founder
            canInvite := founder
            canFederate := founder
            canBridge := false
            active := true } }

def createPlatformIdentity {Memory : Type} (serverId : Nat) (pseudonymId : String)
    (participantType : RoleCode) : Sql Database Memory IdentityError PlatformIdentity := do
  execute .databaseError (insertPlatformIdentity serverId pseudonymId participantType)
  getPlatformIdentity serverId pseudonymId

/-! A pseudonym is derived from one commitment and one topic. The texts that are hashed join
their parts with a colon and topics may hold colons, but the other part has 64 digits. -/

section Derivations

variable {environment : Environment} {left right leftTopic rightTopic : String}

theorem length_of_isLowerHex64 {text : String} (lower : isLowerHex64 text = true) :
    text.toList.length = 64 := by
  simp only [isLowerHex64, Bool.and_eq_true, decide_eq_true_eq] at lower
  exact lower.1

theorem deriveNullifierHex_eq_ok {commitment topic nullifierHex : String}
    (derived : deriveNullifierHex environment commitment topic = .ok nullifierHex) :
    isLowerHex64 commitment = true ∧
      nullifierHex = environment.sha256Hex (commitment ++ ":" ++ topic) := by
  unfold deriveNullifierHex at derived
  split at derived
  · cases derived
  · split at derived
    · cases derived
    · split at derived
      · cases derived
      · next lower => exact ⟨Bool.of_not_eq_false lower, (Except.ok.inj derived).symm⟩

theorem derivePseudonymId_eq_ok {topic nullifierHex pseudonymId : String}
    (derived : derivePseudonymId environment topic nullifierHex = .ok pseudonymId) :
    isLowerHex64 nullifierHex = true ∧
      pseudonymId = environment.sha256Hex (topic ++ ":" ++ nullifierHex) := by
  unfold derivePseudonymId at derived
  split at derived
  · cases derived
  · split at derived
    · cases derived
    · split at derived
      · cases derived
      · next lower => exact ⟨Bool.of_not_eq_false lower, (Except.ok.inj derived).symm⟩

/-- Texts without a collision are told apart by their digests. -/
theorem eq_of_sha256Hex (collisionFree : environment.sha256 (utf8 left) =
      environment.sha256 (utf8 right) → utf8 left = utf8 right)
    (same : environment.sha256Hex left = environment.sha256Hex right) : left = right :=
  utf8_injective (collisionFree (Hex.encode_injective same))

/-- Where the first parts are of one length, the joined texts tell the parts. -/
theorem joined_injective_of_left {first second firstRest secondRest : String}
    (length : first.toList.length = second.toList.length)
    (same : first ++ ":" ++ firstRest = second ++ ":" ++ secondRest) :
    first = second ∧ firstRest = secondRest := by
  have lists := congrArg String.toList same
  simp only [String.toList_append, List.append_assoc] at lists
  have parts := List.append_inj lists length
  have rests := List.append_inj parts.2 rfl
  exact ⟨String.toList_inj.mp parts.1, String.toList_inj.mp rests.2⟩

/-- So they do where the last parts are. -/
theorem joined_injective_of_right {first second firstRest secondRest : String}
    (length : firstRest.toList.length = secondRest.toList.length)
    (same : first ++ ":" ++ firstRest = second ++ ":" ++ secondRest) :
    first = second ∧ firstRest = secondRest := by
  have lists := congrArg String.toList same
  simp only [String.toList_append] at lists
  have parts := List.append_inj' lists length
  have heads := List.append_inj' parts.1 rfl
  exact ⟨String.toList_inj.mp heads.1, String.toList_inj.mp parts.2⟩

/-- A nullifier is that of one commitment in one topic. -/
theorem pair_of_nullifier {nullifierHex : String}
    (leftDerived : deriveNullifierHex environment left leftTopic = .ok nullifierHex)
    (rightDerived : deriveNullifierHex environment right rightTopic = .ok nullifierHex)
    (collisionFree : environment.sha256 (utf8 (left ++ ":" ++ leftTopic)) =
        environment.sha256 (utf8 (right ++ ":" ++ rightTopic)) →
      utf8 (left ++ ":" ++ leftTopic) = utf8 (right ++ ":" ++ rightTopic)) :
    left = right ∧ leftTopic = rightTopic := by
  rcases deriveNullifierHex_eq_ok leftDerived with ⟨leftLower, isLeft⟩
  rcases deriveNullifierHex_eq_ok rightDerived with ⟨rightLower, isRight⟩
  apply joined_injective_of_left
  · rw [length_of_isLowerHex64 leftLower, length_of_isLowerHex64 rightLower]
  · exact eq_of_sha256Hex collisionFree (isLeft.symm.trans isRight)

/-- A pseudonym is that of one nullifier in one topic, wherever the colons are. -/
theorem nullifier_of_pseudonym {pseudonymId : String}
    (leftDerived : derivePseudonymId environment leftTopic left = .ok pseudonymId)
    (rightDerived : derivePseudonymId environment rightTopic right = .ok pseudonymId)
    (collisionFree : environment.sha256 (utf8 (leftTopic ++ ":" ++ left)) =
        environment.sha256 (utf8 (rightTopic ++ ":" ++ right)) →
      utf8 (leftTopic ++ ":" ++ left) = utf8 (rightTopic ++ ":" ++ right)) :
    leftTopic = rightTopic ∧ left = right := by
  rcases derivePseudonymId_eq_ok leftDerived with ⟨leftLower, isLeft⟩
  rcases derivePseudonymId_eq_ok rightDerived with ⟨rightLower, isRight⟩
  apply joined_injective_of_right
  · rw [length_of_isLowerHex64 leftLower, length_of_isLowerHex64 rightLower]
  · exact eq_of_sha256Hex collisionFree (isLeft.symm.trans isRight)

/-- What is hashed on the way from a commitment to its pseudonym. -/
def hashedTexts (commitment topic nullifierHex : String) : Set (List Byte) :=
  {utf8 (commitment ++ ":" ++ topic), utf8 (topic ++ ":" ++ nullifierHex)}

/-- A pseudonym is that of one commitment in one topic, if the texts hashed have no collision. -/
theorem derivedPair_injective {leftNullifier rightNullifier pseudonymId : String}
    (leftDerived : deriveNullifierHex environment left leftTopic = .ok leftNullifier)
    (leftPseudonym : derivePseudonymId environment leftTopic leftNullifier = .ok pseudonymId)
    (rightDerived : deriveNullifierHex environment right rightTopic = .ok rightNullifier)
    (rightPseudonym : derivePseudonymId environment rightTopic rightNullifier = .ok pseudonymId)
    (collisionFree : Set.InjOn environment.sha256
      (hashedTexts left leftTopic leftNullifier ∪ hashedTexts right rightTopic rightNullifier)) :
    left = right ∧ leftTopic = rightTopic := by
  have nullifiers := nullifier_of_pseudonym leftPseudonym rightPseudonym
    (collisionFree (by simp [hashedTexts]) (by simp [hashedTexts]))
  rw [← nullifiers.2] at rightDerived
  exact pair_of_nullifier leftDerived rightDerived
    (collisionFree (by simp [hashedTexts]) (by simp [hashedTexts]))

/-- A derived pseudonym is that of the nullifier of its pair. -/
theorem deriveTopicScopedPseudonym_eq_ok {commitment topic pseudonymId : String}
    (derived : deriveTopicScopedPseudonym environment commitment topic = .ok pseudonymId) :
    deriveNullifierHex environment commitment topic =
        .ok (environment.sha256Hex (commitment ++ ":" ++ topic)) ∧
      derivePseudonymId environment topic
        (environment.sha256Hex (commitment ++ ":" ++ topic)) = .ok pseudonymId := by
  rcases exists_nullifier derived with ⟨nullifierHex, nullifier, pseudonym⟩
  rw [← (deriveNullifierHex_eq_ok nullifier).2]
  exact ⟨nullifier, pseudonym⟩

end Derivations

/-- Whatever characters the topics have, two accepted pairs of a commitment and a topic with one
pseudonym are the same pair, if SHA-256 tells the texts apart that are hashed for them. -/
theorem pseudonym_injective (environment : Environment)
    (commitment topic other otherTopic pseudonymId : String)
    (derived : deriveTopicScopedPseudonym environment commitment topic = .ok pseudonymId)
    (otherDerived : deriveTopicScopedPseudonym environment other otherTopic = .ok pseudonymId)
    (collisionFree : Set.InjOn environment.sha256
      (hashedTexts commitment topic (environment.sha256Hex (commitment ++ ":" ++ topic)) ∪
        hashedTexts other otherTopic (environment.sha256Hex (other ++ ":" ++ otherTopic)))) :
    commitment = other ∧ topic = otherTopic := by
  rcases deriveTopicScopedPseudonym_eq_ok derived with ⟨nullifier, pseudonym⟩
  rcases deriveTopicScopedPseudonym_eq_ok otherDerived with ⟨otherNullifier, otherPseudonym⟩
  exact derivedPair_injective nullifier pseudonym otherNullifier otherPseudonym collisionFree

section Sample

def colonCommitment : String :=
  "1f3c1f3c1f3c1f3c1f3c1f3c1f3c1f3c1f3c1f3c1f3c1f3c1f3c1f3c1f3c1f3c"

def colonTopic : String := "annex:server:v1"

def colonNullifier : String :=
  "e5842adb95f2a17f4e1156338fa775ad19273ed8268fe63f54f931a8cfd21f56"

def colonPseudonym : String :=
  "4ab8cd359eeb748074d9db5da0d4279f62c81f8b4831b76ff49a0b54528c1068"

/-- A permutation of the byte strings with the digests of one derivation. -/
def colonDigest : Equiv.Perm (List Byte) :=
  (Equiv.swap (utf8 (colonCommitment ++ ":" ++ colonTopic))
      ((Hex.decode colonNullifier).getD [])).trans
    (Equiv.swap (utf8 (colonTopic ++ ":" ++ colonNullifier))
      ((Hex.decode colonPseudonym).getD []))

/-- A topic with colons, and the pair its pseudonym is derived from twice. -/
theorem pseudonym_injective_colons :
    deriveTopicScopedPseudonym (Environment.sample colonDigest) colonCommitment colonTopic =
        .ok colonPseudonym ∧
      colonCommitment = colonCommitment ∧ colonTopic = colonTopic := by
  have derived : deriveTopicScopedPseudonym (Environment.sample colonDigest) colonCommitment
      colonTopic = .ok colonPseudonym := by
    decide +kernel
  exact ⟨derived, pseudonym_injective (Environment.sample colonDigest) colonCommitment colonTopic
    colonCommitment colonTopic colonPseudonym derived derived colonDigest.injective.injOn⟩

end Sample

end Annex.Identity
