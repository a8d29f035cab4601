import Annex.Client.ServersStore
import Annex.Foundation.Base64
import Annex.Foundation.Json
import Annex.Foundation.Utf8

namespace Annex.Client

/-! An identity on its way to another device: as a backup, or encrypted under a pairing code. -/

section Identities

/-- What `JSON.stringify` takes of an identity, in the order of `generateLocalKeys`. -/
def StoredIdentity.toJson (identity : StoredIdentity) : JsonValue :=
  .object
    [("id", .string identity.id), ("sk", .string identity.sk),
      ("roleCode", .ofNat identity.roleCode), ("nodeId", .ofNat identity.nodeId),
      ("commitmentHex", .string identity.commitmentHex),
      ("pseudonymId", .ofOption .string identity.pseudonymId),
      ("serverSlug", .string identity.serverSlug),
      ("leafIndex", .ofOption .ofNat identity.leafIndex),
      ("createdAt", .string identity.createdAt)]

/-- What a parsed text has of an identity. -/
def StoredIdentity.ofJson (value : JsonValue) : Option StoredIdentity := do
  let id ← (value.member "id").bind JsonValue.text?
  let sk ← (value.member "sk").bind JsonValue.text?
  let roleCode ← (value.member "roleCode").bind JsonValue.toNat?
  let nodeId ← (value.member "nodeId").bind JsonValue.toNat?
  let commitmentHex ← (value.member "commitmentHex").bind JsonValue.text?
  let pseudonymId ← (value.member "pseudonymId").bind (JsonValue.nullable JsonValue.text?)
  let serverSlug ← (value.member "serverSlug").bind JsonValue.text?
  let leafIndex ← (value.member "leafIndex").bind (JsonValue.nullable JsonValue.toNat?)
  let createdAt ← (value.member "createdAt").bind JsonValue.text?
  some
    { id, sk, roleCode, nodeId, commitmentHex, pseudonymId, serverSlug, leafIndex, createdAt }

/-- An identity is what its members say. -/
@[simp] theorem StoredIdentity.ofJson_toJson (identity : StoredIdentity) :
    ofJson identity.toJson = some identity := by
  have pseudonymId := JsonValue.nullable_ofOption JsonValue.text?_string (by simp)
    identity.pseudonymId
  have leafIndex := JsonValue.nullable_ofOption JsonValue.toNat?_ofNat (by simp [JsonValue.ofNat])
    identity.leafIndex
  simp [ofJson, toJson, JsonValue.member, pseudonymId, leafIndex]

end Identities

section Backups

/-- `db.exportIdentity`. -/
def exportIdentity (identity : StoredIdentity) : String :=
  JsonValue.stringify .pretty identity.toJson

/-- The export of the selected identity. -/
def exportCurrent (store : IdentityState) : Option String := store.identity.map exportIdentity

def invalidBackup : Thrown :=
  .error "Error" "Invalid identity backup: missing required fields"

/-- `db.importIdentity`. `syntaxError` is what the parser says of a text that is no JSON. -/
def importIdentity (syntaxError : String → String) (json : String) (save : Option Thrown) :
    Flow StoredIdentity :=
  match JsonValue.parse json with
  | none => throw (.error "SyntaxError" (syntaxError json))
  | some value =>
      match StoredIdentity.ofJson value with
      | none => throw invalidBackup
      | some identity =>
          if identity.sk = "" ∨ identity.commitmentHex = "" ∨ identity.roleCode = 0 then
            throw invalidBackup
          else do
            saveIdentity identity save
            pure identity

/-- The import of a backup selects it, if it has a pseudonym or keys. -/
def importBackup (syntaxError : String → String) (json : String)
    (save listing : Option Thrown) : Flow Unit := do
  let identity ← importIdentity syntaxError json save
  let identities ← listIdentities listing
  setStore fun store => { store.select (some identity) with storedIdentities := identities }

/-- The keys and the role without which a backup is refused. -/
def StoredIdentity.HasKeys (identity : StoredIdentity) : Prop :=
  identity.sk ≠ "" ∧ identity.commitmentHex ≠ "" ∧ identity.roleCode ≠ 0

instance (identity : StoredIdentity) : Decidable identity.HasKeys :=
  inferInstanceAs (Decidable (_ ∧ _))

/-- The store and the saved identities after an import. -/
def Place.imported (place : Place) (identity : StoredIdentity) : Place :=
  { place with
    store :=
      { place.store.select (some identity) with storedIdentities := put identity place.saved }
    saved := put identity place.saved }

theorem importBackup_exportIdentity (syntaxError : String → String) (identity : StoredIdentity)
    (place : Place) :
    importBackup syntaxError (exportIdentity identity) none none place =
      if identity.HasKeys then .ok () (place.imported identity)
      else .error invalidBackup place := by
  have read : importIdentity syntaxError (exportIdentity identity) none =
      if identity.sk = "" ∨ identity.commitmentHex = "" ∨ identity.roleCode = 0 then
        throw invalidBackup
      else
        saveIdentity identity none >>= fun _ => pure identity := by
    rw [importIdentity, exportIdentity, JsonValue.parse_stringify]
    simp only [StoredIdentity.ofJson_toJson]
  rw [importBackup, read]
  by_cases keys : identity.HasKeys
  · rw [if_pos keys, if_neg (by
      rcases keys with ⟨sk, commitmentHex, roleCode⟩
      simp [sk, commitmentHex, roleCode])]
    rfl
  · rw [if_neg keys, if_pos (by
      by_contra missing
      simp only [not_or] at missing
      exact keys missing)]
    rfl

theorem getIdentity_put_self (identity : StoredIdentity) (saved : List StoredIdentity) :
    getIdentity (put identity saved) identity.id = some identity := by
  have before : (saved.filter (·.id < identity.id)).find? (·.id = identity.id) = none := by
    refine List.find?_eq_none.mpr ?_
    intro other member
    have less := of_decide_eq_true (List.mem_filter.mp member).2
    simp only [decide_eq_true_eq]
    intro same
    rw [same] at less
    exact absurd less (String.lt_irrefl _)
  rw [getIdentity, put, List.find?_append, before, Option.none_or, List.find?_cons,
    decide_eq_true rfl]

theorem getIdentity_put_of_ne {identity : StoredIdentity} {saved : List StoredIdentity}
    {id : String} (other : id ≠ identity.id) :
    getIdentity (put identity saved) id = getIdentity saved id := by
  have kept (side : StoredIdentity → Bool)
      (inside : ∀ row : StoredIdentity, row.id = id → side row = true) :
      (saved.filter side).find? (·.id = id) = saved.find? (·.id = id) := by
    rw [List.find?_filter]
    congr 1
    funext row
    by_cases same : row.id = id
    · simp [same, inside row same]
    · simp [same]
  have dropped (side : StoredIdentity → Bool)
      (outside : ∀ row : StoredIdentity, row.id = id → side row = false) :
      (saved.filter side).find? (·.id = id) = none := by
    rw [List.find?_filter]
    refine List.find?_eq_none.mpr ?_
    intro row _
    by_cases same : row.id = id
    · simp [outside row same]
    · simp [same]
  rw [getIdentity, getIdentity, put, List.find?_append, List.find?_cons,
    decide_eq_false (Ne.symm other)]
  rcases lt_trichotomy id identity.id with less | same | greater
  · rw [kept _ fun row same => by simp [same, less],
      dropped _ fun row same => by simp [same, less.asymm], Option.or_none]
  · exact absurd same other
  · rw [dropped _ fun row same => by simp [same, greater.asymm],
      kept _ fun row same => by simp [same, greater], Option.none_or]

/-- An exported identity comes back on any device, under its id and next to what was saved there:
ready to use where it has a pseudonym, and ready to be registered where it has none. One without
keys is refused, and nothing changes. -/
theorem backup_restores (syntaxError : String → String) (identity : StoredIdentity)
    (place : Place) :
    (identity.HasKeys → ∃ after,
      importBackup syntaxError (exportIdentity identity) none none place = .ok () after ∧
        getIdentity after.saved identity.id = some identity ∧
        (∀ id, id ≠ identity.id → getIdentity after.saved id = getIdentity place.saved id) ∧
        after.store.identity = some identity ∧ after.store.storedIdentities = after.saved ∧
        after.store.phase =
          (if (given identity.pseudonymId).isSome then .ready else .keysReady)) ∧
    (¬ identity.HasKeys →
      importBackup syntaxError (exportIdentity identity) none none place =
        .error invalidBackup place) := by
  rw [importBackup_exportIdentity]
  constructor
  · intro keys
    refine ⟨_, if_pos keys, getIdentity_put_self _ _, fun _ => getIdentity_put_of_ne, ?_, rfl, ?_⟩
    · rw [Place.imported, IdentityState.select]
      dsimp only
      split
      · rfl
      · rw [if_pos keys.1]
    · rw [Place.imported, IdentityState.select]
      dsimp only
      split
      · rfl
      · rw [if_pos keys.1]
  · exact fun missing => if_neg missing

end Backups

section Linking

/-- The browser's `crypto.subtle`: keys from passwords, and authenticated encryption. -/
structure SubtleCrypto (Key : Type) where
  pbkdf2 : (password salt : List Byte) → (iterations : Nat) → Key
  encrypt : Key → (iv plaintext : List Byte) → List Byte
  decrypt : Key → (iv ciphertext : List Byte) → Option (List Byte)

/-- AES-GCM: what was encrypted is decrypted again, and a tag is added to it. -/
structure SubtleCrypto.Lawful {Key : Type} (crypto : SubtleCrypto Key) : Prop where
  decrypt_encrypt : ∀ key iv plaintext,
    crypto.decrypt key iv (crypto.encrypt key iv plaintext) = some plaintext
  length_encrypt : ∀ key iv plaintext,
    (crypto.encrypt key iv plaintext).length = plaintext.length + 16

structure DeviceLinkPayload where
  data : String
  iv : String
  salt : String
deriving DecidableEq, Repr

inductive LinkError where
  | syntaxError
  | invalidPayload
  | invalidCharacter
  | operationError
deriving DecidableEq, Repr

def pbkdf2Iterations : Nat := 100000

variable {Key : Type} (crypto : SubtleCrypto Key)

def deriveKey (code : String) (salt : List Byte) : Key :=
  crypto.pbkdf2 (Utf8.encode code.toList) salt pbkdf2Iterations

def toBase64 (bytes : List Byte) : String := String.ofList (Base64.encode bytes)

def fromBase64 (text : String) : Except LinkError (List Byte) :=
  match Base64.decode text.toList with
  | none => .error .invalidCharacter
  | some bytes => .ok bytes

/-- `new TextDecoder().decode(bytes)`: a byte order mark is left out. -/
def textDecode : List Byte → String
  | 0xEF :: 0xBB :: 0xBF :: bytes => String.ofList (Utf8.decode bytes)
  | bytes => String.ofList (Utf8.decode bytes)

/-- The salt and the initialization vector are random. -/
def encryptIdentity (salt iv : List Byte) (identity : StoredIdentity) (pairingCode : String) :
    DeviceLinkPayload :=
  let key := deriveKey crypto pairingCode salt
  let plaintext := Utf8.encode (JsonValue.stringify .compact identity.toJson).toList
  { data := toBase64 (crypto.encrypt key iv plaintext)
    iv := toBase64 iv
    salt := toBase64 salt }

def decryptIdentity (payload : DeviceLinkPayload) (pairingCode : String) :
    Except LinkError StoredIdentity := do
  let salt ← fromBase64 payload.salt
  let iv ← fromBase64 payload.iv
  let ciphertext ← fromBase64 payload.data
  match crypto.decrypt (deriveKey crypto pairingCode salt) iv ciphertext with
  | none => .error .operationError
  | some plaintext =>
      match (JsonValue.parse (textDecode plaintext)).bind StoredIdentity.ofJson with
      | none => .error .syntaxError
      | some identity => .ok identity

def encodePayload (payload : DeviceLinkPayload) : String :=
  JsonValue.stringify .compact (.object
    [("v", .ofNat 1), ("data", .string payload.data), ("iv", .string payload.iv),
      ("salt", .string payload.salt)])

/-- A member that is a text and not the empty one. -/
def filledText (value : JsonValue) (name : String) : Option String :=
  ((value.member name).bind JsonValue.text?).bind fun text =>
    if text = "" then none else some text

def decodePayload (raw : String) : Except LinkError DeviceLinkPayload :=
  match JsonValue.parse raw with
  | none => .error .syntaxError
  | some value =>
      if (value.member "v").bind JsonValue.toNat? ≠ some 1 then .error .invalidPayload
      else
        match filledText value "data", filledText value "iv", filledText value "salt" with
        | some data, some iv, some salt => .ok { data, iv, salt }
        | _, _, _ => .error .invalidPayload

@[simp] theorem fromBase64_toBase64 (bytes : List Byte) :
    fromBase64 (toBase64 bytes) = .ok bytes := by
  rw [fromBase64, toBase64, String.toList_ofList, Base64.decode_encode]

theorem toBase64_ne_empty {bytes : List Byte} (nonempty : bytes ≠ []) : toBase64 bytes ≠ "" := by
  intro empty
  have read := fromBase64_toBase64 bytes
  rw [empty] at read
  cases read
  exact nonempty rfl

/-- What the source device shows is what the other one scans. -/
theorem decodePayload_encodePayload {payload : DeviceLinkPayload} (data : payload.data ≠ "")
    (iv : payload.iv ≠ "") (salt : payload.salt ≠ "") :
    decodePayload (encodePayload payload) = .ok payload := by
  rw [decodePayload, encodePayload, JsonValue.parse_stringify]
  simp [filledText, JsonValue.member, data, iv, salt]

/-- The text of an object is no byte order mark. -/
theorem textDecode_encode_object (layout : JsonValue.Layout)
    (members : List (String × JsonValue)) :
    textDecode (Utf8.encode (JsonValue.stringify layout (.object members)).toList) =
      JsonValue.stringify layout (.object members) := by
  have brace : ∃ rest, (JsonValue.stringify layout (.object members)).toList = '{' :: rest := by
    rw [JsonValue.stringify, String.toList_ofList]
    cases members <;> exact ⟨_, rfl⟩
  rcases brace with ⟨rest, text⟩
  have bytes : Utf8.encode (JsonValue.stringify layout (.object members)).toList =
      0x7B :: Utf8.encode rest := by
    rw [text, Utf8.encode_cons, Utf8.encodeChar_of_ascii (by decide)]
    rfl
  unfold textDecode
  split
  · next same =>
    rw [bytes] at same
    cases same
  · rw [Utf8.decode_encode, String.ofList_toList]

/-- Whoever scans the payload and knows the pairing code has the identity, whatever its texts
and whatever was drawn at random. -/
theorem decryptIdentity_of_scanned {Key : Type} (crypto : SubtleCrypto Key)
    (lawful : crypto.Lawful) (identity : StoredIdentity) (pairingCode : String)
    (salt iv : List Byte) (saltLength : salt.length = 16) (ivLength : iv.length = 12) :
    (decodePayload (encodePayload (encryptIdentity crypto salt iv identity pairingCode)) >>=
      fun payload => decryptIdentity crypto payload pairingCode) = .ok identity := by
  have filled (bytes : List Byte) (long : 0 < bytes.length) : toBase64 bytes ≠ "" :=
    toBase64_ne_empty (List.ne_nil_of_length_pos long)
  rw [decodePayload_encodePayload]
  · show decryptIdentity crypto (encryptIdentity crypto salt iv identity pairingCode)
      pairingCode = _
    have read : (JsonValue.parse (textDecode
        (Utf8.encode (JsonValue.stringify .compact identity.toJson).toList))).bind
          StoredIdentity.ofJson = some identity := by
      rw [StoredIdentity.toJson, textDecode_encode_object, JsonValue.parse_stringify]
      exact identity.ofJson_toJson
    simp only [decryptIdentity, encryptIdentity, fromBase64_toBase64, bind, Except.bind,
      lawful.decrypt_encrypt, read]
  · refine filled _ ?_
    rw [lawful.length_encrypt]
    omega
  · exact filled _ (by omega)
  · exact filled _ (by omega)

/-- A cipher that adds sixteen zeros and changes nothing else. -/
def plainCrypto : SubtleCrypto Unit where
  pbkdf2 := fun _ _ _ => ()
  encrypt := fun _ _ plaintext => plaintext ++ List.replicate 16 0
  decrypt := fun _ _ ciphertext => some (ciphertext.take (ciphertext.length - 16))

theorem plainCrypto_lawful : plainCrypto.Lawful where
  decrypt_encrypt := fun _ _ plaintext => by simp [plainCrypto]
  length_encrypt := fun _ _ plaintext => by simp [plainCrypto]

def linkedIdentity : StoredIdentity where
  id := "6f1c"
  sk := "2a"
  roleCode := 1
  nodeId := 7
  commitmentHex := "0c"
  pseudonymId := some "ana \"á\""
  serverSlug := "annex"
  leafIndex := none
  createdAt := "2024-01-01T00:00:00.000Z"

theorem decryptIdentity_of_scanned_zeros :
    (decodePayload (encodePayload (encryptIdentity plainCrypto (List.replicate 16 0)
      (List.replicate 12 0) linkedIdentity "042137")) >>=
        fun payload => decryptIdentity plainCrypto payload "042137") = .ok linkedIdentity :=
  decryptIdentity_of_scanned plainCrypto plainCrypto_lawful linkedIdentity "042137" _ _ rfl rfl

end Linking

end Annex.Client
