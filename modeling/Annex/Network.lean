import Annex.Foundation.Hex

namespace Annex

/-! What other servers send: signatures and the answers of HTTP requests. -/

/-- The signature scheme and the server's own key. `keyError` is the text 32 bytes that
are no public key are refused with. -/
structure Ed25519 where
  keyError : List Byte → Option String
  verify : (publicKey message signature : List Byte) → Except String Unit
  sign : List Byte → List Byte

/-- A JSON value. The fields of an object have different names; a number that is not a
natural one keeps its text. -/
inductive Json where
  | null
  | boolean (value : Bool)
  | natural (value : Nat)
  | number (literal : String)
  | string (text : String)
  | array (items : List Json)
  | object (fields : List (String × Json))

namespace Json

def get : Json → String → Option Json
  | object fields, name => fields.lookup name
  | _, _ => none

def asStr : Json → Option String
  | string text => some text
  | _ => none

/-- A `usize`. -/
def asUsize : Json → Option Nat
  | natural value => if value < 2 ^ 64 then some value else none
  | _ => none

/-- A text or `null`. -/
def asOptionalStr : Json → Option (Option String)
  | null => some none
  | string text => some (some text)
  | _ => none

end Json

/-- The answer to an HTTP request. The body is there when it is JSON; `decodeText` is
what the client reports when it is not what was asked for. -/
structure HttpResponse where
  status : Nat
  statusText : String
  body : Option Json
  decodeText : String

def HttpResponse.isSuccess (response : HttpResponse) : Bool :=
  200 ≤ response.status && response.status < 300

/-- What a handler's JSON is answered with. -/
def HttpResponse.json (body : Json) : HttpResponse := ⟨200, "200 OK", some body, ""⟩

/-- Response body for current root retrieval. -/
structure GetRootResponse where
  rootHex : String
  leafCount : Nat
  updatedAt : Option String
deriving DecidableEq, Repr

/-- The derived deserializer: an object, or its fields in order as an array. -/
def GetRootResponse.ofJson : Json → Option GetRootResponse
  | .object fields => do
      let rootHex ← (fields.lookup "rootHex").bind Json.asStr
      let leafCount ← (fields.lookup "leafCount").bind Json.asUsize
      let updatedAt ← Json.asOptionalStr ((fields.lookup "updatedAt").getD .null)
      some ⟨rootHex, leafCount, updatedAt⟩
  | .array [rootHex, leafCount, updatedAt] => do
      let rootHex ← rootHex.asStr
      let leafCount ← leafCount.asUsize
      let updatedAt ← updatedAt.asOptionalStr
      some ⟨rootHex, leafCount, updatedAt⟩
  | _ => none

/-- The derived serializer. -/
def GetRootResponse.toJson (response : GetRootResponse) : Json :=
  .object
    [("rootHex", .string response.rootHex),
      ("leafCount", .natural response.leafCount),
      ("updatedAt", (response.updatedAt.map Json.string).getD .null)]

/-- The two agree: a root response is read back by its own deserializer. -/
theorem GetRootResponse.ofJson_toJson {response : GetRootResponse}
    (small : response.leafCount < 2 ^ 64) : ofJson response.toJson = some response := by
  rcases response with ⟨rootHex, leafCount, updatedAt⟩
  have count : (Json.natural leafCount).asUsize = some leafCount := if_pos small
  cases updatedAt with
  | none => simp [ofJson, toJson, Json.asStr, Json.asOptionalStr, List.lookup_cons, count]
  | some text => simp [ofJson, toJson, Json.asStr, Json.asOptionalStr, List.lookup_cons, count]

end Annex
