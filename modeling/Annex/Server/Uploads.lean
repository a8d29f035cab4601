import Annex.Channels.Store
import Annex.Foundation.Collect
import Annex.Foundation.Interleaving
import Annex.Server.State
import Annex.Server.StrippingStability

namespace Annex.Server

open Channels Db

/-! Uploads: what is accepted, where its bytes are written, and what is recorded of it. -/

inductive UploadCategory where
  | image
  | video
  | file
deriving DecidableEq, Repr

def UploadCategory.asStr : UploadCategory → String
  | image => "image"
  | video => "video"
  | file => "file"

/-- The name of the subdirectory for files of the category. -/
def UploadCategory.subdir : UploadCategory → String
  | image => "images"
  | video => "videos"
  | file => "files"

def allowedImageTypes : List String := ["image/jpeg", "image/png", "image/gif", "image/webp"]

def allowedVideoTypes : List String := ["video/mp4", "video/webm", "video/quicktime"]

/-- Executables. -/
def blockedTypes : List String :=
  ["application/x-executable", "application/x-dosexec", "application/x-sharedlib"]

def maxServerImageSize : Nat := 10 * 1024 * 1024

def uploadStreamCeiling : Nat := 50 * 1024 * 1024

def extFromContentType : String → String
  | "image/jpeg" => "jpg"
  | "image/png" => "png"
  | "image/gif" => "gif"
  | "image/webp" => "webp"
  | "video/mp4" => "mp4"
  | "video/webm" => "webm"
  | "video/quicktime" => "mov"
  | "application/pdf" => "pdf"
  | "application/zip" => "zip"
  | "text/plain" => "txt"
  | _ => "bin"

/-- What the first bytes of a file say about it. -/
def detectContentType (data : List UInt8) : Option (String × UploadCategory) :=
  if data.take 2 = [0xFF, 0xD8] then some ("image/jpeg", .image)
  else if data.take 8 = pngSignature then some ("image/png", .image)
  -- `GIF8`.
  else if data.take 4 = [0x47, 0x49, 0x46, 0x38] then some ("image/gif", .image)
  -- `RIFF` and `WEBP`.
  else if data.take 4 = [0x52, 0x49, 0x46, 0x46] ∧
      (data.drop 8).take 4 = [0x57, 0x45, 0x42, 0x50] then some ("image/webp", .image)
  -- `ftyp`, with a brand.
  else if 12 ≤ data.length ∧ (data.drop 4).take 4 = [0x66, 0x74, 0x79, 0x70] then
    if (data.drop 8).take 4 = [0x71, 0x74, 0x20, 0x20] then some ("video/quicktime", .video)
    else some ("video/mp4", .video)
  else if data.take 4 = [0x1A, 0x45, 0xDF, 0xA3] then some ("video/webm", .video)
  else if data.take 4 = [0x25, 0x50, 0x44, 0x46] then some ("application/pdf", .file)
  else if data.take 4 = [0x50, 0x4B, 0x03, 0x04] then some ("application/zip", .file)
  else if data.take 4 = [0x7F, 0x45, 0x4C, 0x46] then some ("application/x-executable", .file)
  else if data.take 2 = [0x4D, 0x5A] then some ("application/x-dosexec", .file)
  else none

/-- Unrecognized bytes are a generic file, whatever the client says of them. -/
def chatContentType (data : List UInt8) : String × UploadCategory :=
  (detectContentType data).getD ("application/octet-stream", .file)

/-- What the policy says of uploads. -/
structure UploadPolicy where
  imagesEnabled : Bool
  videosEnabled : Bool
  filesEnabled : Bool
  maxImageSizeMb : Nat
  maxVideoSizeMb : Nat
  maxFileSizeMb : Nat
deriving DecidableEq, Repr

def maxSizeForCategory (policy : UploadPolicy) (category : UploadCategory) : Nat :=
  let mb := match category with
    | .image => policy.maxImageSizeMb
    | .video => policy.maxVideoSizeMb
    | .file => policy.maxFileSizeMb
  mb * 1024 * 1024

def isCategoryEnabled (policy : UploadPolicy) : UploadCategory → Bool
  | .image => policy.imagesEnabled
  | .video => policy.videosEnabled
  | .file => policy.filesEnabled

section Stripping

theorem detectContentType_jpeg (rest : List UInt8) :
    detectContentType (0xFF :: 0xD8 :: rest) = some ("image/jpeg", .image) := rfl

theorem detectContentType_png (rest : List UInt8) :
    detectContentType (pngSignature ++ rest) = some ("image/png", .image) := rfl

theorem jpeg_of_detect {data : List UInt8} {category : UploadCategory}
    (detected : detectContentType data = some ("image/jpeg", category)) :
    ∃ rest, data = 0xFF :: 0xD8 :: rest := by
  by_cases jpeg : data.take 2 = [0xFF, 0xD8]
  · exact ⟨data.drop 2, (List.take_append_drop 2 data).symm.trans (jpeg ▸ rfl)⟩
  · unfold detectContentType at detected
    rw [if_neg jpeg] at detected
    repeat' split at detected
    all_goals simp at detected

theorem png_of_detect {data : List UInt8} {category : UploadCategory}
    (detected : detectContentType data = some ("image/png", category)) :
    ∃ rest, data = pngSignature ++ rest := by
  by_cases png : data.take 8 = pngSignature
  · exact ⟨data.drop 8, (List.take_append_drop 8 data).symm.trans (png ▸ rfl)⟩
  · unfold detectContentType at detected
    rw [if_neg png] at detected
    repeat' split at detected
    all_goals simp at detected

theorem stripMetadata_other {contentType : String} (jpeg : contentType ≠ "image/jpeg")
    (png : contentType ≠ "image/png") (data : List UInt8) :
    stripMetadata data contentType = data := by
  unfold stripMetadata
  split
  · exact absurd rfl jpeg
  · exact absurd rfl png
  · rfl

/-- A cleaned file is still recognized as what it was. -/
theorem detectContentType_stripMetadata {data : List UInt8} {contentType : String}
    {category : UploadCategory} (detected : detectContentType data = some (contentType, category)) :
    detectContentType (stripMetadata data contentType) = some (contentType, category) := by
  by_cases jpeg : contentType = "image/jpeg"
  · subst jpeg
    rcases jpeg_of_detect detected with ⟨rest, rfl⟩
    exact detected
  · by_cases png : contentType = "image/png"
    · subst png
      rcases png_of_detect detected with ⟨rest, rfl⟩
      have stripped : stripMetadata (pngSignature ++ rest) "image/png" =
          pngSignature ++ ((pngReader.pass rest).written ++ (pngReader.pass rest).left) :=
        (stripPngMetadata_chunks rest)
      rw [stripped, detectContentType_png]
      exact detected
    · rw [stripMetadata_other jpeg png]
      exact detected

theorem chatContentType_stripMetadata (data : List UInt8) :
    chatContentType (stripMetadata data (chatContentType data).1) = chatContentType data := by
  unfold chatContentType
  cases detected : detectContentType data with
  | none =>
      rw [Option.getD_none, stripMetadata_other (by decide) (by decide), detected]
      rfl
  | some found => rw [Option.getD_some, detectContentType_stripMetadata detected]; rfl

/-- A cleaned file can be larger than the one received, but not by much. -/
theorem length_stripMetadata_le (data : List UInt8) (contentType : String) :
    (stripMetadata data contentType).length ≤ 2 * data.length := by
  unfold stripMetadata
  split
  · unfold stripJpegMetadata
    split
    · next rest =>
      have written := jpegReader.length_written_le rest
      simp only [List.length_cons]
      omega
    · omega
  · unfold stripPngMetadata
    split
    · next image =>
      have signature := congrArg List.length image
      have written := pngReader.length_written_le (data.drop 8)
      have left := pngReader.length_left_le (data.drop 8)
      rw [List.length_take] at signature
      rw [List.length_drop] at written left
      simp only [List.length_append]
      omega
    · omega
  · omega

end Stripping

section Requests

/-- The text of a random UUID. -/
structure Uuid where
  text : String
  length : text.toList.length = 36
  digits : text.toList.all (fun digit => digit.isAlphanum || digit = '-') = true
deriving DecidableEq

/-- The file of a multipart request: its name, and its chunks as they come. -/
structure UploadField where
  fileName : Option String
  chunks : List (Except String (List UInt8))

/-- A request to upload the first field of its body, from an identity. -/
inductive UploadRequest where
  | chat (pseudonymId channelId : String) (field : Except String (Option UploadField))
  | serverImage (pseudonymId : String) (canModerate : Bool)
      (field : Except String (Option UploadField))

inductive UploadPurpose where
  | chat (channelId : String)
  | serverImage
deriving DecidableEq, Repr

/-- What was accepted. -/
structure AcceptedUpload where
  purpose : UploadPurpose
  uploader : String
  originalFilename : String
  contentType : String
  category : UploadCategory
  uploadId : Uuid
  data : List UInt8
deriving DecidableEq

namespace AcceptedUpload

variable (upload : AcceptedUpload)

def cleaned : List UInt8 := stripMetadata upload.data upload.contentType

/-- The directory below the one of all uploads. -/
def directory : String :=
  match upload.purpose with
  | .chat _ => "/chat/" ++ upload.category.subdir
  | .serverImage => "/server"

def filename : String :=
  (match upload.purpose with
    | .chat _ => ""
    | .serverImage => "server_") ++
    upload.uploadId.text ++ "." ++ extFromContentType upload.contentType

/-- The path below the directory of all uploads. -/
def path : String := upload.directory ++ "/" ++ upload.filename

def url : String := "/uploads" ++ upload.path

end AcceptedUpload

/-- `uploads`, with the channel. -/
structure UploadRow where
  id : Nat
  serverId : Nat
  uploadId : String
  uploaderPseudonym : String
  originalFilename : String
  contentType : String
  sizeBytes : Nat
  purpose : String
  channelId : Option String
  category : String
deriving DecidableEq, Repr

instance : Keyed UploadRow := ⟨UploadRow.id⟩

/-- What is recorded of an upload. -/
def AcceptedUpload.row (upload : AcceptedUpload) (serverId id : Nat) : UploadRow where
  id := id
  serverId := serverId
  uploadId := upload.uploadId.text
  uploaderPseudonym := upload.uploader
  originalFilename := upload.originalFilename
  contentType := upload.contentType
  sizeBytes := upload.cleaned.length
  purpose := match upload.purpose with
    | .chat _ => "chat"
    | .serverImage => "server_image"
  channelId := match upload.purpose with
    | .chat channelId => some channelId
    | .serverImage => none
  category := upload.category.asStr

theorem AcceptedUpload.key_row (upload : AcceptedUpload) (serverId id : Nat) :
    key (upload.row serverId id) = id := rfl

/-- What a request is answered where nothing went wrong. The bytes that stripping removed are
counted in 64 bits. -/
inductive UploadAnswer where
  | chat (uploadId url filename contentType category : String) (size : Nat)
      (metadataStrippedBytes : BitVec 64)
  | serverImage (uploadId url : String)
deriving DecidableEq, Repr

def AcceptedUpload.answer (upload : AcceptedUpload) : UploadAnswer :=
  match upload.purpose with
  | .chat _ =>
      .chat upload.uploadId.text upload.url upload.originalFilename upload.contentType
        upload.category.asStr upload.cleaned.length
        (BitVec.ofNat 64 upload.data.length - BitVec.ofNat 64 upload.cleaned.length)
  | .serverImage => .serverImage upload.uploadId.text upload.url

end Requests

section Acceptance

/-- The field that a request has, read up to the limit. -/
def readField (maxBytes : Nat) (field : Except String (Option UploadField)) :
    Except ApiError (Option String × List UInt8) :=
  match field with
  | .error error => .error (.badRequest ("multipart error: " ++ error))
  | .ok none => .error (.badRequest "no file provided")
  | .ok (some field) => do
      let data ← readCapped maxBytes
        (.badRequest ("upload exceeds maximum size of " ++ toString maxBytes ++ " bytes")) []
        (field.chunks.map fun chunk => chunk.mapError fun error =>
          .badRequest ("failed to read upload chunk: " ++ error))
      .ok (field.fileName, data)

/-- The checks of `upload_chat_handler` on a file that was received. -/
def checkChatUpload (policy : UploadPolicy) (data : List UInt8) :
    Except ApiError (String × UploadCategory) :=
  let (contentType, category) := chatContentType data
  if contentType ∈ blockedTypes then
    .error (.badRequest ("file type not allowed: " ++ contentType))
  else if isCategoryEnabled policy category = false then
    .error (.badRequest (category.asStr ++ " uploads are disabled on this server"))
  else if maxSizeForCategory policy category < data.length then
    .error (.badRequest ("file too large: " ++ toString data.length ++ " bytes (max " ++
      toString (maxSizeForCategory policy category) ++ " bytes for " ++ category.asStr ++ ")"))
  else if category = .image ∧ contentType ∉ allowedImageTypes then
    .error (.badRequest ("unsupported image type: " ++ contentType))
  else if category = .video ∧ contentType ∉ allowedVideoTypes then
    .error (.badRequest ("unsupported video type: " ++ contentType))
  else .ok (contentType, category)

/-- The checks of `upload_server_image_handler` on a file that was received. -/
def checkServerImage (data : List UInt8) : Except ApiError (String × UploadCategory) :=
  match detectContentType data with
  | none => .error (.badRequest "unsupported file format")
  | some (contentType, category) =>
      if category ≠ .image ∨ contentType ∉ allowedImageTypes then
        .error (.badRequest "server image must be JPEG, PNG, GIF, or WebP")
      else .ok (contentType, category)

/-- What a request comes to once its body is received, under the id that is drawn for it. -/
def accept (policy : UploadPolicy) (uploadId : Uuid) :
    UploadRequest → Except ApiError AcceptedUpload
  | .chat uploader channelId field => do
      let (fileName, data) ← readField uploadStreamCeiling field
      let (contentType, category) ← checkChatUpload policy data
      .ok
        { purpose := .chat channelId, uploader, originalFilename := fileName.getD "upload"
          contentType, category, uploadId, data }
  | .serverImage uploader _ field => do
      let (fileName, data) ← readField maxServerImageSize field
      let (contentType, category) ← checkServerImage data
      .ok
        { purpose := .serverImage, uploader, originalFilename := fileName.getD "image"
          contentType, category, uploadId, data }

end Acceptance

section Handlers

/-- What a step meets: the database of the other handlers, the policy, a new id, and what fails.
A write that fails leaves something at its path. -/
structure UploadInput where
  database : Database
  policy : UploadPolicy
  uploadId : Uuid
  connection : Option String
  failure : Option String
  panic : Option String
  leaves : Option (List UInt8)

/-- Where a request is: before the check of who asks, before its body, before the directory is
created, the file is written, the image of the server is replaced, and the upload is recorded. -/
inductive UploadCall where
  | arrived (request : UploadRequest)
  | receiving (request : UploadRequest)
  | creating (upload : AcceptedUpload)
  | writing (upload : AcceptedUpload)
  | updating (upload : AcceptedUpload)
  | recording (upload : AcceptedUpload)

/-- The table, the files by their paths, and the image of the server, with the ids that were
drawn, the uploads whose files were written, and the answers so far. -/
structure UploadStore where
  uploads : Table UploadRow
  disk : String → Option (List UInt8)
  imageUrl : Option String
  drawn : List Uuid
  written : List AcceptedUpload
  answers : List (Except ApiError UploadAnswer)

namespace UploadStore

def empty : UploadStore where
  uploads := Table.empty
  disk := fun _ => none
  imageUrl := none
  drawn := []
  written := []
  answers := []

def answer (store : UploadStore) (result : Except ApiError UploadAnswer) : UploadStore :=
  { store with answers := store.answers ++ [result] }

/-- The call ends with an error. -/
def refuse (store : UploadStore) (error : ApiError) : UploadStore × Option UploadCall :=
  (store.answer (.error error), none)

end UploadStore

/-- What a task on the database fails with, if it does. -/
def UploadInput.taskError (input : UploadInput) (what : String) : Option ApiError :=
  (input.connection.map fun text => .internalServerError ("db connection failed: " ++ text)).or <|
    (input.failure.map fun text => .internalServerError (what ++ ": " ++ text)).or <|
      input.panic.map fun text => .internalServerError ("task join error: " ++ text)

/-- A task that records a server image has its connection already. -/
def UploadInput.recordError (input : UploadInput) (purpose : UploadPurpose) : Option ApiError :=
  match purpose with
  | .chat _ => input.taskError "failed to record upload"
  | .serverImage => { input with connection := none }.taskError "failed to record upload"

/-- `INSERT INTO uploads`. -/
def insertUploadRow (serverId : Nat) (upload : AcceptedUpload) (uploads : Table UploadRow) :
    Except String (Table UploadRow) :=
  if uploads.rows.any (·.uploadId = upload.uploadId.text) then
    .error "UNIQUE constraint failed: uploads.upload_id"
  else .ok (uploads.insert (upload.row serverId) (upload.key_row serverId))

/-- One step of `upload_chat_handler` or of `upload_server_image_handler`. -/
def uploadStep (serverId : Nat) (call : UploadCall) (input : UploadInput) (store : UploadStore) :
    UploadStore × Option UploadCall :=
  match call with
  | .arrived (.serverImage pseudonymId canModerate field) =>
      if canModerate then (store, some (.receiving (.serverImage pseudonymId canModerate field)))
      else store.refuse (.forbidden "insufficient permissions to upload server image")
  | .arrived (.chat pseudonymId channelId field) =>
      match input.taskError "membership check failed" with
      | some error => store.refuse error
      | none =>
          if memberOf serverId channelId pseudonymId input.database then
            (store, some (.receiving (.chat pseudonymId channelId field)))
          else store.refuse (.forbidden "not a member of this channel")
  | .receiving request =>
      match accept input.policy input.uploadId request with
      | .error error => store.refuse error
      | .ok upload =>
          ({ store with drawn := store.drawn ++ [input.uploadId] }, some (.creating upload))
  | .creating upload =>
      match input.failure with
      | some text => store.refuse (.internalServerError ("failed to create upload dir: " ++ text))
      | none => (store, some (.writing upload))
  | .writing upload =>
      match input.failure with
      | some text =>
          { store with disk := Function.update store.disk upload.path input.leaves }.refuse
            (.internalServerError ("failed to write file: " ++ text))
      | none =>
          ({ store with
              disk := Function.update store.disk upload.path (some upload.cleaned)
              written := store.written ++ [upload] },
            some (match upload.purpose with
              | .chat _ => .recording upload
              | .serverImage => .updating upload))
  | .updating upload =>
      match input.taskError "failed to update server" with
      | some error => store.refuse error
      | none => ({ store with imageUrl := some upload.url }, some (.recording upload))
  | .recording upload =>
      match input.recordError upload.purpose with
      | some error => store.refuse error
      | none =>
          match insertUploadRow serverId upload store.uploads with
          | .error text => store.refuse (.internalServerError ("failed to record upload: " ++ text))
          | .ok uploads => ({ store with uploads }.answer (.ok upload.answer), none)

def uploadProgram (serverId : Nat) :
    Interleaving.Program UploadStore UploadCall UploadRequest UploadInput where
  enter _ request := .arrived request
  act _ call input store := some (uploadStep serverId call input store)

abbrev UploadState := Interleaving UploadStore UploadCall

abbrev UploadLabel := Interleaving.Label UploadRequest UploadInput

/-- An id that is drawn is new. -/
def DrawsNew (state : UploadState) : UploadLabel → Prop
  | .start _ _ => True
  | .advance id input =>
      ∀ request, state.calls id = some (.receiving request) → input.uploadId ∉ state.shared.drawn

/-- The state after a run. -/
def uploaded (serverId : Nat) (labels : List UploadLabel) : UploadState :=
  Execution.run (Interleaving.step (uploadProgram serverId)) (Interleaving.idle .empty) labels

/-- Every id that is drawn in the run is new. -/
def FreshIds (serverId : Nat) (labels : List UploadLabel) : Prop :=
  Execution.Guarded (Interleaving.step (uploadProgram serverId)) DrawsNew
    (Interleaving.idle .empty) labels

end Handlers

section Paths

theorem extFromContentType_noDot (contentType : String) :
    '.' ∉ (extFromContentType contentType).toList := by
  unfold extFromContentType
  split <;> decide

theorem toList_path (upload : AcceptedUpload) :
    ∃ front, upload.path.toList = front ++ upload.uploadId.text.toList ++
      '.' :: (extFromContentType upload.contentType).toList := by
  cases purpose : upload.purpose with
  | chat channelId =>
      refine ⟨(upload.directory ++ "/").toList, ?_⟩
      simp [AcceptedUpload.path, AcceptedUpload.filename, purpose]
  | serverImage =>
      refine ⟨(upload.directory ++ "/" ++ "server_").toList, ?_⟩
      simp [AcceptedUpload.path, AcceptedUpload.filename, purpose]

/-- The id stands in front of the last dot of a path. -/
theorem uploadId_of_path (upload : AcceptedUpload) :
    (((upload.path.toList.reverse.dropWhile (· ≠ '.')).drop 1).take 36).reverse =
      upload.uploadId.text.toList := by
  rcases toList_path upload with ⟨front, parts⟩
  have noDot : ∀ character ∈ (extFromContentType upload.contentType).toList.reverse,
      decide (character ≠ '.') = true := by
    intro character member
    refine decide_eq_true fun dot => ?_
    exact extFromContentType_noDot upload.contentType (dot ▸ List.mem_reverse.mp member)
  have length : upload.uploadId.text.toList.reverse.length = 36 := by
    rw [List.length_reverse, upload.uploadId.length]
  rw [parts, List.reverse_append, List.reverse_cons, List.append_assoc,
    List.dropWhile_append_of_pos noDot, List.singleton_append,
    List.dropWhile_cons_of_neg (by simp), List.drop_one, List.tail_cons, List.reverse_append,
    List.take_left' length, List.reverse_reverse]

theorem uploadId_injective {left right : AcceptedUpload} (same : left.path = right.path) :
    left.uploadId = right.uploadId := by
  have texts : left.uploadId.text.toList = right.uploadId.text.toList := by
    rw [← uploadId_of_path left, same, uploadId_of_path right]
  have text := String.toList_injective texts
  cases isLeft : left.uploadId
  cases isRight : right.uploadId
  rw [isLeft, isRight] at text
  cases text
  rfl

end Paths

section Accepted

/-- What holds of every upload that was accepted. -/
structure AcceptedUpload.Valid (upload : AcceptedUpload) : Prop where
  detected : chatContentType upload.data = (upload.contentType, upload.category)
  notBlocked : upload.contentType ∉ blockedTypes
  small : upload.data.length ≤ uploadStreamCeiling
  image : upload.purpose = .serverImage → upload.contentType ∈ allowedImageTypes

theorem length_of_readField {maxBytes : Nat} {field : Except String (Option UploadField)}
    {fileName : Option String} {data : List UInt8}
    (isRead : readField maxBytes field = .ok (fileName, data)) : data.length ≤ maxBytes := by
  unfold readField at isRead
  split at isRead
  · cases isRead
  · cases isRead
  · simp only [bind, Except.bind] at isRead
    split at isRead
    · cases isRead
    · next body capped =>
      cases isRead
      exact length_readCapped (Nat.zero_le _) capped

theorem checkChatUpload_ok {policy : UploadPolicy} {data : List UInt8} {contentType : String}
    {category : UploadCategory}
    (checked : checkChatUpload policy data = .ok (contentType, category)) :
    chatContentType data = (contentType, category) ∧ contentType ∉ blockedTypes := by
  unfold checkChatUpload at checked
  dsimp only at checked
  split at checked
  · cases checked
  · next notBlocked =>
    repeat' split at checked
    all_goals cases checked
    exact ⟨rfl, notBlocked⟩

theorem checkServerImage_ok {data : List UInt8} {contentType : String}
    {category : UploadCategory} (checked : checkServerImage data = .ok (contentType, category)) :
    chatContentType data = (contentType, category) ∧ contentType ∈ allowedImageTypes := by
  unfold checkServerImage at checked
  split at checked
  · cases checked
  · next found other detected =>
    split at checked
    · cases checked
    · next isImage =>
      cases checked
      rw [not_or, not_not, not_not] at isImage
      refine ⟨?_, isImage.2⟩
      rw [chatContentType, detected]
      rfl

theorem not_blocked_of_image {contentType : String} (image : contentType ∈ allowedImageTypes) :
    contentType ∉ blockedTypes := by
  revert contentType
  decide

theorem valid_of_accept {policy : UploadPolicy} {uploadId : Uuid} {request : UploadRequest}
    {upload : AcceptedUpload} (accepted : accept policy uploadId request = .ok upload) :
    upload.Valid ∧ upload.uploadId = uploadId := by
  cases request with
  | chat uploader channelId field =>
      simp only [accept, bind, Except.bind] at accepted
      split at accepted
      · cases accepted
      · next received isRead =>
        split at accepted
        · cases accepted
        · next checked isChecked =>
          cases accepted
          have facts := checkChatUpload_ok isChecked
          exact ⟨⟨facts.1, facts.2, length_of_readField isRead, nofun⟩, rfl⟩
  | serverImage uploader canModerate field =>
      simp only [accept, bind, Except.bind] at accepted
      split at accepted
      · cases accepted
      · next received isRead =>
        split at accepted
        · cases accepted
        · next checked isChecked =>
          cases accepted
          have facts := checkServerImage_ok isChecked
          have length := length_of_readField isRead
          have below : maxServerImageSize ≤ uploadStreamCeiling := by decide
          exact ⟨⟨facts.1, not_blocked_of_image facts.2, length.trans below,
            fun _ => facts.2⟩, rfl⟩

end Accepted

section Runs

/-- The upload that a call has accepted and not yet written. -/
def UploadCall.unwritten : UploadCall → Option AcceptedUpload
  | .creating upload => some upload
  | .writing upload => some upload
  | _ => none

/-- What a call has in hand. -/
def UploadStore.Holds (store : UploadStore) : UploadCall → Prop
  | .arrived _ => True
  | .receiving _ => True
  | .creating upload | .writing upload =>
      upload.Valid ∧ upload.uploadId ∈ store.drawn ∧
        ∀ other ∈ store.written, other.uploadId ≠ upload.uploadId
  | .updating upload => upload ∈ store.written ∧ upload.purpose = .serverImage
  | .recording upload => upload ∈ store.written

/-- The files are where the table, the image of the server and the answers say. -/
structure UploadStore.Consistent (serverId : Nat) (store : UploadStore) : Prop where
  files : ∀ upload ∈ store.written, store.disk upload.path = some upload.cleaned
  valid : ∀ upload ∈ store.written, upload.Valid
  drawn : ∀ upload ∈ store.written, upload.uploadId ∈ store.drawn
  rows : ∀ row ∈ store.uploads.rows, ∃ upload ∈ store.written, row = upload.row serverId row.id
  image : ∀ url, store.imageUrl = some url →
    ∃ upload ∈ store.written, upload.purpose = .serverImage ∧ url = upload.url
  answers : ∀ answer, .ok answer ∈ store.answers → ∃ upload ∈ store.written,
    answer = upload.answer ∧ ∃ row ∈ store.uploads.rows, row = upload.row serverId row.id

/-- What holds between two steps of uploads. No two calls are about to write the same upload. -/
structure UploadInvariant (serverId : Nat) (state : UploadState) : Prop where
  consistent : state.shared.Consistent serverId
  calls : ∀ id call, state.calls id = some call → state.shared.Holds call
  apart : ∀ left right leftCall rightCall leftUpload rightUpload,
    state.calls left = some leftCall → leftCall.unwritten = some leftUpload →
      state.calls right = some rightCall → rightCall.unwritten = some rightUpload →
        leftUpload.uploadId = rightUpload.uploadId → left = right

variable {serverId : Nat} {store : UploadStore} {state : UploadState}

theorem UploadStore.Consistent.answer (consistent : store.Consistent serverId)
    {result : Except ApiError UploadAnswer}
    (justified : ∀ answer, result = .ok answer → ∃ upload ∈ store.written,
      answer = upload.answer ∧ ∃ row ∈ store.uploads.rows, row = upload.row serverId row.id) :
    (store.answer result).Consistent serverId where
  files := consistent.files
  valid := consistent.valid
  drawn := consistent.drawn
  rows := consistent.rows
  image := consistent.image
  answers := by
    intro answer member
    rcases List.mem_append.mp member with old | new
    · exact consistent.answers answer old
    · exact justified answer (List.mem_singleton.mp new).symm

/-- A write at the path of an upload that is not yet written spares the others. -/
theorem UploadStore.Consistent.files_update (consistent : store.Consistent serverId)
    {upload : AcceptedUpload} (other : ∀ old ∈ store.written, old.uploadId ≠ upload.uploadId)
    (contents : Option (List UInt8)) :
    ∀ old ∈ store.written,
      Function.update store.disk upload.path contents old.path = some old.cleaned := by
  intro old member
  have different : old.path ≠ upload.path := fun same =>
    other old member (uploadId_injective same)
  rw [Function.update_of_ne different]
  exact consistent.files old member

theorem UploadStore.Consistent.write (consistent : store.Consistent serverId)
    {upload : AcceptedUpload} (holds : store.Holds (.writing upload)) :
    UploadStore.Consistent serverId
      { store with
        disk := Function.update store.disk upload.path (some upload.cleaned)
        written := store.written ++ [upload] } where
  files := by
    intro other member
    rcases List.mem_append.mp member with old | new
    · exact consistent.files_update holds.2.2 _ other old
    · rw [List.mem_singleton.mp new]
      exact Function.update_self _ _ _
  valid := by
    intro other member
    rcases List.mem_append.mp member with old | new
    · exact consistent.valid other old
    · rw [List.mem_singleton.mp new]
      exact holds.1
  drawn := by
    intro other member
    rcases List.mem_append.mp member with old | new
    · exact consistent.drawn other old
    · rw [List.mem_singleton.mp new]
      exact holds.2.1
  rows := by
    intro row member
    rcases consistent.rows row member with ⟨other, old, same⟩
    exact ⟨other, List.mem_append_left _ old, same⟩
  image := by
    intro url shown
    rcases consistent.image url shown with ⟨other, old, facts⟩
    exact ⟨other, List.mem_append_left _ old, facts⟩
  answers := by
    intro answer member
    rcases consistent.answers answer member with ⟨other, old, facts⟩
    exact ⟨other, List.mem_append_left _ old, facts⟩

theorem rows_insertUploadRow {upload : AcceptedUpload} {uploads changed : Table UploadRow}
    (inserted : insertUploadRow serverId upload uploads = .ok changed) :
    changed.rows = uploads.rows ++ [upload.row serverId (uploads.lastId + 1)] := by
  unfold insertUploadRow at inserted
  split at inserted
  · cases inserted
  · cases inserted
    rfl

theorem UploadStore.Consistent.record (consistent : store.Consistent serverId)
    {upload : AcceptedUpload} (written : upload ∈ store.written) {uploads : Table UploadRow}
    (inserted : insertUploadRow serverId upload store.uploads = .ok uploads) :
    ({ store with uploads }.answer (.ok upload.answer)).Consistent serverId := by
  have rows := rows_insertUploadRow inserted
  have recorded : upload.row serverId (store.uploads.lastId + 1) ∈ uploads.rows :=
    rows ▸ List.mem_append_right _ (List.mem_singleton_self _)
  have changed : UploadStore.Consistent serverId { store with uploads } := by
    refine { consistent with rows := ?_, answers := ?_ }
    · intro row member
      rcases List.mem_append.mp (rows ▸ member) with old | new
      · exact consistent.rows row old
      · rw [List.mem_singleton.mp new]
        exact ⟨upload, written, rfl⟩
    · intro answer member
      rcases consistent.answers answer member with ⟨other, old, same, row, stored, sameRow⟩
      exact ⟨other, old, same, row, rows ▸ List.mem_append_left _ stored, sameRow⟩
  refine changed.answer ?_
  rintro answer ⟨⟩
  exact ⟨upload, written, rfl, _, recorded, rfl⟩

/-- A step of a call, with what it leaves and how the call goes on. -/
theorem UploadInvariant.update (invariant : UploadInvariant serverId state) {id : Nat}
    {next : Option UploadCall} (consistent : store.Consistent serverId)
    (others : ∀ other call, other ≠ id → state.calls other = some call → store.Holds call)
    (holds : ∀ rest, next = some rest → store.Holds rest)
    (apart : ∀ rest upload, next = some rest → rest.unwritten = some upload →
      ∀ other call otherUpload, other ≠ id → state.calls other = some call →
        call.unwritten = some otherUpload → otherUpload.uploadId ≠ upload.uploadId) :
    UploadInvariant serverId ⟨store, Function.update state.calls id next⟩ where
  consistent := consistent
  calls := by
    intro other call found
    rcases Interleaving.update_cases found with ⟨_, isNext⟩ | ⟨different, old⟩
    · exact holds call isNext
    · exact others other call different old
  apart := by
    intro left right leftCall rightCall leftUpload rightUpload leftFound leftHas rightFound
      rightHas same
    rcases Interleaving.update_cases leftFound with ⟨isLeft, leftNext⟩ | ⟨leftOther, leftOld⟩
    · rcases Interleaving.update_cases rightFound with
        ⟨isRight, _⟩ | ⟨rightOther, rightOld⟩
      · rw [isLeft, isRight]
      · exact absurd same.symm (apart _ _ leftNext leftHas _ _ _ rightOther rightOld rightHas)
    · rcases Interleaving.update_cases rightFound with
        ⟨_, rightNext⟩ | ⟨_, rightOld⟩
      · exact absurd same (apart _ _ rightNext rightHas _ _ _ leftOther leftOld leftHas)
      · exact invariant.apart _ _ _ _ _ _ leftOld leftHas rightOld rightHas same

/-- A step that neither draws an id nor writes a file, and goes on with what the call has. -/
theorem UploadInvariant.keep (invariant : UploadInvariant serverId state) {id : Nat}
    {call : UploadCall} (found : state.calls id = some call) {next : Option UploadCall}
    (consistent : store.Consistent serverId) (drawn : store.drawn = state.shared.drawn)
    (written : store.written = state.shared.written)
    (goesOn : ∀ rest, next = some rest → store.Holds rest ∧
      (rest.unwritten = none ∨ rest.unwritten = call.unwritten)) :
    UploadInvariant serverId ⟨store, Function.update state.calls id next⟩ := by
  refine invariant.update consistent ?_ (fun rest isNext => (goesOn rest isNext).1) ?_
  · intro other otherCall _ otherFound
    have held := invariant.calls other otherCall otherFound
    unfold UploadStore.Holds at held ⊢
    rw [drawn, written]
    exact held
  · intro rest upload isNext has other otherCall otherUpload different otherFound otherHas same
    rcases (goesOn rest isNext).2 with nothing | before
    · rw [has] at nothing
      cases nothing
    · exact different (invariant.apart _ _ _ _ _ _ otherFound otherHas found (before ▸ has) same)

theorem UploadInvariant.refuse (invariant : UploadInvariant serverId state) {id : Nat}
    {call : UploadCall} (found : state.calls id = some call) (error : ApiError) :
    UploadInvariant serverId
      ⟨(state.shared.refuse error).1,
        Function.update state.calls id (state.shared.refuse error).2⟩ :=
  invariant.keep found (invariant.consistent.answer nofun) rfl rfl nofun

theorem UploadInvariant.receive (invariant : UploadInvariant serverId state) {id : Nat}
    {input : UploadInput} {request : UploadRequest} {upload : AcceptedUpload}
    (accepted : accept input.policy input.uploadId request = .ok upload)
    (fresh : input.uploadId ∉ state.shared.drawn) :
    UploadInvariant serverId
      ⟨{ state.shared with drawn := state.shared.drawn ++ [input.uploadId] },
        Function.update state.calls id (some (.creating upload))⟩ := by
  have facts := valid_of_accept accepted
  have more (uploadId : Uuid) (member : uploadId ∈ state.shared.drawn) :
      uploadId ∈ state.shared.drawn ++ [input.uploadId] := List.mem_append_left _ member
  have held (call : UploadCall) (holds : state.shared.Holds call) : UploadStore.Holds
      { state.shared with drawn := state.shared.drawn ++ [input.uploadId] } call := by
    cases call with
    | creating upload => exact ⟨holds.1, more _ holds.2.1, holds.2.2⟩
    | writing upload => exact ⟨holds.1, more _ holds.2.1, holds.2.2⟩
    | _ => exact holds
  refine invariant.update ?_ ?_ ?_ ?_
  · exact { invariant.consistent with
      drawn := fun old member => more _ (invariant.consistent.drawn old member) }
  · intro other call _ found
    exact held call (invariant.calls other call found)
  · rintro rest ⟨⟩
    refine ⟨facts.1, facts.2 ▸ List.mem_append_right _ (List.mem_singleton_self _), ?_⟩
    intro old member same
    exact fresh (facts.2 ▸ same ▸ invariant.consistent.drawn old member)
  · rintro rest new ⟨⟩ ⟨⟩ other call otherUpload _ found has same
    have drawn : otherUpload.uploadId ∈ state.shared.drawn := by
      have holds := invariant.calls other call found
      cases call <;> cases has
      · exact holds.2.1
      · exact holds.2.1
    exact fresh (facts.2 ▸ same ▸ drawn)

theorem UploadInvariant.write (invariant : UploadInvariant serverId state) {id : Nat}
    {upload : AcceptedUpload} (found : state.calls id = some (.writing upload))
    {next : UploadCall} (isNext : next = .recording upload ∨
      next = .updating upload ∧ upload.purpose = .serverImage) :
    UploadInvariant serverId
      ⟨{ state.shared with
          disk := Function.update state.shared.disk upload.path (some upload.cleaned)
          written := state.shared.written ++ [upload] },
        Function.update state.calls id (some next)⟩ := by
  have holds := invariant.calls id _ found
  have member : upload ∈ state.shared.written ++ [upload] :=
    List.mem_append_right _ (List.mem_singleton_self _)
  refine invariant.update (invariant.consistent.write holds) ?_ ?_ ?_
  · intro other call different otherFound
    have held := invariant.calls other call otherFound
    -- The others that are about to write have other ids.
    have spared (otherUpload : AcceptedUpload) (has : call.unwritten = some otherUpload)
        (before : ∀ old ∈ state.shared.written, old.uploadId ≠ otherUpload.uploadId) :
        ∀ old ∈ state.shared.written ++ [upload], old.uploadId ≠ otherUpload.uploadId := by
      intro old member same
      rcases List.mem_append.mp member with earlier | new
      · exact before old earlier same
      · rw [List.mem_singleton.mp new] at same
        exact different (invariant.apart _ _ _ _ _ _ otherFound has found rfl same.symm)
    cases call with
    | arrived request => trivial
    | receiving request => trivial
    | creating otherUpload => exact ⟨held.1, held.2.1, spared _ rfl held.2.2⟩
    | writing otherUpload => exact ⟨held.1, held.2.1, spared _ rfl held.2.2⟩
    | updating otherUpload => exact ⟨List.mem_append_left _ held.1, held.2⟩
    | recording otherUpload => exact List.mem_append_left _ held
  · rintro rest ⟨⟩
    rcases isNext with rfl | ⟨rfl, image⟩
    · exact member
    · exact ⟨member, image⟩
  · rintro rest new ⟨⟩ has
    rcases isNext with rfl | ⟨rfl, _⟩ <;> cases has

/-- Each step of a request keeps the invariant, if the id it may draw is new. -/
theorem uploadInvariant_act (invariant : UploadInvariant serverId state) {id : Nat}
    {call : UploadCall} (found : state.calls id = some call) {input : UploadInput}
    (fresh : ∀ request, call = .receiving request → input.uploadId ∉ state.shared.drawn) :
    UploadInvariant serverId
      ⟨(uploadStep serverId call input state.shared).1,
        Function.update state.calls id (uploadStep serverId call input state.shared).2⟩ := by
  have consistent := invariant.consistent
  have holds := invariant.calls id call found
  cases call with
  | arrived request =>
      cases request with
      | chat pseudonymId channelId field =>
          simp only [uploadStep]
          split
          · exact invariant.refuse found _
          · split
            · refine invariant.keep found consistent rfl rfl ?_
              rintro rest ⟨⟩
              exact ⟨trivial, Or.inl rfl⟩
            · exact invariant.refuse found _
      | serverImage pseudonymId canModerate field =>
          simp only [uploadStep]
          split
          · refine invariant.keep found consistent rfl rfl ?_
            rintro rest ⟨⟩
            exact ⟨trivial, Or.inl rfl⟩
          · exact invariant.refuse found _
  | receiving request =>
      simp only [uploadStep]
      split
      · exact invariant.refuse found _
      · next upload accepted => exact invariant.receive accepted (fresh request rfl)
  | creating upload =>
      simp only [uploadStep]
      split
      · exact invariant.refuse found _
      · refine invariant.keep found consistent rfl rfl ?_
        rintro rest ⟨⟩
        exact ⟨holds, Or.inr rfl⟩
  | writing upload =>
      simp only [uploadStep]
      split
      · refine invariant.keep found ?_ rfl rfl nofun
        have changed : UploadStore.Consistent serverId { state.shared with
            disk := Function.update state.shared.disk upload.path input.leaves } :=
          { consistent with files := consistent.files_update holds.2.2 _ }
        exact changed.answer nofun
      · refine invariant.write found ?_
        split
        · exact Or.inl rfl
        · next image => exact Or.inr ⟨rfl, image⟩
  | updating upload =>
      simp only [uploadStep]
      split
      · exact invariant.refuse found _
      · refine invariant.keep found ?_ rfl rfl ?_
        · refine { consistent with image := ?_ }
          rintro url ⟨⟩
          exact ⟨upload, holds.1, holds.2, rfl⟩
        · rintro rest ⟨⟩
          exact ⟨holds.1, Or.inl rfl⟩
  | recording upload =>
      simp only [uploadStep]
      split
      · exact invariant.refuse found _
      · split
        · exact invariant.refuse found _
        · next uploads inserted =>
          exact invariant.keep found (consistent.record holds inserted) rfl rfl nofun

theorem uploadInvariant_empty : UploadInvariant serverId (Interleaving.idle .empty) where
  consistent :=
    { files := by simp [UploadStore.empty, Interleaving.idle]
      valid := by simp [UploadStore.empty, Interleaving.idle]
      drawn := by simp [UploadStore.empty, Interleaving.idle]
      rows := by simp [UploadStore.empty, Interleaving.idle, Table.empty]
      image := by simp [UploadStore.empty, Interleaving.idle]
      answers := by simp [UploadStore.empty, Interleaving.idle] }
  calls := by simp [Interleaving.idle]
  apart := by simp [Interleaving.idle]

theorem uploadInvariant_step (state : UploadState) (label : UploadLabel)
    (invariant : UploadInvariant serverId state) (fresh : DrawsNew state label) :
    UploadInvariant serverId (Interleaving.step (uploadProgram serverId) state label) := by
  refine Interleaving.step_invariant ?_ ?_ state label invariant fresh
  · intro state id request invariant free _
    refine invariant.update invariant.consistent ?_ ?_ ?_
    · intro other call _ found
      exact invariant.calls other call found
    · rintro rest ⟨⟩
      trivial
    · rintro rest upload ⟨⟩ ⟨⟩
  · intro state id call input shared next invariant found acted fresh
    have stepped : uploadStep serverId call input state.shared = (shared, next) :=
      Option.some.inj acted
    have after := @uploadInvariant_act serverId state invariant id call found input
      (fun request same => fresh request (same ▸ found))
    rw [stepped] at after
    exact after

theorem uploadInvariant_uploaded {labels : List UploadLabel} (fresh : FreshIds serverId labels) :
    UploadInvariant serverId (uploaded serverId labels) :=
  Execution.run_invariant_of_guarded (UploadInvariant serverId) uploadInvariant_step
    uploadInvariant_empty fresh

end Runs

section Results

/-- However uploads interleave and whatever fails or is left unfinished, as long as ids are not
drawn twice: every row stands for a file at its path that has the recorded size, is recognized as
the recorded type and is no executable, every upload that was answered is recorded so, and the
image of the server is an image that was written. -/
theorem uploads_stored (serverId : Nat) (labels : List UploadLabel)
    (fresh : FreshIds serverId labels) :
    let store := (uploaded serverId labels).shared
    (∀ row ∈ store.uploads.rows, ∃ upload : AcceptedUpload,
        row = upload.row serverId row.id ∧ store.disk upload.path = some upload.cleaned ∧
          row.sizeBytes = upload.cleaned.length ∧
          chatContentType upload.cleaned = (row.contentType, upload.category) ∧
          row.contentType ∉ blockedTypes ∧ row.sizeBytes ≤ 2 * uploadStreamCeiling) ∧
      (∀ answer, .ok answer ∈ store.answers → ∃ upload : AcceptedUpload,
        answer = upload.answer ∧ store.disk upload.path = some upload.cleaned ∧
          ∃ row ∈ store.uploads.rows, row = upload.row serverId row.id) ∧
      ∀ url, store.imageUrl = some url → ∃ upload : AcceptedUpload,
        url = "/uploads" ++ upload.path ∧ store.disk upload.path = some upload.cleaned ∧
          upload.contentType ∈ allowedImageTypes ∧
          chatContentType upload.cleaned = (upload.contentType, upload.category) := by
  intro store
  have consistent := (uploadInvariant_uploaded fresh).consistent
  have cleaned (upload : AcceptedUpload) (written : upload ∈ store.written) :
      chatContentType upload.cleaned = (upload.contentType, upload.category) := by
    have detected := (consistent.valid upload written).detected
    have kept := chatContentType_stripMetadata upload.data
    rw [detected] at kept
    exact kept
  refine ⟨?_, ?_, ?_⟩
  · intro row member
    rcases consistent.rows row member with ⟨upload, written, same⟩
    have valid := consistent.valid upload written
    have size : row.sizeBytes = upload.cleaned.length := by rw [same]; rfl
    have type : row.contentType = upload.contentType := by rw [same]; rfl
    refine ⟨upload, same, consistent.files upload written, size, ?_, ?_, ?_⟩
    · rw [type]
      exact cleaned upload written
    · rw [type]
      exact valid.notBlocked
    · have bound : upload.cleaned.length ≤ 2 * upload.data.length := length_stripMetadata_le _ _
      have small := valid.small
      omega
  · intro answer member
    rcases consistent.answers answer member with ⟨upload, written, same, recorded⟩
    exact ⟨upload, same, consistent.files upload written, recorded⟩
  · intro url shown
    rcases consistent.image url shown with ⟨upload, written, purpose, same⟩
    exact ⟨upload, same, consistent.files upload written,
      (consistent.valid upload written).image purpose, cleaned upload written⟩

theorem written_uploadStep {serverId : Nat} {call : UploadCall} {input : UploadInput}
    {store : UploadStore} {upload : AcceptedUpload} (written : upload ∈ store.written) :
    upload ∈ (uploadStep serverId call input store).1.written := by
  cases call with
  | arrived request =>
      cases request <;> simp only [uploadStep] <;> repeat' split
      all_goals exact written
  | receiving request =>
      simp only [uploadStep]
      split <;> exact written
  | creating upload =>
      simp only [uploadStep]
      split <;> exact written
  | writing upload =>
      simp only [uploadStep]
      split
      · exact written
      · exact List.mem_append_left _ written
  | updating upload =>
      simp only [uploadStep]
      split <;> exact written
  | recording upload =>
      simp only [uploadStep]
      repeat' split
      all_goals exact written

theorem written_run {serverId : Nat} {state : UploadState} {upload : AcceptedUpload}
    (labels : List UploadLabel) (written : upload ∈ state.shared.written) :
    upload ∈ (Execution.run (Interleaving.step (uploadProgram serverId)) state
      labels).shared.written := by
  refine Execution.run_invariant (fun state : UploadState => upload ∈ state.shared.written) ?_
    written labels
  intro state label written
  cases label with
  | start id request =>
      simp only [Interleaving.step]
      split <;> exact written
  | advance id input =>
      simp only [Interleaving.step]
      split
      · exact written
      · simp only [uploadProgram]
        exact written_uploadStep written

/-- Two ids. -/
def sampleUuid : Bool → Uuid
  | false => ⟨"00000000-0000-4000-8000-000000000000", by decide, by decide⟩
  | true => ⟨"00000000-0000-4000-8000-000000000001", by decide, by decide⟩

def sampleUploadInput (second : Bool) : UploadInput where
  database := migrated
  policy := ⟨true, true, true, 5, 5, 5⟩
  uploadId := sampleUuid second
  connection := none
  failure := none
  panic := none
  leaves := none

/-- A moderator uploads the beginning of a GIF file. -/
def serverImageRun : List UploadLabel :=
  [.start 0 (.serverImage "moderator" true (.ok (some ⟨none, [.ok [0x47, 0x49, 0x46, 0x38]]⟩))),
    .advance 0 (sampleUploadInput false), .advance 0 (sampleUploadInput false),
    .advance 0 (sampleUploadInput true), .advance 0 (sampleUploadInput true),
    .advance 0 (sampleUploadInput true), .advance 0 (sampleUploadInput true)]

theorem freshIds_serverImageRun : FreshIds 1 serverImageRun := by
  refine ⟨trivial, ?_, ?_, ?_, ?_, ?_, ?_, trivial⟩
  all_goals exact fun _ _ => by decide

theorem uploads_stored_serverImage :
    ∃ upload : AcceptedUpload,
      "/uploads/server/server_00000000-0000-4000-8000-000000000000.gif" =
          "/uploads" ++ upload.path ∧
        (uploaded 1 serverImageRun).shared.disk upload.path = some upload.cleaned ∧
          upload.contentType ∈ allowedImageTypes ∧
          chatContentType upload.cleaned = (upload.contentType, upload.category) :=
  (uploads_stored 1 serverImageRun freshIds_serverImageRun).2.2 _ rfl

/-- The file of an upload that was recorded is never written again: whatever comes later, its
path holds the same bytes. -/
theorem upload_immutable (serverId : Nat) (labels later : List UploadLabel)
    (fresh : FreshIds serverId (labels ++ later)) (row : UploadRow)
    (recorded : row ∈ (uploaded serverId labels).shared.uploads.rows) :
    ∃ upload : AcceptedUpload, row = upload.row serverId row.id ∧
      (uploaded serverId labels).shared.disk upload.path = some upload.cleaned ∧
      (uploaded serverId (labels ++ later)).shared.disk upload.path = some upload.cleaned := by
  have first : FreshIds serverId labels := (Execution.guarded_append.mp fresh).1
  have before := (uploadInvariant_uploaded first).consistent
  rcases before.rows row recorded with ⟨upload, written, same⟩
  have still : upload ∈ (uploaded serverId (labels ++ later)).shared.written := by
    rw [uploaded, Execution.run_append]
    exact written_run later written
  exact ⟨upload, same, before.files upload written,
    (uploadInvariant_uploaded fresh).consistent.files upload still⟩

def serverImageRow : UploadRow where
  id := 1
  serverId := 1
  uploadId := "00000000-0000-4000-8000-000000000000"
  uploaderPseudonym := "moderator"
  originalFilename := "image"
  contentType := "image/gif"
  sizeBytes := 4
  purpose := "server_image"
  channelId := none
  category := "image"

theorem upload_immutable_serverImage :
    ∃ upload : AcceptedUpload, serverImageRow = upload.row 1 1 ∧
      (uploaded 1 serverImageRun).shared.disk upload.path = some upload.cleaned ∧
      (uploaded 1 (serverImageRun ++ [.advance 0 (sampleUploadInput true)])).shared.disk
        upload.path = some upload.cleaned := by
  refine upload_immutable 1 serverImageRun [.advance 0 (sampleUploadInput true)] ?_
    serverImageRow ?_
  · exact Execution.guarded_append.mpr ⟨freshIds_serverImageRun, fun _ _ => by decide, trivial⟩
  · have rows : (uploaded 1 serverImageRun).shared.uploads.rows = [serverImageRow] := rfl
    rw [rows]
    exact List.mem_singleton_self _

end Results

end Annex.Server
