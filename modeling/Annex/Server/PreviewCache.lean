import Annex.Foundation.CachingProxy
import Annex.Foundation.Collect
import Annex.Foundation.Utf8
import Annex.Server.EventHandlers
import Annex.Server.LinkPreviewSafety

namespace Annex.Server

/-! The caches in front of link previews and of proxied images. -/

def maxHtmlBytes : Nat := 512 * 1024

def maxImageBytes : Nat := 5 * 1024 * 1024

/-- Instants are in nanoseconds. -/
def seconds (count : Nat) : Nat := count * 10 ^ 9

def cacheTtl : Nat := seconds 600

def maxCacheEntries : Nat := 2000

def maxImageCacheEntries : Nat := 500

def imageCacheTtl : Nat := seconds 300

def previewUserAgent : String := "AnnexBot/1.0 (link-preview)"

def imageUserAgent : String :=
  "Mozilla/5.0 (compatible; AnnexImageProxy/1.0; +https://annex.chat)"

structure PreviewResponse where
  title : Option String
  description : Option String
  imageUrl : Option String
  siteName : Option String
deriving DecidableEq, Repr

structure CachedImage where
  bytes : List Byte
  contentType : String
deriving DecidableEq, Repr

/-- The status codes of the two handlers. -/
inductive PreviewError where
  | fetch (error : FetchError)
  | unsupportedMediaType
deriving DecidableEq, Repr

/-- An element of a page: its attributes, and the text in it. -/
structure Element where
  attr : String → Option String
  text : String

/-- What a response has beside its status: the content type, if it can be read, the announced
length, and the chunks of the body up to one that fails. -/
structure ResponseContent where
  contentType : Option String
  contentLength : Option Nat
  chunks : List (Option (List Byte))

/-- What the handlers use: the packages for URLs and for HTML, with the first element that a
selector finds, and the other side of a fetch, with the content of its last response. -/
structure PreviewServer (World : Type) where
  environment : Environment
  isWhitespace : Char → Bool
  package : UrlPackage
  path : Url → String
  select : (html selector : String) → Option Element
  network : Network World
  content : World → ResponseContent

/-- The other side where a fetch begins, and whether the task that parses its page is run. -/
structure FetchInput (World : Type) where
  world : World
  runs : Bool

variable {World : Type} (server : PreviewServer World)

section Parsing

/-- The trimmed text, if there is one and it is not empty. -/
def PreviewServer.filled (text : Option String) : Option String :=
  (text.map (trim server.isWhitespace)).filter (· ≠ "")

def PreviewServer.attribute (html selector name : String) : Option String :=
  server.filled ((server.select html selector).bind (·.attr name))

/-- `og`: the `property` attribute is tried first, then `name`. -/
def PreviewServer.og (html property : String) : Option String :=
  (server.attribute html ("meta[property=\"og:" ++ property ++ "\"]") "content").or
    (server.attribute html ("meta[name=\"og:" ++ property ++ "\"]") "content")

def parseOgMetadata (html : String) : PreviewResponse where
  title :=
    (server.og html "title").or (server.filled ((server.select html "title").map (·.text)))
  description :=
    (server.og html "description").or
      (server.attribute html "meta[name=\"description\"]" "content")
  imageUrl :=
    (server.og html "image").or <|
      (server.attribute html "meta[name=\"twitter:image\"]" "content").or <|
        (server.attribute html "link[rel=\"image_src\"]" "href").or
          (server.attribute html "meta[itemprop=\"image\"]" "content")
  siteName := server.og html "site_name"

/-- Relative image URLs are resolved against the page. -/
def resolveImageUrl (url : String) (preview : PreviewResponse) : PreviewResponse :=
  match preview.imageUrl with
  | none => preview
  | some image =>
      if image.startsWith "http://" || image.startsWith "https://" then preview
      else
        match (server.package.parse url).bind (server.package.join · image) with
        | none => preview
        | some resolved => { preview with imageUrl := some resolved.text }

end Parsing

section Bodies

/-- The body of a response, if it is not too large. -/
def readBodyCapped (maxBytes : Nat) (content : ResponseContent) :
    Except PreviewError (List Byte) :=
  if content.contentLength.any (maxBytes < ·) then .error (.fetch .badGateway)
  else
    readCapped maxBytes (.fetch .badGateway) []
      (content.chunks.map fun
        | some chunk => .ok chunk
        | none => .error (.fetch .badGateway))

theorem length_readBodyCapped {maxBytes : Nat} {content : ResponseContent} {read : List Byte}
    (isRead : readBodyCapped maxBytes content = .ok read) : read.length ≤ maxBytes := by
  unfold readBodyCapped at isRead
  split at isRead
  · cases isRead
  · exact length_readCapped (Nat.zero_le _) isRead

end Bodies

section Handlers

/-- Both handlers answer only for URLs that are not too long, and public. -/
def refuseUrl (url : String) : Option PreviewError :=
  if url = "" ∨ 2048 < url.utf8ByteSize then some (.fetch .badRequest)
  else if isPrivateOrReserved server.environment server.package url then
    some (.fetch .forbidden)
  else none

def isSuccess (status : Nat) : Bool := 200 ≤ status && status < 300

/-- The response a fetch ends with, and its content. -/
def fetchContent (url accept userAgent : String) (world : World) :
    Except PreviewError ResponseContent :=
  match fetchWithRedirectValidation server.network server.environment server.package url accept
      userAgent ⟨world, []⟩ with
  | (.error error, _) => .error (.fetch error)
  | (.ok response, journey) =>
      if isSuccess response.status then .ok (server.content journey.world)
      else .error (.fetch .badGateway)

/-- A page that is not HTML has no metadata, and is not kept. -/
def isHtml (contentType : String) : Bool :=
  decide ("text/html".toList <:+: contentType.toList) ||
    decide ("application/xhtml".toList <:+: contentType.toList)

def PreviewResponse.empty : PreviewResponse := ⟨none, none, none, none⟩

/-- `link_preview_handler`, where the cache has nothing: the metadata of the page, and whether
it is kept. -/
def fetchPreview (url : String) (input : FetchInput World) :
    Except PreviewError (PreviewResponse × Bool) := do
  let content ← fetchContent server url "text/html,application/xhtml+xml" previewUserAgent
    input.world
  if isHtml (content.contentType.getD "") then
    let bytes ← readBodyCapped maxHtmlBytes content
    if input.runs then
      let html := String.ofList (Utf8.decode bytes)
      .ok (resolveImageUrl server url (parseOgMetadata server html), true)
    else .error (.fetch .internalServerError)
  else .ok (.empty, false)

def PreviewServer.urlPath (url : String) : String :=
  ((server.package.parse url).map fun parsed =>
    server.environment.toLowercase (server.path parsed)).getD ""

def urlHasImageExtension (url : String) : Bool :=
  let path := server.urlPath url
  [".jpg", ".jpeg", ".png", ".gif", ".webp", ".svg", ".ico", ".bmp", ".avif"].any
    fun extension => path.endsWith extension

def inferImageContentType (url : String) : String :=
  let path := server.urlPath url
  if path.endsWith ".png" then "image/png"
  else if path.endsWith ".gif" then "image/gif"
  else if path.endsWith ".webp" then "image/webp"
  else if path.endsWith ".svg" then "image/svg+xml"
  else if path.endsWith ".ico" then "image/x-icon"
  else if path.endsWith ".bmp" then "image/bmp"
  else if path.endsWith ".avif" then "image/avif"
  else "image/jpeg"

/-- The content type an image is served with. Stores of objects may not know the one it has. -/
def imageContentType (url contentType : String) : Except PreviewError String :=
  if contentType.startsWith "image/" then .ok contentType
  else if contentType = "application/octet-stream" && urlHasImageExtension server url then
    .ok (inferImageContentType server url)
  else .error .unsupportedMediaType

/-- `image_proxy_handler`, where the cache has nothing. Every image is kept. -/
def fetchImage (url : String) (input : FetchInput World) :
    Except PreviewError (CachedImage × Bool) := do
  let content ← fetchContent server url "image/*" imageUserAgent input.world
  let contentType ←
    imageContentType server url (content.contentType.getD "application/octet-stream")
  let bytes ← readBodyCapped maxImageBytes content
  .ok (⟨bytes, contentType⟩, true)

/-- `link_preview_handler` over its cache. -/
def previews :
    CachingProxy String String PreviewResponse PreviewError (FetchInput World) where
  capacity := maxCacheEntries
  ttl := cacheTtl
  toKey := trim server.isWhitespace
  refuse := refuseUrl server
  fetch := fetchPreview server

/-- `image_proxy_handler` over its cache. -/
def images : CachingProxy String String CachedImage PreviewError (FetchInput World) where
  capacity := maxImageCacheEntries
  ttl := imageCacheTtl
  toKey := trim server.isWhitespace
  refuse := refuseUrl server
  fetch := fetchImage server

end Handlers

/-- The labels of the interleavings of one handler's requests. -/
abbrev PreviewLabel (World : Type) :=
  Interleaving.Label String (CachingProxy.StepInput String (FetchInput World))

section Served

theorem public_of_not_refused {url : String} (allowed : refuseUrl server url = none) :
    isPrivateOrReserved server.environment server.package url = false := by
  unfold refuseUrl at allowed
  split at allowed
  · cases allowed
  · split at allowed
    · cases allowed
    · next notReserved => exact eq_false_of_ne_true notReserved

/-- A page that is not kept has no metadata. -/
theorem empty_of_not_kept {url : String} {input : FetchInput World} {preview : PreviewResponse}
    (fetched : fetchPreview server url input = .ok (preview, false)) : preview = .empty := by
  simp only [fetchPreview, bind, Except.bind] at fetched
  split at fetched
  · cases fetched
  · split at fetched
    · split at fetched
      · cases fetched
      · split at fetched <;> cases fetched
    · cases fetched
      rfl

theorem startsWith_inferImageContentType (url : String) :
    (inferImageContentType server url).startsWith "image/" = true := by
  unfold inferImageContentType
  dsimp only
  repeat' split
  all_goals exact String.startsWith_string_iff.mpr (by decide)

/-- Only images are served. -/
theorem startsWith_imageContentType {url contentType served : String}
    (admitted : imageContentType server url contentType = .ok served) :
    served.startsWith "image/" = true := by
  unfold imageContentType at admitted
  split at admitted
  · next image =>
    cases admitted
    exact image
  · split at admitted
    · cases admitted
      exact startsWith_inferImageContentType server url
    · cases admitted

/-- An image that is fetched is kept, small, and of an image type. -/
theorem of_fetchImage {url : String} {input : FetchInput World} {image : CachedImage}
    {kept : Bool} (fetched : fetchImage server url input = .ok (image, kept)) :
    kept = true ∧ image.bytes.length ≤ maxImageBytes ∧
      image.contentType.startsWith "image/" = true := by
  simp only [fetchImage, bind, Except.bind] at fetched
  split at fetched
  · cases fetched
  · split at fetched
    · cases fetched
    · next contentType typed =>
      split at fetched
      · cases fetched
      · next bytes isRead =>
        cases fetched
        exact ⟨rfl, length_readBodyCapped isRead, startsWith_imageContentType server typed⟩

theorem soundShared_previews (labels : List (PreviewLabel World)) :
    (previews server).SoundShared ((previews server).reached labels) :=
  CachingProxy.soundShared_reached (show 0 < maxCacheEntries by decide)
    (show 0 < cacheTtl by decide) labels

theorem soundShared_images (labels : List (PreviewLabel World)) :
    (images server).SoundShared ((images server).reached labels) :=
  CachingProxy.soundShared_reached (show 0 < maxImageCacheEntries by decide)
    (show 0 < imageCacheTtl by decide) labels

/-- However preview requests interleave and whatever their fetches meet, the cache holds at most
2000 pages, and an answer is for a public URL: the metadata that a fetch of this URL gave less
than ten minutes ago, or none at all where a fetch of this URL met something else than a page. -/
theorem previews_justified (labels : List (PreviewLabel World)) :
    ((previews server).reached labels).cache.entries.length ≤ 2000 ∧
      ∀ answer ∈ ((previews server).reached labels).answers, ∀ preview,
        answer.result = .ok preview →
          isPrivateOrReserved server.environment server.package answer.key = false ∧
            ((preview = .empty ∧
                ∃ input, fetchPreview server answer.key input = .ok (.empty, false)) ∨
              ∃ entry ∈ ((previews server).reached labels).stored,
                entry.key = answer.key ∧ entry.value = preview ∧
                  (∃ input, fetchPreview server answer.key input = .ok (preview, true)) ∧
                  entry.fetchedAt ≤ answer.answeredAt ∧
                  answer.answeredAt < entry.fetchedAt + seconds 600) := by
  have sound := soundShared_previews server labels
  refine ⟨sound.bounded, ?_⟩
  intro answer member preview isOk
  have justified := sound.justified answer member
  rw [CachingProxy.Justified, isOk] at justified
  refine ⟨public_of_not_refused server justified.1, ?_⟩
  rcases justified.2 with ⟨input, fetched⟩ | ⟨entry, stored, sameKey, sameValue, past, young⟩
  · left
    have isEmpty := empty_of_not_kept server fetched
    exact ⟨isEmpty, input, isEmpty ▸ fetched⟩
  · right
    rcases (sound.fetched entry stored).2 with ⟨input, fetched⟩
    rw [sameKey, sameValue] at fetched
    refine ⟨entry, stored, sameKey, sameValue, ⟨input, fetched⟩, past, ?_⟩
    have young : answer.answeredAt - entry.fetchedAt < seconds 600 := young
    omega

/-- However image requests interleave and whatever their fetches meet, the cache holds at most
500 images of 5 MiB, and what is answered for a URL is of an image type and what a fetch of this
public URL gave less than five minutes ago. -/
theorem images_justified (labels : List (PreviewLabel World)) :
    ((images server).reached labels).cache.entries.length ≤ 500 ∧
      (((images server).reached labels).cache.entries.map (·.value.bytes.length)).sum ≤
        500 * maxImageBytes ∧
      ∀ answer ∈ ((images server).reached labels).answers, ∀ image,
        answer.result = .ok image →
          isPrivateOrReserved server.environment server.package answer.key = false ∧
            image.contentType.startsWith "image/" = true ∧
            ∃ entry ∈ ((images server).reached labels).stored,
              entry.key = answer.key ∧ entry.value = image ∧
                (∃ input, fetchImage server answer.key input = .ok (image, true)) ∧
                entry.fetchedAt ≤ answer.answeredAt ∧
                answer.answeredAt < entry.fetchedAt + seconds 300 := by
  have sound := soundShared_images server labels
  refine ⟨sound.bounded, ?_, ?_⟩
  · have each : ∀ size ∈ ((images server).reached labels).cache.entries.map
        (·.value.bytes.length), size ≤ maxImageBytes := by
      intro size member
      rcases List.mem_map.mp member with ⟨entry, cached, rfl⟩
      rcases (sound.fetched entry (sound.cached entry cached)).2 with ⟨input, fetched⟩
      exact (of_fetchImage server fetched).2.1
    have total := List.sum_le_card_nsmul _ _ each
    rw [List.length_map, smul_eq_mul] at total
    exact total.trans (Nat.mul_le_mul_right _ sound.bounded)
  · intro answer member image isOk
    have justified := sound.justified answer member
    rw [CachingProxy.Justified, isOk] at justified
    rcases justified.2 with ⟨input, fetched⟩ | ⟨entry, stored, sameKey, sameValue, past, young⟩
    · have kept := (of_fetchImage server fetched).1
      cases kept
    · rcases (sound.fetched entry stored).2 with ⟨input, fetched⟩
      rw [sameKey, sameValue] at fetched
      refine ⟨public_of_not_refused server justified.1, (of_fetchImage server fetched).2.2,
        entry, stored, sameKey, sameValue, ⟨input, fetched⟩, past, ?_⟩
      have young : answer.answeredAt - entry.fetchedAt < seconds 300 := young
      omega

/-- A page that was stored last for its URL answers the next request for it at once, for ten
minutes, unless at least 1800 pages of other URLs were stored at its time or later. -/
theorem preview_retained (labels : List (PreviewLabel World))
    (entry : CacheEntry String PreviewResponse)
    (latest : CachingProxy.Latest ((previews server).reached labels).stored entry)
    (few : (CachingProxy.noOlder ((previews server).reached labels).stored entry).length < 1800)
    (id : Nat) (input : CachingProxy.StepInput String (FetchInput World))
    (forward : ((previews server).reached labels).clock ≤ input.now)
    (young : input.now < entry.fetchedAt + seconds 600) :
    (previews server).act id (.arrived entry.key) input ((previews server).reached labels) =
      some (((previews server).reached labels).answer id input.now entry.key (.ok entry.value),
        none) := by
  have recent : input.now - entry.fetchedAt < (previews server).ttl := by
    have ttl : 0 < seconds 600 := by decide
    show input.now - entry.fetchedAt < seconds 600
    omega
  have left : (previews server).kept = 1800 :=
    show maxCacheEntries - AgedCache.toRemove maxCacheEntries = 1800 by decide
  exact (soundShared_previews server labels).act_arrived latest (left ▸ few) forward recent

/-- A server that meets one empty page at a public address. -/
def onePageServer : PreviewServer Unit where
  environment := Environment.sample fun _ => []
  isWhitespace := Char.isWhitespace
  package :=
    { parse := fun text => some ⟨"http", some (.ipv4 0x08080808), none, text, by simp⟩
      join := fun _ _ => none
      ipv6Text := fun _ => "" }
  path := fun _ => "/"
  select := fun _ _ => none
  network :=
    { lookupHost := fun _ world => (none, world)
      clientLookup := fun _ world => (none, world)
      builds := fun _ _ => true
      answer := fun _ world => (some ⟨200, none⟩, world) }
  content := fun _ => ⟨some "text/html", none, []⟩

def onePageRun : List (PreviewLabel Unit) :=
  [.start 0 "http://8.8.8.8", .advance 0 ⟨1, [], (), true⟩, .advance 0 ⟨2, [], (), true⟩,
    .advance 0 ⟨3, [], (), true⟩]

theorem preview_retained_onePage :
    (previews onePageServer).act 1 (.arrived "http://8.8.8.8") ⟨seconds 600, [], (), true⟩
        ((previews onePageServer).reached onePageRun) =
      some (((previews onePageServer).reached onePageRun).answer 1 (seconds 600)
        "http://8.8.8.8" (.ok .empty), none) := by
  have stored : ((previews onePageServer).reached onePageRun).stored =
      [⟨"http://8.8.8.8", .empty, 3⟩] := by
    decide
  have clock : ((previews onePageServer).reached onePageRun).clock = 3 := by
    decide
  refine preview_retained onePageServer onePageRun ⟨"http://8.8.8.8", .empty, 3⟩ ?_ ?_ 1
    ⟨seconds 600, [], (), true⟩ ?_ (by decide)
  · exact ⟨[], [], stored, by simp⟩
  · rw [stored]
    decide
  · rw [clock]
    decide

end Served

end Annex.Server
