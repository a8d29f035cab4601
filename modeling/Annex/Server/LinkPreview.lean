import Annex.Environment
import Annex.Server.IpAddr

namespace Annex.Server

/-! Fetching the pages of link previews. Redirects are followed by hand, and the address of each
hop is looked up, validated and pinned. -/

inductive Host where
  | ipv4 (bits : BitVec 32)
  | ipv6 (bits : BitVec 128)
  | domain (domain : String)
deriving DecidableEq, Repr

/-- What is read of a URL. Its domain under http and https has no colon and does not end in a
number, or it would be an address or no host at all. -/
structure Url where
  scheme : String
  host : Option Host
  port : Option Nat
  text : String
  named : scheme = "http" ∨ scheme = "https" → ∀ domain, host = some (.domain domain) →
    ':' ∉ domain.toList ∧ ¬ EndsInNumber domain

/-- The package for URLs. -/
structure UrlPackage where
  parse : String → Option Url
  join : Url → String → Option Url
  ipv6Text : BitVec 128 → String

structure SocketAddr where
  ip : IpAddr
  port : Nat
deriving DecidableEq, Repr

/-- The status codes a fetch fails with. -/
inductive FetchError where
  | badRequest
  | forbidden
  | internalServerError
  | badGateway
deriving DecidableEq, Repr

/-- A client that does not follow redirects, with the address it has for a host. -/
structure HttpClient where
  pin : Option (String × SocketAddr)
  userAgent : String

structure PageResponse where
  status : Nat
  location : Option String
deriving DecidableEq, Repr

structure Connection where
  scheme : String
  address : IpAddr
deriving DecidableEq, Repr

/-- A request, and the connection it was made over, if there was one. -/
structure SentRequest where
  url : String
  accept : String
  userAgent : String
  connection : Option Connection
deriving DecidableEq, Repr

/-- The other side of a fetch: the answers of the DNS, to the program and to a client that looks
a host up by itself, whether a client can be built, and the answers of the servers. -/
structure Network (World : Type) where
  lookupHost : String → World → Option (List SocketAddr) × World
  clientLookup : String → World → Option IpAddr × World
  builds : HttpClient → World → Bool
  answer : SentRequest → World → Option PageResponse × World

/-- The other side as a fetch goes on, and the requests it has made. -/
structure Journey (World : Type) where
  world : World
  requests : List SentRequest

def maxRedirectHops : Nat := 5

def isHttp (scheme : String) : Bool := scheme = "http" || scheme = "https"

section Urls

variable (environment : Environment) (package : UrlPackage)

/-- The URL cannot be read, or its host is private or reserved. -/
def isPrivateOrReserved (url : String) : Bool :=
  match package.parse url with
  | none => true
  | some parsed =>
      if isHttp parsed.scheme then
        match parsed.host with
        | some (.ipv4 bits) => isPrivateIp (.v4 bits)
        | some (.ipv6 bits) => isPrivateIp (.v6 bits)
        | some (.domain domain) =>
            let lower := environment.toLowercase domain
            lower = "localhost" || lower.endsWith ".local" || lower.endsWith ".internal" ||
              lower = "metadata.google.internal" || lower.startsWith "169.254."
        | none => true
      else true

/-- `host_str`: an IPv6 address stands in brackets. -/
def Host.text : Host → String
  | .ipv4 bits =>
      toString (octet bits 0) ++ "." ++ toString (octet bits 1) ++ "." ++
        toString (octet bits 2) ++ "." ++ toString (octet bits 3)
  | .ipv6 bits => "[" ++ package.ipv6Text bits ++ "]"
  | .domain name => name

/-- `port_or_known_default`. -/
def Url.portOrKnownDefault (url : Url) : Option Nat :=
  match url.port with
  | some port => some port
  | none =>
      match url.scheme with
      | "http" | "ws" => some 80
      | "https" | "wss" => some 443
      | "ftp" => some 21
      | _ => none

end Urls

section Fetching

variable {World : Type} (network : Network World) (environment : Environment)
  (package : UrlPackage)

/-- The first address of a host, if it has any and all are public. -/
def resolveAndValidate (host : String) (port : Nat) (world : World) :
    Option SocketAddr × World :=
  match network.lookupHost (host ++ ":" ++ toString port) world with
  | (none, world) => (none, world)
  | (some addrs, world) =>
      if addrs.any (isPrivateIp ·.ip) then (none, world) else (addrs.head?, world)

def buildPinnedHttpClient (host : String) (pinnedAddr : SocketAddr) (userAgent : String) :
    HttpClient :=
  { pin := some (host, pinnedAddr), userAgent }

/-- Where the builder fails, building its default fails as well. -/
def buildHttpClient (userAgent : String) : HttpClient := { pin := none, userAgent }

/-- Where a client connects to: to the address the URL has, to the pinned one, or to one it
looks up by itself. -/
def HttpClient.connect (client : HttpClient) (url : Url) (world : World) :
    Option IpAddr × World :=
  match url.host with
  | none => (none, world)
  | some (.ipv4 bits) => (some (.v4 bits), world)
  | some (.ipv6 bits) => (some (.v6 bits), world)
  | some (.domain domain) =>
      match client.pin with
      | none => network.clientLookup domain world
      | some (host, pinnedAddr) =>
          if host = domain then (some pinnedAddr.ip, world)
          else network.clientLookup domain world

/-- `client.get(url).header(ACCEPT, accept).send()`. -/
def HttpClient.get (client : HttpClient) (url accept : String) (journey : Journey World) :
    Option PageResponse × Journey World :=
  match package.parse url with
  | none => (none, journey)
  | some parsed =>
      match client.connect network parsed journey.world with
      | (none, world) =>
          (none, ⟨world, journey.requests ++ [⟨url, accept, client.userAgent, none⟩]⟩)
      | (some address, world) =>
          let request := ⟨url, accept, client.userAgent, some ⟨parsed.scheme, address⟩⟩
          let (response, world) := network.answer request world
          (response, ⟨world, journey.requests ++ [request]⟩)

/-- The client of a hop. -/
def hopClient (parsed : Url) (host : Host) (userAgent : String) (world : World) :
    Except FetchError HttpClient × World :=
  let hostStr := host.text package
  let port := parsed.portOrKnownDefault.getD 443
  if (parseIpAddr hostStr).isSome then
    (.ok (buildHttpClient userAgent), world)
  else
    match resolveAndValidate network hostStr port world with
    | (none, world) => (.error .forbidden, world)
    | (some pinnedAddr, world) =>
        let client := buildPinnedHttpClient hostStr pinnedAddr userAgent
        if network.builds client world then (.ok client, world)
        else (.error .internalServerError, world)

/-- What the response of a hop leads to: the URL of the next one, or an end. -/
def followRedirect (parsed : Url) (response : PageResponse) :
    Except FetchError (Url ⊕ PageResponse) :=
  if 300 ≤ response.status ∧ response.status < 400 then
    match response.location with
    | none => .error .badGateway
    | some location =>
        -- Relative redirect URLs are resolved against the current URL.
        match package.join parsed location with
        | none => .error .badGateway
        | some nextUrl =>
            if isHttp nextUrl.scheme then .ok (.inl nextUrl) else .error .forbidden
  else .ok (.inr response)

/-- One hop: the request for a URL, and what its response leads to. -/
def fetchHop (currentUrl accept userAgent : String) (journey : Journey World) :
    Except FetchError (Url ⊕ PageResponse) × Journey World :=
  if isPrivateOrReserved environment package currentUrl then (.error .forbidden, journey)
  else
    match package.parse currentUrl with
    | none => (.error .badRequest, journey)
    | some parsed =>
        match parsed.host with
        | none => (.error .badRequest, journey)
        | some host =>
            match hopClient network package parsed host userAgent journey.world with
            | (.error error, world) => (.error error, { journey with world })
            | (.ok client, world) =>
                match client.get network package currentUrl accept { journey with world } with
                | (none, journey) => (.error .badGateway, journey)
                | (some response, journey) => (followRedirect package parsed response, journey)

/-- The loop over the hops. -/
def fetchHops (accept userAgent : String) :
    List Nat → String → Journey World → Except FetchError PageResponse × Journey World
  | [], _, journey => (.error .badGateway, journey)
  | hop :: hops, currentUrl, journey =>
      if hop = maxRedirectHops then (.error .badGateway, journey)
      else
        match fetchHop network environment package currentUrl accept userAgent journey with
        | (.error error, journey) => (.error error, journey)
        | (.ok (.inl nextUrl), journey) => fetchHops accept userAgent hops nextUrl.text journey
        | (.ok (.inr response), journey) => (.ok response, journey)

/-- An HTTP GET that follows redirects by hand. -/
def fetchWithRedirectValidation (initialUrl accept userAgent : String)
    (journey : Journey World) : Except FetchError PageResponse × Journey World :=
  fetchHops network environment package accept userAgent (List.range (maxRedirectHops + 1))
    initialUrl journey

end Fetching

end Annex.Server
