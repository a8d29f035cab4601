import Annex.Server.LinkPreview

namespace Annex.Server

/-! A fetch connects to public addresses only, over http or https, and makes few requests. -/

/-- A connection to a public address, over http or https. -/
def Connection.Public (connection : Connection) : Prop :=
  isHttp connection.scheme = true ∧ isPrivateIp connection.address = false

def SentRequest.Safe (request : SentRequest) : Prop :=
  ∀ connection, request.connection = some connection → connection.Public

/-- One part of a journey makes so many requests at most, and safe ones. -/
def MakesSafe {World : Type} (count : Nat) (before after : Journey World) : Prop :=
  ∃ sent, after.requests = before.requests ++ sent ∧ sent.length ≤ count ∧
    ∀ request ∈ sent, request.Safe

section Parts

variable {World : Type} {first second third : Journey World} {count later : Nat}

theorem makesSafe_of_same (same : second.requests = first.requests) :
    MakesSafe count first second := by
  refine ⟨[], ?_, Nat.zero_le count, ?_⟩
  · rw [same, List.append_nil]
  · intro request member
    cases member

theorem makesSafe_one {request : SentRequest} (safe : request.Safe)
    (sent : second.requests = first.requests ++ [request]) : MakesSafe 1 first second := by
  refine ⟨[request], sent, Nat.le_refl 1, ?_⟩
  intro other member
  rw [List.mem_singleton.mp member]
  exact safe

theorem makesSafe_trans (front : MakesSafe count first second)
    (back : MakesSafe later second third) : MakesSafe (count + later) first third := by
  rcases front with ⟨sent, requests, few, safe⟩
  rcases back with ⟨sentLater, requestsLater, fewLater, safeLater⟩
  refine ⟨sent ++ sentLater, ?_, ?_, ?_⟩
  · rw [requestsLater, requests, List.append_assoc]
  · rw [List.length_append]
    exact Nat.add_le_add few fewLater
  · intro request member
    rcases List.mem_append.mp member with early | late
    · exact safe request early
    · exact safeLater request late

theorem makesSafe_mono (front : MakesSafe count first second) (fewer : count ≤ later) :
    MakesSafe later first second := by
  rcases front with ⟨sent, requests, few, safe⟩
  exact ⟨sent, requests, Nat.le_trans few fewer, safe⟩

end Parts

section Hops

variable {World : Type} {network : Network World} {environment : Environment}
  {package : UrlPackage} {url accept userAgent : String} {journey : Journey World}
  {parsed : Url} {host : Host} {client : HttpClient} {world after : World}

/-- What is known of a URL that is not private or reserved: its scheme, and that the address
in it, if it has one, is public. -/
structure Admitted (parsed : Url) (host : Host) : Prop where
  scheme : isHttp parsed.scheme = true
  hosted : parsed.host = some host
  ipv4 : ∀ bits, host = .ipv4 bits → isPrivateIp (.v4 bits) = false
  ipv6 : ∀ bits, host = .ipv6 bits → isPrivateIp (.v6 bits) = false

theorem admitted_of_public (isPublic : isPrivateOrReserved environment package url = false)
    (isParsed : package.parse url = some parsed) (isHost : parsed.host = some host) :
    Admitted parsed host := by
  unfold isPrivateOrReserved at isPublic
  rw [isParsed] at isPublic
  dsimp only at isPublic
  cases scheme : isHttp parsed.scheme with
  | false =>
      rw [scheme, if_neg Bool.false_ne_true] at isPublic
      cases isPublic
  | true =>
      rw [scheme, if_pos rfl, isHost] at isPublic
      refine ⟨scheme, isHost, ?_, ?_⟩
      · intro bits same
        rw [same] at isPublic
        exact isPublic
      · intro bits same
        rw [same] at isPublic
        exact isPublic

/-- An address that is handed out has been found public. -/
theorem public_of_resolveAndValidate {hostStr : String} {port : Nat} {address : SocketAddr}
    (resolved : resolveAndValidate network hostStr port world = (some address, after)) :
    isPrivateIp address.ip = false := by
  unfold resolveAndValidate at resolved
  split at resolved
  · cases resolved
  · next addrs _ _ =>
    split at resolved
    · cases resolved
    · next clean =>
      have isHead : addrs.head? = some address := congrArg Prod.fst resolved
      have member : address ∈ addrs := List.mem_of_head? isHead
      by_contra isPrivate
      apply clean
      rw [List.any_eq_true]
      exact ⟨address, member, Bool.not_eq_false _ ▸ isPrivate⟩

/-- A domain is no text of an address, so that the client of its hop is pinned. -/
theorem pinned_of_hopClient {name : String} (admitted : Admitted parsed (.domain name))
    (built : hopClient network package parsed (.domain name) userAgent world =
      (.ok client, after)) :
    ∃ address : SocketAddr, client.pin = some (name, address) ∧
      isPrivateIp address.ip = false := by
  have isWeb : parsed.scheme = "http" ∨ parsed.scheme = "https" := by
    simpa [isHttp] using admitted.scheme
  have named := parsed.named isWeb name admitted.hosted
  have noAddress : parseIpAddr name = none := by
    cases parsedName : parseIpAddr name with
    | none => rfl
    | some address =>
        rcases parseIpAddr_eq_some parsedName with colon | number
        · exact absurd colon named.1
        · exact absurd number named.2
  unfold hopClient at built
  dsimp only [Host.text] at built
  rw [noAddress, if_neg (by decide)] at built
  split at built
  · cases built
  · next address _ resolved =>
    split at built
    · cases built
      exact ⟨address, rfl, public_of_resolveAndValidate resolved⟩
    · cases built

/-- Every client connects to a public address. -/
theorem public_of_connect {address : IpAddr} (admitted : Admitted parsed host)
    (built : hopClient network package parsed host userAgent world = (.ok client, after))
    {connected : World}
    (connects : client.connect network parsed after = (some address, connected)) :
    isPrivateIp address = false := by
  unfold HttpClient.connect at connects
  rw [admitted.hosted] at connects
  cases host with
  | ipv4 bits =>
      cases connects
      exact admitted.ipv4 bits rfl
  | ipv6 bits =>
      cases connects
      exact admitted.ipv6 bits rfl
  | domain name =>
      rcases pinned_of_hopClient admitted built with ⟨pinnedAddr, pin, isPublic⟩
      rw [pin] at connects
      dsimp only at connects
      rw [if_pos rfl] at connects
      cases connects
      exact isPublic

theorem makesSafe_get (isParsed : package.parse url = some parsed)
    (scheme : isHttp parsed.scheme = true)
    (connects : ∀ address connected,
      client.connect network parsed journey.world = (some address, connected) →
        isPrivateIp address = false) :
    MakesSafe 1 journey (client.get network package url accept journey).2 := by
  unfold HttpClient.get
  rw [isParsed]
  dsimp only
  split
  · apply makesSafe_one _ rfl
    intro connection none
    cases none
  · next address connected found =>
    apply makesSafe_one _ rfl
    intro connection same
    cases same
    exact ⟨scheme, connects address connected found⟩

/-- A hop makes one request at most. -/
theorem makesSafe_fetchHop :
    MakesSafe 1 journey
      (fetchHop network environment package url accept userAgent journey).2 := by
  unfold fetchHop
  cases isPublic : isPrivateOrReserved environment package url with
  | true => exact makesSafe_of_same rfl
  | false =>
      rw [if_neg Bool.false_ne_true]
      cases isParsed : package.parse url with
      | none => exact makesSafe_of_same rfl
      | some parsed =>
          cases isHost : parsed.host with
          | none =>
              dsimp only
              rw [isHost]
              exact makesSafe_of_same rfl
          | some host =>
              have admitted := admitted_of_public isPublic isParsed isHost
              dsimp only
              rw [isHost]
              dsimp only
              cases built : hopClient network package parsed host userAgent journey.world with
              | mk result after =>
                  cases result with
                  | error error => exact makesSafe_of_same rfl
                  | ok client =>
                      have safe : MakesSafe 1 { journey with world := after } (client.get network
                          package url accept { journey with world := after }).2 :=
                        makesSafe_get isParsed admitted.scheme fun address connected =>
                          public_of_connect admitted built
                      dsimp only
                      split
                      · next journeyAfter sent =>
                        rw [sent] at safe
                        exact safe
                      · next response journeyAfter sent =>
                        rw [sent] at safe
                        exact safe

/-- The hops that are left bound the requests. -/
theorem makesSafe_fetchHops (hops : List Nat) :
    MakesSafe (hops.filter (· ≠ maxRedirectHops)).length journey
      (fetchHops network environment package accept userAgent hops url journey).2 := by
  induction hops generalizing url journey with
  | nil => exact makesSafe_of_same rfl
  | cons hop hops induction =>
      rw [fetchHops]
      by_cases last : hop = maxRedirectHops
      · rw [if_pos last]
        exact makesSafe_of_same rfl
      · have one : MakesSafe 1 journey
            (fetchHop network environment package url accept userAgent journey).2 :=
          makesSafe_fetchHop
        have count : ((hop :: hops).filter (· ≠ maxRedirectHops)).length =
            1 + (hops.filter (· ≠ maxRedirectHops)).length := by
          have kept : decide (hop ≠ maxRedirectHops) = true := decide_eq_true last
          rw [List.filter_cons, if_pos kept, List.length_cons, Nat.add_comm]
        rw [if_neg last, count]
        split
        · next hopped =>
          rw [hopped] at one
          exact makesSafe_mono one (Nat.le_add_right _ _)
        · next hopped =>
          rw [hopped] at one
          exact makesSafe_trans one induction
        · next hopped =>
          rw [hopped] at one
          exact makesSafe_mono one (Nat.le_add_right _ _)

end Hops

/-- Whatever the DNS and the servers answer, a fetch ends after at most five requests, and each
connection goes to a public address over http or https. -/
theorem fetch_staysPublic {World : Type} (network : Network World) (environment : Environment)
    (package : UrlPackage) (initialUrl accept userAgent : String) (world : World) :
    (fetchWithRedirectValidation network environment package initialUrl accept userAgent
        ⟨world, []⟩).2.requests.length ≤ maxRedirectHops ∧
      ∀ request ∈ (fetchWithRedirectValidation network environment package initialUrl accept
          userAgent ⟨world, []⟩).2.requests, request.Safe := by
  have all : MakesSafe ((List.range (maxRedirectHops + 1)).filter (· ≠ maxRedirectHops)).length
      ⟨world, []⟩ (fetchHops network environment package accept userAgent
        (List.range (maxRedirectHops + 1)) initialUrl ⟨world, []⟩).2 :=
    makesSafe_fetchHops _
  rcases all with ⟨sent, requests, few, safe⟩
  have counted : ((List.range (maxRedirectHops + 1)).filter (· ≠ maxRedirectHops)).length =
      maxRedirectHops := by
    decide
  rw [counted] at few
  unfold fetchWithRedirectValidation
  rw [requests, List.nil_append]
  exact ⟨few, safe⟩

end Annex.Server
