import Mathlib.Data.List.TakeWhile
import Annex.Foundation.Interleaving
import Annex.Identity.Platform
import Annex.Server.EventHandlers
import Annex.Server.RateLimiter

namespace Annex.Server

open Db Identity

/-! What a request passes before its handler: the detection of the public URL, the rate limiter
and, on most routes, the authentication. -/

section Detection

/-- A header that is there, with its text if it can be read as one. -/
abbrev HeaderValue := Option String

/-- Where a request goes: a handler that is open to all, one of an authenticated identity, or
`PUT /api/admin/public-url` with its body. -/
inductive Route where
  | open
  | authenticated
  | setPublicUrl (publicUrl : String)
deriving DecidableEq, Repr

structure HttpRequest where
  peer : Option IpAddr
  path : String
  headers : String → Option HeaderValue
  route : Route

def HttpRequest.header (request : HttpRequest) (name : String) : Option String :=
  (request.headers name).join

def isLoopbackV4 (bits : BitVec 32) : Bool := octet bits 0 = 127

def isPrivateV4 (bits : BitVec 32) : Bool :=
  octet bits 0 = 10 || (octet bits 0 = 172 && 16 ≤ octet bits 1 && octet bits 1 ≤ 31) ||
    (octet bits 0 = 192 && octet bits 1 = 168)

def isLinkLocalV4 (bits : BitVec 32) : Bool := octet bits 0 = 169 && octet bits 1 = 254

/-- Unique local and link-local addresses. -/
def isLocalV6 (bits : BitVec 128) : Bool :=
  firstSegment bits &&& 0xFE00 = 0xFC00 || firstSegment bits &&& 0xFFC0 = 0xFE80

/-- A peer whose forwarded headers are believed. -/
def isTrustedPeer : IpAddr → Bool
  | .v4 bits => isLoopbackV4 bits || isPrivateV4 bits || isLinkLocalV4 bits
  | .v6 bits => bits = 1 || isLocalV6 bits

def isInternalAddress : IpAddr → Bool
  | .v4 bits => isLoopbackV4 bits || isPrivateV4 bits || isLinkLocalV4 bits || bits = 0
  | .v6 bits => bits = 1 || bits = 0 || isLocalV6 bits

/-- The host without its port: what stands before the first colon. -/
def hostNameOf (host : String) : String :=
  String.ofList (host.toList.takeWhile (· ≠ ':'))

/-- A host name without brackets around it. -/
def bareName (hostName : String) : String :=
  String.ofList ((hostName.toList.dropWhile (· = '[')).reverse.dropWhile (· = ']')).reverse

def isInternalHost (hostName : String) : Bool :=
  hostName ∈ ["localhost", "127.0.0.1", "[::1]", "0.0.0.0"] ||
    decide (".local".toList <:+ hostName.toList) ||
    decide (".internal".toList <:+ hostName.toList) ||
    (parseIpAddr (bareName hostName)).any isInternalAddress

/-- A dot or an address, so that no single word is taken. -/
def looksPlausible (hostName : String) : Bool :=
  hostName.toList.contains '.' || (parseIpAddr (bareName hostName)).isSome

/-- The public URL that a request speaks of, if it is to be believed. -/
def detectPublicUrl (request : HttpRequest) : Option String :=
  if request.peer.any isTrustedPeer then
    let proto := (request.header "x-forwarded-proto").getD "http"
    match ((request.headers "x-forwarded-host").or (request.headers "host")).join with
    | none => none
    | some host =>
        if !isInternalHost (hostNameOf host) && looksPlausible (hostNameOf host) then
          some (proto ++ "://" ++ host)
        else none
  else none

/-- `trim_end_matches('/')`. -/
def withoutSlashes (text : String) : String :=
  String.ofList (text.toList.reverse.dropWhile (· = '/')).reverse

/-- The body of `PUT /api/admin/public-url`, without white space around it and slashes behind. -/
def normalizePublicUrl (isWhitespace : Char → Bool) (publicUrl : String) :
    Except ApiError String :=
  let url := withoutSlashes (trim isWhitespace publicUrl)
  if url ≠ "" && !url.startsWith "http://" && !url.startsWith "https://" then
    .error (.badRequest "public_url must start with http:// or https://")
  else .ok url

end Detection

section Pipeline

structure RateLimits where
  registrationLimit : Nat
  verificationLimit : Nat
  defaultLimit : Nat
deriving DecidableEq, Repr

/-- The category of a path, with its limit. -/
def classify (limits : RateLimits) (path : String) : RateLimitCategory × Nat :=
  if path = "/api/registry/register" then (.registration, limits.registrationLimit)
  else if path = "/api/zk/verify-membership" then (.verification, limits.verificationLimit)
  else (.default, limits.defaultLimit)

/-- The pseudonym a request authenticates with. -/
def claimedPseudonym (request : HttpRequest) : Option String :=
  match request.headers "x-annex-pseudonym" with
  | some value => value
  | none =>
      match request.headers "authorization" with
      | some (some value) =>
          if value.startsWith "Bearer " then
            some (String.ofList (value.toList.drop "Bearer ".toList.length))
          else none
      | _ => none

/-- What the pipeline is set up with. -/
structure Pipeline where
  serverId : Nat
  isWhitespace : Char → Bool
  estimate : RateEstimate
  configuredUrl : String

/-- Where a request is: before the look at the public URL, before the URL it speaks of is written,
before the rate limiter, before the authentication, or at its handler. -/
inductive PipelineCall where
  | arrived (request : HttpRequest)
  | detecting (request : HttpRequest) (detected : String)
  | limiting (request : HttpRequest)
  | authenticating (request : HttpRequest)
  | handling (request : HttpRequest) (identity : Option PlatformIdentity)

/-- What a step meets: the time, the limits of the policy, whether the database fails, and what
another handler does to the database. -/
structure PipelineInput where
  now : Nat
  limits : RateLimits
  fails : Bool
  change : Database → Database

inductive PipelineAnswer where
  | tooManyRequests
  | unauthorized
  | internalServerError
  | refused (error : ApiError)
  | handled
deriving DecidableEq, Repr

/-- A request that came to its handler. -/
structure Handled where
  request : HttpRequest
  identity : Option PlatformIdentity

/-- Where the public URL is from. -/
inductive UrlOrigin where
  | configured
  | detected (request : HttpRequest)
  | admin (identity : PlatformIdentity) (publicUrl : String)

/-- The public URL, the rate limiter and the database, with the origin of the URL, how often it
was set, all databases so far, the requests that were handled, and the answers. -/
structure PipelineState where
  publicUrl : String
  limiter : RateLimiter
  database : Database
  origin : UrlOrigin
  sets : Nat
  history : List Database
  handled : List Handled
  answers : List (Nat × PipelineAnswer)

namespace PipelineState

def initial (pipeline : Pipeline) (database : Database) : PipelineState where
  publicUrl := pipeline.configuredUrl
  limiter := .new
  database := database
  origin := .configured
  sets := 0
  history := [database]
  handled := []
  answers := []

/-- The call ends with an answer. -/
def answer (state : PipelineState) (id : Nat) (result : PipelineAnswer) :
    PipelineState × Option PipelineCall :=
  ({ state with answers := state.answers ++ [(id, result)] }, none)

/-- The handler of a request is run. -/
def enter (state : PipelineState) (request : HttpRequest) (identity : Option PlatformIdentity) :
    PipelineState :=
  { state with handled := state.handled ++ [⟨request, identity⟩] }

end PipelineState

variable (pipeline : Pipeline)

/-- The handler of `PUT /api/admin/public-url`. -/
def setPublicUrlHandler (id : Nat) (identity : PlatformIdentity) (publicUrl : String)
    (state : PipelineState) : PipelineState × Option PipelineCall :=
  if identity.canModerate then
    match normalizePublicUrl pipeline.isWhitespace publicUrl with
    | .error error => state.answer id (.refused error)
    | .ok url =>
        { state with
          publicUrl := url
          origin := .admin identity publicUrl
          sets := state.sets + 1 }.answer id .handled
  else state.answer id (.refused (.forbidden "insufficient permissions"))

/-- One step of a request. The rate limiter stands in front of the authentication, so that its
keys are addresses. -/
def pipelineStep (id : Nat) (call : PipelineCall) (input : PipelineInput)
    (state : PipelineState) : PipelineState × Option PipelineCall :=
  match call with
  | .arrived request =>
      match if state.publicUrl = "" then detectPublicUrl request else none with
      | some detected => (state, some (.detecting request detected))
      | none => (state, some (.limiting request))
  | .detecting request detected =>
      (if state.publicUrl = "" then
          { state with publicUrl := detected, origin := .detected request }
        else state,
        some (.limiting request))
  | .limiting request =>
      match request.peer with
      | none => state.answer id .internalServerError
      | some address =>
          let (category, limit) := classify input.limits request.path
          let (allowed, limiter) :=
            state.limiter.check pipeline.estimate input.now (.ip address category) limit
          if allowed then
            ({ state with limiter },
              some (if request.route = .open then .handling request none
                else .authenticating request))
          else { state with limiter }.answer id .tooManyRequests
  | .authenticating request =>
      match claimedPseudonym request with
      | none => state.answer id .unauthorized
      | some pseudonym =>
          if input.fails then state.answer id .internalServerError
          else
            match state.database.platformIdentities.rows.find?
                (hasPseudonym pipeline.serverId pseudonym) with
            | none => state.answer id .unauthorized
            | some identity =>
                if identity.active then (state, some (.handling request (some identity)))
                else state.answer id .unauthorized
  | .handling request identity =>
      let state := state.enter request identity
      match request.route, identity with
      | .setPublicUrl publicUrl, some identity =>
          setPublicUrlHandler pipeline id identity publicUrl state
      | _, _ =>
          { state with
            database := input.change state.database
            history := state.history ++ [input.change state.database] }.answer id .handled

def pipelineProgram :
    Interleaving.Program PipelineState PipelineCall HttpRequest PipelineInput where
  enter _ request := .arrived request
  act id call input state := some (pipelineStep pipeline id call input state)

abbrev PipelineLabel := Interleaving.Label HttpRequest PipelineInput

/-- What the process holds after a run. -/
def piped (database : Database) (labels : List PipelineLabel) : PipelineState :=
  (Execution.run (Interleaving.step (pipelineProgram pipeline))
    (Interleaving.idle (.initial pipeline database)) labels).shared

end Pipeline

section Hosts

end Hosts

section Soundness

variable {pipeline : Pipeline} {state : PipelineState}

/-- The identity is one that was active in the database at some time. -/
structure WasActive (pipeline : Pipeline) (history : List Database) (pseudonymId : String)
    (identity : PlatformIdentity) : Prop where
  active : identity.active = true
  named : identity.pseudonymId = pseudonymId
  server : identity.serverId = pipeline.serverId
  stored : ∃ database ∈ history, identity ∈ database.platformIdentities.rows

/-- A request that is not open to all has an identity that was active under the pseudonym it
claims. -/
def Entitled (pipeline : Pipeline) (history : List Database) (request : HttpRequest)
    (identity : Option PlatformIdentity) : Prop :=
  request.route ≠ .open → ∃ who pseudonymId, identity = some who ∧
    claimedPseudonym request = some pseudonymId ∧ WasActive pipeline history pseudonymId who

/-- What is known of the public URL by its origin. -/
def FromOrigin (pipeline : Pipeline) (state : PipelineState) : Prop :=
  match state.origin with
  | .configured => state.publicUrl = pipeline.configuredUrl
  | .detected request => detectPublicUrl request = some state.publicUrl
  | .admin identity publicUrl =>
      identity.canModerate = true ∧
        (∃ pseudonymId, WasActive pipeline state.history pseudonymId identity) ∧
          normalizePublicUrl pipeline.isWhitespace publicUrl = .ok state.publicUrl

structure PipelineSound (pipeline : Pipeline) (state : PipelineState) : Prop where
  current : state.database ∈ state.history
  origin : FromOrigin pipeline state
  handled : ∀ entry ∈ state.handled, Entitled pipeline state.history entry.request entry.identity

/-- What a request has in hand. -/
def CallSound (pipeline : Pipeline) (state : PipelineState) : PipelineCall → Prop
  | .detecting request detected => detectPublicUrl request = some detected
  | .handling request identity => Entitled pipeline state.history request identity
  | _ => True

/-- A later state: what was stored at some time still was. -/
def Continues (state later : PipelineState) : Prop := ∃ more, later.history = state.history ++ more

theorem WasActive.later {pseudonymId : String} {identity : PlatformIdentity}
    (was : WasActive pipeline state.history pseudonymId identity) {later : PipelineState}
    (continues : Continues state later) :
    WasActive pipeline later.history pseudonymId identity := by
  rcases continues with ⟨more, history⟩
  rcases was.stored with ⟨database, past, member⟩
  exact { was with stored := ⟨database, history ▸ List.mem_append_left _ past, member⟩ }

theorem Entitled.later {request : HttpRequest} {identity : Option PlatformIdentity}
    (entitled : Entitled pipeline state.history request identity) {later : PipelineState}
    (continues : Continues state later) :
    Entitled pipeline later.history request identity := by
  intro closed
  rcases entitled closed with ⟨who, pseudonymId, isWho, claimed, was⟩
  exact ⟨who, pseudonymId, isWho, claimed, was.later continues⟩

theorem CallSound.later {call : PipelineCall} (sound : CallSound pipeline state call)
    {later : PipelineState} (continues : Continues state later) :
    CallSound pipeline later call := by
  cases call with
  | handling request identity => exact Entitled.later sound continues
  | _ => exact sound

theorem continues_self : Continues state state := ⟨[], (List.append_nil _).symm⟩

/-- A state with the same URL, the same database and the same requests handled is as sound. -/
theorem PipelineSound.congr (sound : PipelineSound pipeline state) {later : PipelineState}
    (publicUrl : later.publicUrl = state.publicUrl) (origin : later.origin = state.origin)
    (database : later.database = state.database) (history : later.history = state.history)
    (handled : later.handled = state.handled) : PipelineSound pipeline later := by
  have continues : Continues state later := ⟨[], by rw [history, List.append_nil]⟩
  refine ⟨?_, ?_, ?_⟩
  · rw [database, history]
    exact sound.current
  · have known := sound.origin
    unfold FromOrigin at known ⊢
    rw [origin, publicUrl]
    split at known
    · exact known
    · exact known
    · exact ⟨known.1, known.2.1.imp fun _ was => was.later continues, known.2.2⟩
  · intro entry member
    exact (sound.handled entry (handled ▸ member)).later continues

/-- What a step leaves and how the call goes on. -/
def StepSound (pipeline : Pipeline) (state : PipelineState)
    (result : PipelineState × Option PipelineCall) : Prop :=
  PipelineSound pipeline result.1 ∧
    (∀ rest, result.2 = some rest → CallSound pipeline result.1 rest) ∧
      Continues state result.1

theorem stepSound_answer (sound : PipelineSound pipeline state) {earlier : PipelineState}
    (continues : Continues earlier state) (id : Nat) (result : PipelineAnswer) :
    StepSound pipeline earlier (state.answer id result) :=
  ⟨sound.congr rfl rfl rfl rfl rfl, by simp [PipelineState.answer], continues⟩

theorem stepSound_next (sound : PipelineSound pipeline state) {next : PipelineCall}
    (holds : CallSound pipeline state next) : StepSound pipeline state (state, some next) := by
  refine ⟨sound, ?_, continues_self⟩
  rintro rest ⟨⟩
  exact holds

theorem PipelineSound.enter (sound : PipelineSound pipeline state) {request : HttpRequest}
    {identity : Option PlatformIdentity}
    (entitled : Entitled pipeline state.history request identity) :
    PipelineSound pipeline (state.enter request identity) where
  current := sound.current
  origin := sound.origin
  handled := by
    intro entry member
    rcases List.mem_append.mp member with old | new
    · exact sound.handled entry old
    · rw [List.mem_singleton.mp new]
      exact entitled

theorem stepSound_setPublicUrl (sound : PipelineSound pipeline state) {earlier : PipelineState}
    (continues : Continues earlier state) {identity : PlatformIdentity} {pseudonymId : String}
    (was : WasActive pipeline state.history pseudonymId identity) (id : Nat) (publicUrl : String) :
    StepSound pipeline earlier (setPublicUrlHandler pipeline id identity publicUrl state) := by
  unfold setPublicUrlHandler
  split
  · next moderates =>
    split
    · exact stepSound_answer sound continues _ _
    · next url normalized =>
      have changed : PipelineSound pipeline
          { state with
            publicUrl := url
            origin := .admin identity publicUrl
            sets := state.sets + 1 } :=
        ⟨sound.current, ⟨moderates, ⟨pseudonymId, was⟩, normalized⟩, sound.handled⟩
      exact stepSound_answer changed continues _ _
  · exact stepSound_answer sound continues _ _

theorem stepSound_change (sound : PipelineSound pipeline state) {earlier : PipelineState}
    (continues : Continues earlier state) (id : Nat) (database : Database) :
    StepSound pipeline earlier
      ({ state with
          database
          history := state.history ++ [database] }.answer id .handled) := by
  have later : Continues state { state with database, history := state.history ++ [database] } :=
    ⟨[database], rfl⟩
  have changed : PipelineSound pipeline
      { state with database, history := state.history ++ [database] } := by
    refine ⟨List.mem_append_right _ (List.mem_singleton_self _), ?_, ?_⟩
    · have known := sound.origin
      unfold FromOrigin at known ⊢
      dsimp only
      split at known
      · exact known
      · exact known
      · exact ⟨known.1, known.2.1.imp fun _ was => was.later later, known.2.2⟩
    · intro entry member
      exact (sound.handled entry member).later later
  refine stepSound_answer changed ?_ _ _
  rcases continues with ⟨more, history⟩
  exact ⟨more ++ [database], by rw [history, List.append_assoc]⟩

/-- Each step of a request keeps what is known of the public URL and of who is let in. -/
theorem stepSound (sound : PipelineSound pipeline state) {call : PipelineCall}
    (holds : CallSound pipeline state call) (id : Nat) (input : PipelineInput) :
    StepSound pipeline state (pipelineStep pipeline id call input state) := by
  cases call with
  | arrived request =>
      simp only [pipelineStep]
      split
      · next detected speaks =>
        refine stepSound_next sound ?_
        split at speaks
        · exact speaks
        · cases speaks
      · exact stepSound_next sound trivial
  | detecting request detected =>
      simp only [pipelineStep]
      split
      · refine ⟨⟨sound.current, holds, sound.handled⟩, ?_, continues_self⟩
        rintro rest ⟨⟩
        trivial
      · exact stepSound_next sound trivial
  | limiting request =>
      simp only [pipelineStep]
      split
      · exact stepSound_answer sound continues_self _ _
      · have limited (limiter : RateLimiter) : PipelineSound pipeline { state with limiter } :=
          sound.congr rfl rfl rfl rfl rfl
        split
        · refine ⟨limited _, ?_, continues_self⟩
          rintro rest ⟨⟩
          split
          · next isOpen => exact fun closed => absurd isOpen closed
          · trivial
        · exact stepSound_answer (limited _) continues_self _ _
  | authenticating request =>
      simp only [pipelineStep]
      split
      · exact stepSound_answer sound continues_self _ _
      · next pseudonymId claimed =>
        split
        · exact stepSound_answer sound continues_self _ _
        · split
          · exact stepSound_answer sound continues_self _ _
          · next identity found =>
            split
            · next active =>
              refine stepSound_next sound fun _ => ⟨identity, pseudonymId, rfl, claimed, ?_⟩
              have named := List.find?_some found
              rw [hasPseudonym, Bool.and_eq_true, decide_eq_true_eq, decide_eq_true_eq] at named
              exact ⟨active, named.2, named.1,
                ⟨state.database, sound.current, List.mem_of_find?_eq_some found⟩⟩
            · exact stepSound_answer sound continues_self _ _
  | handling request identity =>
      have entered := sound.enter holds
      simp only [pipelineStep]
      split
      · next publicUrl who isSet =>
        rcases holds (by rw [isSet]; simp) with ⟨other, pseudonymId, same, _, was⟩
        cases same
        exact stepSound_setPublicUrl entered continues_self was _ _
      · exact stepSound_change entered continues_self _ _

theorem pipelineSound_initial (pipeline : Pipeline) (database : Database) :
    PipelineSound pipeline (.initial pipeline database) where
  current := List.mem_singleton_self _
  origin := rfl
  handled := by simp [PipelineState.initial]

theorem pipelineSound_piped (pipeline : Pipeline) (database : Database)
    (labels : List PipelineLabel) : PipelineSound pipeline (piped pipeline database labels) := by
  have guarded : Execution.Guarded (Interleaving.step (pipelineProgram pipeline))
      (fun _ _ => True) (Interleaving.idle (.initial pipeline database)) labels :=
    Execution.guarded_of_forall (fun _ _ => trivial) _ _
  refine (Execution.run_invariant_of_guarded
    (Interleaving.Coherent (PipelineSound pipeline) (CallSound pipeline)) ?_
    (Interleaving.coherent_idle (pipelineSound_initial pipeline database)) guarded).shared
  refine Interleaving.coherent_step (fun _ _ => trivial) ?_
  intro state id call input shared next coherent found acted _
  have stepped : pipelineStep pipeline id call input state.shared = (shared, next) :=
    Option.some.inj acted
  have after := stepSound coherent.shared (coherent.calls id call found) id input
  rw [stepped] at after
  exact ⟨after.1, after.2.1, fun other held => held.later after.2.2⟩

end Soundness

section Results

/-- In every run, a request that came to a handler of a route that is not open to all did so with
an identity that stood in the database, active, under the pseudonym the request claims. -/
theorem handled_authenticated (pipeline : Pipeline) (database : Database)
    (labels : List PipelineLabel) :
    ∀ entry ∈ (piped pipeline database labels).handled, entry.request.route ≠ .open →
      ∃ identity pseudonymId, entry.identity = some identity ∧
        claimedPseudonym entry.request = some pseudonymId ∧
          identity.pseudonymId = pseudonymId ∧ identity.serverId = pipeline.serverId ∧
            identity.active = true ∧
              ∃ past ∈ (piped pipeline database labels).history,
                identity ∈ past.platformIdentities.rows := by
  intro entry member closed
  rcases (pipelineSound_piped pipeline database labels).handled entry member closed with
    ⟨identity, pseudonymId, isWho, claimed, was⟩
  exact ⟨identity, pseudonymId, isWho, claimed, was.named, was.server, was.active, was.stored⟩

/-- A pipeline without a URL that never refuses a request. -/
def openPipeline : Pipeline where
  serverId := 1
  isWhitespace := Char.isWhitespace
  estimate := fun _ _ _ _ => true
  configuredUrl := ""

def pipelineInput : PipelineInput := ⟨0, ⟨1, 1, 1⟩, false, id⟩

def knownIdentity : PlatformIdentity where
  id := 1
  serverId := 1
  pseudonymId := "ana"
  participantType := "HUMAN"
  canVoice := false
  canModerate := false
  canInvite := false
  canFederate := false
  canBridge := false
  active := true

def knownDatabase : Database :=
  { migrated with
    platformIdentities := Table.empty.insert fun id => { knownIdentity with id } }

def knownRequest : HttpRequest where
  peer := some (.v4 0x7F000001)
  path := "/api/channels"
  headers := fun name => if name = "x-annex-pseudonym" then some (some "ana") else none
  route := .authenticated

def knownRun : List PipelineLabel :=
  [.start 0 knownRequest, .advance 0 pipelineInput, .advance 0 pipelineInput,
    .advance 0 pipelineInput, .advance 0 pipelineInput]

theorem handled_authenticated_known :
    ∃ identity pseudonymId, some knownIdentity = some identity ∧
      claimedPseudonym knownRequest = some pseudonymId ∧
        identity.pseudonymId = pseudonymId ∧ identity.serverId = openPipeline.serverId ∧
          identity.active = true ∧
            ∃ past ∈ (piped openPipeline knownDatabase knownRun).history,
              identity ∈ past.platformIdentities.rows := by
  have handled : (piped openPipeline knownDatabase knownRun).handled =
      [⟨knownRequest, some knownIdentity⟩] := rfl
  refine handled_authenticated openPipeline knownDatabase knownRun
    ⟨knownRequest, some knownIdentity⟩ ?_ (by decide)
  rw [handled]
  exact List.mem_singleton_self _

/-- A step leaves a URL that is not empty alone unless it sets one. -/
theorem publicUrl_pipelineStep (pipeline : Pipeline) (state : PipelineState) (id : Nat)
    (call : PipelineCall) (input : PipelineInput) :
    state.sets < (pipelineStep pipeline id call input state).1.sets ∨
      (pipelineStep pipeline id call input state).1.sets = state.sets ∧
        (state.publicUrl ≠ "" →
          (pipelineStep pipeline id call input state).1.publicUrl = state.publicUrl) := by
  cases call with
  | arrived request =>
      simp only [pipelineStep]
      split <;> exact Or.inr ⟨rfl, fun _ => rfl⟩
  | detecting request detected =>
      simp only [pipelineStep]
      split
      · next isEmpty => exact Or.inr ⟨rfl, fun filled => absurd isEmpty filled⟩
      · exact Or.inr ⟨rfl, fun _ => rfl⟩
  | limiting request =>
      simp only [pipelineStep]
      repeat' split
      all_goals exact Or.inr ⟨rfl, fun _ => rfl⟩
  | authenticating request =>
      simp only [pipelineStep]
      repeat' split
      all_goals exact Or.inr ⟨rfl, fun _ => rfl⟩
  | handling request identity =>
      simp only [pipelineStep, setPublicUrlHandler]
      repeat' split
      · exact Or.inr ⟨rfl, fun _ => rfl⟩
      · exact Or.inl (Nat.lt_succ_self _)
      · exact Or.inr ⟨rfl, fun _ => rfl⟩
      · exact Or.inr ⟨rfl, fun _ => rfl⟩

theorem publicUrl_step (pipeline : Pipeline)
    (state : Interleaving PipelineState PipelineCall) (label : PipelineLabel) :
    state.shared.sets < (Interleaving.step (pipelineProgram pipeline) state label).shared.sets ∨
      (Interleaving.step (pipelineProgram pipeline) state label).shared.sets =
          state.shared.sets ∧
        (state.shared.publicUrl ≠ "" →
          (Interleaving.step (pipelineProgram pipeline) state label).shared.publicUrl =
            state.shared.publicUrl) := by
  cases label with
  | start id request =>
      simp only [Interleaving.step]
      split <;> exact Or.inr ⟨rfl, fun _ => rfl⟩
  | advance id input =>
      simp only [Interleaving.step]
      split
      · exact Or.inr ⟨rfl, fun _ => rfl⟩
      · simp only [pipelineProgram]
        exact publicUrl_pipelineStep pipeline state.shared id _ input

theorem publicUrl_run (pipeline : Pipeline) (labels : List PipelineLabel)
    (state : Interleaving PipelineState PipelineCall) :
    state.shared.sets ≤
        (Execution.run (Interleaving.step (pipelineProgram pipeline)) state labels).shared.sets ∧
      (state.shared.publicUrl ≠ "" →
        (Execution.run (Interleaving.step (pipelineProgram pipeline)) state
          labels).shared.sets = state.shared.sets →
        (Execution.run (Interleaving.step (pipelineProgram pipeline)) state
          labels).shared.publicUrl = state.shared.publicUrl) := by
  induction labels generalizing state with
  | nil => exact ⟨Nat.le_refl _, fun _ _ => rfl⟩
  | cons label labels induction =>
      rw [Execution.run_cons]
      have rest := induction (Interleaving.step (pipelineProgram pipeline) state label)
      rcases publicUrl_step pipeline state label with more | ⟨same, kept⟩
      · refine ⟨Nat.le_trans (Nat.le_of_lt more) rest.1, fun _ unset => ?_⟩
        have grown := Nat.lt_of_lt_of_le more rest.1
        rw [unset] at grown
        exact absurd grown (Nat.lt_irrefl _)
      · refine ⟨same ▸ rest.1, fun filled unset => ?_⟩
        have still := kept filled
        exact (rest.2 (still ▸ filled) (unset.trans same.symm)).trans still

/-- Once there is a public URL, whatever requests say and however they interleave, it stays until
a moderator sets another one. -/
theorem publicUrl_stays (pipeline : Pipeline) (database : Database)
    (labels later : List PipelineLabel)
    (filled : (piped pipeline database labels).publicUrl ≠ "")
    (unset : (piped pipeline database (labels ++ later)).sets =
      (piped pipeline database labels).sets) :
    (piped pipeline database (labels ++ later)).publicUrl =
      (piped pipeline database labels).publicUrl := by
  unfold piped at unset ⊢
  rw [Execution.run_append] at unset ⊢
  exact (publicUrl_run pipeline later _).2 filled unset

/-- A request that came through a proxy of this machine for the host. -/
def proxiedRequest (host : String) : HttpRequest where
  peer := some (.v4 0x7F000001)
  path := "/"
  headers := fun name => if name = "x-forwarded-host" then some (some host) else none
  route := .open

/-- Two requests look at the empty URL before the first one writes it. -/
theorem publicUrl_stays_proxied :
    (piped openPipeline migrated
        [.start 0 (proxiedRequest "a.example"), .start 1 (proxiedRequest "b.example"),
          .advance 0 pipelineInput, .advance 1 pipelineInput, .advance 0 pipelineInput,
          .advance 1 pipelineInput]).publicUrl =
      (piped openPipeline migrated
        [.start 0 (proxiedRequest "a.example"), .start 1 (proxiedRequest "b.example"),
          .advance 0 pipelineInput, .advance 1 pipelineInput,
          .advance 0 pipelineInput]).publicUrl := by
  refine publicUrl_stays openPipeline migrated
    [.start 0 (proxiedRequest "a.example"), .start 1 (proxiedRequest "b.example"),
      .advance 0 pipelineInput, .advance 1 pipelineInput, .advance 0 pipelineInput]
    [.advance 1 pipelineInput] ?_ ?_
  · decide
  · decide

end Results

end Annex.Server
