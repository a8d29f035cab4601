import Annex.Foundation.WebUrl

namespace Annex.Client

/-! Links that invite to a channel: what they are made of, and what is read from the address that
the browser is at. -/

structure InvitePayload where
  server : String
  channelId : String
  serverSlug : String
  label : Option String
deriving DecidableEq, Repr

/-- In `create_channel_handler`. -/
def maxChannelIdLen : Nat := 128

/-- Whether `create_channel_handler` takes the id. -/
def acceptsChannelId (channelId : String) : Bool :=
  !(maxChannelIdLen < channelId.utf8ByteSize || channelId.isEmpty)

/-- What `encodeURIComponent` leaves as it is. -/
def uriPlain (character : Char) : Bool :=
  character.isAlphanum || "-_.!~*'()".toList.contains character

def encodeURIComponent (text : String) : String :=
  String.ofList (PercentEncoding.encode uriPlain text.toList)

/-- A label is set when it is not empty. -/
def inviteParams (serverSlug : String) (label : Option String) : List (List Char × List Char) :=
  let params := [("slug".toList, serverSlug.toList)]
  match label with
  | none => params
  | some label =>
      if label = "" then params else FormEncoding.set "label".toList label.toList params

/-- `generateInviteLink` in a window of the origin. -/
def generateInviteLink (origin : Origin) (channelId serverSlug : String) (label : Option String) :
    String :=
  String.ofList (origin.text ++ "/invite/".toList ++ (encodeURIComponent channelId).toList ++
    "?".toList ++ FormEncoding.serialize (inviteParams serverSlug label))

/-- `split('/').filter(Boolean)`. -/
def pathParts (path : List Char) : List (List Char) := (path.splitOn '/').filter (· ≠ [])

def invitePayload (url : WebUrl) (channelId : List Char)
    (params : List (List Char × List Char)) : InvitePayload where
  server := String.ofList url.origin.host
  channelId := String.ofList channelId
  serverSlug := ((FormEncoding.get "slug".toList params).map String.ofList).getD "default"
  label := (FormEncoding.get "label".toList params).map String.ofList

/-- `/invite/<channelId>`. The part of the path is taken as it is. -/
def pathInvite (url : WebUrl) : Option InvitePayload :=
  match pathParts url.pathname with
  | first :: channelId :: _ =>
      if first = "invite".toList then some (invitePayload url channelId url.searchParams) else none
  | _ => none

/-- `#/invite/<channelId>`. -/
def hashInvite (url : WebUrl) : Option InvitePayload :=
  if "#/invite/".toList.isPrefixOf url.hash then
    match pathParts (url.hash.drop 2) with
    | _ :: channelId :: _ =>
        -- what stands between the first two question marks has none itself
        some (invitePayload url channelId
          (FormEncoding.parse ((url.hash.splitOn '?').getD 1 [])))
    | _ => none
  else
    none

/-- `parseInviteFromUrl` in a window of the origin, at the address. -/
def parseInviteFromUrl (origin : Origin) (href : String) : Option InvitePayload :=
  (WebUrl.parse origin href.toList).bind fun url => (pathInvite url).or (hashInvite url)

section Characters

theorem segmentPlain_of_uriPlain {character : Char} (plain : uriPlain character = true) :
    WebUrl.segmentPlain character = true := by
  have signs : "-_.!~*'()".toList.all WebUrl.segmentPlain = true := by decide
  rw [uriPlain, Bool.or_eq_true, List.contains_iff_mem] at plain
  rcases plain with alphanumeric | sign
  · exact WebUrl.segmentPlain_of_isAlphanum alphanumeric
  · exact List.all_eq_true.mp signs character sign

theorem decodable_uriPlain : PercentEncoding.Decodable uriPlain where
  ascii character plain := by
    have signs : "-_.!~*'()".toList.all (·.toNat < 128) = true := by decide
    rw [uriPlain, Bool.or_eq_true, List.contains_iff_mem] at plain
    rcases plain with alphanumeric | sign
    · exact PercentEncoding.toNat_lt_of_isAlphanum alphanumeric
    · exact of_decide_eq_true (List.all_eq_true.mp signs character sign)
  percent := by decide

theorem segmentPlain_encodeURIComponent (text : String) :
    ∀ character ∈ (encodeURIComponent text).toList, WebUrl.segmentPlain character = true := by
  intro character member
  rw [encodeURIComponent, String.toList_ofList] at member
  rcases PercentEncoding.mem_encode member with plain | rfl | alphanumeric
  · exact segmentPlain_of_uriPlain plain
  · decide
  · exact WebUrl.segmentPlain_of_isAlphanum alphanumeric

theorem queryPlain_serialize {special : Bool} (params : List (List Char × List Char)) :
    ∀ character ∈ FormEncoding.serialize params, WebUrl.queryPlain special character = true := by
  intro character member
  rcases FormEncoding.mem_serialize member with alphanumeric | sign
  · exact WebUrl.queryPlain_of_isAlphanum alphanumeric
  · have signs : "*-._+%=&".toList.all (WebUrl.queryPlain special) = true := by
      revert special
      decide
    exact List.all_eq_true.mp signs character sign

end Characters

section Links

variable {channelId serverSlug : String} {label : Option String}

theorem encodeURIComponent_eq_self_iff :
    encodeURIComponent channelId = channelId ↔
      ∀ character ∈ channelId.toList, uriPlain character = true := by
  rw [← PercentEncoding.encode_eq_self_iff, encodeURIComponent, ← String.toList_inj,
    String.toList_ofList]

theorem encodeURIComponent_ne_nil (nonempty : channelId ≠ "") :
    (encodeURIComponent channelId).toList ≠ [] := by
  have longer := @PercentEncoding.length_le_encode uriPlain channelId.toList
  have positive : channelId.toList ≠ [] := by simpa using nonempty
  have length := List.length_pos_iff.mpr positive
  rw [encodeURIComponent, String.toList_ofList, ← List.length_pos_iff]
  omega

theorem dots_encodeURIComponent {number : Nat} :
    WebUrl.dots (encodeURIComponent channelId).toList = some number ↔
      channelId = String.ofList (List.replicate number '.') := by
  rw [encodeURIComponent, String.toList_ofList, WebUrl.dots_encode decodable_uriPlain (by decide),
    ← String.toList_inj, String.toList_ofList]

@[simp] theorem get_slug_inviteParams :
    FormEncoding.get "slug".toList (inviteParams serverSlug label) = some serverSlug.toList := by
  cases label with
  | none => rfl
  | some label =>
      by_cases empty : label = ""
      · simp [inviteParams, empty, FormEncoding.get_cons]
      · rw [inviteParams, if_neg empty, FormEncoding.get_set_of_ne (by decide),
          FormEncoding.get_cons, if_pos rfl]

@[simp] theorem get_label_inviteParams (nonempty : label ≠ some "") :
    FormEncoding.get "label".toList (inviteParams serverSlug label) =
      label.map String.toList := by
  cases label with
  | none => rfl
  | some label =>
      have notEmpty : label ≠ "" := fun empty => nonempty (congrArg some empty)
      rw [inviteParams, if_neg notEmpty, FormEncoding.get_set_self, Option.map_some]

theorem parse_generateInviteLink (origin : Origin) :
    WebUrl.parse origin (generateInviteLink origin channelId serverSlug label).toList =
      some {
        origin
        path := WebUrl.walk [] ["invite".toList, (encodeURIComponent channelId).toList]
        query := some (FormEncoding.serialize (inviteParams serverSlug label))
        fragment := none } := by
  have plain : ∀ name ∈ ["invite".toList, (encodeURIComponent channelId).toList],
      ∀ character ∈ name, WebUrl.segmentPlain character = true := by
    intro name isName
    rcases List.mem_pair.mp isName with rfl | rfl
    · exact List.all_eq_true.mp (by decide)
    · exact segmentPlain_encodeURIComponent channelId
  rw [← WebUrl.parse_plain (List.cons_ne_nil _ _) plain (queryPlain_serialize _),
    generateInviteLink, String.toList_ofList]
  simp

theorem pathParts_pathname {url : WebUrl} (free : ∀ segment ∈ url.path, '/' ∉ segment) :
    pathParts url.pathname = url.path.filter (· ≠ []) := by
  rw [pathParts, WebUrl.splitOn_pathname free, List.filter_cons_of_neg (by simp)]

theorem walk_encodeURIComponent :
    WebUrl.walk [] ["invite".toList, (encodeURIComponent channelId).toList] =
      if channelId = ".." then [[]]
      else if channelId = "." then ["invite".toList, []]
      else ["invite".toList, (encodeURIComponent channelId).toList] := by
  have name : WebUrl.dots "invite".toList = none := by decide
  have two : WebUrl.dots (encodeURIComponent channelId).toList = some 2 ↔ channelId = ".." :=
    dots_encodeURIComponent
  have one : WebUrl.dots (encodeURIComponent channelId).toList = some 1 ↔ channelId = "." :=
    dots_encodeURIComponent
  simp only [WebUrl.walk, name, two, one, reduceCtorEq, List.cons_ne_nil, if_true, if_false,
    List.append_nil, List.nil_append, List.cons_append, List.dropLast_singleton]

/-- What is read from a link: the channel id as it was escaped, unless it is a dot segment. -/
theorem parseInviteFromUrl_generateInviteLink (origin : Origin) (nonempty : channelId ≠ "")
    (labelled : label ≠ some "") :
    parseInviteFromUrl origin (generateInviteLink origin channelId serverSlug label) =
      if channelId = "." ∨ channelId = ".." then none
      else some {
        server := String.ofList origin.host
        channelId := encodeURIComponent channelId
        serverSlug
        label } := by
  rw [parseInviteFromUrl, parse_generateInviteLink, Option.bind_some, walk_encodeURIComponent]
  by_cases parent : channelId = ".."
  · rw [if_pos parent, if_pos (Or.inr parent)]
    rfl
  · by_cases same : channelId = "."
    · rw [if_neg parent, if_pos same, if_pos (Or.inl same)]
      rfl
    · rw [if_neg parent, if_neg same, if_neg (not_or.mpr ⟨same, parent⟩)]
      have free : ∀ segment ∈ ["invite".toList, (encodeURIComponent channelId).toList],
          '/' ∉ segment := by
        intro segment member inside
        rcases List.mem_pair.mp member with rfl | rfl
        · revert inside
          decide
        · cases segmentPlain_encodeURIComponent channelId _ inside
      rw [pathInvite, pathParts_pathname free]
      have found : ["invite".toList, (encodeURIComponent channelId).toList].filter (· ≠ []) =
          ["invite".toList, (encodeURIComponent channelId).toList] := by
        simp [encodeURIComponent_ne_nil nonempty]
      rw [found]
      dsimp only
      rw [if_pos rfl, Option.some_or, invitePayload, WebUrl.searchParams, Option.getD_some,
        FormEncoding.parse_serialize, get_slug_inviteParams, get_label_inviteParams labelled]
      simp [Option.map_map]

end Links

/-- What is read from a link in a window of the same origin is what the link was made of. -/
def Survives (origin : Origin) (channelId serverSlug : String) (label : Option String) : Prop :=
  ∃ payload, parseInviteFromUrl origin (generateInviteLink origin channelId serverSlug label) =
      some payload ∧
    payload.channelId = channelId ∧ payload.serverSlug = serverSlug ∧ payload.label = label

/-- An invitation survives exactly when its channel id is neither escaped nor a dot segment. -/
theorem survives_iff (origin : Origin) (channelId serverSlug : String) (label : Option String)
    (accepted : acceptsChannelId channelId = true) (labelled : label ≠ some "") :
    Survives origin channelId serverSlug label ↔
      (∀ character ∈ channelId.toList, uriPlain character = true) ∧
        channelId ≠ "." ∧ channelId ≠ ".." := by
  have nonempty : channelId ≠ "" := by
    rintro rfl
    cases accepted
  rw [Survives, parseInviteFromUrl_generateInviteLink origin nonempty labelled,
    ← encodeURIComponent_eq_self_iff]
  by_cases dots : channelId = "." ∨ channelId = ".."
  · rw [if_pos dots]
    constructor
    · rintro ⟨payload, read, _⟩
      cases read
    · rintro ⟨_, same, parent⟩
      exact absurd dots (not_or.mpr ⟨same, parent⟩)
  · rw [if_neg dots]
    constructor
    · rintro ⟨payload, read, same, _⟩
      rw [← Option.some.inj read] at same
      exact ⟨same, not_or.mp dots⟩
    · rintro ⟨same, _⟩
      exact ⟨_, rfl, same, rfl, rfl⟩

namespace InviteSample

def site : Origin where
  scheme := "https".toList
  host := "annex.example".toList
  visible := by decide
  whole := by decide

theorem survives_general :
    Survives site "general" "default" (some "Quiet room") ↔
      (∀ character ∈ "general".toList, uriPlain character = true) ∧
        "general" ≠ "." ∧ "general" ≠ ".." :=
  survives_iff site "general" "default" (some "Quiet room") (by decide) (by decide)

/-- The escape of a space in a channel id is taken for three characters. -/
theorem not_survives :
    ¬ ∀ (origin : Origin) (channelId serverSlug : String) (label : Option String),
      acceptsChannelId channelId = true → label ≠ some "" →
        Survives origin channelId serverSlug label := by
  intro all
  rcases all site "general chat" "default" none (by decide) (by decide) with
    ⟨payload, read, same, _⟩
  have escaped : parseInviteFromUrl site (generateInviteLink site "general chat" "default" none) =
      some ⟨"annex.example", "general%20chat", "default", none⟩ := by
    decide +kernel
  rw [escaped, Option.some.injEq] at read
  rw [← read] at same
  revert same
  decide

example : parseInviteFromUrl site (generateInviteLink site ".." "default" none) = none := by
  decide +kernel

end InviteSample

end Annex.Client
