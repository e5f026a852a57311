import Vortex.Web.Proxy

/-!
# Which channels a user may join

The signal server asks the web app for the memberships of a user
(`channel-access.ts` and `api/internal/gateway/channel-access/route.ts`). The two
agree with each other (`checkChannelAccess_direct`), but the request comes from
no page, so the proxy in front of the route turns it away.
-/

variable {ids : List JsString} {userId : JsString}

namespace Vortex.Gateway

open Foundation List
open Vortex.Web (PASSTHROUGH_ROUTES ProxyEnvironment isMatched proxy proxy_eq_blocked startsWith)

def USER_CHANNEL_PREFIX : JsString := js "user:"

def MAX_CHANNELS : Nat := 100

/-- The synthetic channels of a user among some ids. -/
def ownChannels (userId : JsString) (ids : List JsString) : List JsString :=
  ids.filter fun id => startsWith id USER_CHANNEL_PREFIX &&
    id.drop USER_CHANNEL_PREFIX.length = userId

/-- The ids that are not synthetic channels. -/
def dmChannelIds (ids : List JsString) : List JsString :=
  ids.filter fun id => !startsWith id USER_CHANNEL_PREFIX

/-! ## The signal server's side -/

structure ChannelAccessConfig where
  webAppUrl : JsString
  secret : JsString

def CHANNEL_ACCESS_PATH : JsString := js "/api/internal/gateway/channel-access"

def accessBody (userId : JsString) (ids : List JsString) : Json :=
  .obj [(js "userId", .str userId), (js "channelIds", .arr (ids.map .str))]

def bearer (secret : JsString) : JsString := js "Bearer " ++ secret

def accessRequest (config : ChannelAccessConfig) (userId : JsString) (ids : List JsString) :
    HttpRequest :=
  serverFetch config.webAppUrl CHANNEL_ACCESS_PATH
    [(js "content-type", js "application/json"), (js "authorization", bearer config.secret)]
    (jsonBytes (accessBody userId ids))

/-- `data.allowed.filter((id) => typeof id === "string")` -/
def grantedOf (items : List Json) : List JsString :=
  items.filterMap fun item => Json.string? (some item)

/-- `createChannelAccessChecker(config)`, with `fetch` as its second argument: an error
when nothing answers in time. -/
def checkChannelAccess (config : Option ChannelAccessConfig)
    (fetch : HttpRequest → Except Unit HttpResponse) (userId : JsString)
    (channelIds : List JsString) : List JsString :=
  let allowed := ownChannels userId channelIds
  let dmIds := dmChannelIds channelIds
  if dmIds.isEmpty then allowed
  else
    match config with
    | none => allowed
    | some config =>
        match fetch (accessRequest config userId dmIds) with
        | .error _ => allowed
        | .ok response =>
            if !response.ok then allowed
            else
              match Json.array? ((readJson response.body).bind (Json.get? (js "allowed"))) with
              | none => allowed
              | some items => allowed ++ dmIds.filter (grantedOf items).contains

/-! ## The web app's side -/

/-- A row of `dm_channel_members`. -/
structure DmChannelMember where
  dmChannelId : JsString
  userId : JsString
  deriving DecidableEq

/-- The constant-time comparison of two strings. -/
def timingSafeEqual (a b : JsString) : Bool := JsString.encodeUtf8 a = JsString.encodeUtf8 b

def verifyBearerToken (authHeader : Option JsString) (expectedSecret : JsString) : Bool :=
  match authHeader with
  | none => false
  | some header =>
      if header.isEmpty || expectedSecret.isEmpty || !startsWith header (js "Bearer ") then false
      else
        let token := header.drop (js "Bearer ").length
        !token.isEmpty && timingSafeEqual token expectedSecret

/-- The web app as far as this request goes: the secret it is configured with, the
outside of its proxy, and the memberships (`none` when the query throws). -/
structure WebApp where
  secret : Option JsString
  environment : ProxyEnvironment
  members : Option (List DmChannelMember)

/-- The channels of a list that a user is a member of. -/
def memberChannels (members : List DmChannelMember) (userId : JsString) (ids : List JsString) :
    List JsString :=
  let rows := members.filter fun row => row.userId = userId && ids.contains row.dmChannelId
  ids.filter (rows.map DmChannelMember.dmChannelId).contains

def allowedBody (allowed : List JsString) : Json := .obj [(js "allowed", .arr (allowed.map .str))]

/-- The answer to a request whose user and channels are known. -/
def answerAccess (app : WebApp) (userId : JsString) (channelIds : List Json) : HttpResponse :=
  if channelIds.length > MAX_CHANNELS then
    .error 400 (js "Cannot check more than 100 channels at once")
  else
    let requested := (grantedOf channelIds).filter (!·.isEmpty)
    let allowed := ownChannels userId requested
    let dmIds := dmChannelIds requested
    if dmIds.isEmpty then .json 200 (allowedBody allowed)
    else
      match app.members with
      | none => .error 500 (js "Internal server error")
      | some members =>
          .json 200 (allowedBody (allowed ++ memberChannels members userId dmIds))

/-- `POST /api/internal/gateway/channel-access` -/
def channelAccessPost (app : WebApp) (request : HttpRequest) : HttpResponse :=
  match app.secret.filter (!·.isEmpty) with
  | none => .error 503 (js "SIGNAL_REVOKE_SECRET not configured")
  | some secret =>
      if !verifyBearerToken (request.header (js "authorization")) secret then
        .error 401 (js "Unauthorized")
      else
        match readJson request.body with
        | some (.obj members) =>
            match (Json.string? ((Json.obj members).get? (js "userId"))).filter (!·.isEmpty) with
            | none => .error 400 (js "userId required")
            | some userId =>
                match Json.array? ((Json.obj members).get? (js "channelIds")) with
                | none => .error 400 (js "channelIds must be an array")
                | some channelIds => answerAccess app userId channelIds
        | some (.arr _) => .error 400 (js "userId required")
        | _ => .error 400 (js "Invalid JSON body")

/-- The web app's answer to a request for this path: the proxy's, or the route's. -/
def WebApp.serve (app : WebApp) (request : HttpRequest) : HttpResponse :=
  if isMatched request.pathname then
    match proxy app.environment request none with
    | .next => channelAccessPost app request
    | .respond response => response
    | .redirect _ => ⟨307, []⟩
  else channelAccessPost app request

/-! ## What the proxy lets through -/

/-- The server's request carries no header of a page. -/
theorem header_accessRequest (config : ChannelAccessConfig) (userId : JsString)
    (ids : List JsString) : (accessRequest config userId ids).header (js "origin") = none ∧
      (accessRequest config userId ids).header (js "referer") = none ∧
      (accessRequest config userId ids).header (js "authorization") = some (bearer config.secret) := by
  refine ⟨?_, ?_, ?_⟩ <;> rfl

theorem serve_accessRequest (app : WebApp) (config : ChannelAccessConfig) (userId : JsString)
    (ids : List JsString) :
    app.serve (accessRequest config userId ids) =
      .error 403 (js "Cross-origin request blocked") := by
  obtain ⟨origin, referer, -⟩ := header_accessRequest config userId ids
  have matched : isMatched CHANNEL_ACCESS_PATH = true := by decide
  have api : startsWith CHANNEL_ACCESS_PATH (js "/api/") = true := by decide
  have guarded : PASSTHROUGH_ROUTES.any (startsWith CHANNEL_ACCESS_PATH) = false := by
    decide
  have blocked : proxy app.environment (accessRequest config userId ids) none =
      .respond (.error 403 (js "Cross-origin request blocked")) :=
    proxy_eq_blocked app.environment api rfl guarded origin referer
  have path : (accessRequest config userId ids).pathname = CHANNEL_ACCESS_PATH := rfl
  rw [WebApp.serve, path, if_pos matched, blocked]

/-- With the web app behind its proxy the checker grants a user's own channel and
nothing else. -/
theorem checkChannelAccess_served (app : WebApp) (config : ChannelAccessConfig)
    (userId : JsString) (channelIds : List JsString) :
    checkChannelAccess (some config) (fun request => .ok (app.serve request)) userId channelIds =
      ownChannels userId channelIds := by
  unfold checkChannelAccess
  dsimp only
  split
  · rfl
  · rw [serve_accessRequest]
    rfl

theorem startsWith_iff {text opening : JsString} :
    startsWith text opening = true ↔ ∃ rest, text = opening ++ rest := by
  rw [startsWith, isPrefixOf_iff_prefix]
  exact ⟨fun ⟨rest, same⟩ => ⟨rest, same.symm⟩, fun ⟨rest, same⟩ => ⟨rest, same.symm⟩⟩

theorem mem_ownChannels {id : JsString} :
    id ∈ ownChannels userId ids ↔ id ∈ ids ∧ id = USER_CHANNEL_PREFIX ++ userId := by
  rw [ownChannels, mem_filter, Bool.and_eq_true, decide_eq_true_eq, startsWith_iff]
  refine and_congr_right fun _ => ⟨?_, ?_⟩
  · rintro ⟨⟨rest, rfl⟩, same⟩
    rw [drop_left] at same
    rw [same]
  · rintro rfl
    exact ⟨⟨userId, rfl⟩, drop_left⟩

/-- What is expected of an answer: the user's own channel and the channels the user has
a membership row for. -/
def AccessExact (members : List DmChannelMember) (userId : JsString)
    (channelIds allowed : List JsString) : Prop :=
  ∀ id, id ∈ allowed ↔
    id ∈ channelIds ∧ (id = USER_CHANNEL_PREFIX ++ userId ∨ ⟨id, userId⟩ ∈ members)

/-- The answer is as expected exactly when nothing but the user's own channel was due. -/
theorem checkChannelAccess_exact_iff (secret : Option JsString) (environment : ProxyEnvironment)
    (members : List DmChannelMember) (config : ChannelAccessConfig) (userId : JsString)
    (channelIds : List JsString) :
    AccessExact members userId channelIds
        (checkChannelAccess (some config)
          (fun request => .ok (WebApp.serve ⟨secret, environment, some members⟩ request)) userId
          channelIds) ↔
      ∀ id ∈ channelIds, (⟨id, userId⟩ : DmChannelMember) ∈ members →
        id = USER_CHANNEL_PREFIX ++ userId := by
  rw [checkChannelAccess_served]
  constructor
  · intro exact_answer id requested row
    have granted := (exact_answer id).mpr ⟨requested, .inr row⟩
    exact (mem_ownChannels.mp granted).2
  · intro due id
    rw [mem_ownChannels]
    refine and_congr_right fun requested => ⟨.inl, ?_⟩
    rintro (own | row)
    · exact own
    · exact due id requested row

/-- A web app with one membership, configured with the same secret as its caller, whose
visitors have no session. -/
def sampleApp : WebApp where
  secret := some (js "secret")
  environment := ⟨fun _ => .ok none, fun _ => none⟩
  members := some [⟨js "dm-1", js "alice"⟩]

def sampleConfig : ChannelAccessConfig := ⟨js "http://web:3000", js "secret"⟩

/-- A member is refused the channel. -/
theorem member_refused :
    checkChannelAccess (some sampleConfig) (fun request => .ok (sampleApp.serve request))
        (js "alice") [js "dm-1"] = [] ∧
      ¬ AccessExact [⟨js "dm-1", js "alice"⟩] (js "alice") [js "dm-1"]
        (checkChannelAccess (some sampleConfig) (fun request => .ok (sampleApp.serve request))
          (js "alice") [js "dm-1"]) := by
  have refused : checkChannelAccess (some sampleConfig)
      (fun request => .ok (sampleApp.serve request)) (js "alice") [js "dm-1"] = [] := by
    rw [checkChannelAccess_served]
    decide
  refine ⟨refused, fun exact_answer => ?_⟩
  have granted := (exact_answer (js "dm-1")).mpr ⟨List.mem_singleton_self _, .inr (by decide)⟩
  rw [refused] at granted
  cases granted

/-! ## Without the proxy -/

theorem verifyBearerToken_bearer {secret : JsString} (configured : secret ≠ []) :
    verifyBearerToken (some (bearer secret)) secret = true := by
  have header : (bearer secret).isEmpty = false := rfl
  have known : secret.isEmpty = false := isEmpty_eq_false_iff.mpr configured
  have prefixed : startsWith (bearer secret) (js "Bearer ") = true :=
    startsWith_iff.mpr ⟨secret, rfl⟩
  have token : (bearer secret).drop (js "Bearer ").length = secret := drop_left
  simp only [verifyBearerToken, header, known, prefixed, token, timingSafeEqual, Bool.or_self,
    Bool.not_true, Bool.false_eq_true, if_false, Bool.not_false, Bool.true_and,
    decide_true]

theorem printable_strings (texts : List JsString) : Json.PrintableItems (texts.map .str) := by
  induction texts with
  | nil => trivial
  | cons text rest ih => exact ⟨trivial, ih⟩

theorem readJson_accessBody (userId : JsString) (ids : List JsString) :
    readJson (jsonBytes (accessBody userId ids)) = some (accessBody userId ids) :=
  readJson_jsonBytes ⟨trivial, printable_strings ids, trivial⟩

theorem readJson_allowedBody (allowed : List JsString) :
    readJson (jsonBytes (allowedBody allowed)) = some (allowedBody allowed) :=
  readJson_jsonBytes ⟨printable_strings allowed, trivial⟩

theorem grantedOf_strings (texts : List JsString) : grantedOf (texts.map .str) = texts := by
  rw [grantedOf, filterMap_map]
  exact filterMap_some

theorem mem_dmChannelIds {id : JsString} :
    id ∈ dmChannelIds ids ↔ id ∈ ids ∧ startsWith id USER_CHANNEL_PREFIX = false := by
  rw [dmChannelIds, mem_filter, Bool.not_eq_true']

theorem mem_memberChannels {members : List DmChannelMember} {id : JsString} :
    id ∈ memberChannels members userId ids ↔ id ∈ ids ∧ ⟨id, userId⟩ ∈ members := by
  rw [memberChannels, mem_filter, contains_iff_mem, mem_map]
  refine and_congr_right fun requested => ⟨?_, fun row => ?_⟩
  · rintro ⟨⟨channel, user⟩, found, rfl⟩
    obtain ⟨row, same⟩ := mem_filter.mp found
    obtain ⟨same, -⟩ := Bool.and_eq_true_iff.mp same
    rw [← of_decide_eq_true same]
    exact row
  · refine ⟨⟨id, userId⟩, mem_filter.mpr ⟨row, ?_⟩, rfl⟩
    rw [decide_eq_true rfl, Bool.true_and]
    exact contains_iff_mem.mpr requested

/-- The route answers the server's request with the memberships. -/
theorem channelAccessPost_accessRequest (environment : ProxyEnvironment)
    (members : List DmChannelMember) {config : ChannelAccessConfig}
    (configured : config.secret ≠ []) (user : userId ≠ []) (few : ids.length ≤ MAX_CHANNELS) :
    ∃ allowed, channelAccessPost ⟨some config.secret, environment, some members⟩
        (accessRequest config userId ids) = .json 200 (allowedBody allowed) ∧
      ∀ id ∈ ids, startsWith id USER_CHANNEL_PREFIX = false →
        (id ∈ allowed ↔ id ≠ [] ∧ ⟨id, userId⟩ ∈ members) := by
  have secret : (some config.secret).filter (!·.isEmpty) = some config.secret := by
    rw [Option.filter_some, isEmpty_eq_false_iff.mpr configured]
    rfl
  have authorized := verifyBearerToken_bearer configured
  have body : readJson (accessRequest config userId ids).body = some (accessBody userId ids) :=
    readJson_accessBody userId ids
  have caller : (Json.string? ((accessBody userId ids).get? (js "userId"))).filter (!·.isEmpty) =
      some userId := by
    change (some userId).filter _ = _
    rw [Option.filter_some, isEmpty_eq_false_iff.mpr user]
    rfl
  have listed : Json.array? ((accessBody userId ids).get? (js "channelIds")) =
      some (ids.map .str) := rfl
  have answered : channelAccessPost ⟨some config.secret, environment, some members⟩
      (accessRequest config userId ids) =
        answerAccess ⟨some config.secret, environment, some members⟩ userId (ids.map .str) := by
    rw [channelAccessPost, secret]
    simp only [(header_accessRequest config userId ids).2.2, authorized, body, Bool.not_true,
      Bool.false_eq_true, if_false, accessBody]
    unfold accessBody at caller listed
    rw [caller]
    simp only [listed]
  have short : ¬ (ids.map Json.str).length > MAX_CHANNELS := by
    rw [length_map]
    omega
  rw [answered, answerAccess, if_neg short, grantedOf_strings]
  dsimp only
  split
  · rename_i none_left
    refine ⟨_, rfl, fun id member dm => ?_⟩
    have absent : id = [] := by
      by_contra nonempty
      have kept : id ∈ dmChannelIds (ids.filter (!·.isEmpty)) := by
        refine mem_dmChannelIds.mpr ⟨mem_filter.mpr ⟨member, ?_⟩, dm⟩
        rw [isEmpty_eq_false_iff.mpr nonempty]
        rfl
      rw [List.isEmpty_iff.mp none_left] at kept
      cases kept
    constructor
    · intro own
      have same := (mem_ownChannels.mp own).2
      rw [absent] at same
      cases same
    · intro row
      exact absurd absent row.1
  · refine ⟨_, rfl, fun id member dm => ?_⟩
    rw [mem_append, mem_ownChannels, mem_memberChannels, mem_dmChannelIds, mem_filter]
    constructor
    · rintro (⟨-, rfl⟩ | ⟨⟨⟨-, nonempty⟩, -⟩, row⟩)
      · rw [startsWith_iff.mpr ⟨userId, rfl⟩] at dm
        cases dm
      · refine ⟨?_, row⟩
        rintro rfl
        cases nonempty
    · rintro ⟨nonempty, row⟩
      refine .inr ⟨⟨⟨member, ?_⟩, dm⟩, row⟩
      rw [isEmpty_eq_false_iff.mpr nonempty]
      rfl

/-- Where nothing stands between them, the checker and the route together grant exactly
the user's own channel and the user's memberships. -/
theorem checkChannelAccess_direct {environment : ProxyEnvironment} {members : List DmChannelMember}
    {config : ChannelAccessConfig} (configured : config.secret ≠ []) (user : userId ≠ [])
    {channelIds : List JsString} (few : channelIds.length ≤ MAX_CHANNELS) (id : JsString) :
    id ∈ checkChannelAccess (some config) (fun request =>
        .ok (channelAccessPost ⟨some config.secret, environment, some members⟩ request)) userId
        channelIds ↔
      id ∈ channelIds ∧ (id = USER_CHANNEL_PREFIX ++ userId ∨
        (startsWith id USER_CHANNEL_PREFIX = false ∧ id ≠ [] ∧ ⟨id, userId⟩ ∈ members)) := by
  have fewer : (dmChannelIds channelIds).length ≤ MAX_CHANNELS :=
    Nat.le_trans (length_filter_le _ _) few
  obtain ⟨allowed, answered, granted⟩ := channelAccessPost_accessRequest environment members
    configured user fewer
  unfold checkChannelAccess
  dsimp only
  split
  · rename_i none_left
    rw [mem_ownChannels]
    refine and_congr_right fun requested => ⟨.inl, ?_⟩
    rintro (own | ⟨dm, -, -⟩)
    · exact own
    · have kept := mem_dmChannelIds.mpr ⟨requested, dm⟩
      rw [List.isEmpty_iff.mp none_left] at kept
      cases kept
  · have ok : (HttpResponse.json 200 (allowedBody allowed)).ok = true := rfl
    have items : Json.array? ((readJson (HttpResponse.json 200 (allowedBody allowed)).body).bind
        (Json.get? (js "allowed"))) = some (allowed.map .str) := by
      change Json.array? ((readJson (jsonBytes (allowedBody allowed))).bind _) = _
      rw [readJson_allowedBody]
      rfl
    rw [answered]
    simp only [ok, Bool.not_true, Bool.false_eq_true, if_false, items, grantedOf_strings]
    rw [mem_append, mem_ownChannels, mem_filter, contains_iff_mem]
    constructor
    · rintro (⟨requested, own⟩ | ⟨asked, found⟩)
      · exact ⟨requested, .inl own⟩
      · obtain ⟨requested, dm⟩ := mem_dmChannelIds.mp asked
        exact ⟨requested, .inr ⟨dm, (granted id asked dm).mp found⟩⟩
    · rintro ⟨requested, own | ⟨dm, row⟩⟩
      · exact .inl ⟨requested, own⟩
      · have asked := mem_dmChannelIds.mpr ⟨requested, dm⟩
        exact .inr ⟨asked, (granted id asked dm).mpr row⟩

/-- Behind the proxy the member is granted the channel. -/
theorem member_granted : js "dm-1" ∈ checkChannelAccess (some sampleConfig) (fun request =>
    .ok (channelAccessPost ⟨some sampleConfig.secret, sampleApp.environment,
      some [⟨js "dm-1", js "alice"⟩]⟩ request)) (js "alice") [js "dm-1"] :=
  (checkChannelAccess_direct (by decide) (by decide) (by decide) (js "dm-1")).mpr
    ⟨mem_singleton_self _, .inr (by decide)⟩

end Vortex.Gateway
