import Vortex.Foundation.Http

/-!
# The proxy of the web app

Every request the matcher selects passes `proxy.ts` before its route: mutations of
the API must come from the app's own origin, bodies must not be too large, and all
but a few paths need a session of a verified user. What Better Auth and the URL
parser answer is a parameter; the nonce and the Content-Security-Policy, which no
handler reads, are left out.
-/

namespace Vortex.Web

open Foundation

def PASSTHROUGH_ROUTES : List JsString := [js "/api/cron", js "/api/health"]

def PUBLIC_ROUTES : List JsString :=
  [js "/login", js "/register", js "/api/auth", js "/verify-email", js "/update-password",
    js "/terms", js "/privacy"]

def MUTATION_METHODS : List JsString := [js "POST", js "PUT", js "PATCH", js "DELETE"]

def MAX_BODY_BYTES : Nat := 1 * 1024 * 1024

def MAX_ATTACHMENT_BYTES : Nat := 25 * 1024 * 1024

def MAX_UPLOAD_BYTES : Nat := MAX_ATTACHMENT_BYTES + 1 * 1024 * 1024

def UPLOAD_ROUTE_PREFIXES : List JsString := [js "/api/users/avatar", js "/api/share"]

def UPLOAD_ROUTE_SUFFIXES : List JsString := [js "/attachments"]

structure SessionUser where
  emailVerified : Bool

/-- What the proxy asks of the outside: the session of a request (an error when it
cannot be looked up) and the origin of a URL (`none` when it is not one). -/
structure ProxyEnvironment where
  getSession : List (JsString × JsString) → Except Unit (Option SessionUser)
  urlOrigin : JsString → Option JsString

/-- Where a page request without a usable session is sent. -/
inductive LoginPage
  | login (redirect : JsString)
  | verifyEmail
  deriving DecidableEq

inductive ProxyDecision
  | next
  | respond (response : HttpResponse)
  | redirect (page : LoginPage)

def startsWith (text opening : JsString) : Bool := opening.isPrefixOf text

def endsWith (text ending : JsString) : Bool := ending.isSuffixOf text

/-- `/^\d+$/.test(raw) ? parseInt(raw, 10) : NaN` -/
def contentLengthOf (raw : JsString) : Option Nat :=
  if !raw.isEmpty && raw.all Json.isDigit then
    some (raw.foldl (fun number digit => number * 10 + (digit.toNat - 48)) 0)
  else none

variable (environment : ProxyEnvironment)

/-- Whether a request comes from the app's own origin. -/
def isSameOrigin (request : HttpRequest) : Bool :=
  match (request.header (js "origin")).filter (!·.isEmpty) with
  | some origin => origin = request.origin
  | none =>
      match (request.header (js "referer")).filter (!·.isEmpty) with
      | some referer => environment.urlOrigin referer = some request.origin
      | none => false

/-- The part of the proxy after its guards. `redirectParam` is the `redirect` query
parameter of the request. -/
def requireSession (request : HttpRequest) (redirectParam : Option JsString) : ProxyDecision :=
  let isApi := startsWith request.pathname (js "/api/")
  match environment.getSession request.headers with
  | .error _ =>
      if isApi then .respond (.error 403 (js "unauthorized"))
      else .redirect (.login ((redirectParam.filter (!·.isEmpty)).getD request.pathname))
  | .ok none =>
      if isApi then .respond (.error 403 (js "unauthorized"))
      else .redirect (.login request.pathname)
  | .ok (some user) =>
      if !user.emailVerified then
        if isApi then .respond (.error 403 (js "email_unverified")) else .redirect .verifyEmail
      else .next

def proxy (request : HttpRequest) (redirectParam : Option JsString) : ProxyDecision :=
  let pathname := request.pathname
  let isPassthrough := PASSTHROUGH_ROUTES.any (startsWith pathname)
  let isMutation := startsWith pathname (js "/api/") && MUTATION_METHODS.contains request.method
  if isMutation && !isPassthrough && !isSameOrigin environment request then
    .respond (.error 403 (js "Cross-origin request blocked"))
  else
    let contentLength := match request.header (js "content-length") with
      | none => some 0
      | some raw => contentLengthOf raw
    let isUploadRoute := UPLOAD_ROUTE_PREFIXES.any (startsWith pathname) ||
      UPLOAD_ROUTE_SUFFIXES.any (endsWith pathname)
    let limit := if isUploadRoute then MAX_UPLOAD_BYTES else MAX_BODY_BYTES
    if isMutation && !contentLength.any (· ≤ limit) then
      .respond (.error 413 (js "Request body too large"))
    else if isPassthrough then .next
    else if pathname = js "/" || PUBLIC_ROUTES.any (startsWith pathname) then .next
    else requireSession environment request redirectParam

/-- The extensions of the files the matcher leaves to the static handler. -/
def STATIC_EXTENSIONS : List JsString :=
  [js ".svg", js ".png", js ".jpg", js ".jpeg", js ".gif", js ".webp", js ".ico", js ".json",
    js ".webmanifest", js ".txt", js ".xml"]

/-- Whether `config.matcher` selects a path for the proxy. -/
def isMatched : JsString → Bool
  | [] => false
  | slash :: rest =>
      slash = 47 && !startsWith rest (js "_next/static") && !startsWith rest (js "_next/image") &&
        !(startsWith rest (js "favicon") && startsWith (rest.drop 8) (js "ico")) &&
        !STATIC_EXTENSIONS.any (endsWith rest)

/-- A request without an `Origin` and without a `Referer` comes from nowhere. -/
theorem isSameOrigin_eq_false {request : HttpRequest} (origin : request.header (js "origin") = none)
    (referer : request.header (js "referer") = none) :
    isSameOrigin environment request = false := by
  rw [isSameOrigin, origin, referer]
  rfl

/-- So the proxy answers its mutations of the API itself, unless the path is passed
through. -/
theorem proxy_eq_blocked {request : HttpRequest} {redirectParam : Option JsString}
    (api : startsWith request.pathname (js "/api/") = true)
    (mutation : MUTATION_METHODS.contains request.method = true)
    (guarded : PASSTHROUGH_ROUTES.any (startsWith request.pathname) = false)
    (origin : request.header (js "origin") = none)
    (referer : request.header (js "referer") = none) :
    proxy environment request redirectParam =
      .respond (.error 403 (js "Cross-origin request blocked")) := by
  rw [proxy, api, mutation, guarded, isSameOrigin_eq_false environment origin referer]
  rfl

end Vortex.Web
