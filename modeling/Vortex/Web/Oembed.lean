import Vortex.Foundation.IpAddress
import Vortex.Gateway.Messages

/-!
# The link preview route

`GET /api/oembed` fetches a page for a user, so it must not fetch one the user could not
reach: the host of every URL is resolved, the addresses that `isPrivateIp` knows are
struck out, and the connection is opened to one of the others, again for every redirect.
The URL parser, the case folding of strings and the clock behind the abort signal are
parameters; what `parseOG` makes of a page is left out.
-/

namespace Vortex.Web

open Foundation
open JsString (number?)
open Vortex.Gateway (trim)

namespace Oembed

def MAX_REDIRECTS : Nat := 3

/-! ## The address test -/

/-- The lower case of an ASCII letter. -/
def lower (unit : UInt16) : UInt16 := if 65 ≤ unit && unit ≤ 90 then unit + 32 else unit

/-- `/^opening/i.test(text)` -/
def opensWith (text opening : JsString) : Bool := (text.take opening.length).map lower = opening

/-- `ip.match(/^::ffff:(\d+\.\d+\.\d+\.\d+)$/i)`, the group. -/
def v4mapped (ip : JsString) : Option JsString :=
  let rest := ip.drop 7
  let parts := rest.splitOn 46
  if opensWith ip (js "::ffff:") && parts.length = 4 &&
      parts.all (fun part => !part.isEmpty && part.all Json.isDigit) then some rest
  else none

/-- The tests on the first two numbers of a dotted address. -/
def isPrivateV4 (a b : ℚ) : Bool :=
  a = 10 || (a = 172 && 16 ≤ b && b ≤ 31) || (a = 192 && b = 168) || a = 127 ||
    (a = 169 && b = 254) || (a = 100 && 64 ≤ b && b ≤ 127) || a = 0

def isPrivateV6 (ip : JsString) : Bool :=
  ip = js "::1" || (opensWith ip (js "fc") || opensWith ip (js "fd")) ||
    [js "fe8", js "fe9", js "fea", js "feb"].any (opensWith ip)

/-- `isPrivateIp` after the test for a mapped address. -/
def isPrivateUnmapped (ip : JsString) : Bool :=
  match (ip.splitOn 46).map fun part => number? (trim part) with
  | [some a, some b, some c, some d] =>
      if [a, b, c, d].all fun p => 0 ≤ p && p ≤ 255 then isPrivateV4 a b else isPrivateV6 ip
  | _ => isPrivateV6 ip

/-- Returns true if the IP falls in a private/reserved range. -/
def isPrivateIp (ip : JsString) : Bool := isPrivateUnmapped ((v4mapped ip).getD ip)

theorem opensWith_iff {text opening : JsString} :
    opensWith text opening = true ↔ (text.take opening.length).map lower = opening :=
  decide_eq_true_iff

theorem head_of_opensWith {text opening : JsString} {unit : UInt16}
    (opens : opensWith text (unit :: opening) = true) :
    ∃ first rest, text = first :: rest ∧ lower first = unit := by
  rw [opensWith_iff] at opens
  cases text with
  | nil => cases opens
  | cons first rest => exact ⟨first, rest, rfl, (List.cons.inj opens).1⟩

theorem eq_colon_of_lower {unit : UInt16} (colon : lower unit = 58) : unit = 58 := by
  unfold lower at colon
  split at colon
  · rename_i upper
    simp only [Bool.and_eq_true, decide_eq_true_eq, UInt16.le_iff_toNat_le] at upper
    have sum : (unit + 32).toNat = 58 := congrArg UInt16.toNat colon
    rw [UInt16.toNat_add] at sum
    have high : unit.toNat ≤ 90 := upper.2
    have low : 65 ≤ unit.toNat := upper.1
    have bound : (32 : UInt16).toNat = 32 := rfl
    omega
  · exact colon

/-- What `v4mapped` finds is four runs of digits after a mapped prefix. -/
theorem v4mapped_eq_some {ip inner : JsString} :
    v4mapped ip = some inner ↔ inner = ip.drop 7 ∧ opensWith ip (js "::ffff:") = true ∧
      (inner.splitOn 46).length = 4 ∧
        ∀ part ∈ inner.splitOn 46, part ≠ [] ∧ part.all Json.isDigit = true := by
  unfold v4mapped
  dsimp only
  constructor
  · intro unwrapped
    split at unwrapped
    · rename_i fits
      cases unwrapped
      simp only [Bool.and_eq_true, decide_eq_true_eq, List.all_eq_true, Bool.not_eq_true',
        List.isEmpty_eq_false_iff] at fits
      refine ⟨rfl, fits.1.1, fits.1.2, fun part member => ?_⟩
      rw [List.all_eq_true]
      exact fits.2 part member
    · cases unwrapped
  · intro ⟨same, opens, four, digits⟩
    subst same
    refine if_pos ?_
    simp only [Bool.and_eq_true, decide_eq_true_eq, List.all_eq_true, Bool.not_eq_true',
      List.isEmpty_eq_false_iff] at digits ⊢
    exact ⟨⟨opens, four⟩, digits⟩

/-- A text without a colon at its start is not mapped. -/
theorem v4mapped_eq_none {ip : JsString} (plain : ∀ rest, ip ≠ 58 :: rest) :
    v4mapped ip = none := by
  rw [Option.eq_none_iff_forall_not_mem]
  intro inner unwrapped
  obtain ⟨-, opens, -⟩ := v4mapped_eq_some.mp unwrapped
  obtain ⟨first, rest, same, colon⟩ := head_of_opensWith opens
  rw [eq_colon_of_lower colon] at same
  exact plain rest same

/-- What `v4mapped` finds is digits and points. -/
theorem numeric_of_v4mapped {ip inner : JsString} (unwrapped : v4mapped ip = some inner)
    (unit : UInt16) (inside : unit ∈ inner) : Json.isDigit unit = true ∨ unit = 46 := by
  obtain ⟨-, -, -, digits⟩ := v4mapped_eq_some.mp unwrapped
  have joined : [46].intercalate (inner.splitOn 46) = inner := List.intercalate_splitOn 46
  rw [← joined] at inside
  rcases mem_of_mem_intercalate inside with ⟨part, member, within⟩ | separator
  · exact Or.inl (List.all_eq_true.mp (digits part member).2 unit within)
  · exact Or.inr (List.mem_singleton.mp separator)

/-- What is mapped is not mapped again, so unwrapping once is unwrapping as the source
does, by calling itself. -/
theorem isPrivateIp_eq (ip : JsString) :
    isPrivateIp ip = match v4mapped ip with
      | some inner => isPrivateIp inner
      | none => isPrivateUnmapped ip := by
  unfold isPrivateIp
  cases unwrapped : v4mapped ip with
  | none => rfl
  | some inner =>
    have plain : v4mapped inner = none := by
      refine v4mapped_eq_none fun rest same => ?_
      rcases numeric_of_v4mapped unwrapped 58 (same ▸ List.mem_cons_self) with digit | point
      · cases digit
      · cases point
    dsimp only
    rw [plain]
    rfl

/-! ## The route -/

/-- What is read of a parsed URL. -/
structure EmbedUrl where
  protocol : JsString
  hostname : JsString
  port : JsString
  pathname : JsString
  search : JsString
  host : JsString
  origin : JsString

/-- The URL parser (of a text, relative to a URL or not), the lower case of a string, and
the configured domains. -/
structure OembedEnvironment where
  parseUrl : JsString → Option EmbedUrl → Option EmbedUrl
  toLowerCase : JsString → JsString
  EMBED_BLOCKED_DOMAINS : Option JsString

structure OembedCall where
  environment : OembedEnvironment
  clientIp : Option JsString
  url : Option JsString

/-- What is read of the response of a fetched host. -/
structure PinnedFetchResponse where
  status : Nat
  location : Option JsString
  contentType : JsString
  body : List UInt8

inductive FetchError
  | abort
  | other
  deriving DecidableEq

/-- The awaited calls: the rate limiter, the resolver, and a connection to one address. -/
inductive OembedRequest
  | check (key : JsString)
  | lookup (hostname : JsString)
  | fetchWithPinnedAddress (targetUrl : EmbedUrl) (pinnedAddress : Address)

def oembedInterface : Interface where
  Request := OembedRequest
  Answer
    | .check _ => Bool
    | .lookup _ => Except Unit (List Address)
    | .fetchWithPinnedAddress _ _ => Except FetchError PinnedFetchResponse

/-- The response, or the page `parseOG` is given with the URL it came from. -/
inductive OembedResult
  | respond (response : HttpResponse)
  | page (html : JsString) (currentUrl : EmbedUrl)

abbrev OembedProc : Type → Type := Proc oembedInterface FetchError

def check (key : JsString) : OembedProc Bool := .await (.check key) fun answer => .done (.ok answer)

def lookup (hostname : JsString) : OembedProc (Except Unit (List Address)) :=
  .await (.lookup hostname) fun answer => .done (.ok answer)

def fetchWithPinnedAddress (targetUrl : EmbedUrl) (pinnedAddress : Address) :
    OembedProc (Except FetchError PinnedFetchResponse) :=
  .await (.fetchWithPinnedAddress targetUrl pinnedAddress) fun answer => .done (.ok answer)

section

variable (environment : OembedEnvironment)

def normalizeHost (value : JsString) : JsString :=
  ((environment.toLowerCase value).reverse.dropWhile (· = 46)).reverse

def getBlockedEmbedDomains : List JsString :=
  (((environment.EMBED_BLOCKED_DOMAINS.getD []).splitOn 44).map fun value =>
    normalizeHost environment (trim value)).filter (!·.isEmpty)

def isBlockedEmbedHost (hostname : JsString) : Bool :=
  let normalizedHost := normalizeHost environment hostname
  (getBlockedEmbedDomains environment).any fun domain =>
    normalizedHost = domain || endsWith normalizedHost (46 :: domain)

/-- The addresses of a host that may be connected to, or the response that says why there
are none. -/
def validateHost (parsedUrl : EmbedUrl) : OembedProc (Except HttpResponse (List Address)) := do
  if isBlockedEmbedHost environment parsedUrl.hostname then
    return .error (.error 403 (js "domain blocked"))
  else
    match ← lookup parsedUrl.hostname with
    | .error () => return .error (.error 400 (js "invalid url"))
    | .ok found =>
        let addresses := found.filter fun address => !isPrivateIp address.text
        if addresses.isEmpty then return .error (.error 403 (js "forbidden"))
        else return .ok addresses

/-- Try the addresses in order: the first response, or the last error. -/
def fetchAny (currentUrl : EmbedUrl) :
    List Address → Option FetchError → OembedProc (Except (Option FetchError) PinnedFetchResponse)
  | [], fetchError => return .error fetchError
  | address :: rest, _ => do
      match ← fetchWithPinnedAddress currentUrl address with
      | .ok resp => return .ok resp
      | .error error => fetchAny currentUrl rest (some error)

/-- `["http:", "https:"].includes(url.protocol)` -/
def webUrl (parsed : Option EmbedUrl) : Option EmbedUrl :=
  parsed.filter fun url => url.protocol = js "http:" || url.protocol = js "https:"

/-- The redirect loop, with the turns that are left: the response that ends the request
early, or the last fetched response that is still set, with the URL it came from. -/
def followRedirects : Nat → EmbedUrl → List Address →
    OembedProc (Except HttpResponse (Option PinnedFetchResponse × EmbedUrl))
  | 0, currentUrl, _ => return .ok (none, currentUrl)
  | turns + 1, currentUrl, addresses => do
      match ← fetchAny currentUrl addresses none with
      | .error (some .abort) => throw .abort
      | .error _ => return .error (.error 403 (js "forbidden"))
      | .ok resp =>
          if 300 ≤ resp.status && resp.status < 400 then
            match resp.location.filter (!·.isEmpty) with
            | none => return .error (.error 502 (js "redirect failed"))
            | some location =>
                match webUrl (environment.parseUrl location (some currentUrl)) with
                | none => return .error (.error 400 (js "invalid redirect"))
                | some nextUrl => do
                    match ← validateHost environment nextUrl with
                    | .error response => return .error response
                    | .ok validation => followRedirects turns nextUrl validation
          else return .ok (some resp, currentUrl)

end

/-- What is made of the response the redirects lead to. -/
def readPage (resp : Option PinnedFetchResponse) (currentUrl : EmbedUrl) : OembedResult :=
  match resp with
  | none => .respond (.error 502 (js "fetch failed"))
  | some resp =>
      if 300 ≤ resp.status && resp.status < 400 then
        .respond (.error 502 (js "too many redirects"))
      else if resp.status < 200 || 300 ≤ resp.status then .respond (.error 502 (js "fetch failed"))
      else if !resp.contentType.tails.any (startsWith · (js "text/html")) then .respond (.error 422 (js "not html"))
      else .page (JsString.decodeUtf8 resp.body) currentUrl

/-- What the route answers when something threw. -/
def caught : FetchError → OembedResult
  | .abort => .respond (.error 504 (js "timeout"))
  | .other => .respond (.error 500 (js "internal error"))

def GET (call : OembedCall) : OembedProc OembedResult := do
  let ip := call.clientIp.getD (js "unknown")
  let allowed ← check (js "oembed:" ++ ip)
  if !allowed then return .respond (.error 429 (js "Rate limited"))
  else
    match call.url.filter (!·.isEmpty) with
    | none => return .respond (.error 400 (js "url required"))
    | some url =>
        match webUrl (call.environment.parseUrl url none) with
        | none => return .respond (.error 400 (js "invalid url"))
        | some parsedUrl => do
            match ← validateHost call.environment parsedUrl with
            | .error response => return .respond response
            | .ok initialValidation =>
                tryCatch
                  (do
                    match ← followRedirects call.environment (MAX_REDIRECTS + 1) parsedUrl
                        initialValidation with
                    | .error response => return .respond response
                    | .ok (resp, currentUrl) => return readPage resp currentUrl)
                  fun error => return caught error

end Oembed

end Vortex.Web
