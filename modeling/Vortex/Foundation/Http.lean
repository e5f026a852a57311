import Vortex.Foundation.Utf8

/-!
# HTTP messages with JSON bodies

Requests and responses as the two ends of a connection see them. `serverFetch` is
the `fetch` of a server-side runtime: it sends the headers it is given and its own,
and since no page made the request, neither an `Origin` nor a `Referer`.
-/

namespace Foundation

structure HttpRequest where
  method : JsString
  origin : JsString
  pathname : JsString
  headers : List (JsString × JsString)
  body : List UInt8

structure HttpResponse where
  status : Nat
  body : List UInt8

/-- `headers.get(name)`, for a name in lower case. -/
def HttpRequest.header (request : HttpRequest) (name : JsString) : Option JsString :=
  (request.headers.find? fun header => header.1 = name).map Prod.snd

/-- The bytes of a JSON document. -/
def jsonBytes (value : Json) : List UInt8 := JsString.encodeUtf8 value.stringify

/-- `body.json()`; `none` when it throws. -/
def readJson (bytes : List UInt8) : Option Json := Json.parse (JsString.decodeUtf8 bytes)

/-- `Response.json(value, { status })`. -/
def HttpResponse.json (status : Nat) (value : Json) : HttpResponse := ⟨status, jsonBytes value⟩

/-- A response that only says what went wrong. -/
def HttpResponse.error (status : Nat) (text : JsString) : HttpResponse :=
  .json status (.obj [(js "error", .str text)])

/-- `response.ok` -/
def HttpResponse.ok (response : HttpResponse) : Bool :=
  200 ≤ response.status && response.status < 300

/-- The decimal text of a number. -/
def decimalText (number : Nat) : JsString := js (toString number)

theorem decimalText_eq (number : Nat) :
    decimalText number = (Nat.toDigits 10 number).flatMap utf16 := by
  have digits : toString number = String.ofList (Nat.toDigits 10 number) := rfl
  rw [decimalText, js, digits, String.toList_ofList]

/-- The headers a server-side runtime adds to a request with a body. -/
def runtimeHeaders (body : List UInt8) : List (JsString × JsString) :=
  [(js "content-length", decimalText body.length), (js "accept", js "*/*"),
    (js "accept-language", js "*"), (js "sec-fetch-mode", js "cors"), (js "user-agent", js "node"),
    (js "accept-encoding", js "gzip, deflate")]

/-- The request that `fetch(origin + pathname, { method: "POST", headers, body })` sends. -/
def serverFetch (origin pathname : JsString) (headers : List (JsString × JsString))
    (body : List UInt8) : HttpRequest where
  method := js "POST"
  origin := origin
  pathname := pathname
  headers := headers ++ runtimeHeaders body
  body := body

/-- A printed document is received as it was sent. -/
theorem readJson_jsonBytes {value : Json} (printable : value.Printable) :
    readJson (jsonBytes value) = some value := by
  rw [readJson, jsonBytes,
    JsString.decodeUtf8_encodeUtf8 (Json.wellFormed_stringify value printable),
    Json.parse_stringify printable]

end Foundation
