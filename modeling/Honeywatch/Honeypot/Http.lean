import Honeywatch.Collector.Events
import Honeywatch.Collector.Failures
import Honeywatch.Foundation.FormEncoding

/-!
# The HTTP honeypot

`HTTPHoneypot._handle_request`, `_handle_login` and their helpers. A request is
what the framework hands over, the outcomes of both ways to read its body
included. A handler passes at most one event to `emit_event` and awaits it; an
answer holds the events passed and the response returned, or what the await
raised.
-/

namespace Honeywatch.Honeypot.Http

open Text Json Utf8 FormEncoding Collector

/-- A `web.Request`. Header values are as the framework decoded them. The remote
port comes with the peer name of the transport, while there is one. `read` is
the outcome of `request.read()`; `chunks` are the chunks of `iter_chunked`,
which raises after them when it is interrupted. -/
structure Request where
  method : Str
  path : Str
  headers : List (Str × Str) := []
  remote : Option Str := none
  peername : Option (Str × Int) := none
  contentLength : Option Int := none
  read : Option (List Byte) := some []
  chunks : List (List Byte) := []
  interrupted : Bool := false

/-- A `web.Response`. -/
structure Response where
  status : Int
  text : Str
  contentType : Str
  headers : List (Str × Str)

/-- What a handler did: the events passed to `emit_event`, and how it ended. -/
structure Answer where
  emitted : List AttackEvent
  result : Except Raised Response

/-- The settings of an `HTTPHoneypot`. The credential length is missing when the
settings cannot be read. -/
structure HTTPHoneypot where
  reportedPort : Int
  maxCredentialLengthRaw : Option Int

def fakeServerHeaders : List (Str × Str) :=
  [(literal "Server", literal "Apache/2.4.41 (Ubuntu)"),
    (literal "X-Powered-By", literal "PHP/7.4.3")]

def htmlIndex : String :=
  "\n".intercalate
    ["<!DOCTYPE html>",
      "<html>",
      "<head><title>Welcome</title></head>",
      "<body>",
      "<h1>It works!</h1>",
      "<p>This is the default web page for this server.</p>",
      "</body>",
      "</html>"]

def htmlLogin : String :=
  "\n".intercalate
    ["<!DOCTYPE html>",
      "<html>",
      "<head><title>Login</title></head>",
      "<body>",
      "<h1>Authorization Required</h1>",
      "<form method=\"POST\" action=\"/login\">",
      "    <label>Username: <input type=\"text\" name=\"user\"></label><br>",
      "    <label>Password: <input type=\"password\" name=\"pass\"></label><br>",
      "    <input type=\"submit\" value=\"Login\">",
      "</form>",
      "</body>",
      "</html>"]

def htmlLoginEmail : String :=
  "\n".intercalate
    ["<!DOCTYPE html>",
      "<html>",
      "<head><title>Login</title></head>",
      "<body>",
      "<h1>Authorization Required</h1>",
      "<form method=\"POST\" action=\"/login\">",
      "    <label>Email: <input type=\"email\" name=\"email\"></label><br>",
      "    <label>Password: <input type=\"password\" name=\"password\"></label><br>",
      "    <input type=\"submit\" value=\"Login\">",
      "</form>",
      "</body>",
      "</html>"]

def html404 : String :=
  "\n".intercalate
    ["<!DOCTYPE html>",
      "<html>",
      "<head><title>404 Not Found</title></head>",
      "<body>",
      "<h1>Not Found</h1>",
      "<p>The requested URL was not found on this server.</p>",
      "<hr>",
      "<address>Apache/2.4.41 (Ubuntu) Server</address>",
      "</body>",
      "</html>"]

def robotsTxt : String :=
  "\n".intercalate
    ["User-agent: *",
      "Disallow: /admin/",
      "Disallow: /api/",
      "Disallow: /private/",
      ""]

def adminPaths : List Str :=
  ["/admin", "/wp-admin", "/administrator", "/wp-login.php"].map literal

def loginPath : Str := literal "/login"

/-- `MAX_BODY_SIZE`. -/
def maxBodySize : Nat := 1048576

def loginAllowedMethods : List Str := ["GET", "POST"].map literal

/-- `BODY_PREVIEW_LIMIT`. -/
def bodyPreviewLimit : Nat := 8192

/-- `_body_preview_from_bytes`. -/
def bodyPreviewFromBytes (body : List Byte) : Option Str :=
  if body = [] then none else some (ofChars (decodeReplace (body.take bodyPreviewLimit)))

/-- `get_max_credential_length`. -/
def HTTPHoneypot.maxCredentialLength (honeypot : HTTPHoneypot) : Nat :=
  match honeypot.maxCredentialLengthRaw with
  | some value => if 1 ≤ value ∧ value ≤ 4096 then value.toNat else 256
  | none => 256

/-- `CredentialSubmission`. -/
structure CredentialSubmission where
  email : List Char
  password : List Char
  parsed : Bool

/-- `_extract_credentials`. -/
def HTTPHoneypot.extractCredentials (honeypot : HTTPHoneypot) (rawBody : List Byte) :
    CredentialSubmission :=
  match decodeStrict rawBody with
  | none => { email := [], password := [], parsed := false }
  | some decoded =>
    { email := (firstValue (parseQs decoded) "email").take honeypot.maxCredentialLength
      password := (firstValue (parseQs decoded) "password").take honeypot.maxCredentialLength
      parsed := true }

/-- `submission.email if submission.email else None`. -/
def nonEmpty (text : List Char) : Option Str :=
  if text = [] then none else some (ofChars text)

/-- `path.rstrip("/").lower()`. -/
def normalizedPath (path : Str) : Str := lower (rstrip (ofChar '/') path)

/-- `{k: v for k, v in request.headers.items()}`. -/
def headerDict (headers : List (Str × Str)) : List (Str × Str) := ofItems headers

/-- `request.headers.get("User-Agent", "")`; header names are case-insensitive. -/
def userAgent (headers : List (Str × Str)) : Str :=
  match headers.find? fun header => decide (lower header.1 = literal "user-agent") with
  | some header => header.2
  | none => []

/-- `request.remote or "0.0.0.0"`. -/
def Request.sourceIp (request : Request) : Str :=
  match request.remote with
  | some (point :: rest) => point :: rest
  | _ => literal "0.0.0.0"

/-- `peername[1] if peername else 0`. -/
def Request.sourcePort (request : Request) : Int :=
  match request.peername with
  | some peername => peername.2
  | none => 0

/-- The `AttackEvent` that a handler builds around its data. -/
def HTTPHoneypot.attackEvent (honeypot : HTTPHoneypot) (stamp : Stamp) (request : Request)
    (eventType : String) (data : HTTPEventData) : AttackEvent :=
  { id := stamp.id
    timestamp := stamp.timestamp
    sourceIp := request.sourceIp
    sourcePort := request.sourcePort
    destinationPort := honeypot.reportedPort
    protocol := .http
    eventType := literal eventType
    rawData := data.modelDump }

/-- A response with the headers that every response carries. -/
def respond (status : Int) (text contentType : String) : Response :=
  { status
    text := literal text
    contentType := literal contentType
    headers := fakeServerHeaders }

/-- `await self.emit_event(event)` with the given outcome, then the response. -/
def emitThenRespond (event : AttackEvent) (outcome : Except Raised Unit) (response : Response) :
    Answer :=
  { emitted := [event], result := outcome.map fun _ => response }

/-- The loop of `_read_body_limited` from its next chunk on; none is over the limit. -/
def readChunks (interrupted : Bool) (total : Nat) (kept : List Byte) :
    List (List Byte) → Option (List Byte)
  | [] => if interrupted then some [] else some kept
  | chunk :: rest =>
    if maxBodySize < total + chunk.length then none
    else readChunks interrupted (total + chunk.length) (kept ++ chunk) rest

/-- `_read_body_limited`. -/
def readBodyLimited (request : Request) : Option (List Byte) :=
  match request.contentLength with
  | some declared =>
    if (maxBodySize : Int) < declared then none
    else readChunks request.interrupted 0 [] request.chunks
  | none => readChunks request.interrupted 0 [] request.chunks

/-- `_determine_response`. -/
def determineResponse (_method path : Str) : Int × String × String :=
  if path = literal "/" ∨ path = [] then (200, htmlIndex, "text/html")
  else if path = literal "/robots.txt" then (200, robotsTxt, "text/plain")
  else if adminPaths.contains (normalizedPath path) then (401, htmlLogin, "text/html")
  else if literal "/api" <+: path then
    (403, "\x7b\"error\": \"Forbidden\", \"message\": \"Access denied\"\x7d", "application/json")
  else (404, html404, "text/html")

/-- What `_handle_login` records of a POST whose body it has read. -/
def loginEventData (honeypot : HTTPHoneypot) (request : Request) (rawBody : List Byte) :
    HTTPEventData :=
  let submission := honeypot.extractCredentials rawBody
  { method := request.method
    path := request.path
    headers := headerDict request.headers
    userAgent := userAgent request.headers
    bodyPreview := bodyPreviewFromBytes rawBody
    statusCode := 401
    email := nonEmpty submission.email
    password := nonEmpty submission.password }

/-- What `_handle_login` records of a GET. -/
def formEventData (request : Request) : HTTPEventData :=
  { method := request.method
    path := request.path
    headers := headerDict request.headers
    userAgent := userAgent request.headers
    bodyPreview := none
    statusCode := 200 }

/-- What `_handle_request` records of a request that is not for the login. -/
def requestEventData (request : Request) : HTTPEventData :=
  { method := request.method
    path := request.path
    headers := headerDict request.headers
    userAgent := userAgent request.headers
    bodyPreview := request.read.bind bodyPreviewFromBytes
    statusCode := (determineResponse request.method request.path).1 }

variable (honeypot : HTTPHoneypot) (stamp : Stamp) (request : Request)
  (outcome : Except Raised Unit)

/-- `_handle_login`, with the outcome of the await of `emit_event` it may make. -/
def handleLogin : Answer :=
  if !loginAllowedMethods.contains request.method then
    { emitted := [], result := .ok (respond 405 "Method Not Allowed" "text/plain") }
  else if request.method = literal "GET" then
    emitThenRespond (honeypot.attackEvent stamp request "http_request" (formEventData request))
      outcome (respond 200 htmlLoginEmail "text/html")
  else
    match readBodyLimited request with
    | none => { emitted := [], result := .ok (respond 413 "Payload Too Large" "text/plain") }
    | some rawBody =>
      emitThenRespond
        (honeypot.attackEvent stamp request "http_login_attempt"
          (loginEventData honeypot request rawBody))
        outcome (respond 401 htmlLoginEmail "text/html")

/-- `_handle_request`, with the outcome of the await of `emit_event` it may make. -/
def handleRequest : Answer :=
  if normalizedPath request.path = loginPath then handleLogin honeypot stamp request outcome
  else
    let (status, body, contentType) := determineResponse request.method request.path
    emitThenRespond (honeypot.attackEvent stamp request "http_request" (requestEventData request))
      outcome (respond status body contentType)

end Honeywatch.Honeypot.Http
