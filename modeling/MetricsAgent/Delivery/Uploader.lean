import MetricsAgent.Delivery.Reply
import MetricsAgent.Payload.Document
import MetricsAgent.Run.Activity

/-!
# Delivery

Payloads are posted to an endpoint.  Every failure but rejected credentials is tried again until the
attempts are used up; the wait before an attempt doubles each time, and an endpoint that asks for a
delay replaces the next one.  A session is opened on first use and closed by whoever opened it.
-/

namespace MetricsAgent

open Script

/-- An endpoint: how to deliver to it, and what it answers to each request. -/
structure Endpoint (T : Type) where
  settings : DeliverySettings
  replies : Nat → Reply T

namespace Endpoint

variable {T : Type} [Seconds T]

/-! ## Faults -/

/-- A payload that cannot be written is a failed delivery. -/
def unprintable (f : Payload.FormatFault) : Fault :=
  (Fault.delivery (.serialization f.message) none).because f.toFault

/-- Failures of the connection and timeouts become failed requests. -/
def asRequestFault (e : Endpoint T) (f : Fault) : Fault :=
  if f.isTransport then
    (Fault.delivery (.request (if f.text.isEmpty then f.name else f.text)) none).because f
  else if f.isTimeout then
    (Fault.delivery (.request
      ("timed out after " ++ Decimal.general 6 false e.settings.timeout.toBinary64 ++ "s")) none).because f
  else f

/-! ## Sessions -/

/-- The name that the agent gives itself. -/
def userAgent : Headers := [("User-Agent", "dbpulse/" ++ agentVersion)]

/-- Opens a session unless one is open. -/
def openSession (e : Endpoint T) : Script T Unit :=
  change fun w =>
    match w.session with
    | .opened => w
    | _ =>
      { w with session := .opened, ownsSession := true }.record
        (.sessionOpen (.float e.settings.timeout.toBinary64) userAgent)

/-- Closes the session if the agent has opened it. -/
def close : Script T Unit :=
  change fun w =>
    if w.ownsSession then
      let w := match w.session with
        | .opened => w.record .sessionClose
        | _ => w
      { w with session := .absent }
    else w

/-- Does something and closes the session in the end. -/
def closing {R : Type} (s : Script T R) : Script T R :=
  s.ensuring close

/-! ## Requests -/

/-- The headers that identify the agent. -/
def credentials (e : Endpoint T) : Headers :=
  [("Authorization", "Bearer " ++ e.settings.apiKey), ("X-Agent-Version", agentVersion)]

/-- The headers of a payload; the reply may be compressed or not. -/
def payloadHeaders (compress : Bool) : Headers :=
  [("Content-Type", "application/json"),
    ("Accept-Encoding", if compress then "gzip" else "identity")]

/-- Sends a request and waits for what comes back. -/
def exchange (e : Endpoint T) (method url : String) (headers : Headers) (body : Option String) :
    Script T (Reply T) := do
  record (.request method url headers body)
  let w ← world
  let reply := e.replies w.requests
  change fun w => { w with requests := w.requests + 1 }
  sleep reply.delay
  requestStop reply.stopReason
  match reply.failure with
  | some f => throw f
  | none => return reply

/-- The body of a reply. -/
def readBody (r : Reply T) : Script T String :=
  match r.body with
  | .ok s => succeed s
  | .error f => fail f

/-- The longest part of a body that is kept in a message. -/
def keptBody : Nat := 1000

/-- The first of several texts that is not empty. -/
def firstNonempty : List String → String
  | [] => ""
  | s :: rest => if s.isEmpty then firstNonempty rest else s

/-- Whether a reply means that the payload was accepted. -/
def checkReply (r : Reply T) : Script T Unit := do
  if Reply.accepts r.status then return ()
  if Reply.rejects r.status then
    let body ← readBody r
    throw (.delivery (.rejected (firstNonempty [body, r.reason.getD "", signedText r.status])) none)
  if r.status = 429 then
    match RetryAfter.delay? (r.header? "Retry-After") with
    | .ok d => throw (.delivery (.rateLimited d) none)
    | .error f => throw f
  let body ← readBody r
  throw (.delivery (.server r.status (String.ofList (body.toList.take keptBody))) none)

/-- Posts a body once. -/
def send (e : Endpoint T) (body : String) : Script T Unit := do
  openSession e
  let post : Script T Unit := do
    let reply ← e.exchange "POST" e.settings.endpoint (e.credentials ++ payloadHeaders e.settings.compress) (some body)
    log .debug .delivery ("Received response from server: " ++ signedText reply.status)
    checkReply reply
  post.recover fun f => fail (e.asRequestFault f)

/-! ## Attempts -/

/-- How many attempts are made at most. -/
def totalAttempts (e : Endpoint T) : Int :=
  e.settings.maxRetries + 1

/-- An attempt by its number, out of all. -/
def attemptText (e : Endpoint T) (attempt : Nat) : String :=
  decimalText (attempt + 1) ++ "/" ++ signedText e.totalAttempts

/-- Waits before an attempt that is not the first. -/
def waitBefore (e : Endpoint T) (attempt : Nat) (delay : T) : Script T Unit := do
  log .warning .delivery
    ("Retrying upload in " ++ Decimal.fixed 1 (Seconds.shown delay) ++ "s (attempt "
      ++ e.attemptText attempt ++ ")")
  record (.sleep (Seconds.toNumber delay))
  sleep delay

/-- The wait before the attempt after the next one. -/
def doubled (delay : T) : T :=
  Seconds.mul delay (Seconds.ofNumber (.int 2))

/-- The delay that a fault asks for, or else the given one. -/
def delayAfter (delay : T) (f : Fault) : T :=
  match f.delivery? with
  | some (.rateLimited (some d)) => Seconds.ofNumber d
  | _ => delay

/-- A fault that is not tried again. -/
def isFinal (f : Fault) : Bool :=
  match f.delivery? with
  | some (.rejected _) => true
  | some _ => false
  | none => true

/-- Makes the attempts that are left, of which the first has the given number; `delay` is the wait
before the next retry. -/
def attempts (e : Endpoint T) (body : String) : Nat → Nat → T → Fault → Script T Unit
  | 0, _, _, last => do
    logFault .error .delivery
      ("Upload failed after " ++ signedText e.totalAttempts ++ " attempts: ") last
    throw last
  | left + 1, attempt, delay, _ => do
    if attempt ≠ 0 then e.waitBefore attempt delay
    let delay := if attempt = 0 then delay else doubled delay
    match ← (e.send body).attempt with
    | .ok () =>
      log .info .delivery ("Metrics uploaded successfully (attempt " ++ e.attemptText attempt ++ ")")
    | .error f =>
      if isFinal f then
        if f.isDelivery then
          logFault .error .delivery "Upload rejected, not retrying: " f
        throw f
      else
        logFault .error .delivery ("Upload attempt " ++ e.attemptText attempt ++ " failed: ") f
        attempts e body left (attempt + 1) (delayAfter delay f) f

/-- Delivers a payload. -/
def upload (e : Endpoint T) (c : Collected) : Script T Unit := do
  match c.format Json.wire with
  | .error f =>
    throw (unprintable f)
  | .ok body =>
    log .info .delivery
      ("Uploading metrics to " ++ e.settings.endpoint ++ " (" ++ decimalText body.utf8ByteSize
        ++ " bytes)")
    e.attempts body e.totalAttempts.toNat 0 (Seconds.ofNumber e.settings.retryBaseDelay)
      (.delivery .exhausted none)

/-! ## Probe -/

/-- Asks the health probe of the endpoint once. -/
def probe (e : Endpoint T) : Script T Unit := do
  let url := healthUrl e.settings.endpoint
  log .debug .delivery ("Testing connection to " ++ url)
  openSession e
  let reply ← (e.exchange "GET" url e.credentials none).recover fun f => fail (e.asRequestFault f)
  if 200 ≤ reply.status ∧ reply.status < 300 then
    log .info .delivery "Connection to ingestion endpoint verified"
  else if Reply.rejects reply.status then
    throw (.delivery (.rejected "Invalid API key") none)
  else throw (.delivery (.server reply.status "Health check failed") none)

end Endpoint

end MetricsAgent
