import Mathlib.Algebra.Order.Ring.Rat
import MetricsAgent.Delivery.Uploader
import MetricsAgent.Proofs.Run.Quiet
import MetricsAgent.Proofs.Run.Telling

/-!
# One attempt

What others see of a delivery is its traffic: the requests, and the waits between them.  Time that
passes, lines of the log and requests to stop leave it alone, which is what `World.Silent` says.
Sending a payload once adds one request to it and comes to the outcome that what comes back decides
(`Endpoint.run_send`); so the outcomes of all attempts, made or not, are known beforehand
(`Endpoint.outcomes`).
-/

namespace MetricsAgent

open Script

/-! ## Traffic -/

/-- Whether an event is a request or a wait before one. -/
def Event.isTraffic : Event → Bool
  | .request .. => true
  | .sleep _ => true
  | _ => false

namespace World

variable {T : Type} {w u v : World T}

/-- The requests and the waits before them, the first one first. -/
def traffic (w : World T) : List Event :=
  (w.trace.reverse.map (·.2)).filter Event.isTraffic

lemma traffic_record (w : World T) (e : Event) :
    (w.record e).traffic = w.traffic ++ [e].filter Event.isTraffic :=
  happened_record Event.isTraffic w e

/-- The requests and the waits before them with their times, the first one first. -/
def timeline (w : World T) : List (T × Event) :=
  w.trace.reverse.filter (·.2.isTraffic)

lemma timeline_record (w : World T) (e : Event) :
    (w.record e).timeline = w.timeline ++ [(w.now, e)].filter (·.2.isTraffic) := by
  simp only [timeline, record, List.reverse_cons, List.filter_append]

lemma map_timeline (w : World T) : w.timeline.map (·.2) = w.traffic := by
  simp only [timeline, traffic, List.filter_map]
  rfl

/-- Two worlds between which nothing was sent and no delivery waited. -/
structure Silent (w u : World T) : Prop where
  requests : u.requests = w.requests
  timeline : u.timeline = w.timeline

namespace Silent

lemma refl (w : World T) : w.Silent w := ⟨rfl, rfl⟩

lemma trans (h : w.Silent u) (h' : u.Silent v) : w.Silent v :=
  ⟨h'.requests.trans h.requests, h'.timeline.trans h.timeline⟩

lemma traffic (h : w.Silent u) : u.traffic = w.traffic := by
  rw [← map_timeline, h.timeline, map_timeline]

lemma record {e : Event} (he : e.isTraffic = false) (w : World T) : w.Silent (w.record e) :=
  ⟨rfl, by rw [timeline_record]; simp [he]⟩

lemma of_quiet (h : w.Quiet u) : w.Silent u := by
  obtain ⟨_, _, _, _, _, _, rfl⟩ := h
  exact ⟨rfl, rfl⟩

end Silent
end World

namespace Script

variable {T : Type} [Seconds T]

lemma silent_sleep (duration : T) (w : World T) :
    ∃ u, (sleep duration).run w = (.ok (), u) ∧ w.Silent u := by
  rw [run_sleep]
  split
  · exact ⟨_, rfl, .of_quiet (w.quiet_pass false _)⟩
  · exact ⟨_, rfl, .refl w⟩

lemma silent_requestStop (reason : Option String) (w : World T) :
    ∃ u, (requestStop reason).run w = (.ok (), u) ∧ w.Silent u := by
  cases reason with
  | none => exact ⟨w, rfl, .refl w⟩
  | some r => exact ⟨_, rfl, .of_quiet (w.quiet_requestStop r)⟩

end Script

/-! ## Replies -/

namespace Reply

variable {T : Type}

/-- What a request comes to: the reply, or the failure of the connection. -/
def arrival (r : Reply T) : Except Fault (Reply T) :=
  match r.failure with
  | some f => .error f
  | none => .ok r

/-- Whether a reply means that the payload was accepted, and if not why. -/
def verdict (r : Reply T) : Except Fault Unit :=
  if accepts r.status then .ok ()
  else if rejects r.status then do
    let body ← r.body
    throw (.delivery
      (.rejected (Endpoint.firstNonempty [body, r.reason.getD "", signedText r.status])) none)
  else if r.status = 429 then
    match RetryAfter.delay? (r.header? "Retry-After") with
    | .ok d => throw (.delivery (.rateLimited d) none)
    | .error f => throw f
  else do
    let body ← r.body
    throw (.delivery (.server r.status (String.ofList (body.toList.take Endpoint.keptBody))) none)

end Reply

namespace Endpoint

variable {T : Type} [Seconds T]

lemma run_readBody (r : Reply T) (w : World T) : (readBody r).run w = (r.body, w) := by
  unfold readBody
  cases r.body <;> rfl

lemma run_checkReply (r : Reply T) (w : World T) : (checkReply r).run w = (r.verdict, w) := by
  unfold checkReply Reply.verdict
  dsimp only
  by_cases haccepts : Reply.accepts r.status = true
  · rw [if_pos haccepts, if_pos haccepts]
    rfl
  rw [if_neg haccepts, if_neg haccepts]
  by_cases hrejects : Reply.rejects r.status = true
  · rw [if_pos hrejects, if_pos hrejects, run_bind, run_readBody]
    cases r.body <;> rfl
  rw [if_neg hrejects, if_neg hrejects]
  by_cases hlimited : r.status = 429
  · rw [if_pos hlimited, if_pos hlimited]
    cases RetryAfter.delay? (r.header? "Retry-After") <;> rfl
  · rw [if_neg hlimited, if_neg hlimited, run_bind, run_readBody]
    cases r.body <;> rfl

/-! ## Requests -/

/-- A request goes out, and what comes back for it is the next of the replies. -/
lemma run_exchange (e : Endpoint T) (method url : String) (headers : Headers)
    (body : Option String) (w : World T) :
    ∃ u, (e.exchange method url headers body).run w = ((e.replies w.requests).arrival, u) ∧
      u.requests = w.requests + 1 ∧
      u.traffic = w.traffic ++ [.request method url headers body] := by
  let reply := e.replies w.requests
  let sent : World T := { w.record (.request method url headers body) with
    requests := w.requests + 1 }
  obtain ⟨u, hsleep, hu⟩ := silent_sleep reply.delay sent
  obtain ⟨v, hstop, hv⟩ := silent_requestStop reply.stopReason u
  refine ⟨v, ?_, (hu.trans hv).requests, (hu.trans hv).traffic.trans ?_⟩
  · unfold exchange Reply.arrival
    rw [run_bind_ok (run_record _ w), run_bind_ok (run_world _), run_bind_ok (run_change _ _)]
    refine (run_bind_ok hsleep).trans ((run_bind_ok hstop).trans ?_)
    show (match reply.failure with
      | some f => throw f
      | none => return reply : Script T (Reply T)).run v = (match reply.failure with
        | some f => .error f
        | none => .ok reply, v)
    cases reply.failure <;> rfl
  · exact World.traffic_record w (.request method url headers body)

lemma silent_openSession (e : Endpoint T) (w : World T) :
    ∃ u, e.openSession.run w = (.ok (), u) ∧ w.Silent u := by
  have hheld : w.Silent { w with session := .opened, ownsSession := true } := ⟨rfl, rfl⟩
  have hopened := hheld.trans (.record (e := .sessionOpen
    (.float e.settings.timeout.toBinary64) userAgent) rfl _)
  refine ⟨_, rfl, ?_⟩
  dsimp only
  cases w.session with
  | opened => exact .refl w
  | absent => exact hopened
  | closed => exact hopened

/-! ## Sending -/

/-- The request that delivers a payload. -/
def post (e : Endpoint T) (body : String) : Event :=
  .request "POST" e.settings.endpoint (e.credentials ++ payloadHeaders e.settings.compress)
    (some body)

/-- What an attempt comes to, by what comes back for its request. -/
def outcome (e : Endpoint T) (r : Reply T) : Except Fault Unit :=
  (r.arrival >>= Reply.verdict).mapError e.asRequestFault

/-- What the attempts come to that would be made one after the other from a world on. -/
def outcomes (e : Endpoint T) (w : World T) (k : ℕ) : Except Fault Unit :=
  e.outcome (e.replies (w.requests + k))

/-- An attempt makes one request and comes to what is decided by the reply. -/
theorem run_send (e : Endpoint T) (body : String) (w : World T) :
    ∃ u, (e.send body).run w = (e.outcome (e.replies w.requests), u) ∧
      u.requests = w.requests + 1 ∧ u.traffic = w.traffic ++ [e.post body] := by
  obtain ⟨v, hopen, hv⟩ := e.silent_openSession w
  obtain ⟨u, hexchange, hrequests, htraffic⟩ := e.run_exchange "POST" e.settings.endpoint
    (e.credentials ++ payloadHeaders e.settings.compress) (some body) v
  rw [hv.requests] at hexchange hrequests
  rw [hv.traffic] at htraffic
  unfold send outcome
  rw [run_bind_ok hopen]
  dsimp only
  rw [recover_eq, run_bind_ok (run_attempt _ _)]
  cases harrival : (e.replies w.requests).arrival with
  | error f =>
    rw [harrival] at hexchange
    rw [run_bind_error hexchange]
    exact ⟨u, rfl, hrequests, htraffic⟩
  | ok reply =>
    rw [harrival] at hexchange
    rw [run_bind_ok hexchange, run_bind_ok (run_log _ _ _ u), run_checkReply]
    refine ⟨u.logLine .debug .delivery
      ("Received response from server: " ++ signedText reply.status), ?_, hrequests, htraffic⟩
    show _ = (reply.verdict.mapError e.asRequestFault, _)
    cases reply.verdict <;> rfl

end Endpoint

/-! ## Scripted endpoints -/

/-- A payload in which nothing but the database is described. -/
def Payload.bare : Payload where
  agentVersion := MetricsAgent.agentVersion
  timestamp := ⟨⟨2024, 1, 15⟩, 10, 30, 0, 0, some 0⟩
  instanceId := "bare"
  database := ⟨"postgres", none, "generic", []⟩
  queries := none
  tables := none
  indexes := none
  settings := none
  schema := none

/-- A reply that comes at once, with a status and a body. -/
def Reply.immediate (status : Int) (body : Except Fault String) : Reply ℚ :=
  ⟨Seconds.zero, none, none, status, none, [], body⟩

namespace Endpoint

/-- An endpoint to which a payload is sent three times at most.  It gives the replies of a list, and
after them accepts what it is sent. -/
def scripted (replies : List (Reply ℚ)) : Endpoint ℚ where
  settings := ⟨defaultEndpoint, "key", .int 30, 2, true, .int 1⟩
  replies k := (replies[k]?).getD (.immediate 200 (.ok ""))

end Endpoint
end MetricsAgent
