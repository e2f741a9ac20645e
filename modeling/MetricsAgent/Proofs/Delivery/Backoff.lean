import MetricsAgent.Proofs.Delivery.Faults
import MetricsAgent.Proofs.Number.Rounding
import MetricsAgent.Proofs.Run.Keeping
import MetricsAgent.Proofs.Run.Passing
import MetricsAgent.Proofs.Settings.Usable

/-!
# Backoff

The wait between two attempts is carried along by the loop: it doubles with every attempt, and a
reply that limits the rate and names a delay replaces it.  Unrolled, the wait before an attempt is
what was asked for last, or the base delay if nothing was, doubled once for each attempt made since
then (`Endpoint.wait_of_asked`, `Endpoint.wait_of_none_asked`).

A wait is seen in the times at which requests are made, so deliveries are looked at with the time of
each request and each wait (`World.timeline`).  That the waits are never negative is made sure of by
the settings and by how a delay that is asked for is read.
-/

namespace MetricsAgent

open Script

/-! ## Delays that are asked for -/

namespace RetryAfter

variable {value : Option String}

/-- A delay that can be used is an exact number that is not negative. -/
lemma exists_toRat? {d : Number} (h : delay? value = .ok (some d)) :
    ∃ q, d.toRat? = some q ∧ 0 ≤ q := by
  unfold delay? at h
  split at h
  · next n _ =>
    dsimp only at h
    split at h
    · next hfinite =>
      cases h
      exact Binary64.exists_toRat? hfinite (Binary64.isNegative_ofRatio _ _ _)
    · cases h
  · cases h

end RetryAfter

namespace Reply

variable {T : Type}

/-- What goes wrong on the way is no fault of the agent's own deliveries. -/
structure IsForeign (r : Reply T) : Prop where
  failure : ∀ f, r.failure = some f → f.isDelivery = false
  body : ∀ f, r.body = .error f → f.isDelivery = false

variable [Seconds T]

/-- The delay that a reply asks for: it has to limit the rate and to name a usable delay. -/
def asked? (r : Reply T) : Option T :=
  if r.failure.isNone ∧ r.status = 429 then
    match RetryAfter.delay? (r.header? "Retry-After") with
    | .ok d => d.map Seconds.ofNumber
    | .error _ => none
  else none

end Reply

namespace Endpoint

section Asking

variable {T : Type} [Seconds T] {e : Endpoint T} {r : Reply T}

/-- The delay that the outcome of an attempt asks for. -/
def askedBy? : Except Fault Unit → Option T
  | .ok _ => none
  | .error f =>
    match f.delivery? with
    | some (.rateLimited d) => d.map Seconds.ofNumber
    | _ => none

lemma delayAfter_eq (delay : T) (f : Fault) :
    delayAfter delay f = (askedBy? (.error f)).getD delay := by
  simp only [delayAfter, askedBy?]
  cases f.delivery? with
  | none => rfl
  | some d =>
    cases d with
    | rateLimited d => cases d <;> rfl
    | _ => rfl

lemma askedBy?_of_not_isDelivery {f : Fault} (hf : f.isDelivery = false) :
    askedBy? (T := T) (.error f) = none := by
  have hnone : f.delivery? = none := by simpa [Fault.isDelivery] using hf
  simp only [askedBy?, hnone]

lemma askedBy?_asRequestFault {f : Fault} (hf : f.isDelivery = false) :
    askedBy? (T := T) (.error (e.asRequestFault f)) = none := by
  by_cases hkind : f.isTransport = true ∨ f.isTimeout = true
  · obtain ⟨message, hmessage⟩ := asRequestFault_eq (e := e) hkind
    rw [hmessage]
    rfl
  · rw [not_or] at hkind
    unfold asRequestFault
    rw [if_neg hkind.1, if_neg hkind.2, askedBy?_of_not_isDelivery hf]

/-- What is asked for by a reply that arrived. -/
lemma askedBy?_verdict (hbody : ∀ f, r.body = .error f → f.isDelivery = false)
    (hr : r.failure = none) :
    askedBy? (r.verdict.mapError e.asRequestFault) = r.asked? := by
  unfold Reply.verdict
  by_cases hlimited : r.status = 429
  · unfold Reply.asked?
    rw [hr, hlimited, if_neg (by decide), if_neg (by decide), if_pos rfl, if_pos ⟨rfl, rfl⟩]
    cases hdelay : RetryAfter.delay? (r.header? "Retry-After") with
    | ok d => rfl
    | error f =>
      rw [RetryAfter.eq_tooLong hdelay]
      exact askedBy?_asRequestFault rfl
  · have hnone : r.asked? = none := if_neg fun h => hlimited h.2
    rw [hnone, if_neg hlimited]
    split
    · rfl
    · split
      all_goals
        cases hread : r.body with
        | ok text => rfl
        | error f => exact askedBy?_asRequestFault (hbody f hread)

/-- An attempt asks for what its reply asks for. -/
lemma askedBy?_outcome (hr : r.IsForeign) : askedBy? (e.outcome r) = r.asked? := by
  cases hfailure : r.failure with
  | some f =>
    rw [outcome_of_failure hfailure, askedBy?_asRequestFault (hr.failure f hfailure), Reply.asked?,
      hfailure, if_neg (by simp)]
  | none =>
    rw [outcome_of_arrival hfailure, askedBy?_verdict hr.body hfailure]

/-! ## Waits unrolled -/

variable {o : ℕ → Except Fault Unit} {k n : ℕ} {d : T}

/-- The wait before the attempt after the next, if nothing is asked for meanwhile. -/
lemma wait_succ_of_asked (e : Endpoint T) (hk : askedBy? (o k) = some d) :
    e.wait o (k + 1) = d := by
  cases ho : o k with
  | ok _ =>
    rw [ho] at hk
    cases hk
  | error f => rw [wait_succ e ho, delayAfter_eq, ← ho, hk, Option.getD_some]

lemma wait_succ_of_none (e : Endpoint T) (hk : askedBy? (T := T) (o k) = none) :
    e.wait o (k + 1) = if k = 0 then e.wait o k else doubled (e.wait o k) := by
  cases ho : o k with
  | ok _ =>
    rw [wait, ho]
  | error f => rw [wait_succ e ho, delayAfter_eq, ← ho, hk, Option.getD_none]

/-- After a delay was asked for, each attempt that asks for none doubles it. -/
lemma wait_of_asked (e : Endpoint T) (hk : askedBy? (o k) = some d)
    (hnone : ∀ i, k < i → i ≤ k + n → askedBy? (T := T) (o i) = none) :
    e.wait o (k + n + 1) = doubled^[n] d := by
  induction n with
  | zero => exact wait_succ_of_asked e hk
  | succ n ih =>
    rw [← Nat.add_assoc, wait_succ_of_none e (hnone _ (by omega) (by omega)), if_neg (by omega),
      ih fun i hi hn => hnone i hi (by omega), Function.iterate_succ_apply']

/-- As long as no delay was asked for, each attempt but the first doubles the base delay. -/
lemma wait_of_none_asked (e : Endpoint T)
    (hnone : ∀ i ≤ n, askedBy? (T := T) (o i) = none) :
    e.wait o (n + 1) = doubled^[n] (Seconds.ofNumber e.settings.retryBaseDelay) := by
  induction n with
  | zero => rw [wait_succ_of_none e (hnone 0 le_rfl), if_pos rfl, wait, Function.iterate_zero_apply]
  | succ n ih =>
    rw [wait_succ_of_none e (hnone _ le_rfl), if_neg (Nat.succ_ne_zero n),
      ih fun i hi => hnone i (by omega), Function.iterate_succ_apply']

end Asking
end Endpoint

/-! ## Requests and their times -/

namespace World

variable {T : Type}

lemma lasting_timeline : Lasting fun w u : World T => u.timeline = w.timeline where
  trans h h' := h'.trans h
  of_quiet h := by
    obtain ⟨_, _, _, _, _, _, rfl⟩ := h
    rfl

end World

namespace Endpoint

section Times

variable {T : Type} [Seconds T] (e : Endpoint T)

/-- A request is made at once. -/
lemma timeline_exchange (method url : String) (headers : Headers) (body : Option String)
    (w : World T) : ((e.exchange method url headers body).run w).2.timeline
      = w.timeline ++ [(w.now, .request method url headers body)] := by
  have hK := World.lasting_timeline (T := T)
  unfold exchange
  rw [run_bind_ok (run_record _ w)]
  refine Eq.trans ?_ (w.timeline_record (.request method url headers body))
  refine hK.bind hK.world (fun u => ?_) _
  refine hK.bind (.change fun _ => rfl) fun _ => hK.bind (hK.sleep _) fun _ => ?_
  refine hK.bind (hK.requestStop _) fun _ => ?_
  split
  · exact hK.throw _
  · exact hK.pure _

lemma run_openSession (w : World T) :
    ∃ u, e.openSession.run w = (.ok (), u) ∧ u.now = w.now ∧ u.timeline = w.timeline := by
  refine ⟨_, rfl, ?_⟩
  dsimp only
  cases w.session with
  | opened => exact ⟨rfl, rfl⟩
  | absent | closed =>
    exact ⟨rfl, (World.timeline_record _ _).trans (List.append_nil _)⟩

/-- A payload is sent at once. -/
lemma timeline_send (body : String) (w : World T) :
    ((e.send body).run w).2.timeline = w.timeline ++ [(w.now, e.post body)] := by
  have hK := World.lasting_timeline (T := T)
  obtain ⟨v, hopen, hnow, htimeline⟩ := e.run_openSession w
  unfold send
  rw [run_bind_ok hopen, recover_eq, ← hnow, ← htimeline]
  -- What follows the request, within the attempt and after it, adds nothing to the timeline.
  refine (hK.after _ (fun o => ?_) v).trans ?_
  · cases o with
    | ok r => exact hK.pure r
    | error f => exact hK.throw _
  · rw [run_attempt]
    refine (hK.after _ (fun reply => hK.bind (hK.log _ _ _) fun _ u => ?_) v).trans
      (e.timeline_exchange _ _ _ _ v)
    rw [run_checkReply]

end Times

/-! ## Attempts and their times -/

section Attempts

variable (e : Endpoint ℚ)

/-- A wait takes its time. -/
lemma run_waitBefore_timed (k : ℕ) {delay : ℚ} (hdelay : 0 ≤ delay) (w : World ℚ) :
    ∃ u, (e.waitBefore k delay).run w = (.ok (), u) ∧ u.requests = w.requests ∧
      u.now = w.now + delay ∧
      u.timeline = w.timeline ++ [(w.now, .sleep (Seconds.toNumber delay))] := by
  let v : World ℚ := (w.logLine .warning .delivery
    ("Retrying upload in " ++ Decimal.fixed 1 (Seconds.shown delay) ++ "s (attempt "
      ++ e.attemptText k ++ ")")).record (.sleep (Seconds.toNumber delay))
  have htimeline : v.timeline = w.timeline ++ [(w.now, .sleep (Seconds.toNumber delay))] :=
    World.timeline_record _ _
  unfold waitBefore
  rw [run_bind_ok (run_log _ _ _ w), run_bind_ok (run_record _ _), run_sleep]
  refine ⟨_, rfl, ?_⟩
  rw [Seconds.isPositive_rat]
  by_cases hpositive : 0 < delay
  · rw [if_pos (by simpa using hpositive)]
    have hquiet := World.Silent.of_quiet (v.quiet_pass false (v.now + delay))
    refine ⟨hquiet.requests, ?_, hquiet.timeline.trans htimeline⟩
    show (v.takeTicket.2.passTo (v.now + delay)).now = w.now + delay
    rw [World.now_passTo]
    exact max_eq_right (le_add_of_nonneg_right hdelay)
  · rw [if_neg (by simpa using hpositive)]
    refine ⟨rfl, ?_, htimeline⟩
    rw [le_antisymm (not_lt.mp hpositive) hdelay, add_zero]
    rfl

/-- An attempt with its times: a request, and a wait before it unless it is the first. -/
def timedLeg (body : String) (k : ℕ) (start delay : ℚ) : List (ℚ × Event) :=
  if k = 0 then [(start, e.post body)]
  else [(start, .sleep (Seconds.toNumber delay)), (start + delay, e.post body)]

/-- An attempt makes its request when its wait is over, and heeds the outcome. -/
lemma run_attempts_succ_timed (body : String) (left k : ℕ) (last : Fault) {delay : ℚ}
    (hdelay : 0 ≤ delay) (w : World ℚ) :
    ∃ u, u.requests = w.requests + 1 ∧
      u.timeline = w.timeline ++ e.timedLeg body k w.now delay ∧
      (e.attempts body (left + 1) k delay last).run w
        = (e.heed k (fun f => e.attempts body left (k + 1)
            (delayAfter (if k = 0 then delay else doubled delay) f) f)
            (e.outcome (e.replies w.requests))).run u := by
  obtain ⟨v, hwait, hrequests, htimeline⟩ :
      ∃ v, (if k = 0 then pure () else e.waitBefore k delay).run w = (.ok (), v) ∧
        v.requests = w.requests ∧ v.timeline ++ [(v.now, e.post body)]
          = w.timeline ++ e.timedLeg body k w.now delay := by
    unfold timedLeg
    by_cases hk : k = 0
    · simp only [if_pos hk]
      exact ⟨w, rfl, rfl, rfl⟩
    · simp only [if_neg hk]
      obtain ⟨v, hv, hrequests, hnow, htimeline⟩ := e.run_waitBefore_timed k hdelay w
      refine ⟨v, hv, hrequests, ?_⟩
      rw [hnow, htimeline, List.append_assoc]
      rfl
  obtain ⟨u, hsend, hone, -, hrun⟩ := e.run_attempts_heed body left k delay last hrequests hwait
  have hpost := e.timeline_send body v
  rw [hsend, htimeline] at hpost
  exact ⟨u, hone, hpost, hrun⟩

/-- The attempts from one on make their requests one after the other, with the waits between. -/
lemma timeline_attempts (body : String) (left k : ℕ) (last : Fault) {w₀ w : World ℚ}
    (hwaits : ∀ k, 0 ≤ e.wait (e.outcomes w₀) k) (hw : w.requests = w₀.requests + k) :
    ∃ starts : ℕ → ℚ, ((e.attempts body left k (e.wait (e.outcomes w₀) k) last).run w).2.timeline
      = w.timeline ++ (List.range' k (tries (e.outcomes w₀) left k)).flatMap
          fun i => e.timedLeg body i (starts i) (e.wait (e.outcomes w₀) i) := by
  induction left generalizing k last w with
  | zero =>
    have hsilent := World.Silent.of_quiet (w.quiet_logFault .error .delivery
      ("Upload failed after " ++ signedText e.totalAttempts ++ " attempts: ") last)
    refine ⟨fun _ => 0, ?_⟩
    rw [tries, List.range'_zero, List.flatMap_nil, List.append_nil]
    exact hsilent.timeline
  | succ left ih =>
    obtain ⟨u, hrequests, htimeline, hrun⟩ :=
      e.run_attempts_succ_timed body left k last (hwaits k) w
    have houtcome : e.outcome (e.replies w.requests) = e.outcomes w₀ k := by rw [hw, outcomes]
    rw [houtcome] at hrun
    rw [hrun]
    unfold tries
    by_cases hretried : isRetried (e.outcomes w₀ k) = true
    · obtain ⟨f, ho, hf⟩ := (isRetried_iff _).mp hretried
      obtain ⟨v, hv, hsilent⟩ := e.run_heed_of_not_isFinal k (fun f => e.attempts body left (k + 1)
        (delayAfter (if k = 0 then e.wait (e.outcomes w₀) k
          else doubled (e.wait (e.outcomes w₀) k)) f) f) hf u
      obtain ⟨starts, hstarts⟩ := ih (k + 1) f (w := v) (by rw [hsilent.requests]; omega)
      -- The attempts that follow begin when they begin by themselves, and this one begins now.
      refine ⟨Function.update starts k w.now, ?_⟩
      rw [if_pos hretried, ho, hv, ← e.wait_succ ho, hstarts, hsilent.timeline, htimeline,
        List.range'_succ, List.flatMap_cons, Function.update_self, List.append_assoc]
      congr 2
      refine List.flatMap_congr fun i hi => ?_
      rw [Function.update_of_ne (by have := List.mem_range'_1.mp hi; omega)]
    · obtain ⟨v, hv, hsilent⟩ := e.run_heed_of_not_isRetried k (fun f => e.attempts body left
        (k + 1) (delayAfter (if k = 0 then e.wait (e.outcomes w₀) k
          else doubled (e.wait (e.outcomes w₀) k)) f) f) (Bool.not_eq_true _ ▸ hretried) u
      refine ⟨fun _ => w.now, ?_⟩
      rw [if_neg hretried, hv, hsilent.timeline, htimeline]
      simp

end Attempts
end Endpoint

/-! ## Settings that were accepted -/

namespace DeliverySettings

open Read

/-- Settings that were accepted have no negative number of retries and no negative delay. -/
lemma nonneg_of_check : Ensures check fun d =>
    0 ≤ d.maxRetries ∧ ∀ b, d.retryBaseDelay.toRat? = some b → 0 ≤ b := by
  intro v d h
  obtain ⟨es, rfl⟩ : ∃ es, v = .map es := by
    cases v with
    | map es => exact ⟨es, rfl⟩
    | _ => cases h
  refine Checked.seq_elim h fun _ delay h hdelay => ?_
  refine Checked.seq_elim h fun _ _ h _ => ?_
  refine Checked.seq_elim h fun _ retries h hretries => ?_
  refine Checked.seq_elim h fun _ _ h _ => ?_
  refine Checked.seq_elim h fun _ _ h _ => ?_
  refine Checked.map_elim h fun _ _ => ?_
  have hretries := ensures_optional (ensures_boundedInteger _) (by decide) hretries
  obtain ⟨-, hdelay⟩ :=
    ensures_optional (ensures_boundedNumber _) ⟨⟨_, rfl⟩, by decide +kernel⟩ hdelay
  simp only [List.forall_mem_singleton, Bound.violatedBy_ofInt_atLeast] at hretries hdelay
  exact ⟨hretries, fun b hb => (Bound.violatedBy_ofFloat_atLeast hb).mp hdelay⟩

end DeliverySettings

namespace Endpoint

/-! ## Exact waits -/

/-- Up to any attempt none has asked for a delay, or one of them was the last to ask. -/
lemma exists_last {A : Type} (asked : ℕ → Option A) (k : ℕ) :
    (∀ i ≤ k, asked i = none) ∨
      ∃ j a, j ≤ k ∧ asked j = some a ∧ ∀ i, j < i → i ≤ k → asked i = none := by
  induction k with
  | zero =>
    cases h : asked 0 with
    | none => exact .inl fun i hi => by rwa [Nat.le_zero.mp hi]
    | some a => exact .inr ⟨0, a, le_rfl, h, fun i hi hle => absurd hle hi.not_ge⟩
  | succ k ih =>
    cases h : asked (k + 1) with
    | some a => exact .inr ⟨k + 1, a, le_rfl, h, fun i hi hle => absurd hle hi.not_ge⟩
    | none =>
      have hlast {i : ℕ} (hi : i ≤ k + 1) (hk : i ≤ k → asked i = none) : asked i = none :=
        (Nat.le_succ_iff.mp hi).elim hk fun hi => hi ▸ h
      rcases ih with hall | ⟨j, a, hjk, hj, hafter⟩
      · exact .inl fun i hi => hlast hi (hall i)
      · exact .inr ⟨j, a, Nat.le_succ_of_le hjk, hj, fun i hji hi => hlast hi (hafter i hji)⟩

section Waits

lemma doubled_iterate (n : ℕ) (x : ℚ) : doubled^[n] x = x * 2 ^ n := by
  induction n with
  | zero => rw [Function.iterate_zero_apply, pow_zero, mul_one]
  | succ n ih =>
    rw [Function.iterate_succ_apply', ih, pow_succ, ← mul_assoc]
    rfl

lemma ofNumber_eq {x : Number} {q : ℚ} (hx : x.toRat? = some q) : Seconds.ofNumber x = q := by
  show x.toRat?.getD 0 = q
  rw [hx, Option.getD_some]

lemma asked?_nonneg {r : Reply ℚ} {ra : ℚ} (hr : r.asked? = some ra) : 0 ≤ ra := by
  unfold Reply.asked? at hr
  split at hr
  · split at hr
    · next d hd =>
      obtain ⟨x, rfl, rfl⟩ := Option.map_eq_some_iff.mp hr
      obtain ⟨q, hq, hnonneg⟩ := RetryAfter.exists_toRat? hd
      rwa [ofNumber_eq hq]
    · cases hr
  · cases hr

variable {e : Endpoint ℚ} {w : World ℚ} {b : ℚ}
  (hbase : e.settings.retryBaseDelay.toRat? = some b)
  (hforeign : ∀ k, (e.replies k).IsForeign)

include hforeign

lemma askedBy?_outcomes (k : ℕ) :
    askedBy? (e.outcomes w k) = (e.replies (w.requests + k)).asked? :=
  askedBy?_outcome (hforeign _)

/-- The last delay that was asked for counts, doubled with each attempt since. -/
lemma wait_eq_of_asked {j k : ℕ} {ra : ℚ} (hjk : j ≤ k)
    (hj : (e.replies (w.requests + j)).asked? = some ra)
    (hnone : ∀ i, j < i → i ≤ k → (e.replies (w.requests + i)).asked? = none) :
    e.wait (e.outcomes w) (k + 1) = ra * 2 ^ (k - j) := by
  obtain ⟨n, rfl⟩ := Nat.exists_eq_add_of_le hjk
  rw [Nat.add_sub_cancel_left, ← doubled_iterate]
  refine wait_of_asked e ?_ fun i hi hn => ?_
  · rw [askedBy?_outcomes hforeign, hj]
  · rw [askedBy?_outcomes hforeign, hnone i hi hn]

include hbase

/-- If none was asked for, the base delay counts, doubled with each attempt but the first. -/
lemma wait_eq_of_none_asked {k : ℕ}
    (hnone : ∀ i ≤ k, (e.replies (w.requests + i)).asked? = none) :
    e.wait (e.outcomes w) (k + 1) = b * 2 ^ k := by
  rw [← doubled_iterate, ← ofNumber_eq hbase]
  refine wait_of_none_asked e fun i hi => ?_
  rw [askedBy?_outcomes hforeign, hnone i hi]

lemma wait_nonneg (hb : 0 ≤ b) (k : ℕ) : 0 ≤ e.wait (e.outcomes w) k := by
  induction k with
  | zero => rwa [wait, ofNumber_eq hbase]
  | succ k ih =>
    cases hk : (e.replies (w.requests + k)).asked? with
    | some ra =>
      rw [wait_succ_of_asked e ((askedBy?_outcomes hforeign k).trans hk)]
      exact asked?_nonneg hk
    | none =>
      rw [wait_succ_of_none e ((askedBy?_outcomes hforeign k).trans hk)]
      split
      · exact ih
      · rw [← Function.iterate_one doubled, doubled_iterate]
        positivity

end Waits

/-! ## Deliveries and their times -/

/-- A delivery makes its requests one after the other, with the waits between. -/
lemma timeline_upload (e : Endpoint ℚ) (c : Collected) (w : World ℚ)
    (hretries : 0 ≤ e.settings.maxRetries) (hwaits : ∀ k, 0 ≤ e.wait (e.outcomes w) k) :
    ∃ (n : ℕ) (body : String) (starts : ℕ → ℚ),
      ((e.upload c).run w).2.requests = w.requests + n ∧
      ((e.upload c).run w).2.timeline = w.timeline ++ (List.range n).flatMap
        fun k => e.timedLeg body k (starts k) (e.wait (e.outcomes w) k) := by
  cases hc : c.format Json.wire with
  | error f =>
    rw [e.upload_of_error hc]
    exact ⟨0, "", fun _ => 0, rfl, (List.append_nil _).symm⟩
  | ok body =>
    obtain ⟨n, u, hn, -, hu, hrequests, -⟩ := e.run_upload hc hretries w
    have hbudget : e.totalAttempts.toNat = e.settings.maxRetries.toNat + 1 := by
      rw [totalAttempts]
      omega
    have hlogged : (w.logLine .info .delivery ("Uploading metrics to " ++ e.settings.endpoint
        ++ " (" ++ decimalText body.utf8ByteSize ++ " bytes)")).requests = w.requests + 0 := rfl
    obtain ⟨starts, hstarts⟩ := e.timeline_attempts body (e.settings.maxRetries.toNat + 1) 0
      (.delivery .exhausted none) hwaits hlogged
    rw [← hn, ← hbudget, ← List.range_eq_range'] at hstarts
    refine ⟨n, body, starts, by rw [hu, hrequests], ?_⟩
    unfold upload
    rw [hc]
    dsimp only
    rw [run_bind_ok (run_log _ _ _ w)]
    exact hstarts

/-- An endpoint for which the settings of an agent are checked.  It gives the replies of a list, and
after them accepts what it is sent. -/
def retrying (retries : ℕ) (replies : List (Reply ℚ)) : Endpoint ℚ where
  settings := IngestSettings.delivery ⟨"key", defaultEndpoint, .int 30, retries, true⟩
  replies := (scripted replies).replies

lemma check_retrying (retries : ℕ) (replies : List (Reply ℚ)) :
    ∃ v, DeliverySettings.check v = .valid (retrying retries replies).settings :=
  ⟨_, IngestSettings.check_deliveryValue (Int.natCast_nonneg retries) (.inl rfl)⟩

/-- The wait before an attempt is the delay that was asked for last, doubled once for each attempt
since, or else the base delay, doubled once for each attempt but the first.  Attempts are counted
from zero; a delivery makes `n` of them, and `delays` is what passes before each but the first. -/
theorem upload_backoff (e : Endpoint ℚ) (c : Collected) (w : World ℚ) {v : Value} {b : ℚ}
    (hsettings : DeliverySettings.check v = .valid e.settings)
    (hbase : e.settings.retryBaseDelay.toRat? = some b)
    (hforeign : ∀ k, (e.replies k).IsForeign) :
    let asked k := (e.replies (w.requests + k)).asked?
    let result := (e.upload c).run w
    ∃ (n : ℕ) (body : String) (starts delays : ℕ → ℚ), result.2.requests = w.requests + n ∧
      result.2.timeline = w.timeline ++ (List.range n).flatMap
        (fun k => e.timedLeg body k (starts k) (delays k)) ∧
      ∀ k, k + 1 < n →
        (∀ j ra, j ≤ k → asked j = some ra → (∀ i, j < i → i ≤ k → asked i = none) →
          delays (k + 1) = ra * 2 ^ (k - j)) ∧
        ((∀ j ≤ k, asked j = none) → delays (k + 1) = b * 2 ^ k) := by
  intro asked result
  obtain ⟨hretries, hnonneg⟩ := DeliverySettings.nonneg_of_check v _ hsettings
  obtain ⟨n, body, starts, hrequests, htimeline⟩ :=
    e.timeline_upload c w hretries (wait_nonneg hbase hforeign (hnonneg b hbase))
  exact ⟨n, body, starts, e.wait (e.outcomes w), hrequests, htimeline, fun k _ =>
    ⟨fun j ra hjk hj hnone => wait_eq_of_asked hforeign hjk hj hnone,
      wait_eq_of_none_asked hbase hforeign⟩⟩

/-- A server that fails, limits the rate for three seconds, fails, and limits it without a delay. -/
theorem upload_backoff_scripted :
    let e := retrying 4 [.immediate 503 (.ok ""), .limited "3", .immediate 500 (.ok ""),
      .immediate 429 (.ok "")]
    let result := (e.upload (.payload .bare)).run (World.start (T := ℚ) 0)
    ∃ (body : String) (starts delays : ℕ → ℚ), result.2.timeline = (List.range 5).flatMap
        (fun k => e.timedLeg body k (starts k) (delays k)) ∧
      delays 1 = 1 ∧ delays 2 = 3 ∧ delays 3 = 6 ∧ delays 4 = 12 := by
  intro e result
  have hforeign (k : ℕ) : (e.replies k).IsForeign := by
    match k with
    | 0 | 1 | 2 | 3 => exact ⟨nofun, nofun⟩
    | k + 4 => exact ⟨nofun, nofun⟩
  obtain ⟨v, hsettings⟩ := check_retrying 4 [.immediate 503 (.ok ""), .limited "3",
    .immediate 500 (.ok ""), .immediate 429 (.ok "")]
  have hfive : result.2.requests = (World.start (T := ℚ) 0).requests + 5 := by decide +kernel
  have hfirst : (e.replies 0).asked? = none := rfl
  have hsecond : (e.replies 1).asked? = some 3 := by decide +kernel
  have hthird : (e.replies 2).asked? = none := rfl
  have hfourth : (e.replies 3).asked? = none := rfl
  obtain ⟨n, body, starts, delays, hrequests, htimeline, hdelays⟩ := upload_backoff e
    (.payload .bare) (World.start 0) (b := 1) hsettings (by decide +kernel) hforeign
  obtain rfl : n = 5 := Nat.add_left_cancel (hrequests.symm.trans hfive)
  refine ⟨body, starts, delays, htimeline, ?_, ?_, ?_, ?_⟩
  · refine ((hdelays 0 (by decide)).2 fun j hj => ?_).trans (by norm_num)
    obtain rfl := Nat.le_zero.mp hj
    exact hfirst
  · refine ((hdelays 1 (by decide)).1 1 3 le_rfl hsecond fun i hi hle => ?_).trans (by norm_num)
    exact absurd hle hi.not_ge
  · refine ((hdelays 2 (by decide)).1 1 3 (by decide) hsecond fun i hi hle => ?_).trans
      (by norm_num)
    obtain rfl : i = 2 := by omega
    exact hthird
  · refine ((hdelays 3 (by decide)).1 1 3 (by decide) hsecond fun i hi hle => ?_).trans
      (by norm_num)
    rcases (show i = 2 ∨ i = 3 by omega) with rfl | rfl
    · exact hthird
    · exact hfourth

/-- A delay that was asked for stands in for the backoff only if it is at least half the base delay:
the wait after the attempt that follows is the doubled delay. -/
theorem upload_backoff_kept_iff (e : Endpoint ℚ) (c : Collected) (w : World ℚ) {v : Value} {b : ℚ}
    (hsettings : DeliverySettings.check v = .valid e.settings)
    (hbase : e.settings.retryBaseDelay.toRat? = some b)
    (hforeign : ∀ k, (e.replies k).IsForeign) :
    let asked k := (e.replies (w.requests + k)).asked?
    let result := (e.upload c).run w
    ∃ (n : ℕ) (body : String) (starts delays : ℕ → ℚ), result.2.requests = w.requests + n ∧
      result.2.timeline = w.timeline ++ (List.range n).flatMap
        (fun k => e.timedLeg body k (starts k) (delays k)) ∧
      ((∀ k, k + 1 < n → asked k = none → b ≤ delays (k + 1)) ↔
        ∀ j ra, j + 2 < n → asked j = some ra → asked (j + 1) = none → b ≤ 2 * ra) := by
  intro asked result
  obtain ⟨hretries, hnonneg⟩ := DeliverySettings.nonneg_of_check v _ hsettings
  obtain ⟨n, body, starts, hrequests, htimeline⟩ :=
    e.timeline_upload c w hretries (wait_nonneg hbase hforeign (hnonneg b hbase))
  refine ⟨n, body, starts, e.wait (e.outcomes w), hrequests, htimeline, ?_⟩
  constructor
  · intro hkept j ra hj hasked hnone
    have hwait : e.wait (e.outcomes w) (j + 1 + 1) = ra * 2 ^ (j + 1 - j) :=
      wait_eq_of_asked hforeign (Nat.le_succ j) hasked fun i hi hle => by
        rwa [show i = j + 1 by omega]
    rw [Nat.add_sub_cancel_left, pow_one, mul_comm] at hwait
    exact hwait ▸ hkept (j + 1) hj hnone
  · intro hlarge k hk hnone
    rcases exists_last asked k with hall | ⟨j, ra, hjk, hj, hafter⟩
    · rw [wait_eq_of_none_asked hbase hforeign hall]
      exact le_mul_of_one_le_right (hnonneg b hbase) (one_le_pow₀ one_le_two)
    · have hlt : j < k := hjk.lt_of_ne fun h => by
        rw [← h, hj] at hnone
        cases hnone
      obtain ⟨m, rfl⟩ := Nat.exists_eq_add_of_lt hlt
      have hdoubled := hlarge j ra (by omega) hj (hafter (j + 1) (by omega) (by omega))
      rw [wait_eq_of_asked hforeign hjk hj hafter, show j + m + 1 - j = m + 1 by omega, pow_succ',
        ← mul_assoc, mul_comm ra]
      exact hdoubled.trans (le_mul_of_one_le_right
        (mul_nonneg zero_le_two (asked?_nonneg hj)) (one_le_pow₀ one_le_two))

/-- A delay of three seconds keeps up a backoff that begins with one. -/
theorem upload_backoff_kept_scripted :
    let e := retrying 2 [.limited "3", .immediate 503 (.ok "")]
    let result := (e.upload (.payload .bare)).run (World.start (T := ℚ) 0)
    ∃ (body : String) (starts delays : ℕ → ℚ), result.2.timeline = (List.range 3).flatMap
        (fun k => e.timedLeg body k (starts k) (delays k)) ∧ 1 ≤ delays 2 := by
  intro e result
  have hforeign (k : ℕ) : (e.replies k).IsForeign := by
    match k with
    | 0 | 1 => exact ⟨nofun, nofun⟩
    | k + 2 => exact ⟨nofun, nofun⟩
  obtain ⟨v, hsettings⟩ := check_retrying 2 [.limited "3", .immediate 503 (.ok "")]
  have hthree : result.2.requests = (World.start (T := ℚ) 0).requests + 3 := by decide +kernel
  have hfirst : (e.replies 0).asked? = some 3 := by decide +kernel
  have hsecond : (e.replies 1).asked? = none := rfl
  obtain ⟨n, body, starts, delays, hrequests, htimeline, hkept⟩ := upload_backoff_kept_iff e
    (.payload .bare) (World.start 0) (b := 1) hsettings (by decide +kernel) hforeign
  obtain rfl : n = 3 := Nat.add_left_cancel (hrequests.symm.trans hthree)
  refine ⟨body, starts, delays, htimeline, hkept.mpr (fun j ra hj hasked _ => ?_) 1 (by decide)
    hsecond⟩
  obtain rfl : j = 0 := by omega
  cases hfirst.symm.trans hasked
  norm_num

/-- A server that asks for no delay at all turns the backoff off: it is not waited for either after
the next attempt fails. -/
theorem not_forall_upload_backoff_kept : ¬ ∀ (e : Endpoint ℚ) (c : Collected) (w : World ℚ)
    (v : Value) (b : ℚ), DeliverySettings.check v = .valid e.settings →
      e.settings.retryBaseDelay.toRat? = some b → (∀ k, (e.replies k).IsForeign) →
        ∀ (n : ℕ) (body : String) (starts delays : ℕ → ℚ),
          ((e.upload c).run w).2.requests = w.requests + n →
            ((e.upload c).run w).2.timeline = w.timeline ++ (List.range n).flatMap
              (fun k => e.timedLeg body k (starts k) (delays k)) →
              ∀ k, k + 1 < n → (e.replies (w.requests + k)).asked? = none →
                b ≤ delays (k + 1) := by
  intro h
  let e := retrying 2 [.limited "0", .immediate 500 (.ok "")]
  let w := World.start (T := ℚ) 0
  have hforeign (k : ℕ) : (e.replies k).IsForeign := by
    match k with
    | 0 | 1 => exact ⟨nofun, nofun⟩
    | k + 2 => exact ⟨nofun, nofun⟩
  obtain ⟨v, hsettings⟩ := check_retrying 2 [.limited "0", .immediate 500 (.ok "")]
  have hbase : e.settings.retryBaseDelay.toRat? = some 1 := by decide +kernel
  have hthree : ((e.upload (.payload .bare)).run w).2.requests = w.requests + 3 := by
    decide +kernel
  have hfirst : (e.replies (w.requests + 0)).asked? = some 0 := by decide +kernel
  have hsecond : (e.replies (w.requests + 1)).asked? = none := rfl
  obtain ⟨n, body, starts, hrequests, htimeline⟩ := e.timeline_upload (.payload .bare) w (by decide)
    (wait_nonneg hbase hforeign zero_le_one)
  obtain rfl : n = 3 := Nat.add_left_cancel (hrequests.symm.trans hthree)
  have hwait : e.wait (e.outcomes w) (1 + 1) = 0 * 2 ^ (1 - 0) :=
    wait_eq_of_asked hforeign zero_le_one hfirst fun i hi hle => by
      obtain rfl : i = 1 := by omega
      exact hsecond
  have hkept := h e _ w v 1 hsettings hbase hforeign 3 body starts _ hrequests htimeline 1
    (by decide) hsecond
  rw [hwait] at hkept
  norm_num at hkept

end Endpoint
end MetricsAgent
