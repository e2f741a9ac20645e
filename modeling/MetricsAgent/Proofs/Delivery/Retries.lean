import Mathlib.Data.ENat.Lattice
import MetricsAgent.Proofs.Delivery.Sending

/-!
# Retries

A delivery makes attempts until one settles the matter or none is left, and waits between them.
`Endpoint.tries` counts the attempts that are made, given what each would come to, and
`Endpoint.wait` is the wait before each; `Endpoint.run_attempts` shows that these describe what the
loop does.  The delivery of a payload then comes to what its last attempt comes to, and its traffic
is one request for each attempt with one wait before each but the first (`Endpoint.run_upload`).
-/

namespace MetricsAgent

open Script

namespace Endpoint

variable {T : Type} [Seconds T]

/-! ## Attempts that are made -/

/-- Whether another attempt may follow an outcome. -/
def isRetried : Except Fault Unit → Bool
  | .ok _ => false
  | .error f => !isFinal f

lemma isRetried_iff (o : Except Fault Unit) :
    isRetried o = true ↔ ∃ f, o = .error f ∧ isFinal f = false := by
  cases o <;> simp [isRetried]

/-- Whether an outcome settles a delivery: the payload was accepted or the credentials were
rejected. -/
def settles : Except Fault Unit → Bool
  | .ok _ => true
  | .error f =>
    match f.delivery? with
    | some (.rejected _) => true
    | _ => false

/-- How many attempts are made from one on, of which at most so many are left. -/
def tries (r : ℕ → Except Fault Unit) : ℕ → ℕ → ℕ
  | 0, _ => 0
  | left + 1, k => if isRetried (r k) then tries r left (k + 1) + 1 else 1

section Counting

variable {r : ℕ → Except Fault Unit} {left k i : ℕ}

lemma tries_le (r : ℕ → Except Fault Unit) (left k : ℕ) : tries r left k ≤ left := by
  induction left generalizing k with
  | zero => exact le_rfl
  | succ left ih =>
    unfold tries
    split
    · exact Nat.succ_le_succ (ih (k + 1))
    · exact Nat.succ_le_succ (Nat.zero_le left)

lemma tries_succ_pos (r : ℕ → Except Fault Unit) (left k : ℕ) : 0 < tries r (left + 1) k := by
  unfold tries
  split
  · exact Nat.succ_pos _
  · exact Nat.one_pos

/-- Only after an attempt that is retried there is another one. -/
lemma isRetried_of_lt_tries (hi : i + 1 < tries r left k) : isRetried (r (k + i)) = true := by
  induction left generalizing k i with
  | zero => simp [tries] at hi
  | succ left ih =>
    unfold tries at hi
    by_cases hk : isRetried (r k) = true
    · rw [if_pos hk] at hi
      cases i with
      | zero => exact hk
      | succ i =>
        rw [← Nat.add_assoc, Nat.add_right_comm]
        exact ih (by omega)
    · rw [if_neg hk] at hi
      omega

/-- If not all attempts were made, the last one was not to be retried. -/
lemma isRetried_last (hlt : tries r left k < left) :
    isRetried (r (k + tries r left k - 1)) = false := by
  induction left generalizing k with
  | zero => omega
  | succ left ih =>
    unfold tries at hlt ⊢
    by_cases hk : isRetried (r k) = true
    · rw [if_pos hk] at hlt ⊢
      have hlast := ih (k := k + 1) (by omega)
      rwa [show k + (tries r left (k + 1) + 1) - 1 = k + 1 + tries r left (k + 1) - 1 by omega]
    · rw [if_neg hk]
      simpa using hk

/-- A fault of the delivery is retried unless it settles the matter. -/
lemma isRetried_eq_not_settles {o : Except Fault Unit}
    (ho : ∀ f, o = .error f → f.isDelivery = true) : isRetried o = !settles o := by
  cases o with
  | ok _ => rfl
  | error f =>
    obtain ⟨d, hd⟩ := Option.isSome_iff_exists.mp (ho f rfl)
    cases d <;> simp [isRetried, isFinal, settles, hd]

/-- The number, counted from one, of the first outcome that settles the matter; infinite if none
does. -/
noncomputable def firstSettled (r : ℕ → Except Fault Unit) : ℕ∞ :=
  ⨅ k ∈ {k | settles (r k) = true}, (k + 1 : ℕ)

lemma firstSettled_le (hk : settles (r k) = true) : firstSettled r ≤ (k + 1 : ℕ) :=
  iInf₂_le k hk

/-- Attempts are made up to the first that settles the matter, and as long as any are left. -/
lemma tries_eq_min (hr : ∀ k f, r k = .error f → f.isDelivery = true) (budget : ℕ) :
    (tries r budget 0 : ℕ∞) = min (budget : ℕ∞) (firstSettled r) := by
  refine le_antisymm (le_min (by exact_mod_cast tries_le r budget 0) ?_) ?_
  · refine le_iInf₂ fun k hk => ?_
    by_contra hlt
    have hlt : k + 1 < tries r budget 0 := by exact_mod_cast not_le.mp hlt
    have hretried := isRetried_of_lt_tries hlt
    rw [Nat.zero_add, isRetried_eq_not_settles (hr k), Set.mem_ofPred_eq.mp hk] at hretried
    cases hretried
  · by_cases hlt : tries r budget 0 < budget
    · have hpos : 0 < tries r budget 0 := by
        cases budget with
        | zero => omega
        | succ left => exact tries_succ_pos r left 0
      have hlast := isRetried_last hlt
      rw [isRetried_eq_not_settles (hr _), Nat.zero_add, Bool.not_eq_false'] at hlast
      refine (min_le_right _ _).trans ((firstSettled_le hlast).trans ?_)
      exact_mod_cast (Nat.sub_add_cancel hpos).le
    · exact (min_le_left _ _).trans (by exact_mod_cast not_lt.mp hlt)

end Counting

/-! ## The loop -/

/-- What is done once the outcome of an attempt is known; `next` is how the delivery goes on after a
fault that is retried. -/
def heed (e : Endpoint T) (k : ℕ) (next : Fault → Script T Unit) :
    Except Fault Unit → Script T Unit
  | .ok () =>
    log .info .delivery ("Metrics uploaded successfully (attempt " ++ e.attemptText k ++ ")")
  | .error f =>
    if isFinal f then do
      if f.isDelivery then logFault .error .delivery "Upload rejected, not retrying: " f
      throw f
    else do
      logFault .error .delivery ("Upload attempt " ++ e.attemptText k ++ " failed: ") f
      next f

/-- An attempt: a wait unless it is the first, a request, and what its outcome demands. -/
lemma attempts_succ (e : Endpoint T) (body : String) (left k : ℕ) (delay : T) (last : Fault) :
    e.attempts body (left + 1) k delay last =
      (if k = 0 then pure () else e.waitBefore k delay) >>= fun _ =>
        (e.send body).attempt >>= e.heed k fun f =>
          e.attempts body left (k + 1) (delayAfter (if k = 0 then delay else doubled delay) f) f := by
  rw [attempts]
  by_cases hk : k = 0
  · subst hk
    rfl
  · rw [if_pos hk]
    simp only [if_neg hk]
    rfl

lemma run_waitBefore (e : Endpoint T) (k : ℕ) (delay : T) (w : World T) :
    ∃ u, (e.waitBefore k delay).run w = (.ok (), u) ∧ u.requests = w.requests ∧
      u.traffic = w.traffic ++ [.sleep (Seconds.toNumber delay)] := by
  obtain ⟨u, hsleep, hu⟩ := silent_sleep delay ((w.logLine .warning .delivery
    ("Retrying upload in " ++ Decimal.fixed 1 (Seconds.shown delay) ++ "s (attempt "
      ++ e.attemptText k ++ ")")).record (.sleep (Seconds.toNumber delay)))
  refine ⟨u, ?_, hu.requests, hu.traffic.trans (World.traffic_record _ _)⟩
  unfold waitBefore
  rw [run_bind_ok (run_log _ _ _ w), run_bind_ok (run_record _ _)]
  exact hsleep

/-- An outcome that is not retried is that of the whole delivery. -/
lemma run_heed_of_not_isRetried (e : Endpoint T) (k : ℕ) (next : Fault → Script T Unit)
    {o : Except Fault Unit} (ho : isRetried o = false) (w : World T) :
    ∃ u, (e.heed k next o).run w = (o, u) ∧ w.Silent u := by
  cases o with
  | ok _ => exact ⟨_, rfl, ⟨rfl, rfl⟩⟩
  | error f =>
    have hf : isFinal f = true := by simpa [isRetried] using ho
    unfold heed
    dsimp only
    rw [if_pos hf]
    split
    · exact ⟨_, rfl, .of_quiet (w.quiet_logFault _ _ _ f)⟩
    · exact ⟨w, rfl, .refl w⟩

lemma run_heed_of_not_isFinal (e : Endpoint T) (k : ℕ) (next : Fault → Script T Unit) {f : Fault}
    (hf : isFinal f = false) (w : World T) :
    ∃ u, (e.heed k next (.error f)).run w = (next f).run u ∧ w.Silent u := by
  unfold heed
  dsimp only
  rw [if_neg (by simp [hf]), run_bind_ok (run_logFault _ _ _ f w)]
  exact ⟨_, rfl, .of_quiet (w.quiet_logFault _ _ _ f)⟩

/-! ## Waits -/

/-- The wait before an attempt that is not the first, and for the first the one that its retry
begins with: it doubles each time, unless a reply asks for another delay. -/
def wait (e : Endpoint T) (r : ℕ → Except Fault Unit) : ℕ → T
  | 0 => Seconds.ofNumber e.settings.retryBaseDelay
  | k + 1 =>
    let held := if k = 0 then wait e r k else doubled (wait e r k)
    match r k with
    | .ok _ => held
    | .error f => delayAfter held f

lemma wait_succ {r : ℕ → Except Fault Unit} {k : ℕ} {f : Fault} (e : Endpoint T)
    (hf : r k = .error f) : e.wait r (k + 1)
      = delayAfter (if k = 0 then e.wait r k else doubled (e.wait r k)) f := by
  rw [wait, hf]

/-- The traffic of an attempt: a request, with a wait before it unless it is the first. -/
def leg (e : Endpoint T) (body : String) (r : ℕ → Except Fault Unit) (k : ℕ) : List Event :=
  (if k = 0 then [] else [.sleep (Seconds.toNumber (e.wait r k))]) ++ [e.post body]

/-- An attempt makes its request once it has waited, and heeds the outcome. -/
lemma run_attempts_heed (e : Endpoint T) (body : String) (left k : ℕ) (delay : T) (last : Fault)
    {w v : World T} (hrequests : v.requests = w.requests)
    (hwait : (if k = 0 then pure () else e.waitBefore k delay).run w = (.ok (), v)) :
    ∃ u, (e.send body).run v = (e.outcome (e.replies w.requests), u) ∧
      u.requests = w.requests + 1 ∧ u.traffic = v.traffic ++ [e.post body] ∧
      (e.attempts body (left + 1) k delay last).run w
        = (e.heed k (fun f => e.attempts body left (k + 1)
            (delayAfter (if k = 0 then delay else doubled delay) f) f)
            (e.outcome (e.replies w.requests))).run u := by
  obtain ⟨u, hsend, hone, hpost⟩ := e.run_send body v
  rw [hrequests] at hsend hone
  refine ⟨u, hsend, hone, hpost, ?_⟩
  rw [attempts_succ, run_bind_ok hwait, run_bind_ok (run_attempt _ v), hsend]

/-- An attempt makes one request and comes to its outcome, or else to what the attempts after it
come to. -/
lemma run_attempts_succ (e : Endpoint T) (body : String) (left k : ℕ) (last : Fault)
    {w₀ w : World T} (hw : w.requests = w₀.requests + k) :
    ∃ u, u.requests = w.requests + 1 ∧ u.traffic = w.traffic ++ e.leg body (e.outcomes w₀) k ∧
      (isRetried (e.outcomes w₀ k) = false →
        (e.attempts body (left + 1) k (e.wait (e.outcomes w₀) k) last).run w
          = (e.outcomes w₀ k, u)) ∧
      ∀ f, e.outcomes w₀ k = .error f → isFinal f = false →
        (e.attempts body (left + 1) k (e.wait (e.outcomes w₀) k) last).run w
          = (e.attempts body left (k + 1) (e.wait (e.outcomes w₀) (k + 1)) f).run u := by
  obtain ⟨v, hwait, hrequests, htraffic⟩ :
      ∃ v, (if k = 0 then pure () else e.waitBefore k (e.wait (e.outcomes w₀) k)).run w
          = (.ok (), v) ∧ v.requests = w.requests ∧ v.traffic = w.traffic
            ++ if k = 0 then [] else [.sleep (Seconds.toNumber (e.wait (e.outcomes w₀) k))] := by
    by_cases hk : k = 0
    · simp only [if_pos hk]
      exact ⟨w, rfl, rfl, (List.append_nil _).symm⟩
    · simp only [if_neg hk]
      exact e.run_waitBefore k _ w
  obtain ⟨x, -, hx, hpost, hrun⟩ := e.run_attempts_heed body left k _ last hrequests hwait
  have houtcome : e.outcome (e.replies w.requests) = e.outcomes w₀ k := by rw [hw, outcomes]
  rw [houtcome] at hrun
  have hleg : x.traffic = w.traffic ++ e.leg body (e.outcomes w₀) k := by
    rw [hpost, htraffic, leg, List.append_assoc]
  cases hretried : isRetried (e.outcomes w₀ k) with
  | false =>
    obtain ⟨u, hu, hsilent⟩ := e.run_heed_of_not_isRetried k (fun f => e.attempts body left (k + 1)
      (delayAfter (if k = 0 then e.wait (e.outcomes w₀) k
        else doubled (e.wait (e.outcomes w₀) k)) f) f) hretried x
    refine ⟨u, hsilent.requests.trans hx, hsilent.traffic.trans hleg, fun _ => hrun.trans hu,
      fun f ho hf => ?_⟩
    simp [ho, isRetried, hf] at hretried
  | true =>
    obtain ⟨f, ho, hf⟩ := (isRetried_iff _).mp hretried
    obtain ⟨u, hu, hsilent⟩ := e.run_heed_of_not_isFinal k (fun f => e.attempts body left (k + 1)
      (delayAfter (if k = 0 then e.wait (e.outcomes w₀) k
        else doubled (e.wait (e.outcomes w₀) k)) f) f) hf x
    refine ⟨u, hsilent.requests.trans hx, hsilent.traffic.trans hleg, nofun, fun g hg _ => ?_⟩
    cases ho.symm.trans hg
    rw [hrun, ho, hu, e.wait_succ ho]

/-- The attempts from one on: they come to what the last of them comes to, and each adds its
traffic. -/
theorem run_attempts (e : Endpoint T) (body : String) (left k : ℕ) (last : Fault)
    {w₀ w : World T} (hw : w.requests = w₀.requests + k) :
    ∃ u, (e.attempts body left k (e.wait (e.outcomes w₀) k) last).run w
        = (if tries (e.outcomes w₀) left k = 0 then .error last
            else e.outcomes w₀ (k + tries (e.outcomes w₀) left k - 1), u) ∧
      u.requests = w.requests + tries (e.outcomes w₀) left k ∧
      u.traffic = w.traffic
        ++ (List.range' k (tries (e.outcomes w₀) left k)).flatMap
          (e.leg body (e.outcomes w₀)) := by
  induction left generalizing k last w with
  | zero =>
    have hsilent := World.Silent.of_quiet (w.quiet_logFault .error .delivery
      ("Upload failed after " ++ signedText e.totalAttempts ++ " attempts: ") last)
    refine ⟨_, rfl, hsilent.requests, ?_⟩
    rw [tries, List.range'_zero, List.flatMap_nil, List.append_nil]
    exact hsilent.traffic
  | succ left ih =>
    obtain ⟨u, hrequests, htraffic, hlast, hnext⟩ := e.run_attempts_succ body left k last hw
    unfold tries
    by_cases hretried : isRetried (e.outcomes w₀ k) = true
    · rw [if_pos hretried]
      obtain ⟨f, ho, hf⟩ := (isRetried_iff _).mp hretried
      obtain ⟨v, hv, hvrequests, hvtraffic⟩ := ih (k + 1) f (w := u) (by omega)
      refine ⟨v, ?_, by omega, ?_⟩
      · rw [hnext f ho hf, hv, if_neg (Nat.succ_ne_zero _)]
        split
        · next hnone => rw [hnone, Nat.zero_add, Nat.add_sub_cancel, ho]
        · rw [Nat.add_right_comm, Nat.add_assoc]
      · rw [hvtraffic, htraffic, List.range'_succ, List.flatMap_cons, List.append_assoc]
    · rw [if_neg hretried]
      rw [Bool.not_eq_true] at hretried
      refine ⟨u, hlast hretried, hrequests, htraffic.trans ?_⟩
      simp

/-! ## Deliveries -/

lemma upload_of_error (e : Endpoint T) {c : Collected} {f : Payload.FormatFault}
    (hc : c.format Json.wire = .error f) (w : World T) :
    (e.upload c).run w = (.error (unprintable f), w) := by
  unfold upload
  rw [hc]
  rfl

/-- A delivery comes to what the last of its attempts comes to. -/
theorem run_upload (e : Endpoint T) {c : Collected} {body : String}
    (hc : c.format Json.wire = .ok body) (hretries : 0 ≤ e.settings.maxRetries) (w : World T) :
    ∃ n u, n = tries (e.outcomes w) (e.settings.maxRetries.toNat + 1) 0 ∧ 0 < n ∧
      (e.upload c).run w = (e.outcomes w (n - 1), u) ∧ u.requests = w.requests + n ∧
      u.traffic = w.traffic ++ (List.range n).flatMap (e.leg body (e.outcomes w)) := by
  have hbudget : e.totalAttempts.toNat = e.settings.maxRetries.toNat + 1 := by
    rw [totalAttempts]
    omega
  have hpos := tries_succ_pos (e.outcomes w) e.settings.maxRetries.toNat 0
  have hlogged : (w.logLine .info .delivery ("Uploading metrics to " ++ e.settings.endpoint ++ " ("
      ++ decimalText body.utf8ByteSize ++ " bytes)")).requests = w.requests + 0 := rfl
  obtain ⟨u, hu, hrequests, htraffic⟩ := e.run_attempts body (e.settings.maxRetries.toNat + 1) 0
    (.delivery .exhausted none) hlogged
  refine ⟨_, u, rfl, hpos, ?_, hrequests, List.range_eq_range' ▸ htraffic⟩
  unfold upload
  rw [hc]
  dsimp only
  rw [run_bind_ok (run_log _ _ _ w), hbudget]
  rw [if_neg hpos.ne', Nat.zero_add] at hu
  exact hu

/-- The traffic of several attempts: requests with one wait between any two. -/
lemma flatMap_leg (e : Endpoint T) (body : String) (r : ℕ → Except Fault Unit) (n : ℕ) :
    (List.range (n + 1)).flatMap (e.leg body r) = e.post body ::
      ((List.range n).map fun k => Seconds.toNumber (e.wait r (k + 1))).flatMap
        fun delay => [.sleep delay, e.post body] := by
  rw [List.range_succ_eq_map, List.flatMap_cons, List.flatMap_map, List.flatMap_map]
  rfl

/-- A delivery of a payload that can be written makes requests up to the first that settles the
matter, as far as its retries allow, all alike and with one wait between any two.  It succeeds if
that one was accepted, fails as that one if it was rejected, and else fails as the last that was
allowed.  A payload that cannot be written is not sent, and nothing else is done either. -/
theorem upload_retries (e : Endpoint T) (c : Collected) (w : World T)
    (hretries : 0 ≤ e.settings.maxRetries)
    (hfamily : ∀ k f, e.outcomes w k = .error f → f.isDelivery = true) :
    let m := e.settings.maxRetries.toNat
    let j := firstSettled (e.outcomes w)
    let result := (e.upload c).run w
    (∀ body, c.format Json.wire = .ok body →
      (∃ (n : ℕ) (delays : List Number), (n : ℕ∞) = min ((m + 1 : ℕ) : ℕ∞) j ∧
        delays.length + 1 = n ∧ result.2.requests = w.requests + n ∧
        result.2.traffic = w.traffic
          ++ e.post body :: delays.flatMap fun delay => [.sleep delay, e.post body]) ∧
      (result.1 = .ok () ↔ ∃ k ≤ m, j = (k + 1 : ℕ) ∧ e.outcomes w k = .ok ()) ∧
      (∀ k ≤ m, j = (k + 1 : ℕ) → ∀ f, e.outcomes w k = .error f → result.1 = .error f) ∧
      ((m + 1 : ℕ) < j → ∃ f, e.outcomes w m = .error f ∧ result.1 = .error f)) ∧
    ∀ f, c.format Json.wire = .error f →
      result = (.error (.delivery (.serialization f.message) (some f.toFault)), w) := by
  intro m j result
  refine ⟨fun body hc => ?_, fun f hc => e.upload_of_error hc w⟩
  obtain ⟨n, u, hn, hpos, hu, hrequests, htraffic⟩ := e.run_upload hc hretries w
  have hmin : (n : ℕ∞) = min ((m + 1 : ℕ) : ℕ∞) j := hn ▸ tries_eq_min hfamily (m + 1)
  have hlast : result.1 = e.outcomes w (n - 1) := congrArg Prod.fst hu
  have hle : n ≤ m + 1 := by exact_mod_cast hmin.le.trans (min_le_left _ _)
  -- The first attempt that settles the matter is the last one, if it is among those allowed.
  have hsettled {k : ℕ} (hk : k ≤ m) (hj : j = (k + 1 : ℕ)) : result.1 = e.outcomes w k := by
    rw [hj, min_eq_right (by exact_mod_cast Nat.succ_le_succ hk)] at hmin
    rw [hlast, show n - 1 = k by exact_mod_cast congrArg (· - 1) (Nat.cast_injective hmin)]
  refine ⟨⟨n, (List.range (n - 1)).map fun k => Seconds.toNumber (e.wait (e.outcomes w) (k + 1)),
    hmin, by rw [List.length_map, List.length_range, Nat.sub_add_cancel hpos], ?_, ?_⟩,
    ⟨fun hok => ?_, ?_⟩, ?_, fun hj => ?_⟩
  · rw [show result = _ from hu, hrequests]
  · rw [show result = _ from hu, htraffic, ← e.flatMap_leg, Nat.sub_add_cancel hpos]
  · have hok : e.outcomes w (n - 1) = .ok () := hlast.symm.trans hok
    refine ⟨n - 1, by omega, le_antisymm (firstSettled_le (by rw [hok]; rfl)) ?_, hok⟩
    rw [Nat.sub_add_cancel hpos, hmin]
    exact min_le_right _ _
  · rintro ⟨k, hk, hj, hok⟩
    rw [hsettled hk hj, hok]
  · intro k hk hj f hf
    rw [hsettled hk hj, hf]
  · rw [min_eq_left hj.le] at hmin
    have hn : n - 1 = m := by rw [Nat.cast_injective hmin, Nat.add_sub_cancel]
    rw [hlast, hn]
    cases ho : e.outcomes w m with
    | ok _ => exact absurd (firstSettled_le (by rw [ho]; rfl)) hj.not_ge
    | error f => exact ⟨f, rfl, rfl⟩

/-- A server that fails and then limits the rate is asked three times, after two waits. -/
theorem upload_retries_scripted :
    let e := scripted [.immediate 503 (.ok "busy"), .immediate 429 (.ok "")]
    ∃ (text : String) (delays : List Number), delays.length = 2 ∧
      ((e.upload (.payload .bare)).run (World.start (T := ℚ) 0)).2.traffic
        = e.post text :: delays.flatMap fun delay => [.sleep delay, e.post text] := by
  intro e
  have hfamily (k : ℕ) (f : Fault) (hf : e.outcomes (World.start (T := ℚ) 0) k = .error f) :
      f.isDelivery = true := by
    match k with
    | 0 => cases hf; rfl
    | 1 => cases hf; rfl
    | k + 2 => cases hf
  obtain ⟨⟨n, delays, -, hlength, hrequests, htraffic⟩, -⟩ :=
    (upload_retries e (.payload .bare) (World.start (T := ℚ) 0) (by decide) hfamily).1 _ rfl
  have hthree : ((e.upload (.payload .bare)).run (World.start (T := ℚ) 0)).2.requests = 3 := by
    decide +kernel
  have hnone : (World.start (T := ℚ) 0).requests = 0 := rfl
  exact ⟨_, delays, by omega, htraffic⟩

end Endpoint
end MetricsAgent
