import MetricsAgent.Proofs.Delivery.Retries
import MetricsAgent.Proofs.Number.Range
import MetricsAgent.Proofs.Number.Reading

/-!
# Faults of a delivery

The faults that leave a delivery are those of its attempts (`Endpoint.raised_of_run_upload`), so what
can go wrong is decided by single replies.  Two of them are treated unlike all others.  A delay that
is asked for beyond all floating point numbers is a fault of another family and ends the delivery
(`Endpoint.outcome_of_asksTooLong`).  Rejected credentials whose reply cannot be read to its end
count as a failed request, which is made again (`Endpoint.outcome_of_unread`).
-/

namespace MetricsAgent

open Script

/-! ## Replies -/

namespace Reply

variable {T : Type}

/-- A reply as a server and the way to it give them: the connection fails or times out, or there is
a status with a body that can be read. -/
structure IsAnswer (r : Reply T) : Prop where
  failure : ∀ f, r.failure = some f → f.isTransport = true ∨ f.isTimeout = true
  body : r.failure = none → ∃ text, r.body = .ok text

/-- A reply that asks for a delay that no floating point number holds. -/
def AsksTooLong (r : Reply T) : Prop :=
  r.failure = none ∧ r.status = 429 ∧ ∃ text n, r.header? "Retry-After" = some text ∧
    RetryAfter.ofText text = .seconds n ∧ Binary64.overflow ≤ n

/-- A reply by which the credentials are rejected. -/
structure Rejects (r : Reply T) : Prop where
  failure : r.failure = none
  status : rejects r.status = true

end Reply

namespace Fault

/-- A fault by which the credentials were rejected. -/
def IsRejection (f : Fault) : Prop :=
  ∃ message, f.delivery? = some (.rejected message)

/-- A payload that could not be written. -/
def IsSerialization (f : Fault) : Prop :=
  ∃ message, f.delivery? = some (.serialization message)

/-- What a delay beyond all floating point numbers gives. -/
def tooLong : Fault :=
  .foreign "OverflowError" (some "int too large to convert to float") none

end Fault

/-! ## Delays asked for -/

lemma RetryAfter.delay?_of_lt {value : Option String}
    (h : ∀ text n, value = some text → RetryAfter.ofText text = .seconds n →
      n < Binary64.overflow) : ∃ d, RetryAfter.delay? value = .ok d := by
  cases value with
  | none => exact ⟨none, rfl⟩
  | some text =>
    unfold delay?
    rw [Option.map_some]
    cases htext : RetryAfter.ofText text with
    | unusable => exact ⟨none, rfl⟩
    | seconds n =>
      have hfinite := (Binary64.isFinite_ofInt n).mpr (h text n rfl htext)
      dsimp only
      rw [if_pos hfinite]
      exact ⟨_, rfl⟩

lemma RetryAfter.delay?_of_overflow_le {text : String} {n : ℕ}
    (htext : RetryAfter.ofText text = .seconds n) (hn : Binary64.overflow ≤ n) :
    RetryAfter.delay? (some text) = .error .tooLong := by
  have hinfinite : ¬ (Binary64.ofInt n).isFinite = true :=
    fun h => absurd ((Binary64.isFinite_ofInt n).mp h) hn.not_gt
  unfold delay?
  rw [Option.map_some, htext]
  dsimp only
  rw [if_neg hinfinite]
  rfl

/-- That a delay is too long is the only fault in reading one. -/
lemma RetryAfter.eq_tooLong {value : Option String} {f : Fault}
    (h : RetryAfter.delay? value = .error f) : f = .tooLong := by
  unfold delay? at h
  split at h
  · dsimp only at h
    split at h
    · cases h
    · cases h
      rfl
  · cases h

/-- A delay in base ten is read as it is. -/
lemma RetryAfter.ofText_decimalText {n : ℕ} (hn : n < tenTo NumberText.digitLimit) :
    RetryAfter.ofText (decimalText n) = .seconds n := by
  have hdigits (c : Char) (hc : c ∈ Nat.toDigits 10 n) : CharClass.isBlank c = false :=
    isBlank_of_isDigit (Nat.isDigit_of_mem_toDigits (by decide) (by decide) hc)
  have htrim : CharClass.trimBlank (decimalText n) = decimalText n := trimBoth_ofList hdigits
  unfold ofText
  rw [htrim, NumberText.integer_decimalText hn]
  exact if_neg (by omega)

/-- A reply that limits the rate and asks for a delay. -/
def Reply.limited (retryAfter : String) : Reply ℚ :=
  { immediate 429 (.ok "") with headers := [("Retry-After", retryAfter)] }

lemma Reply.header?_limited (retryAfter : String) :
    (limited retryAfter).header? "Retry-After" = some retryAfter := by
  simp [header?, limited]

/-- A delay in base ten is too long exactly if it is beyond all floating point numbers. -/
lemma Reply.asksTooLong_limited {n : ℕ} (hn : n < tenTo NumberText.digitLimit) :
    (limited (decimalText n)).AsksTooLong ↔ Binary64.overflow ≤ n := by
  have hread := RetryAfter.ofText_decimalText hn
  constructor
  · rintro ⟨-, -, text, m, hheader, htext, hm⟩
    cases (header?_limited (decimalText n)).symm.trans hheader
    cases hread.symm.trans htext
    exact hm
  · intro hlong
    exact ⟨rfl, rfl, decimalText n, n, header?_limited _, hread, hlong⟩

namespace Endpoint

/-! ## Outcomes of one attempt -/

section Outcome

variable {T : Type} {e : Endpoint T} {r : Reply T}

lemma isFinal_iff {f : Fault} : isFinal f = true ↔ f.IsRejection ∨ f.isDelivery = false := by
  unfold isFinal Fault.IsRejection Fault.isDelivery
  cases hd : f.delivery? with
  | none => simp
  | some d => cases d <;> simp

/-- A failure of the connection and a timeout are failed requests. -/
lemma asRequestFault_eq {f : Fault} (hf : f.isTransport = true ∨ f.isTimeout = true) :
    ∃ message, e.asRequestFault f = .delivery (.request message) (some f) := by
  unfold asRequestFault
  by_cases htransport : f.isTransport = true
  · rw [if_pos htransport]
    exact ⟨_, rfl⟩
  · rw [if_neg htransport, if_pos (hf.resolve_left htransport)]
    exact ⟨_, rfl⟩

lemma outcome_of_failure {f : Fault} (hf : r.failure = some f) :
    e.outcome r = .error (e.asRequestFault f) := by
  unfold outcome Reply.arrival
  rw [hf]
  rfl

lemma outcome_of_arrival (hr : r.failure = none) :
    e.outcome r = r.verdict.mapError e.asRequestFault := by
  unfold outcome Reply.arrival
  rw [hr]
  rfl

lemma outcome_of_asksTooLong (hr : r.AsksTooLong) : e.outcome r = .error .tooLong := by
  obtain ⟨hfailure, hstatus, text, n, hheader, htext, hn⟩ := hr
  rw [outcome_of_arrival hfailure]
  unfold Reply.verdict
  rw [hstatus, hheader, RetryAfter.delay?_of_overflow_le htext hn]
  rfl

/-- An answer that is no such request comes to success or to a fault of the delivery. -/
lemma isDelivery_outcome (hr : r.IsAnswer) (hshort : ¬ r.AsksTooLong) {f : Fault}
    (hf : e.outcome r = .error f) : f.isDelivery = true := by
  cases hfailure : r.failure with
  | some g =>
    obtain ⟨message, hg⟩ := asRequestFault_eq (e := e) (hr.failure g hfailure)
    rw [outcome_of_failure hfailure, hg] at hf
    cases hf
    rfl
  | none =>
    obtain ⟨text, hbody⟩ := hr.body hfailure
    rw [outcome_of_arrival hfailure] at hf
    unfold Reply.verdict at hf
    rw [hbody] at hf
    split_ifs at hf with haccepts hrejects hlimited
    · cases hf
    · cases hf
      rfl
    · obtain ⟨d, hd⟩ := RetryAfter.delay?_of_lt fun text n hheader htext =>
        not_le.mp fun hn => hshort ⟨hfailure, hlimited, text, n, hheader, htext, hn⟩
      rw [hd] at hf
      cases hf
      rfl
    · cases hf
      rfl

lemma verdict_of_rejects (hr : r.Rejects) :
    r.verdict = r.body >>= fun text => throw (.delivery
      (.rejected (firstNonempty [text, r.reason.getD "", signedText r.status])) none) := by
  have haccepts : Reply.accepts r.status = false := by
    have hstatus := hr.status
    unfold Reply.rejects at hstatus
    unfold Reply.accepts
    rw [Bool.or_eq_true, beq_iff_eq, beq_iff_eq] at hstatus
    rcases hstatus with h | h <;> rw [h] <;> rfl
  unfold Reply.verdict
  rw [if_neg (by simp [haccepts]), if_pos hr.status]

lemma outcome_of_read {text : String} (hr : r.Rejects) (hbody : r.body = .ok text) :
    e.outcome r = .error (.delivery
      (.rejected (firstNonempty [text, r.reason.getD "", signedText r.status])) none) := by
  rw [outcome_of_arrival hr.failure, verdict_of_rejects hr, hbody]
  rfl

lemma outcome_of_unread {f : Fault} (hr : r.Rejects) (hbody : r.body = .error f) :
    e.outcome r = .error (e.asRequestFault f) := by
  rw [outcome_of_arrival hr.failure, verdict_of_rejects hr, hbody]
  rfl

/-- What the network library raises and what ran out of time is no fault of the delivery yet. -/
lemma delivery?_of_network {f : Fault} (h : f.isTransport = true ∨ f.isTimeout = true) :
    f.delivery? = none := by
  rcases h with h | h
  · cases f with
    | foreign => rfl
    | _ => cases h
  · exact Fault.delivery?_of_isTimeout h

lemma isRejection_asRequestFault {f : Fault} :
    (e.asRequestFault f).IsRejection ↔ f.IsRejection := by
  by_cases hf : f.isTransport = true ∨ f.isTimeout = true
  · obtain ⟨message, hmessage⟩ := asRequestFault_eq (e := e) hf
    rw [hmessage]
    refine iff_of_false ?_ ?_
    · rintro ⟨_, h⟩
      cases h
    · rintro ⟨_, h⟩
      cases (delivery?_of_network hf).symm.trans h
  · rw [not_or] at hf
    unfold asRequestFault
    rw [if_neg hf.1, if_neg hf.2]

/-- Rejected credentials are told apart only where the reply can be read. -/
lemma exists_outcome_isRejection (hr : r.Rejects) :
    (∃ f, e.outcome r = .error f ∧ f.IsRejection) ↔
      (∃ text, r.body = .ok text) ∨ ∃ f, r.body = .error f ∧ f.IsRejection := by
  cases hbody : r.body with
  | ok text =>
    refine iff_of_true ⟨_, outcome_of_read hr hbody, _, rfl⟩ (.inl ⟨text, rfl⟩)
  | error g =>
    rw [outcome_of_unread hr hbody]
    constructor
    · rintro ⟨f, hf, hrejection⟩
      cases hf
      exact .inr ⟨g, rfl, isRejection_asRequestFault.mp hrejection⟩
    · rintro (⟨text, htext⟩ | ⟨f, hf, hrejection⟩)
      · cases htext
      · cases hf
        exact ⟨_, rfl, isRejection_asRequestFault.mpr hrejection⟩

end Outcome

/-! ## Where the faults come from -/

/-- Where a fault of a delivery comes from: it is of the delivery's own making, or it came back for a
request and is passed on as it is. -/
inductive Raised {T : Type} (e : Endpoint T) : Fault → Prop
  | own (d : DeliveryFault) (cause : Option Fault) : Raised e (.delivery d cause)
  | tooLong : Raised e .tooLong
  | failure {n : ℕ} {f : Fault} : (e.replies n).failure = some f → Raised e f
  | body {n : ℕ} {f : Fault} : (e.replies n).body = .error f → Raised e f

section Origins

variable {T : Type} {e : Endpoint T} {f : Fault}

lemma raised_asRequestFault (h : Raised e f) : Raised e (e.asRequestFault f) := by
  by_cases hf : f.isTransport = true ∨ f.isTimeout = true
  · obtain ⟨message, hmessage⟩ := asRequestFault_eq (e := e) hf
    rw [hmessage]
    exact .own _ _
  · rw [not_or] at hf
    unfold asRequestFault
    rwa [if_neg hf.1, if_neg hf.2]

/-- A fault for which the body is read is one of the delivery, unless the body cannot be read. -/
lemma raised_of_read {n : ℕ} {d : String → DeliveryFault}
    (h : ((e.replies n).body >>= fun text => throw (.delivery (d text) none) : Except Fault Unit)
      = .error f) : Raised e f := by
  cases hbody : (e.replies n).body with
  | error g =>
    rw [hbody] at h
    cases h
    exact .body hbody
  | ok text =>
    rw [hbody] at h
    cases h
    exact .own _ _

lemma raised_of_verdict {n : ℕ} (h : (e.replies n).verdict = .error f) : Raised e f := by
  unfold Reply.verdict at h
  split_ifs at h with haccepts hrejects hlimited
  · exact raised_of_read h
  · split at h
    · cases h
      exact .own _ _
    · next g hdelay =>
      cases h
      exact RetryAfter.eq_tooLong hdelay ▸ .tooLong
  · exact raised_of_read h

lemma raised_of_outcome {n : ℕ} (h : e.outcome (e.replies n) = .error f) : Raised e f := by
  cases hfailure : (e.replies n).failure with
  | some g =>
    rw [outcome_of_failure hfailure] at h
    cases h
    exact raised_asRequestFault (.failure hfailure)
  | none =>
    rw [outcome_of_arrival hfailure] at h
    cases hverdict : (e.replies n).verdict with
    | ok _ =>
      rw [hverdict] at h
      cases h
    | error g =>
      rw [hverdict] at h
      cases h
      exact raised_asRequestFault (raised_of_verdict hverdict)

/-- The faults of a delivery are those of its attempts, but for a payload that cannot be written and
for a delivery that has no attempts. -/
theorem raised_of_run_upload [Seconds T] {c : Collected} {w : World T}
    (h : ((e.upload c).run w).1 = .error f) : Raised e f := by
  cases hc : c.format Json.wire with
  | error g =>
    rw [e.upload_of_error hc w] at h
    cases h
    exact .own _ _
  | ok body =>
    have hlogged : (w.logLine .info .delivery ("Uploading metrics to " ++ e.settings.endpoint
        ++ " (" ++ decimalText body.utf8ByteSize ++ " bytes)")).requests = w.requests + 0 := rfl
    obtain ⟨u, hu, -⟩ := e.run_attempts body e.totalAttempts.toNat 0 (.delivery .exhausted none)
      hlogged
    unfold upload at h
    rw [hc] at h
    dsimp only at h
    rw [run_bind_ok (run_log _ _ _ w)] at h
    have h := (congrArg Prod.fst hu).symm.trans h
    dsimp only at h
    split_ifs at h
    · cases h
      exact .own _ _
    · exact raised_of_outcome h

end Origins

/-! ## Faults that leave a delivery -/

section Upload

variable {T : Type} [Seconds T]

/-- How a delivery ends: before any request if its payload cannot be written, and else with the
first attempt that is not retried or with the last one allowed. -/
lemma upload_ends (e : Endpoint T) (c : Collected) (w : World T)
    (hretries : 0 ≤ e.settings.maxRetries) :
    (∃ f, f.IsSerialization ∧ (e.upload c).run w = (.error f, w)) ∨
      ∃ n u, 0 < n ∧ n ≤ e.settings.maxRetries.toNat + 1 ∧
        (e.upload c).run w = (e.outcomes w (n - 1), u) ∧ u.requests = w.requests + n ∧
        (∀ k < n, isRetried (e.outcomes w k) = false → n = k + 1) ∧
        (n < e.settings.maxRetries.toNat + 1 → isRetried (e.outcomes w (n - 1)) = false) := by
  cases hc : c.format Json.wire with
  | error f => exact .inl ⟨_, ⟨_, rfl⟩, e.upload_of_error hc w⟩
  | ok body =>
    obtain ⟨n, u, hn, hpos, hu, hrequests, -⟩ := e.run_upload hc hretries w
    refine .inr ⟨n, u, hpos, hn ▸ tries_le _ _ 0, hu, hrequests, fun k hk hfinal => ?_,
      fun hlt => ?_⟩
    · by_contra hne
      have hretried := isRetried_of_lt_tries (hn ▸ (show k + 1 < n by omega))
      rw [Nat.zero_add, hfinal] at hretried
      cases hretried
    · have hlast := isRetried_last (hn ▸ hlt)
      rwa [← hn, Nat.zero_add] at hlast

/-- Whatever an endpoint answers, a delivery fails with a fault of the delivery, and before its
retries are used up only for rejected credentials or a payload that cannot be written; but for one
case: a reply that asks for a delay beyond all floating point numbers ends the delivery with a fault
of another family. -/
theorem upload_faults (e : Endpoint T) (c : Collected) (w : World T)
    (hretries : 0 ≤ e.settings.maxRetries) (hanswers : ∀ k, (e.replies k).IsAnswer) :
    let m := e.settings.maxRetries.toNat
    let result := (e.upload c).run w
    ((∀ f, result.1 = .error f → f.isDelivery = true ∧
        (result.2.requests < w.requests + (m + 1) → f.IsRejection ∨ f.IsSerialization)) ↔
      ∀ k, w.requests + k < result.2.requests →
        ¬ (e.replies (w.requests + k)).AsksTooLong) ∧
    ∀ k, w.requests + k < result.2.requests → (e.replies (w.requests + k)).AsksTooLong →
      result.1 = .error .tooLong ∧ result.2.requests = w.requests + (k + 1) := by
  intro m result
  rcases e.upload_ends c w hretries with ⟨f, hserialization, hresult⟩ |
    ⟨n, u, hpos, hle, hresult, hrequests, hsettled, hlast⟩
  · have hresult : result = (.error f, w) := hresult
    rw [hresult]
    refine ⟨iff_of_true (fun g hg => ?_) fun k hk => ?_, fun k hk => ?_⟩
    · cases hg
      obtain ⟨message, hmessage⟩ := hserialization
      exact ⟨by rw [Fault.isDelivery, hmessage]; rfl, fun _ => .inr ⟨message, hmessage⟩⟩
    · exact absurd hk (Nat.le_add_right _ _).not_gt
    · exact absurd hk (Nat.le_add_right _ _).not_gt
  have hresult : result = (e.outcomes w (n - 1), u) := hresult
  rw [hresult]
  dsimp only
  rw [hrequests]
  -- A reply that asks for too long a delay is not retried, so it was the last one.
  have hend {k : ℕ} (hk : k < n) (hlong : (e.replies (w.requests + k)).AsksTooLong) :
      e.outcomes w (n - 1) = .error .tooLong ∧ n = k + 1 := by
    have houtcome : e.outcomes w k = .error .tooLong := outcome_of_asksTooLong hlong
    have hn : n = k + 1 := hsettled k hk (by rw [houtcome]; rfl)
    exact ⟨by rw [hn, Nat.add_sub_cancel, houtcome], hn⟩
  refine ⟨⟨fun hfamily k hk hlong => ?_, fun hshort f hf => ?_⟩, fun k hk hlong => ?_⟩
  · cases (hfamily _ (hend (by omega) hlong).1).1
  · have hdelivery : f.isDelivery = true :=
      isDelivery_outcome (hanswers _) (hshort (n - 1) (by omega)) hf
    refine ⟨hdelivery, fun hearly => .inl ?_⟩
    have hfinal := hlast (by omega)
    rw [hf] at hfinal
    have hfinal : isFinal f = true := by simpa [isRetried] using hfinal
    exact (isFinal_iff.mp hfinal).resolve_right (by simp [hdelivery])
  · obtain ⟨hfault, hn⟩ := hend (k := k) (by omega) hlong
    exact ⟨hfault, by omega⟩

/-- A delay in words is no delay; the delivery goes on and fails for its credentials. -/
theorem upload_faults_scripted :
    let e := scripted [.limited "soon", .immediate 401 (.ok "expired")]
    let w := World.start (T := ℚ) 0
    let result := (e.upload (.payload .bare)).run w
    ∀ f, result.1 = .error f → f.isDelivery = true ∧
      (result.2.requests < w.requests + (e.settings.maxRetries.toNat + 1) →
        f.IsRejection ∨ f.IsSerialization) := by
  intro e w result
  have hanswers (k : ℕ) : (e.replies k).IsAnswer := by
    match k with
    | 0 => exact ⟨nofun, fun _ => ⟨_, rfl⟩⟩
    | 1 => exact ⟨nofun, fun _ => ⟨_, rfl⟩⟩
    | k + 2 => exact ⟨nofun, fun _ => ⟨_, rfl⟩⟩
  have hrequests : result.2.requests = w.requests + 2 := by decide +kernel
  have hshort (k : ℕ) (hk : w.requests + k < result.2.requests) :
      ¬ (e.replies (w.requests + k)).AsksTooLong := by
    rintro ⟨-, hstatus, text, n, hheader, htext, -⟩
    match k with
    | 0 =>
      cases (Reply.header?_limited "soon").symm.trans hheader
      have hunusable : RetryAfter.ofText "soon" = .unusable := by decide +kernel
      cases hunusable.symm.trans htext
    | 1 => cases hstatus
    | k + 2 => exact absurd hk (by rw [hrequests]; omega)
  have hfaults := (upload_faults e (.payload .bare) w (by decide) hanswers).1.mpr
  -- Without their values nothing is evaluated where the statements are compared.
  clear_value e w
  exact hfaults hshort

/-- A server that asks for a delay beyond all floating point numbers ends the delivery with a fault
of another family, though it may be tried again twice. -/
theorem not_forall_upload_faults : ¬ ∀ (e : Endpoint ℚ) (c : Collected) (w : World ℚ),
    0 ≤ e.settings.maxRetries → (∀ k, (e.replies k).IsAnswer) →
      ∀ f, ((e.upload c).run w).1 = .error f → f.isDelivery = true ∧
        (((e.upload c).run w).2.requests < w.requests + (e.settings.maxRetries.toNat + 1) →
          f.IsRejection ∨ f.IsSerialization) := by
  intro h
  let e := scripted [.limited (decimalText (tenTo 309))]
  let w := World.start (T := ℚ) 0
  have hanswers (k : ℕ) : (e.replies k).IsAnswer := by
    match k with
    | 0 => exact ⟨nofun, fun _ => ⟨_, rfl⟩⟩
    | k + 1 => exact ⟨nofun, fun _ => ⟨_, rfl⟩⟩
  have hlow : Binary64.overflow ≤ tenTo 309 := by decide +kernel
  have hhigh : tenTo 309 < tenTo NumberText.digitLimit := tenTo_lt_tenTo (by decide)
  have hfirst : e.outcomes w 0 = .error .tooLong :=
    outcome_of_asksTooLong ((Reply.asksTooLong_limited hhigh).mpr hlow)
  obtain ⟨n, u, hn, -, hu, -, -⟩ := e.run_upload (c := .payload .bare) rfl (by decide) w
  have hfinal : ¬ isRetried (.error .tooLong) = true := Bool.false_ne_true
  rw [tries, hfirst, if_neg hfinal] at hn
  rw [hn, Nat.sub_self, hfirst] at hu
  cases (h e _ w (by decide) hanswers .tooLong (congrArg Prod.fst hu)).1

/-- Once the credentials were rejected no further request is made and the delivery fails for that,
if the reply can be read.  If reading it fails like a connection, the delivery goes on as if the
request had failed. -/
theorem upload_rejected (e : Endpoint T) (c : Collected) (w : World T)
    (hretries : 0 ≤ e.settings.maxRetries) {k : ℕ}
    (hk : w.requests + k < ((e.upload c).run w).2.requests)
    (hrejects : (e.replies (w.requests + k)).Rejects) :
    let m := e.settings.maxRetries.toNat
    let result := (e.upload c).run w
    let body := (e.replies (w.requests + k)).body
    (result.2.requests = w.requests + (k + 1) ∧ (∃ f, result.1 = .error f ∧ f.IsRejection) ↔
      (∃ text, body = .ok text) ∨ ∃ f, body = .error f ∧ f.IsRejection) ∧
    ∀ f, body = .error f → f.isTransport = true ∨ f.isTimeout = true →
      (k < m → w.requests + (k + 1) < result.2.requests) ∧
      (k = m → result.2.requests = w.requests + (k + 1) ∧
        ∃ message, result.1 = .error (.delivery (.request message) (some f))) := by
  intro m result body
  rcases e.upload_ends c w hretries with ⟨f, -, hresult⟩ |
    ⟨n, u, hpos, hle, hresult, hrequests, hsettled, hlast⟩
  · rw [hresult] at hk
    exact absurd hk (Nat.le_add_right _ _).not_gt
  rw [hresult, hrequests] at hk
  have hresult : result = (e.outcomes w (n - 1), u) := hresult
  rw [hresult]
  dsimp only
  rw [hrequests, ← exists_outcome_isRejection (e := e) hrejects]
  refine ⟨⟨?_, ?_⟩, fun f hf hkind => ?_⟩
  · rintro ⟨hn, hrejection⟩
    rwa [show n - 1 = k by omega] at hrejection
  · rintro ⟨f, hf, hrejection⟩
    have hf : e.outcomes w k = .error f := hf
    have hn : n = k + 1 := hsettled k (by omega)
      (by rw [hf, isRetried, isFinal_iff.mpr (.inl hrejection)]; rfl)
    rw [hn, Nat.add_sub_cancel]
    exact ⟨rfl, f, hf, hrejection⟩
  · obtain ⟨message, hmessage⟩ := asRequestFault_eq (e := e) hkind
    have houtcome : e.outcomes w k = .error (.delivery (.request message) (some f)) := by
      rw [← hmessage]
      exact outcome_of_unread hrejects hf
    constructor
    · intro hlt
      by_contra hend
      have hn : n = k + 1 := by omega
      have hfinal := hlast (by omega)
      rw [hn, Nat.add_sub_cancel, houtcome] at hfinal
      cases hfinal
    · rintro rfl
      have hn : n = m + 1 := by omega
      rw [hn, Nat.add_sub_cancel]
      exact ⟨rfl, message, houtcome⟩

/-- Credentials that are rejected in a reply that can be read are sent once. -/
theorem upload_rejected_scripted :
    let e := scripted [.immediate 503 (.ok "busy"), .immediate 403 (.ok "revoked")]
    let w := World.start (T := ℚ) 0
    let result := (e.upload (.payload .bare)).run w
    result.2.requests = w.requests + (1 + 1) ∧ ∃ f, result.1 = .error f ∧ f.IsRejection := by
  intro e w result
  have hmade : w.requests + 1 < result.2.requests := by decide +kernel
  have hbody : (e.replies (w.requests + 1)).body = .ok "revoked" := rfl
  have hrejected := (upload_rejected e (.payload .bare) w (by decide) hmade ⟨rfl, rfl⟩).1.mpr
  clear_value e w
  exact hrejected (.inl ⟨"revoked", hbody⟩)

/-- Credentials that are rejected in a reply that breaks off are sent again. -/
theorem not_forall_upload_rejected : ¬ ∀ (e : Endpoint ℚ) (c : Collected) (w : World ℚ),
    0 ≤ e.settings.maxRetries → ∀ k, w.requests + k < ((e.upload c).run w).2.requests →
      (e.replies (w.requests + k)).Rejects →
        ((e.upload c).run w).2.requests = w.requests + (k + 1) ∧
          ∃ f, ((e.upload c).run w).1 = .error f ∧ f.IsRejection := by
  intro h
  obtain ⟨e, he⟩ : ∃ e, e = scripted
    [.immediate 401 (.error (.foreign "ClientPayloadError" (some "cut off") none))] := ⟨_, rfl⟩
  have hretries : 0 ≤ e.settings.maxRetries := by
    rw [he]
    decide
  have hrejects : (e.replies ((World.start (T := ℚ) 0).requests + 0)).Rejects := by
    rw [he]
    exact ⟨rfl, rfl⟩
  have hmade : ((e.upload (.payload .bare)).run (World.start (T := ℚ) 0)).2.requests = 2 := by
    rw [he]
    decide +kernel
  have hone := (h e _ _ hretries 0 (by rw [hmade]; decide) hrejects).1
  rw [hmade] at hone
  cases hone

end Upload
end Endpoint
end MetricsAgent
