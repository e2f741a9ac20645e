import Mathlib.Data.List.DropRight
import MetricsAgent.Proofs.Delivery.Sending
import MetricsAgent.Proofs.Settings.Usable

/-!
# Where the probe goes

The probe carries the credentials, so it has to go where payloads go: its address must have the
scheme and the authority of the endpoint (`Origin`).  The address is made by cutting the end of a
text off, and what stands behind the authority may be cut at will (`Origin.ofText_append_slash`).
The authority itself is touched in one case only: it is "ingest" and nothing but slashes stands
behind it (`IsBareIngest`).  Then the probe goes to the host "health"
(`Endpoint.probe_origin_iff`).
-/

namespace MetricsAgent

open Script

/-! ## Addresses -/

/-- What names a server in an address. -/
structure Origin where
  scheme : List Char
  authority : List Char
  deriving DecidableEq

namespace Origin

/-- The characters that end an authority. -/
def endsAuthority (c : Char) : Bool :=
  c == '/' || c == '?' || c == '#'

/-- What stands before the first mark `://`, and what stands behind it. -/
def splitMark : List Char → List Char × List Char
  | ':' :: '/' :: '/' :: rest => ([], rest)
  | c :: rest => (c :: (splitMark rest).1, (splitMark rest).2)
  | [] => ([], [])

/-- The scheme of an address stands before the mark, its authority behind it up to the next slash,
question mark or hash. -/
def ofText (s : List Char) : Origin :=
  ⟨(splitMark s).1, (splitMark s).2.takeWhile (!endsAuthority ·)⟩

/-- The mark between a scheme and an authority. -/
def mark : List Char := "://".toList

/-- How an address begins that has a scheme. -/
def start (scheme : List Char) : List Char := scheme ++ mark

variable {scheme rest front tail : List Char}

lemma splitMark_start (h : ':' ∉ scheme) (rest : List Char) :
    splitMark (start scheme ++ rest) = (scheme, rest) := by
  unfold start mark
  induction scheme with
  | nil => rfl
  | cons c cs ih =>
    rw [List.mem_cons, not_or] at h
    rw [List.cons_append, List.cons_append, splitMark, ih h.2]
    rintro rest' rfl
    exact absurd rfl h.1

lemma takeWhile_append_slash (front tail : List Char) :
    (front ++ '/' :: tail).takeWhile (!endsAuthority ·) = front.takeWhile (!endsAuthority ·) := by
  have hslash : ('/' :: tail).takeWhile (!endsAuthority ·) = [] := rfl
  rw [List.takeWhile_append, hslash, List.append_nil]
  split
  · next hall =>
    exact (List.takeWhile_prefix _).eq_of_length hall |>.symm
  · rfl

/-- What stands behind a slash does not count. -/
lemma ofText_append_slash (h : ':' ∉ scheme) (front tail : List Char) :
    ofText (start scheme ++ (front ++ '/' :: tail)) = ofText (start scheme ++ front) := by
  unfold ofText
  rw [splitMark_start h, splitMark_start h]
  dsimp only
  rw [takeWhile_append_slash]

/-- Slashes at the end do not count either. -/
lemma ofText_append_slashes (h : ':' ∉ scheme) (front : List Char) (n : ℕ) :
    ofText (start scheme ++ (front ++ List.replicate n '/')) = ofText (start scheme ++ front) := by
  cases n with
  | zero => rw [List.replicate_zero, List.append_nil]
  | succ n => exact ofText_append_slash h front (List.replicate n '/')

end Origin

/-! ## Cutting off the end -/

section Cutting

variable {scheme rest front : List Char}

lemma withoutEnding_append (front ending : List Char) :
    withoutEnding ending (front ++ ending) = front := by
  unfold withoutEnding
  rw [if_pos (List.isSuffixOf_iff_suffix.mpr (List.suffix_append front ending)),
    List.length_append, Nat.add_sub_cancel, List.take_left]

lemma withoutEnding_of_not_suffix {ending cs : List Char} (h : ¬ ending <:+ cs) :
    withoutEnding ending cs = cs := by
  unfold withoutEnding
  rw [if_neg (mt List.isSuffixOf_iff_suffix.mp h)]

lemma rdropWhile_append_of_ne_nil {p : Char → Bool} {front rest : List Char}
    (h : rest.rdropWhile p ≠ []) : (front ++ rest).rdropWhile p = front ++ rest.rdropWhile p := by
  unfold List.rdropWhile at h ⊢
  rw [ne_eq, List.reverse_eq_nil_iff] at h
  rw [List.reverse_append, List.dropWhile_append, if_neg (by simpa using h), List.reverse_append,
    List.reverse_reverse]

/-- A text is what is left without the slashes at its end, and those slashes. -/
lemma exists_trailing (cs : List Char) :
    ∃ n, cs = cs.rdropWhile (· == '/') ++ List.replicate n '/' := by
  refine ⟨(cs.rtakeWhile (· == '/')).length, ?_⟩
  have hslashes : cs.rtakeWhile (· == '/')
      = List.replicate (cs.rtakeWhile (· == '/')).length '/' :=
    List.eq_replicate_iff.mpr ⟨rfl, fun c hc => by simpa using List.mem_rtakeWhile_imp hc⟩
  rw [← hslashes, List.rdropWhile_append_rtakeWhile]

lemma rdropWhile_slashes (front : List Char) (n : ℕ) :
    (front ++ List.replicate n '/').rdropWhile (· == '/') = front.rdropWhile (· == '/') := by
  unfold List.rdropWhile
  rw [List.reverse_append, List.reverse_replicate, List.dropWhile_append_of_pos]
  intro c hc
  rw [List.eq_of_mem_replicate hc]
  rfl

/-- The ending that an endpoint may have and its probe has not. -/
def ingestEnding : List Char := "/ingest".toList

/-- The name of a host that begins where that ending has its slash. -/
def ingestHost : List Char := "ingest".toList

/-- Where the ending reaches beyond what stands behind the mark, that is the host alone. -/
lemma eq_ingestHost_of_overlap {overlap : List Char} (h : overlap <:+ Origin.start scheme)
    (hne : overlap ≠ []) (heq : overlap ++ rest = ingestEnding) : rest = ingestHost := by
  -- The overlap ends in a slash, and the ending has but one, which is its first character.
  have hslash : overlap.getLast hne = '/' := by
    rw [h.getLast hne]
    simp [Origin.start, Origin.mark]
  obtain ⟨c, inner, rfl⟩ := List.exists_cons_of_ne_nil hne
  have htail : inner ++ rest = ingestHost := congrArg List.tail heq
  cases hinner : inner with
  | nil => rwa [hinner] at htail
  | cons d ds =>
    have hlast : '/' ∈ inner := by
      rw [← hslash, List.getLast_cons (by simp [hinner])]
      exact List.getLast_mem _
    have habsent : '/' ∉ ingestHost := by decide
    exact absurd (htail ▸ List.mem_append_left rest hlast) habsent

/-- An address ends with the ending either behind the mark or where the host is named like it. -/
lemma suffix_start_cases (h : ingestEnding <:+ Origin.start scheme ++ rest) :
    (∃ front, rest = front ++ ingestEnding) ∨ rest = ingestHost := by
  obtain ⟨before, hbefore⟩ := h
  rcases List.append_eq_append_iff.mp hbefore with ⟨overlap, hstart, hending⟩ | ⟨front, -, hrest⟩
  · by_cases hnone : overlap = []
    · exact .inl ⟨[], by rw [hending, hnone]; rfl⟩
    · exact .inr (eq_ingestHost_of_overlap ⟨before, hstart.symm⟩ hnone hending.symm)
  · exact .inl ⟨front, hrest⟩

end Cutting

/-! ## The address of the probe -/

section Probe

variable {scheme rest : List Char} {endpoint : String}

lemma toList_healthUrl (endpoint : String) : (healthUrl endpoint).toList
    = withoutEnding ingestEnding (endpoint.toList.rdropWhile (· == '/'))
      ++ '/' :: "health".toList := by
  unfold healthUrl
  rw [String.toList_append, String.toList_ofList]
  rfl

/-- An address that is accepted has one of two schemes, and a mark. -/
lemma exists_start_of_accepted (h : IngestSettings.endpointFault? endpoint = none) :
    ∃ scheme rest, ':' ∉ scheme ∧ endpoint.toList = Origin.start scheme ++ rest := by
  rcases IngestSettings.prefix_of_endpointFault? h with ⟨rest, hrest⟩ | ⟨rest, hrest⟩
  · exact ⟨"http".toList, rest, by decide, hrest.symm⟩
  · exact ⟨"https".toList, rest, by decide, hrest.symm⟩

/-- The host of an address is named like the ending and nothing but slashes stands behind it. -/
def IsBareIngest (address : List Char) : Prop :=
  ∃ n, address = Origin.start (Origin.ofText address).scheme ++ (ingestHost ++ List.replicate n '/')

variable (hscheme : ':' ∉ scheme) (h : endpoint.toList = Origin.start scheme ++ rest)

include hscheme h

lemma isBareIngest_iff :
    IsBareIngest endpoint.toList ↔ rest.rdropWhile (· == '/') = ingestHost := by
  have hsplit : (Origin.ofText endpoint.toList).scheme = scheme := by
    rw [h, Origin.ofText, Origin.splitMark_start hscheme]
  unfold IsBareIngest
  rw [hsplit, h]
  constructor
  · rintro ⟨n, hn⟩
    rw [List.append_cancel_left hn, rdropWhile_slashes]
    rfl
  · intro hhost
    obtain ⟨n, hn⟩ := exists_trailing rest
    exact ⟨n, by rw [← hhost, ← hn]⟩

/-- Behind the mark there is more than slashes if there is an authority. -/
lemma rdropWhile_ne_nil (hauthority : (Origin.ofText endpoint.toList).authority ≠ []) :
    rest.rdropWhile (· == '/') ≠ [] := by
  rw [h, Origin.ofText, Origin.splitMark_start hscheme] at hauthority
  rw [ne_eq, List.rdropWhile_eq_nil_iff]
  intro hall
  cases rest with
  | nil => exact hauthority rfl
  | cons c cs =>
    obtain rfl : c = '/' := by simpa using hall c List.mem_cons_self
    exact hauthority rfl

/-- The slashes at its end do not count in an endpoint. -/
lemma ofText_endpoint : Origin.ofText endpoint.toList
    = Origin.ofText (Origin.start scheme ++ rest.rdropWhile (· == '/')) := by
  obtain ⟨n, hslashes⟩ := exists_trailing rest
  rw [h, hslashes, Origin.ofText_append_slashes hscheme, ← hslashes]

/-- The probe stays with the endpoint unless the cut goes through the authority. -/
lemma ofText_healthUrl (hrest : rest.rdropWhile (· == '/') ≠ [])
    (hhost : rest.rdropWhile (· == '/') ≠ ingestHost) :
    Origin.ofText (healthUrl endpoint).toList = Origin.ofText endpoint.toList := by
  rw [ofText_endpoint hscheme h, toList_healthUrl, h, rdropWhile_append_of_ne_nil hrest]
  by_cases hending : ingestEnding <:+ Origin.start scheme ++ rest.rdropWhile (· == '/')
  · obtain ⟨front, hfront⟩ := (suffix_start_cases hending).resolve_right hhost
    rw [hfront, ← List.append_assoc, withoutEnding_append, List.append_assoc, List.append_assoc,
      Origin.ofText_append_slash hscheme]
    exact (Origin.ofText_append_slash hscheme front ingestHost).symm
  · rw [withoutEnding_of_not_suffix hending, List.append_assoc, Origin.ofText_append_slash hscheme]

/-- If it does, the host of the probe is named for health. -/
lemma ofText_healthUrl_of_bare (hhost : rest.rdropWhile (· == '/') = ingestHost) :
    Origin.ofText (healthUrl endpoint).toList = ⟨scheme, "health".toList⟩ := by
  have hrest : rest.rdropWhile (· == '/') ≠ [] := by
    rw [hhost]
    decide
  have hcut : Origin.start scheme ++ ingestHost = (scheme ++ ":/".toList) ++ ingestEnding := by
    rw [Origin.start, List.append_assoc, List.append_assoc]
    rfl
  have hhealth : (healthUrl endpoint).toList = Origin.start scheme ++ "health".toList := by
    rw [toList_healthUrl, h, rdropWhile_append_of_ne_nil hrest, hhost, hcut, withoutEnding_append,
      Origin.start, List.append_assoc, List.append_assoc]
    rfl
  rw [hhealth, Origin.ofText, Origin.splitMark_start hscheme]
  rfl

end Probe

namespace Endpoint

variable {T : Type} [Seconds T]

/-- A probe is one request, with the credentials. -/
lemma traffic_probe (e : Endpoint T) (w : World T) : (e.probe.run w).2.traffic
    = w.traffic ++ [.request "GET" (healthUrl e.settings.endpoint) e.credentials none] := by
  obtain ⟨u, hopen, hsilent⟩ := e.silent_openSession
    (w.logLine .debug .delivery ("Testing connection to " ++ healthUrl e.settings.endpoint))
  obtain ⟨v, hexchange, -, htraffic⟩ :=
    e.run_exchange "GET" (healthUrl e.settings.endpoint) e.credentials none u
  rw [hsilent.traffic] at htraffic
  refine Eq.trans ?_ htraffic
  unfold probe
  rw [run_bind_ok (run_log _ _ _ w), run_bind_ok hopen]
  cases harrival : (e.replies u.requests).arrival with
  | error f =>
    rw [harrival] at hexchange
    have hfault := run_recover_error (f := fun f => fail (e.asRequestFault f)) hexchange
    rw [run_bind_error hfault]
  | ok r =>
    rw [harrival] at hexchange
    have harrived := run_recover_ok (f := fun f => fail (e.asRequestFault f)) hexchange
    rw [run_bind_ok harrived]
    split
    · rfl
    · split
      · rfl
      · rfl

/-- The probe sends the credentials to the scheme and the authority of the endpoint, whatever stands
behind them; but for one kind of endpoint, a host named "ingest" with nothing but slashes behind it:
there they go to the host "health". -/
theorem probe_origin_iff (e : Endpoint T) (w : World T)
    (haccepted : IngestSettings.endpointFault? e.settings.endpoint = none)
    (hauthority : (Origin.ofText e.settings.endpoint.toList).authority ≠ []) :
    let origin := Origin.ofText e.settings.endpoint.toList
    let url := healthUrl e.settings.endpoint
    (e.probe.run w).2.traffic = w.traffic ++ [.request "GET" url e.credentials none] ∧
      (Origin.ofText url.toList = origin ↔ ¬ IsBareIngest e.settings.endpoint.toList) ∧
      (IsBareIngest e.settings.endpoint.toList →
        Origin.ofText url.toList = ⟨origin.scheme, "health".toList⟩) := by
  intro origin url
  obtain ⟨scheme, rest, hscheme, hendpoint⟩ := exists_start_of_accepted haccepted
  have hrest := rdropWhile_ne_nil hscheme hendpoint hauthority
  have hbare := isBareIngest_iff hscheme hendpoint
  have hingest (hhost : rest.rdropWhile (· == '/') = ingestHost) :
      origin = ⟨scheme, ingestHost⟩ := by
    show Origin.ofText e.settings.endpoint.toList = _
    rw [ofText_endpoint hscheme hendpoint, hhost, Origin.ofText, Origin.splitMark_start hscheme]
    rfl
  refine ⟨e.traffic_probe w, ?_, fun hhost => ?_⟩
  · by_cases hhost : rest.rdropWhile (· == '/') = ingestHost
    · refine iff_of_false ?_ (not_not_intro (hbare.mpr hhost))
      show ¬ Origin.ofText (healthUrl e.settings.endpoint).toList = origin
      rw [ofText_healthUrl_of_bare hscheme hendpoint hhost, hingest hhost]
      intro h
      cases congrArg Origin.authority h
    · exact iff_of_true (ofText_healthUrl hscheme hendpoint hrest hhost) (mt hbare.mp hhost)
  · have hhost := hbare.mp hhost
    show Origin.ofText (healthUrl e.settings.endpoint).toList = _
    rw [ofText_healthUrl_of_bare hscheme hendpoint hhost, hingest hhost]

/-- An endpoint at an address that answers as it should. -/
def sound (address : String) : Endpoint ℚ where
  settings := { (scripted []).settings with endpoint := address }
  replies := (scripted []).replies

/-- Where more than slashes stands behind the host, it does not matter how the host is named. -/
theorem probe_origin_iff_namesake :
    let e := sound "http://ingest/ingest//"
    let w := World.start (T := ℚ) 0
    let url := healthUrl e.settings.endpoint
    (e.probe.run w).2.traffic = w.traffic ++ [.request "GET" url e.credentials none] ∧
      Origin.ofText url.toList = ⟨"http".toList, "ingest".toList⟩ := by
  intro e w url
  have hendpoint : e.settings.endpoint.toList
      = Origin.start "http".toList ++ "ingest/ingest//".toList := by decide +kernel
  have hbare : ¬ IsBareIngest e.settings.endpoint.toList := by
    rw [isBareIngest_iff (by decide) hendpoint]
    decide +kernel
  obtain ⟨htraffic, horigin, -⟩ :=
    e.probe_origin_iff w (by decide +kernel) (by decide +kernel)
  refine ⟨htraffic, (horigin.mpr hbare).trans ?_⟩
  decide +kernel

/-- The probe of a bare host named "ingest" goes elsewhere. -/
theorem not_forall_probe_origin : ¬ ∀ e : Endpoint ℚ,
    IngestSettings.endpointFault? e.settings.endpoint = none →
      (Origin.ofText e.settings.endpoint.toList).authority ≠ [] →
        Origin.ofText (healthUrl e.settings.endpoint).toList
          = Origin.ofText e.settings.endpoint.toList := by
  intro h
  have horigin := h (sound "http://ingest") (by decide +kernel) (by decide +kernel)
  have hdiffer : ¬ Origin.ofText (healthUrl (sound "http://ingest").settings.endpoint).toList
      = Origin.ofText (sound "http://ingest").settings.endpoint.toList := by decide +kernel
  exact hdiffer horigin

end Endpoint
end MetricsAgent
