import MetricsAgent.Proofs.Run.Endings

/-!
# The accounts balance

Every cycle that comes to a result is counted once: in the total, under the stage of its result, with
one duration and, if reporting was started, with one report.  A cycle comes to no result only if the
bookkeeping of the collector failed with something else than a fault of collection; then it is in the
total and nowhere else.  So after any number of cycles, whatever became of each, the total is what
was counted under the three stages and the cycles without a result (`Cycle.sequence_accounted`).
-/

namespace MetricsAgent

open Script

/-! ## The end of a list -/

lemma length_rtake_le {α : Type} (l : List α) (n : ℕ) : (l.rtake n).length ≤ n := by
  simp only [List.rtake, List.length_drop]
  omega

/-- What does not count for the end of a list can go beforehand. -/
lemma rtake_rtake_append {α : Type} (l m : List α) (n : ℕ) :
    (l.rtake n ++ m).rtake n = (l ++ m).rtake n := by
  simp only [List.rtake_eq_reverse_take_reverse, List.reverse_append, List.reverse_reverse,
    List.take_append, List.take_take]
  congr 4
  omega

namespace Cycle

variable {T : Type} [Seconds T] {w v u : World T}

/-! ## Calls -/

/-- A call for a cycle: with which collector and for which destination, and the world in which it is
made. -/
structure Call (T : Type) where
  collector : Collector T
  destination : Option (Destination T)
  before : World T

namespace Call

/-- What the call comes to: a result or a fault. -/
def outcome (c : Call T) : Except Fault (CycleResult T) :=
  ((run c.collector c.destination).run c.before).1

/-- The world after the call. -/
def after (c : Call T) : World T :=
  ((run c.collector c.destination).run c.before).2

/-- The world in which metrics are called for. -/
def opened (c : Call T) : World T :=
  Reporting.leaveNote "Collection cycle started" "scheduler" "info" .null
    { c.before with cycles := c.before.cycles.begun c.before.clock }

/-- What the collector comes to, and the world after that. -/
def collected (c : Call T) : Except Fault Collected × World T :=
  c.collector.trackedCollect.run c.opened

/-- What is known of the cycle once metrics were called for. -/
def known (c : Call T) : CycleResult T :=
  match c.collected with
  | (.error _, _) => ⟨.collect, none, none, Seconds.zero, c.before.clock⟩
  | (.ok _, v) => ⟨.upload, none, some (Seconds.milliseconds (Seconds.sub v.now c.before.now)),
      Seconds.zero, c.before.clock⟩

/-- The stage that the cycle gets to. -/
def stage (c : Call T) : CycleStage :=
  match c.collected with
  | (.error _, _) => .collect
  | (.ok p, v) => stageAfter c.destination p v

variable {c : Call T} {p : Collected} {f : Fault}

lemma sameAccounts_collected (c : Call T) :
    { c.before with cycles := c.before.cycles.begun c.before.clock }.SameAccounts c.collected.2 :=
  (sameAccounts_leaveNote _ _ _ _ _).trans (c.collector.apart_trackedCollect c.opened)

/-- The cycle goes on from what the collector came to. -/
lemma run_eq {o : Except Fault Collected} (h : c.collected = (o, v))
    (d : Option (Destination T)) : (run c.collector d).run c.before = (match o with
      | .ok p => do
        let collection ← since c.before.now
        deliver d p c.before.now
          ⟨.upload, none, some collection, Seconds.zero, c.before.clock⟩
      | .error f =>
        match f.stage? with
        | some stage =>
          failed .collect f [(.text "kind", .text stage.kind)] (collectionFailed stage ++ ·) id
            c.before.now ⟨.collect, none, none, Seconds.zero, c.before.clock⟩
        | none => throw f).run v := by
  have hattempt : c.collector.trackedCollect.attempt.run c.opened = (.ok o, v) := by
    rw [run_attempt]
    exact congrArg (fun x => (Except.ok x.1, x.2)) h
  have hbegun : (changeTotals (·.begun c.before.clock) : Script T Unit).run c.before
      = (.ok (), { c.before with cycles := c.before.cycles.begun c.before.clock }) := rfl
  have hnoted : (change (Reporting.leaveNote "Collection cycle started" "scheduler" "info" .null) :
      Script T Unit).run { c.before with cycles := c.before.cycles.begun c.before.clock }
      = (.ok (), c.opened) := rfl
  unfold run
  refine (run_bind_ok (run_world _)).trans ?_
  refine (run_bind_ok hbegun).trans ?_
  refine (run_bind_ok hnoted).trans ?_
  refine (run_bind_ok hattempt).trans ?_
  rcases o with f | p
  · cases hstage : f.stage? <;> simp only [hstage]
  · rfl

lemma run_of_collected (h : c.collected = (.ok p, v)) (d : Option (Destination T)) :
    (run c.collector d).run c.before = (deliver d p c.before.now c.known).run v := by
  rw [c.run_eq h d, known, h]
  rfl

lemma run_of_failed (h : c.collected = (.error f, v)) (hf : f.isCollection = true)
    (htellable : f.Tellable) (d : Option (Destination T)) :
    ∃ r u, (run c.collector d).run c.before = (.ok r, u) ∧ EndsWith v c.known .collect r u := by
  obtain ⟨stage, hstage⟩ := Option.isSome_iff_exists.mp hf
  rw [c.run_eq h d, known, h]
  simp only [hstage]
  exact endsWith_failed htellable rfl (by simp) _ _ _ _ v

/-- A fault of collection that cannot be told: the call is counted and ends in what gets in the way. -/
lemma run_of_silenced {g : Fault} (h : c.collected = (.error f, v)) (hf : f.isCollection = true)
    (hsilence : f.silence? = some g) (d : Option (Destination T)) :
    (run c.collector d).run c.before
      = (.error g, { v with cycles := v.cycles.ended .collect c.before.clock }) := by
  obtain ⟨stage, hstage⟩ := Option.isSome_iff_exists.mp hf
  rw [c.run_eq h d]
  simp only [hstage]
  exact run_failed_of_silence? hsilence _ _ _ _ _ v

lemma run_of_raised (h : c.collected = (.error f, v)) (hf : f.isCollection = false)
    (d : Option (Destination T)) :
    (run c.collector d).run c.before = (.error f, v) := by
  have hstage : f.stage? = none := by simpa [Fault.isCollection] using hf
  rw [c.run_eq h d]
  simp only [hstage]
  rfl

/-! ### What is accounted for -/

/-- A call has come to a result: it is counted once in the total and once under the stage of the
result, its duration is kept, and its end is reported once if reporting was started. -/
structure Returned (c : Call T) (r : CycleResult T) : Prop where
  stage : r.stage = c.stage
  done : r.success = true ↔ r.stage = .done
  success : r.success = true ↔ r.error = none
  collection : r.collection = none ↔ r.stage = .collect
  started : r.started = c.before.clock
  total : c.after.cycles.total = c.before.cycles.total + 1
  counted (s : CycleStage) :
    c.after.cycles.endedAt s = c.before.cycles.endedAt s + if s = r.stage then 1 else 0
  last : c.after.cycles.last = some r.started
  lastSuccess : c.after.cycles.lastSuccess
    = if r.success then some r.started else c.before.cycles.lastSuccess
  durations : c.after.cycles.durations
    = (c.before.cycles.durations ++ [r.duration]).rtake CycleTotals.keptDurations
  reported : c.after.endedCycles
    = c.before.endedCycles ++ if c.before.reporting then [r.tags] else []

/-- A call has come to a fault: the collector failed with something else than a fault of collection,
and with nothing that may be handled unless its bookkeeping failed.  Of the accounts only the total
and the time of the last cycle change. -/
structure Raised (c : Call T) (f : Fault) : Prop where
  collected : c.collected.1 = .error f
  foreign : f.isCollection = false
  bookkeeping : f.isOrdinary = true → c.collector.trackingFault = some f
  cycles : c.after.cycles = { c.before.cycles with
    total := c.before.cycles.total + 1, last := some c.before.clock }
  unreported : c.after.endedCycles = c.before.endedCycles

/-- What a call makes of its destination.  With a payload collected the destination is asked once,
to take this payload: the call goes on as it does with a destination that gives the same answer
and has done its work already.  Without a payload nothing is asked of it: any other destination
would do. -/
structure Attempted (c : Call T) : Prop where
  once {p : Collected} {v : World T} {send : Destination T} : c.collected = (.ok p, v) →
    c.destination = some send → (c.outcome, c.after)
      = (deliver (some (.answering ((send p).run v).1)) p c.before.now c.known).run
        ((send p).run v).2
  never {f : Fault} : c.collected.1 = .error f → ∀ d,
    (run c.collector d).run c.before = (c.outcome, c.after)

/-- Everything that is to be accounted for in a call. -/
structure Accounted (c : Call T) : Prop where
  returned {r : CycleResult T} : c.outcome = .ok r → c.Returned r
  raised {f : Fault} : c.outcome = .error f → c.Raised f
  raises {f : Fault} : c.collected.1 = .error f → f.isCollection = false → c.outcome = .error f
  attempted : c.Attempted
  reporting : c.after.reporting = c.before.reporting

/-- The result of a call that came to one. -/
def result? (c : Call T) : Option (CycleResult T) :=
  c.outcome.toOption

lemma started_known (c : Call T) : c.known.started = c.before.clock := by
  unfold known
  split <;> rfl

lemma collection_known (c : Call T) : c.known.collection = none ↔ c.stage = .collect := by
  unfold known stage
  split
  · simp
  · rename_i p v _
    have hstage : stageAfter c.destination p v ≠ .collect := by
      unfold stageAfter
      split
      · simp
      · split <;> simp
    simp [hstage]

lemma returned_of_endsWith {r : CycleResult T}
    (hends : EndsWith c.collected.2 c.known c.stage r c.after) : c.Returned r := by
  have hsame := c.sameAccounts_collected
  have hcycles : c.after.cycles = ((c.before.cycles.begun c.before.clock).ended c.stage
      c.before.clock).lasted r.duration := by
    rw [hends.cycles, hsame.cycles, started_known]
  have hdone : r.success = true ↔ r.stage = .done := by
    unfold CycleResult.success
    exact beq_iff_eq
  have hstarted : r.started = c.before.clock := hends.started.trans c.started_known
  refine
    { stage := hends.stage
      done := hdone
      success := by rw [hdone, hends.error, hends.stage]
      collection := by rw [hends.collection, hends.stage, collection_known]
      started := hstarted
      total := ?_
      counted := fun s => ?_
      last := ?_
      lastSuccess := ?_
      durations := ?_
      reported := ?_ }
  · rw [hcycles, CycleTotals.total_ended_lasted]
    rfl
  · rw [hcycles, CycleTotals.endedAt_ended_lasted, hends.stage]
    rfl
  · rw [hcycles, CycleTotals.last_ended_lasted, hstarted]
    rfl
  · simp only [hdone]
    rw [hcycles, CycleTotals.lastSuccess_ended_lasted, hstarted, hends.stage]
    rfl
  · rw [hcycles, CycleTotals.durations_ended_lasted]
    rfl
  · rw [hends.endedCycles, hsame.endedCycles, hsame.reporting, World.endedCycles_withCycles]

lemma raised_of_collected (houtspoken : c.collector.Outspoken) (h : c.collected = (.error f, v))
    (hf : f.isCollection = false) (hafter : c.after = v) : c.Raised f := by
  have hsame := c.sameAccounts_collected
  rw [h] at hsame
  refine ⟨congrArg Prod.fst h, hf, fun hordinary => ?_, ?_, ?_⟩
  · exact c.collector.trackingFault_of_run houtspoken (congrArg Prod.fst h) hf hordinary
  · rw [hafter, hsame.cycles]
    rfl
  · rw [hafter, hsame.endedCycles, World.endedCycles_withCycles]

/-- The call goes the same way whatever the destination if there is no payload. -/
lemma never_of_failed (h : c.collected.1 = .error f) (d : Option (Destination T)) :
    (run c.collector d).run c.before = (c.outcome, c.after) := by
  have hcollected : c.collected = (.error f, c.collected.2) := Prod.ext h rfl
  show _ = (run c.collector c.destination).run c.before
  rw [c.run_eq hcollected d, c.run_eq hcollected c.destination]

lemma attempted (c : Call T) : c.Attempted where
  once {p v send} hcollected hdestination := by
    show (run c.collector c.destination).run c.before = _
    rw [c.run_of_collected hcollected, hdestination, run_deliver_some]
  never := never_of_failed

/-- A call that ends at its stage has come to a result. -/
lemma accounted_of_returned {r : CycleResult T} {u : World T}
    (hrun : (run c.collector c.destination).run c.before = (.ok r, u))
    (hends : EndsWith c.collected.2 c.known c.stage r u)
    (hcollected : ∀ f, c.collected.1 = .error f → f.isCollection = true) : c.Accounted := by
  have houtcome : c.outcome = .ok r := congrArg Prod.fst hrun
  have hafter : c.after = u := congrArg Prod.snd hrun
  refine ⟨fun {r'} h => ?_, fun {f} h => ?_, fun {f} h hf => ?_, c.attempted, ?_⟩
  · have hsame : r = r' := Except.ok.inj (houtcome.symm.trans h)
    rw [← hsame]
    exact returned_of_endsWith (hafter ▸ hends)
  · rw [houtcome] at h
    cases h
  · rw [hcollected f h] at hf
    cases hf
  · rw [hafter, hends.reporting, c.sameAccounts_collected.reporting]

/-- Every call is accounted for. -/
theorem accounted (houtspoken : c.collector.Outspoken)
    (hfair : ∀ send ∈ c.destination, send.Fair) : c.Accounted := by
  rcases hcollected : c.collected with ⟨f | p, v⟩
  · by_cases hf : f.isCollection = true
    · have htellable := c.collector.tellable_of_run houtspoken (congrArg Prod.fst hcollected)
      obtain ⟨r, u, hrun, hends⟩ := run_of_failed hcollected hf htellable c.destination
      have hstage : c.stage = .collect := by rw [stage, hcollected]
      refine accounted_of_returned hrun ?_ fun g hg => ?_
      · rw [hcollected, hstage]
        exact hends
      · rw [hcollected] at hg
        rw [← Except.error.inj hg]
        exact hf
    · have hforeign : f.isCollection = false := by simpa using hf
      have hrun := run_of_raised hcollected hforeign c.destination
      have houtcome : c.outcome = .error f := congrArg Prod.fst hrun
      have hafter : c.after = v := congrArg Prod.snd hrun
      refine ⟨fun {r} h => ?_, fun {g} h => ?_, fun {g} h _ => ?_, c.attempted, ?_⟩
      · rw [houtcome] at h
        cases h
      · rw [← Except.error.inj (houtcome.symm.trans h)]
        exact raised_of_collected houtspoken hcollected hforeign hafter
      · rw [hcollected] at h
        rw [houtcome, Except.error.inj h]
      · have hsame := c.sameAccounts_collected
        rw [hcollected] at hsame
        rw [hafter, hsame.reporting]
  · have hstage : c.stage = stageAfter c.destination p v := by rw [stage, hcollected]
    have hknown : c.known.stage = .upload ∧ c.known.error = none := by simp [known, hcollected]
    obtain ⟨r, u, hrun, hends⟩ := endsWith_deliver hfair p c.before.now hknown.1 hknown.2 v
    rw [← c.run_of_collected hcollected] at hrun
    refine accounted_of_returned hrun ?_ fun f hf => ?_
    · rw [hcollected, hstage]
      exact hends
    · rw [hcollected] at hf
      cases hf

end Call

/-! ## Many calls -/

/-- Calls one after the other lead from one world to another.  Between two calls anything may happen
that leaves the accounts alone. -/
inductive Sequence : World T → List (Call T) → World T → Prop
  | nil {w u : World T} (h : w.SameAccounts u) : Sequence w [] u
  | cons {w u : World T} {c : Call T} {cs : List (Call T)} (h : w.SameAccounts c.before)
    (hrest : Sequence c.after cs u) : Sequence w (c :: cs) u

/-- What a sequence of calls has added to the accounts. -/
structure Balance (w : World T) (cs : List (Call T)) (u : World T) : Prop where
  total : u.cycles.total = w.cycles.total + cs.length
  counted (s : CycleStage) : u.cycles.endedAt s
    = w.cycles.endedAt s + (cs.filterMap Call.result?).countP (·.stage = s)
  durations : w.cycles.durations.length ≤ CycleTotals.keptDurations →
    u.cycles.durations = (w.cycles.durations ++ (cs.filterMap Call.result?).map (·.duration)).rtake
      CycleTotals.keptDurations
  reporting : u.reporting = w.reporting
  reported : u.endedCycles = w.endedCycles
    ++ if w.reporting then (cs.filterMap Call.result?).map CycleResult.tags else []

namespace Balance

variable {c : Call T} {cs ds : List (Call T)}

lemma of_sameAccounts (h : w.SameAccounts u) : Balance w [] u where
  total := by rw [h.cycles]; rfl
  counted s := by rw [h.cycles]; simp
  durations hw := by
    rw [h.cycles]
    simp [List.rtake, Nat.sub_eq_zero_of_le hw]
  reporting := h.reporting
  reported := by rw [h.endedCycles]; simp

lemma trans (hcs : Balance w cs v) (hds : Balance v ds u) : Balance w (cs ++ ds) u where
  total := by
    rw [hds.total, hcs.total, List.length_append]
    omega
  counted s := by
    rw [hds.counted, hcs.counted, List.filterMap_append, List.countP_append]
    omega
  durations hw := by
    have hv := hcs.durations hw
    rw [hds.durations (by rw [hv]; exact length_rtake_le _ _), hv, rtake_rtake_append]
    simp [List.filterMap_append]
  reporting := hds.reporting.trans hcs.reporting
  reported := by
    rw [hds.reported, hcs.reported, hcs.reporting]
    cases w.reporting <;> simp

/-- What one call adds. -/
lemma of_accounted (h : c.Accounted) : Balance c.before [c] c.after := by
  cases houtcome : c.outcome with
  | ok r =>
    have hr := h.returned houtcome
    have hresult : [c].filterMap Call.result? = [r] := by
      simp [Call.result?, houtcome, Except.toOption]
    refine ⟨hr.total, fun s => ?_, fun _ => ?_, h.reporting, ?_⟩
    · rw [hr.counted, hresult]
      simp [eq_comm]
    · rw [hr.durations, hresult]
      rfl
    · rw [hr.reported, hresult]
      rfl
  | error f =>
    have hf := h.raised houtcome
    have hresult : [c].filterMap Call.result? = [] := by
      simp [Call.result?, houtcome, Except.toOption]
    refine ⟨by rw [hf.cycles]; rfl, fun s => ?_, fun hw => ?_, h.reporting, ?_⟩
    · rw [hf.cycles, hresult]
      cases s <;> rfl
    · rw [hf.cycles, hresult]
      simp [List.rtake, Nat.sub_eq_zero_of_le hw]
    · rw [hf.unreported, hresult]
      simp

/-- If the total was the sum of the three counts, then now it is their sum and the calls without a
result. -/
lemma total_eq (h : Balance w cs u) (hw : w.cycles.total
      = w.cycles.succeeded + w.cycles.collectFailures + w.cycles.uploadFailures) :
    u.cycles.total = u.cycles.succeeded + u.cycles.collectFailures + u.cycles.uploadFailures
      + cs.countP (·.result?.isNone) := by
  have hlength : cs.length
      = (cs.filterMap Call.result?).length + cs.countP (·.result?.isNone) := by
    rw [List.length_filterMap_eq_countP,
      List.length_eq_countP_add_countP fun c : Call T => c.result?.isSome]
    congr 2
    funext c
    cases c.result? <;> rfl
  have hstages (rs : List (CycleResult T)) : rs.length
      = rs.countP (·.stage = .done) + rs.countP (·.stage = .collect)
        + rs.countP (·.stage = .upload) := by
    induction rs with
    | nil => rfl
    | cons r rs ih => cases hr : r.stage <;> simp [hr, ih] <;> omega
  have hdone := h.counted .done
  have hcollect := h.counted .collect
  have hupload := h.counted .upload
  have htotal := h.total
  simp only [CycleTotals.endedAt] at hdone hcollect hupload
  rw [hlength, hstages] at htotal
  omega

end Balance

/-- After any sequence of calls every call is accounted for, and the totals balance: each is the sum
of what the calls have added, and the total is what was counted under the three stages and the calls
that came to a fault. -/
theorem sequence_accounted {cs : List (Call T)} (h : Sequence w cs u)
    (houtspoken : ∀ c ∈ cs, c.collector.Outspoken)
    (hfair : ∀ c ∈ cs, ∀ send ∈ c.destination, send.Fair) :
    (∀ c ∈ cs, c.Accounted) ∧ Balance w cs u ∧
      (w.cycles.total = w.cycles.succeeded + w.cycles.collectFailures + w.cycles.uploadFailures →
        u.cycles.total = u.cycles.succeeded + u.cycles.collectFailures + u.cycles.uploadFailures
          + cs.countP (·.result?.isNone)) := by
  have haccounted : ∀ c ∈ cs, c.Accounted := fun c hc =>
    Call.accounted (houtspoken c hc) (hfair c hc)
  have hbalance : Balance w cs u := by
    clear houtspoken hfair
    induction h with
    | nil h => exact .of_sameAccounts h
    | cons h _ ih =>
      have hrest := ih fun c hc => haccounted c (List.mem_cons_of_mem _ hc)
      have hcall := Balance.of_accounted (haccounted _ List.mem_cons_self)
      exact (Balance.of_sameAccounts h).trans (hcall.trans hrest)
  exact ⟨haccounted, hbalance, hbalance.total_eq⟩

/-- A collector that hands over something else than a payload, if its bookkeeping lets it. -/
def straying (trackingFault : Option Fault) : Collector Rat where
  className := "Straying"
  name := "straying"
  provider := "generic"
  version := none
  creationFault := none
  configurationFault := none
  connectionFault := none
  trackingFault := trackingFault
  collections _ := ⟨0, none, fun _ => .ok (.other .null)⟩

/-- A call that comes to a fault, one that is refused and one that is accepted. -/
def failing : Call Rat :=
  ⟨straying (some (.foreign "RuntimeError" none none)), none, World.start 0⟩

def refused : Call Rat :=
  ⟨straying none, some (.answering (.error (.delivery (.request "timed out") none))), failing.after⟩

def accepted : Call Rat :=
  ⟨straying none, some (.answering (.ok ())), refused.after⟩

lemma outspoken_straying {trackingFault : Option Fault} (h : ∀ f ∈ trackingFault, f.Tellable) :
    (straying trackingFault).Outspoken where
  tracking hf := h _ hf
  result hf := nomatch hf

theorem sequence_accounted_mixed :
    Sequence (World.start 0) [failing, refused, accepted] accepted.after ∧
      (∀ c ∈ [failing, refused, accepted], c.collector.Outspoken) ∧
      (∀ c ∈ [failing, refused, accepted], c.Accounted) ∧
      Balance (World.start 0) [failing, refused, accepted] accepted.after ∧
      accepted.after.cycles.total = 1 + 0 + 1 + 1 := by
  have hsequence : Sequence (World.start 0) [failing, refused, accepted] accepted.after :=
    .cons (.refl _) (.cons (.refl _) (.cons (.refl _) (.nil (.refl _))))
  have hfair : ∀ c ∈ [failing, refused, accepted], ∀ send ∈ c.destination, send.Fair := by
    intro c hc send hsend
    obtain rfl | rfl | rfl := by simpa using hc
    · cases hsend
    · cases hsend
      exact .answering fun f hf => by rw [← Except.error.inj hf]; exact ⟨rfl, rfl⟩
    · cases hsend
      exact .answering fun f hf => nomatch hf
  have houtspoken : ∀ c ∈ [failing, refused, accepted], c.collector.Outspoken := by
    intro c hc
    obtain rfl | rfl | rfl := by simpa using hc
    · exact outspoken_straying fun f hf => by cases hf; rfl
    · exact outspoken_straying nofun
    · exact outspoken_straying nofun
  obtain ⟨haccounted, hbalance, htotal⟩ := sequence_accounted hsequence houtspoken hfair
  exact ⟨hsequence, houtspoken, haccounted, hbalance, htotal rfl⟩

end Cycle
end MetricsAgent
