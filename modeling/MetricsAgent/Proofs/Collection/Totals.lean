import Mathlib.Data.List.DropRight
import MetricsAgent.Proofs.Collection.Tracking
import MetricsAgent.Proofs.Number.Shares

/-!
# The totals of a collector

The running totals of a collector account for the calls since they were begun anew, whatever calls
there were before: how many there were, how many of them failed, how many of the last ones failed in
a row, and when the last one that did not was over (`Collector.Tally`).  Calls follow each other, but
totals may be begun anew at any time, in the midst of a call too; such a call was begun in totals
that are gone, and what it comes to is noted nowhere (`tally_of_used`).

A tally holds of no calls and nought, and each call adds to it (`Tally.snoc`); whether the totals are
still those in which a call began is told by what others did in its pauses (`along_collect`).
-/

namespace MetricsAgent

open Script

namespace Collector

/-! ## Others -/

section Others

variable {T : Type} {w u v : World T} {m n : ℕ}

/-- The totals of the collector are left alone. -/
structure SameTotals (w u : World T) : Prop where
  totals : u.collector.totals = w.collector.totals
  resets : u.collector.resets = w.collector.resets

/-- What others do while the agent waits: they begin the totals anew a number of times, and do what
leaves the totals alone. -/
inductive Meanwhile : World T → ℕ → World T → Prop
  | refl (w : World T) : Meanwhile w 0 w
  | elsewhere {w u v : World T} {n : ℕ} (h : Meanwhile w n u) (hsame : SameTotals u v) :
      Meanwhile w n v
  | reset {w u v : World T} {n : ℕ} (h : Meanwhile w n u)
      (hreset : resetTotals u = .done (.ok ()) v) : Meanwhile w (n + 1) v

/-- Totals that were begun anew are at nought. -/
lemma eq_of_resetTotals (h : resetTotals w = .done (.ok ()) u) :
    u.collector.totals = .zero ∧ u.collector.resets = w.collector.resets + 1 := by
  cases h
  exact ⟨rfl, rfl⟩

lemma Meanwhile.trans (h : Meanwhile w m u) (h' : Meanwhile u n v) : Meanwhile w (m + n) v := by
  induction h' with
  | refl => exact h
  | elsewhere _ hsame ih => exact .elsewhere ih hsame
  | reset _ hreset ih => exact .reset ih hreset

lemma Meanwhile.of_same (h : SameTotals w u) : Meanwhile w 0 u :=
  .elsewhere (.refl w) h

lemma Meanwhile.resets (h : Meanwhile w n u) :
    u.collector.resets = w.collector.resets + n := by
  induction h with
  | refl => rfl
  | elsewhere _ hsame ih => rw [hsame.resets, ih]
  | reset _ hreset ih => rw [(eq_of_resetTotals hreset).2, ih, Nat.add_assoc]

/-- Totals that were not begun anew are as they were. -/
lemma Meanwhile.totals (h : Meanwhile w n u) :
    u.collector.totals = if n = 0 then w.collector.totals else .zero := by
  induction h with
  | refl => rfl
  | elsewhere _ hsame ih => rw [hsame.totals, ih]
  | reset _ hreset _ => exact (eq_of_resetTotals hreset).1

/-- Resets add up. -/
lemma composes_meanwhile :
    World.Composes (Meanwhile (T := T)) fun w resets u => Meanwhile w resets.sum u where
  refl := .refl
  trans h h' := by
    rw [List.sum_append]
    exact h.trans h'
  meanwhile h := by
    rw [List.sum_singleton]
    exact h

end Others

variable {T : Type} [Seconds T] {c : Collector T} {w u : World T}

/-- A call for metrics itself leaves the totals alone. -/
lemma along_collect (c : Collector T) : c.collect.Along Meanwhile fun w resets u =>
    Meanwhile w resets.sum u := by
  have hstop (w : World T) (reason : String) : SameTotals w (w.requestStop reason) := by
    obtain ⟨_, _, _, _, _, _, h⟩ := w.quiet_requestStop reason
    rw [h]
    exact ⟨rfl, rfl⟩
  rw [collect_eq]
  refine .bind composes_meanwhile (.change fun w => .of_same ⟨rfl, rfl⟩) fun _ => ?_
  exact c.along_answer composes_meanwhile (fun w => .of_same ⟨rfl, rfl⟩)
    fun w reason => .of_same (hstop w reason)

/-! ## Histories -/

/-- A tracked call: what the call for metrics in it came to, what left it, and when. -/
structure Call where
  came : Except Fault Collected
  left : Except Fault Collected
  ended : DateTime

namespace Call

/-- Whether the call for metrics failed. -/
def failed (k : Call) : Bool :=
  match k.came with
  | .ok _ => false
  | .error _ => true

/-- Nothing but faults that may be handled came of the call for metrics. -/
def Ordinary (k : Call) : Prop :=
  ∀ f, k.came = .error f → f.isOrdinary = true

/-- Nothing but faults that can be told came of the call for metrics. -/
def Tellable (k : Call) : Prop :=
  ∀ f, k.came = .error f → f.Tellable

end Call

/-- What is done with a collector. -/
inductive Deed
  | call (k : Call)
  | reset

namespace Deed

/-- The tracked call that was made. -/
def call? : Deed → Option Call
  | .call k => some k
  | .reset => none

end Deed

/-- The calls since the totals were last begun anew. -/
def recent (deeds : List Deed) : List Call :=
  (deeds.rtakeWhile fun d => d.call?.isSome).filterMap Deed.call?

/-- What was done with a collector whose totals were at nought, up to a world: calls one after the
other and resets, by the agent and by others, in the order in which they began.  What leaves the
totals alone may happen at any time. -/
inductive Used (c : Collector T) : List Deed → World T → Prop
  | fresh {w : World T} (h : w.collector.totals = .zero) : Used c [] w
  | elsewhere {deeds : List Deed} {w u : World T} (h : Used c deeds w) (hsame : SameTotals w u) :
      Used c deeds u
  | reset {deeds : List Deed} {w u : World T} (h : Used c deeds w)
      (hreset : resetTotals w = .done (.ok ()) u) : Used c (deeds ++ [.reset]) u
  | call {deeds : List Deed} {w u v : World T} {l : List (Interlude ℕ (World T))}
      {came left : Except Fault Collected} (h : Used c deeds w)
      (hcame : (c.collect (begun w)).Comes Meanwhile l came u)
      (hleft : (c.trackedCollect w).Comes Meanwhile l left v) :
      Used c (deeds ++ .call ⟨came, left, v.clock⟩ ::
        List.replicate (l.map Interlude.others).sum .reset) v

/-! ## Tallies -/

/-- Totals that account for some calls. -/
structure Tally (calls : List Call) (t : CollectionTotals) : Prop where
  total : t.total = calls.length
  failures : t.failures = calls.countP Call.failed
  consecutive : t.consecutiveFailures = (calls.rtakeWhile Call.failed).length
  last : t.last = ((calls.filter (!·.failed)).getLast?).map Call.ended

lemma tally_nil : Tally [] .zero :=
  ⟨rfl, rfl, rfl, rfl⟩

/-- One more call is accounted for. -/
lemma Tally.snoc {calls : List Call} {t : CollectionTotals} (h : Tally calls t) {k : Call}
    (hk : k.Ordinary) : Tally (calls ++ [k]) (totalled k.came k.ended t.begun) := by
  have hlength : t.total + 1 = (calls ++ [k]).length := by
    rw [h.total, List.length_append, List.length_singleton]
  cases hcame : k.came with
  | ok p =>
    have hfailed : k.failed = false := by rw [Call.failed, hcame]
    refine ⟨hlength, ?_, ?_, ?_⟩
    · rw [List.countP_append, List.countP_singleton, hfailed, ← h.failures]
      rfl
    · rw [List.rtakeWhile_concat_neg _ _ _ (by simp [hfailed])]
      rfl
    · rw [List.filter_append, List.filter_singleton, hfailed]
      simp [totalled, CollectionTotals.succeeded]
  | error f =>
    have hfailed : k.failed = true := by rw [Call.failed, hcame]
    rw [totalled, if_pos (hk f hcame)]
    refine ⟨hlength, ?_, ?_, ?_⟩
    · rw [List.countP_append, List.countP_singleton, hfailed, ← h.failures]
      rfl
    · rw [List.rtakeWhile_concat_pos _ _ _ hfailed, List.length_append, ← h.consecutive]
      rfl
    · rw [List.filter_append, List.filter_singleton, hfailed]
      simpa [CollectionTotals.failed, CollectionTotals.begun] using h.last

/-! ## Since the last reset -/

lemma recent_reset (deeds : List Deed) : recent (deeds ++ [.reset]) = [] := by
  rw [recent, List.rtakeWhile_concat_neg _ _ _ (by simp [Deed.call?])]
  rfl

lemma recent_call (deeds : List Deed) (k : Call) :
    recent (deeds ++ [.call k]) = recent deeds ++ [k] := by
  rw [recent, List.rtakeWhile_concat_pos _ _ _ (by simp [Deed.call?]), List.filterMap_append]
  rfl

/-- A call in whose course the totals were begun anew is no call since then. -/
lemma recent_interrupted (deeds : List Deed) (k : Call) (n : ℕ) :
    recent (deeds ++ .call k :: List.replicate n .reset)
      = if n = 0 then recent deeds ++ [k] else [] := by
  cases n with
  | zero => exact recent_call deeds k
  | succ n =>
    rw [List.replicate_succ', ← List.cons_append, ← List.append_assoc, recent_reset]
    rfl

/-- What a tracked call makes of the totals, given how often they were begun anew meanwhile. -/
lemma totals_of_call (htracking : c.trackingFault = none) {v : World T}
    {l : List (Interlude ℕ (World T))} {came left : Except Fault Collected}
    (hcame : (c.collect (begun w)).Comes Meanwhile l came u)
    (hleft : (c.trackedCollect w).Comes Meanwhile l left v) :
    v.collector.totals = if (l.map Interlude.others).sum = 0 then
      totalled came v.clock w.collector.totals.begun else .zero := by
  obtain ⟨q, x, hq, -, hv⟩ := (comes_trackedCollect c htracking).mp hleft
  obtain ⟨rfl, rfl⟩ := hcame.unique hq
  have hmeanwhile : Meanwhile (begun w) (l.map Interlude.others).sum u :=
    along_collect c _ _ _ _ hcame
  have hresets : u.collector.resets = w.collector.resets + (l.map Interlude.others).sum :=
    hmeanwhile.resets
  have hclock : v.clock = u.clock := by
    rw [hv, noted]
    split <;> rfl
  have htotals := hmeanwhile.totals
  -- The call was counted in totals that are gone as soon as anybody has begun new ones.
  by_cases hzero : (l.map Interlude.others).sum = 0
  · rw [if_pos hzero] at htotals ⊢
    rw [hclock, hv, noted, if_pos (by rw [hresets, hzero, Nat.add_zero]), htotals]
    rfl
  · rw [if_neg hzero] at htotals ⊢
    rw [hv, noted, if_neg (by omega), htotals]

/-- The totals account for the calls since they were last begun anew. -/
theorem tally_of_used (htracking : c.trackingFault = none) {deeds : List Deed}
    (h : Used c deeds w) (hordinary : ∀ k, .call k ∈ deeds → k.Ordinary) :
    Tally (recent deeds) w.collector.totals := by
  induction h with
  | fresh h =>
    rw [h]
    exact tally_nil
  | elsewhere h hsame ih =>
    rw [hsame.totals]
    exact ih hordinary
  | reset h hreset ih =>
    rw [recent_reset, (eq_of_resetTotals hreset).1]
    exact tally_nil
  | call h hcame hleft ih =>
    rw [recent_interrupted, totals_of_call htracking hcame hleft]
    split
    · exact (ih fun k hk => hordinary k (List.mem_append_left _ hk)).snoc (hordinary _ (by simp))
    · exact tally_nil

/-- What leaves a tracked call follows from what the call for metrics came to. -/
lemma leaves_of_used (htracking : c.trackingFault = none) {deeds : List Deed}
    (h : Used c deeds w) {k : Call} (hk : .call k ∈ deeds) : Leaves k.came k.left := by
  induction h with
  | fresh h => cases hk
  | elsewhere h hsame ih => exact ih hk
  | reset h hreset ih =>
    rcases List.mem_append.mp hk with hk | hk
    · exact ih hk
    · cases List.mem_singleton.mp hk
  | call h hcame hleft ih =>
    rcases List.mem_append.mp hk with hk | hk
    · exact ih hk
    · rcases List.mem_cons.mp hk with hk | hk
      · cases hk
        obtain ⟨q, x, hq, rfl, -⟩ := (comes_trackedCollect c htracking).mp hleft
        obtain ⟨rfl, -⟩ := hcame.unique hq
        exact leaves_tracked _
      · cases List.eq_of_mem_replicate hk

/-! ## The rate of success -/

/-- The rate of success: nought without calls; otherwise what is left of one by the share of calls
that failed, both rounded, which is a number between nought and one and off by at most `2^-53`. -/
structure Rated (total failures : ℕ) (rate : Number) : Prop where
  none : total = 0 → rate = .float 0
  some : 0 < total → ∃ x : Binary64, rate = .float x ∧
    x = Binary64.ofInt 1 - Binary64.ofRatio false failures total ∧
      x.SharesNear (1 - failures / total) (1 / 2 ^ 53)

lemma rated_successRate {t : CollectionTotals} (h : t.failures ≤ t.total) :
    Rated t.total t.failures t.successRate where
  none hzero := by rw [CollectionTotals.successRate, if_pos hzero]
  some hpos := by
    rw [CollectionTotals.successRate, if_neg hpos.ne']
    exact ⟨_, rfl, rfl, Binary64.sharesNear_one_sub hpos h⟩

/-! ## Exact totals -/

/-- The totals of a collector after a history: they account for the calls since they were last begun
anew, and nothing but faults of collection left any call, unless a fault could not be told. -/
structure Exact (deeds : List Deed) (t : CollectionTotals) : Prop where
  tally : Tally (recent deeds) t
  rate : Rated (recent deeds).length ((recent deeds).countP Call.failed) t.successRate
  leaves (k : Call) : .call k ∈ deeds → Leaves k.came k.left
  collection (k : Call) (f : Fault) : .call k ∈ deeds → k.Tellable → k.left = .error f →
    f.isCollection = true

/-- Whatever is done with a collector, its totals are exact, and as long as its faults can be told
nothing but faults of collection leaves a call. -/
theorem exact_of_used (htracking : c.trackingFault = none) {deeds : List Deed}
    (h : Used c deeds w) (hordinary : ∀ k, .call k ∈ deeds → k.Ordinary) :
    Exact deeds w.collector.totals := by
  have htally := tally_of_used htracking h hordinary
  refine ⟨htally, ?_, fun k hk => leaves_of_used htracking h hk, ?_⟩
  · rw [← htally.total, ← htally.failures]
    refine rated_successRate ?_
    rw [htally.failures, htally.total]
    exact List.countP_le_length
  · intro k f hk htellable hf
    have hleaves := leaves_of_used htracking h hk
    rw [hf] at hleaves
    generalize hcame : k.came = came at hleaves
    cases hleaves with
    | collection h => exact h
    | wrapped _ _ _ => rfl
    | silenced _ _ hsilence => cases (htellable _ hcame).symm.trans hsilence
    | passed h => exact absurd (hordinary k hk f hcame) (by rw [h]; exact Bool.false_ne_true)

/-- A fault that is none of collection. -/
def divisionByZero : Fault :=
  .foreign "ZeroDivisionError" (some "division by zero") none

/-- A collector whose every other call fails, the first one among them; the second call takes a
second. -/
def flaky : Collector ℚ :=
  { className := "Flaky", name := "flaky", provider := "generic", version := none,
    creationFault := none, configurationFault := none, connectionFault := none,
    trackingFault := none,
    collections := fun n =>
      ⟨if n = 1 then 1 else 0, none, fun _ =>
        if n % 2 = 0 then .error divisionByZero else .ok (.other .null)⟩ }

/-- The totals are begun anew during the second of five calls. -/
theorem exact_of_used_flaky : ∃ deeds w, Used flaky deeds w ∧
    (∀ k, .call k ∈ deeds → k.Ordinary) ∧ (∀ k, .call k ∈ deeds → k.Tellable) ∧
      Exact deeds w.collector.totals ∧
      (recent deeds).map Call.failed = [true, false, true] := by
  have hcall {deeds : List Deed} {w u : World ℚ} {l : List (Interlude ℕ (World ℚ))}
      {came : Except Fault Collected} (h : Used flaky deeds w)
      (hcame : (flaky.collect (begun w)).Comes Meanwhile l came u) :=
    h.call hcame ((comes_trackedCollect flaky rfl).mpr ⟨_, _, hcame, rfl, rfl⟩)
  have hstart : Used flaky [] (World.start 0) := .fresh rfl
  have hfirst := hcall hstart (.done _ _)
  have hsecond := hcall (l := [.resumed 1 false _]) hfirst
    (.resumed (.reset (.refl _) rfl) (.done _ _))
  have hthird := hcall hsecond (.done _ _)
  have hfourth := hcall hthird (.done _ _)
  obtain ⟨deeds, w, hused, hcame, hrecent⟩ : ∃ deeds w, Used flaky deeds w ∧
      (deeds.filterMap Deed.call?).map Call.came = [.error divisionByZero, .ok (.other .null),
        .error divisionByZero, .ok (.other .null), .error divisionByZero] ∧
      (recent deeds).map Call.failed = [true, false, true] :=
    ⟨_, _, hcall hfourth (.done _ _), rfl, rfl⟩
  have hfault (k : Call) (hk : .call k ∈ deeds) (f : Fault) (hf : k.came = .error f) :
      f = divisionByZero := by
    have hmem : k.came ∈ (deeds.filterMap Deed.call?).map Call.came :=
      List.mem_map_of_mem (List.mem_filterMap.mpr ⟨.call k, hk, rfl⟩)
    rw [hcame, hf] at hmem
    simpa using hmem
  have hordinary (k : Call) (hk : .call k ∈ deeds) : k.Ordinary := fun f hf => by
    rw [hfault k hk f hf]
    decide
  have htellable (k : Call) (hk : .call k ∈ deeds) : k.Tellable := fun f hf => by
    rw [hfault k hk f hf]
    rfl
  exact ⟨deeds, w, hused, hordinary, htellable, exact_of_used rfl hused hordinary, hrecent⟩

end Collector

end MetricsAgent
