import MetricsAgent.Proofs.Run.Interference

/-!
# One run at a time

A schedule may be run by several activities of one loop, called at any times and interleaved in any
way (`Move`).  Whatever they do, at most one of them is in its course at a time, and the world notes
whether one is; this is kept by every move (`Tasks.OneRun.apply`), because a run that is accepted is
noted until it ends, however it ends, and others leave the note alone.  A call that comes while a run
goes on fails at once and is an ended activity beside the others from then on: nothing depends on it
(`Tasks.Beside.apply`).
-/

namespace MetricsAgent

open Script

/-! ## Moves -/

/-- What may happen to runs that share a world: one more is called, the loop takes its next step, an
activity goes on or is abandoned, time passes, or the agent is asked to stop. -/
inductive Move (T : Type)
  | call
  | step
  | resume (i : ℕ)
  | abandon (i : ℕ)
  | pass (t : T)
  | ask (reason : String)

namespace Move

variable {T R : Type} [Seconds T]

/-- What a move does if a given script is called. -/
def apply (run : Script T R) (s : Tasks T (Except Fault R)) : Move T → Tasks T (Except Fault R)
  | .call => (s.begin run).2
  | .step => s.step
  | .resume i => s.resume i
  | .abandon i => s.abandon i
  | .pass t => s.passTo t
  | .ask reason => { s with world := s.world.requestStop reason }

/-- One move after the other. -/
def applyAll (run : Script T R) (ms : List (Move T)) (s : Tasks T (Except Fault R)) :
    Tasks T (Except Fault R) :=
  ms.foldl (apply run) s

end Move

/-! ## Activities that have not ended -/

namespace Tasks

variable {T R : Type} {w : World T} {ts : List (Task T R)} {i j : ℕ}

/-- An activity is there and has not ended. -/
def Active (s : Tasks T R) (i : ℕ) : Prop :=
  ∃ t, s.tasks[i]? = some t ∧ t.result? = none

lemma active_append {t : Task T R} (h : Active ⟨w, ts ++ [t]⟩ j) :
    Active ⟨w, ts⟩ j ∨ j = ts.length ∧ t.result? = none := by
  obtain ⟨t', ht', hactive⟩ := h
  by_cases hj : j < ts.length
  · exact .inl ⟨t', by rwa [List.getElem?_append_left hj] at ht', hactive⟩
  · rw [List.getElem?_append_right (not_lt.mp hj), List.getElem?_singleton] at ht'
    split at ht'
    · cases ht'
      exact .inr ⟨by omega, hactive⟩
    · cases ht'

lemma active_set {t : Task T R} (h : Active ⟨w, ts.set i t⟩ j) :
    j = i ∧ t.result? = none ∨ j ≠ i ∧ Active ⟨w, ts⟩ j := by
  obtain ⟨t', ht', hactive⟩ := h
  by_cases hj : j = i
  · subst hj
    rw [List.getElem?_set_self'] at ht'
    obtain ⟨_, -, rfl⟩ := Option.map_eq_some_iff.mp ht'
    exact .inl ⟨rfl, hactive⟩
  · exact .inr ⟨hj, t', by rwa [List.getElem?_set_ne (Ne.symm hj)] at ht', hactive⟩

end Tasks

/-! ## The one run -/

/-- A script takes its course as a run if none is going on, and fails at once if one is. -/
structure Script.Guarded {T R : Type} (run : Script T R) : Prop where
  runs : ∀ w, w.cycles.running = false →
    (run w).Runs World.Busy fun u => u.cycles.running = false
  rejects : ∀ w, w.Busy → run w = .done (.error Schedule.alreadyRunning) w

/-- The run of a schedule with a destination that lets runs go on. -/
lemma Schedule.guarded_run {T : Type} [Seconds T] (s : Schedule T) (c : Collector T)
    {d : Option (Destination T)} (hd : ∀ send ∈ d, ∀ p, (send p).Steady) (limit : ℕ) :
    (s.run c d limit).Guarded where
  runs _ := s.runs_run c hd limit
  rejects _ := s.run_of_busy c d limit

namespace Task

variable {T R : Type}

/-- An activity waits that is a run: it goes on as one, and it ends if it is abandoned. -/
inductive IsRun : Task T (Except Fault R) → Prop
  | intro {due : Option T} {ticket : ℕ} {alert expired : Bool}
      {k : Bool → World T → Activity T (World T) (Except Fault R)}
      {abandon : World T → Activity T (World T) (Except Fault R)}
      (hk : ∀ early u, u.Busy → (k early u).Runs World.Busy fun u => u.cycles.running = false)
      (habandon : ∀ u, u.Busy →
        ∃ v, abandon u = .done (.error abandoned) v ∧ v.cycles.running = false) :
      IsRun (.waiting due ticket alert expired k abandon)

end Task

namespace Tasks

variable {T R : Type}

/-- One activity at most has not ended, and it is noted whether there is one. -/
inductive OneRun (s : Tasks T (Except Fault R)) : Prop
  | idle (hidle : s.world.cycles.running = false) (hnone : ∀ j, ¬ s.Active j)
  | busy (i : ℕ) (t : Task T (Except Fault R)) (htask : s.tasks[i]? = some t) (hrun : t.IsRun)
      (hbusy : s.world.Busy) (hone : ∀ j, s.Active j → j = i)

namespace OneRun

variable {s : Tasks T (Except Fault R)} {i : ℕ} {t : Task T (Except Fault R)}
  {a : Activity T (World T) (Except Fault R)}

/-- What has become of a run that acted until now. -/
lemma ofActivity_cases (h : a.Runs World.Busy fun u => u.cycles.running = false) :
    (∃ r, (Task.ofActivity a).1 = .ended r ∧ (Task.ofActivity a).2.cycles.running = false) ∨
      (Task.ofActivity a).1.IsRun ∧ (Task.ofActivity a).2.Busy := by
  cases a with
  | done r u => exact .inl ⟨r, rfl, h⟩
  | pause due alert u k abandon =>
    obtain ⟨hu, hk, habandon⟩ := h
    exact .inr ⟨.intro hk habandon, hu⟩

/-- The run acts: it is the only one that has not ended, or it has ended too. -/
lemma set_ofActivity (h : a.Runs World.Busy fun u => u.cycles.running = false)
    (hone : ∀ j, s.Active j → j = i) (hi : i < s.tasks.length) :
    OneRun ⟨(Task.ofActivity a).2, s.tasks.set i (Task.ofActivity a).1⟩ := by
  rcases ofActivity_cases h with ⟨r, hended, hidle⟩ | ⟨hrun, hbusy⟩
  · refine .idle hidle fun j hj => ?_
    rw [hended] at hj
    rcases active_set hj with ⟨-, hresult⟩ | ⟨hj, hactive⟩
    · cases hresult
    · exact hj (hone j hactive)
  · refine .busy i _ (List.getElem?_set_self hi) hrun hbusy fun j hj => ?_
    rcases active_set hj with ⟨hj, -⟩ | ⟨hj, hactive⟩
    · exact hj
    · exact absurd (hone j hactive) hj

/-- Whoever acts is the run. -/
lemma act (h : s.OneRun) {j : ℕ} {due : Option T} {ticket : ℕ} {alert expired : Bool}
    {k : Bool → World T → Activity T (World T) (Except Fault R)}
    {abandon : World T → Activity T (World T) (Except Fault R)}
    (htask : s.tasks[j]? = some (.waiting due ticket alert expired k abandon)) :
    Task.IsRun (.waiting due ticket alert expired k abandon) ∧ s.world.Busy ∧
      (∀ i, s.Active i → i = j) ∧ j < s.tasks.length := by
  have hactive : s.Active j := ⟨_, htask, rfl⟩
  cases h with
  | idle hidle hnone => exact absurd hactive (hnone j)
  | busy i t hi hrun hbusy hone =>
    obtain rfl := hone j hactive
    cases htask.symm.trans hi
    exact ⟨hrun, hbusy, hone, (List.getElem?_eq_some_iff.mp htask).1⟩

lemma resume (h : s.OneRun) (j : ℕ) : (s.resume j).OneRun := by
  unfold Tasks.resume
  split
  · rename_i due ticket alert expired k abandon htask
    obtain ⟨hrun, hbusy, hone, hj⟩ := h.act htask
    cases hrun with
    | intro hk habandon => exact set_ofActivity (hk _ _ hbusy) hone hj
  · exact h

lemma abandon (h : s.OneRun) (j : ℕ) : (s.abandon j).OneRun := by
  unfold Tasks.abandon
  split
  · rename_i due ticket alert expired k abandon htask
    obtain ⟨hrun, hbusy, hone, hj⟩ := h.act htask
    cases hrun with
    | intro hk habandon =>
      obtain ⟨v, hv, hidle⟩ := habandon _ hbusy
      rw [hv]
      exact set_ofActivity (a := .done (.error abandoned) v) hidle hone hj
  · exact h

/-- A run that is abandoned has ended. -/
lemma abandon_active (h : s.OneRun) (hi : s.Active i) :
    (s.abandon i).result? i = some (.error abandoned) ∧
      (s.abandon i).world.cycles.running = false := by
  obtain ⟨t, htask, hnone⟩ := hi
  cases t with
  | ended r => cases hnone
  | waiting due ticket alert expired k abandon =>
    obtain ⟨hrun, hbusy, -, hi⟩ := h.act htask
    cases hrun with
    | intro hk habandon =>
      obtain ⟨v, hv, hidle⟩ := habandon _ hbusy
      have habandoned : s.abandon i = ⟨v, s.tasks.set i (.ended (.error abandoned))⟩ := by
        unfold Tasks.abandon
        rw [htask]
        dsimp only
        rw [hv]
        rfl
      rw [habandoned]
      refine ⟨?_, hidle⟩
      unfold Tasks.result?
      rw [List.getElem?_set_self hi]
      rfl

/-- A call is a run of its own only if there is none. -/
lemma begin {run : Script T R} (hrun : run.Guarded) (h : s.OneRun) : (s.begin run).2.OneRun := by
  show OneRun ⟨(Task.ofActivity (run s.world)).2, s.tasks ++ [(Task.ofActivity (run s.world)).1]⟩
  cases h with
  | idle hidle hnone =>
    rcases ofActivity_cases (hrun.runs _ hidle) with ⟨r, hended, hidle'⟩ | ⟨hgoes, hbusy⟩
    · refine .idle hidle' fun j hj => ?_
      rw [hended] at hj
      rcases active_append hj with hactive | ⟨-, hresult⟩
      · exact hnone j hactive
      · cases hresult
    · refine .busy s.tasks.length _ List.getElem?_concat_length hgoes hbusy fun j hj => ?_
      rcases active_append hj with hactive | ⟨hj, -⟩
      · exact absurd hactive (hnone j)
      · exact hj
  | busy i t htask hgoes hbusy hone =>
    rw [hrun.rejects _ hbusy]
    refine .busy i t ?_ hgoes hbusy fun j hj => ?_
    · rw [List.getElem?_append_left (List.getElem?_eq_some_iff.mp htask).1]
      exact htask
    · rcases active_append hj with hactive | ⟨-, hresult⟩
      · exact hone j hactive
      · cases hresult

variable [Seconds T]

omit [Seconds T] in
/-- What happens to the world and to the pauses is nothing to the runs. -/
lemma of_same {u : World T} (h : s.OneRun) (hcycles : u.cycles = s.world.cycles)
    {f : Task T (Except Fault R) → Task T (Except Fault R)}
    (hresult : ∀ t, (f t).result? = t.result?)
    (hf : ∀ t : Task T (Except Fault R), t.IsRun → (f t).IsRun) :
    OneRun ⟨u, s.tasks.map f⟩ := by
  have hactive {j : ℕ} (hj : Active ⟨u, s.tasks.map f⟩ j) : s.Active j := by
    obtain ⟨t', ht', hnone⟩ := hj
    rw [List.getElem?_map] at ht'
    obtain ⟨t, ht, rfl⟩ := Option.map_eq_some_iff.mp ht'
    exact ⟨t, ht, (hresult t).symm.trans hnone⟩
  cases h with
  | idle hidle hnone => exact .idle (by rw [hcycles]; exact hidle) fun j hj => hnone j (hactive hj)
  | busy i t htask hrun hbusy hone =>
    refine .busy i (f t) ?_ (hf t hrun) (by rw [World.Busy, hcycles]; exact hbusy) fun j hj =>
      hone j (hactive hj)
    rw [List.getElem?_map, htask]
    rfl

lemma passTo (h : s.OneRun) (t : T) : (s.passTo t).OneRun := by
  refine h.of_same (World.SameAccounts.of_quiet (s.world.quiet_passTo t)).cycles ?_ ?_
  · intro task
    unfold Task.expire
    split <;> rfl
  · intro task hrun
    unfold Task.expire
    split
    · cases hrun with
      | intro hk habandon => exact .intro hk habandon
    · exact hrun

omit [Seconds T] in
lemma requestStop (h : s.OneRun) (reason : String) :
    OneRun ⟨s.world.requestStop reason, s.tasks⟩ := by
  have hsame := (World.SameAccounts.of_quiet (s.world.quiet_requestStop reason)).cycles
  have hmap := h.of_same hsame (f := id) (fun _ => rfl) fun _ => id
  rwa [List.map_id] at hmap

/-- Every move keeps it that there is one run at most. -/
theorem apply {run : Script T R} (hrun : run.Guarded) (h : s.OneRun) (m : Move T) :
    (m.apply run s).OneRun := by
  cases m with
  | call => exact h.begin hrun
  | step =>
    show (Tasks.step s).OneRun
    unfold Tasks.step
    split
    · exact h.resume _
    · split
      · exact h.passTo _
      · exact h
  | resume i => exact h.resume i
  | abandon i => exact h.abandon i
  | pass t => exact h.passTo t
  | ask reason => exact h.requestStop reason

theorem applyAll {run : Script T R} (hrun : run.Guarded) (h : s.OneRun) (ms : List (Move T)) :
    (Move.applyAll run ms s).OneRun := by
  induction ms generalizing s with
  | nil => exact h
  | cons m ms ih => exact ih (h.apply hrun m)

end OneRun
end Tasks

/-! ## A call that fails -/

/-- The position of an activity once one more was put in its place or before it. -/
def shiftFrom (n i : ℕ) : ℕ := if i < n then i else i + 1

/-- The same move once one more activity was put at a position. -/
def Move.shift {T : Type} (n : ℕ) : Move T → Move T
  | .resume i => .resume (shiftFrom n i)
  | .abandon i => .abandon (shiftFrom n i)
  | m => m

namespace Tasks

variable {T R : Type}

/-- The same world and the same activities, but for one that has ended at a position. -/
inductive Beside (n : ℕ) (r : R) : Tasks T R → Tasks T R → Prop
  | intro {w : World T} {before after : List (Task T R)} (hn : before.length = n) :
      Beside n r ⟨w, before ++ after⟩ ⟨w, before ++ .ended r :: after⟩

namespace Beside

variable {n : ℕ} {r : R} {s s' : Tasks T R}

lemma getElem?_eq {before after : List (Task T R)} (t : Task T R) (i : ℕ) :
    (before ++ t :: after)[shiftFrom before.length i]? = (before ++ after)[i]? := by
  unfold shiftFrom
  split
  · next hi => rw [List.getElem?_append_left hi, List.getElem?_append_left hi]
  · next hi =>
    rw [List.getElem?_append_right (by omega), List.getElem?_append_right (by omega),
      show i + 1 - before.length = i - before.length + 1 by omega, List.getElem?_cons_succ]

/-- An activity acts in the same way beside one that has ended. -/
lemma set {w : World T} {before after : List (Task T R)} (i : ℕ) (t : Task T R) :
    Beside before.length r ⟨w, (before ++ after).set i t⟩
      ⟨w, (before ++ .ended r :: after).set (shiftFrom before.length i) t⟩ := by
  unfold shiftFrom
  split
  · next hi =>
    rw [List.set_append_left i t hi, List.set_append_left i t hi]
    exact .intro List.length_set
  · next hi =>
    rw [List.set_append_right i t (by omega), List.set_append_right (i + 1) t (by omega),
      show i + 1 - before.length = i - before.length + 1 by omega, List.set_cons_succ]
    exact .intro rfl

lemma resume (h : Beside n r s s') (i : ℕ) : Beside n r (s.resume i) (s'.resume (shiftFrom n i)) := by
  obtain ⟨rfl⟩ := h
  unfold Tasks.resume
  dsimp only
  rw [getElem?_eq]
  split
  · exact set i _
  · exact .intro rfl

lemma abandon (h : Beside n r s s') (i : ℕ) :
    Beside n r (s.abandon i) (s'.abandon (shiftFrom n i)) := by
  obtain ⟨rfl⟩ := h
  unfold Tasks.abandon
  dsimp only
  rw [getElem?_eq]
  split
  · exact set i _
  · exact .intro rfl

lemma begin (h : Beside n r s s') (a : World T → Activity T (World T) R) :
    Beside n r (s.begin a).2 (s'.begin a).2 := by
  obtain ⟨hn⟩ := h
  rename_i w before after
  show Beside n r ⟨_, (before ++ after) ++ [_]⟩ ⟨_, (before ++ .ended r :: after) ++ [_]⟩
  rw [List.append_assoc, List.append_assoc, List.cons_append]
  exact .intro hn

variable [Seconds T]

lemma passTo (h : Beside n r s s') (t : T) : Beside n r (s.passTo t) (s'.passTo t) := by
  obtain ⟨hn⟩ := h
  unfold Tasks.passTo
  rw [List.map_append, List.map_append, List.map_cons]
  exact .intro (by rw [List.length_map, hn])

/-- Who can go on is the same, at the positions after the shift. -/
lemma ranked_eq (h : Beside n r s s') : s'.ranked = s.ranked.map (Prod.map id (shiftFrom n)) := by
  obtain ⟨rfl⟩ := h
  rename_i w before after
  unfold ranked
  dsimp only
  rw [List.zipIdx_append, List.zipIdx_append, List.zipIdx_cons, List.filterMap_append,
    List.filterMap_append, List.map_append, List.filterMap_cons_none rfl, List.map_filterMap,
    List.map_filterMap, List.zipIdx_succ, List.filterMap_map]
  congr 1
  · refine List.filterMap_congr fun x hx => ?_
    have hbefore : shiftFrom before.length x.2 = x.2 :=
      if_pos (by simpa using List.snd_lt_of_mem_zipIdx hx)
    cases x.1.rank? w <;> simp [hbefore]
  · refine List.filterMap_congr fun x hx => ?_
    have hafter : shiftFrom before.length x.2 = x.2 + 1 :=
      if_neg (not_lt.mpr (by simpa using List.le_snd_of_mem_zipIdx hx))
    cases hrank : x.1.rank? w <;> simp [hrank, hafter]

/-- Which candidate is better does not depend on the positions. -/
lemma foldl_better_map (f : ℕ → ℕ) (l : List ((ℕ × ℕ) × ℕ)) (best : Option ((ℕ × ℕ) × ℕ)) :
    (l.map (Prod.map id f)).foldl better (best.map (Prod.map id f))
      = (l.foldl better best).map (Prod.map id f) := by
  induction l generalizing best with
  | nil => rfl
  | cons x l ih =>
    rw [List.map_cons, List.foldl_cons, List.foldl_cons, ← ih]
    congr 1
    cases best with
    | none => rfl
    | some b =>
      show (if lowerRank x.1 b.1 then _ else _) = Option.map _ (if lowerRank x.1 b.1 then _ else _)
      split <;> rfl

lemma next?_eq (h : Beside n r s s') : s'.next? = s.next?.map (shiftFrom n) := by
  unfold next?
  rw [h.ranked_eq, show (none : Option ((ℕ × ℕ) × ℕ))
    = Option.map (Prod.map id (shiftFrom n)) none from rfl, foldl_better_map, Option.map_map,
    Option.map_map]
  rfl

lemma nextTime?_eq (h : Beside n r s s') : s'.nextTime? = s.nextTime? := by
  obtain ⟨rfl⟩ := h
  unfold nextTime?
  simp only [List.filterMap_append, List.filterMap_cons, Task.due?]

lemma step (h : Beside n r s s') : Beside n r s.step s'.step := by
  unfold Tasks.step
  rw [h.next?_eq, h.nextTime?_eq]
  cases s.next? with
  | some i => exact h.resume i
  | none =>
    cases s.nextTime? with
    | some t => exact h.passTo t
    | none => exact h

end Beside

variable [Seconds T]

/-- Every move does the same beside an activity that has ended. -/
theorem Beside.apply {n : ℕ} {r : Except Fault R} {s s' : Tasks T (Except Fault R)}
    (h : Beside n r s s') (run : Script T R) (m : Move T) :
    Beside n r (m.apply run s) ((m.shift n).apply run s') := by
  cases m with
  | call => exact h.begin run
  | step => exact h.step
  | resume i => exact h.resume i
  | abandon i => exact h.abandon i
  | pass t => exact h.passTo t
  | ask reason =>
    obtain ⟨hn⟩ := h
    exact .intro hn

theorem Beside.applyAll {n : ℕ} {r : Except Fault R} {s s' : Tasks T (Except Fault R)}
    (h : Beside n r s s') (run : Script T R) (ms : List (Move T)) :
    Beside n r (Move.applyAll run ms s) (Move.applyAll run (ms.map (Move.shift n)) s') := by
  induction ms generalizing s s' with
  | nil => exact h
  | cons m ms ih => exact ih (h.apply run m)

end Tasks

/-! ## One run at a time -/

/-- What an activity may come to by going on, whatever others do in its pauses. -/
inductive Activity.Reaches {T S R : Type} : Activity T S R → Activity T S R → Prop
  | here (a : Activity T S R) : Reaches a a
  | later {due : Option T} {alert : Bool} {s : S} {k : Bool → S → Activity T S R}
      {abandon : S → Activity T S R} {early : Bool} {u : S} {b : Activity T S R}
      (h : Reaches (k early u) b) : Reaches (.pause due alert s k abandon) b

/-- An activity waits within a script: it is in one of the pauses of the script, and what follows the
script is still to come. -/
inductive Task.Within {T R Q : Type} (part : Script T Q) : Task T R → Prop
  | intro {w v : World T} {due : Option T} {ticket : ℕ} {alert expired : Bool}
      {k : Bool → World T → Activity T (World T) (Except Fault Q)}
      {abandon : World T → Activity T (World T) (Except Fault Q)}
      (hpart : (part w).Reaches (.pause due alert v k abandon))
      (f : Except Fault Q → World T → Activity T (World T) R) :
      Within part (.waiting due ticket alert expired (fun early u => (k early u).andThen f)
        fun u => (abandon u).andThen f)

namespace Schedule

variable {T : Type} [Seconds T]

/-- Of the activities that run a schedule one at most has not ended, one at most is collecting, and it
is noted whether there is one.  While there is one, a call fails at once, and all that happens later
happens as if there had been no call; the one that there is ends if it is abandoned, and no run is
noted any more.  Where there is none, a call takes its course. -/
structure RunsAlone (s : Schedule T) (c : Collector T) (d : Option (Destination T)) (limit : ℕ)
    (x : Tasks T (Except Fault RunEnd)) : Prop where
  one : ∀ i j, x.Active i → x.Active j → i = j
  collects : ∀ (i j : ℕ) t t', x.tasks[i]? = some t → x.tasks[j]? = some t' →
    t.Within c.collect → t'.Within c.collect → i = j
  noted : x.world.cycles.running = true ↔ ∃ i, x.Active i
  rejects : (∃ i, x.Active i) → ∀ later : List (Move T),
    Tasks.Beside x.tasks.length (.error alreadyRunning) (Move.applyAll (s.run c d limit) later x)
      (Move.applyAll (s.run c d limit) (.call :: later.map (Move.shift x.tasks.length)) x)
  ends : ∀ i, x.Active i → (x.abandon i).result? i = some (.error abandoned) ∧
    (x.abandon i).world.cycles.running = false
  accepts : (∀ i, ¬ x.Active i) → Move.call.apply (s.run c d limit) x =
    (x.begin fun w => (s.course (Cycle.run c d) limit (w.noteRunning true)).andThen
      fun r u => .done r (u.noteRunning false)).2

variable {s : Schedule T} {c : Collector T} {d : Option (Destination T)} {limit : ℕ}
  {x : Tasks T (Except Fault RunEnd)}

omit [Seconds T] in
/-- Who waits within a script has not ended. -/
lemma active_of_within {Q : Type} {part : Script T Q} {i : ℕ} {t : Task T (Except Fault RunEnd)}
    (htask : x.tasks[i]? = some t) (h : t.Within part) : x.Active i := by
  cases h with
  | intro hpart f => exact ⟨_, htask, rfl⟩

lemma beside_call (hrun : (s.run c d limit).Guarded) (h : x.world.Busy) :
    Tasks.Beside x.tasks.length (.error alreadyRunning) x (Move.call.apply (s.run c d limit) x) := by
  show Tasks.Beside _ _ _ (x.begin (s.run c d limit)).2
  have hlast : Tasks.Beside x.tasks.length (.error alreadyRunning) ⟨x.world, x.tasks ++ []⟩
      ⟨x.world, x.tasks ++ [.ended (.error alreadyRunning)]⟩ := .intro rfl
  rw [List.append_nil] at hlast
  unfold Tasks.begin
  rw [hrun.rejects _ h]
  exact hlast

lemma runsAlone_of_oneRun (hrun : (s.run c d limit).Guarded) (h : x.OneRun) :
    s.RunsAlone c d limit x := by
  have hone : ∀ i j, x.Active i → x.Active j → i = j := by
    intro i j hi hj
    cases h with
    | idle hidle hnone => exact absurd hi (hnone i)
    | busy k t htask hgoes hbusy hone => rw [hone i hi, hone j hj]
  have hnoted : x.world.cycles.running = true ↔ ∃ i, x.Active i := by
    cases h with
    | idle hidle hnone => exact iff_of_false (by simp [hidle]) fun ⟨i, hi⟩ => hnone i hi
    | busy k t htask hgoes hbusy hone =>
      refine iff_of_true hbusy ⟨k, t, htask, ?_⟩
      cases hgoes
      rfl
  refine ⟨hone, ?_, hnoted, ?_, ?_, ?_⟩
  · intro i j t t' hi hj ht ht'
    exact hone i j (active_of_within hi ht) (active_of_within hj ht')
  · intro hactive later
    exact (beside_call hrun (hnoted.mpr hactive)).applyAll _ later
  · exact fun i hi => h.abandon_active hi
  · intro hnone
    have hidle : x.world.cycles.running = false := by
      rw [Bool.eq_false_iff]
      exact fun hbusy => (hnoted.mp hbusy).elim hnone
    show (x.begin _).2 = _
    unfold Tasks.begin
    rw [run_of_idle s c d limit hidle]

/-- However calls, steps of the loop, resumptions, cancellations, passing time and requests to stop
follow each other, runs of one schedule exclude each other. -/
theorem runsAlone_applyAll (s : Schedule T) (c : Collector T) (e : Option (Endpoint T)) (limit : ℕ)
    (w : World T) (ms : List (Move T)) :
    s.RunsAlone c (e.map Endpoint.upload) limit
      (Move.applyAll (s.run c (e.map Endpoint.upload) limit) ms ⟨w.noteRunning false, []⟩) := by
  have hguarded : (s.run c (e.map Endpoint.upload) limit).Guarded := by
    refine s.guarded_run c (fun send hsend p => ?_) limit
    obtain ⟨e, -, rfl⟩ := Option.mem_map.mp hsend
    exact e.steady_upload p
  have hstart : Tasks.OneRun (⟨w.noteRunning false, []⟩ : Tasks T (Except Fault RunEnd)) :=
    .idle rfl fun j ⟨t, ht, _⟩ => by simp at ht
  exact runsAlone_of_oneRun hguarded (hstart.applyAll hguarded ms)

end Schedule
end MetricsAgent
