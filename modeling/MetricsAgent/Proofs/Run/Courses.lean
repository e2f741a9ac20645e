import MetricsAgent.Proofs.Run.Interference

/-!
# Courses of activities

What an activity comes to depends on what happens in its pauses.  A course is a list of what
happened in them, the first one first, and `Activity.Comes` says what the activity comes to on it;
there is at most one such outcome (`Comes.unique`), so two activities can be compared on one course.
Courses go through `Activity.andThen` part by part (`comes_andThen_iff`).  Carrying an activity out
while nothing else goes on is one of its courses (`exists_comes_finish`).

`Script.Along` says of a script that on every course a relation holds between the world before and
the world after it, given what others did meanwhile.
-/

namespace MetricsAgent

open Script

/-! ## Courses -/

/-- What happened in a pause: what others did, which state they left, and whether the activity went
on, after a pause that was cut short or not, or was abandoned. -/
inductive Interlude (A S : Type)
  | resumed (others : A) (early : Bool) (state : S)
  | abandoned (others : A) (state : S)

/-- What others did in a pause. -/
def Interlude.others {A S : Type} : Interlude A S → A
  | .resumed a _ _ => a
  | .abandoned a _ => a

namespace Activity

variable {T S R Q A : Type} {others : S → A → S → Prop}

/-- An activity comes to a result and a state on a course in whose pauses others act as they may. -/
inductive Comes (others : S → A → S → Prop) :
    Activity T S R → List (Interlude A S) → R → S → Prop
  | done (r : R) (s : S) : Comes others (.done r s) [] r s
  | resumed {due : Option T} {alert early : Bool} {s u v : S} {k : Bool → S → Activity T S R}
      {abandon : S → Activity T S R} {a : A} {l : List (Interlude A S)} {r : R}
      (hothers : others s a u) (hrest : Comes others (k early u) l r v) :
      Comes others (.pause due alert s k abandon) (.resumed a early u :: l) r v
  | abandoned {due : Option T} {alert : Bool} {s u v : S} {k : Bool → S → Activity T S R}
      {abandon : S → Activity T S R} {a : A} {l : List (Interlude A S)} {r : R}
      (hothers : others s a u) (hrest : Comes others (abandon u) l r v) :
      Comes others (.pause due alert s k abandon) (.abandoned a u :: l) r v

variable {l : List (Interlude A S)} {r : R} {v : S}

lemma comes_done_iff {r' : R} {s : S} :
    (Activity.done r' s : Activity T S R).Comes others l r v ↔ l = [] ∧ r = r' ∧ v = s := by
  constructor
  · rintro ⟨⟩
    exact ⟨rfl, rfl, rfl⟩
  · rintro ⟨rfl, rfl, rfl⟩
    exact .done _ _

/-- A course of two activities in turn is a course of the first and then one of the second. -/
lemma comes_andThen_iff {a : Activity T S Q} {f : Q → S → Activity T S R} :
    (a.andThen f).Comes others l r v ↔
      ∃ l₁ l₂ q u, l = l₁ ++ l₂ ∧ a.Comes others l₁ q u ∧ (f q u).Comes others l₂ r v := by
  constructor
  · intro h
    induction a generalizing l with
    | done q u => exact ⟨[], l, q, u, rfl, .done q u, h⟩
    | pause due alert s k abandon ih ih' =>
      cases h with
      | resumed hothers hrest =>
        obtain ⟨l₁, l₂, q, u, rfl, hfirst, hsecond⟩ := ih _ _ hrest
        exact ⟨_ :: l₁, l₂, q, u, rfl, .resumed hothers hfirst, hsecond⟩
      | abandoned hothers hrest =>
        obtain ⟨l₁, l₂, q, u, rfl, hfirst, hsecond⟩ := ih' _ hrest
        exact ⟨_ :: l₁, l₂, q, u, rfl, .abandoned hothers hfirst, hsecond⟩
  · rintro ⟨l₁, l₂, q, u, rfl, hfirst, hsecond⟩
    induction hfirst with
    | done q s => exact hsecond
    | resumed hothers _ ih => exact .resumed hothers (ih hsecond)
    | abandoned hothers _ ih => exact .abandoned hothers (ih hsecond)

/-- A course determines what an activity comes to. -/
lemma Comes.unique {a : Activity T S R} {r' : R} {v' : S} (h : a.Comes others l r v)
    (h' : a.Comes others l r' v') : r = r' ∧ v = v' := by
  induction h with
  | done r s =>
    cases h'
    exact ⟨rfl, rfl⟩
  | resumed _ _ ih =>
    cases h' with
    | resumed _ hrest => exact ih hrest
  | abandoned _ _ ih =>
    cases h' with
    | abandoned _ hrest => exact ih hrest

/-- Carrying an activity out is a course of it if others do what happens in the pauses. -/
lemma exists_comes_finish {pass : Bool → S → Option T → Bool × S}
    (hpass : ∀ alert s due, ∃ a, others s a (pass alert s due).2) (a : Activity T S R) :
    ∃ l, a.Comes others l (a.finish pass).1 (a.finish pass).2 := by
  induction a with
  | done r s => exact ⟨[], .done r s⟩
  | pause due alert s k abandon ih =>
    obtain ⟨x, hx⟩ := hpass alert s due
    obtain ⟨l, hl⟩ := ih (pass alert s due).1 (pass alert s due).2
    exact ⟨_, .resumed hx hl⟩

end Activity

/-! ## Scripts -/

namespace World

/-- Nothing that the agent keeps or does is touched by a pause, whether or not it has a time at
which it ends. -/
lemma quiet_pause {T : Type} [Seconds T] (alert : Bool) (w : World T) (due : Option T) :
    w.Quiet (w.pause alert due).2 := by
  cases due with
  | none =>
    have hticket : w.Quiet w.takeTicket.2 := ⟨_, _, _, _, _, _, rfl⟩
    exact hticket.trans (quiet_keepUntilStop _ _)
  | some t => exact w.quiet_pass alert t

/-- A relation between worlds, given what others did, that passes from part to part and allows for
what they do. -/
structure Composes {T A : Type} (others : World T → A → World T → Prop)
    (K : World T → List A → World T → Prop) : Prop where
  refl (w : World T) : K w [] w
  trans {w u v : World T} {as bs : List A} : K w as u → K u bs v → K w (as ++ bs) v
  meanwhile {w u : World T} {a : A} : others w a u → K w [a] u

end World

namespace Script

variable {T R Q A : Type} {others : World T → A → World T → Prop}
  {K : World T → List A → World T → Prop}

/-- A course of a script that goes on with what another one found, unless that failed. -/
lemma comes_bind_iff {s : Script T R} {f : R → Script T Q} {w v : World T}
    {l : List (Interlude A (World T))} {r : Except Fault Q} :
    ((s >>= f) w).Comes others l r v ↔
      ∃ l₁ l₂ q u, l = l₁ ++ l₂ ∧ (s w).Comes others l₁ q u ∧ match q with
        | .ok x => (f x u).Comes others l₂ r v
        | .error e => l₂ = [] ∧ r = .error e ∧ v = u := by
  show ((s w).andThen _).Comes others l r v ↔ _
  rw [Activity.comes_andThen_iff]
  refine exists₂_congr fun l₁ l₂ => exists₂_congr fun q u => ?_
  cases q with
  | ok x => rfl
  | error e => rw [Activity.comes_done_iff]

/-- A course of a script that looks at the outcome of another one. -/
lemma comes_attempt_bind_iff {s : Script T R} {f : Except Fault R → Script T Q} {w v : World T}
    {l : List (Interlude A (World T))} {r : Except Fault Q} :
    ((s.attempt >>= f) w).Comes others l r v ↔ ∃ l₁ l₂ q u, l = l₁ ++ l₂ ∧
      (s w).Comes others l₁ q u ∧ (f q u).Comes others l₂ r v := by
  rw [attempt_bind_apply]
  exact Activity.comes_andThen_iff

/-- A script that ends without a pause. -/
def Immediate (s : Script T R) : Prop :=
  ∀ w, ∃ r u, s w = .done r u

namespace Immediate

variable {s : Script T R}

lemma pure (r : R) : (Pure.pure r : Script T R).Immediate := fun w => ⟨.ok r, w, rfl⟩

lemma throw (e : Fault) : (MonadExcept.throw e : Script T R).Immediate :=
  fun w => ⟨.error e, w, rfl⟩

lemma change (g : World T → World T) : (Script.change g).Immediate := fun w => ⟨.ok (), g w, rfl⟩

lemma bind {f : R → Script T Q} (hs : s.Immediate) (hf : ∀ x, (f x).Immediate) :
    (s >>= f).Immediate := by
  intro w
  obtain ⟨r, u, hu⟩ := hs w
  show ∃ r' u', (s w).andThen _ = .done r' u'
  rw [hu]
  cases r with
  | ok x => exact hf x u
  | error e => exact ⟨.error e, u, rfl⟩

lemma recover {f : Fault → Script T R} (hs : s.Immediate) (hf : ∀ e, (f e).Immediate) :
    (s.recover f).Immediate := by
  intro w
  obtain ⟨r, u, hu⟩ := hs w
  show ∃ r' u', (s w).andThen _ = .done r' u'
  rw [hu]
  cases r with
  | ok x => exact ⟨.ok x, u, rfl⟩
  | error e => exact hf e u

/-- Something may be done beforehand under a condition. -/
lemma when {c : Prop} [Decidable c] {s : Script T Unit} {f : Unit → Script T Q} (hs : s.Immediate)
    (hf : (f ()).Immediate) : (if c then s >>= f else f ()).Immediate := by
  split
  · exact hs.bind fun _ => hf
  · exact hf

/-- A script that ends without a pause has one course. -/
lemma comes_iff [Seconds T] (h : s.Immediate) {w u : World T} {l : List (Interlude A (World T))}
    {r : Except Fault R} : (s w).Comes others l r u ↔ l = [] ∧ s.run w = (r, u) := by
  obtain ⟨r', u', hu⟩ := h w
  have hrun : s.run w = (r', u') := by
    show (s w).finish World.pause = _
    rw [hu]
    rfl
  rw [hu, hrun, Activity.comes_done_iff, Prod.mk.injEq]
  tauto

end Immediate

/-- Carrying a script out is a course of it if others may do what happens in a pause. -/
lemma exists_comes_run [Seconds T] (hquiet : ∀ w u : World T, w.Quiet u → ∃ a, others w a u)
    (s : Script T R) (w : World T) : ∃ l, (s w).Comes others l (s.run w).1 (s.run w).2 :=
  Activity.exists_comes_finish (fun alert u due => hquiet u _ (u.quiet_pause alert due)) (s w)

/-- On every course of a script a relation holds, given what others did. -/
def Along (others : World T → A → World T → Prop) (K : World T → List A → World T → Prop)
    (s : Script T R) : Prop :=
  ∀ w l r u, (s w).Comes others l r u → K w (l.map Interlude.others) u

namespace Along

variable (hK : World.Composes others K) {s : Script T R} {f : R → Script T Q}

include hK

lemma pure (r : R) : (Pure.pure r : Script T R).Along others K := by
  intro w l r' u h
  obtain ⟨rfl, -, rfl⟩ := Activity.comes_done_iff.mp h
  exact hK.refl _

lemma throw (e : Fault) : (MonadExcept.throw e : Script T R).Along others K := by
  intro w l r' u h
  obtain ⟨rfl, -, rfl⟩ := Activity.comes_done_iff.mp h
  exact hK.refl _

lemma throw_bind (e : Fault) (f : R → Script T Q) :
    ((MonadExcept.throw e : Script T R) >>= f).Along others K :=
  throw hK e

lemma world : (Script.world : Script T (World T)).Along others K := by
  intro w l r' u h
  obtain ⟨rfl, -, rfl⟩ := Activity.comes_done_iff.mp h
  exact hK.refl _

omit hK in
lemma change {g : World T → World T} (hg : ∀ w, K w [] (g w)) :
    (Script.change g).Along others K := by
  intro w l r' u h
  obtain ⟨rfl, -, rfl⟩ := Activity.comes_done_iff.mp h
  exact hg w

lemma bind (hs : s.Along others K) (hf : ∀ x, (f x).Along others K) :
    (s >>= f).Along others K := by
  intro w l r v h
  obtain ⟨l₁, l₂, q, u, rfl, hfirst, hsecond⟩ := comes_bind_iff.mp h
  rw [List.map_append]
  refine hK.trans (hs w l₁ q u hfirst) ?_
  cases q with
  | ok x => exact hf x u l₂ r v hsecond
  | error e =>
    obtain ⟨rfl, -, rfl⟩ := hsecond
    exact hK.refl _

omit hK in
lemma attempt (hs : s.Along others K) : s.attempt.Along others K := by
  intro w l r v h
  obtain ⟨l₁, l₂, q, u, rfl, hfirst, hsecond⟩ := Activity.comes_andThen_iff.mp h
  obtain ⟨rfl, -, rfl⟩ := Activity.comes_done_iff.mp hsecond
  rw [List.append_nil]
  exact hs w l₁ q _ hfirst

lemma recover {f : Fault → Script T R} (hs : s.Along others K) (hf : ∀ e, (f e).Along others K) :
    (s.recover f).Along others K := by
  rw [recover_eq]
  refine bind hK (attempt hs) fun q => ?_
  cases q with
  | ok x => exact pure hK x
  | error e => exact hf e

/-- Something may be done beforehand under a condition. -/
lemma when {c : Prop} [Decidable c] {s : Script T Unit} {f : Unit → Script T Q}
    (hs : s.Along others K) (hf : (f ()).Along others K) :
    (if c then s >>= f else f ()).Along others K := by
  split
  · exact bind hK hs fun _ => hf
  · exact hf

lemma requestStop (hstop : ∀ w reason, K w [] (World.requestStop w reason))
    (reason : Option String) : (Script.requestStop reason : Script T Unit).Along others K := by
  cases reason with
  | none => exact pure hK ()
  | some r => exact change fun w => hstop w r

lemma sleep [Seconds T] (duration : T) : (Script.sleep duration).Along others K := by
  intro w l r u h
  unfold Script.sleep at h
  split at h
  · cases h with
    | resumed hothers hrest =>
      obtain ⟨rfl, -, rfl⟩ := Activity.comes_done_iff.mp hrest
      exact hK.meanwhile hothers
    | abandoned hothers hrest =>
      obtain ⟨rfl, -, rfl⟩ := Activity.comes_done_iff.mp hrest
      exact hK.meanwhile hothers
  · obtain ⟨rfl, -, rfl⟩ := Activity.comes_done_iff.mp h
    exact hK.refl _

end Along
end Script

end MetricsAgent
