import MetricsAgent.Collection.Collector
import MetricsAgent.Proofs.Run.Scripts

/-!
# Telling faults

What the agent says of a fault takes the words of it, and a fault of somebody else's making may have
none.  The attempt to tell such a fault ends in another one: a foreign fault that may be handled
(`Fault.exists_impediment`), and what the agent was about to say or to raise is lost.  Every statement
on what becomes of a fault therefore asks whether the fault can be told.
-/

namespace MetricsAgent

/-! ## Impediments -/

namespace Fault

variable {f g : Fault}

instance (f : Fault) : Decidable f.Tellable :=
  decidable_of_iff (f.silence?.isNone = true) Option.isNone_iff_eq_none

/-- Where there are no words an impediment is found. -/
lemma exists_impediment (h : f.silence? = some g) : ∃ i : Impediment, g = i.fault := by
  fun_induction silence? f with
  | case1 f i => exact ⟨i, (Option.some.inj h).symm⟩
  | case2 _ _ reason _ ih => exact ih h
  | case3 => exact absurd h (Option.some_ne_none g).symm

lemma isOrdinary_of_silence? (h : f.silence? = some g) : g.isOrdinary = true := by
  obtain ⟨i, rfl⟩ := exists_impediment h
  show (!terminatingKinds.contains i.kind) = true
  rw [i.handled]
  rfl

lemma isCollection_of_silence? (h : f.silence? = some g) : g.isCollection = false := by
  obtain ⟨i, rfl⟩ := exists_impediment h
  rfl

lemma isForeign_of_isCollection (h : f.isCollection = true) : f.isForeign = false := by
  unfold isCollection at h
  fun_induction stage? f with
  | case1 => rfl
  | case2 f _ ih => exact ih h
  | case3 => cases h

lemma isOrdinary_of_isCollection (h : f.isCollection = true) : f.isOrdinary = true := by
  unfold isCollection at h
  fun_induction stage? f with
  | case1 => rfl
  | case2 f _ ih => exact ih h
  | case3 => cases h

/-- Whether a fault is one of a family is told by its kind, which a mute fault has too. -/
lemma delivery?_of_isTimeout (h : f.isTimeout = true) : f.delivery? = none := by
  fun_induction isTimeout f with
  | case1 => rfl
  | case2 f _ ih => exact ih h
  | case3 => exact absurd h Bool.false_ne_true

end Fault

/-! ## What a collector fails with -/

namespace Collector

/-- Whatever a collector fails with while it collects can be told. -/
structure Outspoken {T : Type} (c : Collector T) : Prop where
  tracking {f : Fault} : c.trackingFault = some f → f.Tellable
  result {n : ℕ} {at_ : DateTime} {f : Fault} :
    (c.collections n).result at_ = .error f → f.Tellable

variable {f g : Fault}

lemma asCollectionFault_of_isCollection (h : f.isCollection = true) : asCollectionFault f = f :=
  if_pos h

lemma asCollectionFault_of_tellable (hforeign : f.isCollection = false) (h : f.Tellable) :
    asCollectionFault f = .collection .internal f.named (some f) := by
  unfold asCollectionFault
  rw [if_neg (by simp [hforeign]), h]
  rfl

lemma asCollectionFault_of_silence? (hforeign : f.isCollection = false) (h : f.silence? = some g) :
    asCollectionFault f = g := by
  unfold asCollectionFault
  rw [if_neg (by simp [hforeign]), h]

/-- A fault that can be told becomes one of collection. -/
lemma isCollection_asCollectionFault (h : f.Tellable) : (asCollectionFault f).isCollection = true := by
  cases hcollection : f.isCollection with
  | true => rwa [asCollectionFault_of_isCollection hcollection]
  | false =>
    rw [asCollectionFault_of_tellable hcollection h]
    rfl

lemma tellable_asCollectionFault (h : f.Tellable) : (asCollectionFault f).Tellable := by
  cases hcollection : f.isCollection with
  | true => rwa [asCollectionFault_of_isCollection hcollection]
  | false =>
    rw [asCollectionFault_of_tellable hcollection h]
    rfl

end Collector

/-! ## Words -/

namespace Script

variable {T : Type} {f g : Fault}

lemma tell_of_tellable (h : f.Tellable) : (tell f : Script T String) = pure f.text := by
  unfold tell
  rw [h]
  rfl

lemma tell_of_silence? (h : f.silence? = some g) : (tell f : Script T String) = throw g := by
  unfold tell
  rw [h]
  rfl

variable [Seconds T]

@[simp] lemma run_logFault (level : LogLevel) (source : LogSource) (message : String) (f : Fault)
    (w : World T) : (logFault level source message f : Script T Unit).run w
      = (.ok (), w.logFault level source message f) := rfl

end Script

end MetricsAgent
