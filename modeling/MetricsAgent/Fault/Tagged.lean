import MetricsAgent.Fault
import MetricsAgent.Json.Tagged

/-!
# Faults in tagged documents

A fault is written as an object with the name of its kind, its message and what else is known of it;
a fault that it is a consequence of stands inside.  Among other values a fault is known by its full
name.
-/

namespace MetricsAgent

/-! ## Parts of documents -/

theorem Json.sizeOf_lt_of_member? {j c : Json} {k : String} (h : j.member? k = some c) :
    sizeOf c < sizeOf j := by
  unfold Json.member? at h
  split at h
  · obtain ⟨m, hm, rfl⟩ := Option.map_eq_some_iff.1 h
    have hlt := List.sizeOf_lt_of_mem (List.mem_of_find?_eq_some hm)
    cases m
    simp only [Json.object.sizeOf_spec, Prod.mk.sizeOf_spec] at hlt ⊢
    omega
  · cases h

/-- The text that a member of an object is. -/
def Json.textAt? (j : Json) (k : String) : Option String :=
  match j.member? k with
  | some (.string s) => some s
  | _ => none

/-- A number as it was written: whole or with a fraction, or a text that writes one. -/
def Json.toNumber : Json → Number
  | .int n => .int n
  | .float x => .float x
  | .object [("$float", .string s)] => .float (Json.numberText s)
  | _ => .float (Json.numberText "")

/-! ## Faults -/

/-- The fault of delivery that a name stands for. -/
def DeliveryFault.ofName? (name message : String) (status : Int) (delay : Option Number) :
    Option DeliveryFault :=
  [.plain message, .request message, .server status message, .rateLimited delay, .rejected message,
    .serialization message, .exhausted].find? fun (d : DeliveryFault) => d.name == name

namespace Fault

/-- The fault that a name stands for, with what is known of it. -/
def ofName (name : String) (message : Option String) (j : Json) (cause : Option Fault) : Fault :=
  let m := message.getD ""
  let status := match j.member? "status" with
    | some (.int n) => n
    | _ => 0
  let delay := match j.member? "retry_after" with
    | none => none
    | some .null => none
    | some d => some d.toNumber
  match CollectionStage.ofFaultName? name, DeliveryFault.ofName? name m status delay with
  | some s, _ => .collection s m cause
  | none, some d => .delivery d cause
  | none, none =>
    if name == "SchedulerError" then .scheduling m cause
    else if name == "CollectorLoadError" then .loading m (j.textAt? "name") cause none
    else .foreign name message cause

/-- The fault that an object describes. -/
def ofJson (j : Json) : Fault :=
  ofName ((j.textAt? "type").getD "") (j.textAt? "message") j <|
    match _h : j.member? "cause" with
    | some (.object ms) => some (ofJson (.object ms))
    | _ => none
termination_by sizeOf j
decreasing_by exact Json.sizeOf_lt_of_member? _h

/-- What a fault was made of, in words. -/
def made? : Fault → Option String
  | .collection _ m _ => some m
  | .delivery d _ => some d.text
  | .scheduling m _ => some m
  | .loading m _ _ _ => some m
  | .foreign k m _ => m.or (if k == "ServerDisconnectedError" then some (foreignText k none) else none)
  | .mute f _ => f.made?

/-- A fault as it is written among other values. -/
def literal (f : Fault) : String :=
  f.name ++ "(" ++ (f.made?.elim "" Quoted.text) ++ ")"

/-- A fault among other values. -/
def toScalar (f : Fault) : Scalar :=
  .foreign f.fullName f.text f.literal

end Fault

/-- The value that a document holds. -/
def Json.toValue (j : Json) : Value :=
  j.untagged fun d => (Fault.ofJson d).toScalar

end MetricsAgent
