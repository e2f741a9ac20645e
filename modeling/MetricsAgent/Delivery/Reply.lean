import MetricsAgent.Fault
import MetricsAgent.Number.Reader
import MetricsAgent.Run.Trace

/-!
# Replies of the endpoint

What comes back for a request: after some time either a failure of the connection, or a status with
headers and a body that can be read or not.
-/

namespace MetricsAgent

/-- What comes back for a request. -/
structure Reply (T : Type) where
  delay : T
  stopReason : Option String
  failure : Option Fault
  status : Int
  reason : Option String
  headers : Headers
  body : Except Fault String

namespace Reply

variable {T : Type}

/-- The value of a header; its name counts in letters of either case. -/
def header? (r : Reply T) (name : String) : Option String :=
  (r.headers.find? fun h => CharClass.asciiLower h.1 == CharClass.asciiLower name).map (·.2)

/-- Statuses that mean that a payload was accepted. -/
def accepts (status : Int) : Bool :=
  status == 200 || status == 201 || status == 202

/-- Statuses that mean that the credentials were rejected. -/
def rejects (status : Int) : Bool :=
  status == 401 || status == 403

end Reply

/-! ## Delays asked for -/

/-- What a request for a delay says. -/
inductive RetryAfter
  | unusable
  | seconds (n : Nat)
  deriving DecidableEq, Repr

/-- Reads a request for a delay: a whole number of seconds that is not negative. -/
def RetryAfter.ofText (s : String) : RetryAfter :=
  match NumberText.integer 10 (CharClass.trimBlank s) with
  | .ok n => if n < 0 then .unusable else .seconds n.toNat
  | .error _ => .unusable

/-- The delay that a header asks for, as a floating point number; a delay beyond all of them is a
fault. -/
def RetryAfter.delay? (value : Option String) : Except Fault (Option Number) :=
  match value.map RetryAfter.ofText with
  | some (.seconds n) =>
    let x := Binary64.ofInt n
    if x.isFinite then .ok (some (.float x))
    else .error (.foreign "OverflowError" (some "int too large to convert to float") none)
  | _ => .ok none

end MetricsAgent
