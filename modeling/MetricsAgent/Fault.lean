import MetricsAgent.Number.Basic
import MetricsAgent.Text.Quoted
import MetricsAgent.Value

/-!
# Faults

What can go wrong while the agent runs.  Faults of its own say in which part of the work they arose;
a foreign fault comes from a collector, from the network or from the machine and is known by the name
of its kind.  A fault may be the consequence of another one.  A fault of any family may be of somebody
else's making, and then it may be impossible to tell it in words: the attempt ends in a fault itself.
-/

namespace MetricsAgent

/-! ## Faults of the agent -/

/-- Where a collection failed. -/
inductive CollectionStage
  | plain
  | connection
  | query
  | permission
  | version
  | detection
  | internal
  deriving DecidableEq, Repr

namespace CollectionStage

/-- The short name of a stage in logs. -/
def kind : CollectionStage → String
  | .plain => "internal"
  | .connection => "connection"
  | .query => "query"
  | .permission => "permission"
  | .version => "version"
  | .detection => "detection"
  | .internal => "internal"

/-- The name of the faults of a stage. -/
def faultName : CollectionStage → String
  | .plain => "CollectorError"
  | .connection => "CollectorConnectionError"
  | .query => "QueryError"
  | .permission => "CollectorPermissionError"
  | .version => "UnsupportedVersionError"
  | .detection => "DetectionError"
  | .internal => "InternalCollectorError"

def all : List CollectionStage :=
  [.plain, .connection, .query, .permission, .version, .detection, .internal]

/-- The stage whose faults have a name. -/
def ofFaultName? (s : String) : Option CollectionStage :=
  all.find? (·.faultName == s)

/-- What a fault of a stage is introduced by. -/
def intro : CollectionStage → String
  | .plain => ""
  | .connection => "Database connection failed: "
  | .query => "Query execution failed: "
  | .permission => "Permission denied: "
  | .version => "Unsupported database version: "
  | .detection => "Provider detection failed: "
  | .internal => "Internal error: "

end CollectionStage

/-- Why a delivery failed. -/
inductive DeliveryFault
  | plain (message : String)
  | request (message : String)
  | server (status : Int) (message : String)
  | rateLimited (retryAfter : Option Number)
  | rejected (message : String)
  | serialization (message : String)
  | exhausted
  deriving DecidableEq

namespace DeliveryFault

/-- The name of a fault. -/
def name : DeliveryFault → String
  | .plain _ => "UploaderError"
  | .request _ => "RequestError"
  | .server _ _ => "ServerError"
  | .rateLimited _ => "RateLimited"
  | .rejected _ => "AuthError"
  | .serialization _ => "SerializationError"
  | .exhausted => "MaxRetriesExceeded"

/-- A fault in words. -/
def text : DeliveryFault → String
  | .plain message => message
  | .request message => "Request failed: " ++ message
  | .server status message => "Server returned error " ++ signedText status ++ ": " ++ message
  | .rateLimited none => "Rate limited"
  | .rateLimited (some d) =>
    "Rate limited, retry after " ++ Decimal.general 6 false d.toBinary64 ++ "s"
  | .rejected message => "Authentication failed: " ++ message
  | .serialization message => "Payload serialization failed: " ++ message
  | .exhausted => "Max retries exceeded"

end DeliveryFault

/-! ## Faults -/

/-- Foreign faults that end the program instead of the work at hand. -/
def Fault.terminatingKinds : List String :=
  ["KeyboardInterrupt", "SystemExit", "GeneratorExit", "CancelledError", "BaseException"]

/-- What gets in the way of telling a fault: a foreign fault that those who do the work may handle. -/
structure Impediment where
  kind : String
  message : Option String
  handled : Fault.terminatingKinds.contains kind = false

/-- A fault, and the one that it is a consequence of; a mute fault is one that cannot be told in
words. -/
inductive Fault
  | collection (stage : CollectionStage) (message : String) (cause : Option Fault)
  | delivery (fault : DeliveryFault) (cause : Option Fault)
  | scheduling (message : String) (cause : Option Fault)
  | loading (message : String) (subject : Option String) (reason cause : Option Fault)
  | foreign (kind : String) (message : Option String) (cause : Option Fault)
  | mute (f : Fault) (impediment : Impediment)

/-- The fault that an attempt to tell a mute one ends in. -/
def Impediment.fault (i : Impediment) : Fault :=
  .foreign i.kind i.message none

namespace Fault

instance : Inhabited Fault := ⟨.scheduling "" none⟩

/-- The fault that a fault is a consequence of. -/
def cause? : Fault → Option Fault
  | .collection _ _ c => c
  | .delivery _ c => c
  | .scheduling _ c => c
  | .loading _ _ _ c => c
  | .foreign _ _ c => c
  | .mute f _ => f.cause?

/-- A fault as a consequence of another one. -/
def because (f cause : Fault) : Fault :=
  match f with
  | .collection s m _ => .collection s m (some cause)
  | .delivery d _ => .delivery d (some cause)
  | .scheduling m _ => .scheduling m (some cause)
  | .loading m s r _ => .loading m s r (some cause)
  | .foreign k m _ => .foreign k m (some cause)
  | .mute f i => .mute (f.because cause) i

/-- The name of the kind of a fault. -/
def name : Fault → String
  | .collection s _ _ => s.faultName
  | .delivery d _ => d.name
  | .scheduling _ _ => "SchedulerError"
  | .loading .. => "CollectorLoadError"
  | .foreign k _ _ => k
  | .mute f _ => f.name

/-- A foreign fault in words: what is not found is quoted. -/
def foreignText (kind : String) (message : Option String) : String :=
  match message with
  | some m => if kind == "KeyError" then Quoted.text m else m
  | none => if kind == "ServerDisconnectedError" then "Server disconnected" else ""

/-- What stands for the words of a fault that has none. -/
def untold : String :=
  "<exception str() failed>"

/-- A fault in words. -/
def text : Fault → String
  | .collection s m _ => s.intro ++ m
  | .delivery d _ => d.text
  | .scheduling m _ => m
  | .loading m subject reason _ =>
    let tail := match reason with
      | some r => [m, "(caused by: " ++ r.text ++ ")"]
      | none => [m]
    let head := match subject with
      | some s => if s.isEmpty then [] else ["[" ++ s ++ "]"]
      | none => []
    " ".intercalate (head ++ tail)
  | .foreign k m _ => foreignText k m
  | .mute _ _ => untold

/-- What an attempt to tell a fault ends in if the fault, or the reason that its words give, has none. -/
def silence? : Fault → Option Fault
  | .mute _ i => some i.fault
  | .loading _ _ (some reason) _ => reason.silence?
  | _ => none

/-- A fault that can be told in words. -/
def Tellable (f : Fault) : Prop :=
  f.silence? = none

/-- The name of the kind, a colon and the fault in words. -/
def named (f : Fault) : String :=
  f.name ++ ": " ++ f.text

/-- What is known of a fault of some kinds beside its words. -/
def attributes : Fault → List (String × Value)
  | .collection s m _ => [("kind", .text s.kind), ("message", .text m)]
  | .delivery (.server status m) _ => [("status", .int status), ("message", .text m)]
  | .delivery (.rateLimited d) _ => [("retry_after", .ofOption .ofNumber d)]
  | .delivery (.rejected m) _ => [("message", .text m)]
  | .loading _ subject reason _ =>
    [("collector_name", .ofOption .text subject),
      ("cause", .ofOption (fun (f : Fault) => .text f.name) reason)]
  | .mute f _ => f.attributes
  | _ => []

/-! ## Families -/

/-- Foreign faults of the connection to a server. -/
def transportKinds : List String :=
  ["ClientError", "ClientConnectionError", "ClientConnectionResetError", "ClientOSError",
    "ClientConnectorError", "ClientConnectorDNSError", "ClientProxyConnectionError",
    "UnixClientConnectorError", "ClientSSLError", "ClientConnectorSSLError",
    "ClientConnectorCertificateError", "ServerConnectionError", "ServerDisconnectedError",
    "ServerFingerprintMismatch", "ServerTimeoutError", "ConnectionTimeoutError",
    "SocketTimeoutError", "ClientPayloadError", "ClientResponseError", "ClientHttpProxyError",
    "ContentTypeError", "TooManyRedirects", "WSServerHandshakeError", "InvalidURL",
    "InvalidUrlClientError", "RedirectClientError", "NonHttpUrlClientError",
    "InvalidUrlRedirectClientError", "NonHttpUrlRedirectClientError"]

/-- Foreign faults that say that something took too long. -/
def timeoutKinds : List String :=
  ["TimeoutError", "ServerTimeoutError", "ConnectionTimeoutError", "SocketTimeoutError"]

/-- Faults that the network library raises; all of those can be told. -/
def isTransport : Fault → Bool
  | .foreign k _ _ => transportKinds.contains k
  | _ => false

def isTimeout : Fault → Bool
  | .foreign k _ _ => timeoutKinds.contains k
  | .mute f _ => f.isTimeout
  | _ => false

/-- A module that is not there, or that cannot be used. -/
def isImport : Fault → Bool
  | .foreign k _ _ => ["ImportError", "ModuleNotFoundError", "ZipImportError"].contains k
  | .mute f _ => f.isImport
  | _ => false

/-- Something has no member of a name. -/
def isAttribute : Fault → Bool
  | .foreign k _ _ => ["AttributeError", "FrozenInstanceError"].contains k
  | .mute f _ => f.isAttribute
  | _ => false

/-- The stage at which a collection failed with a fault, if that is what it says. -/
def stage? : Fault → Option CollectionStage
  | .collection s _ _ => some s
  | .mute f _ => f.stage?
  | _ => none

/-- The failed delivery that a fault speaks of, if it does. -/
def delivery? : Fault → Option DeliveryFault
  | .delivery d _ => some d
  | .mute f _ => f.delivery?
  | _ => none

def isCollection (f : Fault) : Bool :=
  f.stage?.isSome

def isDelivery (f : Fault) : Bool :=
  f.delivery?.isSome

def isLoading : Fault → Bool
  | .loading .. => true
  | .mute f _ => f.isLoading
  | _ => false

def isForeign : Fault → Bool
  | .foreign .. => true
  | .mute f _ => f.isForeign
  | _ => false

/-- A fault that those who do the work may handle. -/
def isOrdinary : Fault → Bool
  | .foreign k _ _ => !terminatingKinds.contains k
  | .mute f _ => f.isOrdinary
  | _ => true

/-! ## Full names -/

/-- The full name of the kind of a foreign fault. -/
def foreignFullName (kind : String) : String :=
  if transportKinds.contains kind then "aiohttp.client_exceptions." ++ kind
  else if kind == "CancelledError" then "asyncio.exceptions.CancelledError"
  else if kind == "ValidationError" || kind == "PydanticSerializationError" then
    "pydantic_core._pydantic_core." ++ kind
  else kind

/-- The full name of the kind of a fault. -/
def fullName : Fault → String
  | .collection s _ _ => "dbpulse.collectors.base." ++ s.faultName
  | .delivery d _ => "dbpulse.uploader.errors." ++ d.name
  | .scheduling _ _ => "dbpulse.collectors.scheduler.SchedulerError"
  | .loading .. => "dbpulse.collectors.registry.CollectorLoadError"
  | .foreign k _ _ => foreignFullName k
  | .mute f _ => f.fullName

end Fault

end MetricsAgent
