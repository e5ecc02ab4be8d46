import HomeGateway.Error
import HomeGateway.Json.Form

/-! Failures in JSON: a failure is reported by the name of its cause and its text. -/

namespace HomeGateway

open JsonForm

/-! Names -/

def PoolError.name : PoolError → String
  | .exhausted _ _ => "Exhausted"
  | .noMemory _ _ => "NoMemory"

def RegistryError.name : RegistryError → String
  | .outOfCapacity _ => "OutOfCapacity"
  | .unsupportedType _ => "UnsupportedType"
  | .noEndpoints => "NoEndpoints"
  | .tooManyEndpoints _ _ => "TooManyEndpoints"
  | .endpointInit _ => "EndpointInit"
  | .noDevices => "NoDevices"
  | .deviceNotFound => "DeviceNotFound"

def IngestError.name : IngestError → String
  | .poolExhausted => "PoolExhausted"
  | .noEndpoint => "NoEndpoint"
  | .invalidEndpoint _ => "InvalidEndpoint"
  | .noCommandHandler _ => "NoCommandHandler"
  | .payloadSizeMismatch _ _ => "PayloadSizeMismatch"
  | .noMemory _ => "NoMemory"
  | .decode _ => "Decode"
  | .command _ => "Command"

def SubscriptionError.name : SubscriptionError → String
  | .invalidConfig _ => "InvalidConfig"
  | .poolExhausted => "PoolExhausted"
  | .notSupported _ => "NotSupported"
  | .filterAlreadySet => "FilterAlreadySet"

def QueryError.name : QueryError → String
  | .invalidTimeout _ => "InvalidTimeout"
  | .noMemory => "NoMemory"
  | .timedOut _ => "TimedOut"
  | .cancelled => "Cancelled"
  | .submission _ => "Submission"
  | .unresponsive _ => "Unresponsive"
  | .workerStopped => "WorkerStopped"

def ConfigError.name : ConfigError → String
  | .unreadable => "Json"
  | .invalid _ _ => "Invalid"

/-- The group of a failure and the name of its cause. -/
def Error.name : Error → String
  | .pool cause => "Pool." ++ cause.name
  | .registry cause => "Registry." ++ cause.name
  | .ingest cause => "Ingest." ++ cause.name
  | .subscription cause => "Subscription." ++ cause.name
  | .query cause => "Query." ++ cause.name
  | .config cause => "Config." ++ cause.name

/-! Reports -/

def failureReport (name message : String) : Json :=
  ofFields [("error", ofString name), ("message", ofString message)]

def Error.toJson (e : Error) : Json := failureReport e.name e.message

/-! A cause on its own is reported without the prefix of its group. -/

def PoolError.toJson (e : PoolError) : Json := failureReport (Error.pool e).name e.message

def RegistryError.toJson (e : RegistryError) : Json :=
  failureReport (Error.registry e).name e.message

def SubscriptionError.toJson (e : SubscriptionError) : Json :=
  failureReport (Error.subscription e).name e.message

def QueryError.toJson (e : QueryError) : Json := failureReport (Error.query e).name e.message

/-- What is wrong with an unreadable text is left open. -/
def ConfigError.toJson (e : ConfigError) : Json :=
  match e with
  | .unreadable => ofFields [("error", ofString (Error.config e).name)]
  | .invalid _ _ => failureReport (Error.config e).name e.message

/-- A task that was taken down reports nothing about it. -/
def Halt.toJson {ε : Type} (report : ε → Json) : Halt ε → Json
  | .error cause => report cause
  | .abort => ofFields [("error", ofString "Panic")]

/-- The failure that an event carries. -/
def IngestError.toJson (e : IngestError) : Json := ofList [ofString e.name, ofString e.message]

end HomeGateway
