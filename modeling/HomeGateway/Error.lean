import HomeGateway.Device.Address

/-! Causes of failure and the text of each. -/

namespace HomeGateway

/-- What identifies a kind of endpoint. -/
inductive EndpointId where
  | none
  | xiaomiMijia
  | nucleoF429zi
  | boardControl (cls : UInt8)
  deriving DecidableEq

def EndpointId.text : EndpointId → String
  | .none => "none"
  | .xiaomiMijia => "xiaomi_mijia"
  | .nucleoF429zi => "nucleo_f429zi"
  | .boardControl cls => "caniot_blc" ++ toString cls.toNat

inductive PoolError where
  | exhausted (pool : String) (capacity : Nat)
  | noMemory (requested remaining : Nat)
  deriving DecidableEq

def PoolError.message : PoolError → String
  | .exhausted pool capacity => s!"{pool} pool exhausted ({capacity} slots)"
  | .noMemory requested remaining =>
    s!"data budget exhausted: requested {requested} bytes, {remaining} remaining"

inductive RegistryError where
  | outOfCapacity (devices : Nat)
  | unsupportedType (deviceType : DeviceType)
  | noEndpoints
  | tooManyEndpoints (declared max : Nat)
  | endpointInit (reason : String)
  | noDevices
  | deviceNotFound
  deriving DecidableEq

def RegistryError.message : RegistryError → String
  | .outOfCapacity devices => s!"device list full ({devices} devices)"
  | .unsupportedType deviceType => "unsupported device type: " ++ deviceType.text
  | .noEndpoints => "device declares no endpoint"
  | .tooManyEndpoints declared max =>
    s!"device declares {declared} endpoints, at most {max} supported"
  | .endpointInit reason => "endpoint initialization failed: " ++ reason
  | .noDevices => "no device in the requested range"
  | .deviceNotFound => "device not found"

inductive IngestError where
  | poolExhausted
  | noEndpoint
  | invalidEndpoint (index : Nat)
  | noCommandHandler (endpoint : EndpointId)
  | payloadSizeMismatch (expected actual : Nat)
  | noMemory (bytes : Nat)
  | decode (reason : String)
  | command (reason : String)
  deriving DecidableEq

def IngestError.message : IngestError → String
  | .poolExhausted => "event pool exhausted"
  | .noEndpoint => "no endpoint selected for payload"
  | .invalidEndpoint index => s!"endpoint index {index} is out of range"
  | .noCommandHandler endpoint => "endpoint " ++ endpoint.text ++ " has no command handler"
  | .payloadSizeMismatch expected actual =>
    s!"payload size mismatch: expected {expected} bytes, got {actual}"
  | .noMemory bytes => s!"no memory for {bytes} bytes of decoded data"
  | .decode reason => "decode failed: " ++ reason
  | .command reason => "command failed: " ++ reason

/-- The same cause, seen from an event that could not be made. -/
def PoolError.toIngest : PoolError → IngestError
  | .exhausted _ _ => .poolExhausted
  | .noMemory requested _ => .noMemory requested

inductive SubscriptionError where
  | invalidConfig (reason : String)
  | poolExhausted
  | notSupported (feature : String)
  | filterAlreadySet
  deriving DecidableEq

def SubscriptionError.message : SubscriptionError → String
  | .invalidConfig reason => "invalid subscription configuration: " ++ reason
  | .poolExhausted => "subscription pool exhausted"
  | .notSupported feature => "not supported: " ++ feature
  | .filterAlreadySet => "a filter is already set"

inductive QueryError where
  | invalidTimeout (ms : Nat)
  | noMemory
  | timedOut (ms : Nat)
  | cancelled
  | submission (code : Int)
  | unresponsive (ms : Nat)
  | workerStopped
  deriving DecidableEq

def QueryError.message : QueryError → String
  | .invalidTimeout ms => s!"invalid query timeout: {ms} ms"
  | .noMemory => "no memory for a pending query"
  | .timedOut ms => s!"query timed out after {ms} ms"
  | .cancelled => "query cancelled"
  | .submission code => s!"submission failed with code {code}"
  | .unresponsive ms => s!"bus worker unresponsive after {ms} ms"
  | .workerStopped => "bus worker stopped"

/-- A configuration that cannot be read, or one whose values do not go together. -/
inductive ConfigError where
  | unreadable
  | invalid (field reason : String)
  deriving DecidableEq

def ConfigError.message : ConfigError → String
  | .unreadable => "config parse error"
  | .invalid field reason => "invalid " ++ field ++ ": " ++ reason

inductive Error where
  | pool (cause : PoolError)
  | registry (cause : RegistryError)
  | ingest (cause : IngestError)
  | subscription (cause : SubscriptionError)
  | query (cause : QueryError)
  | config (cause : ConfigError)
  deriving DecidableEq

def Error.message : Error → String
  | .pool cause => "pool error: " ++ cause.message
  | .registry cause => "registry error: " ++ cause.message
  | .ingest cause => "ingest error: " ++ cause.message
  | .subscription cause => "subscription error: " ++ cause.message
  | .query cause => "query error: " ++ cause.message
  | .config cause => "config error: " ++ cause.message

/-- How an operation ends that does not succeed: with an error for its caller, or by taking
the calling task down. -/
inductive Halt (ε : Type) where
  | error (cause : ε)
  | abort
  deriving DecidableEq

end HomeGateway
