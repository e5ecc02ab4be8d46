import HomeGateway.Subscription.Conf

/-!
Filters with memory: a table with an entry for each device, or one entry for all, made when
its key is first seen and dropped only by `clear`.
-/

namespace HomeGateway

/-- What an entry is kept for. Only the first two are supported. -/
inductive LookupKind where
  | any
  | session
  | sessionEndpoint
  | addr
  | addrEndpoint
  | endpoint
  deriving DecidableEq

instance : Enumeration LookupKind where
  all := [.any, .session, .sessionEndpoint, .addr, .addrEndpoint, .endpoint]
  tag
    | .any => "any"
    | .session => "sdevuid"
    | .sessionEndpoint => "sdevuid_endpoint"
    | .addr => "addr"
    | .addrEndpoint => "addr_endpoint"
    | .endpoint => "endpoint"

inductive FilterMode where
  /-- Every event; only the table is kept. -/
  | none
  /-- The first event of each key. -/
  | duplicate
  /-- The first `n` events of each key. -/
  | count (n : UInt32)
  /-- One event of each key in `n` seconds. -/
  | interval (n : UInt32)
  /-- Not supported, for timestamps are in seconds. -/
  | intervalMs (n : UInt32)
  /-- The first of every `n` events of each key. -/
  | subsampling (n : UInt32)
  deriving DecidableEq

inductive EntryState where
  | seen
  | count (n : UInt32)
  | lastAccepted (timestamp : UInt32)
  | position (n : UInt32)
  deriving DecidableEq

/-- `key` is `none` where one entry serves all devices. -/
structure LookupEntry where
  key : Option SessionId
  state : EntryState
  deriving DecidableEq

structure ExtendedFilter where
  lookup : LookupKind
  mode : FilterMode
  entries : List LookupEntry

namespace ExtendedFilter

def new (lookup : LookupKind) (mode : FilterMode) : Except SubscriptionError ExtendedFilter :=
  if lookup ≠ .any ∧ lookup ≠ .session then .error (.notSupported "lookup kind")
  else
    match mode with
    | .intervalMs _ => .error (.notSupported "millisecond interval")
    | .subsampling 0 => .error (.invalidConfig "subsampling ratio is zero")
    | _ => .ok { lookup, mode, entries := [] }

def clear (f : ExtendedFilter) : ExtendedFilter := { f with entries := [] }

def key (f : ExtendedFilter) (session : SessionId) : Option SessionId :=
  if f.lookup = .session then some session else none

/-- The state of an entry that has just been made. -/
def initialState (mode : FilterMode) (timestamp : UInt32) : EntryState :=
  match mode with
  | .count _ => .count 0
  | .interval _ => .lastAccepted timestamp
  | .intervalMs _ => .lastAccepted timestamp
  | .subsampling _ => .position 0
  | .none => .seen
  | .duplicate => .seen

/-- Decides on an event of the entry's key and moves the entry on. `created` says that the
event is the first of its key. -/
def decideOn (mode : FilterMode) (created : Bool) (timestamp : UInt32) (state : EntryState) :
    Bool × EntryState :=
  match mode, state with
  | .none, state => (true, state)
  | .duplicate, state => (created, state)
  | .count limit, .count n =>
    let n := if n = 0xFFFFFFFF then n else n + 1
    (n ≤ limit, .count n)
  | .interval gap, .lastAccepted last =>
    if created then (true, .lastAccepted last)
    else if timestamp - last ≥ gap then (true, .lastAccepted timestamp)
    else (false, .lastAccepted last)
  | .subsampling ratio, .position n =>
    let n := if n = ratio then 0 else n
    (n = 0, .position (n + 1))
  | _, state => (false, state)

/-- Moves the entry of `key` on, or makes one at the end. -/
def decideIn (mode : FilterMode) (key : Option SessionId) (timestamp : UInt32) :
    List LookupEntry → Bool × List LookupEntry
  | [] =>
    let (accept, state) := decideOn mode true timestamp (initialState mode timestamp)
    (accept, [{ key, state }])
  | entry :: rest =>
    if entry.key = key then
      let (accept, state) := decideOn mode false timestamp entry.state
      (accept, { entry with state } :: rest)
    else
      let (accept, rest) := decideIn mode key timestamp rest
      (accept, entry :: rest)

/-- Whether to accept an event of a device. -/
def accept (f : ExtendedFilter) (session : SessionId) (timestamp : UInt32) :
    Bool × ExtendedFilter :=
  let (accept, entries) := decideIn f.mode (f.key session) timestamp f.entries
  (accept, { f with entries })

/-- Makes a filter that of a configuration. Its memory is in the state of the client, from where
`fetch` takes it and `store` puts it back. -/
def install {σ : Type} (fetch : σ → ExtendedFilter) (store : ExtendedFilter → σ → σ)
    (conf : SubscriptionConf σ) : Except SubscriptionError (SubscriptionConf σ) :=
  if conf.filter.isSome then .error .filterAlreadySet
  else
    let filter (seen : Seen) (client : σ) : Bool × List (SubscriptionRequest σ) × σ :=
      let (accept, f) := (fetch client).accept seen.event.session seen.event.timestamp
      (accept, [], store f client)
    .ok { conf with filter := some filter }

end ExtendedFilter

end HomeGateway
