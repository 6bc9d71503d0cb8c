import MultiDAQ.Lib.Dict

/-!
# The logical state of the server

The data model of `server/core/server_state.py`: the two finite state machines with their
transition tables, the record the server keeps for each client, and `ServerState` itself with the
read operations and the elementary updates the events are made of. Clients are keyed by their ZeroMQ
identity, a byte string, in the order of their registration.
-/

namespace MultiDAQ.Server

open MultiDAQ.Lib

/-! ## The state machines -/

inductive ServerFSM
  | disconnected
  | controlConnected
  | connected
  | configuring
  | ready
  | acquiring
  | finalizing
  | error
  deriving DecidableEq, Repr

inductive AcquisitionMode
  | test
  | calibration
  | multipmt
  deriving DecidableEq, Repr

inductive ServerFSMEvent
  | controlConnectionSucceeded
  | controlConnectionFailed
  | controlConnectionLost
  | acquisitionConnectionSucceeded
  | acquisitionConnectionFailed
  | acquisitionConnectionLost
  | disconnectRequested
  | configurationStarted
  | configurationSucceeded
  | configurationFailed
  | acquisitionStarted
  | stopRequested
  | receiverCompleted
  | finalizationSucceeded
  | finalizationFailed
  | fatalError
  | recoveryStarted
  | recoverySucceeded
  | recoveryFailed
  deriving DecidableEq, Repr

inductive ClientFSM
  | disconnected
  | connected
  | configuring
  | ready
  | acquiring
  | finalizing
  | error
  deriving DecidableEq, Repr

inductive ClientFSMEvent
  | connectSucceeded
  | disconnected
  | configurationStarted
  | configurationSucceeded
  | configurationFailed
  | acquisitionStarted
  | stopRequested
  | receiverCompleted
  | acquisitionPlaneLost
  | finalizationSucceeded
  | finalizationFailed
  | fatalError
  deriving DecidableEq, Repr

/-- `TRANSITION_TABLE`. -/
def transitionTable : ServerFSM → ServerFSMEvent → Option ServerFSM
  | .disconnected, .controlConnectionSucceeded => some .controlConnected
  | .disconnected, .controlConnectionFailed => some .disconnected
  | .disconnected, .acquisitionConnectionFailed => some .disconnected
  | .disconnected, .disconnectRequested => some .disconnected
  | .disconnected, .fatalError => some .error
  | .controlConnected, .acquisitionConnectionSucceeded => some .connected
  | .controlConnected, .acquisitionConnectionFailed => some .controlConnected
  | .controlConnected, .controlConnectionLost => some .disconnected
  | .controlConnected, .disconnectRequested => some .disconnected
  | .controlConnected, .fatalError => some .error
  | .connected, .configurationStarted => some .configuring
  | .connected, .controlConnectionLost => some .disconnected
  | .connected, .acquisitionConnectionLost => some .controlConnected
  | .connected, .disconnectRequested => some .disconnected
  | .connected, .fatalError => some .error
  | .configuring, .configurationSucceeded => some .ready
  | .configuring, .configurationFailed => some .connected
  | .configuring, .recoverySucceeded => some .ready
  | .configuring, .recoveryFailed => some .error
  | .configuring, .controlConnectionLost => some .error
  | .configuring, .acquisitionConnectionLost => some .error
  | .configuring, .disconnectRequested => some .disconnected
  | .configuring, .fatalError => some .error
  | .ready, .configurationStarted => some .configuring
  | .ready, .acquisitionStarted => some .acquiring
  | .ready, .controlConnectionLost => some .disconnected
  | .ready, .acquisitionConnectionLost => some .controlConnected
  | .ready, .disconnectRequested => some .disconnected
  | .ready, .fatalError => some .error
  | .acquiring, .stopRequested => some .finalizing
  | .acquiring, .receiverCompleted => some .finalizing
  | .acquiring, .disconnectRequested => some .finalizing
  | .acquiring, .controlConnectionLost => some .finalizing
  | .acquiring, .acquisitionConnectionLost => some .finalizing
  | .acquiring, .fatalError => some .error
  | .finalizing, .finalizationSucceeded => some .ready
  | .finalizing, .finalizationFailed => some .ready
  | .finalizing, .disconnectRequested => some .finalizing
  | .finalizing, .fatalError => some .error
  | .error, .recoveryStarted => some .configuring
  | .error, .disconnectRequested => some .disconnected
  | .error, .fatalError => some .error
  | _, _ => none

/-- `TRANSITION_TABLE_CLIENT`, with the `FATAL_ERROR` row that the loop after it adds. -/
def transitionTableClient : ClientFSM → ClientFSMEvent → Option ClientFSM
  | _, .fatalError => some .error
  | .disconnected, .connectSucceeded => some .connected
  | .connected, .configurationStarted => some .configuring
  | .configuring, .configurationSucceeded => some .ready
  | .configuring, .configurationFailed => some .error
  | .ready, .configurationStarted => some .configuring
  | .ready, .acquisitionStarted => some .acquiring
  | .acquiring, .stopRequested => some .finalizing
  | .acquiring, .receiverCompleted => some .finalizing
  | .finalizing, .finalizationSucceeded => some .ready
  | .finalizing, .finalizationFailed => some .error
  | .connected, .disconnected => some .disconnected
  | .configuring, .disconnected => some .disconnected
  | .ready, .disconnected => some .disconnected
  | .acquiring, .disconnected => some .error
  | .finalizing, .disconnected => some .error
  | .error, .disconnected => some .disconnected
  | .connected, .acquisitionPlaneLost => some .connected
  | .configuring, .acquisitionPlaneLost => some .error
  | .ready, .acquisitionPlaneLost => some .connected
  | .acquiring, .acquisitionPlaneLost => some .error
  | .finalizing, .acquisitionPlaneLost => some .error
  | .error, .acquisitionPlaneLost => some .error
  | _, _ => none

/-! ## Values from outside -/

/-- A client id that the server accepted: a ZeroMQ identity. -/
abbrev ClientId := List UInt8

/-- An element of a list of client ids that an event carries: anything can be in there. -/
inductive PyId
  | bytes (b : ClientId)
  | other (repr : String)
  deriving DecidableEq, Repr

/-- A value of an identity dictionary: the code reads its truth value and its `str()` only. -/
structure PyValue where
  text : String
  truthy : Bool
  deriving DecidableEq, Repr

/-- The value of a key that holds a list of client ids. -/
inductive IdsEntry
  | missing
  | none
  | ids (l : List PyId)
  deriving DecidableEq, Repr

/-- `dict.get(key, default)`: `none` stands for a `None` stored under the key. -/
def IdsEntry.get (e : IdsEntry) (default : List PyId) : Option (List PyId) :=
  match e with
  | .missing => some default
  | .none => Option.none
  | .ids l => some l

/-- The keys of an event's metadata that `process_event` reads. -/
structure EventMetadata where
  targetClients : IdsEntry := .missing
  isPartial : Option Bool := Option.none
  successfulClients : IdsEntry := .missing
  failedClients : IdsEntry := .missing
  activeClients : IdsEntry := .missing
  deriving DecidableEq, Repr

structure EventContext where
  event : ServerFSMEvent ⊕ ClientFSMEvent
  reason : String
  source : String
  clientId : Option ClientId
  error : Option String
  metadata : EventMetadata
  timestamp : Nat
  deriving DecidableEq, Repr

/-- `{**event_context, "previous_state": …}`. -/
structure ErrorContext (σ : Type) where
  context : EventContext
  previousState : σ
  deriving DecidableEq, Repr

/-- `last_event_context`: the context of an event, or what a forced reset leaves there. -/
inductive LastEventContext
  | event (c : EventContext)
  | reset (reason source : String) (timestamp : Nat)
  deriving DecidableEq, Repr

/-! ## Clients -/

/-- The identity dictionary of a client (`None` and a missing key are read alike). -/
structure Identity where
  macAddress : Option PyValue := none
  multipmtId : Option PyValue := none
  batchId : Option PyValue := none
  deriving DecidableEq, Repr

structure ConfigurationIdentity where
  multipmtId : String
  batchId : String
  deriving DecidableEq, Repr

structure HvParameters where
  voltage : Option Int := none
  threshold : Option Int := none
  powerState : Option String := none
  deriving DecidableEq, Repr

structure ClientRecord where
  state : ClientFSM := .connected
  previousState : Option ClientFSM := none
  lastEventContext : Option EventContext := none
  errorContext : Option (ErrorContext ClientFSM) := none
  identity : Option Identity := none
  configurationIdentity : Option ConfigurationIdentity := none
  hvParameters : Dict Int HvParameters := .empty
  calibrationExcludedChannels : List Int := []
  connectedAt : Nat
  onControlPlane : Bool := false
  onAcquisitionPlane : Bool := false
  onMonitoringPlane : Bool := false
  operational : Bool := false
  deriving DecidableEq, Repr

/-- `r.on_control_plane and r.on_acquisition_plane`. -/
def ClientRecord.onCommonPlanes (r : ClientRecord) : Bool :=
  r.onControlPlane && r.onAcquisitionPlane

/-! ## The server state -/

structure ServerState where
  acqMode : String
  clients : Dict ClientId ClientRecord
  runState : ServerFSM
  previousState : Option ServerFSM
  pendingEvent : Option ServerFSMEvent
  pendingTerminalState : Option ServerFSM
  pendingContext : Option EventContext
  pendingConfigurationSource : Option ServerFSM
  pendingConfigurationPartial : Bool
  lastEventContext : Option LastEventContext
  errorContext : Option (ErrorContext ServerFSM)
  clientIdByMac : Dict String ClientId

/-- `ServerState.__init__`. -/
def ServerState.init (initialMode : String := "test") : ServerState where
  acqMode := initialMode
  clients := .empty
  runState := .disconnected
  previousState := none
  pendingEvent := none
  pendingTerminalState := none
  pendingContext := none
  pendingConfigurationSource := none
  pendingConfigurationPartial := false
  lastEventContext := none
  errorContext := none
  clientIdByMac := .empty

namespace ServerState

variable (s : ServerState)

def controlClientIds : List ClientId := s.clients.keysWhere (·.onControlPlane)

def acquisitionClientIds : List ClientId := s.clients.keysWhere (·.onAcquisitionPlane)

def monitoringClientIds : List ClientId := s.clients.keysWhere (·.onMonitoringPlane)

def commonPlaneClientIds : List ClientId := s.clients.keysWhere (·.onCommonPlanes)

def operationalClientIds : List ClientId := s.clients.keysWhere (·.operational)

def listClientsInState (state : ClientFSM) : List ClientId :=
  s.clients.keysWhere fun r => r.state == state

/-- `_set_operational_locked`: true for the given clients, false for all the others. -/
def setOperational (ids : List ClientId) : ServerState :=
  { s with clients := s.clients.mapVals fun cid r => { r with operational := ids.contains cid } }

/-- `_clear_operational_locked`. -/
def clearOperational : ServerState :=
  { s with clients := s.clients.mapVals fun _ r => { r with operational := false } }

/-- The loops that set the flag of the records whose id is in `ids` and leave the others alone. -/
def markOperational (ids : List ClientId) (value : Bool) : ServerState :=
  { s with clients := s.clients.mapVals fun cid r =>
      if ids.contains cid then { r with operational := value } else r }

end ServerState

/-- What `_set_client_state_locked` does to the record it finds. -/
def ClientRecord.setState (r : ClientRecord) (state : ClientFSM) (context : EventContext) :
    ClientRecord :=
  { r with
    previousState := some r.state
    state := state
    lastEventContext := some context
    errorContext :=
      if state = .error then some { context := context, previousState := r.state } else none }

/-- `_set_client_state_locked`: an unregistered client is ignored. -/
def ServerState.setClientState (s : ServerState) (cid : ClientId) (state : ClientFSM)
    (context : EventContext) : ServerState :=
  { s with clients := s.clients.modify cid fun r => r.setState state context }

/-- The loops that move every client of `ids` to `state`. -/
def ServerState.setClientStates (s : ServerState) (ids : List ClientId) (state : ClientFSM)
    (context : EventContext) : ServerState :=
  ids.foldl (fun s cid => s.setClientState cid state context) s

end MultiDAQ.Server
