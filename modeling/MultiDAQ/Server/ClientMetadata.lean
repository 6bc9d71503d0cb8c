import MultiDAQ.Server.MonitorStreams

/-!
# The metadata of the monitoring files

The metadata that `MonitorPersistenceService` (`server/services/monitor_persistence_service.py`)
keeps of a client, and writes to the metadata file of the client. A change is made to a copy, under
the transaction lock of the client; the copy is written, and then published. `V` are the values of a
register; Python's `None` is `none`.
-/

namespace MultiDAQ.Server

open MultiDAQ.Lib

variable {V : Type}

/-- An entry of `configuration_history`. -/
structure ConfigurationChange (V : Type) where
  timestampUtcNs : Int
  register : Nat
  oldValue : Option V
  newValue : Option V
  deriving DecidableEq, Repr

/-- An entry of `persistence.sections`. That of the events has no interval. -/
structure SectionMetadata where
  enabled : Bool
  format : String
  requestedIntervalNs : Option Int
  updatedAtUtcNs : Int
  deriving DecidableEq, Repr

/-- The sections of `persistence.sections`. -/
inductive MetadataSection
  | samples (channel : Channel)
  | events
  deriving DecidableEq, Repr

/-- What changes in the metadata of a client. The registers are the keys of the two dictionaries. -/
structure ClientMetadata (V : Type) where
  /-- `configuration.initial`. -/
  initial : Dict Nat (Option V) := .empty
  /-- `configuration.current`. -/
  current : Dict Nat (Option V) := .empty
  configurationHistory : List (ConfigurationChange V) := []
  sections : Dict MetadataSection SectionMetadata := .empty
  deriving DecidableEq

/-- The registers whose changes are recorded. -/
def recordedRegisters : List Nat := [31, 39]

namespace ClientMetadata

/-- `_build_persistence_metadata` of `MonitoringOrchestrator`, with the values that are read. -/
def build (rc31 rc39 : Option V) : ClientMetadata V where
  initial := (Dict.empty.set 31 rc31).set 39 rc39
  current := (Dict.empty.set 31 rc31).set 39 rc39

variable (m : ClientMetadata V)

/-- `current.get(register_key)`. -/
def currentValue (register : Nat) : Option V := (m.current.get? register).join

def initialValue (register : Nat) : Option V := (m.initial.get? register).join

def setSection (name : MetadataSection) (data : SectionMetadata) : ClientMetadata V :=
  { m with sections := m.sections.set name data }

def recordChange (timestampUtcNs : Int) (register : Nat) (newValue : Option V) :
    ClientMetadata V :=
  { m with
    current := m.current.set register newValue
    configurationHistory := m.configurationHistory ++
      [{ timestampUtcNs, register, oldValue := m.currentValue register, newValue }] }

end ClientMetadata

inductive MetadataCall (V : Type)
  | initializeClientMetadata (rc31 rc39 : Option V)
  | updateStreamMetadata (channel : Channel) (enabled : Bool) (format : String) (requestedIntervalNs : Int)
  | updateEventMetadata (enabled : Bool) (format : String)
  | recordConfigurationChange (register : Nat) (newValue : Option V) (timestampUtcNs : Int)
  deriving DecidableEq, Repr

/-- What a call makes of the metadata, or what it returns when there is nothing to write. -/
def MetadataCall.update [DecidableEq V] (nowNs : Int) (current : Option (ClientMetadata V)) :
    MetadataCall V → Except Bool (ClientMetadata V)
  | .initializeClientMetadata rc31 rc39 =>
    match current with
    | some _ => .error true
    | none => .ok (.build rc31 rc39)
  | .updateStreamMetadata channel enabled format requestedIntervalNs =>
    match current with
    | none => .error false
    | some m => .ok (m.setSection (.samples channel)
        { enabled, format, requestedIntervalNs := some requestedIntervalNs
          updatedAtUtcNs := nowNs })
  | .updateEventMetadata enabled format =>
    match current with
    | none => .error false
    | some m => .ok (m.setSection .events
        { enabled, format, requestedIntervalNs := none, updatedAtUtcNs := nowNs })
  | .recordConfigurationChange register newValue timestampUtcNs =>
    if register ∈ recordedRegisters then
      match current with
      -- nothing to update
      | none => .error true
      | some m =>
        if m.currentValue register = newValue then .error true
        else .ok (m.recordChange timestampUtcNs register newValue)
    else .error true

/-! ## Transactions -/

inductive MetadataTask (V : Type)
  | idle
  /-- The transaction lock of the client is to be taken. -/
  | called (clientId : ClientId) (call : MetadataCall V)
  /-- `write_metadata`. -/
  | writing (clientId : ClientId) (call : MetadataCall V) (nowNs : Int)
    (metadata : ClientMetadata V)
  | publishing (clientId : ClientId) (call : MetadataCall V) (nowNs : Int)
    (metadata : ClientMetadata V)
  | returned (success : Bool)
  deriving DecidableEq

structure MetadataService (V : Type) where
  /-- `_client_metadata`. -/
  clientMetadata : Dict ClientId (ClientMetadata V) := .empty
  /-- What the last write that has succeeded has written. -/
  files : ClientId → Option (ClientMetadata V) := fun _ => none
  /-- Which thread holds the transaction lock of a client. -/
  transactionLocks : ClientId → Option Nat := fun _ => none
  tasks : Nat → MetadataTask V := fun _ => .idle

inductive MetadataAction (V : Type)
  | call (thread : Nat) (clientId : ClientId) (call : MetadataCall V)
  /-- `writeOk` is what `write_metadata` returns, if it is called. -/
  | advance (thread : Nat) (writeOk : Bool) (nowNs : Int)
  deriving DecidableEq, Repr

namespace MetadataService

variable (s : MetadataService V) (thread : Nat)

def goto (task : MetadataTask V) : MetadataService V :=
  { s with tasks := Function.update s.tasks thread task }

def setLock (clientId : ClientId) (holder : Option Nat) : MetadataService V :=
  { s with transactionLocks := Function.update s.transactionLocks clientId holder }

/-- The lock is left, and the call ends. -/
def leave (clientId : ClientId) (success : Bool) : MetadataService V :=
  (s.setLock clientId none).goto thread (.returned success)

/-- The lock is taken, and the metadata is copied and changed. -/
def begin [DecidableEq V] (clientId : ClientId) (call : MetadataCall V) (nowNs : Int) :
    MetadataService V :=
  match s.transactionLocks clientId with
  | some _ => s
  | none =>
    match call.update nowNs (s.clientMetadata.get? clientId) with
    | .error success => s.goto thread (.returned success)
    | .ok metadata =>
      (s.setLock clientId (some thread)).goto thread (.writing clientId call nowNs metadata)

/-- A write replaces the file, or leaves it as it is. -/
def write (clientId : ClientId) (call : MetadataCall V) (nowNs : Int) (metadata : ClientMetadata V)
    (writeOk : Bool) : MetadataService V :=
  if writeOk then
    { s with files := Function.update s.files clientId (some metadata) }.goto thread
      (.publishing clientId call nowNs metadata)
  else s.leave thread clientId false

def publish (clientId : ClientId) (metadata : ClientMetadata V) : MetadataService V :=
  { s with clientMetadata := s.clientMetadata.set clientId metadata }.leave thread clientId true

def advance [DecidableEq V] (writeOk : Bool) (nowNs : Int) : MetadataService V :=
  match s.tasks thread with
  | .idle | .returned _ => s
  | .called clientId call => s.begin thread clientId call nowNs
  | .writing clientId call nowNs metadata => s.write thread clientId call nowNs metadata writeOk
  | .publishing clientId _ _ metadata => s.publish thread clientId metadata

def step [DecidableEq V] : MetadataAction V → MetadataService V
  | .call thread clientId call =>
    match s.tasks thread with
    | .idle | .returned _ => s.goto thread (.called clientId call)
    | _ => s
  | .advance thread writeOk nowNs => s.advance thread writeOk nowNs

end MetadataService

end MultiDAQ.Server
