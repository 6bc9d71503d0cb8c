import MultiDAQ.Lib.Dict
import MultiDAQ.Server.Registry
import Mathlib.Logic.Function.Basic

/-!
# Time synchronisation

`TimeSyncService` (`server/services/time_sync_service.py`), the probes that `MonitoringPlaneManager`
(`server/communication/monitoring_manager.py`) sends for it, and `synchronize_client` of
`MonitoringService` (`server/services/monitoring_service.py`). A round of probes runs in a thread of
its own; the probes are sent, and their replies received, by the I/O thread of the plane; a client
is invalidated by any thread. A step is what a thread does under one lock, or with one queue.
-/

namespace MultiDAQ.Server

open MultiDAQ.Lib

/-! ## Probes and measurements -/

structure PendingTimeSyncProbe where
  clientId : ClientId
  requestId : Nat
  t1UtcNs : Int
  t1ServerMonotonicNs : Int
  deriving DecidableEq, Repr

structure TimeSyncMeasurement where
  clientId : ClientId
  requestId : Nat
  bootId : String
  t1UtcNs : Int
  t1ServerMonotonicNs : Int
  c2ClientMonotonicNs : Int
  c3ClientMonotonicNs : Int
  t4ServerMonotonicNs : Int
  networkRttNs : Int
  refClientMonotonicNs : Int
  refUtcNs : Int
  deriving DecidableEq, Repr

structure ClientTimeSyncState where
  clientId : ClientId
  bootId : String
  refClientMonotonicNs : Int
  refUtcNs : Int
  networkRttNs : Int
  uncertaintyNs : Int
  syncedAtServerMonotonicNs : Int
  deriving DecidableEq, Repr

/-- What a client answers to a probe. -/
structure TimeSyncReply where
  clientId : ClientId
  inReplyTo : Nat
  bootId : String
  c2ClientMonotonicNs : Int
  c3ClientMonotonicNs : Int
  t4ServerMonotonicNs : Int
  deriving DecidableEq, Repr

namespace PendingTimeSyncProbe

variable (probe : PendingTimeSyncProbe) (reply : TimeSyncReply)

def networkRttNs : Int :=
  (reply.t4ServerMonotonicNs - probe.t1ServerMonotonicNs) -
    (reply.c3ClientMonotonicNs - reply.c2ClientMonotonicNs)

/-- The checks of `complete_probe`. -/
def accepts : Bool :=
  probe.clientId = reply.clientId ∧ reply.bootId ≠ "" ∧
    ¬reply.c3ClientMonotonicNs < reply.c2ClientMonotonicNs ∧
    ¬reply.t4ServerMonotonicNs < probe.t1ServerMonotonicNs ∧ ¬probe.networkRttNs reply < 0

def measurement : TimeSyncMeasurement where
  clientId := reply.clientId
  requestId := reply.inReplyTo
  bootId := reply.bootId
  t1UtcNs := probe.t1UtcNs
  t1ServerMonotonicNs := probe.t1ServerMonotonicNs
  c2ClientMonotonicNs := reply.c2ClientMonotonicNs
  c3ClientMonotonicNs := reply.c3ClientMonotonicNs
  t4ServerMonotonicNs := reply.t4ServerMonotonicNs
  networkRttNs := probe.networkRttNs reply
  refClientMonotonicNs := Int.fdiv (reply.c2ClientMonotonicNs + reply.c3ClientMonotonicNs) 2
  refUtcNs := probe.t1UtcNs +
    Int.fdiv (reply.t4ServerMonotonicNs - probe.t1ServerMonotonicNs) 2

end PendingTimeSyncProbe

/-- The state that `apply_measurements` makes of the measurement with the smallest round trip. -/
def TimeSyncMeasurement.state (best : TimeSyncMeasurement) (clientId : ClientId) :
    ClientTimeSyncState where
  clientId
  bootId := best.bootId
  refClientMonotonicNs := best.refClientMonotonicNs
  refUtcNs := best.refUtcNs
  networkRttNs := best.networkRttNs
  -- `uncertainty_ns`
  uncertaintyNs := Int.fdiv best.networkRttNs 2
  syncedAtServerMonotonicNs := best.t4ServerMonotonicNs

/-! ## The service -/

structure TimeSyncService where
  pendingProbes : Dict Nat PendingTimeSyncProbe := .empty
  clientStates : Dict ClientId ClientTimeSyncState := .empty

namespace TimeSyncService

variable (s : TimeSyncService)

def registerProbeSent (probe : PendingTimeSyncProbe) : TimeSyncService :=
  { s with pendingProbes := s.pendingProbes.set probe.requestId probe }

def cancelProbe (requestId : Nat) : TimeSyncService :=
  { s with pendingProbes := s.pendingProbes.erase requestId }

def completeProbe (reply : TimeSyncReply) : TimeSyncService × Option TimeSyncMeasurement :=
  let completed := s.cancelProbe reply.inReplyTo
  match s.pendingProbes.get? reply.inReplyTo with
  | none => (completed, none)
  | some probe =>
    (completed, if probe.accepts reply then some (probe.measurement reply) else none)

def invalidateClient (clientId : ClientId) : TimeSyncService where
  clientStates := s.clientStates.erase clientId
  pendingProbes := s.pendingProbes.filter fun probe => probe.clientId ≠ clientId

/-- What `apply_measurements` finds in the measurements of a round. -/
inductive Applied
  | noMeasurements
  | bootChanged
  | best (measurement : TimeSyncMeasurement)
  deriving DecidableEq, Repr

def applied (clientId : ClientId) (measurements : List TimeSyncMeasurement) : Applied :=
  let valid := measurements.filter fun m => m.clientId = clientId
  match valid.minOn? (·.networkRttNs) with
  | none => .noMeasurements
  | some best => if valid.all (·.bootId = best.bootId) then .best best else .bootChanged

def applyMeasurements (clientId : ClientId) (measurements : List TimeSyncMeasurement) :
    TimeSyncService :=
  match applied clientId measurements with
  | .noMeasurements => s
  | .bootChanged => s.invalidateClient clientId
  | .best best => { s with clientStates := s.clientStates.set clientId (best.state clientId) }

def clear : TimeSyncService := {}

def clientMonotonicToUtc (clientId : ClientId) (clientMonotonicNs : Int) : Option Int :=
  (s.clientStates.get? clientId).map fun state =>
    state.refUtcNs + (clientMonotonicNs - state.refClientMonotonicNs)

end TimeSyncService

/-! ## Rounds of probes -/

/-- Where a call of `synchronize_client` is. -/
inductive SyncTask
  | idle
  /-- So many probes are left to send. -/
  | collecting (clientId : ClientId) (left : Nat) (measurements : List TimeSyncMeasurement)
  /-- `wait_for_time_sync_measurement`. -/
  | waiting (clientId : ClientId) (requestId : Nat) (left : Nat)
    (measurements : List TimeSyncMeasurement)
  deriving DecidableEq, Repr

def SyncTask.measurements : SyncTask → List TimeSyncMeasurement
  | .idle => []
  | .collecting _ _ measurements | .waiting _ _ _ measurements => measurements

structure TimeSync where
  service : TimeSyncService := {}
  /-- The probes of `mon_outgoing_queue`. -/
  outgoing : List (ClientId × Nat) := []
  /-- `time_sync_waiters`: queues that hold one measurement at most. -/
  waiters : Dict (ClientId × Nat) (Option TimeSyncMeasurement) := .empty
  /-- What the I/O thread is to deliver. -/
  received : Option TimeSyncMeasurement := none
  tasks : Nat → SyncTask := fun _ => .idle
  /-- The request id of the next probe. -/
  nextRequestId : Nat := 0

/-- What becomes of a message that the I/O thread takes from the queue. -/
inductive ProbeSending
  /-- The client is not connected, or the message cannot be serialized. -/
  | dropped
  /-- The socket raises. -/
  | failed
  | sent
  deriving DecidableEq, Repr

inductive TimeSyncAction
  | synchronizeClient (thread : Nat) (clientId : ClientId) (probeCount : Nat)
  /-- `timedOut` says that no measurement has come in time. -/
  | advance (thread : Nat) (timedOut : Bool)
  | sendProbe (sending : ProbeSending) (t1UtcNs t1ServerMonotonicNs : Int)
  | receiveReply (reply : TimeSyncReply)
  | deliver
  /-- The client is lost or comes back, or its state expires. -/
  | invalidateClient (clientId : ClientId)
  /-- The connection is closed. -/
  | clear
  deriving DecidableEq, Repr

namespace TimeSync

variable (s : TimeSync)

def goto (thread : Nat) (task : SyncTask) : TimeSync :=
  { s with tasks := Function.update s.tasks thread task }

/-- `queue_time_sync_probe`. -/
def queueProbe (clientId : ClientId) : TimeSync :=
  { s with
    waiters := s.waiters.set (clientId, s.nextRequestId) none
    outgoing := s.outgoing ++ [(clientId, s.nextRequestId)]
    nextRequestId := s.nextRequestId + 1 }

def dropWaiter (clientId : ClientId) (requestId : Nat) : TimeSync :=
  { s with waiters := s.waiters.erase (clientId, requestId) }

/-- `synchronize_client`. -/
def advance (thread : Nat) (timedOut : Bool) : TimeSync :=
  match s.tasks thread with
  | .idle => s
  | .collecting clientId 0 measurements =>
    { s with service := s.service.applyMeasurements clientId measurements }.goto thread .idle
  | .collecting clientId (left + 1) measurements =>
    (s.queueProbe clientId).goto thread (.waiting clientId s.nextRequestId left measurements)
  | .waiting clientId requestId left measurements =>
    match s.waiters.get? (clientId, requestId) with
    | some (some m) =>
      (s.dropWaiter clientId requestId).goto thread
        (.collecting clientId left (measurements ++ [m]))
    | _ =>
      if timedOut then
        { s.dropWaiter clientId requestId with
          service := s.service.cancelProbe requestId }.goto thread
          (.collecting clientId left measurements)
      else s

/-- The I/O thread takes a probe from the queue. -/
def sendProbe (sending : ProbeSending) (t1UtcNs t1ServerMonotonicNs : Int) : TimeSync :=
  match s.outgoing with
  | [] => s
  | (clientId, requestId) :: outgoing =>
    match sending with
    | .dropped => { s with outgoing }
    | .failed => { s with outgoing, service := s.service.cancelProbe requestId }
    | .sent =>
      { s with
        outgoing
        service := s.service.registerProbeSent
          { clientId, requestId, t1UtcNs, t1ServerMonotonicNs } }

/-- `_deliver_time_sync_measurement`. -/
def deliver : TimeSync :=
  match s.received with
  | none => s
  | some m =>
    match s.waiters.get? (m.clientId, m.requestId) with
    | some none =>
      { s with received := none, waiters := s.waiters.set (m.clientId, m.requestId) (some m) }
    -- nobody waits for it, or it is a duplicate
    | _ => { s with received := none }

def step : TimeSyncAction → TimeSync
  | .synchronizeClient thread clientId probeCount =>
    if s.tasks thread = .idle then s.goto thread (.collecting clientId probeCount []) else s
  | .advance thread timedOut => s.advance thread timedOut
  | .sendProbe sending t1UtcNs t1ServerMonotonicNs =>
    -- the I/O thread delivers a measurement before it goes on
    if s.received = none then s.sendProbe sending t1UtcNs t1ServerMonotonicNs else s
  | .receiveReply reply =>
    if s.received = none then
      { s with service := (s.service.completeProbe reply).1
               received := (s.service.completeProbe reply).2 }
    else s
  | .deliver => s.deliver
  | .invalidateClient clientId => { s with service := s.service.invalidateClient clientId }
  | .clear => { s with service := .clear }

end TimeSync

end MultiDAQ.Server
