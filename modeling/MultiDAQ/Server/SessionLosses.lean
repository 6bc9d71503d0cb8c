import MultiDAQ.Server.ClientLiveness
import MultiDAQ.Server.Registry

/-!
# The losses of a session

What `AcquisitionService` (`server/services/acquisition_service.py`) notes of the clients of a
session under `_session_lock`: the thread of the session in `run_acquisition_session`, and the
threads of the managers in `on_client_lost`. One session runs at a time, since a start is accepted
in `READY` only and the thread of the session closes it when it is over; a scan runs one session
point by point. A step is what a thread does under the lock, or one access to the stop event.
-/

namespace MultiDAQ.Server

open MultiDAQ.Lib

/-- Where the thread of the session is. -/
inductive SessionRun
  | idle
  /-- The clients of the session are noted, and are being started. -/
  | starting
  /-- The acquiring clients are noted; the stop is still to be requested if all of them are lost. -/
  | published (lostWhileStarting : Bool)
  | waiting
  /-- The wait is over, and the losses are to be read. -/
  | stopped
  /-- `finally` is to run. -/
  | leaving
  deriving DecidableEq, Repr

structure SessionLosses where
  sessionClients : List ClientId := []
  acquiringClients : List ClientId := []
  lostClients : Dict ClientId CommandPlane := .empty
  stopRequested : Bool := false
  phase : SessionRun := .idle
  /-- The threads that have found every acquiring client lost, and have still to call
  `request_stop`. -/
  noticing : Nat → Bool := fun _ => false

inductive LossAction
  /-- `begin_session`. -/
  | beginSession
  | registerClients (clients : List ClientId)
  /-- Files are open, and these clients acquire. -/
  | publish (acquiring : List ClientId)
  /-- No file could be opened, or an exception has been raised while the clients were started. -/
  | giveUp
  /-- The stop for the clients lost while starting. -/
  | stopAtStart
  | beginWait
  /-- `timedOut` says that a duration is over. -/
  | endWait (timedOut : Bool)
  | readLosses
  | leave
  /-- `on_client_lost`, in this thread. -/
  | onClientLost (thread : Nat) (client : ClientId) (plane : CommandPlane)
  | requestStop (thread : Nat)
  /-- `request_stop` for the operator. -/
  | stop
  deriving DecidableEq, Repr

namespace SessionLosses

variable (s : SessionLosses)

/-- `_all_acquiring_clients_lost_locked`. -/
def allAcquiringClientsLost : Bool :=
  !s.acquiringClients.isEmpty && s.acquiringClients.all (s.lostClients.contains ·)

local instance : LawfulBEq ClientId := inferInstance

/-- `on_client_lost`, up to the end of the lock. -/
def onClientLost (thread : Nat) (client : ClientId) (plane : CommandPlane) : SessionLosses :=
  if plane = .monitoring then s
  else if client ∉ s.sessionClients then s
  else if s.lostClients.contains client then s
  else
    let s := { s with lostClients := s.lostClients.set client plane }
    { s with noticing := Function.update s.noticing thread s.allAcquiringClientsLost }

def publish (acquiring : List ClientId) : SessionLosses :=
  let s := { s with acquiringClients := acquiring }
  { s with phase := .published s.allAcquiringClientsLost }

def step : LossAction → SessionLosses
  | .beginSession => if s.phase = .idle then { s with stopRequested := false } else s
  | .registerClients clients =>
    if s.phase = .idle then { s with sessionClients := clients, phase := .starting } else s
  | .publish acquiring =>
    -- a client that acquires is one of the session
    if s.phase = .starting ∧ acquiring ⊆ s.sessionClients then s.publish acquiring else s
  | .giveUp => if s.phase = .starting then { s with phase := .leaving } else s
  | .stopAtStart =>
    if s.phase = .published true then { s with stopRequested := true, phase := .published false }
    else s
  | .beginWait =>
    if s.phase = .published false then
      { s with phase := if s.acquiringClients.isEmpty then .stopped else .waiting }
    else s
  | .endWait timedOut =>
    if s.phase = .waiting ∧ (s.stopRequested ∨ timedOut) then { s with phase := .stopped } else s
  | .readLosses => if s.phase = .stopped then { s with phase := .leaving } else s
  | .leave =>
    if s.phase = .leaving then
      { s with phase := .idle, sessionClients := [], acquiringClients := [], lostClients := .empty }
    else s
  | .onClientLost thread client plane =>
    -- a thread makes one call at a time
    if s.noticing thread then s else s.onClientLost thread client plane
  | .requestStop thread =>
    if s.noticing thread then
      { s with stopRequested := true, noticing := Function.update s.noticing thread false }
    else s
  | .stop => { s with stopRequested := true }

end SessionLosses

end MultiDAQ.Server
