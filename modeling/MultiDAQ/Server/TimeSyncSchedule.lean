import Mathlib.Algebra.Ring.Nat
import Mathlib.Data.Finset.Card
import Mathlib.Data.List.Sort
import MultiDAQ.Server.TimeSync

/-!
# The schedule of the time synchronisations

`MonitoringService` (`server/services/monitoring_service.py`): when the clients are to be
synchronised again, the scheduler thread that hands the due ones to an executor, and the workers that
synchronise them. A scheduler that is stopped may still be running when the next one is started, so there may be
several. A step is what a thread does under `_time_sync_schedule_lock`, or one call. Times are
readings of the monotonic clock, in nanoseconds. An action that is not enabled changes nothing.
-/

namespace MultiDAQ.Server

open MultiDAQ.Lib

/-- `SYNC_WORKERS`. -/
def syncWorkers : Nat := 8

/-- `TIME_SYNC_PERIOD_S`. -/
def timeSyncPeriodNs : Nat := 300 * 10 ^ 9

/-- `TIME_SYNC_RETRY_S`. -/
def timeSyncRetryNs : Nat := 60 * 10 ^ 9

/-! ## Slots -/

/-- The number with these bytes, the highest first. -/
def bigEndian (bytes : List UInt8) : Nat := bytes.foldl (fun n b => n * 256 + b.toNat) 0

section Slots

-- `sha256` is the digest of `hashlib`
variable (sha256 : List UInt8 → List UInt8)

/-- `_time_sync_phase`. -/
def timeSyncPhase (clientId : ClientId) (periodNs : Nat) : Nat :=
  let digest := sha256 (clientId ++ (":time_sync_resync".toList.map fun c => c.toNat.toUInt8))
  bigEndian (digest.take 8) % periodNs

/-- `_next_time_sync_slot_ns`. -/
def nextTimeSyncSlotNs (clientId : ClientId) (notBeforeNs : Nat) : Nat :=
  let phaseNs := timeSyncPhase sha256 clientId timeSyncPeriodNs
  if notBeforeNs ≤ phaseNs then phaseNs
  else
    let cycles := (notBeforeNs - phaseNs + timeSyncPeriodNs - 1) / timeSyncPeriodNs
    cycles * timeSyncPeriodNs + phaseNs

/-- What `_schedule_next_time_sync` sets. -/
def nextResyncAfter (clientId : ClientId) (syncedAtNs : Nat) (initialSync : Bool) : Nat :=
  nextTimeSyncSlotNs sha256 clientId
    (if initialSync then syncedAtNs + timeSyncPeriodNs else syncedAtNs + 1)

end Slots

/-! ## Threads -/

/-- Where `_time_sync_scheduler_loop` is; `due` are the clients that it is still to come to. -/
inductive SchedulerThread
  | waiting
  | starting (due : List ClientId)
  /-- The client is connected. -/
  | submitting (clientId : ClientId) (due : List ClientId)
  /-- The client is not connected, or the executor has refused it. -/
  | releasing (clientId : ClientId) (due : List ClientId)
  /-- `_schedule_time_sync_retry`. -/
  | retrying (clientId : ClientId) (due : List ClientId)
  | ended
  deriving DecidableEq, Repr

/-- The clients that the thread has put in progress. -/
def SchedulerThread.claimed : SchedulerThread → List ClientId
  | .starting due | .retrying _ due => due
  | .submitting clientId due | .releasing clientId due => clientId :: due
  | .waiting | .ended => []

/-- Where `_time_sync_worker` is. -/
inductive SyncWorker
  /-- `synchronize_client`, or still in the queue of the executor. -/
  | synchronizing (clientId : ClientId)
  /-- `_handle_time_sync_failure`, after a synchronisation that has failed. -/
  | failed (clientId : ClientId)
  /-- `_handle_time_sync_failure`, in the handler of the exception. -/
  | raised (clientId : ClientId)
  /-- `finally`. -/
  | finishing (clientId : ClientId)
  | ended
  deriving DecidableEq, Repr

/-- The client that is being synchronised. -/
def SyncWorker.client? : SyncWorker → Option ClientId
  | .synchronizing clientId | .failed clientId | .raised clientId | .finishing clientId =>
    some clientId
  | .ended => none

/-- How `synchronize_client` ends. -/
inductive SyncResult
  | raised
  /-- There is no measurement, or the measurements are rejected. -/
  | failed
  | synchronized (syncedAtNs : Nat) (initialSync : Bool)
  deriving DecidableEq, Repr

/-- What a step of a worker depends on: how the synchronisation ends, whether the handling of a
failure raises before it schedules a retry, and the time. -/
structure WorkOutcome where
  result : SyncResult
  handlerRaises : Bool
  nowNs : Nat
  deriving DecidableEq, Repr

structure TimeSyncSchedule where
  nextResyncNs : Dict ClientId Nat := .empty
  resyncInProgress : Finset ClientId := ∅
  schedulers : List SchedulerThread := []
  workers : List SyncWorker := []

inductive ScheduleAction
  /-- `start_time_sync_scheduler`. -/
  | start
  /-- The stop event is set when a scheduler comes to the head of its loop. -/
  | stop (scheduler : Nat)
  /-- A scheduler takes the clients that are due. -/
  | turn (scheduler : Nat) (nowNs : Nat)
  /-- A scheduler goes on with the clients it has taken: `ok` says that the client is connected, or
  that the executor accepts it. -/
  | advance (scheduler : Nat) (ok : Bool) (nowNs : Nat)
  | work (worker : Nat) (outcome : WorkOutcome)
  /-- A synchronisation that was not scheduled succeeds. -/
  | reschedule (clientId : ClientId) (syncedAtNs : Nat) (initialSync : Bool)
  deriving DecidableEq, Repr

namespace TimeSyncSchedule

section Turn

variable (s : TimeSyncSchedule) (nowNs : Nat)

/-- The order of `due_clients.sort()`. -/
def dueLe (a b : Nat × ClientId) : Prop := a.1 < b.1 ∨ a.1 = b.1 ∧ a.2 ≤ b.2

instance : DecidableRel dueLe := fun a b =>
  inferInstanceAs (Decidable (a.1 < b.1 ∨ a.1 = b.1 ∧ a.2 ≤ b.2))

/-- The clients that are due and not in progress. -/
def dueClients : List (Nat × ClientId) :=
  ((s.nextResyncNs.entries.filter fun (clientId, nextResyncNs) =>
    !decide (nowNs < nextResyncNs) && !decide (clientId ∈ s.resyncInProgress)).map Prod.swap)

/-- `due_clients[:available_slots]`: with a negative number, the last ones are left out. -/
def firstSlots {α : Type} (due : List α) (availableSlots : Int) : List α :=
  if 0 ≤ availableSlots then due.take availableSlots.toNat
  else due.take (due.length - (-availableSlots).toNat)

/-- The clients that a scheduler takes in a turn. -/
def taken : List ClientId :=
  (firstSlots ((s.dueClients nowNs).insertionSort dueLe)
    (syncWorkers - s.resyncInProgress.card)).map Prod.snd

end Turn

variable (sha256 : List UInt8 → List UInt8) (s : TimeSyncSchedule)

def setScheduler (i : Nat) (thread : SchedulerThread) : TimeSyncSchedule :=
  { s with schedulers := s.schedulers.set i thread }

def setWorker (i : Nat) (worker : SyncWorker) : TimeSyncSchedule :=
  { s with workers := s.workers.set i worker }

def scheduleAt (clientId : ClientId) (nextResyncNs : Nat) : TimeSyncSchedule :=
  { s with nextResyncNs := s.nextResyncNs.set clientId nextResyncNs }

/-- The client is no longer in progress. -/
def discard (clientId : ClientId) : TimeSyncSchedule :=
  { s with resyncInProgress := s.resyncInProgress.erase clientId }

def turn (i nowNs : Nat) : TimeSyncSchedule :=
  match s.schedulers[i]? with
  | some .waiting =>
    { s with resyncInProgress := s.resyncInProgress ∪ (s.taken nowNs).toFinset }.setScheduler i
      (.starting (s.taken nowNs))
  | _ => s

def advance (i : Nat) (ok : Bool) (nowNs : Nat) : TimeSyncSchedule :=
  match s.schedulers[i]? with
  | some (.starting []) => s.setScheduler i .waiting
  | some (.starting (clientId :: due)) =>
    s.setScheduler i (if ok then .submitting clientId due else .releasing clientId due)
  | some (.submitting clientId due) =>
    if ok then
      { s with workers := s.workers ++ [SyncWorker.synchronizing clientId] }.setScheduler i
        (.starting due)
    else s.setScheduler i (.releasing clientId due)
  | some (.releasing clientId due) => (s.discard clientId).setScheduler i (.retrying clientId due)
  | some (.retrying clientId due) =>
    (s.scheduleAt clientId (nowNs + timeSyncRetryNs)).setScheduler i (.starting due)
  | _ => s

/-- `_time_sync_worker`. -/
def work (i : Nat) (outcome : WorkOutcome) : TimeSyncSchedule :=
  match s.workers[i]? with
  | some (.synchronizing clientId) =>
    match outcome.result with
    | .raised => s.setWorker i (.raised clientId)
    | .failed => s.setWorker i (.failed clientId)
    | .synchronized syncedAtNs initialSync =>
      (s.scheduleAt clientId (nextResyncAfter sha256 clientId syncedAtNs initialSync)).setWorker i
        (.finishing clientId)
  | some (.failed clientId) =>
    if outcome.handlerRaises then s.setWorker i (.raised clientId)
    else (s.scheduleAt clientId (outcome.nowNs + timeSyncRetryNs)).setWorker i (.finishing clientId)
  | some (.raised clientId) =>
    -- an exception in the handler is raised again after `finally`
    if outcome.handlerRaises then s.setWorker i (.finishing clientId)
    else (s.scheduleAt clientId (outcome.nowNs + timeSyncRetryNs)).setWorker i (.finishing clientId)
  | some (.finishing clientId) => (s.discard clientId).setWorker i .ended
  | _ => s

def step : ScheduleAction → TimeSyncSchedule
  | .start => { s with schedulers := s.schedulers ++ [.waiting] }
  | .stop i => if s.schedulers[i]? = some .waiting then s.setScheduler i .ended else s
  | .turn i nowNs => s.turn i nowNs
  | .advance i ok nowNs => s.advance i ok nowNs
  | .work i outcome => s.work sha256 i outcome
  | .reschedule clientId syncedAtNs initialSync =>
    s.scheduleAt clientId (nextResyncAfter sha256 clientId syncedAtNs initialSync)

end TimeSyncSchedule

end MultiDAQ.Server
