import Mathlib.Algebra.Ring.Nat
import MultiDAQ.Receiver.Receive

/-!
# The threads of the receiver

`control_listener`, `delayed_close_worker`, the workers and `receive_data` of
`server/acquisition/evreceiver.c`, as far as they share state: the queues of the workers, the list of
the delayed closes and the acknowledgement of an OPEN_READY or a CLOSE_READY. A step is what one
thread does under one lock, or the passage of time. An action that is not enabled changes nothing.
-/

namespace MultiDAQ.Receiver

open MultiDAQ.Lib

/-- `QUEUE_SIZE`. -/
def queueSize : Nat := 8192

/-- `PROCESS_BATCH_SIZE`. -/
def processBatchSize : Nat := 2

/-- `MAX_DELAYED_CLOSES`. -/
def maxDelayedCloses : Nat := 4096

/-- `CLOSE_GRACE_TIME_S`, in nanoseconds. -/
def closeGraceTime : Nat := 2 * 10 ^ 9

/-! ## Acknowledgements -/

structure OpenAck where
  openSerial : UInt64 := 0
  openWaiting : UInt64 := 0
  openDone : Bool := false
  openSuccess : Bool := false
  deriving DecidableEq, Repr

namespace OpenAck

/-- `begin_open_ack`. -/
def beginOpenAck (a : OpenAck) : UInt64 × OpenAck :=
  let token := a.openSerial + 1
  (token, { openSerial := token, openWaiting := token, openDone := false, openSuccess := false })

/-- `complete_open_ack`. -/
def completeOpenAck (a : OpenAck) (token : UInt64) (success : Bool) : OpenAck :=
  if token = 0 then a
  else if a.openWaiting = token then { a with openSuccess := success, openDone := true }
  else a

/-- The end of `wait_open_ack`, which comes when the request is done or at the deadline. -/
def waitOpenAck (a : OpenAck) (token : UInt64) : Bool × OpenAck :=
  (a.openWaiting = token && a.openDone && a.openSuccess, { a with openWaiting := 0 })

end OpenAck

/-! ## Delayed closes -/

structure DelayedClose where
  sourceId : Bytes
  workerIdx : Nat
  deadline : Nat
  deriving DecidableEq, Repr

/-- The slots of `delayed_closes`; one that is not active holds nothing. -/
abbrev DelayedCloses := List (Option DelayedClose)

namespace DelayedCloses

variable (slots : DelayedCloses)

/-- `has_pending_close`. -/
def hasPendingClose (sourceId : Bytes) : Bool :=
  slots.any fun slot => slot.any (·.sourceId = sourceId)

/-- The first slot that is not active. -/
def freeIdx : Option Nat := slots.findIdx? (· = none)

inductive Scheduling
  /-- A close of the source is pending. -/
  | merged
  | full
  | scheduled (slots : DelayedCloses)

/-- `schedule_delayed_close`. -/
def scheduleDelayedClose (sourceId : Bytes) (workerIdx now : Nat) : Scheduling :=
  if slots.hasPendingClose sourceId then .merged
  else
    match slots.freeIdx with
    | none => .full
    | some i => .scheduled (slots.set i (some {
        sourceId := sourceId, workerIdx := workerIdx, deadline := now + closeGraceTime }))

/-- The loop of `delayed_close_worker` over the slots, from the `i`-th on: the first active one with
the nearest deadline. -/
def nearest : Nat → DelayedCloses → Option (Nat × DelayedClose) → Option (Nat × DelayedClose)
  | _, [], selected => selected
  | i, none :: slots, selected => nearest (i + 1) slots selected
  | i, some c :: slots, none => nearest (i + 1) slots (some (i, c))
  | i, some c :: slots, some (j, d) =>
    nearest (i + 1) slots (if c.deadline < d.deadline then some (i, c) else some (j, d))

end DelayedCloses

/-! ## The threads -/

inductive ItemType
  | data
  | opening
  | closing
  deriving DecidableEq, Repr

/-- An item of a queue, without what the handling of it needs. -/
structure QueuedItem where
  item : ItemType
  sourceId : Bytes
  openRequest : UInt64 := 0
  deriving DecidableEq, Repr

/-- The requests that queue an item: OPEN and OPEN_READY, and CLOSE_READY. -/
inductive QueueRequest
  | opening (ready : Bool) (id : Bytes)
  | closeReady (id : Bytes)
  deriving DecidableEq, Repr

namespace QueueRequest

def id : QueueRequest → Bytes
  | .opening _ id => id
  | .closeReady id => id

/-- The request is answered when the worker has handled its item. -/
def ready : QueueRequest → Bool
  | .opening ready _ => ready
  | .closeReady _ => true

def queuedItem : QueueRequest → UInt64 → QueuedItem
  | .opening _ id, token => { item := .opening, sourceId := id, openRequest := token }
  | .closeReady id, token => { item := .closing, sourceId := id, openRequest := token }

end QueueRequest

inductive Request
  | close (id : Bytes)
  | queue (r : QueueRequest)
  deriving DecidableEq, Repr

/-- Where `control_listener` is. -/
inductive Listener
  | polling
  | pendingClose (r : QueueRequest)
  | queueing (r : QueueRequest)
  /-- The request has its token; the lock of the worker is held. -/
  | begun (r : QueueRequest) (token : UInt64)
  | waitingAck (token : UInt64)
  | stopped
  deriving DecidableEq, Repr

/-- Where `delayed_close_worker` is. -/
inductive CloseWorker
  | scanning
  | queueing (selectedIdx : Nat) (closeItem : DelayedClose)
  | clearing (selectedIdx : Nat)
  | stopped
  deriving DecidableEq, Repr

structure ReceiverThreads where
  keepRunning : Bool := true
  openAck : OpenAck := {}
  delayedCloses : DelayedCloses := List.replicate maxDelayedCloses none
  queues : Nat → List QueuedItem := fun _ => []
  /-- The batch that a worker has taken from its queue. -/
  batches : Nat → List QueuedItem := fun _ => []
  listener : Listener := .polling
  closeWorker : CloseWorker := .scanning
  now : Nat := 0

inductive Action
  | request (r : Request)
  | pendingChecked
  | ackBegins
  | queues
  | ackReturns
  | closeSelected
  | closeQueued
  | closeCleared
  | batchTaken (worker : Nat)
  | itemHandled (worker : Nat) (ok : Bool)
  | dataQueued (identity : Bytes)
  | clock (now : Nat)
  | stop
  deriving DecidableEq, Repr

/-- What a step did. -/
inductive ThreadEvent
  | none
  /-- A delayed close was scheduled, and not merged with a pending one. -/
  | scheduled (id : Bytes)
  | ackBegun (token : UInt64)
  | ackReturned (token : UInt64) (ok : Bool)
  | queued (worker : Nat) (item : QueuedItem)
  | delayedCloseQueued (worker : Nat) (item : QueuedItem)
  | handled (worker : Nat) (item : QueuedItem) (ok : Bool)
  deriving DecidableEq, Repr

namespace ReceiverThreads

variable (s : ReceiverThreads)

/-- The listener holds the lock of the worker while it makes the item. -/
def locked (worker : Nat) : Bool :=
  match s.listener with
  | .begun r _ => workerOf r.id = worker
  | _ => false

def push (worker : Nat) (item : QueuedItem) : ReceiverThreads :=
  { s with queues := Function.update s.queues worker (s.queues worker ++ [item]) }

/-- The lock of the worker can be taken, and there is room in its queue. -/
def hasSpace (worker : Nat) : Bool :=
  !s.locked worker && (s.queues worker).length < queueSize

/-! ### `control_listener` -/

def request : Request → ReceiverThreads × ThreadEvent
  | .close id =>
    match s.delayedCloses.scheduleDelayedClose id (workerOf id) s.now with
    | .scheduled slots => ({ s with delayedCloses := slots }, .scheduled id)
    | _ => (s, .none)
  | .queue r => ({ s with listener := .pendingClose r }, .none)

/-- `wait_for_pending_close` returns. -/
def pendingChecked (r : QueueRequest) : ReceiverThreads :=
  if s.keepRunning && s.delayedCloses.hasPendingClose r.id then s
  else { s with listener := .queueing r }

/-- There is space in the queue of the worker: a request that is to be acknowledged gets a token. -/
def ackBegins (r : QueueRequest) : ReceiverThreads × ThreadEvent :=
  if !s.keepRunning then ({ s with listener := .stopped }, .none)
  else if !s.hasSpace (workerOf r.id) then (s, .none)
  else if r.ready then
    let (token, ack) := s.openAck.beginOpenAck
    ({ s with openAck := ack, listener := .begun r token }, .ackBegun token)
  else ({ s with listener := .begun r 0 }, .none)

def queueItem (r : QueueRequest) (token : UInt64) : ReceiverThreads × ThreadEvent :=
  let item := r.queuedItem token
  ({ s.push (workerOf r.id) item with
      listener := if r.ready then .waitingAck token else .polling },
    .queued (workerOf r.id) item)

def ackReturns (token : UInt64) : ReceiverThreads × ThreadEvent :=
  let (ok, ack) := s.openAck.waitOpenAck token
  ({ s with openAck := ack, listener := .polling }, .ackReturned token ok)

/-! ### `delayed_close_worker` -/

def closeSelected : ReceiverThreads :=
  if !s.keepRunning then { s with closeWorker := .stopped }
  else
    match DelayedCloses.nearest 0 s.delayedCloses none with
    | none => s
    | some (i, c) =>
      if s.now < c.deadline then s else { s with closeWorker := .queueing i c }

def closeQueued (selectedIdx : Nat) (closeItem : DelayedClose) : ReceiverThreads × ThreadEvent :=
  if !s.keepRunning then ({ s with closeWorker := .stopped }, .none)
  else if !s.hasSpace closeItem.workerIdx then (s, .none)
  else
    let item : QueuedItem := { item := .closing, sourceId := closeItem.sourceId }
    ({ s.push closeItem.workerIdx item with closeWorker := .clearing selectedIdx },
      .delayedCloseQueued closeItem.workerIdx item)

def closeCleared (selectedIdx : Nat) : ReceiverThreads := { s with
  delayedCloses := s.delayedCloses.set selectedIdx none
  closeWorker := .scanning }

/-! ### Workers -/

/-- A worker that has handled its batch takes the next one. -/
def batchTaken (worker : Nat) : ReceiverThreads :=
  if s.keepRunning ∧ s.batches worker = [] ∧ !s.locked worker then { s with
    queues := Function.update s.queues worker ((s.queues worker).drop processBatchSize)
    batches := Function.update s.batches worker ((s.queues worker).take processBatchSize) }
  else s

/-- A worker handles the next item of its batch, with success or not. Only the items of requests
that are to be acknowledged carry a token. -/
def itemHandled (worker : Nat) (ok : Bool) : ReceiverThreads × ThreadEvent :=
  match s.batches worker with
  | [] => (s, .none)
  | item :: rest =>
    ({ s with
        batches := Function.update s.batches worker rest
        openAck := s.openAck.completeOpenAck item.openRequest ok },
      .handled worker item ok)

/-- `receive_data` queues a payload. -/
def dataQueued (identity : Bytes) : ReceiverThreads × ThreadEvent :=
  let item : QueuedItem := { item := .data, sourceId := cString identity }
  if s.keepRunning && s.hasSpace (workerOf identity) then
    (s.push (workerOf identity) item, .queued (workerOf identity) item)
  else (s, .none)

def step : Action → ReceiverThreads × ThreadEvent
  | .request r => if s.listener = .polling then s.request r else (s, .none)
  | .pendingChecked =>
    match s.listener with
    | .pendingClose r => (s.pendingChecked r, .none)
    | _ => (s, .none)
  | .ackBegins =>
    match s.listener with
    | .queueing r => s.ackBegins r
    | _ => (s, .none)
  | .queues =>
    match s.listener with
    | .begun r token => s.queueItem r token
    | _ => (s, .none)
  | .ackReturns =>
    match s.listener with
    | .waitingAck token => s.ackReturns token
    | _ => (s, .none)
  | .closeSelected => if s.closeWorker = .scanning then (s.closeSelected, .none) else (s, .none)
  | .closeQueued =>
    match s.closeWorker with
    | .queueing i c => s.closeQueued i c
    | _ => (s, .none)
  | .closeCleared =>
    match s.closeWorker with
    | .clearing i => (s.closeCleared i, .none)
    | _ => (s, .none)
  | .batchTaken worker => (s.batchTaken worker, .none)
  | .itemHandled worker ok => s.itemHandled worker ok
  | .dataQueued identity => s.dataQueued identity
  | .clock now => ({ s with now := now }, .none)
  | .stop => ({ s with keepRunning := false }, .none)

end ReceiverThreads

end MultiDAQ.Receiver
