import MultiDAQ.Lib.Ring
import MultiDAQ.Receiver.Threads

/-!
# The queue of a worker

The ring that `worker_node_t` of `server/acquisition/evreceiver.c` keeps its items in, and the threads
that use it: `receive_data`, `control_listener` and `delayed_close_worker` put items, and
`process_data` takes them. A thread uses the ring only while it holds the lock of the worker. A step
is what a thread does up to the point where it takes the lock, waits or gives the lock back, and may
be followed by a step of any other thread. An action that is not enabled changes nothing.
-/

namespace MultiDAQ.Receiver

open MultiDAQ.Lib

universe u

/-- `worker_node_t`: the ring of items. -/
structure WorkerNode (α : Type u) where
  items : Int → α
  head : Int
  tail : Int
  count : Int

namespace WorkerNode

variable {α : Type u} (wn : WorkerNode α)

/-- `reset_worker_node`. -/
def reset : WorkerNode α := { wn with head := 0, tail := 0, count := 0 }

/-- An item is put: the same three statements in `receive_data`, twice in `control_listener`, and in
`delayed_close_worker`. -/
def put (item : α) : WorkerNode α where
  items := Function.update wn.items wn.tail item
  head := wn.head
  tail := (wn.tail + 1).tmod queueSize
  count := wn.count + 1

/-- The loop of `process_data` that takes the items of a batch. -/
def takeItems (wn : WorkerNode α) : Nat → List α × WorkerNode α
  | 0 => ([], wn)
  | i + 1 =>
    let (batch, wn') := takeItems
      { wn with head := (wn.head + 1).tmod queueSize, count := wn.count - 1 } i
    (wn.items wn.head :: batch, wn')

/-- `batch_size`. -/
def batchSize : Int := if processBatchSize < wn.count then processBatchSize else wn.count

/-- What is in the queue. -/
def contents : List α := window wn.items queueSize wn.head wn.count.toNat

end WorkerNode

/-! ## The threads of a queue -/

inductive QueueThread
  | receiveData
  | controlListener
  | delayedCloseWorker
  | processData
  deriving DecidableEq, Repr

/-- Where a thread is. -/
inductive QueuePosition
  | outside
  /-- The lock is held, and the count is to be tested. -/
  | testing
  /-- `pthread_cond_wait` or `pthread_cond_timedwait`. -/
  | waiting
  /-- The lock is held, and the test has let the thread through. -/
  | through
  | stopped
  deriving DecidableEq, Repr

def QueuePosition.holdsLock : QueuePosition → Bool
  | .testing | .through => true
  | .outside | .waiting | .stopped => false

structure QueueThreads (α : Type u) where
  keepRunning : Bool := true
  node : WorkerNode α
  lock : Option QueueThread := none
  position : QueueThread → QueuePosition := fun _ => .outside

inductive QueueAction (α : Type u)
  /-- `pthread_mutex_lock`, before the test and after a wait. -/
  | lock (t : QueueThread)
  | ended (t : QueueThread)
  | test (t : QueueThread)
  /-- A producer that is through puts an item. -/
  | put (t : QueueThread) (item : α)
  /-- The worker that is through takes a batch. -/
  | take
  /-- The signal handler. -/
  | stop

/-- What a step did. -/
inductive QueueEvent (α : Type u)
  | none
  | put (t : QueueThread) (item : α)
  /-- The producer stops, and its item is not put. -/
  | refused (t : QueueThread)
  | taken (batch : List α)

namespace QueueEvent

variable {α : Type u}

def itemsPut : QueueEvent α → List α
  | .put _ item => [item]
  | _ => []

def itemsTaken : QueueEvent α → List α
  | .taken batch => batch
  | _ => []

end QueueEvent

namespace QueueThreads

variable {α : Type u} (s : QueueThreads α)

/-- All the threads are outside of the queue, which has been reset. -/
def initial (wn : WorkerNode α) : QueueThreads α := { node := wn.reset }

def goto (t : QueueThread) (p : QueuePosition) : QueueThreads α :=
  { s with position := Function.update s.position t p }

/-- The lock is given back. -/
def leave (t : QueueThread) (p : QueuePosition) : QueueThreads α :=
  { s.goto t p with lock := none }

/-- A thread takes the lock. After a wait a producer tests the count again, and the worker does
not. -/
def lockTaken (t : QueueThread) : QueueThreads α :=
  if s.lock.isSome then s
  else
    match s.position t with
    | .outside => { s.goto t .testing with lock := some t }
    | .waiting =>
      { s.goto t (if t = .processData then .through else .testing) with lock := some t }
    | _ => s

/-- The loop of a thread ends when the receiver is not running. -/
def ended (t : QueueThread) : QueueThreads α :=
  if s.position t = .outside ∧ !s.keepRunning then s.goto t .stopped else s

/-- The condition of a wait: the queue is full for a producer, and empty for the worker. -/
def mustWait (t : QueueThread) : Bool :=
  (if t = .processData then decide (s.node.count = 0) else decide (queueSize ≤ s.node.count)) &&
    s.keepRunning

def tested (t : QueueThread) : QueueThreads α :=
  if s.position t = .testing then
    if s.mustWait t then s.leave t .waiting else s.goto t .through
  else s

def put (t : QueueThread) (item : α) : QueueThreads α × QueueEvent α :=
  if s.position t = .through ∧ t ≠ .processData then
    if !s.keepRunning then (s.leave t .stopped, .refused t)
    else ({ s.leave t .outside with node := s.node.put item }, .put t item)
  else (s, .none)

def take : QueueThreads α × QueueEvent α :=
  if s.position .processData = .through then
    if !s.keepRunning then (s.leave .processData .stopped, .none)
    else if s.node.count = 0 then (s.leave .processData .outside, .none)
    else
      let (batch, node) := s.node.takeItems s.node.batchSize.toNat
      ({ s.leave .processData .outside with node }, .taken batch)
  else (s, .none)

def step : QueueAction α → QueueThreads α × QueueEvent α
  | .lock t => (s.lockTaken t, .none)
  | .ended t => (s.ended t, .none)
  | .test t => (s.tested t, .none)
  | .put t item => s.put t item
  | .take => s.take
  | .stop => ({ s with keepRunning := false }, .none)

end QueueThreads

end MultiDAQ.Receiver
