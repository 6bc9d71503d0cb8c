import MultiDAQ.Server.MonitorStreams

/-!
# The monitoring files

`MonitorPersistenceService` and `MonitorPersistenceWriter`
(`server/services/monitor_persistence_service.py`): the samples and the events of the clients go
through one bounded queue to the workers, which gather them in buffers and write them in batches.
The samples of a section of a client, and the events of a client, are handled alike; where they are
not, the difference is in the definition. A step is what a thread does under one lock, or with the
queue.
-/

namespace MultiDAQ.Server

open MultiDAQ.Lib

/-! ## Samples and events -/

/-- What a file is written for. -/
inductive PersistenceKey
  | stream (clientId : ClientId) (channel : Channel)
  | events (clientId : ClientId)
  deriving DecidableEq, Repr

inductive SaveFormat
  | csv
  | parquet
  deriving DecidableEq, Repr

/-- `PERSISTENCE_QUEUE_MAXSIZE`. -/
def persistenceQueueMaxsize : Nat := 10000

/-- `PERSISTENCE_BATCH_SAMPLES`. -/
def persistenceBatchSamples : Nat := 100

/-- `PERSISTENCE_WORKERS`. -/
def persistenceWorkers : Nat := 4

/-- What the normalisation finds in a message. -/
inductive PersistenceMessage
  | complete
  /-- Without `timestamp_utc_ns`. -/
  | undated
  /-- The payload cannot be read, and the normalisation raises. -/
  | unreadable
  deriving DecidableEq, Repr

/-- `PersistenceItem` and `PersistenceEventItem`. The number tells the items apart, as Python tells
objects. -/
structure PersistenceItem where
  number : Nat
  key : PersistenceKey
  message : PersistenceMessage
  deriving DecidableEq, Repr

/-- What the rows of a sample are about: one row, a row for each channel, or for each register. -/
def Channel.rows : Channel → Option (List Nat)
  | .main => some [0]
  | .hv => some [0, 1, 2, 3, 4, 5, 6]
  | .rc => some [20, 21, 22, 23, 24, 25, 26, 27, 28, 32, 33, 34, 35, 36, 37, 38]
  | _ => none

/-- The rows of an item whose section is supported. -/
def PersistenceKey.rows : PersistenceKey → Option (List Nat)
  | .stream _ channel => channel.rows
  | .events _ => some [0]

/-- `_normalize_item` and `_normalize_event`: the rows, or nothing; or they raise. -/
def PersistenceItem.normalize (item : PersistenceItem) : Except Unit (Option (List Nat)) :=
  match item.key.rows, item.message with
  | none, _ => .ok none
  | some rows, .complete => .ok (some rows)
  | some _, .undated => .ok none
  | some _, .unreadable => .error ()

/-- `PersistenceStreamState` and `PersistenceEventState`. -/
structure PersistenceState where
  enabled : Bool := false
  saveFormat : SaveFormat
  /-- Events have none. -/
  requestedIntervalNs : Option Int
  enqueued : Nat := 0
  written : Nat := 0
  dropped : Nat := 0
  queuePending : Nat := 0
  rowsWritten : Nat := 0
  deriving DecidableEq, Repr

/-- Items that are written together. -/
abbrev Batch := PersistenceKey × List PersistenceItem

/-! ## Threads -/

/-- What follows when the batches in hand are written. -/
inductive AfterWrite
  /-- `process_item` returns to the worker. -/
  | mark (item : PersistenceItem)
  /-- `flush_due` returns to the worker. -/
  | poll
  /-- `flush_stream` or `flush_events` returns. -/
  | flush
  /-- The same for the stream that this thread has deactivated when `accepted` items had been
  made. -/
  | drain (key : PersistenceKey) (accepted : Nat)
  /-- `flush_all` returns to `stop`. -/
  | stop
  deriving DecidableEq, Repr

inductive PersistenceTask
  | idle
  | returned (success : Bool)
  /-- A worker is to look for an item. -/
  | polling
  | got (item : PersistenceItem)
  | marking (item : PersistenceItem)
  /-- `_maybe_flush_due`. -/
  | checking
  /-- The first of the batches is to be written. -/
  | writing (batches : List Batch) (success : Bool) (after : AfterWrite)
  /-- It is written under the write lock of its key. -/
  | locked (batch : Batch) (format : SaveFormat) (rest : List Batch) (success : Bool)
    (after : AfterWrite)
  /-- The lock is left; the batch is to be counted. -/
  | written (batch : Batch) (writeOk : Bool) (rest : List Batch) (success : Bool)
    (after : AfterWrite)
  /-- `wait_stream_idle`, once the stream has been deactivated. -/
  | draining (key : PersistenceKey) (accepted : Nat)
  /-- `flush_stream` is to look into the buffer. -/
  | flushing (key : PersistenceKey) (after : AfterWrite)
  /-- The buffer was empty: the write lock is taken and left. -/
  | passing (key : PersistenceKey) (after : AfterWrite)
  /-- The stream is deactivated, was idle, and has been flushed. -/
  | drained (key : PersistenceKey) (accepted : Nat)
  /-- `stop` waits for the queue to be empty. -/
  | joining
  /-- `stop` waits for the workers. -/
  | shutting (success : Bool)
  deriving DecidableEq, Repr

/-- A thread of the executor. -/
def PersistenceTask.works : PersistenceTask → Bool
  | .polling | .got _ | .marking _ | .checking => true
  | .writing _ _ after | .locked _ _ _ _ after | .written _ _ _ _ after =>
    match after with
    | .mark _ | .poll => true
    | _ => false
  | _ => false

structure Persistence where
  states : Dict PersistenceKey PersistenceState := .empty
  running : Bool := false
  /-- `_executor` is there. -/
  executor : Bool := false
  /-- The workers that are submitted, and have not begun. -/
  submitted : Nat := 0
  stopEvent : Bool := false
  queue : List PersistenceItem := []
  /-- The items that `task_done` is still to be called for. -/
  unfinished : Nat := 0
  buffers : Dict PersistenceKey (List PersistenceItem) := .empty
  /-- Which thread holds the write lock of a key. -/
  writeLocks : PersistenceKey → Option Nat := fun _ => none
  files : PersistenceKey → List PersistenceItem := fun _ => []
  tasks : List PersistenceTask
  nextItem : Nat := 0

/-- What a step depends on: time, and the file system. -/
structure PersistenceEnv where
  timedOut : Bool := false
  /-- The buffers that are old enough, if it is time to look. -/
  due : Option (PersistenceKey → Bool) := none
  pathResolved : Bool := true
  writeOk : Bool := true

inductive PersistenceAction
  | prepare (key : PersistenceKey) (saveFormat : SaveFormat) (requestedIntervalNs : Int)
  | activate (key : PersistenceKey)
  | deactivate (key : PersistenceKey)
  | enqueue (key : PersistenceKey) (message : PersistenceMessage)
  | start
  /-- A worker begins. -/
  | work (thread : Nat)
  | stop (thread : Nat)
  | flush (thread : Nat) (key : PersistenceKey)
  /-- `deactivate_stream`, `wait_stream_idle` and `flush_stream`, one after the other. -/
  | drain (thread : Nat) (key : PersistenceKey)
  | advance (thread : Nat) (env : PersistenceEnv)

namespace Persistence

variable (s : Persistence) (key : PersistenceKey) (thread : Nat)

def goto (task : PersistenceTask) : Persistence := { s with tasks := s.tasks.set thread task }

def setLock (holder : Option Nat) : Persistence :=
  { s with writeLocks := Function.update s.writeLocks key holder }

def modifyState (f : PersistenceState → PersistenceState) : Persistence :=
  { s with states := s.states.modify key f }

/-! ## The service -/

/-- `_prepare_stream` and `prepare_events`. -/
def prepare (saveFormat : SaveFormat) (requestedIntervalNs : Int) : Persistence :=
  let interval := match key with
    | .stream _ _ => some requestedIntervalNs
    | .events _ => none
  if interval.any (· ≤ 0) then s
  else
    match s.states.get? key with
    | none =>
      { s with states := s.states.set key { saveFormat, requestedIntervalNs := interval } }
    | some state =>
      if state.enabled then s
      else
        let prepared := { state with saveFormat, requestedIntervalNs := interval }
        { s with states := s.states.set key prepared }

/-- `_mark_samples_dropped` and `_mark_events_dropped`. -/
def markDropped (count : Nat) : Persistence :=
  s.modifyState key fun state => { state with dropped := state.dropped + count }

/-- The counters of an item that the queue takes. -/
def markEnqueued : Persistence :=
  s.modifyState key fun state =>
    { state with enqueued := state.enqueued + 1, queuePending := state.queuePending + 1 }

/-- `enqueue_sample` and `enqueue_event`. -/
def enqueue (message : PersistenceMessage) : Persistence :=
  if s.running then
    match s.states.get? key with
    | none => s
    | some state =>
      if state.enabled then
        if s.queue.length < persistenceQueueMaxsize then
          { s.markEnqueued key with
            queue := s.queue ++ [{ number := s.nextItem, key, message }]
            unfinished := s.unfinished + 1
            nextItem := s.nextItem + 1 }
        else s.markDropped key 1
      else s
  else s

def start : Persistence :=
  if s.executor then s
  else { s with stopEvent := false, executor := true, running := true
                submitted := persistenceWorkers }

/-- `_mark_samples_written` and `_mark_rows_written`, `_mark_events_written`. -/
def markWritten (items : List PersistenceItem) : Persistence :=
  s.modifyState key fun state => { state with
    written := state.written + items.length
    rowsWritten := state.rowsWritten + (items.map fun item => (item.key.rows.getD []).length).sum }

/-- `_mark_item_processed` and `_mark_event_processed`, with `task_done`. -/
def markProcessed : Persistence :=
  let processed := s.modifyState key fun state =>
    { state with queuePending := state.queuePending - 1 }
  { processed with unfinished := s.unfinished - 1 }

/-! ## The writer -/

/-- The items of a buffer. -/
def buffered : List PersistenceItem := (s.buffers.get? key).getD []

/-- The buffers that are not empty, the samples first. -/
def batchesWhere (due : PersistenceKey → Bool) : List Batch :=
  let batches := s.buffers.entries.filter fun e => due e.1 && !e.2.isEmpty
  (batches.filter fun e => match e.1 with | .stream _ _ => true | .events _ => false) ++
    batches.filter fun e => match e.1 with | .stream _ _ => false | .events _ => true

/-- The batches are taken out of the buffers, to be written. -/
def takeBatches (due : PersistenceKey → Bool) (after : AfterWrite) : Persistence :=
  { s with buffers := s.buffers.mapVals fun key items => if due key then [] else items }.goto
    thread (.writing (s.batchesWhere due) true after)

/-- `_buffer_sample`, and the end of `process_event_item`. -/
def bufferItem (item : PersistenceItem) : Persistence :=
  let items := s.buffered item.key ++ [item]
  if persistenceBatchSamples ≤ items.length then
    { s with buffers := s.buffers.set item.key [] }.goto thread
      (.writing [(item.key, items)] true (.mark item))
  else { s with buffers := s.buffers.set item.key items }.goto thread (.marking item)

/-- `process_item` and `process_event_item`. -/
def processItem (item : PersistenceItem) : Persistence :=
  match item.normalize with
  | .ok (some _) => s.bufferItem thread item
  | .ok none | .error _ => (s.markDropped item.key 1).goto thread (.marking item)

/-- The write lock is taken when it is free. -/
def lockBatch (batch : Batch) (format : SaveFormat) (rest : List Batch) (success : Bool)
    (after : AfterWrite) : Persistence :=
  match s.writeLocks batch.1 with
  | some _ => s
  | none => (s.setLock batch.1 (some thread)).goto thread (.locked batch format rest success after)

/-- `_write_batch` and `_write_event_batch`, to the lock. -/
def writeBatch (batch : Batch) (rest : List Batch) (success : Bool) (after : AfterWrite)
    (pathResolved : Bool) : Persistence :=
  if batch.2.isEmpty then s.goto thread (.writing rest success after)
  else
    match s.states.get? batch.1 with
    | none => s.goto thread (.writing rest false after)
    | some state =>
      match batch.1 with
      | .stream _ _ => s.lockBatch thread batch state.saveFormat rest success after
      | .events _ =>
        match state.saveFormat with
        | .parquet => s.goto thread (.written batch false rest success after)
        | .csv =>
          if pathResolved then s.lockBatch thread batch .csv rest success after
          -- the path is `None`: the events are not counted
          else s.goto thread (.writing rest false after)

/-- What the write comes to, under the lock. Only CSV is implemented. -/
def endWrite (batch : Batch) (format : SaveFormat) (rest : List Batch) (success : Bool)
    (after : AfterWrite) (writeOk : Bool) : Persistence :=
  let s := s.setLock batch.1 none
  if format = .csv ∧ writeOk then
    { s with files := Function.update s.files batch.1 (s.files batch.1 ++ batch.2) }.goto thread
      (.written batch true rest success after)
  else s.goto thread (.written batch false rest success after)

def countBatch (batch : Batch) (writeOk : Bool) (rest : List Batch) (success : Bool)
    (after : AfterWrite) : Persistence :=
  if writeOk then
    (s.markWritten batch.1 batch.2).goto thread (.writing rest success after)
  else (s.markDropped batch.1 batch.2.length).goto thread (.writing rest false after)

/-- All batches are written. -/
def finish (success : Bool) : AfterWrite → Persistence
  | .mark item => s.goto thread (.marking item)
  | .poll => s.goto thread .polling
  | .flush => s.goto thread (.returned success)
  | .drain key accepted =>
    if success then s.goto thread (.drained key accepted) else s.goto thread (.returned false)
  | .stop => { s with stopEvent := true }.goto thread (.shutting success)

/-! ## Steps -/

/-- The top of `_worker_loop`. -/
def poll (timedOut : Bool) : Persistence :=
  if s.stopEvent then s.goto thread .idle
  else
    match s.queue with
    | item :: queue => { s with queue }.goto thread (.got item)
    | [] => if timedOut then s.goto thread .checking else s

def advanceTask (env : PersistenceEnv) : PersistenceTask → Persistence
  | .idle | .returned _ | .drained _ _ => s
  | .polling => s.poll thread env.timedOut
  | .got item => s.processItem thread item
  | .marking item => (s.markProcessed item.key).goto thread .checking
  | .checking =>
    match env.due with
    | some due => s.takeBatches thread due .poll
    | none => s.goto thread .polling
  | .writing [] success after => s.finish thread success after
  | .writing (batch :: rest) success after =>
    s.writeBatch thread batch rest success after env.pathResolved
  | .locked batch format rest success after =>
    s.endWrite thread batch format rest success after env.writeOk
  | .written batch writeOk rest success after =>
    s.countBatch thread batch writeOk rest success after
  | .draining key accepted =>
    match s.states.get? key with
    | none => s.goto thread (.returned false)
    | some state =>
      if state.queuePending = 0 then s.goto thread (.flushing key (.drain key accepted))
      else if env.timedOut then s.goto thread (.returned false)
      else s
  | .flushing key after =>
    if (s.buffered key).isEmpty then s.goto thread (.passing key after)
    else { s with buffers := s.buffers.set key [] }.goto thread
      (.writing [(key, s.buffered key)] true after)
  | .passing key after =>
    match s.writeLocks key with
    | some _ => s
    | none => s.finish thread true after
  | .joining => if s.unfinished = 0 then s.takeBatches thread (fun _ => true) .stop else s
  | .shutting success =>
    if s.submitted = 0 ∧ s.tasks.all (!·.works) then
      { s with executor := false }.goto thread (.returned success)
    else s

/-- The thread is free for a call. -/
def isFree : Bool :=
  match s.tasks[thread]? with
  | some .idle | some (.returned _) | some (.drained _ _) => true
  | _ => false

def deactivate : Persistence := s.modifyState key fun state => { state with enabled := false }

def step : PersistenceAction → Persistence
  | .prepare key saveFormat requestedIntervalNs => s.prepare key saveFormat requestedIntervalNs
  | .activate key => s.modifyState key fun state => { state with enabled := true }
  | .deactivate key => s.deactivate key
  | .enqueue key message => s.enqueue key message
  | .start => s.start
  | .work thread =>
    if s.isFree thread ∧ 0 < s.submitted then
      { s with submitted := s.submitted - 1 }.goto thread .polling
    else s
  | .stop thread =>
    if s.isFree thread then
      if s.executor then { s with running := false }.goto thread .joining
      else { s with running := false }.goto thread (.returned true)
    else s
  | .flush thread key => if s.isFree thread then s.goto thread (.flushing key .flush) else s
  | .drain thread key =>
    if s.isFree thread ∧ (s.states.contains key) then
      (s.deactivate key).goto thread (.draining key s.nextItem)
    else s
  | .advance thread env =>
    match s.tasks[thread]? with
    | some task => s.advanceTask thread env task
    | none => s

end Persistence

end MultiDAQ.Server
