import MultiDAQ.Receiver.Threads

/-!
# The steps of the receiver threads

`step_cases` says once what a step can do: `Takes s a s' e` lists the enabled actions, each with what
it was enabled by, the state after it and its event.
-/

namespace MultiDAQ.Receiver

open MultiDAQ.Lib

namespace ReceiverThreads

inductive Takes (s : ReceiverThreads) (a : Action) : ReceiverThreads → ThreadEvent → Prop
  | unchanged : Takes s a s .none
  | scheduled {id : Bytes} {slots : DelayedCloses} (listener : s.listener = .polling)
      (scheduling : s.delayedCloses.scheduleDelayedClose id (workerOf id) s.now =
        .scheduled slots) :
      Takes s a { s with delayedCloses := slots } (.scheduled id)
  | accepted {r : QueueRequest} (listener : s.listener = .polling) :
      Takes s a { s with listener := .pendingClose r } .none
  | pendingChecked {r : QueueRequest} (listener : s.listener = .pendingClose r)
      (pending : s.keepRunning = true → s.delayedCloses.hasPendingClose r.id = false) :
      Takes s a { s with listener := .queueing r } .none
  | listenerStops {r : QueueRequest} (listener : s.listener = .queueing r)
      (keepRunning : s.keepRunning = false) :
      Takes s a { s with listener := .stopped } .none
  | ackBegins {r : QueueRequest} (listener : s.listener = .queueing r) (ready : r.ready = true) :
      Takes s a { s with
          openAck := s.openAck.beginOpenAck.2
          listener := .begun r s.openAck.beginOpenAck.1 }
        (.ackBegun s.openAck.beginOpenAck.1)
  | noAck {r : QueueRequest} (listener : s.listener = .queueing r) (ready : r.ready = false) :
      Takes s a { s with listener := .begun r 0 } .none
  | queues {r : QueueRequest} {token : UInt64} (listener : s.listener = .begun r token) :
      Takes s a { s.push (workerOf r.id) (r.queuedItem token) with
          listener := if r.ready then .waitingAck token else .polling }
        (.queued (workerOf r.id) (r.queuedItem token))
  | ackReturns {token : UInt64} (listener : s.listener = .waitingAck token) :
      Takes s a { s with openAck := (s.openAck.waitOpenAck token).2, listener := .polling }
        (.ackReturned token (s.openAck.waitOpenAck token).1)
  | closeStops (keepRunning : s.keepRunning = false)
      (closeWorker : ∀ i, s.closeWorker ≠ .clearing i) :
      Takes s a { s with closeWorker := .stopped } .none
  | closeSelected {i : Nat} {c : DelayedClose} (closeWorker : s.closeWorker = .scanning)
      (nearest : DelayedCloses.nearest 0 s.delayedCloses none = some (i, c))
      (due : c.deadline ≤ s.now) :
      Takes s a { s with closeWorker := .queueing i c } .none
  | closeQueued {i : Nat} {c : DelayedClose} (closeWorker : s.closeWorker = .queueing i c) :
      Takes s a { s.push c.workerIdx { item := .closing, sourceId := c.sourceId } with
          closeWorker := .clearing i }
        (.delayedCloseQueued c.workerIdx { item := .closing, sourceId := c.sourceId })
  | closeCleared {i : Nat} (closeWorker : s.closeWorker = .clearing i) :
      Takes s a (s.closeCleared i) .none
  | batchTaken {worker : Nat} (batch : s.batches worker = []) :
      Takes s a { s with
          queues := Function.update s.queues worker ((s.queues worker).drop processBatchSize)
          batches := Function.update s.batches worker
            ((s.queues worker).take processBatchSize) } .none
  | handled {worker : Nat} {item : QueuedItem} {rest : List QueuedItem} {ok : Bool}
      (batch : s.batches worker = item :: rest) :
      Takes s a { s with
          batches := Function.update s.batches worker rest
          openAck := s.openAck.completeOpenAck item.openRequest ok }
        (.handled worker item ok)
  | dataQueued {identity : Bytes} :
      Takes s a (s.push (workerOf identity) { item := .data, sourceId := cString identity })
        (.queued (workerOf identity) { item := .data, sourceId := cString identity })
  | clock {now : Nat} (action : a = .clock now) : Takes s a { s with now := now } .none
  | stop (action : a = .stop) : Takes s a { s with keepRunning := false } .none

variable {s : ReceiverThreads} {a : Action}

theorem request_cases (r : Request) (h : s.listener = .polling) :
    s.Takes a (s.request r).1 (s.request r).2 := by
  cases r with
  | close id =>
    unfold request
    dsimp only
    cases hs : s.delayedCloses.scheduleDelayedClose id (workerOf id) s.now with
    | scheduled slots => exact .scheduled h hs
    | _ => exact .unchanged
  | queue r => exact .accepted h

theorem pendingChecked_cases (r : QueueRequest) (h : s.listener = .pendingClose r) :
    s.Takes a (s.pendingChecked r) .none := by
  unfold pendingChecked
  split
  next => exact .unchanged
  next hpending => exact .pendingChecked h fun hk => by simpa [hk] using hpending

theorem ackBegins_cases (r : QueueRequest) (h : s.listener = .queueing r) :
    s.Takes a (s.ackBegins r).1 (s.ackBegins r).2 := by
  unfold ackBegins
  split
  next hk => exact .listenerStops h (by simpa using hk)
  next =>
    split
    next => exact .unchanged
    next =>
      split
      next hready => exact .ackBegins h hready
      next hready => exact .noAck h (by simpa using hready)

theorem closeSelected_cases (h : s.closeWorker = .scanning) : s.Takes a s.closeSelected .none := by
  unfold closeSelected
  split
  next hk => exact .closeStops (by simpa using hk) fun i => by rw [h]; nofun
  next =>
    split
    next => exact .unchanged
    next i c hnearest =>
      split
      next => exact .unchanged
      next hdue => exact .closeSelected h hnearest (Nat.le_of_not_lt hdue)

theorem closeQueued_cases {i : Nat} {c : DelayedClose} (h : s.closeWorker = .queueing i c) :
    s.Takes a (s.closeQueued i c).1 (s.closeQueued i c).2 := by
  unfold closeQueued
  split
  next hk => exact .closeStops (by simpa using hk) fun i => by rw [h]; nofun
  next =>
    split
    next => exact .unchanged
    next => exact .closeQueued h

theorem step_cases (s : ReceiverThreads) (a : Action) : s.Takes a (s.step a).1 (s.step a).2 := by
  unfold step
  cases a with
  | request r =>
    dsimp only
    split
    next h => exact request_cases r h
    next => exact .unchanged
  | pendingChecked =>
    dsimp only
    split
    next r h => exact pendingChecked_cases r h
    next => exact .unchanged
  | ackBegins =>
    dsimp only
    split
    next r h => exact ackBegins_cases r h
    next => exact .unchanged
  | queues =>
    dsimp only
    split
    next r token h => exact .queues h
    next => exact .unchanged
  | ackReturns =>
    dsimp only
    split
    next token h => exact .ackReturns h
    next => exact .unchanged
  | closeSelected =>
    dsimp only
    split
    next h => exact closeSelected_cases h
    next => exact .unchanged
  | closeQueued =>
    dsimp only
    split
    next i c h => exact closeQueued_cases h
    next => exact .unchanged
  | closeCleared =>
    dsimp only
    split
    next i h => exact .closeCleared h
    next => exact .unchanged
  | batchTaken worker =>
    dsimp only
    unfold batchTaken
    split
    next h => exact .batchTaken h.2.1
    next => exact .unchanged
  | itemHandled worker ok =>
    dsimp only
    unfold itemHandled
    split
    next => exact .unchanged
    next item rest h => exact .handled h
  | dataQueued identity =>
    dsimp only
    unfold dataQueued
    dsimp only
    split
    · exact .dataQueued
    · exact .unchanged
  | clock now => exact .clock rfl
  | stop => exact .stop rfl

end ReceiverThreads

end MultiDAQ.Receiver
