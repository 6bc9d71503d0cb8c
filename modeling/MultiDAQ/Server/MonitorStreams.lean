import MultiDAQ.Lib.Run
import MultiDAQ.Server.State
import Mathlib.Logic.Function.Basic

/-!
# The subscriptions to the sample streams

`MonitorStreamService` (`server/services/monitor_stream_service.py`). A stream belongs to a client
and a section. Its consumers ask for intervals, and its producer, which runs on the client, is told
the smallest of them. The state of the streams is kept under one lock. A call that changes the
consumers of a stream also holds the producer lock of the stream, while it waits for the client to
answer; a sample that arrives meanwhile is delivered all the same.

The calls run in threads. A step of a thread is what it does under the lock of the state.
-/

namespace MultiDAQ.Server

open MultiDAQ.Lib

/-- `Channel` (`common/message_handler.py`). -/
inductive Channel
  | system
  | rc
  | hv
  | main
  | monitoring
  | acquisition
  deriving DecidableEq, Repr

/-- `client_id` and `section`. -/
abbrev StreamKey := ClientId × Channel

inductive StreamProducerAction
  | none
  | start
  | reconfigure
  | stop
  deriving DecidableEq, Repr

/-! ## Subscriptions -/

structure StreamSubscription where
  consumerId : String
  requestedIntervalNs : Int
  nextDeliveryNs : Int
  interval_pos : 0 < requestedIntervalNs
  deriving DecidableEq

namespace StreamSubscription

/-- The loop that moves the next delivery past `nowNs`. -/
def skipTo (intervalNs nowNs : Int) (h : 0 < intervalNs) (nextNs : Int) : Int :=
  if nextNs ≤ nowNs then skipTo intervalNs nowNs h (nextNs + intervalNs) else nextNs
termination_by (nowNs + 1 - nextNs).toNat
decreasing_by omega

variable (sub : StreamSubscription)

def isDue (nowNs : Int) : Bool := !(nowNs < sub.nextDeliveryNs)

/-- What a sample that arrives at `nowNs` does to a subscription. -/
def deliver (nowNs : Int) : StreamSubscription :=
  if sub.isDue nowNs then
    { sub with
      nextDeliveryNs := skipTo sub.requestedIntervalNs nowNs sub.interval_pos sub.nextDeliveryNs }
  else sub

end StreamSubscription

/-! ## Streams -/

structure MonitorStreamState where
  key : StreamKey
  active : Bool := false
  desiredProducerIntervalNs : Option Int := none
  activeProducerIntervalNs : Option Int := none
  consumers : Dict String StreamSubscription := Dict.empty
  deriving DecidableEq

structure StreamUpdateResult where
  key : StreamKey
  oldDesiredProducerIntervalNs : Option Int
  newDesiredProducerIntervalNs : Option Int
  active : Bool
  action : StreamProducerAction
  deriving DecidableEq

/-- `_determine_producer_action_locked`. -/
def determineProducerAction (active : Bool) (activeIntervalNs desiredIntervalNs : Option Int) :
    StreamProducerAction :=
  if !active ∧ desiredIntervalNs ≠ none then .start
  else if active ∧ desiredIntervalNs = none then .stop
  else if active ∧ desiredIntervalNs = activeIntervalNs then .none
  else if active ∧ desiredIntervalNs ≠ activeIntervalNs then .reconfigure
  else .none

namespace MonitorStreamState

variable (stream : MonitorStreamState)

/-- `_compute_producer_interval_ns_locked`. -/
def computeProducerIntervalNs : Option Int :=
  (stream.consumers.entries.map fun e => e.2.requestedIntervalNs).min?

/-- The update of the desired interval that follows a change of the consumers. -/
def withConsumers (key : StreamKey) (consumers : Dict String StreamSubscription) :
    MonitorStreamState × StreamUpdateResult :=
  let changed := { stream with consumers }
  let new := { changed with desiredProducerIntervalNs := changed.computeProducerIntervalNs }
  (new, {
    key
    oldDesiredProducerIntervalNs := stream.desiredProducerIntervalNs
    newDesiredProducerIntervalNs := new.desiredProducerIntervalNs
    active := new.active
    action := determineProducerAction new.active new.activeProducerIntervalNs
      new.desiredProducerIntervalNs })

/-- What reconciliation asks of the producer. -/
def reconciliation (key : StreamKey) : StreamUpdateResult where
  key
  oldDesiredProducerIntervalNs := stream.desiredProducerIntervalNs
  newDesiredProducerIntervalNs := stream.desiredProducerIntervalNs
  active := stream.active
  action := determineProducerAction stream.active stream.activeProducerIntervalNs
    stream.desiredProducerIntervalNs

def deliver (nowNs : Int) : MonitorStreamState :=
  { stream with consumers := stream.consumers.mapVals fun _ sub => sub.deliver nowNs }

end MonitorStreamState

/-! ## The operations under the lock -/

/-- How a call ends, or what the client answers. -/
inductive StreamOutcome
  | success
  | failure
  | raised
  deriving DecidableEq, Repr

abbrev Streamers := Dict StreamKey MonitorStreamState

namespace Streamers

variable (s : Streamers) (key : StreamKey)

/-- `add_or_update_subscription`. The interval must be positive. -/
def addOrUpdateSubscription (consumer : String) (requestedIntervalNs nowNs : Int) :
    Except StreamOutcome (Streamers × StreamUpdateResult) :=
  if h : 0 < requestedIntervalNs then
    -- `_get_or_create_stream_locked`
    let stream := (s.get? key).getD { key }
    let sub := match stream.consumers.get? consumer with
      | none =>
        { consumerId := consumer, requestedIntervalNs, nextDeliveryNs := nowNs, interval_pos := h }
      | some sub => { sub with requestedIntervalNs, nextDeliveryNs := nowNs, interval_pos := h }
    let (stream, update) := stream.withConsumers key (stream.consumers.set consumer sub)
    .ok (s.set key stream, update)
  else .error .raised

/-- `remove_subscription`. -/
def removeSubscription (consumer : String) :
    Except StreamOutcome (Streamers × StreamUpdateResult) :=
  match s.get? key with
  | none => .error .failure
  | some stream =>
    if stream.consumers.contains consumer then
      let (stream, update) := stream.withConsumers key (stream.consumers.erase consumer)
      .ok (s.set key stream, update)
    else .error .failure

/-- `_set_active_producer_state`, unless it raises. -/
def setActiveProducerState (active : Bool) (activeIntervalNs : Option Int) : Option Streamers :=
  match s.get? key with
  | none => some s
  | some stream =>
    if active = activeIntervalNs.isSome then
      some (s.set key { stream with active, activeProducerIntervalNs := activeIntervalNs })
    else none

/-- The end of `_apply_producer_action`, once the client has answered. -/
def recordAnswer (active : Bool) (activeIntervalNs : Option Int) :
    StreamOutcome → Streamers × StreamOutcome
  | .success =>
    match s.setActiveProducerState key active activeIntervalNs with
    | some s => (s, .success)
    | none => (s, .raised)
  | outcome => (s, outcome)

/-- `_apply_producer_action`. The client answers `reply`, if it is asked. -/
def applyProducerAction (update : StreamUpdateResult) (reply : StreamOutcome) :
    Streamers × StreamOutcome :=
  match update.action with
  | .none => (s, .success)
  | .start | .reconfigure =>
    match update.newDesiredProducerIntervalNs with
    | none => (s, .raised)
    | some intervalNs => s.recordAnswer update.key true (some intervalNs) reply
  | .stop => s.recordAnswer update.key false none reply

/-- `_restore_stream_state`. -/
def restoreStreamState : Option MonitorStreamState → Streamers
  | none => s.erase key
  | some previous => s.set key previous

/-- `get_due_subscriptions`. -/
def getDueSubscriptions (nowNs : Int) : Streamers × List StreamSubscription :=
  match s.get? key with
  | none => (s, [])
  | some stream =>
    (s.set key (stream.deliver nowNs),
      ((stream.consumers.entries.map Prod.snd).filter (·.isDue nowNs)).map (·.deliver nowNs))

/-- The streams that `invalidate_client_actual_state` goes through. -/
def streamsOf (clientId : ClientId) : List StreamKey :=
  (s.entries.filter fun e => e.2.key.1 = clientId).map fun e => e.2.key

/-- The streams that `reconcile_client_streams` goes through. -/
def desiredStreamsOf (clientId : ClientId) : List StreamKey :=
  (s.entries.filter fun e => e.2.key.1 = clientId ∧ e.2.desiredProducerIntervalNs ≠ none).map
    fun e => e.2.key

def invalidate : Streamers :=
  s.modify key fun stream => { stream with active := false, activeProducerIntervalNs := none }

end Streamers

/-! ## Threads -/

inductive SubscriptionCall
  | subscribe (key : StreamKey) (consumer : String) (requestedIntervalNs : Int)
  | unsubscribe (key : StreamKey) (consumer : String)
  deriving DecidableEq, Repr

def SubscriptionCall.key : SubscriptionCall → StreamKey
  | .subscribe key _ _ | .unsubscribe key _ => key

inductive StreamCall
  | subscription (call : SubscriptionCall)
  | invalidateClientActualState (clientId : ClientId)
  | reconcileClientStreams (clientId : ClientId)
  deriving DecidableEq, Repr

/-- Where a thread is. -/
inductive StreamTask
  | idle
  | called (call : StreamCall)
  /-- `previous_state` is copied. -/
  | copied (call : SubscriptionCall) (previous : Option MonitorStreamState)
  /-- The change is made, and the client is asked. -/
  | requested (call : SubscriptionCall) (previous : Option MonitorStreamState)
    (update : StreamUpdateResult)
  | invalidating (rest : List StreamKey)
  | reconciling (rest : List StreamKey) (allSuccess : Bool)
  | reconcileRequested (update : StreamUpdateResult) (rest : List StreamKey) (allSuccess : Bool)
  | returned (outcome : StreamOutcome)
  deriving DecidableEq

/-- The producer lock that the thread holds. -/
def StreamTask.holds : StreamTask → Option StreamKey
  | .copied call _ | .requested call _ _ => some call.key
  | .reconcileRequested update _ _ => some update.key
  | _ => none

structure MonitorStreams where
  streamers : Streamers := Dict.empty
  /-- Which thread holds the producer lock of a stream. -/
  producerLocks : StreamKey → Option Nat := fun _ => none
  tasks : Nat → StreamTask := fun _ => .idle

/-- `reply` is what the client answers, if it is asked in this step. -/
inductive StreamAction
  | call (thread : Nat) (call : StreamCall)
  | advance (thread : Nat) (nowNs : Int) (reply : StreamOutcome)
  /-- A sample of this stream arrives. -/
  | getDue (key : StreamKey) (nowNs : Int)
  deriving DecidableEq, Repr

namespace MonitorStreams

variable (s : MonitorStreams) (thread : Nat)

def goto (task : StreamTask) : MonitorStreams :=
  { s with tasks := Function.update s.tasks thread task }

def setLock (key : StreamKey) (holder : Option Nat) : MonitorStreams :=
  { s with producerLocks := Function.update s.producerLocks key holder }

/-- The lock is taken and the state copied. -/
def copyStream (call : SubscriptionCall) : MonitorStreams :=
  match s.producerLocks call.key with
  | some _ => s
  | none =>
    match call, s.streamers.get? call.key with
    | .unsubscribe _ _, none => s.goto thread (.returned .failure)
    | _, previous => (s.setLock call.key (some thread)).goto thread (.copied call previous)

/-- What a call does to the consumers, and what it asks of the producer. -/
def changeSubscription (s : Streamers) (nowNs : Int) :
    SubscriptionCall → Except StreamOutcome (Streamers × StreamUpdateResult)
  | .subscribe key consumer requestedIntervalNs =>
    s.addOrUpdateSubscription key consumer requestedIntervalNs nowNs
  | .unsubscribe key consumer => s.removeSubscription key consumer

/-- The thread leaves the producer lock, and its call ends. -/
def leave (key : StreamKey) (outcome : StreamOutcome) : MonitorStreams :=
  (s.setLock key none).goto thread (.returned outcome)

def changeStream (call : SubscriptionCall) (previous : Option MonitorStreamState) (nowNs : Int) :
    MonitorStreams :=
  match changeSubscription s.streamers nowNs call with
  | .error outcome => s.leave thread call.key outcome
  | .ok (streamers, update) =>
    { s with streamers }.goto thread (.requested call previous update)

/-- The client answers: a change that it does not accept is undone. -/
def endChange (call : SubscriptionCall) (previous : Option MonitorStreamState)
    (update : StreamUpdateResult) (reply : StreamOutcome) : MonitorStreams :=
  match s.streamers.applyProducerAction update reply with
  | (streamers, .success) => { s with streamers }.leave thread call.key .success
  | (streamers, _) =>
    { s with streamers := streamers.restoreStreamState call.key previous }.leave thread call.key
      .failure

def invalidateNext : List StreamKey → MonitorStreams
  | [] => s.goto thread (.returned .success)
  | key :: rest =>
    match s.producerLocks key with
    | some _ => s
    | none => { s with streamers := s.streamers.invalidate key }.goto thread (.invalidating rest)

def reconcileNext (allSuccess : Bool) : List StreamKey → MonitorStreams
  | [] => s.goto thread (.returned (if allSuccess then .success else .failure))
  | key :: rest =>
    match s.producerLocks key, s.streamers.get? key with
    | some _, _ => s
    | none, none => s.goto thread (.reconciling rest allSuccess)
    | none, some stream => (s.setLock key (some thread)).goto thread
        (.reconcileRequested (stream.reconciliation key) rest allSuccess)

def endReconcile (update : StreamUpdateResult) (rest : List StreamKey) (allSuccess : Bool)
    (reply : StreamOutcome) : MonitorStreams :=
  match s.streamers.applyProducerAction update reply with
  | (streamers, .raised) => { s with streamers }.leave thread update.key .raised
  | (streamers, outcome) => ({ s with streamers }.setLock update.key none).goto thread
      (.reconciling rest (allSuccess && decide (outcome = StreamOutcome.success)))

/-- A thread that waits for a producer lock stays where it is. -/
def advance (nowNs : Int) (reply : StreamOutcome) : MonitorStreams :=
  match s.tasks thread with
  | .idle | .returned _ => s
  | .called (.subscription call) => s.copyStream thread call
  | .copied call previous => s.changeStream thread call previous nowNs
  | .requested call previous update => s.endChange thread call previous update reply
  | .called (.invalidateClientActualState clientId) =>
    s.goto thread (.invalidating (s.streamers.streamsOf clientId))
  | .invalidating rest => s.invalidateNext thread rest
  | .called (.reconcileClientStreams clientId) =>
    s.goto thread (.reconciling (s.streamers.desiredStreamsOf clientId) true)
  | .reconciling rest allSuccess => s.reconcileNext thread allSuccess rest
  | .reconcileRequested update rest allSuccess => s.endReconcile thread update rest allSuccess reply

def step : StreamAction → MonitorStreams
  | .call thread call =>
    match s.tasks thread with
    | .idle | .returned _ => s.goto thread (.called call)
    | _ => s
  | .advance thread nowNs reply => s.advance thread nowNs reply
  | .getDue key nowNs => { s with streamers := (s.streamers.getDueSubscriptions key nowNs).1 }

end MonitorStreams

end MultiDAQ.Server
