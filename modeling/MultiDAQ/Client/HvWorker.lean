import MultiDAQ.Client.HvCommands
import Mathlib.Data.List.Sort
import Mathlib.Logic.Function.Basic

/-!
# The threads of the HV service

`HVService` (`client/hardware/hv/hv_service.py`): the worker takes one request after the other off
the priority queue, the check loops put their periodic checks there, and the handlers of the client
their own requests. A step is what one thread does under one lock, or from one access to shared data
to the next. The commands of the interface run as a whole: the lock of the Modbus line keeps them
apart. A thread that is stopped takes no more steps.
-/

namespace MultiDAQ.Client

open MultiDAQ.Lib MultiDAQ.Lib.Interaction

inductive HvMessagePriority
  | emergency
  | control
  | acquisition
  | monitoring
  deriving DecidableEq, Repr

def HvMessagePriority.value : HvMessagePriority → Nat
  | .emergency => 0
  | .control => 1
  | .acquisition => 2
  | .monitoring => 3

/-- The periodic checks. Each kind has a flag of its own. -/
inductive CheckKind
  | safety
  | power
  | recovery
  | acquisition
  deriving DecidableEq, Repr

def HvRequest.checkKind : HvRequest → Option CheckKind
  | .checkChannelSafety _ => some .safety
  | .checkChannelPower _ => some .power
  | .checkRecoveryBad => some .recovery
  | .checkChannelAcquisition _ => some .acquisition
  | _ => none

/-- What the handlers of the client ask for: any command but the periodic checks, which have no
message type and are put in the queue by the check loops alone. -/
abbrev ClientRequest := { request : HvRequest // request.checkKind = none }

/-- An entry of the priority queue. Times are in seconds. -/
structure HvQueued where
  priority : HvMessagePriority
  counter : Nat
  request : HvRequest
  deadline : Rat
  deriving DecidableEq

/-- The order of the entries `(priority, counter, request)`. No two have the same counter. -/
def HvQueued.before (a b : HvQueued) : Prop :=
  a.priority.value < b.priority.value ∨
    a.priority.value = b.priority.value ∧ a.counter ≤ b.counter

instance : DecidableRel HvQueued.before := fun a b =>
  inferInstanceAs (Decidable (a.priority.value < b.priority.value ∨
    a.priority.value = b.priority.value ∧ a.counter ≤ b.counter))

/-- Where the worker is with a request. -/
inductive HvWorker
  | waiting
  | taken (item : HvQueued)
  /-- `_is_command_allowed` has found that the policy is not full control. -/
  | asking (item : HvQueued)
  /-- The command is allowed, and its handler runs. -/
  | executing (item : HvQueued)
  /-- The request is answered, and `finally` is still to run. -/
  | ending (item : HvQueued)
  deriving DecidableEq

def HvWorker.items : HvWorker → List HvQueued
  | .waiting => []
  | .taken item | .asking item | .executing item | .ending item => [item]

structure HvThreads where
  service : HvService
  inputQueue : List HvQueued := []
  counter : Nat := 0
  worker : HvWorker := .waiting
  /-- `safety_check_pending`, `power_check_pending`, `recovery_check_pending` and
  `check_acquisition_channels_pending`. -/
  pending : CheckKind → Bool := fun _ => false
  lastPowerCheck : Rat := 0
  lastRecoveryCheck : Rat := 0
  lastAcquisitionCheck : Rat := 0

/-- A step with what the thread finds: the time, the channels it has read from the lists before, the
answers of the boards. -/
inductive HvAction
  | submit (priority : HvMessagePriority) (request : ClientRequest) (deadline : Rat)
  | startCheck (now : Rat)
  | startAcqCheck (now : Rat)
  | safetyCheck (now : Rat) (channelsToCheck : List Int)
  | powerCheck (now : Rat) (channelsToCheckPower : List Int)
  | recoveryCheck (now : Rat) (badChannels : List Int)
  | acquisitionCheck (now : Rat) (channelsToCheck : List Int) (acqInfo : Option HV.AcqInfo)
  | setPolicy (hvPolicy : HvPolicy)
  | setFixedBadChannels (channels : List Int) (bus : HvBus)
  | checkMissingSerial (bus : HvBus)
  /-- The worker goes on. -/
  | next (now : Rat) (bus : HvBus)

namespace HvThreads

def safetyCheckDeadline : Rat := 30

def recoveryCheckPeriod : Rat := 300

def recoveryCheckDeadline : Rat := 30

def powerCheckPeriod : Rat := 300

def checkChannelsAcquisitionPeriod : Rat := 600

def acquisitionCheckDeadline : Rat := 120

variable (s : HvThreads)

/-- `input_queue.put`, with the next value of the counter. -/
def put (priority : HvMessagePriority) (request : HvRequest) (deadline : Rat) : HvThreads :=
  { s with
    inputQueue := s.inputQueue.orderedInsert HvQueued.before
      { priority, counter := s.counter, request, deadline }
    counter := s.counter + 1 }

/-- Sets the flag of a check and puts its request in the queue. -/
def putCheck (kind : CheckKind) (priority : HvMessagePriority) (request : HvRequest)
    (deadline : Rat) : HvThreads :=
  { s.put priority request deadline with pending := Function.update s.pending kind true }

/-! ## The check loops -/

def safetyCheck (now : Rat) (channelsToCheck : List Int) : HvThreads :=
  if channelsToCheck ≠ [] ∧ !s.pending .safety then
    s.putCheck .safety .emergency (.checkChannelSafety channelsToCheck)
      (now + safetyCheckDeadline)
  else s

def powerCheck (now : Rat) (channelsToCheckPower : List Int) : HvThreads :=
  if channelsToCheckPower ≠ [] ∧ powerCheckPeriod < now - s.lastPowerCheck ∧
      !s.pending .power then
    { s.putCheck .power .monitoring (.checkChannelPower channelsToCheckPower)
        (now + safetyCheckDeadline) with
      lastPowerCheck := now }
  else s

def recoveryCheck (now : Rat) (badChannels : List Int) : HvThreads :=
  if badChannels ≠ [] ∧ recoveryCheckPeriod < now - s.lastRecoveryCheck ∧
      !s.pending .recovery then
    { s.putCheck .recovery .monitoring .checkRecoveryBad (now + recoveryCheckDeadline) with
      lastRecoveryCheck := now }
  else s

/-- The time of the last check moves on even if one is pending. -/
def acquisitionCheck (now : Rat) (channelsToCheck : List Int) (acqInfo : Option HV.AcqInfo) :
    HvThreads :=
  if channelsToCheck ≠ [] ∧ checkChannelsAcquisitionPeriod < now - s.lastAcquisitionCheck then
    if s.pending .acquisition then { s with lastAcquisitionCheck := now }
    else
      { s.putCheck .acquisition .monitoring (.checkChannelAcquisition acqInfo)
          (now + acquisitionCheckDeadline) with
        lastAcquisitionCheck := now }
  else s

/-! ## The worker -/

/-- The part of `_execute_response` that runs an allowed command. -/
def respond (request : HvRequest) : HvM HvResponse :=
  tryExcept (HV.handle request) fun e => pure { status := .error, error := some e }

/-- The flags that the `finally` of `_worker_loop` clears. -/
def clearedBy : HvRequest → Option CheckKind
  | .checkChannelSafety _ => some .safety
  | .checkRecoveryBad => some .recovery
  | .checkChannelPower _ => some .power
  | _ => none

/-- The `finally` of `_worker_loop`. -/
def close (item : HvQueued) : HvThreads :=
  { s with
    worker := .waiting
    pending := match clearedBy item.request with
      | some kind => Function.update s.pending kind false
      | none => s.pending }

/-- The next step of `_worker_loop`. -/
def next (now : Rat) (bus : HvBus) : HvThreads × List HvCall :=
  match s.worker with
  | .waiting =>
    match s.inputQueue with
    | [] => (s, [])
    | item :: rest => ({ s with worker := .taken item, inputQueue := rest }, [])
  | .taken item =>
    if item.deadline < now then ({ s with worker := .ending item }, [])
    else if s.service.hvPolicy = .fullControl then ({ s with worker := .executing item }, [])
    else ({ s with worker := .asking item }, [])
  | .asking item =>
    -- the policy is read again: under any other one nothing is allowed
    if s.service.hvPolicy = .monitorOnly ∧ HvPolicy.monitorOnly.allows item.request then
      ({ s with worker := .executing item }, [])
    else ({ s with worker := .ending item }, [])
  | .executing item =>
    let w := (respond item.request bus { state := s.service.hv }).2
    ({ s with service := { s.service with hv := w.state }, worker := .ending item }, w.calls)
  | .ending item => (s.close item, [])

/-- An operation of the interface that is not asked of the worker. -/
def direct (operation : HvStep) (bus : HvBus) : HvThreads × List HvCall :=
  let r := s.service.step (operation, bus)
  ({ s with service := r.1 }, r.2)

/-- A step, with the calls it makes on the line. -/
def step : HvAction → HvThreads × List HvCall
  | .submit priority request deadline => (s.put priority request.1 deadline, [])
  | .startCheck now => ({ s with lastRecoveryCheck := now, lastPowerCheck := now }, [])
  | .startAcqCheck now => ({ s with lastAcquisitionCheck := now }, [])
  | .safetyCheck now channels => (s.safetyCheck now channels, [])
  | .powerCheck now channels => (s.powerCheck now channels, [])
  | .recoveryCheck now channels => (s.recoveryCheck now channels, [])
  | .acquisitionCheck now channels acqInfo => (s.acquisitionCheck now channels acqInfo, [])
  | .setPolicy hvPolicy => ({ s with service := { s.service with hvPolicy } }, [])
  | .setFixedBadChannels channels bus => s.direct (.setFixedBadChannels channels) bus
  | .checkMissingSerial bus => s.direct .checkMissingSerial bus
  | .next now bus => s.next now bus

end HvThreads

end MultiDAQ.Client
