import MultiDAQ.Client.HvWorker
import MultiDAQ.Client.SafeState

/-!
# The safe state next to the HV worker

`ClientRunTime.enter_safe_state` (`client/core/client_runtime.py`) as one of the threads of a client
that has a HV service: what it puts in the queue of the service, and how it waits for the answers of
the worker, while the other threads go on. The steps on the RC lines and on the producer enter with
whether they succeeded. All threads read the same clock, in seconds.
-/

namespace MultiDAQ.Client

open MultiDAQ.Lib MultiDAQ.Lib.Interaction

/-- The answer that the next step of the worker gives, and to which request. -/
def HvThreads.answer (s : HvThreads) (now : Rat) (bus : HvBus) : Option (HvQueued × HvResponse) :=
  match s.worker with
  | .taken item =>
    if item.deadline < now then
      some (item, { status := .error, error := some "HV request expired before execution" })
    else none
  | .asking item =>
    if s.service.hvPolicy = .monitorOnly ∧ HvPolicy.monitorOnly.allows item.request then none
    else
      let command := item.request.command
      let policy := s.service.hvPolicy.name
      some (item, {
        status := .error
        error := some s!"HV command '{command}' not allowed with policy '{policy}'" })
  | .executing item =>
    match (respond item.request bus { state := s.service.hv }).1 with
    | .ok response => some (item, response)
    | .error e => some (item, { status := .error, error := some e })
  | _ => none

/-- The action at the time of the clock. The deadline of a request is set by whoever submits it. -/
def HvAction.atTime (clock : Rat) : HvAction → HvAction
  | .startCheck _ => .startCheck clock
  | .startAcqCheck _ => .startAcqCheck clock
  | .safetyCheck _ channels => .safetyCheck clock channels
  | .powerCheck _ channels => .powerCheck clock channels
  | .recoveryCheck _ channels => .recoveryCheck clock channels
  | .acquisitionCheck _ channels acqInfo => .acquisitionCheck clock channels acqInfo
  | .next _ bus => .next clock bus
  | a => a

/-- Where a call of `enter_safe_state` is. It waits for the answer to the request with a counter, until
a time; `success` is `overall_success` so far. -/
inductive SafeStatePhase
  | idle
  | preparing
  | switchingOff (counter : Nat) (wait : Rat) (success : Bool)
  | forcingOff (counter : Nat) (wait : Rat) (success : Bool)
  | finishing (success : Bool)
  deriving DecidableEq

structure ClientThreads where
  hv : HvThreads
  clock : Rat := 0
  /-- The answers given so far, by the counter of the request. -/
  answers : Nat → Option HvResponse := fun _ => none
  safeState : SafeStatePhase := .idle
  acqMode : Option AcqMode := none

inductive ClientAction
  | elapse (time : ℚ≥0)
  | hv (action : HvAction)
  /-- A call of `enter_safe_state`. A second one while one is running returns at once. -/
  | enterSafeState
  /-- Everything before the HV off: whether the recovery worker and the producer stopped, the first
  registers were zeroed and the HV link is open. -/
  | prepare (success : Bool)
  /-- The call looks for the answer it waits for. -/
  | await
  /-- Everything after the HV off: whether the last registers were zeroed. -/
  | finish (success : Bool)

namespace ClientThreads

/-- `client_timeout("hv_off_and_wait")`. -/
def offAndWaitTimeout : Rat := 420

/-- `client_timeout("hv_force_off")`. -/
def forceOffTimeout : Rat := 90

variable (s : ClientThreads)

/-- What a step shows: the calls on the line, and what a call of `enter_safe_state` that has run its
steps returns. -/
structure Shown where
  calls : List HvCall := []
  returned : Option Bool := none

/-- An action of the HV service. An answer of the worker is kept for whoever waits for it. -/
def hvStep (action : HvAction) : ClientThreads × Shown :=
  let r := s.hv.step action
  let answers := match action with
    | .next now bus =>
      match s.hv.answer now bus with
      | some (item, response) => Function.update s.answers item.counter (some response)
      | none => s.answers
    | _ => s.answers
  ({ s with hv := r.1, answers }, { calls := r.2 })

/-- `_submit_command` with EMERGENCY priority, up to the wait for the answer. -/
def submitEmergency (request : HvRequest) (timeout : Rat)
    (phase : Nat → Rat → SafeStatePhase) : ClientThreads :=
  { s with
    hv := s.hv.put .emergency request (s.clock + timeout)
    safeState := phase s.hv.counter (s.clock + timeout) }

/-- The wait for an answer: the answer, an error when the time is over, nothing before. -/
def waited (counter : Nat) (wait : Rat) : Option HvResponse :=
  match s.answers counter with
  | some response => some response
  | none =>
    if wait ≤ s.clock then some { status := .error, error := some "HV request timeout" } else none

/-- With the answer to `hv_off_and_wait`, the channels it skipped are forced off. -/
def offAnswered (response : HvResponse) (success : Bool) : ClientThreads :=
  if response.status ≠ .ok then { s with safeState := .finishing false }
  else if response.result.skippedChannels = [] then { s with safeState := .finishing success }
  else
    s.submitEmergency (.hvForceOff (.list response.result.skippedChannels)) forceOffTimeout
      fun counter wait => .forcingOff counter wait success

def forceOffAnswered (response : HvResponse) (success : Bool) : ClientThreads :=
  { s with
    safeState := .finishing
      (success && response.status = .ok && response.result.failedChannels = []) }

def await : ClientThreads :=
  match s.safeState with
  | .switchingOff counter wait success =>
    match s.waited counter wait with
    | some response => s.offAnswered response success
    | none => s
  | .forcingOff counter wait success =>
    match s.waited counter wait with
    | some response => s.forceOffAnswered response success
    | none => s
  | _ => s

def step : ClientAction → ClientThreads × Shown
  | .elapse time => ({ s with clock := s.clock + time }, {})
  | .hv action => s.hvStep (action.atTime s.clock)
  | .enterSafeState =>
    match s.safeState with
    | .idle => ({ s with safeState := .preparing }, {})
    | _ => (s, {})
  | .prepare success =>
    match s.safeState with
    | .preparing =>
      (s.submitEmergency (.hvOffAndWait .all) offAndWaitTimeout
        fun counter wait => .switchingOff counter wait success, {})
    | _ => (s, {})
  | .await => (s.await, {})
  | .finish success =>
    match s.safeState with
    | .finishing soFar =>
      ({ s with safeState := .idle, acqMode := some .test }, { returned := some (soFar && success) })
    | _ => (s, {})

/-- A client whose HV service has just been started. -/
def started (service : HvService) (acqMode : Option AcqMode) : ClientThreads where
  hv := { service }
  acqMode := acqMode

end ClientThreads

end MultiDAQ.Client
