import MultiDAQ.Client.HvCommands

/-!
# The safe state of the client

`ClientRunTime.enter_safe_state` (`client/core/client_runtime.py`) and what it calls. The RC and HV
commands are executed by the worker threads of their services; the caller waits for an answer for a
limited time. What these threads and the hardware do during one call is a `SafeStateEnv`.
-/

namespace MultiDAQ.Client

open MultiDAQ.Lib MultiDAQ.Lib.Interaction

inductive AcqMode
  | test
  | calibration
  | multipmt
  deriving DecidableEq, Repr

/-- The parts of `ClientRunTime` that the safe state reads or changes. -/
structure ClientRuntime where
  hvService : Option HvService
  /-- `rc_service is not None`. -/
  rcService : Bool
  acqMode : Option AcqMode
  /-- `_safe_state_lock` is held. -/
  safeStateLocked : Bool := false
  deriving DecidableEq, Repr

/-! ## Commands to the services -/

inductive RcCommand
  | writeRegister (address value : Nat)
  | acqStart
  deriving DecidableEq, Repr

/-- The three places that send RC commands. -/
inductive RcPhase
  | first
  | link
  | last
  deriving DecidableEq, Repr

/-- What becomes of a request to the HV service: the worker takes it up after its deadline, it does
not answer in time, or it answers. When it does not answer in time it has made `issued` of the calls
of the command by the time the safe state returns. -/
inductive Delivery
  | expired
  | late (issued : Nat)
  | answered
  deriving DecidableEq, Repr

/-- The threads and the hardware during one call of `enter_safe_state`. -/
structure SafeStateEnv where
  /-- `stop_acq_check` returns; otherwise it raises. -/
  acqCheckStops : Bool
  rc : RcPhase → RcCommand → MessageStatus
  /-- What `evproducer.stop` returns; nothing if it raises. -/
  producerStop : Option Bool
  off : Delivery
  offBus : HvBus
  /-- What other requests make of the lists between the two HV commands. -/
  meanwhile : HvLists → HvLists
  forceOff : Delivery
  forceOffBus : HvBus

/-- A request that the worker executes: its answer, the service afterwards, and the calls it makes. -/
def HvService.execute (s : HvService) (request : HvRequest) (bus : HvBus) :
    HvResponse × HvService × List HvCall :=
  match executeResponse s.hvPolicy request bus { state := s.hv } with
  | (.ok response, w) => (response, { s with hv := w.state }, w.calls)
  | (.error e, w) => ({ status := .error, error := some e }, { s with hv := w.state }, w.calls)

/-- `_submit_command`: the answer the caller gets, the service, and the calls made for the request
before the caller returns. -/
def HvService.submitCommand (s : HvService) (request : HvRequest) (bus : HvBus) :
    Delivery → HvResponse × HvService × List HvCall
  | .expired =>
    ({ status := .error, error := some "HV request expired before execution" }, s, [])
  | .late issued =>
    let (_, s', calls) := s.execute request bus
    ({ status := .error, error := some "HV request timeout" }, s', calls.take issued)
  | .answered => s.execute request bus

namespace SafeState

def firstRegisters : List Nat := [19, 15]

def lastRegisters : List Nat := [1, 0, 39, 16, 18]

/-- `zero_rc_registers_on_shutdown`: every register is written, and all writes must succeed. -/
def zeroRcRegisters (env : SafeStateEnv) (phase : RcPhase) (registers : List Nat) : Bool :=
  registers.all fun address => env.rc phase (.writeRegister address 0) = .ok

/-- `_open_hv_link`. -/
def openHvLink (env : SafeStateEnv) (rt : ClientRuntime) : Bool :=
  rt.rcService && [RcCommand.writeRegister 19 0, .acqStart].all fun c => env.rc .link c = .ok

/-- The forced power-off of the channels that `hv_off_and_wait` skipped. -/
def forceSkippedOff (env : SafeStateEnv) (s : HvService) (skipped : List Int) :
    Bool × HvService × List HvCall :=
  let (response, s', calls) :=
    s.submitCommand (.hvForceOff (.list skipped)) env.forceOffBus env.forceOff
  (response.status = .ok && response.result.failedChannels = [], s', calls)

/-- The HV part: whether it succeeded, the service, and the calls made for it. -/
def switchHvOff (env : SafeStateEnv) (s : HvService) : Bool × HvService × List HvCall :=
  let (response, s', calls) := s.submitCommand (.hvOffAndWait .all) env.offBus env.off
  if response.status ≠ .ok then (false, s', calls)
  else if response.result.skippedChannels = [] then (true, s', calls)
  else
    let (success, s'', forced) := forceSkippedOff env { s' with hv := env.meanwhile s'.hv }
      response.result.skippedChannels
    (success, s'', calls ++ forced)

/-- The steps of the safe state, with the lock held. -/
def runSteps (env : SafeStateEnv) (rt : ClientRuntime) : Bool × ClientRuntime × List HvCall :=
  let firstZeroed := rt.rcService && zeroRcRegisters env .first firstRegisters
  let stopped := env.producerStop = some true
  let lastZeroed := !rt.rcService || zeroRcRegisters env .last lastRegisters
  match rt.hvService with
  | some s =>
    let (off, s', calls) := switchHvOff env s
    (env.acqCheckStops && firstZeroed && stopped && openHvLink env rt && off && lastZeroed,
      { rt with hvService := some s', acqMode := some .test }, calls)
  -- without a HV service the HV is left as it is, which is no failure
  | none => (firstZeroed && stopped && lastZeroed, { rt with acqMode := some .test }, [])

end SafeState

/-- `enter_safe_state`: whether every step succeeded, the runtime, and the HV calls made for it. A
second call while one is running does nothing. -/
def enterSafeState (env : SafeStateEnv) (rt : ClientRuntime) : Bool × ClientRuntime × List HvCall :=
  if rt.safeStateLocked then (true, rt, []) else SafeState.runSteps env rt

end MultiDAQ.Client
