import MultiDAQ.Client.RcInterface
import MultiDAQ.Lib.Run

/-!
# The service of the run control

The handlers of `client/hardware/rc/rc_commands.py`, `RCService._execute_response`
(`client/hardware/rc/rc_service.py`), which one worker thread calls for one request after the other,
and `ClientRunTime._on_rc_configuration_change` (`client/core/client_runtime.py`), which it calls
back after a write of a tracked register.
-/

namespace MultiDAQ.Client

open MultiDAQ.Lib MultiDAQ.Lib.Interaction

structure RcResponse where
  status : MessageStatus
  result : RcResult := { success := false }
  deriving DecidableEq

/-- A command with its payload. An item that the payload does not have is `none`; so are channels
that `channels_definition` does not accept as an argument, for the answer is the same. -/
inductive RcOperation
  | rcAcqStart (channels : Option ChannelsArg)
  | rcBoot (channels : Option ChannelsArg)
  | rcReset (channels : Option ChannelsArg)
  | rcReadRegister (address : Option PyVal)
  | rcWriteRegister (address value : Option PyVal)
  | rcReadAcqRegisters (rcAcqRegisters : Option (List PyVal))
  | setRcAcq (rcAcqDict : Option (DictArg RcAcqDict))
  | rcFreeRateMonitoring (channels : ChannelsArg)
  | rcTrgRateMonitoring (channels : ChannelsArg)
  | rcAllRateMonitoring (channels : ChannelsArg)
  | rcFebResetAfterFlash
  | rcFebSelectAddressChange (channels : Option ChannelsArg)
  | unknown
  deriving DecidableEq

structure RcRequest where
  requestId : String
  command : RcOperation
  sender : Option String
  deriving DecidableEq

namespace RC

/-- `_make_response`. -/
def makeResponse (result : RcResult) : RcResponse :=
  { status := if result.success then .ok else .error, result := result }

def withChannels (channels : Option ChannelsArg) (action : ChannelsArg → RcM RcResult) :
    RcM RcResponse :=
  match channels with
  | none => raise "KeyError"
  | some channels => makeResponse <$> action channels

def commandReadRegister (address : Option PyVal) : RcM RcResponse :=
  match address with
  | none => pure { status := .error }
  | some address => makeResponse <$> readRegister address

def commandWriteRegister (address value : Option PyVal) : RcM RcResponse :=
  match address, value with
  | some address, some value => makeResponse <$> writeRegister address value
  | _, _ => pure { status := .error }

/-- The handler of a command. -/
def commandHandlers : RcOperation → RcM RcResponse
  | .rcAcqStart channels => withChannels channels start
  | .rcBoot channels => withChannels channels boot
  | .rcReset channels => withChannels channels reset
  | .rcReadRegister address => commandReadRegister address
  | .rcWriteRegister address value => commandWriteRegister address value
  | .rcReadAcqRegisters none => pure { status := .error }
  | .rcReadAcqRegisters (some addresses) => makeResponse <$> readAcqRegisters addresses
  | .setRcAcq none => pure { status := .error }
  | .setRcAcq (some rcAcqDict) => makeResponse <$> setAcqRegisters rcAcqDict
  | .rcFreeRateMonitoring channels => makeResponse <$> freeRateMonitoring channels
  | .rcTrgRateMonitoring channels => makeResponse <$> trgRateMonitoring channels
  | .rcAllRateMonitoring channels => makeResponse <$> monitorAllRates channels
  | .rcFebResetAfterFlash => makeResponse <$> febResetAfterFlash
  | .rcFebSelectAddressChange channels => withChannels channels febSelectForAddressChange
  | .unknown => pure { status := .error }

end RC

namespace RcService

open RC

def trackedConfigurationRegisters : List Int := [31, 39]

/-- `_read_configuration_register`. -/
def readConfigurationRegister (address : Int) : RcM (Option Nat) :=
  tryExcept (do
    let response ← commandReadRegister (some (.int address))
    pure (if response.status = .ok then response.result.value else none)) fun _ => pure none

/-- `old_value == new_value`. -/
def sameValue : Option Nat → PyVal → Bool
  | some oldValue, .int newValue => (oldValue : Int) = newValue
  | _, _ => false

/-- `_on_rc_configuration_change`. -/
def onRcConfigurationChange (event : RcEvent) : RcM Unit :=
  if event.register ∉ trackedConfigurationRegisters then pure ()
  else if sameValue event.oldValue event.newValue then pure ()
  else modify fun s => { s with events := s.events ++ [event] }

/-- `_notify_configuration_change`. -/
def notifyConfigurationChange (rcRequest : RcRequest) (address : Int) (oldValue : Option Nat)
    (newValue : PyVal) : RcM Unit :=
  if address ∉ trackedConfigurationRegisters then pure ()
  else if sameValue oldValue newValue then pure ()
  else onRcConfigurationChange {
    register := address
    oldValue := oldValue
    newValue := newValue
    reason := rcRequest.sender
    sourceRequestId := rcRequest.requestId }

/-- The address of a write that is tracked. -/
def trackedAddress : RcOperation → Option Int
  | .rcWriteRegister (some (.int address)) _ =>
    if address ∈ trackedConfigurationRegisters then some address else none
  | _ => none

/-- `_execute_response`. -/
def executeResponse (rcRequest : RcRequest) : RcM RcResponse :=
  tryExcept (do
    match trackedAddress rcRequest.command, rcRequest.command with
    | some address, .rcWriteRegister writeAddress writeValue =>
      let previousValue ← readConfigurationRegister address
      let response ← commandWriteRegister writeAddress writeValue
      if response.status = .ok then
        notifyConfigurationChange rcRequest address previousValue (writeValue.getD .other)
      pure response
    | _, command => commandHandlers command) fun _ => pure { status := .error }

/-- What the worker does with a request, whatever it answers. -/
def step (memory : RcMemory) (w : World RcState RcCall) (rcRequest : RcRequest) :
    World RcState RcCall :=
  (executeResponse rcRequest memory w).2

end RcService

end MultiDAQ.Client
