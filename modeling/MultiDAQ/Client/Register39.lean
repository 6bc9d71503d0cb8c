import MultiDAQ.Client.SafeState
import MultiDAQ.Lib.BitMask

/-!
# Register 39 and the HV state

The synchronisation of RC register 39 with the channel lists,
`ClientRunTime.sync_rc_register_39_with_hv` (`client/core/client_runtime.py`), which the worker of the
HV service (`client/hardware/hv/hv_service.py`) calls back after some of the commands. The RC commands
of the synchronisation succeed.
-/

namespace MultiDAQ.Client

open MultiDAQ.Lib

/-- `RC39_TRIGGER_RATE_MASK`: the bits of the external and of the automatic trigger. -/
def rc39TriggerRateMask : Nat := 1 <<< 7 ||| 1 <<< 8

/-- The commands after which `_worker_loop` calls `_notify_state_change`. -/
def HvRequest.notifiesStateChange : HvRequest → Bool
  | .hvOn _ | .hvOff _ | .hvOnAndWait _ | .setHvSync _ | .checkChannelSafety _
  | .checkChannelPower _ | .checkRecoveryBad | .hvMonitorSnapshot _ | .hvElectricalMonitoring _
  | .hvStatusAlarmMonitoring _ | .hvChannelLists => true
  | _ => false

/-- `hv_enabled_channels`: the ok channels in test mode, else the ones that are also on. -/
def HvLists.enabledChannels (s : HvLists) (acqMode : Option AcqMode) : List Int :=
  if acqMode = some .test then sorted s.okCh.dedup
  else sorted (s.okCh.filter (· ∈ s.onCh)).dedup

/-- The bits of RC channels; nothing if one is not a channel of the RC. -/
def channelMask : (mask : Nat) → List Int → Option Nat
  | mask, [] => some mask
  | mask, ch :: rest =>
    if ch < 0 ∨ 7 ≤ ch then none else channelMask (mask ||| 1 <<< ch.toNat) rest

/-- The client as far as register 39 is concerned. -/
structure HvRegister where
  service : HvService
  acqMode : Option AcqMode := none
  register39 : Nat := 0
  deriving DecidableEq

inductive HvRegisterAction
  /-- The worker processes a request. -/
  | request (request : HvRequest) (bus : HvBus)
  | setPolicy (hvPolicy : HvPolicy)
  | setAcquisitionMode (acqMode : AcqMode)
  /-- Another RC command writes the register. -/
  | writeRegister39 (value : Nat)

namespace HvRegister

variable (s : HvRegister)

/-- `sync_rc_register_39_with_hv`. -/
def syncRcRegister39WithHv : HvRegister :=
  let rcChannels := (s.service.hv.enabledChannels s.acqMode).map (· - 1)
  match channelMask 0 rcChannels with
  | none => s
  | some mask =>
    let newValue := mask ||| rc39TriggerRateMask
    if s.register39 = newValue then s else { s with register39 := newValue }

/-- What `_worker_loop` does with a request that has not expired. -/
def process (request : HvRequest) (bus : HvBus) : HvRegister :=
  let executed := { s with service := (s.service.execute request bus).2.1 }
  if request.notifiesStateChange then executed.syncRcRegister39WithHv else executed

def step : HvRegisterAction → HvRegister
  | .request request bus => s.process request bus
  | .setPolicy hvPolicy => { s with service := { s.service with hvPolicy } }
  | .setAcquisitionMode acqMode => { s with acqMode := some acqMode }
  | .writeRegister39 value => { s with register39 := value }

end HvRegister

end MultiDAQ.Client
