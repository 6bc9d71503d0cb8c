import MultiDAQ.Client.HvPower
import MultiDAQ.Lib.Run

/-!
# The HV commands and their execution

The handlers of `client/hardware/hv/hv_commands.py` and `HVService._execute_response`
(`client/hardware/hv/hv_service.py`), which one worker thread calls for one request after the other.
A handler that raises answers ERROR. Next to the worker, `AcquisitionService` calls two operations
of the interface directly: `HvStep` is everything that happens to the interface.
-/

namespace MultiDAQ.Client

open MultiDAQ.Lib MultiDAQ.Lib.Interaction

inductive MessageStatus
  | ok
  | error
  deriving DecidableEq, Repr

structure HvResponse where
  status : MessageStatus
  result : HvResult := {}
  error : Option String := none

/-- A request: the command with its payload. -/
inductive HvRequest
  | setCommonVoltage (channels : ChannelsArg) (commonVoltage : Int)
  | setCommonThreshold (channels : ChannelsArg) (commonThreshold : Int)
  | setAcquisitionConfiguration (channels : ChannelsArg)
      (acquisitionConfiguration : Dict Int HV.ChannelConfig) (waitRamp : Bool)
  | getVoltageChannels (channels : ChannelsArg)
  | getThresholdChannels (channels : ChannelsArg)
  | getVoltThrChannels (channels : ChannelsArg)
  | getPowerStateChannels (channels : ChannelsArg)
  | hvSetUserBad (channels : ChannelsArg)
  | hvUnsetUserBad (channels : ChannelsArg)
  | hvOn (channels : ChannelsArg)
  | hvOff (channels : ChannelsArg)
  | hvForceOff (channels : ChannelsArg)
  | hvOnAndWait (channels : ChannelsArg)
  | hvOffAndWait (channels : ChannelsArg)
  | setHvSync (channels : ChannelsArg)
  | setPmtSerials (serials : Dict Int String)
  | getSerialMap (channels : ChannelsArg)
  | febChangeAddress (channelIndex : Int) (standardAddr : Option Int)
  | checkChannelSafety (channels : List Int)
  | checkChannelPower (channels : List Int)
  | checkRecoveryBad
  | checkChannelAcquisition (acqInfo : Option HV.AcqInfo)
  | hvElectricalMonitoring (channels : ChannelsArg)
  | hvStatusAlarmMonitoring (channels : ChannelsArg)
  | hvChannelLists
  | hvMonitorSnapshot (channels : ChannelsArg)
  deriving DecidableEq

namespace HvResponse

/-- An answer with status OK. -/
def success (result : HvResult) : HvResponse := { status := .ok, result := result }

/-- `_wrap_hv_action`. -/
def wrapHvAction (result : HvResult) : HvResponse :=
  if result.failedChannels = [] then success result
  else {
    status := .error
    result := result
    error := some ("Some HV channels failed or did not respond. " ++
      s!"Failed: {pyList result.failedChannels}, not responding: []") }

/-- ERROR with this text if some channels failed. -/
def unlessFailed (failed : List Int) (result : HvResult) (error : String) : HvResponse :=
  if failed = [] then success result
  else { status := .error, result := result, error := some error }

end HvResponse

namespace HV

/-! ## The checks -/

/-- What the safety check does with a channel that was read and is unsafe. -/
def secure (ch : Int) : HvM Unit :=
  tryFinally (do
    let _ ← forceReset (.one ch)
    let _ ← forceOff (.one ch)) (moveToBad ch)

/-- An unsafe channel is put into the bad list, after a reset and a power-off if it was read. -/
def handleUnsafe (c : CheckedChannel) : HvM Unit :=
  if c.readFailed then moveToBad c.channel else secure c.channel

/-- The readings the safety check goes by. A channel that is not OK was not read: it has neither a
status nor an alarm, and did not fail. -/
def checkedChannel (status alarm : HvResult) (ch : Int) : CheckedChannel where
  channel := ch
  status := match status.data with
    | .status d => d.get? ch
    | _ => none
  alarm := match alarm.data with
    | .alarm d => d.get? ch
    | _ => none
  readFailed := ch ∈ status.failedChannels ∨ ch ∈ alarm.failedChannels

/-- `_alarm_active`, for the alarm of a channel that may not have been read. -/
def alarmActive (alarm : Option String) : Bool := alarm.any (· ≠ "none")

def isUnsafe (c : CheckedChannel) : Bool :=
  c.readFailed || c.status = some .trip || alarmActive c.alarm

def checkChannelSafety (chs : List Int) : HvM HvResponse := do
  let status ← getChStatus (.list chs)
  let alarm ← getChAlarm (.list chs)
  let checked := chs.map (checkedChannel status alarm)
  let unsafeChannels := checked.filter isUnsafe
  forEach unsafeChannels handleUnsafe
  let result := { data := .safety checked unsafeChannels }
  -- the source shows the whole records of the unsafe channels
  pure (HvResponse.unlessFailed (unsafeChannels.map (·.channel)) result
    s!"Unsafe HV channels detected: {pyList (unsafeChannels.map CheckedChannel.channel)}")

/-- One channel of `check_channel_power`: its status, and what it was moved to. -/
def alignPower (ch : Int) : HvM (HvStatus × Option Bool) := do
  let status ← HVModBus.getStatus ch
  let lists ← getLists
  if status = .up ∧ ch ∈ lists.offCh then
    moveToOn ch
    pure (status, some true)
  else if status = .down ∧ ch ∈ lists.onCh then
    moveToOff ch
    pure (status, some false)
  else pure (status, none)

def checkChannelPower (chs : List Int) : HvM HvResult := withLists do
  let outcomes ← mapEach chs fun ch => attempt (alignPower ch) (pure ())
  let moved := (successes outcomes).filterMap fun e => e.2.2.map fun b => (e.1, b)
  pure {
    failedChannels := failures outcomes
    data := .power (outcomes.map fun o => (o.1, o.2.map (·.1))) (settledWith true moved)
      (settledWith false moved) }

/-- One channel of `check_channel_presence`: nothing if it is reachable, else the reason why it
became bad. -/
def checkPresence (ch : Int) : HvM (Option String) :=
  if HVModBus.checkAddressBoundary ch then do
    if ← HVModBus.checkAddress ch then pure none
    else
      moveToBad ch
      pure (some "not_responding")
  else do
    moveToBad ch
    pure (some "out_of_boundary")

def checkChannelPresence (chs : List Int) : HvM HvResult := withLists do
  let outcomes ← mapEach chs checkPresence
  pure { data := .presence (failures outcomes) (successes outcomes) }

/-- Recovery, presence and power of the channels that are not fixed bad. -/
def hvSync (channels : ChannelsArg) : HvM HvResult := withLists do
  let resolved ← channelsDefinition channels
  let fixedBad ← read (·.fixedBad)
  let active := resolved.filter (· ∉ fixedBad)
  let recovery ← recoverBadChannels
  let presence ← checkChannelPresence active
  let power ← checkChannelPower active
  pure { data := .sync recovery.data presence.data power.data }

/-! ## Marks and serials -/

/-- `command_hv_set_user_bad`, `command_hv_unset_user_bad`: one move for every channel; an invalid
argument is answered with ERROR. -/
def moveAll (channels : ChannelsArg) (move : Int → HvM Unit) : HvM HvResponse :=
  match hvChannelsDefinition channels with
  | .error e => pure { status := .error, error := some s!"Invalid channels for hv_set_user_bad: {e}" }
  | .ok defined => do
    forEach defined move
    HvResponse.success <$> withLists (pure { requestedChannels := defined })

/-- One entry of `set_pmt_serials`. The keys are HV channels. -/
def writeSerial (channel : Int) (serial : String) : HvM (Option Unit) :=
  attempt (do
    setPmtSerial channel serial
    removeFromMissingSerial channel) (pure ())

def setPmtSerials (serials : Dict Int String) : HvM HvResponse := do
  let outcomes ← mapEach serials.keys fun ch => writeSerial ch ((serials.get? ch).getD "")
  let failed := failures outcomes
  let result := { successfulChannels := (successes outcomes).map (·.1), failedChannels := failed }
  pure (HvResponse.unlessFailed failed result
    s!"Failed to write serial for channels: {pyList failed}")

def serialMap (channels : ChannelsArg) : HvM HvResponse :=
  match hvChannelsDefinition channels with
  | .error e => pure { status := .error, error := some s!"Invalid channels for get_serial_map: {e}" }
  | .ok resolved => do
    let serials ← getSerialMap resolved
    pure (HvResponse.success { data := .serialMap serials })

/-! ## Dispatch -/

/-- The answer of `command_feb_change_address`. -/
def addressResponse (result : HvResult) : HvResponse :=
  match result.data with
  | .address true _ _ => HvResponse.success result
  | .address false none _ =>
    { status := .error, result := result, error := some "No FEB found in Modbus scan" }
  | .address false (some _) newAddress => {
    status := .error
    result := result
    error := some s!"Failed to verify new address {newAddress}" }
  | _ => { status := .error, result := result }

/-- The failures of both parts of a snapshot. -/
def snapshotFailed (result : HvResult) : List Int :=
  match result.data with
  | .snapshot _ _ electrical statusAlarm => electrical ++ statusAlarm
  | _ => []

/-- `COMMAND_HANDLERS`. -/
def handle : HvRequest → HvM HvResponse
  | .setCommonVoltage chs v => HvResponse.wrapHvAction <$> setCommonVoltage chs v
  | .setCommonThreshold chs v => HvResponse.wrapHvAction <$> setCommonThreshold chs v
  | .setAcquisitionConfiguration chs config waitRamp =>
    HvResponse.wrapHvAction <$> setAcquisitionConfiguration chs config waitRamp
  | .getVoltageChannels chs => HvResponse.wrapHvAction <$> getVoltage chs
  | .getThresholdChannels chs => HvResponse.wrapHvAction <$> getThreshold chs
  | .getVoltThrChannels chs => HvResponse.wrapHvAction <$> getVoltThrConfiguration chs
  | .getPowerStateChannels chs => HvResponse.wrapHvAction <$> getPowerState chs
  | .hvSetUserBad chs => moveAll chs moveToFixedBad
  | .hvUnsetUserBad chs => moveAll chs removeFromFixedBad
  | .hvOn chs => HvResponse.wrapHvAction <$> on chs
  | .hvOff chs => HvResponse.wrapHvAction <$> off chs
  | .hvForceOff chs => HvResponse.wrapHvAction <$> forceOff chs
  | .hvOnAndWait chs => HvResponse.wrapHvAction <$> onAndWait chs
  | .hvOffAndWait chs => HvResponse.wrapHvAction <$> offAndWait chs
  | .setHvSync chs => HvResponse.success <$> hvSync chs
  | .setPmtSerials serials => setPmtSerials serials
  | .getSerialMap chs => serialMap chs
  | .febChangeAddress index standardAddr =>
    addressResponse <$> changeFebAddress (index + 1) standardAddr
  | .checkChannelSafety chs => checkChannelSafety chs
  | .checkChannelPower chs => HvResponse.success <$> checkChannelPower chs
  | .checkRecoveryBad => HvResponse.success <$> recoverBadChannels
  | .checkChannelAcquisition acqInfo => HvResponse.success <$> recoverOkOffAcquisition acqInfo
  | .hvElectricalMonitoring chs => do
    let result ← getChElectrical chs
    pure (HvResponse.unlessFailed result.failedChannels result
      s!"Failed to read V/I/T for channels: {pyList result.failedChannels}")
  | .hvStatusAlarmMonitoring chs => do
    let result ← getChStatusAndAlarm chs
    pure (HvResponse.unlessFailed result.failedChannels result
      s!"Failed to read status/alarm for channels: {pyList result.failedChannels}")
  | .hvChannelLists => HvResponse.success <$> withLists (pure {})
  | .hvMonitorSnapshot chs => do
    let result ← monitorSnapshot chs
    pure (HvResponse.unlessFailed (snapshotFailed result) result
      "Some HV channels failed to read during monitoring snapshot")

end HV

/-! ## The service -/

inductive HvPolicy
  | monitorOnly
  | fullControl
  deriving DecidableEq, Repr

/-- The name of the command on the wire. -/
def HvRequest.command : HvRequest → String
  | .setCommonVoltage .. => "set_common_voltage"
  | .setCommonThreshold .. => "set_common_threshold"
  | .setAcquisitionConfiguration .. => "set_acquisition_configuration"
  | .getVoltageChannels _ => "get_voltage_channels"
  | .getThresholdChannels _ => "get_threshold_channels"
  | .getVoltThrChannels _ => "get_volt_thr_channels"
  | .getPowerStateChannels _ => "get_power_state_channels"
  | .hvSetUserBad _ => "hv_set_user_bad"
  | .hvUnsetUserBad _ => "hv_unset_user_bad"
  | .hvOn _ => "hv_on"
  | .hvOff _ => "hv_off"
  | .hvForceOff _ => "hv_force_off"
  | .hvOnAndWait _ => "hv_on_and_wait"
  | .hvOffAndWait _ => "hv_off_and_wait"
  | .setHvSync _ => "set_hv_sync"
  | .setPmtSerials _ => "set_pmt_serials"
  | .getSerialMap _ => "get_serial_map"
  | .febChangeAddress .. => "feb_change_address"
  | .checkChannelSafety _ => "check_channel_safety"
  | .checkChannelPower _ => "check_channel_power"
  | .checkRecoveryBad => "check_recovery_bad"
  | .checkChannelAcquisition _ => "check_channel_acquisition"
  | .hvElectricalMonitoring _ => "hv_electrical_monitoring"
  | .hvStatusAlarmMonitoring _ => "hv_status_alarm_monitoring"
  | .hvChannelLists => "hv_channel_lists"
  | .hvMonitorSnapshot _ => "hv_monitor_snapshot"

def HvPolicy.name : HvPolicy → String
  | .monitorOnly => "monitor_only"
  | .fullControl => "full_control"

/-- The commands outside `MONITOR_ONLY_ALLOWED_COMMANDS`. -/
def HvRequest.needsFullControl : HvRequest → Bool
  | .hvOn _ | .hvOnAndWait _ | .checkChannelAcquisition _ => true
  | _ => false

/-- `_is_command_allowed`. -/
def HvPolicy.allows : HvPolicy → HvRequest → Bool
  | .fullControl, _ => true
  | .monitorOnly, request => !request.needsFullControl

structure HvService where
  hv : HvLists
  hvPolicy : HvPolicy := .fullControl
  deriving DecidableEq, Repr

/-- What happens to the interface: a request that the worker executes, a new policy, and the two
operations that `AcquisitionService` calls directly. -/
inductive HvStep
  | request (request : HvRequest)
  | setPolicy (hvPolicy : HvPolicy)
  | setFixedBadChannels (channels : List Int)
  | checkMissingSerial
  deriving DecidableEq

namespace HvService

/-- `_execute_response`. -/
def executeResponse (policy : HvPolicy) (request : HvRequest) : HvM HvResponse :=
  if policy.allows request then
    tryExcept (HV.handle request) fun e => pure { status := .error, error := some e }
  else
    let command := request.command
    let name := policy.name
    pure {
      status := .error
      error := some s!"HV command '{command}' not allowed with policy '{name}'" }

/-- A step as a program over the line. -/
def program (policy : HvPolicy) : HvStep → HvM Unit
  | .request request => do
    let _ ← executeResponse policy request
    pure ()
  | .setPolicy _ => pure ()
  | .setFixedBadChannels channels => do
    match (← HV.getLists).setFixedBadChannels channels with
    | .ok lists => modify fun _ => lists
    | .error e => raise e
  | .checkMissingSerial => do
    let okCh ← HV.getOkChannels
    let _ ← HV.checkMissingSerial okCh
    pure ()

/-- The policy after a step. -/
def policyAfter (policy : HvPolicy) : HvStep → HvPolicy
  | .setPolicy p => p
  | _ => policy

/-- A step with the answers the line gives during it: the service after it, and the calls it made. -/
def step (s : HvService) (a : HvStep × HvBus) : HvService × List HvCall :=
  let w := (program s.hvPolicy a.1 a.2 { state := s.hv }).2
  ({ hv := w.state, hvPolicy := policyAfter s.hvPolicy a.1 }, w.calls)

/-- The service when it has been constructed. -/
def started (fixedBadChannels : List Int) (bus : HvBus) (policy : HvPolicy) : HvService where
  hv := (HV.init fixedBadChannels bus { state := {} }).2.state
  hvPolicy := policy

end HvService

end MultiDAQ.Client
