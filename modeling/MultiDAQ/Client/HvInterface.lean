import MultiDAQ.Client.HvLists
import MultiDAQ.Client.HvModBus
import MultiDAQ.Lib.Dict
import Mathlib.Data.Rat.Floor

/-!
# The HV interface: settings and readings

`HV` (`client/hardware/hv/hv_interface.py`), the operations that write and read the set points and
that read the state of the boards. An operation is a program over the Modbus line with the channel
lists as its state. Most of them work on the requested channels that are OK and put a channel whose
access raises into the bad list.
-/

namespace MultiDAQ.Client

open MultiDAQ.Lib MultiDAQ.Lib.Interaction

abbrev HvM (α : Type) := Interaction HvCall HvCall.Value String HvLists α

/-- What a channel reads as: voltage, current and temperature registers. -/
structure Electrical where
  voltage : Int
  current : Int
  temperature : Nat
  deriving DecidableEq, Repr

/-- A reading of a channel that may have failed, beside the state of the channel. -/
structure Reading (α : Type) where
  reading : Option α
  channelState : ChannelState
  powerState : Option Bool
  deriving DecidableEq, Repr

/-- Voltage and threshold of a channel. -/
structure SetPoints where
  voltage : Int
  threshold : Int
  deriving DecidableEq, Repr

structure CheckedChannel where
  channel : Int
  status : Option HvStatus
  alarm : Option String
  readFailed : Bool
  deriving DecidableEq, Repr

/-- The part of a result that only some commands return. -/
inductive HvData
  | none
  | common (value : Int)
  | registers (configuration : Dict Int Nat)
  | voltThr (configuration : Dict Int SetPoints)
  | powerState (powerState : Dict Int Bool)
  | status (status : Dict Int HvStatus)
  | alarm (alarm : Dict Int String)
  | acquisition (previous applied : Dict Int SetPoints)
  | electrical (channels : Dict Int (Reading Electrical))
  | statusAlarm (channels : Dict Int (Reading (HvStatus × String)))
  | snapshot (electrical : Dict Int (Reading Electrical))
      (statusAlarm : Dict Int (Reading (HvStatus × String)))
      (electricalFailed statusAlarmFailed : List Int)
  | recovery (checked recovered recoveredOn recoveredOff stillBad : List Int)
  | safety (checked unsafeChannels : List CheckedChannel)
  | power (checked : List (Int × Option HvStatus)) (movedToOn movedToOff : List Int)
  | presence (checked : List Int) (becameBad : List (Int × String))
  | sync (recovery presence power : HvData)
  | address (success : Bool) (oldAddress : Option Int) (newAddress : Int)
  | serialMap (serialMap : Dict Int String)

/-- A result. A list that a command does not return is empty. -/
structure HvResult where
  requestedChannels : List Int := []
  usedChannels : List Int := []
  skippedChannels : List Int := []
  successfulChannels : List Int := []
  failedChannels : List Int := []
  lists : Option HvLists := none
  data : HvData := .none

namespace HV

/-! ## The channel lists as a state -/

def getLists : HvM HvLists := read id

def getOkChannels : HvM (List Int) := read (·.okCh)

def moveToOk (ch : Int) : HvM Unit := modify (·.moveToOk ch)

def moveToBad (ch : Int) : HvM Unit := modify (·.moveToBad ch)

def moveToOn (ch : Int) : HvM Unit := modify (·.moveToOn ch)

def moveToOff (ch : Int) : HvM Unit := modify (·.moveToOff ch)

def moveToFixedBad (ch : Int) : HvM Unit := modify (·.moveToFixedBad ch)

def moveToMissingSerial (ch : Int) : HvM Unit := modify (·.moveToMissingSerial ch)

def removeFromFixedBad (ch : Int) : HvM Unit := modify (·.removeFromFixedBad ch)

def removeFromMissingSerial (ch : Int) : HvM Unit := modify (·.removeFromMissingSerial ch)

def channelsDefinition (channels : ChannelsArg) : HvM (List Int) :=
  match hvChannelsDefinition channels with
  | .ok chs => pure chs
  | .error e => raise e

/-! ## The operations on the OK channels -/

/-- The channels a loop succeeded for, with what it returned. -/
def successes {α : Type} (outcomes : List (Int × Option α)) : List (Int × α) :=
  outcomes.filterMap fun o => o.2.map fun a => (o.1, a)

def failures {α : Type} (outcomes : List (Int × Option α)) : List Int :=
  (outcomes.filter (·.2.isNone)).map (·.1)

/-- A dictionary filled in order: a later entry replaces an earlier one. -/
def dictOf {α : Type} (entries : List (Int × α)) : Dict Int α :=
  entries.foldl (fun d e => d.set e.1 e.2) Dict.empty

/-- `if ch not in d: d[ch] = value`. -/
def dictOfFirst {α : Type} (entries : List (Int × α)) : Dict Int α :=
  entries.foldl (fun d e => if d.contains e.1 then d else d.set e.1 e.2) Dict.empty

/-- `action` for every requested channel that is OK; a channel for which it raises is handed to
`recover`. -/
def okChannels {α : Type} (channels : ChannelsArg) (action : Int → HvM α)
    (recover : Int → HvM Unit) (data : List (Int × α) → HvData) : HvM HvResult := do
  let requested ← channelsDefinition channels
  let okCh ← getOkChannels
  let used := requested.filter (· ∈ okCh)
  let outcomes ← mapEach used fun ch => attempt (action ch) (recover ch)
  pure {
    requestedChannels := requested
    usedChannels := used
    skippedChannels := requested.filter (· ∉ okCh)
    successfulChannels := (successes outcomes).map (·.1)
    failedChannels := failures outcomes
    data := data (successes outcomes) }

/-- The lists as they are in the end. -/
def withLists (p : HvM HvResult) : HvM HvResult := do
  let result ← p
  let lists ← getLists
  pure { result with lists := some lists }

def setCommonVoltage (channels : ChannelsArg) (commonVoltage : Int) : HvM HvResult :=
  withLists (okChannels channels (fun ch => HVModBus.setVoltageSet commonVoltage ch) moveToBad
    fun _ => .common commonVoltage)

def setCommonThreshold (channels : ChannelsArg) (commonThreshold : Int) : HvM HvResult :=
  withLists (okChannels channels (fun ch => HVModBus.setThreshold commonThreshold ch) moveToBad
    fun _ => .common commonThreshold)

def getVoltage (channels : ChannelsArg) : HvM HvResult :=
  withLists (okChannels channels HVModBus.getVoltageSet moveToBad fun rs =>
    .registers (dictOfFirst rs))

def getThreshold (channels : ChannelsArg) : HvM HvResult :=
  withLists (okChannels channels HVModBus.getThreshold moveToBad fun rs =>
    .registers (dictOfFirst rs))

/-- Reads voltage, then threshold. -/
def readSetPoints (ch : Int) : HvM SetPoints := do
  let volt ← HVModBus.getVoltageSet ch
  let thr ← HVModBus.getThreshold ch
  pure { voltage := volt, threshold := thr }

def getVoltThrConfiguration (channels : ChannelsArg) : HvM HvResult :=
  withLists (okChannels channels readSetPoints moveToBad fun rs => .voltThr (dictOfFirst rs))

def getChStatus (channels : ChannelsArg) : HvM HvResult :=
  okChannels channels HVModBus.getStatus moveToBad fun rs => .status (dictOf rs)

def getChAlarm (channels : ChannelsArg) : HvM HvResult :=
  okChannels channels HVModBus.getAlarm moveToBad fun rs => .alarm (dictOf rs)

/-! ## Power state -/

/-- Reads the status until it is stable or the polls are used up: whether the channel is on, nothing
if it failed. -/
def awaitPowerState (ch : Int) (polls : Nat) : HvM (Option Bool) := do
  match ← HVModBus.getStatus ch with
  | .up =>
    moveToOn ch
    pure (some true)
  | .down =>
    moveToOff ch
    pure (some false)
  | .trip =>
    moveToBad ch
    pure none
  | .undef => pure none
  | .rup | .rdn | .tup | .tdn =>
    match polls with
    | 0 => pure none
    | polls + 1 => awaitPowerState ch polls

/-- The read-out of one channel of `get_power_state`. -/
def readPowerState (ch : Int) : HvM (Option Bool) := do
  let polls ← waitRounds
  awaitPowerState ch polls

def getPowerState (channels : ChannelsArg) : HvM HvResult := withLists do
  let requested ← channelsDefinition channels
  -- every requested channel is read, whatever list it is in
  let outcomes ← mapEach requested fun ch => Option.join <$>
    attempt (readPowerState ch) (moveToBad ch)
  pure {
    requestedChannels := requested
    successfulChannels := (successes outcomes).map (·.1)
    failedChannels := failures outcomes
    data := .powerState (dictOf (successes outcomes)) }

/-! ## Acquisition configuration -/

/-- `round` to an integer, halves to even. -/
def pyRound (q : Rat) : Int :=
  let d := q - q.floor
  if d < 1 / 2 then q.floor
  else if 1 / 2 < d then q.floor + 1
  else if q.floor % 2 = 0 then q.floor else q.floor + 1

/-- An entry of an acquisition configuration; either value may be missing. -/
structure ChannelConfig where
  voltage : Option Rat := none
  threshold : Option Rat := none
  deriving DecidableEq, Repr

def writeIf (present : Bool) (write : HvM Unit) : HvM Unit := if present then write else pure ()

/-- Writes the values of one entry: what the channel had before and has now. -/
def applyConfig (config : ChannelConfig) (ch : Int) : HvM (SetPoints × SetPoints) := do
  let previous ← readSetPoints ch
  let newVoltage := (config.voltage.map pyRound).getD previous.voltage
  let newThreshold := (config.threshold.map pyRound).getD previous.threshold
  writeIf config.voltage.isSome (HVModBus.setVoltageSet newVoltage ch)
  writeIf config.threshold.isSome (HVModBus.setThreshold newThreshold ch)
  pure (previous, { voltage := newVoltage, threshold := newThreshold })

/-- One channel of `set_acquisition_configuration`. A missing or empty entry fails without a
reclassification. -/
def configureChannel (config : Option ChannelConfig) (ch : Int) :
    HvM (Option (SetPoints × SetPoints)) :=
  match config with
  | none => pure none
  | some config =>
    if config.voltage = none ∧ config.threshold = none then pure none
    else attempt (applyConfig config ch) (moveToBad ch)

/-- Resets the channel and switches it off, ignoring a failure. -/
def shutdown (ch : Int) : HvM Unit :=
  tryExcept (do
    HVModBus.reset ch
    HVModBus.powerOff ch) fun _ => pure ()

def isSafe (status : HvStatus) (alarm : String) : Bool := status ≠ .trip ∧ alarm = "none"

/-- The status and the alarm of a channel; nothing if one could not be read. -/
def readStatusAlarm (ch : Int) : HvM (HvStatus × String) := do
  let status ← HVModBus.getStatus ch
  let alarm ← HVModBus.getAlarm ch
  pure (status, alarm)

/-- One look at a ramping channel: whether it arrived, or nothing yet. -/
def pollRamp (ch : Int) : HvM (Option Bool) := do
  match ← attempt (readStatusAlarm ch) (pure ()) with
  | none => pure (some false)
  | some (status, alarm) =>
    pure (if status = .up then some true else if isSafe status alarm then none else some false)

/-- `_wait_ramp_end`: the channels that did not make it, switched off and bad. -/
def waitRampEnd (channels : List Int) : HvM (List Int) := do
  let rounds ← waitRounds
  let (settled, left) ← pollRounds pollRamp rounds channels
  let failed := sorted (((settled.filter (!·.2)).map (·.1) ++ left).dedup)
  forEach failed fun ch => do
    shutdown ch
    moveToBad ch
  pure failed

/-- Waits if there is something to wait for. -/
def rampFailures (channels : List Int) : HvM (List Int) :=
  if channels = [] then pure [] else waitRampEnd channels

/-- The channels that were on and whose voltage changes. -/
def rampChannels (onCh : List Int) (applied : List (Int × SetPoints × SetPoints)) : List Int :=
  (applied.filter fun e => e.1 ∈ onCh ∧ e.2.2.voltage ≠ e.2.1.voltage).map (·.1)

/-- The configuration is keyed by the external channel, one less than the HV channel. -/
def setAcquisitionConfiguration (channels : ChannelsArg)
    (acqConfiguration : Dict Int ChannelConfig) (waitRamp : Bool) : HvM HvResult := withLists do
  let requested ← channelsDefinition channels
  let okCh ← getOkChannels
  let used := requested.filter (· ∈ okCh)
  let onCh ← read fun s => if waitRamp then s.onCh else []
  let outcomes ← mapEach used fun ch => configureChannel (acqConfiguration.get? (ch - 1)) ch
  let set := successes outcomes
  let rampFailed ← rampFailures (rampChannels onCh set)
  let kept := set.filter (·.1 ∉ rampFailed)
  pure {
    requestedChannels := requested
    usedChannels := used
    skippedChannels := requested.filter (· ∉ okCh)
    successfulChannels := kept.map (·.1)
    failedChannels := failures outcomes ++ rampFailed
    data := .acquisition (dictOf (kept.map fun e => (e.1, e.2.1)))
      (dictOf (kept.map fun e => (e.1, e.2.2))) }

/-! ## Monitoring -/

def readElectrical (ch : Int) : HvM Electrical := do
  let voltage ← HVModBus.getVoltage ch
  let current ← HVModBus.getCurrent ch
  let temperature ← HVModBus.getTemperature ch
  pure { voltage, current, temperature }

/-- Every channel with what was read from it; one that could not be read goes to the bad list. The
state of a channel is the one before the reading. -/
def readChannels {α : Type} (channels : List Int) (action : Int → HvM α) :
    HvM (Dict Int (Reading α) × List Int) := do
  let lists ← getLists
  let outcomes ← mapEach channels fun ch => attempt (action ch) (moveToBad ch)
  pure (dictOf (outcomes.map fun o =>
    (o.1, ⟨o.2, (lists.channelState o.1).1, (lists.channelState o.1).2⟩)), failures outcomes)

def getChElectrical (channels : ChannelsArg) : HvM HvResult := do
  let requested ← channelsDefinition channels
  let (readings, failed) ← readChannels requested readElectrical
  pure { requestedChannels := requested, failedChannels := failed, data := .electrical readings }

def getChStatusAndAlarm (channels : ChannelsArg) : HvM HvResult := do
  let requested ← channelsDefinition channels
  let (readings, failed) ← readChannels requested readStatusAlarm
  pure { requestedChannels := requested, failedChannels := failed, data := .statusAlarm readings }

/-- The readings of a snapshot, with an empty one for every skipped channel. -/
def withSkipped {α : Type} (lists : HvLists) (skipped : List Int)
    (readings : Dict Int (Reading α)) : Dict Int (Reading α) :=
  skipped.foldl (fun d ch =>
    d.set ch ⟨none, (lists.channelState ch).1, (lists.channelState ch).2⟩) readings

def monitorSnapshot (channels : ChannelsArg) : HvM HvResult := withLists do
  let requested ← channelsDefinition channels
  let lists ← getLists
  let monitored := requested.filter (· ∉ lists.fixedBad)
  let skipped := requested.filter (· ∈ lists.fixedBad)
  let (electrical, electricalFailed) ← readChannels monitored readElectrical
  let (statusAlarm, statusAlarmFailed) ← readChannels monitored readStatusAlarm
  pure {
    requestedChannels := requested
    usedChannels := monitored
    skippedChannels := skipped
    data := .snapshot (withSkipped lists skipped electrical)
      (withSkipped lists skipped statusAlarm) electricalFailed statusAlarmFailed }

end HV

end MultiDAQ.Client
