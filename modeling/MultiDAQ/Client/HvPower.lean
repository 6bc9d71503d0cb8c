import MultiDAQ.Client.HvInterface

/-!
# The HV interface: power, recovery and identification

The operations of `HV` (`client/hardware/hv/hv_interface.py`) that switch channels on and off, that
bring channels back into service, and that deal with addresses and PMT serials; and its constructor.
-/

namespace MultiDAQ.Client

open MultiDAQ.Lib MultiDAQ.Lib.Interaction

namespace HV

/-! ## On and off -/

/-- What `on` and `on_and_wait` do with a channel that cannot be powered on. -/
def powerOnFailed (ch : Int) : HvM Unit := do
  shutdown ch
  moveToBad ch

def on (channels : ChannelsArg) : HvM HvResult :=
  withLists (okChannels channels (fun ch => do
    HVModBus.powerOn ch
    moveToOn ch) powerOnFailed fun _ => .none)

/-- Switches a channel off and records it. -/
def powerOffChannel (ch : Int) : HvM Unit := do
  HVModBus.powerOff ch
  moveToOff ch

def off (channels : ChannelsArg) : HvM HvResult :=
  withLists (okChannels channels powerOffChannel moveToBad fun _ => .none)

/-- `action` for every requested channel, whatever list it is in. -/
def allChannels (channels : ChannelsArg) (action : Int → HvM Unit) : HvM HvResult := withLists do
  let requested ← channelsDefinition channels
  let outcomes ← mapEach requested fun ch => attempt (action ch) (moveToBad ch)
  pure {
    requestedChannels := requested
    successfulChannels := (successes outcomes).map (·.1)
    failedChannels := failures outcomes }

def forceOff (channels : ChannelsArg) : HvM HvResult := allChannels channels powerOffChannel

def forceReset (channels : ChannelsArg) : HvM HvResult := allChannels channels HVModBus.reset

/-! ## Waiting for a ramp -/

/-- The channels that were settled with `true`, and the ones settled with `false`. -/
def settledWith (b : Bool) (settled : List (Int × Bool)) : List Int :=
  (settled.filter (·.2 = b)).map (·.1)

/-- `sorted(set(l))`. -/
def sortedSet (l : List Int) : List Int := sorted l.dedup

/-- One look at a channel that should come up: whether it did, or nothing yet. -/
def pollUp (ch : Int) : HvM (Option Bool) :=
  tryExcept (do
    let (status, alarm) ← readStatusAlarm ch
    if status = .up then
      moveToOn ch
      pure (some true)
    else if isSafe status alarm then pure none
    else
      powerOnFailed ch
      pure (some false)) fun _ => do
    powerOnFailed ch
    pure (some false)

def onAndWait (channels : ChannelsArg) : HvM HvResult := withLists do
  let requested ← channelsDefinition channels
  let okCh ← getOkChannels
  let used := requested.filter (· ∈ okCh)
  let outcomes ← mapEach used fun ch => attempt (HVModBus.powerOn ch) (powerOnFailed ch)
  let notPowered := failures outcomes
  let pending := ((successes outcomes).map (·.1)).filter (· ∉ notPowered)
  let rounds ← waitRounds
  let (settled, left) ← pollRounds pollUp rounds pending
  forEach left powerOnFailed
  pure {
    requestedChannels := requested
    usedChannels := used
    skippedChannels := requested.filter (· ∉ okCh)
    successfulChannels := sorted (settledWith true settled)
    failedChannels := sortedSet (notPowered ++ settledWith false settled ++ left) }

/-- One look at a channel that should go down: whether it did, or nothing yet. -/
def pollDown (ch : Int) : HvM (Option Bool) :=
  tryExcept (do
    match ← HVModBus.getStatus ch with
    | .down =>
      moveToOff ch
      pure (some true)
    | .trip =>
      shutdown ch
      moveToBad ch
      pure (some false)
    | _ => pure none) fun _ => do
    moveToBad ch
    pure (some false)

def offAndWait (channels : ChannelsArg) : HvM HvResult := withLists do
  let requested ← channelsDefinition channels
  let okCh ← getOkChannels
  let used := requested.filter (· ∈ okCh)
  let outcomes ← mapEach used fun ch => attempt (HVModBus.powerOff ch) (moveToBad ch)
  let notPowered := failures outcomes
  let pending := ((successes outcomes).map (·.1)).filter (· ∉ notPowered)
  let rounds ← waitRounds
  let (settled, left) ← pollRounds pollDown rounds pending
  forEach left moveToBad
  pure {
    requestedChannels := requested
    usedChannels := used
    skippedChannels := requested.filter (· ∉ okCh)
    successfulChannels := sorted (settledWith true settled)
    failedChannels := sortedSet (notPowered ++ settledWith false settled ++ left) }

/-! ## Recovery -/

/-- The address check that recovery and presence begin with. -/
def addressAnswers (ch : Int) : HvM Bool :=
  if HVModBus.checkAddressBoundary ch then HVModBus.checkAddress ch else pure false

/-- One channel of `recover_bad_channels`: whether it is on, nothing if it is still bad. -/
def recoverChannel (ch : Int) : HvM (Option Bool) := do
  if ← addressAnswers ch then
    match ← HVModBus.getStatus ch with
    | .up =>
      moveToOk ch
      moveToOn ch
      pure (some true)
    | _ =>
      moveToOk ch
      moveToOff ch
      pure (some false)
  else pure none

def recoverBadChannels : HvM HvResult := withLists do
  let badChannels ← read (·.badCh)
  let outcomes ← mapEach badChannels fun ch => Option.join <$> attempt (recoverChannel ch) (pure ())
  let recovered := successes outcomes
  pure {
    data := .recovery badChannels (recovered.map (·.1)) (settledWith true recovered)
      (settledWith false recovered) (failures outcomes) }

/-- The stored voltage and threshold of a channel. -/
abbrev AcqInfo := Dict Int ChannelConfig

/-- The check of `recover_ok_off_acquisition`: whether the channel answers, is not tripped and has
no alarm. -/
def safeToRecover (ch : Int) : HvM Bool := do
  if ← addressAnswers ch then
    if (← HVModBus.getStatus ch) = .trip then pure false
    else pure ((← HVModBus.getAlarm ch) = "none")
  else pure false

/-- Writes the stored parameters of a channel; nothing if there are none or the write fails. -/
def restoreParameters (acqInfo : AcqInfo) (ch : Int) : HvM (Option Unit) :=
  match acqInfo.get? ch with
  | some { voltage := some voltage, threshold := some threshold } =>
    attempt (do
      HVModBus.setVoltageSet (pyRound voltage) ch
      HVModBus.setThreshold (pyRound threshold) ch) (moveToBad ch)
  | _ => pure none

/-- Powers the safe channels on, if there are any: the ones that came up. -/
def powerSafe (safeChannels : List Int) : HvM (List Int) :=
  if safeChannels = [] then pure []
  else HvResult.successfulChannels <$> onAndWait (.list safeChannels)

/-- Checks the channels, configures the safe ones and powers the safe ones on. -/
def recoverChannels (acqInfo : AcqInfo) (okOff : List Int) : HvM HvResult := do
  let checks ← mapEach okOff fun ch => attempt (safeToRecover ch) (pure ())
  let safeChannels := (checks.filter (·.2 = some true)).map (·.1)
  let unsafeChannels := (checks.filter (·.2 ≠ some true)).map (·.1)
  let configured ← mapEach safeChannels (restoreParameters acqInfo)
  let successful ← powerSafe safeChannels
  pure {
    data := .recovery okOff (safeChannels.filter (· ∈ successful)) [] []
      (unsafeChannels ++ failures configured ++ safeChannels.filter (· ∉ successful)) }

def recoverOkOffAcquisition (acqInfo : Option AcqInfo) : HvM HvResult := withLists do
  let okOff ← read (·.okOffChannels)
  if okOff = [] then pure { data := .recovery [] [] [] [] [] }
  else match acqInfo with
    | none => pure { data := .recovery okOff [] [] [] okOff }
    | some acqInfo =>
      if acqInfo.entries = [] then pure { data := .recovery okOff [] [] [] okOff }
      else recoverChannels acqInfo okOff

/-! ## Addresses and serials -/

/-- An address change after the FEB was found at `oldAddress`. -/
def moveAddress (newAddress oldAddress : Int) : HvM Bool := do
  -- the board stops answering while it changes its address
  let _ ← attempt (HVModBus.setModbusAddress newAddress oldAddress) (pure ())
  let _ ← HVModBus.resetConnection
  if ← HVModBus.checkAddress newAddress then
    moveToOk newAddress
    pure true
  else pure false

def changeFebAddress (newAddress : Int) (standardAddr : Option Int) : HvM HvResult :=
  tryExcept (do
    let _ ← HVModBus.resetConnection
    -- `standard_addr or new_address`
    let preferred := match standardAddr with
      | some addr => if addr = 0 then newAddress else addr
      | none => newAddress
    match ← HVModBus.findFebAddress preferred with
    | none => pure { data := .address false none newAddress }
    | some oldAddress =>
      if oldAddress = newAddress then
        moveToOk newAddress
        pure { data := .address true (some oldAddress) newAddress }
      else do
        let success ← moveAddress newAddress oldAddress
        pure { data := .address success (some oldAddress) newAddress }) fun _ =>
    pure { data := .address false none newAddress }

def setPmtSerial (channel : Int) (serial : String) : HvM Unit :=
  if channel < 1 ∨ HVModBus.numChannels < channel then raise s!"Invalid HV channel: {channel}"
  else HVModBus.setPMTSerialNumber serial channel

/-- `pmt_serial.strip("\x00").strip()` is not empty. -/
def hasSerial (pmtSerial : String) : Bool :=
  !(stripChars pySpace (stripChars (· = '\x00') pmtSerial.toList)).isEmpty

/-- One channel of `check_missing_serial`: whether its serial is missing. -/
def checkSerial (ch : Int) : HvM Bool := do
  let serial ← attempt (HVModBus.getInfo ch) (pure ())
  if serial.any hasSerial then pure false
  else
    moveToMissingSerial ch
    pure true

def checkMissingSerial (channels : List Int) : HvM (List Int) := do
  let outcomes ← mapEach channels checkSerial
  pure ((outcomes.filter (·.2)).map (·.1))

/-- `serial.rstrip("\x00").strip()`. -/
def normalizeSerial (serial : String) : String :=
  String.ofList (stripChars pySpace (rstripChars (· = '\x00') serial.toList))

/-- The entry of the serial map: "0" for a serial that is missing or cannot be read. -/
def serialOf (ch : Int) : HvM String := do
  match ← attempt (HVModBus.getInfo ch) (pure ()) with
  | some serial => pure (if hasSerial serial then normalizeSerial serial else "0")
  | none => pure "0"

def getSerialMap (channels : List Int) : HvM (Dict Int String) := do
  let serials ← mapEach channels.eraseDups serialOf
  pure (dictOf serials)

/-! ## Start -/

/-- The startup scan: the channels that answer, and the others. -/
def checkChannel (channels : List Int) : HvM (List Int × List Int) := do
  let outcomes ← mapEach channels fun ch => attempt (addressAnswers ch) (pure ())
  pure ((outcomes.filter (·.2 = some true)).map (·.1),
    (outcomes.filter (·.2 ≠ some true)).map (·.1))

/-- The power state of one channel of the startup scan. -/
def syncChannel (ch : Int) : HvM Unit := do
  let (status, _) ← readStatusAlarm ch
  if status = .up then moveToOn ch else moveToOff ch

/-- `sync_power_state` over the list `self.ok_ch` itself: the first channel that raises is removed
from the list under the loop, so that the next one is skipped; after that `self.ok_ch` is another
list (`shared` is false). -/
def syncPowerState : (shared : Bool) → List Int → HvM Unit
  | _, [] => pure ()
  | shared, ch :: rest => do
    match ← attempt (syncChannel ch) (moveToBad ch) with
    | some _ => syncPowerState shared rest
    | none =>
      match shared, rest with
      | true, _ :: rest => syncPowerState false rest
      | _, rest => syncPowerState false rest

/-- `HV.__init__`. -/
def init (fixedBadChannels : List Int) : HvM Unit := do
  let scanChannels := (ChannelsArg.all.chList 7).filter (· ∉ fixedBadChannels)
  let (ok, bad) ← checkChannel scanChannels
  modify fun _ => { okCh := ok, badCh := bad }
  forEach fixedBadChannels moveToFixedBad
  let okCh ← getOkChannels
  syncPowerState true okCh

end HV

end MultiDAQ.Client
