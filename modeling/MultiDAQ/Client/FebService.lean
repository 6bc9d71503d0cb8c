import MultiDAQ.Client.RcService
import MultiDAQ.Client.SafeState

/-!
# Programming the front-end boards

`FEBService.program` (`client/hardware/feb/feb_service.py`) and what it calls. It sends RC and HV
commands, which the worker threads of the services execute, and runs `stm32flash`; between two
commands it moves channels from one list to another itself. What becomes of each command and of each
attempt at flashing is a `FebEnv`. RC channels are numbered from 0, HV channels from 1.
-/

namespace MultiDAQ.Client

open MultiDAQ.Lib MultiDAQ.Lib.Interaction

/-- The parts of `ClientRunTime` that the programming reads or changes. An acquisition configuration
that is missing is empty. -/
structure FebRuntime where
  hvService : Option HvService
  rc : RcState
  acqMode : Option AcqMode := none
  acqInfo : Dict Int HV.ChannelConfig := Dict.empty

/-- How an attempt at flashing ends. -/
inductive FlashOutcome
  | flashed
  | failed
  /-- There is no firmware file. -/
  | noFirmware
  deriving DecidableEq, Repr

/-- What becomes of the commands of a call, in the order in which they are sent, and of the attempts
at flashing. -/
structure FebEnv where
  hv : Nat → Delivery × HvBus
  rc : Nat → Delivery × RcMemory
  flash : Nat → FlashOutcome

/-- The arguments of `program`. What else it is given only `stm32flash` reads. -/
structure FebRequest where
  channels : ChannelsArg
  standardAddr : Option Int := none
  flash : Bool := true
  deriving DecidableEq

/-- The result of `program`; an item that an early return leaves out is `none`. What else it holds
is copied from the request. -/
structure FebResult where
  success : Bool := false
  successfulChannels : List Int := []
  failedChannels : List Int := []
  skippedFixedBadChannels : List Int := []
  dataModeOk : Option Bool := none
  hvRestoreOk : Option Bool := none
  error : Option String := none
  deriving DecidableEq, Repr

/-- `_submit_command` of the RC service. -/
def RcService.submitCommand (rc : RcState) (command : RcOperation) (memory : RcMemory) :
    Delivery → RcResponse × RcState
  | .expired => ({ status := .error }, rc)
  | .late _ => ({ status := .error }, (execute).2.state)
  | .answered =>
    match execute with
    | (.ok response, w) => (response, w.state)
    | (.error _, w) => ({ status := .error }, w.state)
where
  execute := executeResponse { requestId := "", command, sender := some "feb_service" } memory
    { state := rc }

/-- The client during a call, with the number of commands sent and of attempts made. -/
structure FebRun where
  hvService : HvService
  rc : RcState
  hvSent : Nat := 0
  rcSent : Nat := 0
  attempts : Nat := 0

namespace FebRun

variable (env : FebEnv) (s : FebRun)

/-- `_submit_hv_command`. -/
def submitHv (request : HvRequest) (s : FebRun) : Bool × FebRun :=
  let (delivery, bus) := env.hv s.hvSent
  let (response, hvService, _) := s.hvService.submitCommand request bus delivery
  (response.status = .ok, { s with hvService, hvSent := s.hvSent + 1 })

/-- `_submit_rc_command`. -/
def submitRc (command : RcOperation) (s : FebRun) : Bool × FebRun :=
  let (delivery, memory) := env.rc s.rcSent
  let (response, rc) := RcService.submitCommand s.rc command memory delivery
  (response.status = .ok, { s with rc, rcSent := s.rcSent + 1 })

/-- A change of the channel lists that the caller makes itself. -/
def move (f : HvLists → HvLists) : FebRun :=
  { s with hvService := { s.hvService with hv := f s.hvService.hv } }

/-- The next step, if the last one succeeded. -/
def andThen (r : Bool × FebRun) (next : FebRun → Bool × FebRun) : Bool × FebRun :=
  if r.1 then next r.2 else r

/-- `_boot_and_flash` with so many attempts left. -/
def bootAndFlash (ch : Int) : Nat → FebRun → Bool × FebRun
  | 0, s => (false, s)
  | attempts + 1, s =>
    andThen (submitRc env (.rcReset (some .all)) s) fun s =>
    andThen (submitRc env (.rcBoot (some (.one ch))) s) fun s =>
    match env.flash s.attempts with
    | .flashed => (true, { s with attempts := s.attempts + 1 })
    | .noFirmware => (false, { s with attempts := s.attempts + 1 })
    | .failed => bootAndFlash ch attempts { s with attempts := s.attempts + 1 }

def flashAttempts : Nat := 3

/-- The steps of one turn of the loop of `program`. -/
def programSteps (request : FebRequest) (ch : Int) (s : FebRun) : Bool × FebRun :=
  andThen (if request.flash then bootAndFlash env ch flashAttempts s else (true, s)) fun s =>
  andThen (submitRc env .rcFebResetAfterFlash s) fun s =>
  andThen (submitRc env (.rcFebSelectAddressChange (some (.one ch))) s) fun s =>
  submitHv env (.febChangeAddress ch request.standardAddr) s

/-- One turn of the loop of `program`: a channel of which a step fails becomes bad. -/
def programChannel (request : FebRequest) (ch : Int) (s : FebRun) : Bool × FebRun :=
  match programSteps env request ch s with
  | (true, s) => (true, s.move fun l => (l.moveToOk (ch + 1)).moveToOff (ch + 1))
  | (false, s) => (false, s.move (·.moveToBad (ch + 1)))

/-- The loop of `program`: the successful channels and the failed ones. -/
def programChannels (request : FebRequest) : List Int → FebRun → (List Int × List Int) × FebRun
  | [], s => (([], []), s)
  | ch :: rest, s =>
    let (success, s) := programChannel env request ch s
    let ((successful, failed), s) := programChannels request rest s
    (if success then (ch :: successful, failed) else (successful, ch :: failed), s)

/-- The HV commands that bring the programmed channels back in calibration mode. -/
def restoreCalibration (channels : ChannelsArg) (s : FebRun) : Bool × FebRun :=
  andThen (submitHv env (.setCommonVoltage channels 1200) s) fun s =>
  andThen (submitHv env (.setCommonThreshold channels 400) s) fun s =>
  submitHv env (.hvOnAndWait channels) s

def restoreMultipmt (acqInfo : Dict Int HV.ChannelConfig) (channels : ChannelsArg) (s : FebRun) :
    Bool × FebRun :=
  if acqInfo.entries = [] then (false, s)
  else
    andThen (submitHv env (.setAcquisitionConfiguration channels acqInfo false) s) fun s =>
    submitHv env (.hvOnAndWait channels) s

/-- The HV part of `_restore_after_programming`. -/
def restoreHv (rt : FebRuntime) (channels : ChannelsArg) (s : FebRun) : Bool × FebRun :=
  match rt.acqMode with
  | some .test => (true, s)
  | some .calibration => restoreCalibration env channels s
  | some .multipmt => restoreMultipmt env rt.acqInfo channels s
  -- an unknown mode: the HV stays off
  | none => (true, s)

/-- `_restore_after_programming`: `data_mode_ok`, `hv_restore_ok`. -/
def restoreAfterProgramming (rt : FebRuntime) (successfulChannels : List Int) (s : FebRun) :
    (Bool × Bool) × FebRun :=
  if successfulChannels = [] then ((false, false), s)
  else
    match submitRc env (.rcAcqStart (some (.list successfulChannels))) s with
    | (false, s) => ((false, false), s)
    | (true, s) =>
      let (hvRestoreOk, s) := restoreHv env rt (.list (successfulChannels.map (· + 1))) s
      ((true, hvRestoreOk), s)

/-- The part of `program` after the HV is off. -/
def programAll (rt : FebRuntime) (request : FebRequest) (channelList skipped : List Int)
    (s : FebRun) : FebResult × FebRun :=
  let ((successful, failed), s) := programChannels env request channelList s
  let s := s.move fun l => failed.foldl (fun l ch => l.moveToBad (ch + 1)) l
  let ((dataModeOk, hvRestoreOk), s) := restoreAfterProgramming env rt successful s
  ({
    success := !successful.isEmpty && dataModeOk && hvRestoreOk
    successfulChannels := successful
    failedChannels := failed
    skippedFixedBadChannels := skipped
    dataModeOk := some dataModeOk
    hvRestoreOk := some hvRestoreOk }, s)

/-- `program` for the channels that are not fixed bad, of which there are some. -/
def switchOffAndProgram (rt : FebRuntime) (request : FebRequest) (channelList skipped : List Int)
    (s : FebRun) : FebResult × FebRun :=
  let okOnHvChannels := sorted (s.hvService.hv.okCh.filter (· ∈ s.hvService.hv.onCh)).dedup
  if okOnHvChannels = [] then programAll env rt request channelList skipped s
  else
    match submitHv env (.hvOffAndWait (.list okOnHvChannels)) s with
    | (true, s) => programAll env rt request channelList skipped s
    | (false, s) =>
      ({
        failedChannels := channelList
        skippedFixedBadChannels := skipped
        dataModeOk := some false
        hvRestoreOk := some false
        error := some "Failed to switch OFF known OK+ON HV channels before FEB programming" }, s)

end FebRun

/-- `FEBService.program`; it raises on a channel that is out of range. -/
def FebRuntime.program (rt : FebRuntime) (env : FebEnv) (request : FebRequest) :
    Except String (FebResult × FebRuntime) :=
  match rt.hvService with
  | none => .ok ({
      error := some "HVService unavailable. Apply acquisition mode before programming FEB." }, rt)
  | some hvService => do
    let requestedChannels ← rcChannelsDefinition request.channels
    let skipped := requestedChannels.filter fun ch => ch + 1 ∈ hvService.hv.fixedBad
    let channelList := requestedChannels.filter fun ch => ch + 1 ∉ hvService.hv.fixedBad
    if channelList = [] then
      pure ({
        skippedFixedBadChannels := skipped
        error := some "No valid RC channels selected" }, rt)
    else
      let (result, s) := FebRun.switchOffAndProgram env rt request channelList skipped
        { hvService, rc := rt.rc }
      pure (result, { rt with hvService := some s.hvService, rc := s.rc })

end MultiDAQ.Client
