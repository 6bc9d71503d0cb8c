import MultiDAQ.Server.HvOverride
import MultiDAQ.Server.State

/-!
# The preparation and the session of an acquisition

`AcquisitionOrchestrator` (`server/services/acquisition_orchestrator.py`): `start`, with the steps of
`_prepare_and_start`, and the session thread. The services that it calls are the device, and any of
them may raise. The state is `hv_previous`, the saved values of the clients whose override changed
something, in the hands of `start` first and of the session afterwards. A restore that raises ends the
loop over the clients, and an override that raises ends the preparation.
-/

namespace MultiDAQ.Server

open MultiDAQ.Lib MultiDAQ.Lib.Interaction MultiDAQ.Client

/-! ## The services -/

/-- An override command: the client that it is for, and whether the reply arrives. -/
structure HvExchange where
  hvPolicy : Option HvPolicy
  bus : HvBus
  world : World HvLists HvCall
  replied : Bool

namespace HvExchange

/-- What `apply_hv_override` returns. -/
def outcome (exchange : HvExchange) (acqInfo : Dict Int HV.ChannelConfig) : Option HvOutcome :=
  if exchange.replied then
    (applyHvOverride exchange.hvPolicy acqInfo true exchange.bus exchange.world).1.toOption.join
  else none

/-- The client after it has executed the command. -/
def after (exchange : HvExchange) (acqInfo : Dict Int HV.ChannelConfig) : World HvLists HvCall :=
  (applyHvOverride exchange.hvPolicy acqInfo true exchange.bus exchange.world).2

/-- The channels that `restore_hv_override` reports as restored. -/
def restored (exchange : HvExchange) (previous : Dict Int SetPoints) : List Int :=
  if exchange.replied then
    match (restoreHvOverride exchange.hvPolicy previous exchange.bus exchange.world).1 with
    | .ok (restored, _) => restored
    | .error _ => []
  else []

end HvExchange

/-- What `resolve_hv_overrides` returns. -/
structure ResolvedOverride where
  hvOverride : Option (Dict Int HV.ChannelConfig)
  excluded : Dict Int String
  error : Option String

inductive OrchCall (α : Type)
  | getServerState
  | buildTriggerConfiguration
  | getOperationalClients
  | getConnectedClients
  | processEvent (event : ServerFSMEvent)
  | disableRcChannels (clients : List α)
  | getTestRcChannels (client : α)
  | prepareHvChannelsForAcquisition (clients : List α)
  | getCalibrationExcludedChannels (client : α)
  | resolveHvOverrides (client : α)
  | applyHvOverride (client : α) (acqInfo : Dict Int HV.ChannelConfig)
  | restoreHvOverride (client : α) (previous : Dict Int SetPoints)
  | configureAcquisitionClient (client : α) (channels : List Int)
  | resolveBatchId (clients : List α)
  | beginSession
  | startSessionThread
  | runAcquisitionSession (clients : List α)
  | closeSession (success : Bool)
  | removeOperationalClient (client : α)
  deriving DecidableEq

/-- What a service returns. -/
def OrchCall.Value {α : Type} : OrchCall α → Type
  | .getServerState => ServerFSM
  | .buildTriggerConfiguration => Bool
  | .getOperationalClients | .getConnectedClients => List α
  | .processEvent _ | .disableRcChannels _ | .configureAcquisitionClient .. => Bool
  | .getTestRcChannels _ | .getCalibrationExcludedChannels _ => List Int
  | .prepareHvChannelsForAcquisition _ => Dict α (List Int)
  | .resolveHvOverrides _ => ResolvedOverride
  | .applyHvOverride .. | .restoreHvOverride .. => HvExchange
  | .resolveBatchId _ => Option String
  | .runAcquisitionSession _ => Bool
  | .beginSession | .startSessionThread | .closeSession _ | .removeOperationalClient _ => Unit

/-- The saved values of each client. -/
abbrev HvPrevious (α : Type) : Type := Dict α (Dict Int SetPoints)

abbrev Services (α : Type) : Type := Device (OrchCall α) OrchCall.Value String

abbrev OrchM (α β : Type) : Type := Interaction (OrchCall α) OrchCall.Value String (HvPrevious α) β

/-- What the session thread is started with. -/
structure SessionArgs (α : Type) where
  clients : List α
  hvPrevious : HvPrevious α

namespace AcquisitionOrchestrator

variable {α : Type} [DecidableEq α]

def serverState : OrchM α ServerFSM := call OrchCall.getServerState

def processEvent (event : ServerFSMEvent) : OrchM α Bool :=
  call (OrchCall.processEvent event)

def disableRcChannels (clients : List α) : OrchM α Bool :=
  call (OrchCall.disableRcChannels clients)

/-! ## The restore -/

/-- One client of `_restore_hv_overrides`: whether it could not be restored on any channel. -/
def restoreClient (client : α) : OrchM α Bool := do
  match ← read (·.get? client) with
  | none => pure false
  | some previous =>
    modify (·.erase client)
    let exchange : HvExchange ← call (OrchCall.restoreHvOverride client previous)
    pure (previous.entries ≠ [] ∧ exchange.restored previous = [])

/-- `_restore_hv_overrides` of the clients that satisfy `among`. -/
def restoreHvOverrides (among : α → Bool) : OrchM α (List α) := do
  let clients ← read fun hvPrevious => hvPrevious.keys.filter among
  let outcomes ← mapEach clients restoreClient
  pure ((outcomes.filter (·.2)).map (·.1))

/-! ## The steps of the preparation -/

/-- `_exclude_channels`. -/
def excludeChannels (channels excluded : List Int) : List Int :=
  sorted (channels.dedup.filter (· ∉ excluded))

/-- The clients that a step keeps, with what it makes of them. -/
def kept {β : Type} (outcomes : List (α × Option β)) : Dict α β :=
  (outcomes.filterMap fun e => e.2.map (e.1, ·)).foldl (fun d e => d.set e.1 e.2) Dict.empty

/-- Step 1: RC19 off. -/
def disableStep (clients : List α) : OrchM α (List α) := do
  let outcomes ← mapEach clients fun client => disableRcChannels [client]
  pure ((outcomes.filter (·.2)).map (·.1))

/-- A client without channels is dropped. -/
def nonempty (channels : List Int) : Option (List Int) :=
  if channels = [] then none else some channels

/-- Step 2: the channels usable according to the hardware. -/
def selectionStep (mode : Option AcquisitionMode) (active : List α) :
    OrchM α (Dict α (List Int)) :=
  if mode = some .test then
    kept <$> mapEach active fun client => nonempty <$> call (OrchCall.getTestRcChannels client)
  else if active = [] then pure Dict.empty
  else do
    let enabled : Dict α (List Int) ← call (OrchCall.prepareHvChannelsForAcquisition active)
    pure (kept (active.map fun client => (client, (enabled.get? client).bind nonempty)))

/-- The channels of a client among those that a step left. -/
def channelsOf (channels : Dict α (List Int)) (client : α) : List Int :=
  (channels.get? client).getD []

/-- Step 3: channels without a matching calibration. -/
def calibrationStep (mode : Option AcquisitionMode) (channels : Dict α (List Int)) :
    OrchM α (Dict α (List Int)) :=
  if mode = some .multipmt then
    kept <$> mapEach channels.keys fun client => do
      let excluded : List Int ← call (OrchCall.getCalibrationExcludedChannels client)
      pure (nonempty (excludeChannels (channelsOf channels client) excluded))
  else pure channels

/-- The channels that cannot be overridden are left out, reason by reason. -/
def excludeUnresolved (channels : List Int) (excluded : Dict Int String) : List Int :=
  (excluded.entries.map (·.2)).dedup.foldl
    (fun left reason => excludeChannels left (excluded.keysWhere (· = reason))) channels

/-- The override of one client, and the channels that it leaves. -/
def applyOverride (client : α) (channels : List Int) (hvOverride : Dict Int HV.ChannelConfig) :
    OrchM α (Option (List Int)) := do
  let exchange : HvExchange ← call (OrchCall.applyHvOverride client hvOverride)
  match exchange.outcome hvOverride with
  | none => pure none
  | some outcome =>
    if outcome.previous.entries ≠ [] then
      modify (·.set client outcome.previous)
    let left := excludeChannels channels (hvOverride.keys.filter (· ∉ outcome.configured))
    if left = [] then
      let _ ← restoreHvOverrides (· = client)
      pure none
    else pure (some left)

/-- One client of step 4. -/
def overrideClient (channels : List Int) (client : α) : OrchM α (Option (List Int)) := do
  let resolved : ResolvedOverride ← call (OrchCall.resolveHvOverrides client)
  if resolved.error ≠ none then pure none
  else
    let left := excludeUnresolved channels resolved.excluded
    if left = [] then pure none
    else match resolved.hvOverride with
      | none => pure (some left)
      | some hvOverride =>
        if hvOverride.entries = [] then pure (some left)
        else applyOverride client left hvOverride

/-- Step 4: the override requested by the user. -/
def overrideStep (channels : Dict α (List Int)) : OrchM α (Dict α (List Int)) :=
  kept <$> mapEach channels.keys fun client => overrideClient (channelsOf channels client) client

/-- One client of step 5. -/
def configureClient (channels : List Int) (client : α) : OrchM α Bool := do
  let rcOk : Bool ← call (OrchCall.configureAcquisitionClient client channels)
  if rcOk then pure true
  else do
    let _ ← restoreHvOverrides (· = client)
    pure false

/-- Step 5: the trigger configuration. -/
def configureStep (channels : Dict α (List Int)) : OrchM α (List α) := do
  let outcomes ← mapEach channels.keys fun client => configureClient (channelsOf channels client) client
  pure ((outcomes.filter (·.2)).map (·.1))

/-! ## The start -/

/-- The run does not start: the saved values go back. -/
def abandon (readyClients : List α) : OrchM α (Option (SessionArgs α)) := do
  let _ ← disableRcChannels readyClients
  let _ ← restoreHvOverrides fun _ => true
  pure none

/-- The session thread, and with it the restore. -/
def startSession (readyClients : List α) : OrchM α (Option (SessionArgs α)) := do
  let _ : Unit ← call OrchCall.beginSession
  let hvPrevious ← read id
  let _ : Unit ← call OrchCall.startSessionThread
  modify fun _ => Dict.empty
  pure (some { clients := readyClients, hvPrevious := hvPrevious })

/-- `_prepare_and_start`. -/
def prepareAndStart (mode : Option AcquisitionMode) (clients : List α) :
    OrchM α (Option (SessionArgs α)) := do
  let active ← disableStep clients
  let selected ← selectionStep mode active
  let calibrated ← calibrationStep mode selected
  let overridden ← overrideStep calibrated
  let readyClients ← configureStep overridden
  if readyClients = [] then
    let _ ← restoreHvOverrides fun _ => true
    let _ ← processEvent .configurationFailed
    pure none
  else if !(← processEvent .configurationSucceeded) then
    let _ ← processEvent .configurationFailed
    abandon readyClients
  else
    let batch : Option String ← call (OrchCall.resolveBatchId readyClients)
    if batch = none then abandon readyClients
    else if !(← processEvent .acquisitionStarted) then abandon readyClients
    else startSession readyClients

/-- What `start` does if the preparation raises. -/
def recoverStart : OrchM α Unit := do
  let _ ← tryExcept (restoreHvOverrides fun _ => true) fun _ => pure []
  match ← serverState with
  | .configuring =>
    let _ ← processEvent .configurationFailed
    pure ()
  | .acquiring => call (OrchCall.closeSession false)
  | _ => pure ()

/-- `start`: the session, if its thread was started. -/
def start (mode : Option AcquisitionMode) : OrchM α (Option (SessionArgs α)) := do
  modify fun _ => Dict.empty
  if (← serverState) ≠ .ready then pure none
  else if !(← (call OrchCall.buildTriggerConfiguration : OrchM α Bool)) then pure none
  else
    let operational : List α ← call OrchCall.getOperationalClients
    let connected : List α ← call OrchCall.getConnectedClients
    let clients := connected.filter (· ∈ operational)
    if clients = [] then pure none
    else if !(← processEvent .configurationStarted) then pure none
    else tryExcept (prepareAndStart mode clients) fun _ => do
      recoverStart
      pure none

/-! ## The session -/

/-- `_run_session`. -/
def runSession (session : SessionArgs α) : OrchM α Unit := do
  modify fun _ => session.hvPrevious
  let success ← tryExcept (call (OrchCall.runAcquisitionSession session.clients)) fun _ =>
    (pure false : OrchM α Bool)
  let unrestored ← tryExcept (restoreHvOverrides fun _ => true) fun _ => pure []
  let _ : Unit ← call (OrchCall.closeSession success)
  forEach unrestored fun client => call (OrchCall.removeOperationalClient client)

/-- An acquisition run: `start`, and the session thread to its end. -/
def acquisitionRun (mode : Option AcquisitionMode) : OrchM α Unit := do
  match ← start mode with
  | none => pure ()
  | some session => runSession session

end AcquisitionOrchestrator

end MultiDAQ.Server
