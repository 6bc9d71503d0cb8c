import MultiDAQ.Server.ProcessEvent
import MultiDAQ.Lib.Run

/-!
# The client registry and the operations of `ServerState`

The operations of `server/core/server_state.py` that register and remove clients on the three planes
and change the operational flag, and `ServerOp`, every operation that changes the state. Each of
them runs under the lock of the state, so an interleaving of the threads of the server is a list of
operations. An operation that raises (`none`) leaves the state as it was.
-/

namespace MultiDAQ.Server

open MultiDAQ.Lib

namespace ServerState

/-- `if client_id not in self.clients: self.clients[client_id] = ClientRecord()`. -/
def withRecord (clients : Dict ClientId ClientRecord) (cid : ClientId) (now : Nat) :
    Dict ClientId ClientRecord :=
  if clients.contains cid then clients else clients.set cid { connectedAt := now }

/-- The index update of `add_control_client`: the MAC address is indexed unless it is falsy. -/
def indexMac (index : Dict String ClientId) (cid : ClientId) (identity : Identity) :
    Dict String ClientId :=
  match identity.macAddress with
  | some mac => if mac.truthy then index.set mac.text cid else index
  | none => index

/-- `add_control_client`, `add_client`. -/
def addControlClient (s : ServerState) (clientId : PyId) (identity : Option Identity)
    (now : Nat) : Option ServerState :=
  match clientId.toClientId with
  | none => none
  | some cid =>
    let clients :=
      (withRecord s.clients cid now).modify cid fun r => { r with onControlPlane := true }
    match identity with
    | none => some { s with clients := clients }
    | some identity =>
      some { s with
        clients := clients.modify cid fun r => { r with identity := some identity }
        clientIdByMac := indexMac s.clientIdByMac cid identity }

/-- The index update of `_forget_client_locked` for the record that was popped. -/
def unindexMac (index : Dict String ClientId) (cid : ClientId) (r : ClientRecord) :
    Dict String ClientId :=
  match r.identity.bind (·.macAddress) with
  | none => index
  | some mac => if index.get? mac.text = some cid then index.erase mac.text else index

/-- `remove_client`, `remove_control_client` (through `_forget_client_locked`). -/
def removeClient (s : ServerState) (cid : ClientId) : ServerState :=
  match s.clients.get? cid with
  | none => s
  | some r => { s with
      clients := s.clients.erase cid
      clientIdByMac := unindexMac s.clientIdByMac cid r }

def getClientIdByMac (s : ServerState) (mac : String) : Option ClientId :=
  s.clientIdByMac.get? mac

def addAcquisitionClient (s : ServerState) (clientId : PyId) : Option ServerState :=
  match clientId.toClientId with
  | none => none
  | some cid =>
    match s.clients.get? cid with
    | none => none
    | some r =>
      if !r.onControlPlane then none
      else some { s with
        clients := s.clients.modify cid fun r => { r with onAcquisitionPlane := true } }

def removeAcquisitionClient (s : ServerState) (cid : ClientId) : ServerState :=
  { s with clients := s.clients.modify cid fun r =>
      { r with onAcquisitionPlane := false, operational := false } }

def clearAcquisitionClients (s : ServerState) : ServerState :=
  { s with clients := s.clients.mapVals fun _ r =>
      if r.onAcquisitionPlane then { r with onAcquisitionPlane := false, operational := false }
      else r }

def addMonitoringClient (s : ServerState) (clientId : PyId) : Option ServerState :=
  match clientId.toClientId with
  | none => none
  | some cid =>
    match s.clients.get? cid with
    | none => none
    | some r =>
      if !r.onControlPlane then none
      else some { s with
        clients := s.clients.modify cid fun r => { r with onMonitoringPlane := true } }

def removeMonitoringClient (s : ServerState) (cid : ClientId) : ServerState :=
  { s with clients := s.clients.modify cid fun r => { r with onMonitoringPlane := false } }

def clearMonitoringClients (s : ServerState) : ServerState :=
  { s with clients := s.clients.mapVals fun _ r => { r with onMonitoringPlane := false } }

/-- `set_operational_clients`: every client must be on both planes. -/
def setOperationalClients (s : ServerState) (ids : List ClientId) : Option ServerState :=
  if ids.all (s.commonPlaneClientIds.contains ·) then some (s.setOperational ids) else none

def removeOperationalClient (s : ServerState) (cid : ClientId) : ServerState :=
  { s with clients := s.clients.modify cid fun r => { r with operational := false } }

/-- `set_mode`. -/
def setMode (s : ServerState) (mode : String) : Option ServerState :=
  let normalized := (strip mode).toLower
  if ["test", "calibration", "multipmt"].contains normalized then
    some { s with acqMode := normalized }
  else none

/-- One channel of `set_client_hv_parameters`: the keys that are given replace the stored ones. -/
def mergeHvParameters (d : Dict Int HvParameters) (ch : Int) (params : HvParameters) :
    Dict Int HvParameters :=
  let entry := (d.get? ch).getD {}
  d.set ch {
    voltage := params.voltage <|> entry.voltage
    threshold := params.threshold <|> entry.threshold
    powerState := params.powerState <|> entry.powerState }

def setClientHvParameters (s : ServerState) (cid : ClientId)
    (acqInfo : List (Int × HvParameters)) : ServerState :=
  let merge (d : Dict Int HvParameters) := acqInfo.foldl (fun d e => mergeHvParameters d e.1 e.2) d
  { s with clients := s.clients.modify cid fun r =>
      { r with hvParameters := merge r.hvParameters } }

def setCalibrationExcludedChannels (s : ServerState) (cid : ClientId) (channels : List Int) :
    ServerState :=
  { s with clients := s.clients.modify cid fun r =>
      { r with calibrationExcludedChannels := channels } }

/-- `set_configuration_identity`. -/
def setConfigurationIdentity (s : ServerState) (cid : ClientId) (multipmtId batchId : PyValue) :
    Bool × ServerState :=
  if !multipmtId.truthy || !batchId.truthy then (false, s)
  else if s.clients.contains cid then
    let chosen : ConfigurationIdentity :=
      { multipmtId := multipmtId.text, batchId := batchId.text }
    (true, { s with clients := s.clients.modify cid fun r =>
      { r with configurationIdentity := some chosen } })
  else (false, s)

/-- `reset_to_disconnected`. -/
def resetToDisconnected (s : ServerState) (reason source : String) (now : Nat) : ServerState :=
  { s.clearOperational with
    previousState := some s.runState
    runState := .disconnected
    pendingEvent := none
    pendingTerminalState := none
    pendingContext := none
    lastEventContext := some (.reset reason source now) }

/-- `clear_pending_transition`. -/
def clearPendingTransition (s : ServerState) : ServerState :=
  { s with pendingTerminalState := none, pendingEvent := none, pendingContext := none }

end ServerState

/-! ## All operations -/

/-- Every operation that changes the state. -/
inductive ServerOp
  | processEvent (c : EventCall)
  | processClientEvent (c : ClientEventCall)
  | resetToDisconnected (reason source : String) (now : Nat)
  | clearPendingTransition
  | addControlClient (clientId : PyId) (identity : Option Identity) (now : Nat)
  | removeClient (cid : ClientId)
  | addAcquisitionClient (clientId : PyId)
  | removeAcquisitionClient (cid : ClientId)
  | clearAcquisitionClients
  | addMonitoringClient (clientId : PyId)
  | removeMonitoringClient (cid : ClientId)
  | clearMonitoringClients
  | setOperationalClients (ids : List ClientId)
  | removeOperationalClient (cid : ClientId)
  | clearOperationalClients
  | setMode (mode : String)
  | setClientHvParameters (cid : ClientId) (acqInfo : List (Int × HvParameters))
  | setCalibrationExcludedChannels (cid : ClientId) (channels : List Int)
  | setConfigurationIdentity (cid : ClientId) (multipmtId batchId : PyValue)

/-- The state after one operation. -/
def ServerState.step (s : ServerState) : ServerOp → ServerState
  | .processEvent c => (s.processEvent c).2
  | .processClientEvent c => (s.processClientEvent c).2
  | .resetToDisconnected reason source now => s.resetToDisconnected reason source now
  | .clearPendingTransition => s.clearPendingTransition
  | .addControlClient clientId identity now => (s.addControlClient clientId identity now).getD s
  | .removeClient cid => s.removeClient cid
  | .addAcquisitionClient clientId => (s.addAcquisitionClient clientId).getD s
  | .removeAcquisitionClient cid => s.removeAcquisitionClient cid
  | .clearAcquisitionClients => s.clearAcquisitionClients
  | .addMonitoringClient clientId => (s.addMonitoringClient clientId).getD s
  | .removeMonitoringClient cid => s.removeMonitoringClient cid
  | .clearMonitoringClients => s.clearMonitoringClients
  | .setOperationalClients ids => (s.setOperationalClients ids).getD s
  | .removeOperationalClient cid => s.removeOperationalClient cid
  | .clearOperationalClients => s.clearOperational
  | .setMode mode => (s.setMode mode).getD s
  | .setClientHvParameters cid acqInfo => s.setClientHvParameters cid acqInfo
  | .setCalibrationExcludedChannels cid channels => s.setCalibrationExcludedChannels cid channels
  | .setConfigurationIdentity cid multipmtId batchId =>
    (s.setConfigurationIdentity cid multipmtId batchId).2

/-- The state after a list of operations. -/
abbrev ServerState.runOps (s : ServerState) (ops : List ServerOp) : ServerState :=
  run ServerState.step s ops

/-- A state the server can be in: the one it starts in, after some operations. -/
def ServerState.IsReachable (s : ServerState) : Prop :=
  ∃ mode, Reachable ServerState.step (ServerState.init mode) s

end MultiDAQ.Server
