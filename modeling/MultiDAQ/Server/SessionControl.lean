import MultiDAQ.Server.Registry
import Mathlib.Logic.Function.Basic

/-!
# Beginning, stopping and closing a session

The flags of `AcquisitionService` (`server/services/acquisition_service.py`) for the active session,
beside the state of the server, and the threads that set them: the commands of the operator, from
the console or from the web (`start` and `stop` of `AcquisitionOrchestrator`, `scan_ttp` of
`CalibrationOrchestrator`, `do_quit`), and the thread of a session (`_run_session`,
`_run_ttp_scan_loop`). What a session does with its clients is not modelled here. A step is what a
thread does from one access to shared data to the next.
-/

namespace MultiDAQ.Server

open MultiDAQ.Lib

inductive SessionKind
  | acquisition
  | ttpScan (values : String)
  deriving DecidableEq, Repr

def SessionKind.startReason : SessionKind → String
  | .acquisition => "Acquisition started"
  | .ttpScan values => "TTP scan started, values=" ++ values

def SessionKind.startSource : SessionKind → String
  | .acquisition => "acquisition_orchestrator"
  | .ttpScan _ => "calibration_orchestrator"

/-- The reason `close_session` is given. -/
def SessionKind.closeReason : SessionKind → String
  | .acquisition => "acquisition session completed"
  | .ttpScan _ => "TTP scan completed"

/-- What a thread is about to do. -/
inductive SessionTask
  | idle
  /-- A start sends `ACQUISITION_STARTED`. -/
  | starting (kind : SessionKind) (active : IdsEntry)
  /-- `begin_session` sets `_session_active`. -/
  | activating (kind : SessionKind)
  /-- It clears `_session_complete_event`. -/
  | reopening (kind : SessionKind)
  /-- It clears `_stop_requested`. -/
  | clearing (kind : SessionKind)
  /-- The thread of the session is started. -/
  | launching (kind : SessionKind)
  /-- The session runs. -/
  | running (kind : SessionKind)
  /-- `_on_duration_elapsed`. -/
  | elapsed (kind : SessionKind)
  /-- A scan whose points are over reads the run state. -/
  | scanEnded (kind : SessionKind) (success : Bool)
  | scanStopping (kind : SessionKind) (success : Bool)
  /-- `close_session` reads the run state. -/
  | closing (kind : SessionKind) (success : Bool)
  | closeStopping (kind : SessionKind) (success : Bool)
  /-- It reads the run state again. -/
  | closeReading (kind : SessionKind) (success : Bool)
  | closeFinalizing (kind : SessionKind) (success : Bool)
  /-- It resets `_session_active`. -/
  | deactivating
  | completing
  /-- `stop` reads the run state; with `quit` it is called by a quit command. -/
  | stopping (quit : Bool)
  | stopSending (quit : Bool)
  | stopRequesting (quit : Bool)
  /-- A quit command sends `DISCONNECT_REQUESTED`. -/
  | quitting
  /-- A quit command after `stop`. -/
  | quit
  deriving DecidableEq, Repr

/-- How the thread of a session goes on. -/
inductive SessionEnd
  /-- The duration is over and no stop has been requested. -/
  | elapsed
  | completed (success : Bool)
  | raised
  deriving DecidableEq, Repr

structure SessionControl where
  server : ServerState := .init
  sessionActive : Bool := false
  stopRequested : Bool := false
  sessionComplete : Bool := true
  tasks : Nat → SessionTask := fun _ => .idle

/-- The events that only the threads of this model send. -/
def ServerFSMEvent.ofSession : ServerFSMEvent → Bool
  | .acquisitionStarted | .stopRequested | .receiverCompleted | .finalizationSucceeded
  | .finalizationFailed | .disconnectRequested => true
  | _ => false

/-- The operations of the server that other threads make. Nothing calls `reset_to_disconnected`. -/
def ServerOp.elsewhere : ServerOp → Bool
  | .processEvent c => !(c.event.any (·.ofSession))
  | .resetToDisconnected _ _ _ => false
  | _ => true

inductive OperatorCommand
  | start (kind : SessionKind) (active : IdsEntry)
  | stop
  | quit
  deriving DecidableEq, Repr

def OperatorCommand.task : OperatorCommand → SessionTask
  | .start kind active => .starting kind active
  | .stop => .stopping false
  | .quit => .quitting

inductive SessionAction
  | command (thread : Nat) (command : OperatorCommand)
  /-- `owner` is the thread that a start makes, if it makes one. -/
  | advance (thread : Nat) (now : Nat) (owner : Option Nat) (ending : SessionEnd)
  /-- What else happens to the server. `FATAL_ERROR` is sent for a command that raises. -/
  | server (op : ServerOp)
  /-- `request_stop`, called when every acquiring client is lost. -/
  | clientsLost

namespace SessionControl

def eventCall (event : ServerFSMEvent) (reason source : String) (now : Nat)
    (metadata : EventMetadata := {}) : EventCall where
  event := some event
  reason := some reason
  source := some source
  metadata := metadata
  now := now

def startCall (kind : SessionKind) (active : IdsEntry) (now : Nat) : EventCall :=
  eventCall .acquisitionStarted kind.startReason kind.startSource now { activeClients := active }

def stopCall (now : Nat) : EventCall :=
  eventCall .stopRequested "Manual stop command" "acquisition_orchestrator" now

def quitCall (now : Nat) : EventCall :=
  eventCall .disconnectRequested "Quit command issued" "do_quit" now

def elapsedCall (now : Nat) : EventCall :=
  eventCall .receiverCompleted "Acquisition duration elapsed" "acquisition_orchestrator" now

def scanStopCall (now : Nat) : EventCall :=
  eventCall .stopRequested "TTP scan completed" "calibration_orchestrator" now

def closeStopCall (kind : SessionKind) (now : Nat) : EventCall :=
  eventCall .stopRequested (kind.closeReason ++ " (stop requested)")
    "acquisition_service.close_session" now

def finalizationCall (kind : SessionKind) (success : Bool) (now : Nat) : EventCall :=
  if success then
    eventCall .finalizationSucceeded kind.closeReason "acquisition_service.close_session" now
  else
    eventCall .finalizationFailed (kind.closeReason ++ " (finalization error)")
      "acquisition_service.close_session" now

variable (s : SessionControl) (t : Nat)

def goto (task : SessionTask) : SessionControl :=
  { s with tasks := Function.update s.tasks t task }

/-- The event is sent, and the thread goes on to `accepted` or to `rejected`. -/
def send (c : EventCall) (accepted rejected : SessionTask) : SessionControl :=
  match s.server.processEvent c with
  | (true, server) => { s with server }.goto t accepted
  | (false, server) => { s with server }.goto t rejected

/-- What follows `stop`. -/
def afterStop (quit : Bool) : SessionTask := if quit then .quit else .idle

def advanceRunning (kind : SessionKind) : SessionEnd → SessionControl
  | .elapsed =>
    -- only an acquisition has a callback, and only a wait that times out calls it
    if kind = .acquisition ∧ !s.stopRequested then s.goto t (.elapsed kind) else s
  | .completed success =>
    if kind = .acquisition then s.goto t (.closing kind success)
    else s.goto t (.scanEnded kind success)
  | .raised =>
    -- an exception leaves `_run_ttp_scan_loop` without `close_session`
    if kind = .acquisition then s.goto t (.closing kind false) else s.goto t .idle

/-- A start whose thread cannot be made closes the session, if the server acquires. -/
def advanceLaunching (kind : SessionKind) : Option Nat → SessionControl
  | some owner =>
    if s.tasks owner = .idle then (s.goto t .idle).goto owner (.running kind) else s
  | none =>
    if kind = .acquisition ∧ s.server.runState = .acquiring then s.goto t (.closing kind false)
    else s.goto t .idle

def advance (now : Nat) (owner : Option Nat) (ending : SessionEnd) : SessionControl :=
  match s.tasks t with
  | .idle | .quit => s
  | .starting kind active => s.send t (startCall kind active now) (.activating kind) .idle
  | .activating kind => { s with sessionActive := true }.goto t (.reopening kind)
  | .reopening kind => { s with sessionComplete := false }.goto t (.clearing kind)
  | .clearing kind => { s with stopRequested := false }.goto t (.launching kind)
  | .launching kind => s.advanceLaunching t kind owner
  | .running kind => s.advanceRunning t kind ending
  | .elapsed kind => s.send t (elapsedCall now) (.running kind) (.running kind)
  | .scanEnded kind success =>
    if s.server.runState = .acquiring then s.goto t (.scanStopping kind success)
    else s.goto t (.closing kind success)
  | .scanStopping kind success =>
    s.send t (scanStopCall now) (.closing kind success) (.closing kind success)
  | .closing kind success =>
    if s.server.runState = .acquiring then s.goto t (.closeStopping kind success)
    else s.goto t (.closeReading kind success)
  | .closeStopping kind success =>
    s.send t (closeStopCall kind now) (.closeReading kind success) (.closeReading kind success)
  | .closeReading kind success =>
    if s.server.runState = .finalizing then s.goto t (.closeFinalizing kind success)
    else s.goto t .deactivating
  | .closeFinalizing kind success =>
    s.send t (finalizationCall kind success now) .deactivating .deactivating
  | .deactivating => { s with sessionActive := false }.goto t .completing
  | .completing => { s with sessionComplete := true }.goto t .idle
  | .stopping quit =>
    if s.server.runState = .finalizing then s.goto t (.stopRequesting quit)
    else if s.server.runState = .acquiring then s.goto t (.stopSending quit)
    -- "Nothing to stop"
    else s.goto t (afterStop quit)
  | .stopSending quit => s.send t (stopCall now) (.stopRequesting quit) (afterStop quit)
  | .stopRequesting quit => { s with stopRequested := true }.goto t (afterStop quit)
  | .quitting => s.send t (quitCall now) (.stopping true) .idle

def step : SessionAction → SessionControl
  | .command t command => if s.tasks t = .idle then s.goto t command.task else s
  | .advance t now owner ending => s.advance t now owner ending
  | .server op => if op.elsewhere then { s with server := s.server.step op } else s
  | .clientsLost => { s with stopRequested := true }

end SessionControl

end MultiDAQ.Server
