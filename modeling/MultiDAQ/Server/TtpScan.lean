import MultiDAQ.Server.AcquisitionSession

/-!
# The loop of a time-to-peak scan

`_run_ttp_scan_loop` of `server/services/calibration_orchestrator.py`: for every value register 10 of
the clients is written, and a session is run with those that accepted it. The scan ends at the first
point that finds the server no longer acquiring, and then closes its session.
-/

namespace MultiDAQ.Server

open MultiDAQ.Lib MultiDAQ.Lib.Recorder

namespace CalibrationOrchestrator

open AcquisitionSession

/-- The arguments of `scan_ttp` that the loop reads. -/
structure ScanArgs (α : Type) where
  acqType : String
  fileFormat : String
  runId : Option String
  duration : Option ℚ
  runFolders : Dict α String

variable {α : Type} [DecidableEq α]

/-- `_set_ttp_register`: the clients that accepted the value. -/
def setTtpRegister (clients : List α) (ttpValue : Int) : SessionM α (List α) :=
  foldEach clients [] fun ready client => do
    if ← writeRcRegister client 10 ttpValue then pure (ready ++ [client])
    else pure ready

/-- The session of one point. -/
def pointParams (args : ScanArgs α) (ttpValue : Int) (isLastPoint : Bool) : SessionParams α where
  acqType := args.acqType
  fileFormat := args.fileFormat
  acqTypeParam := some ttpValue
  suffix := s!"ttp_{ttpValue}"
  runId := args.runId
  runFolders := some args.runFolders
  duration := args.duration
  resetTriggerConfig := isLastPoint

/-- The rounds of the loop: whether every point so far has succeeded. -/
def runPoints (args : ScanArgs α) (clients : List α) : List Int → Bool → SessionM α Bool
  | [], overallSuccess => pure overallSuccess
  | ttpValue :: rest, overallSuccess => do
    let state : ServerFSM ← ask (SessionCall.serverState : SessionCall α)
    if state ≠ .acquiring then pure overallSuccess
    else
      let ready ← setTtpRegister clients ttpValue
      -- a point that no client accepts is skipped, and is no failure
      if ready.isEmpty then runPoints args clients rest overallSuccess
      else
        let result ← runAcquisitionSession (pointParams args ttpValue rest.isEmpty) ready
        runPoints args clients rest (overallSuccess && sessionSuccess result)

/-- The stop of a scan that nothing has stopped. -/
def stopScan : SessionM α Unit := do
  let state : ServerFSM ← ask (SessionCall.serverState : SessionCall α)
  if state = .acquiring then discard (ask (SessionCall.processEvent .stopRequested : SessionCall α))
  else pure ()

/-- `_run_ttp_scan_loop`. -/
def runTtpScanLoop (args : ScanArgs α) (clients : List α) (ttpValues : List Int) :
    SessionM α Unit := do
  let overallSuccess ← runPoints args clients ttpValues true
  stopScan
  ask (SessionCall.closeSession overallSuccess : SessionCall α)

end CalibrationOrchestrator

end MultiDAQ.Server
