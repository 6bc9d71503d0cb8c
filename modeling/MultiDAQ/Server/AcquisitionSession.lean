import Mathlib.Data.Rat.Defs
import MultiDAQ.Lib.Dict
import MultiDAQ.Lib.Recording
import MultiDAQ.Server.FlushClient
import MultiDAQ.Server.State
import MultiDAQ.Server.TriggerConfiguration

/-!
# One acquisition session

`run_acquisition_session` of `server/services/acquisition_service.py`, with what it calls: the start
of the prepared clients, the wait, and the finalization. The calls go to the clients (registers), to
the receiver (files and producers), to the registry (numeric ids) and to what the session shares with
other threads under `_session_lock`; any of them may be answered in any way, or raise. `flush_client`
is one call here.
-/

namespace MultiDAQ.Server

open MultiDAQ.Lib MultiDAQ.Lib.Interaction MultiDAQ.Lib.Recorder
open AcquisitionService (PyError RegisterValue bitAnd)

namespace AcquisitionSession

/-- A value of the metadata of a run. -/
inductive MetaValue
  | int (n : Int)
  | float (x : ℚ)
  | str (s : String)
  deriving DecidableEq, Repr

abbrev Metadata := Dict String MetaValue

/-- The arguments of a session. -/
structure SessionParams (α : Type) where
  acqType : String
  fileFormat : String := "csv"
  acqTypeParam : Option Int := none
  suffix : String := ""
  runId : Option String := none
  /-- `run_folder_clients`. -/
  runFolders : Option (Dict α String) := none
  duration : Option ℚ := none
  resetTriggerConfig : Bool := true
  /-- A callback `on_duration_elapsed` is there. -/
  notifies : Bool := false

/-- What is sent with OPEN, apart from the client. -/
structure OpenRequest where
  metadata : Metadata
  acqType : String
  fileFormat : String
  suffix : String
  runId : Option String
  runFolder : Option String
  deriving DecidableEq

/-- What the receiver is told about one numeric id. -/
inductive ReceiverCommand (α : Type)
  | openFile (client : α) (request : OpenRequest)
  | closeFile
  | startProducer
  | stopProducer
  deriving DecidableEq

inductive SessionCall (α : Type)
  | resolveNumericId (client : α)
  /-- `_session_clients = set(client_ids)`. -/
  | registerClients (clients : List α)
  | buildRunMetadata (clients : List α) (acqType : String) (acqTypeParam : Option Int)
      (runId : Option String)
  /-- `_prepared_rc19.get(client_id)`. -/
  | preparedRc19 (client : α)
  | readRcRegister (client : α) (address : Nat)
  | writeRcRegister (client : α) (address : Nat) (value : Int)
  | setRcAcquisitionRegisters (client : α) (registers : TriggerRegisters)
  | flushClient (client : α)
  | isStopRequested
  | receiver (numericId : String) (command : ReceiverCommand α)
  /-- `_acquiring_clients = set(...)`, and whether all of them are lost already. -/
  | publishAcquiring (clients : List α)
  | requestStop
  /-- `_stop_requested.wait`: whether the stop was requested. -/
  | waitStop (timeout : Option ℚ)
  | onDurationElapsed
  /-- `dict(_lost_clients)`. -/
  | readLosses
  /-- What `finally` clears. -/
  | clearSession
  -- what a scan over several sessions calls
  | serverState
  | processEvent (event : ServerFSMEvent)
  | closeSession (success : Bool)
  deriving DecidableEq

def SessionCall.Value {α : Type} : SessionCall α → Type
  | .resolveNumericId _ => Option String
  | .buildRunMetadata .. => Dict α Metadata
  | .preparedRc19 _ | .readRcRegister .. => Option RegisterValue
  | .writeRcRegister .. | .setRcAcquisitionRegisters .. | .flushClient _ => Bool
  | .isStopRequested | .receiver .. | .publishAcquiring _ | .waitStop _ => Bool
  | .readLosses => Dict α String
  | .serverState => ServerFSM
  | .processEvent _ => Bool
  | .registerClients _ | .requestStop | .onDurationElapsed | .clearSession => Unit
  | .closeSession _ => Unit

/-- Who answers the calls of a session. -/
abbrev Peers (α : Type) : Type := Device (SessionCall α) SessionCall.Value PyError

abbrev SessionExchange (α : Type) : Type := Exchange (SessionCall α) SessionCall.Value PyError

abbrev SessionM (α β : Type) : Type := Recorder (SessionCall α) SessionCall.Value PyError β

/-- `AcquisitionClientResult`. -/
structure ClientResult where
  opened : Bool := false
  finalized : Bool := false
  success : Bool := false
  error : Option String := none
  deriving DecidableEq, Repr

variable {α : Type} [DecidableEq α]

/-! ## The calls -/

def resolveNumericId (client : α) : SessionM α (Option String) :=
  ask (SessionCall.resolveNumericId client)

def readRcRegister (client : α) (address : Nat) : SessionM α (Option RegisterValue) :=
  ask (SessionCall.readRcRegister client address)

def writeRcRegister (client : α) (address : Nat) (value : Int) : SessionM α Bool :=
  ask (SessionCall.writeRcRegister client address value)

def flushClient (client : α) : SessionM α Bool := ask (SessionCall.flushClient client)

def stopRequested : SessionM α Bool := ask (SessionCall.isStopRequested : SessionCall α)

def tellReceiver (numericId : String) (command : ReceiverCommand α) : SessionM α Bool :=
  ask (SessionCall.receiver numericId command)

def waitStop (timeout : Option ℚ) : SessionM α Bool :=
  ask (SessionCall.waitStop timeout : SessionCall α)

/-! ## The steps of one client -/

/-- `except Exception`. -/
def exceptException {β : Type} (p : SessionM α β) (handler : SessionM α β) : SessionM α β :=
  tryExcept p fun
    | .exception => handler
    | .baseException => raise .baseException

/-- `_run_client_step`. -/
def runClientStep (action : SessionM α Bool) : SessionM α Bool :=
  exceptException action (pure false)

/-- `value & mask`. -/
def maskedBits (mask : Nat) : RegisterValue → SessionM α Nat
  | .int n => pure (bitAnd n mask)
  | .other => raise .exception

/-- The client's numeric id is looked up, and the receiver told about it. -/
def viaNumericId (client : α) (command : ReceiverCommand α) : SessionM α Bool := do
  match ← resolveNumericId client with
  | none => pure false
  | some numericId => tellReceiver numericId command

/-- `open_file_for_client`: whether OPEN_READY has been received. -/
def openFileForClient (client : α) (request : OpenRequest) : SessionM α Bool :=
  viaNumericId client (.openFile client request)

def closeFileForClient (client : α) : SessionM α Bool := viaNumericId client .closeFile

/-- The START of a client's producer. -/
def startProducer (client : α) : SessionM α Bool := viaNumericId client .startProducer

/-- `disable_rc_channels`, for given clients. -/
def disableRcChannels (clients : List α) : SessionM α Bool :=
  foldEach clients true fun overallSuccess client => do
    let ok ← writeRcRegister client 19 0
    pure (overallSuccess && ok)

/-- The registers of `configure_acquisition_end_client`. -/
def endRegisters : TriggerRegisters where
  reg15Mask := triggerReg15Mask
  reg15Value := 0
  registers := [(16, 0), (18, 0)]

def configureAcquisitionEndClient (client : α) : SessionM α Bool :=
  ask (SessionCall.setRcAcquisitionRegisters client endRegisters)

/-! ## The start -/

/-- The client is ready to be started with this mask, or why it is not. -/
def checkClient (metadata : Dict α Metadata) (client : α) : SessionM α (Except String Int) := do
  let prepared : Option RegisterValue ← ask (SessionCall.preparedRc19 client)
  match prepared with
  | some (.int mask) =>
    if ¬ (0 < mask ∧ mask ≤ 0x1FF) then pure (.error "missing or invalid prepared RC19 mask")
    else
      match ← readRcRegister client 19 with
      | none => pure (.error "RC19 must be disabled before OPEN_READY")
      | some current =>
        if (← maskedBits 0x1FF current) ≠ 0 then
          pure (.error "RC19 must be disabled before OPEN_READY")
        else if !metadata.contains client then pure (.error "missing run metadata")
        else if !(← runClientStep (flushClient client)) then
          pure (.error "pre-acquisition reset failed")
        else pure (.ok mask)
  | _ => pure (.error "missing or invalid prepared RC19 mask")

/-- The variables of the first loop of `_open_and_start_prepared_clients`. -/
structure Preparation (α : Type) where
  metadata : Dict α Metadata
  errors : Dict α String := .empty
  masks : Dict α Int := .empty

def prepareClient (p : Preparation α) (client : α) : SessionM α (Preparation α) := do
  match ← checkClient p.metadata client with
  | .error error => pure { p with errors := p.errors.set client error }
  | .ok mask =>
    pure { p with
      masks := p.masks.set client mask
      metadata := p.metadata.modify client (·.set "status_reg19" (.int mask)) }

/-- How the start of one client ends: whether its file is open, and the error if it has not
started. -/
structure StartOutcome where
  opened : Bool
  error : Option String
  deriving DecidableEq, Repr

def openRequest (s : SessionParams α) (client : α) (metadata : Metadata) : OpenRequest where
  metadata := metadata
  acqType := s.acqType
  fileFormat := s.fileFormat
  suffix := s.suffix
  runId := s.runId
  runFolder := s.runFolders.bind (·.get? client)

def startClient (client : α) (request : OpenRequest) (mask : Int) : SessionM α StartOutcome := do
  if ← stopRequested then pure ⟨false, some "stopped before OPEN_READY"⟩
  else if !(← openFileForClient client request) then do
    -- the reply may have been lost after the file was opened
    let _ ← closeFileForClient client
    pure ⟨false, some "OPEN_READY failed or not confirmed"⟩
  else if ← stopRequested then pure ⟨true, some "stopped before producer START"⟩
  else if !(← startProducer client) then
    pure ⟨true, some "producer START failed or not confirmed"⟩
  else if ← stopRequested then pure ⟨true, some "stopped before RC19 enable"⟩
  else if !(← writeRcRegister client 19 mask) then
    pure ⟨true, some "RC19 enable failed after producer START"⟩
  else pure ⟨true, none⟩

/-- What `_open_and_start_prepared_clients` returns. -/
structure Started (α : Type) where
  opened : List α := []
  acquiring : List α := []
  errors : Dict α String := .empty

def Started.note (s : Started α) (client : α) (o : StartOutcome) : Started α where
  opened := if o.opened then s.opened ++ [client] else s.opened
  acquiring := if o.error.isNone then s.acquiring ++ [client] else s.acquiring
  errors := match o.error with
    | none => s.errors
    | some error => s.errors.set client error

def openAndStartPreparedClients (s : SessionParams α) (clients : List α)
    (metadata : Dict α Metadata) : SessionM α (Started α) := do
  let p ← foldEach clients { metadata } prepareClient
  foldEach p.masks.entries { errors := p.errors } fun started e => do
    let request := openRequest s e.1 ((p.metadata.get? e.1).getD .empty)
    let o ← startClient e.1 request e.2
    pure (started.note e.1 o)

/-! ## The finalization -/

/-- A step of every client: where it fails, the result of the client is a failure. -/
def finalizeEach (step : α → SessionM α Bool) (clients : List α) (results : Dict α Bool) :
    SessionM α (Dict α Bool) :=
  foldEach clients results fun results client => do
    if ← runClientStep (step client) then pure results
    else pure (results.set client false)

/-- What a step of every client returned. -/
def resultsOf (step : α → SessionM α Bool) (clients : List α) : SessionM α (Dict α Bool) :=
  foldEach clients .empty fun results client => do
    let ok ← runClientStep (step client)
    pure (results.set client ok)

def flushClients (clients : List α) : SessionM α (Dict α Bool) :=
  resultsOf flushClient clients

def stopAcqAllClients (clients : List α) : SessionM α (Dict α Bool) :=
  resultsOf closeFileForClient clients

/-- The failures among `outcomes` are failures in `results`. -/
def noteFailures (results outcomes : Dict α Bool) : Dict α Bool :=
  outcomes.entries.foldl (fun results e => if e.2 then results else results.set e.1 false) results

/-- `{client_id: True for client_id in client_ids}`. -/
def allSucceeded (clients : List α) : Dict α Bool :=
  clients.foldl (fun d client => d.set client true) .empty

def runHardwareStopAndFlush (clients : List α) (resetTriggerConfig : Bool) :
    SessionM α (Dict α Bool) :=
  if clients.isEmpty then pure .empty
  else do
    let results ← finalizeEach (fun client => disableRcChannels [client]) clients
      (allSucceeded clients)
    let results := noteFailures results (← flushClients clients)
    let results ← if resetTriggerConfig then
        finalizeEach configureAcquisitionEndClient clients results
      else pure results
    pure (noteFailures results (← stopAcqAllClients clients))

def closeLostClient (numericId : Option String) : SessionM α Bool := do
  match numericId with
  | none => pure false
  | some numericId =>
    let _ ← runClientStep (tellReceiver numericId .stopProducer)
    runClientStep (tellReceiver numericId .closeFile)

/-! ## The session -/

/-- The stop of a session whose acquiring clients were all lost while starting. -/
def stopIfLost (lostWhileStarting : Bool) : SessionM α Unit :=
  if lostWhileStarting then note (SessionCall.requestStop : SessionCall α) () else pure ()

/-- The wait, if a client acquires. -/
def waitForEnd (s : SessionParams α) (acquiring : List α) : SessionM α Unit :=
  if acquiring.isEmpty then pure ()
  else
    match s.duration with
    | some duration =>
      if 0 < duration then do
        let stoppedEarly ← waitStop (some duration)
        if !stoppedEarly && s.notifies then
          exceptException (ask (SessionCall.onDurationElapsed : SessionCall α)) (pure ())
        else pure ()
      else discard (waitStop none)
    | none => discard (waitStop none)

/-- The session from the first client that acquires to the end of the wait: the losses. -/
def awaitEnd (s : SessionParams α) (acquiring : List α) : SessionM α (Dict α String) := do
  let lostWhileStarting : Bool ← ask (SessionCall.publishAcquiring acquiring)
  stopIfLost lostWhileStarting
  waitForEnd s acquiring
  ask (SessionCall.readLosses : SessionCall α)

/-- The body of `try`: the clients that were started, and the losses at the end of the wait, `none`
where no file could be opened. -/
def acquire (s : SessionParams α) (clients : List α) :
    SessionM α (Started α × Option (Dict α String)) := do
  let metadata : Dict α Metadata ←
    ask (SessionCall.buildRunMetadata clients s.acqType s.acqTypeParam s.runId)
  let started ← openAndStartPreparedClients s clients metadata
  if started.opened.isEmpty then pure (started, none)
  else
    let lost ← awaitEnd s started.acquiring
    pure (started, some lost)

/-- The `except` clause: every client is finalized, and the error raised again. -/
def finalizeAfterError {β : Type} (s : SessionParams α) (clients : List α) : SessionM α β := do
  exceptException (do
    let _ ← runHardwareStopAndFlush clients s.resetTriggerConfig
    pure ()) (pure ())
  raise .exception

/-- The finalization of the clients that are still there, and the short one of those that are
lost. -/
def finalize (s : SessionParams α) (numericIds : Dict α (Option String)) (opened : List α)
    (lost : Dict α String) : SessionM α (Dict α Bool) := do
  let alive := opened.filter (!lost.contains ·)
  let lostOpened := opened.filter (lost.contains ·)
  let results ← runHardwareStopAndFlush alive s.resetTriggerConfig
  foldEach lostOpened results fun results client => do
    let closed ← closeLostClient (numericIds.get? client).join
    pure (results.set client closed)

/-- The start of the client, as its result says. -/
def noteStart (started : Started α) (client : α) (r : ClientResult) : ClientResult :=
  { r with opened := started.opened.contains client, error := started.errors.get? client }

/-- The finalization of the client, as its result says. -/
def noteEnd (finalizeResults : Dict α Bool) (lost : Dict α String) (client : α)
    (r : ClientResult) : ClientResult :=
  let finalized := (finalizeResults.get? client).getD false
  match lost.get? client with
  | some plane =>
    { r with
      finalized
      success := false
      error := some s!"client lost during the acquisition ({plane})" }
  | none =>
    { r with
      finalized
      success := finalized && r.error.isNone
      error := if finalized then r.error else some "acquisition finalization failed" }

/-- `numeric_ids`. -/
def resolveNumericIds (clients : List α) : SessionM α (Dict α (Option String)) :=
  foldEach clients .empty fun ids client => do
    let numericId ← resolveNumericId client
    pure (ids.set client numericId)

/-- `{client_id: AcquisitionClientResult() for client_id in client_ids}`. -/
def initialResults (clients : List α) : Dict α ClientResult :=
  clients.foldl (fun d client => d.set client {}) .empty

/-- `run_acquisition_session`: the result of each client. -/
def runAcquisitionSession (s : SessionParams α) (clients : List α) :
    SessionM α (Dict α ClientResult) := do
  if clients.isEmpty then pure (initialResults clients)
  else
    let numericIds ← resolveNumericIds clients
    note (SessionCall.registerClients clients) ()
    let (started, lost?) ← tryFinally
      (exceptException (acquire s clients) (finalizeAfterError s clients)) (note (SessionCall.clearSession : SessionCall α) ())
    let clientResults := (initialResults clients).mapVals (noteStart started)
    match lost? with
    | none => pure clientResults
    | some lost =>
      let finalizeResults ← finalize s numericIds started.opened lost
      pure (started.opened.foldl
        (fun d client => d.modify client (noteEnd finalizeResults lost client)) clientResults)

/-- `AcquisitionSessionResult.success`. -/
def sessionSuccess (clients : Dict α ClientResult) : Bool :=
  !clients.entries.isEmpty && clients.entries.all (·.2.success)

end AcquisitionSession

end MultiDAQ.Server
