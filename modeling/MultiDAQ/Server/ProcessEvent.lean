import MultiDAQ.Server.State
import MultiDAQ.Lib.PyText

/-!
# `ServerState.process_event` and `ServerState.process_client_event`

Both functions return whether the event was accepted. A rejected `process_event` returns the state
as it is at the `return False`, with whatever has been assigned before it: the stages below follow
the order of the assignments of the source.
-/

namespace MultiDAQ.Server

open MultiDAQ.Lib

/-! ## Arguments -/

/-- A string with something other than blanks in it; `none` is an argument that is no string. -/
def nonBlank : Option String → Option String
  | none => none
  | some s => if (strip s).isEmpty then none else some (strip s)

/-- The arguments of a call of `process_event`. An argument of the wrong type is `none`. -/
structure EventCall where
  event : Option ServerFSMEvent
  reason : Option String
  source : Option String
  clientId : Option ClientId := none
  error : Option String := none
  metadata : EventMetadata := {}
  requestedTerminalState : Option (Option ServerFSM) := none
  now : Nat := 0
  deriving DecidableEq, Repr

/-- `_ALLOWED_PENDING_TERMINAL_STATES`. -/
def allowedPendingTerminalStates : List ServerFSM :=
  [.ready, .disconnected, .controlConnected, .connected, .error]

/-- A requested terminal state is one that a finalization may end in. -/
def EventCall.terminalOk (c : EventCall) : Bool :=
  match c.requestedTerminalState with
  | none => true
  | some none => false
  | some (some t) => allowedPendingTerminalStates.contains t

/-- The checks of the arguments; on success the event and the context `_build_event_context` makes. -/
def EventCall.validated (c : EventCall) : Option (ServerFSMEvent × EventContext) :=
  match c.event, nonBlank c.reason, nonBlank c.source with
  | some event, some reason, some source =>
    if c.terminalOk then
      some (event,
        { event := .inl event, reason := reason, source := source, clientId := c.clientId
          error := c.error, metadata := c.metadata, timestamp := c.now })
    else none
  | _, _, _ => none

/-- `isinstance(client_id, bytes)` and not empty. -/
def PyId.toClientId : PyId → Option ClientId
  | .bytes [] => none
  | .bytes (b :: bs) => some (b :: bs)
  | .other _ => none

/-- `_normalize_client_ids`: without repetitions, in the order of the first occurrences; `none` is
the `ValueError` for an invalid id. -/
def normalizeClientIds : Option (List PyId) → Option (List ClientId)
  | none => some []
  | some ids => ids.eraseDups.mapM PyId.toClientId

/-- `set(a) == set(b)`. -/
def sameIds (a b : List ClientId) : Bool :=
  a.all (b.contains ·) && b.all (a.contains ·)

namespace ServerState

/-! ## Validation of a configuration result -/

/-- A client lost during the configuration is dropped from its result; if no successful client is
left, the event becomes `CONFIGURATION_FAILED`. `none` is a rejected result. -/
def dropLostClients (s : ServerState) (event : ServerFSMEvent) (metadata : EventMetadata)
    (next : ServerFSM) : Option (ServerFSMEvent × EventMetadata × ServerFSM) :=
  if s.runState = .configuring ∧
      (event = .configurationSucceeded ∨ event = .configurationFailed) then
    let expected := s.listClientsInState .configuring
    match normalizeClientIds (metadata.successfulClients.get []),
      normalizeClientIds (metadata.failedClients.get []) with
    | some successful, some failed =>
      if (successful ++ failed).all (expected.contains ·) then some (event, metadata, next)
      else
        let successful := successful.filter (expected.contains ·)
        let failed := failed.filter (expected.contains ·)
        let metadata := { metadata with
          successfulClients := .ids (successful.map .bytes)
          failedClients := .ids (failed.map .bytes) }
        if event = .configurationSucceeded ∧ successful = [] then
          some (.configurationFailed, metadata, .connected)
        else some (event, metadata, next)
    | _, _ => none
  else some (event, metadata, next)

/-! ## Assignments before the validation of the client lists -/

/-- The terminal state of a finalization that `event` starts, or changes. -/
def terminalStateOf (event : ServerFSMEvent) (requested : Option ServerFSM) : ServerFSM :=
  match event with
  | .disconnectRequested => .disconnected
  | .controlConnectionLost => .disconnected
  | .acquisitionConnectionLost => .controlConnected
  | _ => requested.getD .ready

/-- The pending transition is recorded when the event leads to `FINALIZING`; any other event with a
requested terminal state is rejected (`none`). -/
def notePending (s : ServerState) (event : ServerFSMEvent) (next : ServerFSM)
    (context : EventContext) (requested : Option ServerFSM) : Option ServerState :=
  if next = .finalizing then
    some { s with
      pendingEvent := some event
      pendingTerminalState := some (terminalStateOf event requested)
      pendingContext := some context }
  else if requested.isSome then none
  else some s

/-- The configuration source is recorded before the targets are validated. -/
def noteSource (s : ServerState) (event : ServerFSMEvent) (next : ServerFSM) : ServerState :=
  if event = .configurationStarted ∧ next = .configuring then
    { s with pendingConfigurationSource := some s.runState }
  else s

/-- The two replacements of the static target of the transition table. -/
def resolveNext (s : ServerState) (event : ServerFSMEvent) (next : ServerFSM) : ServerFSM :=
  let next :=
    if s.runState = .configuring ∧ event = .configurationFailed then
      s.pendingConfigurationSource.getD .connected
    else next
  if s.runState = .finalizing ∧ (event = .finalizationSucceeded ∨ event = .finalizationFailed) then
    s.pendingTerminalState.getD next
  else next

/-! ## The updates of the clients, one definition for each branch; `none` is a rejection -/

def applyConfigurationStarted (s : ServerState) (context : EventContext) : Option ServerState :=
  match normalizeClientIds
      (context.metadata.targetClients.get (s.commonPlaneClientIds.map .bytes)) with
  | none => none
  | some targets =>
    if targets.all (s.commonPlaneClientIds.contains ·) ∧ targets ≠ [] then
      let isPartial := context.metadata.isPartial.getD false
      let s := { s with pendingConfigurationPartial := isPartial }
      let s := if isPartial then s.markOperational targets false else s.clearOperational
      some (s.setClientStates targets .configuring context)
    else none

def applyConfigurationSucceeded (s : ServerState) (context : EventContext) :
    Option ServerState :=
  match normalizeClientIds (context.metadata.successfulClients.get []),
    normalizeClientIds (context.metadata.failedClients.get []) with
  | some successful, some failed =>
    if successful = [] then none
    else if successful.any (failed.contains ·) then none
    else if !sameIds (successful ++ failed) (s.listClientsInState .configuring) then none
    else if !successful.all (s.commonPlaneClientIds.contains ·) then none
    else
      let s :=
        if s.pendingConfigurationPartial then s.markOperational successful true
        else s.setOperational successful
      some ((s.setClientStates successful .ready context).setClientStates failed .error context)
  | _, _ => none

def applyConfigurationFailed (s : ServerState) (context : EventContext) : Option ServerState :=
  match normalizeClientIds (context.metadata.failedClients.get
      ((s.listClientsInState .configuring).map .bytes)) with
  | none => none
  | some failed =>
    if !sameIds failed (s.listClientsInState .configuring) then none
    else
      let s :=
        if s.pendingConfigurationPartial then s.markOperational failed false
        else s.clearOperational
      some (s.setClientStates failed .error context)

/-- A client an acquisition can start with: operational and READY. -/
def isStartable (s : ServerState) (cid : ClientId) : Bool :=
  s.operationalClientIds.contains cid &&
    match s.clients.get? cid with
    | none => false
    | some r => r.state == .ready

def applyAcquisitionStarted (s : ServerState) (context : EventContext) : Option ServerState :=
  match normalizeClientIds
      (context.metadata.activeClients.get (s.operationalClientIds.map .bytes)) with
  | none => none
  | some active =>
    if active = [] then none
    else if !active.all s.isStartable then none
    else some ((s.setOperational active).setClientStates active .acquiring context)

def applyFatalError (s : ServerState) (context : EventContext) : ServerState :=
  (s.setClientStates s.operationalClientIds .error context).clearOperational

def applyFinalizing (s : ServerState) (context : EventContext) : ServerState :=
  s.setClientStates s.operationalClientIds .finalizing context

/-- The loops of the finalization that drop the operational flag and move each client to a state. -/
def releaseClients (s : ServerState) (ids : List ClientId) (target : ClientRecord → ClientFSM)
    (context : EventContext) : ServerState :=
  ids.foldl (fun s cid =>
    { s with clients := s.clients.modify cid fun r =>
        { r with operational := false }.setState (target r) context }) s

def applyFinalization (s : ServerState) (context : EventContext) : ServerState :=
  let operational := s.operationalClientIds
  match s.pendingTerminalState.getD .ready with
  | .ready => s.setClientStates operational .ready context
  | .controlConnected =>
    s.releaseClients operational
      (fun r => if r.onControlPlane then .connected else .disconnected) context
  | .disconnected => s.releaseClients operational (fun _ => .disconnected) context
  | .connected => s.releaseClients operational (fun _ => .connected) context
  | .error => s.releaseClients operational (fun _ => .error) context
  | _ => s

def applyEvent (s : ServerState) (event : ServerFSMEvent) (next : ServerFSM)
    (context : EventContext) : Option ServerState :=
  match event with
  | .configurationStarted => s.applyConfigurationStarted context
  | .configurationSucceeded => s.applyConfigurationSucceeded context
  | .configurationFailed => s.applyConfigurationFailed context
  | .acquisitionStarted => s.applyAcquisitionStarted context
  | .fatalError => some (s.applyFatalError context)
  | _ =>
    if next = .finalizing then some (s.applyFinalizing context)
    else if s.runState = .finalizing ∧
        (event = .finalizationSucceeded ∨ event = .finalizationFailed) then
      some (s.applyFinalization context)
    else some s

/-! ## The transition -/

/-- The assignments after the clients are updated. -/
def commit (s : ServerState) (present : ServerFSM) (event : ServerFSMEvent) (next : ServerFSM)
    (context : EventContext) : ServerState :=
  let finalized := present = .finalizing ∧
    (event = .finalizationSucceeded ∨ event = .finalizationFailed ∨ event = .fatalError)
  let configured := present = .configuring ∧
    (event = .configurationSucceeded ∨ event = .configurationFailed)
  { s with
    previousState := some present
    runState := next
    lastEventContext := some (.event context)
    errorContext :=
      if next = .error then some { context := context, previousState := present }
      else s.errorContext
    pendingEvent := if finalized then none else s.pendingEvent
    pendingTerminalState := if finalized then none else s.pendingTerminalState
    pendingContext := if finalized then none else s.pendingContext
    pendingConfigurationSource := if configured then none else s.pendingConfigurationSource
    pendingConfigurationPartial := if configured then false else s.pendingConfigurationPartial }

/-- The part of `process_event` after the first validation, on the event it goes on with. -/
def transition (s : ServerState) (event : ServerFSMEvent) (next : ServerFSM)
    (context : EventContext) (requested : Option ServerFSM) : Bool × ServerState :=
  match s.notePending event next context requested with
  | none => (false, s)
  | some s₁ =>
    let s₂ := s₁.noteSource event next
    let next := s₂.resolveNext event next
    match s₂.applyEvent event next context with
    | none => (false, s₂)
    | some s₃ => (true, s₃.commit s.runState event next context)

/-- `process_event`. -/
def processEvent (s : ServerState) (c : EventCall) : Bool × ServerState :=
  match c.validated with
  | none => (false, s)
  | some (event, context) =>
    match transitionTable s.runState event with
    | none => (false, s)
    | some next =>
      match s.dropLostClients event context.metadata next with
      | none => (false, s)
      | some (event, metadata, next) =>
        s.transition event next { context with event := .inl event, metadata := metadata }
          (c.requestedTerminalState.getD none)

/-! ## `process_client_event` -/

end ServerState

/-- The arguments of a call of `process_client_event`. An argument of the wrong type is `none`. -/
structure ClientEventCall where
  clientId : PyId
  event : Option ClientFSMEvent
  reason : Option String
  source : Option String
  error : Option String := none
  metadata : EventMetadata := {}
  now : Nat := 0
  deriving DecidableEq, Repr

/-- What an accepted client event does to the record. -/
def ClientRecord.applyClientEvent (r : ClientRecord) (next : ClientFSM) (context : EventContext) :
    ClientRecord :=
  { r with
    previousState := some r.state
    state := next
    lastEventContext := some context
    errorContext :=
      if next = .error then some { context := context, previousState := r.state }
      else r.errorContext }

namespace ServerState

/-- `process_client_event`. -/
def processClientEvent (s : ServerState) (c : ClientEventCall) : Bool × ServerState :=
  match c.clientId.toClientId, c.event, nonBlank c.reason, nonBlank c.source with
  | some cid, some event, some reason, some source =>
    let context : EventContext :=
      { event := .inr event, reason := reason, source := source, clientId := some cid
        error := c.error, metadata := c.metadata, timestamp := c.now }
    match s.clients.get? cid with
    | none => (false, s)
    | some r =>
      match transitionTableClient r.state event with
      | none => (false, s)
      | some next =>
        (true, { s with clients := s.clients.modify cid fun r => r.applyClientEvent next context })
  | _, _, _, _ => (false, s)

end ServerState

end MultiDAQ.Server
