import MultiDAQ.Common.Message
import MultiDAQ.Server.Registry

/-!
# The handshake on the control plane

`ControlPlaneManager` (`server/communication/control_manager.py`). The I/O loop serves the messages
of all clients, each against the session of its client; `handshake_core` goes through the handshake
of one client and waits for every message of it. Both end in `add_client`. The other threads change
the server state at any time, also between the last check of an identity and the admission.
-/

namespace MultiDAQ.Server

open MultiDAQ.Lib MultiDAQ.Common

/-! ## Messages -/

/-- The messages of the client, in order. The last one is `"end"`. -/
inductive HandshakePhase
  | hello
  | ready
  | startupAck
  | conclusion
  deriving DecidableEq, Repr

def HandshakePhase.text : HandshakePhase → String
  | .hello => "hello"
  | .ready => "ready"
  | .startupAck => "startup_ack"
  | .conclusion => "end"

def HandshakePhase.expectedMessage : HandshakePhase → String
  | .hello => "Ping"
  | .ready => "Ready"
  | .startupAck => "Identity"
  | .conclusion => "Conclusion_ack"

/-- `self._handshake_handlers.get(message.phase)`. -/
def HandshakePhase.ofText (phase : Option String) : Option HandshakePhase :=
  [.hello, .ready, .startupAck, .conclusion].find? fun p => phase = some p.text

/-- The entries of a payload that the handshake reads. `message` is nothing if it is no text, and
`identity` if it is no dictionary. -/
structure HandshakePayload where
  message : Option String := none
  identity : Option Identity := none
  deriving DecidableEq, Repr

abbrev HandshakeMessage := ProtocolMessage HandshakePayload

/-- `_check_handshake_message`: whether it has nothing to object to. -/
def checkHandshakeMessage (message : HandshakeMessage) (phase : HandshakePhase)
    (inReplyTo : Option String) : Bool :=
  (inReplyTo = none ∨ message.inReplyTo = inReplyTo) ∧ message.msgType = .handshake ∧
    message.phase = some phase.text ∧ message.payload.message = some phase.expectedMessage

/-! ## Identities -/

/-- `not value` is false. -/
def given (value : Option PyValue) : Bool := value.any (·.truthy)

/-- `str(identity.get("multipmt_id"))`. -/
def Identity.multipmtText (identity : Identity) : String :=
  match identity.multipmtId with
  | some multipmtId => multipmtId.text
  | none => "None"

/-- `get_client_id_by_multipmt_id`, for the `str()` of its argument. -/
def ServerState.getClientIdByMultipmtId (s : ServerState) (target : String) : Option ClientId :=
  (s.clients.keysWhere fun r => r.identity.any fun i => i.multipmtText = target).head?

/-- `_validate_handshake_identity`: whether it has nothing to object to. -/
def ServerState.validateHandshakeIdentity (s : ServerState) (cid : ClientId) :
    Option Identity → Bool
  | none => false
  | some identity =>
    given identity.multipmtId && given identity.batchId && given identity.macAddress &&
      match s.getClientIdByMultipmtId identity.multipmtText with
      | none => true
      | some existing => existing = cid

/-! ## The state -/

structure ControlHandshakeSession where
  phase : HandshakePhase
  lastSentRequestId : String
  deadline : Rat
  identity : Option Identity := none
  deriving DecidableEq

/-- What the I/O loop does between two messages: nothing, or the end of `_on_end`. -/
inductive ControlIo
  | idle
  | admitting (cid : ClientId) (identity : Identity)
  deriving DecidableEq

/-- Where `handshake_core` is, with the id of the message it has sent. -/
inductive BlockingHandshake
  | idle
  | sentAlive (cid : ClientId) (requestId : String)
  | sentStartup (cid : ClientId) (requestId : String)
  | sentEnd (cid : ClientId) (identity : Identity) (requestId : String)
  | admitting (cid : ClientId) (identity : Identity)
  deriving DecidableEq

/-- The two ways to be admitted. -/
inductive HandshakePath
  | session
  | blocking
  deriving DecidableEq, Repr

/-- What is noted of the handshakes. -/
inductive HandshakeEvent
  /-- A message was accepted; `answer` is the id of the message sent in return, if there is one. -/
  | accepted (path : HandshakePath) (cid : ClientId) (phase : HandshakePhase)
      (inReplyTo answer : Option String)
  /-- The handshake that was open is given up. -/
  | dropped (path : HandshakePath) (cid : ClientId)
  | admitted (path : HandshakePath) (cid : ClientId)
  /-- The server has been started again. -/
  | restarted
  deriving DecidableEq, Repr

structure ControlPlane where
  serverState : ServerState
  handshakeSessions : Dict ClientId ControlHandshakeSession := .empty
  io : ControlIo := .idle
  blocking : BlockingHandshake := .idle
  /-- The latest event is the first. -/
  history : List HandshakeEvent := []

/-- What a handler meets: the id of the message it creates, whether it can be sent, the time, and
what the MAC registry returns (nothing also when it raises). -/
structure HandshakeTurn where
  requestId : String
  sent : Bool := true
  now : Rat := 0
  macClientId : Option Int := none

inductive ControlAction
  /-- The I/O loop has received a message. -/
  | receive (cid : ClientId) (message : HandshakeMessage) (turn : HandshakeTurn)
  /-- The I/O loop completes an admission. -/
  | admitClient (now : Nat)
  | expire (now : Rat)
  /-- `start_connection`, `stop_listener` or `close_connection`. -/
  | clearSessions
  /-- `handshake_core` has received a message, or nothing that is one. -/
  | receiveBlocking (received : Option (ClientId × HandshakeMessage)) (turn : HandshakeTurn)
  | admitBlocking (now : Nat)
  /-- An operation of another thread, or of the loss of a client. -/
  | other (op : ServerOp)
  | restart (mode : String)

namespace ControlPlane

def handshakeStepTimeout : Rat := 20

variable (s : ControlPlane)

/-! ## The sessions -/

/-- `self._handshake_sessions.pop(client_id, None)`. -/
def drop (cid : ClientId) : ControlPlane :=
  { s with
    handshakeSessions := s.handshakeSessions.erase cid
    history := .dropped .session cid :: s.history }

/-- A message was accepted and answered. -/
def advance (cid : ClientId) (session : ControlHandshakeSession) (message : HandshakeMessage)
    (turn : HandshakeTurn) (phase : HandshakePhase) : ControlPlane :=
  { s with
    handshakeSessions := s.handshakeSessions.set cid
      { session with
        phase, lastSentRequestId := turn.requestId, deadline := turn.now + handshakeStepTimeout }
    history := .accepted .session cid phase message.inReplyTo (some turn.requestId) :: s.history }

/-- `_on_hello`. -/
def onHello (cid : ClientId) (message : HandshakeMessage) (turn : HandshakeTurn) : ControlPlane :=
  if !checkHandshakeMessage message .hello none then s.drop cid
  else if !turn.sent then s.drop cid
  else
    let session : ControlHandshakeSession :=
      { phase := .hello, lastSentRequestId := turn.requestId, deadline := turn.now }
    s.advance cid session message turn .hello

/-- `_on_ready`. -/
def onReady (cid : ClientId) (session : ControlHandshakeSession) (message : HandshakeMessage)
    (turn : HandshakeTurn) : ControlPlane :=
  if !checkHandshakeMessage message .ready (some session.lastSentRequestId) then s.drop cid
  else if !turn.sent then s.drop cid
  else s.advance cid session message turn .ready

/-- `_on_startup_ack`. -/
def onStartupAck (cid : ClientId) (session : ControlHandshakeSession) (message : HandshakeMessage)
    (turn : HandshakeTurn) : ControlPlane :=
  if !checkHandshakeMessage message .startupAck (some session.lastSentRequestId) then s.drop cid
  else if !s.serverState.validateHandshakeIdentity cid message.payload.identity then s.drop cid
  else if turn.macClientId = none ∨ !turn.sent then s.drop cid
  else s.advance cid { session with identity := message.payload.identity } message turn .startupAck

/-- `_on_end`, until the identity is checked. -/
def onEnd (cid : ClientId) (session : ControlHandshakeSession) (message : HandshakeMessage) :
    ControlPlane :=
  if !checkHandshakeMessage message .conclusion (some session.lastSentRequestId) then s.drop cid
  else if !s.serverState.validateHandshakeIdentity cid session.identity then s.drop cid
  else match session.identity with
    | none => s.drop cid
    | some identity => { s with
        io := .admitting cid identity
        history := .accepted .session cid .conclusion message.inReplyTo none :: s.history }

/-- `_handle_handshake_message`. -/
def handleHandshakeMessage (cid : ClientId) (message : HandshakeMessage) (turn : HandshakeTurn) :
    ControlPlane :=
  match HandshakePhase.ofText message.phase, s.handshakeSessions.get? cid with
  | none, _ => s
  | some .hello, _ => s.onHello cid message turn
  | some .ready, some session => s.onReady cid session message turn
  | some .startupAck, some session => s.onStartupAck cid session message turn
  | some .conclusion, some session => s.onEnd cid session message
  | some _, none => s

/-- `_expire_handshake_sessions`, and the removal of all sessions. -/
def dropWhere (p : ControlHandshakeSession → Bool) : ControlPlane :=
  (s.handshakeSessions.keysWhere p).foldl drop s

/-- The rest of `_on_end`: an exception of `add_client` closes the session. -/
def admitSession (now : Nat) : ControlPlane :=
  match s.io with
  | .idle => s
  | .admitting cid identity =>
    match s.serverState.addControlClient (.bytes cid) (some identity) now with
    | none => { s.drop cid with io := .idle }
    | some serverState => { s with
        serverState
        handshakeSessions := s.handshakeSessions.erase cid
        io := .idle
        history := .admitted .session cid :: s.history }

/-! ## `handshake_core` -/

/-- `handshake_core` returns False. -/
def abort (cid : ClientId) : ControlPlane :=
  { s with blocking := .idle, history := .dropped .blocking cid :: s.history }

/-- A message of `handshake_core` is accepted. -/
def goOn (cid : ClientId) (message : HandshakeMessage) (phase : HandshakePhase)
    (answer : Option String) (blocking : BlockingHandshake) : ControlPlane :=
  { s with
    blocking
    history := .accepted .blocking cid phase message.inReplyTo answer :: s.history }

/-- The steps of `handshake_core` that end with the reception of a message. -/
def receiveBlocking (received : Option (ClientId × HandshakeMessage)) (turn : HandshakeTurn) :
    ControlPlane :=
  match s.blocking, received with
  | .idle, none => s
  | .idle, some (cid, message) =>
    if checkHandshakeMessage message .hello none ∧ turn.sent then
      s.goOn cid message .hello (some turn.requestId) (.sentAlive cid turn.requestId)
    else s
  | .sentAlive cid _, none | .sentStartup cid _, none | .sentEnd cid _ _, none => s.abort cid
  | .sentAlive cid requestId, some (sender, message) =>
    if sender = cid ∧ checkHandshakeMessage message .ready (some requestId) ∧ turn.sent then
      s.goOn cid message .ready (some turn.requestId) (.sentStartup cid turn.requestId)
    else s.abort cid
  | .sentStartup cid requestId, some (sender, message) =>
    match message.payload.identity with
    | none => s.abort cid
    | some identity =>
      if sender = cid ∧ checkHandshakeMessage message .startupAck (some requestId) ∧
          s.serverState.validateHandshakeIdentity cid (some identity) ∧ turn.macClientId ≠ none ∧
          turn.sent then
        s.goOn cid message .startupAck (some turn.requestId) (.sentEnd cid identity turn.requestId)
      else s.abort cid
  | .sentEnd cid identity requestId, some (sender, message) =>
    if sender = cid ∧ checkHandshakeMessage message .conclusion (some requestId) then
      s.goOn cid message .conclusion none (.admitting cid identity)
    else s.abort cid
  -- it is not waiting for a message
  | .admitting _ _, _ => s

/-- The end of `handshake_core`. The identity is not checked again. -/
def admitBlocking (now : Nat) : ControlPlane :=
  match s.blocking with
  | .admitting cid identity =>
    match s.serverState.addControlClient (.bytes cid) (some identity) now with
    | none => s.abort cid
    | some serverState => { s with
        serverState
        blocking := .idle
        history := .admitted .blocking cid :: s.history }
  | _ => s

/-! ## Steps -/

/-- The control plane when the server has started. -/
def started (mode : String) : ControlPlane := { serverState := ServerState.init mode }

/-- The I/O loop takes a message only when it is done with the one before. Clients are added by the
handshakes alone. -/
def step : ControlAction → ControlPlane
  | .receive cid message turn =>
    if s.io = .idle ∧ message.msgType = .handshake then s.handleHandshakeMessage cid message turn
    else s
  | .admitClient now => s.admitSession now
  | .expire now => if s.io = .idle then s.dropWhere fun session => session.deadline < now else s
  | .clearSessions => s.dropWhere fun _ => true
  | .receiveBlocking received turn => s.receiveBlocking received turn
  | .admitBlocking now => s.admitBlocking now
  | .other (.addControlClient ..) => s
  | .other op => { s with serverState := s.serverState.step op }
  | .restart mode => { started mode with history := .restarted :: s.history }

end ControlPlane

end MultiDAQ.Server
